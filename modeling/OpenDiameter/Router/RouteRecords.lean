import OpenDiameter.Parser.EncodedContainers
import OpenDiameter.Router.RequestCases

/-!
The Route-Record list of a request on its way through relays: what a relay adds to the
message, what of it is in the bytes that are sent on, and where a loop is found.
-/

namespace OpenDiameter.Router

open OpenDiameter.Foundation OpenDiameter.Parser

section

variable {acl : AvpContainerList}

/-- The records of the container at a place. -/
def recordsAt (acl : AvpContainerList) (index : Nat) : List Octets :=
  match acl[index]? with
  | none => []
  | some container =>
    if container.avpName = AvpName.routeRecord then octetsOf container else []

/-- The Route-Record list in the bytes that a container list is encoded to. -/
def EncodesRecords (context : ParserContext) (depth : Nat) (rule : DiameterDictionary)
    (acl : AvpContainerList) (written : List UInt8) (records : List Octets) : Prop :=
  ∃ visits : List Visit, visits.map Visit.index = visited acl rule.ruleAvps ∧
    (∀ visit ∈ visits, visit.Writes context
      (QualifiedAvpListParser.parseAppToRaw context depth) rule.ruleAvps acl) ∧
    written = (visits.map fun visit => visit.pieces.flatten).flatten ∧
    records = visits.flatMap fun visit => recordsAt acl visit.index

/-- How often a rule lists the Route-Record. -/
def timesListed (members : List RuleAvp) : Nat :=
  members.countP fun member => member.avp.avpName == AvpName.routeRecord

theorem recordsAt_search {name : String} {container : AvpContainer}
    (found : acl.search name = some container) :
    ∃ index, acl.searchIndex name = some index ∧
      recordsAt acl index = if name = AvpName.routeRecord then routeRecords acl else [] := by
  rcases searchIndex_of_search found with ⟨index, place, there⟩
  have named : container.avpName = name := by
    simpa using List.find?_some found
  refine ⟨index, place, ?_⟩
  rw [recordsAt, there, routeRecords]
  by_cases record : name = AvpName.routeRecord
  · rw [record] at found
    simp [named, record, found]
  · simp [named, record]

/-- The encoder writes the first container of records, as often as the rule lists it. -/
theorem records_visited (acl : AvpContainerList) (members : List RuleAvp) :
    (visited acl members).flatMap (recordsAt acl) =
      (List.replicate (timesListed members) (routeRecords acl)).flatten := by
  induction members with
  | nil => rfl
  | cons member members induction =>
    have split : (visited acl (member :: members)).flatMap (recordsAt acl) =
        (acl.searchIndex member.avp.avpName).toList.flatMap (recordsAt acl) ++
          (visited acl members).flatMap (recordsAt acl) := by
      cases place : acl.searchIndex member.avp.avpName <;> simp [visited, place]
    have times : timesListed (member :: members) = timesListed members +
        if member.avp.avpName = AvpName.routeRecord then 1 else 0 := by
      simp [timesListed, List.countP_cons]
    rw [split, induction, times]
    cases found : acl.search member.avp.avpName with
    | none =>
      rw [searchIndex_of_search_none found]
      by_cases record : member.avp.avpName = AvpName.routeRecord
      · rw [record] at found
        simp [routeRecords, found]
      · simp [record]
    | some container =>
      rcases recordsAt_search found with ⟨index, place, records⟩
      rw [place]
      by_cases record : member.avp.avpName = AvpName.routeRecord
      · simp [records, record, List.replicate_succ]
      · simp [records, record]

theorem encodesRecords_iff {context : ParserContext} {depth : Nat} {rule : DiameterDictionary}
    {buffer after : ByteBuffer} (sized : BlockSized buffer)
    (encoded : QualifiedAvpListParser.parseAppToRaw context (depth + 1) rule acl buffer =
      .ok after) {records : List Octets} :
    EncodesRecords context depth rule acl (after.contents.drop buffer.used) records ↔
      records = (List.replicate (timesListed rule.ruleAvps) (routeRecords acl)).flatten := by
  rw [← records_visited]
  constructor
  · intro ⟨visits, places, _, _, same⟩
    rw [same, ← places, List.flatMap_map]
  · intro same
    rcases visits_of_members (encoder_appends context depth) sized encoded with
      ⟨visits, places, all, contents⟩
    refine ⟨visits, places, all, ?_, ?_⟩
    · rw [contents, ← buffer.length_contents, List.drop_left]
    · rw [same, ← places, List.flatMap_map]

end

section

variable {Peer : Type} {config : RouterConfig} {env : Environment Peer}
  {router : MsgRouter Peer} {source dest : Option Peer} {msg out : Msg} {peer : Peer}

/-- The proxy handlers leave the records as they are. -/
def KeepsRecords (env : Environment Peer) : Prop :=
  ∀ appId handler, env.proxyHandlers appId = some handler →
    ∀ msg : Msg, (handler.requestMsg msg).2.search AvpName.routeRecord =
      msg.acl.search AvpName.routeRecord

/-- `DcRouted` sends on a request of another host. -/
structure SentOn (config : RouterConfig) (env : Environment Peer) (router : MsgRouter Peer)
    (source dest : Option Peer) (msg out : Msg) : Prop where
  elsewhere : fromElsewhere config msg = true
  request : out.hdr.flags.r = true
  transmitted : ∃ served peer,
    DcRouted.requestMsg config env router source dest msg = .ok served ∧
      .transmit peer (some out) ∈ served.deliveries

variable {served : Served Peer}

theorem not_request_of_answer {answer : Msg} (answers : AnswersError msg answer)
    (sends : Sends env (some answer) source served.deliveries)
    (member : .transmit peer (some out) ∈ served.deliveries) : out.hdr.flags.r = false := by
  rcases sends.eq_transmit member with ⟨_, _, same, _⟩
  cases same
  rw [answers.hdr]

/-- The message that is relayed has the AVPs that the router leaves it with. -/
theorem acl_of_relays {node : DeliveryNode}
    (relays : Relays env config router node source dest msg served)
    (member : .transmit peer (some out) ∈ served.deliveries) : out.acl = msg.acl := by
  rcases relays.sends.eq_transmit member with ⟨_, _, same, _⟩
  cases same
  cases source <;> rfl

theorem search_of_deliver {action : RouteAction} (keeps : KeepsRecords env)
    (returned : DcRouted.deliver config env router action source dest msg = .ok served)
    (member : .transmit peer (some out) ∈ served.deliveries) :
    out.acl.search AvpName.routeRecord = msg.acl.search AvpName.routeRecord := by
  rw [DcRouted.deliver] at returned
  by_cases proxies : action = .actionProxy
  · rw [if_pos proxies] at returned
    split at returned
    · cases returned
      cases member
    · rename_i accepted isAccepted
      rw [acl_of_relays (relay_eq_ok returned) member]
      rw [proxyRequest] at isAccepted
      split at isAccepted
      · cases isAccepted
      · rename_i handler isHandler
        by_cases proceed : (handler.requestMsg msg).1 = true
        · rw [if_pos proceed] at isAccepted
          cases isAccepted
          exact keeps _ handler isHandler msg
        · rw [if_neg proceed] at isAccepted
          cases isAccepted
  · rw [if_neg proxies] at returned
    rw [acl_of_relays (relay_eq_ok returned) member]

/-- A request that is sent on waits here already and is unchanged, or has no loop and is
searched for records as if the local identity stood behind its AVPs. -/
theorem SentOn.records (sent : SentOn config env router source dest msg out)
    (keeps : KeepsRecords env) :
    (isQueued router .dcRouted msg = true ∧ out.acl = msg.acl) ∨
      (isQueued router .dcRouted msg = false ∧ loopDetection config msg = false ∧
        out.acl.search AvpName.routeRecord =
          (addRouteRecord config msg).acl.search AvpName.routeRecord) := by
  rcases sent.transmitted with ⟨served, peer, returned, member⟩
  have notAnswer : ∀ {rcode},
      sendErrorAnswer config env router source msg rcode = .ok served → False := by
    intro rcode answered
    rcases sendErrorAnswer_eq_ok answered with ⟨answer, _, answers, sends, _, rfl⟩
    have isAnswer := not_request_of_answer answers sends member
    rw [sent.request] at isAnswer
    cases isAnswer
  unfold DcRouted.requestMsg at returned
  split at returned
  · cases returned
  · split at returned
    · cases source with
      | none =>
        cases returned
        cases member
      | some _ =>
        cases returned
        simp at member
    · rcases redirect_eq_ok returned with ⟨_, nothing | ⟨answer, answers, sends⟩⟩
      · rw [nothing] at member
        cases member
      · have isAnswer := not_request_of_answer answers sends member
        rw [sent.request] at isAnswer
        cases isAnswer
    · rw [if_pos sent.elsewhere] at returned
      by_cases queued : isQueued router .dcRouted msg = true
      · rw [if_pos queued] at returned
        rcases (resend_eq_ok queued returned).sends.eq_transmit member with ⟨_, _, same, _⟩
        cases same
        exact .inl ⟨queued, rfl⟩
      · rw [if_neg queued] at returned
        by_cases loops : loopDetection config msg = true
        · rw [if_pos loops] at returned
          exact (notAnswer returned).elim
        · rw [if_neg loops] at returned
          have search := search_of_deliver keeps returned member
          exact .inr ⟨by simpa using queued, by simpa using loops, search⟩

theorem search_addRouteRecord :
    (addRouteRecord config msg).acl.search AvpName.routeRecord =
      some ((msg.acl.search AvpName.routeRecord).getD
        (identityAvp AvpName.routeRecord config.identity)) := by
  unfold addRouteRecord AvpContainerList.search
  rw [List.find?_append]
  cases msg.acl.find? fun container => container.avpName == AvpName.routeRecord <;>
    simp [identityAvp, avpOf]

/-- The own record is found only where no container of records is before it. -/
theorem routeRecords_addRouteRecord :
    routeRecords (addRouteRecord config msg).acl =
      if msg.acl.search AvpName.routeRecord = none then [config.identity]
      else routeRecords msg.acl := by
  rw [routeRecords, search_addRouteRecord]
  cases found : msg.acl.search AvpName.routeRecord with
  | none => simp [identityAvp, avpOf, octetsOf]
  | some container => simp [routeRecords, found]

end

/-- A request that a relay sends on, and the block that it is encoded to. -/
structure RelayedRequest (Peer : Type) where
  config : RouterConfig
  env : Environment Peer
  router : MsgRouter Peer
  source : Option Peer
  dest : Option Peer
  msg : Msg
  out : Msg
  keeps : KeepsRecords env
  sent : SentOn config env router source dest msg out
  context : ParserContext
  depth : Nat
  rule : DiameterDictionary
  buffer : ByteBuffer
  after : ByteBuffer
  sized : BlockSized buffer
  encoded : QualifiedAvpListParser.parseAppToRaw context (depth + 1) rule out.acl buffer =
    .ok after

namespace RelayedRequest

variable {Peer : Type} (relay : RelayedRequest Peer)

/-- The list is the one in the bytes that are sent on. -/
def Records (records : List Octets) : Prop :=
  EncodesRecords relay.context relay.depth relay.rule relay.out.acl
    (relay.after.contents.drop relay.buffer.used) records

/-- The request is taken for one that was sent before. -/
def Queued : Prop :=
  isQueued relay.router .dcRouted relay.msg = true

instance : Decidable relay.Queued :=
  inferInstanceAs (Decidable (_ = true))

/-- The request comes without a record and its rule lists the record once. Else only a
request that is taken for one sent before has the list, where the rule lists the record
twice and it has come with the local identity. -/
def Unrecorded : Prop :=
  (¬ relay.Queued ∧ relay.msg.acl.search AvpName.routeRecord = none ∧
      timesListed relay.rule.ruleAvps = 1) ∨
    (relay.Queued ∧ routeRecords relay.msg.acl = [relay.config.identity] ∧
      timesListed relay.rule.ruleAvps = 2)

theorem records_iff {records : List Octets} :
    relay.Records records ↔
      records = (List.replicate (timesListed relay.rule.ruleAvps)
        (routeRecords relay.out.acl)).flatten :=
  encodesRecords_iff relay.sized relay.encoded

/-- What is sent on, by whether the request is taken for one sent before. -/
theorem routeRecords_out :
    (relay.Queued ∧ routeRecords relay.out.acl = routeRecords relay.msg.acl) ∨
      (¬ relay.Queued ∧ relay.config.identity ∉ routeRecords relay.msg.acl ∧
        routeRecords relay.out.acl =
          if relay.msg.acl.search AvpName.routeRecord = none then [relay.config.identity]
          else routeRecords relay.msg.acl) := by
  rcases relay.sent.records relay.keeps with ⟨queued, same⟩ | ⟨queued, loops, search⟩
  · exact .inl ⟨queued, by rw [same]⟩
  · right
    constructor
    · simp [Queued, queued]
    · constructor
      · simpa [loopDetection] using loops
      · rw [← routeRecords_addRouteRecord, routeRecords, routeRecords, search]

/-- A list written some times is not itself with a new record behind it, unless it has
one record only, the new one, and is written twice. -/
theorem replicate_eq_append {times : Nat} {records : List Octets} {record : Octets} :
    records ++ [record] = (List.replicate times records).flatten ↔
      records = [record] ∧ times = 2 := by
  constructor
  · intro same
    have lengths := congrArg List.length same
    have inside : record ∈ records := by
      have member : record ∈ (List.replicate times records).flatten := by simp [← same]
      rcases List.mem_flatten.mp member with ⟨list, isList, here⟩
      rwa [(List.mem_replicate.mp isList).2] at here
    simp only [List.length_append, List.length_singleton, List.length_flatten,
      List.map_replicate, List.sum_replicate_nat] at lengths
    have dvd : records.length ∣ 1 :=
      (Nat.dvd_add_right (Nat.dvd_refl records.length)).mp (lengths ▸ Nat.dvd_mul_left ..)
    have one : records.length = 1 := Nat.dvd_one.mp dvd
    rcases List.length_eq_one_iff.mp one with ⟨only, rfl⟩
    rw [List.mem_singleton.mp inside]
    exact ⟨rfl, by simpa using lengths.symm⟩
  · intro ⟨single, twice⟩
    rw [single, twice]
    rfl

/-- The list that is sent on is the received one with the local identity behind it exactly
where the request comes without a record. -/
theorem records_append_iff :
    relay.Records (routeRecords relay.msg.acl ++ [relay.config.identity]) ↔
      relay.Unrecorded := by
  rw [records_iff, Unrecorded]
  rcases relay.routeRecords_out with ⟨queued, same⟩ | ⟨queued, absent, same⟩
  · rw [same, replicate_eq_append]
    simp [queued]
  · rw [same]
    by_cases none_ : relay.msg.acl.search AvpName.routeRecord = none
    · have nothing : routeRecords relay.msg.acl = [] := by simp [routeRecords, none_]
      simp only [none_, nothing, queued, if_true, List.nil_append, not_false_eq_true,
        true_and, false_and, or_false]
      constructor
      · intro written
        have lengths := congrArg List.length written
        simpa using lengths.symm
      · intro once
        rw [once]
        rfl
    · rw [if_neg none_, replicate_eq_append]
      simp only [none_, queued, not_false_eq_true, false_and, and_false, or_self, iff_false]
      intro only
      rw [only.1] at absent
      simp at absent

end RelayedRequest

/-- A relay gets a request with the records, has not sent it before, and sends it on. -/
inductive Hop (rule : DiameterDictionary) (config : RouterConfig) (records sent : List Octets) :
    Prop where
  | relayed {Peer : Type} (relay : RelayedRequest Peer) : relay.rule = rule →
      relay.config = config → routeRecords relay.msg.acl = records →
      (records = [] → relay.msg.acl.search AvpName.routeRecord = none) →
      ¬ relay.Queued → relay.Records sent → Hop rule config records sent

/-- The relays that a request has come through, and the records that it has then. -/
inductive Path (rule : DiameterDictionary) (initial : List Octets) :
    List Octets → List Octets → Prop where
  | start : Path rule initial [] initial
  | hop {nodes records sent : List Octets} {config : RouterConfig} :
      Path rule initial nodes records → Hop rule config records sent →
      Path rule initial (nodes ++ [config.identity]) sent

section

variable {rule : DiameterDictionary} {initial nodes records sent : List Octets}
  {config : RouterConfig}

theorem Hop.keeps (hop : Hop rule config records sent)
    (listed : timesListed rule.ruleAvps = 1) :
    config.identity ∉ records ∧
      sent = if records = [] then [config.identity] else records := by
  cases hop with
  | relayed relay isRule isConfig arrives empty notQueued written =>
    cases isRule
    cases isConfig
    rw [relay.records_iff, listed] at written
    rcases relay.routeRecords_out with ⟨queued, _⟩ | ⟨_, absent, same⟩
    · exact absurd queued notQueued
    · rw [arrives] at absent same
      constructor
      · exact absent
      · rw [written, same]
        by_cases nothing : records = []
        · simp [empty nothing, nothing]
        · have present : relay.msg.acl.search AvpName.routeRecord ≠ none := by
            intro missing
            apply nothing
            rw [← arrives]
            simp [routeRecords, missing]
          simp [present, nothing]

/-- The relay that a loop is found by is the first one. -/
def FirstRelay (initial nodes : List Octets) (identity : Octets) : Prop :=
  identity ∈ initial ∨ (initial = [] ∧ nodes.head? = some identity)

/-- The records are those that the request started with, or that of the first relay. -/
theorem Path.mem_records (path : Path rule initial nodes records)
    (listed : timesListed rule.ruleAvps = 1) (identity : Octets) :
    identity ∈ records ↔ FirstRelay initial nodes identity := by
  have carried : records = if initial = [] then nodes.head?.toList else initial := by
    induction path with
    | start =>
      by_cases nothing : initial = []
      · simp [nothing]
      · simp [nothing]
    | @hop nodes records sent config path hop induction =>
      rw [(hop.keeps listed).2, induction]
      by_cases nothing : initial = []
      · cases nodes <;> simp [nothing]
      · simp [nothing]
  rw [carried, FirstRelay]
  by_cases nothing : initial = []
  · simp [nothing, Option.mem_toList]
  · simp [nothing]

end

namespace Relay2

def config : RouterConfig where
  identity := [114, 108, 121, 50]
  realm := []
  backendAuth := false
  authAppIds := []
  acctAppIds := []
  vendorSpecificIds := []
  retxInterval := 0
  retxMaxCount := 0
  routeTable := ⟨[], some ⟨[], .actionRelay, 0, []⟩⟩

def env : Environment Unit where
  peerTable := []
  running := fun _ => true
  isOpen := fun _ => true
  ownsSession := fun _ => false
  proxyHandlers := fun _ => none
  now := 0
  hopSeed := 41
  endToEnd := 0
  newObject := 1

/-- A request with the given containers of records. -/
def request (hh : HopId) (records : AvpContainerList) : Msg where
  object := 0
  hdr := ⟨⟨true, true, false, false⟩, 274, 0, hh, 7⟩
  acl := identityAvp AvpName.destRealm [120] :: records

theorem keeps : KeepsRecords env := by
  intro appId handler found
  cases found

theorem sized (size : Nat) (small : size ≤ 4294967292) : BlockSized (ByteBuffer.zeroed size) := by
  rw [BlockSized, ByteBuffer.capacity_zeroed]
  exact small

/-- The request comes without a record. -/
def first : RelayedRequest Unit where
  config := config
  env := env
  router := .initial
  source := some ()
  dest := some ()
  msg := request 5 []
  out := request 42 [identityAvp AvpName.routeRecord config.identity]
  keeps := keeps
  sent := ⟨rfl, rfl, _, (), rfl, List.mem_singleton.mpr rfl⟩
  context := RouteRecords.context
  depth := 0
  rule := RouteRecords.rule
  buffer := .zeroed 12
  after := ⟨[0, 0, 1, 26, 64, 0, 0, 12, 114, 108, 121, 50], 12, by decide⟩
  sized := sized 12 (by decide)
  encoded := rfl

/-- The request comes with the record `nas1`. -/
def second : RelayedRequest Unit where
  config := config
  env := env
  router := .initial
  source := some ()
  dest := some ()
  msg := request 5 [RouteRecords.received]
  out := request 42 [RouteRecords.received, identityAvp AvpName.routeRecord config.identity]
  keeps := keeps
  sent := ⟨rfl, rfl, _, (), rfl, List.mem_singleton.mpr rfl⟩
  context := RouteRecords.context
  depth := 0
  rule := RouteRecords.rule
  buffer := .zeroed 12
  after := ⟨RouteRecords.encoding, 12, by decide⟩
  sized := sized 12 (by decide)
  encoded := rfl

theorem hop : Hop RouteRecords.rule config [[110, 97, 115, 49]] [[110, 97, 115, 49]] :=
  .relayed second rfl rfl rfl (by decide) (by decide) (second.records_iff.mpr rfl)

theorem firstHop : Hop RouteRecords.rule config [] [config.identity] :=
  .relayed first rfl rfl rfl (fun _ => rfl) (by decide) (first.records_iff.mpr rfl)

end Relay2

end OpenDiameter.Router
