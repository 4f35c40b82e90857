import OpenDiameter.Router.AnswerDelivery

/-!
The requests that wait to be sent once more: what each entry holds, and which of them the loss
of a peer concerns.
-/

namespace OpenDiameter.Router

open OpenDiameter.Foundation OpenDiameter.Parser

variable {Peer : Type}

/-- The peer that the request of an object was last sent to. -/
def lastSent (history : List (Copy Peer)) (object : Nat) : Option Peer :=
  (history.find? fun copy => copy.object == object).bind Copy.holder

@[simp] theorem lastSent_cons (copy : Copy Peer) (history : List (Copy Peer)) (object : Nat) :
    lastSent (copy :: history) object =
      if copy.object = object then copy.holder else lastSent history object := by
  by_cases same : copy.object = object
  · simp [lastSent, same]
  · simp [lastSent, same]

theorem lastSent_append {handed history : List (Copy Peer)} {object : Nat}
    (others : ∀ copy ∈ handed, copy.object ≠ object) :
    lastSent (handed ++ history) object = lastSent history object := by
  induction handed with
  | nil => rfl
  | cons copy handed induction =>
    have rest := induction fun other member => others other (List.mem_cons_of_mem copy member)
    rw [List.cons_append, lastSent_cons, if_neg (others copy List.mem_cons_self), rest]

/-- The entry holds the message of its request and names the peer that it was last sent
to. -/
structure Holds (arrivals : List (Arrival Peer)) (history : List (Copy Peer)) (id : HopId)
    (req : PendingReq Peer) (msg : Msg) : Prop where
  holds : req.reqMessage = some msg
  stored : Stored arrivals id req msg
  named : req.dest ≠ none
  sent : lastSent history msg.object = req.dest

/-- The entries of the nodes that retransmit. -/
structure Kept (router : MsgRouter Peer) (arrivals : List (Arrival Peer))
    (history : List (Copy Peer)) : Prop where
  seen : ∀ copy ∈ history, ∃ arrival ∈ arrivals, arrival.object = copy.object
  localEmpty : ∀ id req, router.pendingReq .dcLocal id = some req → req.reqMessage = none
  holds : ∀ node id req, node ≠ .dcLocal → router.pendingReq node id = some req →
    ∃ msg, Holds arrivals history id req msg
  own : ∀ node other id i req noted msg sent, router.pendingReq node id = some req →
    router.pendingReq other i = some noted → req.reqMessage = some msg →
    noted.reqMessage = some sent → sent.object = msg.object → other = node ∧ i = id

namespace Kept

variable {router next : MsgRouter Peer} {arrivals : List (Arrival Peer)}
  {history handed : List (Copy Peer)} {node : DeliveryNode} {id : HopId}
  {req : PendingReq Peer} {msg : Msg}

theorem initial : Kept (.initial : MsgRouter Peer) [] [] := by
  constructor <;> simp

theorem notLocal_of_message (kept : Kept router arrivals history)
    (found : router.pendingReq node id = some req) (holds : req.reqMessage = some msg) :
    node ≠ .dcLocal := by
  intro isLocal
  rw [isLocal] at found
  rw [kept.localEmpty id req found] at holds
  cases holds

/-- A stored message is that of a request that has come. -/
theorem arrived (kept : Kept router arrivals history)
    (found : router.pendingReq node id = some req) (holds : req.reqMessage = some msg) :
    Belongs arrivals msg.object req := by
  rcases kept.holds node id req (kept.notLocal_of_message found holds) found with ⟨held, isHeld⟩
  have same : held = msg := by
    rw [isHeld.holds] at holds
    cases holds
    rfl
  rw [← same]
  exact isHeld.stored.belongs

/-- The request of an entry is noted or sent once more, and that of no other entry. -/
theorem set (kept : Kept router arrivals history)
    (entries : ∀ other i, next.pendingReq other i =
      if other = node ∧ i = id then some req else router.pendingReq other i)
    (notLocal : node ≠ .dcLocal) (isHeld : Holds arrivals (handed ++ history) id req msg)
    (ownHanded : ∀ copy ∈ handed, copy.object = msg.object)
    (others : ∀ other i noted sent, ¬ (other = node ∧ i = id) →
      router.pendingReq other i = some noted → noted.reqMessage = some sent →
      sent.object ≠ msg.object) :
    Kept next arrivals (handed ++ history) where
  seen := by
    intro copy member
    rcases List.mem_append.mp member with member | member
    · exact ⟨_, isHeld.stored.belongs, (ownHanded copy member).symm⟩
    · exact kept.seen copy member
  localEmpty := by
    intro i entry found
    rw [entries, if_neg fun here => notLocal here.1.symm] at found
    exact kept.localEmpty i entry found
  holds := by
    intro other i entry isNode found
    rw [entries] at found
    by_cases here : other = node ∧ i = id
    · rw [if_pos here] at found
      cases found
      rw [here.2]
      exact ⟨msg, isHeld⟩
    · rw [if_neg here] at found
      rcases kept.holds other i entry isNode found with ⟨sent, isSent⟩
      have apart := others other i entry sent here found isSent.holds
      refine ⟨sent, isSent.holds, isSent.stored, isSent.named, ?_⟩
      rw [lastSent_append, isSent.sent]
      intro copy member same
      rw [ownHanded copy member] at same
      exact apart same.symm
  own := by
    intro first second i j entry noted one two isEntry isNoted holdsOne holdsTwo same
    rw [entries] at isEntry isNoted
    by_cases here : first = node ∧ i = id
    · rw [if_pos here] at isEntry
      cases isEntry
      have isMsg : one = msg := by
        rw [isHeld.holds] at holdsOne
        cases holdsOne
        rfl
      by_cases there : second = node ∧ j = id
      · exact ⟨there.1.trans here.1.symm, there.2.trans here.2.symm⟩
      · rw [if_neg there] at isNoted
        rw [isMsg] at same
        exact absurd same (others second j noted two there isNoted holdsTwo)
    · rw [if_neg here] at isEntry
      by_cases there : second = node ∧ j = id
      · rw [if_pos there] at isNoted
        cases isNoted
        have isMsg : two = msg := by
          rw [isHeld.holds] at holdsTwo
          cases holdsTwo
          rfl
        rw [isMsg] at same
        exact absurd same.symm (others first i entry one here isEntry holdsOne)
      · rw [if_neg there] at isNoted
        exact kept.own first second i j entry noted one two isEntry isNoted holdsOne holdsTwo same

/-- Entries are taken out, and a request may be sent that no other entry is about. -/
theorem remove (kept : Kept router arrivals history)
    (entries : ∀ other i entry, next.pendingReq other i = some entry →
      router.pendingReq other i = some entry)
    (isSeen : ∀ copy ∈ handed, ∃ arrival ∈ arrivals, arrival.object = copy.object)
    (others : ∀ copy ∈ handed, ∀ other i entry sent, next.pendingReq other i = some entry →
      entry.reqMessage = some sent → copy.object ≠ sent.object) :
    Kept next arrivals (handed ++ history) where
  seen := by
    intro copy member
    rcases List.mem_append.mp member with member | member
    · exact isSeen copy member
    · exact kept.seen copy member
  localEmpty i entry found := kept.localEmpty i entry (entries _ _ _ found)
  holds := by
    intro other i entry isNode found
    rcases kept.holds other i entry isNode (entries _ _ _ found) with ⟨sent, isSent⟩
    refine ⟨sent, isSent.holds, isSent.stored, isSent.named, ?_⟩
    rw [lastSent_append, isSent.sent]
    intro copy member
    exact others copy member other i entry sent found isSent.holds
  own first second i j entry noted one two isEntry isNoted :=
    kept.own first second i j entry noted one two (entries _ _ _ isEntry) (entries _ _ _ isNoted)

/-- The local node notes a request, which is handed to its handler. -/
theorem setLocal (kept : Kept router arrivals history)
    (entries : ∀ other i, next.pendingReq other i =
      if other = .dcLocal ∧ i = id then some req else router.pendingReq other i)
    (empty : req.reqMessage = none)
    (isSeen : ∀ copy ∈ handed, ∃ arrival ∈ arrivals, arrival.object = copy.object)
    (others : ∀ copy ∈ handed, ∀ other i entry sent, router.pendingReq other i = some entry →
      entry.reqMessage = some sent → copy.object ≠ sent.object) :
    Kept next arrivals (handed ++ history) where
  seen := by
    intro copy member
    rcases List.mem_append.mp member with member | member
    · exact isSeen copy member
    · exact kept.seen copy member
  localEmpty := by
    intro i entry found
    rw [entries] at found
    by_cases here : DeliveryNode.dcLocal = .dcLocal ∧ i = id
    · rw [if_pos here] at found
      cases found
      exact empty
    · rw [if_neg here] at found
      exact kept.localEmpty i entry found
  holds := by
    intro other i entry isNode found
    rw [entries, if_neg fun here => isNode here.1] at found
    rcases kept.holds other i entry isNode found with ⟨sent, isSent⟩
    refine ⟨sent, isSent.holds, isSent.stored, isSent.named, ?_⟩
    rw [lastSent_append, isSent.sent]
    intro copy member
    exact others copy member other i entry sent found isSent.holds
  own := by
    intro first second i j entry noted one two isEntry isNoted holdsOne holdsTwo same
    have old : ∀ other k held sent, next.pendingReq other k = some held →
        held.reqMessage = some sent → router.pendingReq other k = some held := by
      intro other k held sent isThere isSent
      rw [entries] at isThere
      by_cases here : other = .dcLocal ∧ k = id
      · rw [if_pos here] at isThere
        cases isThere
        rw [empty] at isSent
        cases isSent
      · rw [if_neg here] at isThere
        exact isThere
    exact kept.own first second i j entry noted one two (old _ _ _ _ isEntry holdsOne)
      (old _ _ _ _ isNoted holdsTwo) holdsOne holdsTwo same

theorem arrive (kept : Kept router arrivals history) (arrival : Arrival Peer) :
    Kept router (arrival :: arrivals) history where
  seen copy member := by
    rcases kept.seen copy member with ⟨other, isOther, same⟩
    exact ⟨other, List.mem_cons_of_mem arrival isOther, same⟩
  localEmpty := kept.localEmpty
  holds node i entry isNode found := by
    rcases kept.holds node i entry isNode found with ⟨sent, isSent⟩
    have stored := isSent.stored
    exact ⟨sent, isSent.holds, ⟨stored.hh, stored.positive, stored.request,
      List.mem_cons_of_mem arrival stored.belongs⟩, isSent.named, isSent.sent⟩
  own := kept.own

end Kept

/-- A request that is sent on is sent to a peer that runs, and noted under a positive id that
is free. It is not taken for one that the router has sent before. -/
structure NotedAsSent (config : RouterConfig) (env : Environment Peer) (world : World Peer)
    (source : Option Peer) (msg : Msg) : Prop where
  unqueued : ∀ node action peer, Reaches config env msg node action peer →
    checks config msg node = true → isQueued world.router node msg = false
  relayed : ∀ node action peer, Passes config env world.router msg node action peer →
    Accepts config env msg action →
    0 < (assignIds env world.router source msg).h2hIndex ∧
      world.router.pendingReq node (assignIds env world.router source msg).h2hIndex = none ∧
      env.running peer = true

/-- A request is sent once more by its node, and to the peer that the entry names. -/
def SentToItsPeer (config : RouterConfig) (env : Environment Peer) (node : DeliveryNode)
    (req : PendingReq Peer) (msg : Msg) : Prop :=
  ∃ action peer, Reaches config env (markedMsg msg) node action peer ∧
    (checks config (markedMsg msg) node = true ∨
      (req.source = none ∧ Accepts config env (markedMsg msg) action)) ∧
    (env.running peer = true → req.dest = some peer)

/-- The steps after which the entries are still right. -/
def Keeping [DecidableEq Peer] (config : RouterConfig) (env : Environment Peer)
    (world : World Peer) : Event Peer → Prop
  | .request source msg => NotedAsSent config env world source msg
  | .answer _ _ => True
  | .reTxCheck node check h2hId =>
    ∀ req msg, world.router.pendingReq node h2hId = some req → req.reqMessage = some msg →
      check.matches req = true → req.reTxCount < config.retxMaxCount →
      SentToItsPeer config env node req msg

def World.Kept (world : World Peer) : Prop :=
  Router.Kept world.router world.arrivals world.history

section

variable {config : RouterConfig} {env : Environment Peer} {world next : World Peer}
  {source : Option Peer} {msg : Msg}

theorem World.Kept.request (kept : world.Kept) (enabled : world.Enabled (.request source msg))
    (noted : NotedAsSent config env world source msg)
    (taken : (world.arrives env source msg).ends
      (requestMsg config env world.router source msg) = some next) :
    next.Kept := by
  have come : Router.Kept world.router (world.arrives env source msg).arrivals world.history :=
    kept.arrive _
  have isNew : ∀ other i entry sent, world.router.pendingReq other i = some entry →
      entry.reqMessage = some sent → sent.object ≠ msg.object := by
    intro other i entry sent found holds
    exact enabled.2 _ (kept.arrived found holds)
  cases result : requestMsg config env world.router source msg with
  | error abort =>
    rw [result] at taken
    rcases requestMsg_fails abort result with rfl | rfl
    · cases taken
      exact come
    · cases taken
  | ok served =>
    rw [result] at taken
    cases taken
    cases routed_requestMsg result with
    | consumed peer dest isTaken isSource same =>
      subst isSource
      subst same
      have entries : ∀ other i, (world.router.add .dcLocal msg.hdr.hh
          (pendingOf config env msg (some peer) dest)).pendingReq other i =
            if other = .dcLocal ∧ i = msg.hdr.hh then
              some ((world.router.pendingReq .dcLocal msg.hdr.hh).getD
                (pendingOf config env msg (some peer) dest))
            else world.router.pendingReq other i :=
        fun other i => MsgRouter.pendingReq_add ..
      apply come.setLocal entries
      · cases found : world.router.pendingReq .dcLocal msg.hdr.hh with
        | none => rfl
        | some entry => exact kept.localEmpty msg.hdr.hh entry found
      · intro copy member
        rw [List.mem_singleton.mp member]
        exact ⟨_, List.mem_cons_self, rfl⟩
      · intro copy member other i entry sent found holds
        rw [List.mem_singleton.mp member]
        exact (isNew other i entry sent found holds).symm
    | quiet same quiet =>
      rw [World.Kept, same, quiet.handed]
      exact come
    | resent node action peer reaches checked resends =>
      have unqueued := noted.unqueued node action peer reaches checked
      rw [resends.queued] at unqueued
      cases unqueued
    | relayed node action peer acl passes accepts relays =>
      rcases noted.relayed node action peer passes accepts with ⟨positive, free, running⟩
      rw [← assignIds_acl world.router acl] at positive free
      have request : (assignIds env world.router source
          { msg with acl }).outMsg.hdr.flags.r = true := by
        rw [outMsg_request]
        exact enabled.1
      have isSent : served.deliveries.filterMap Delivery.copy =
          [⟨some peer, (assignIds env world.router source { msg with acl }).h2hIndex,
            msg.object⟩] := by
        rcases relays.sends with ⟨dest, isDest, deliveries⟩
        cases isDest
        rw [deliveries, if_pos ⟨running, passes.reaches.isOpen⟩]
        simp [Delivery.copy, request, outMsg_hh, outMsg_object]
      have entries : ∀ other i, served.router.pendingReq other i =
          if other = node ∧
              i = (assignIds env world.router source { msg with acl }).h2hIndex then
            some (notedReq config env world.router node source (some peer)
              { msg with acl })
          else world.router.pendingReq other i := by
        intro other i
        rw [relays.state]
        exact pendingReq_noteRequest node other i
      have isNoted : notedReq config env world.router node source (some peer)
          { msg with acl } =
            { pendingOf config env (notedMsg env world.router source { msg with acl }) source
                (some peer) with
              reqMessage := some (assignIds env world.router source
                { msg with acl }).outMsg } := by
        simp only [notedReq, free, Option.getD_none, if_pos positive]
      have notLocal : node ≠ .dcLocal := by
        cases passes.reaches <;> simp
      have isHeld : Holds (world.arrives env source msg).arrivals
          (served.deliveries.filterMap Delivery.copy ++ world.history)
          (assignIds env world.router source { msg with acl }).h2hIndex
          (notedReq config env world.router node source (some peer) { msg with acl })
          (assignIds env world.router source { msg with acl }).outMsg := by
        rw [isNoted]
        refine ⟨rfl, ⟨outMsg_hh, positive, request, ?_⟩, by simp [pendingOf], ?_⟩
        · rw [Belongs, outMsg_object]
          change (⟨msg.object, source,
            (notedMsg env world.router source { msg with acl }).hdr.hh⟩ : Arrival Peer) ∈ _
          rw [notedMsg_acl]
          exact List.mem_cons_self
        · rw [isSent, outMsg_object]
          simp [pendingOf]
      apply come.set entries notLocal isHeld
      · intro copy member
        rw [isSent, List.mem_singleton] at member
        rw [member, outMsg_object]
      · intro other i entry sent _ found holds
        rw [outMsg_object]
        exact isNew other i entry sent found holds

theorem requestMsg_queued {router : MsgRouter Peer} {node : DeliveryNode} {action : RouteAction}
    {peer : Peer} (reaches : Reaches config env msg node action peer)
    (checked : checks config msg node = true) (queued : isQueued router node msg = true) :
    requestMsg config env router source msg = resend env router node (some peer) msg := by
  cases reaches with
  | forward _ notLocal found =>
    rw [requestMsg_forward notLocal found, DcForward.requestMsg.eq_def, if_pos queued]
  | routed _ route notLocal notForwarded found isRoute noLocal noRedirect =>
    have elsewhere : fromElsewhere config msg = true := by
      simpa [checks] using checked
    rw [requestMsg_routed notLocal notForwarded found,
      dcRouted_onward isRoute noLocal noRedirect, if_pos elsewhere, if_pos queued]

theorem requestMsg_unchecked {router : MsgRouter Peer} {node : DeliveryNode}
    {action : RouteAction} {peer : Peer} (reaches : Reaches config env msg node action peer)
    (unchecked : checks config msg node = false) :
    node = .dcRouted ∧ requestMsg config env router source msg =
      DcRouted.deliver config env router action source (some peer)
        { msg with acl := onwardAcl config msg } := by
  cases reaches with
  | forward _ notLocal found => cases unchecked
  | routed _ route notLocal notForwarded found isRoute noLocal noRedirect =>
    have here : fromElsewhere config msg = false := by
      simpa [checks] using unchecked
    refine ⟨rfl, ?_⟩
    rw [requestMsg_routed notLocal notForwarded found,
      dcRouted_onward isRoute noLocal noRedirect, if_neg (by simp [here]), onwardAcl,
      if_neg (by simp [here])]

theorem send_returns (env : Environment Peer) (out : Option Msg) (peer : Peer) :
    ∃ sent deliveries, send env out (some peer) = .ok (sent, deliveries) := by
  rw [send]
  split
  · exact ⟨_, _, rfl⟩
  · split
    · exact ⟨_, _, rfl⟩
    · exact ⟨_, _, rfl⟩

theorem resend_returns (router : MsgRouter Peer) (node : DeliveryNode) (peer : Peer)
    (msg : Msg) : ∃ served, resend env router node (some peer) msg = .ok served := by
  rcases send_returns env (some msg) peer with ⟨sent, deliveries, returned⟩
  rw [resend, returned]
  exact ⟨_, rfl⟩

theorem relay_returns (config : RouterConfig) (env : Environment Peer) (router : MsgRouter Peer)
    (source : Option Peer) (node : DeliveryNode) (peer : Peer)
    (msg : Msg) : ∃ served, relay config env router node source (some peer) msg = .ok served := by
  rcases send_returns env (some (assignIds env router source msg).outMsg) peer with
    ⟨sent, deliveries, returned⟩
  rw [relay, returned]
  exact ⟨_, rfl⟩

theorem deliver_accepted (router : MsgRouter Peer) (source dest : Option Peer)
    {action : RouteAction} (accepts : Accepts config env msg action) :
    ∃ acl, DcRouted.deliver config env router action source dest
        { msg with acl := onwardAcl config msg } =
      relay config env router .dcRouted source dest { msg with acl } := by
  rw [DcRouted.deliver]
  by_cases proxies : action = .actionProxy
  · rw [if_pos proxies]
    cases accepted : proxyRequest env { msg with acl := onwardAcl config msg } with
    | none => exact absurd accepted (accepts proxies)
    | some out =>
      rcases proxyRequest_eq_some accepted with ⟨acl, rfl⟩
      exact ⟨acl, rfl⟩
  · rw [if_neg proxies]
    exact ⟨_, rfl⟩

/-- The entry of a request that is sent once more. -/
def retried (config : RouterConfig) (env : Environment Peer) (req : PendingReq Peer)
    (reqMessage : Option Msg) : PendingReq Peer :=
  { req with
    reTxCount := req.reTxCount + 1
    reTxExpireTime := env.now + config.retxInterval
    reqMessage }

/-- A request is sent once more, to the peer that the entry names, and stored again. -/
theorem Kept.again {router : MsgRouter Peer} {arrivals : List (Arrival Peer)}
    {history : List (Copy Peer)} (kept : Kept router arrivals history)
    {node : DeliveryNode} {id : HopId} {req : PendingReq Peer} {out : Msg} {peer : Peer}
    {served : Served Peer}
    (found : router.pendingReq node id = some req) (isHeld : Holds arrivals history id req msg)
    (notLocal : node ≠ .dcLocal) (object : out.object = msg.object) (hh : out.hdr.hh = id)
    (request : out.hdr.flags.r = true)
    (entries : ∀ other i, served.router.pendingReq other i =
      if other = node ∧ i = id then some (retried config env req (some out))
      else router.pendingReq other i)
    (sends : Sends env (some out) (some peer) served.deliveries)
    (toItsPeer : env.running peer = true → req.dest = some peer) :
    Kept served.router arrivals
      (served.deliveries.filterMap Delivery.copy ++ history) := by
  have ownHanded : ∀ copy ∈ served.deliveries.filterMap Delivery.copy,
      copy.object = out.object := by
    intro copy member
    rcases handed_of_sends sends request with nothing | ⟨_, _, _, _, handed⟩
    · rw [nothing] at member
      cases member
    · rw [handed, List.mem_singleton] at member
      rw [member]
  have sent : lastSent (served.deliveries.filterMap Delivery.copy ++ history) out.object =
      req.dest := by
    rcases handed_of_sends sends request with nothing | ⟨target, isPeer, running, _, handed⟩
    · rw [nothing, List.nil_append, object]
      exact isHeld.sent
    · cases isPeer
      rw [handed, toItsPeer running]
      simp
  have holds : Holds arrivals (served.deliveries.filterMap Delivery.copy ++ history) id
      (retried config env req (some out)) out := by
    refine ⟨rfl, ⟨hh, isHeld.stored.positive, request, ?_⟩, isHeld.named, sent⟩
    rw [object]
    exact isHeld.stored.belongs
  apply kept.set entries notLocal holds ownHanded
  intro other i noted message elsewhere isNoted isMessage same
  rw [object] at same
  exact elsewhere (kept.own node other id i req noted msg message found isNoted isHeld.holds
    isMessage same)

theorem World.Kept.reTransmit (kept : world.Kept) {node : DeliveryNode} {h2hId : HopId}
    {req : PendingReq Peer} (notLocal : node ≠ .dcLocal)
    (found : world.router.pendingReq node h2hId = some req)
    (toItsPeer : ∀ msg, req.reqMessage = some msg → SentToItsPeer config env node req msg)
    (taken : world.ends (Router.reTransmit config env world.router node h2hId req) =
      some next) :
    next.Kept := by
  rcases kept.holds node h2hId req notLocal found with ⟨msg, isHeld⟩
  rcases toItsPeer msg isHeld.holds with ⟨action, peer, reaches, passed, sameDest⟩
  unfold Router.reTransmit at taken
  rw [isHeld.holds] at taken
  dsimp only at taken
  change world.ends (requestMsg config env (world.router.update node h2hId _) req.source
    (markedMsg msg)) = some next at taken
  generalize isRouter : world.router.update node h2hId _ = router at taken
  have emptied : ∀ other i, router.pendingReq other i =
      if other = node ∧ i = h2hId then some (retried config env req none)
      else world.router.pendingReq other i := by
    intro other i
    rw [← isRouter, MsgRouter.pendingReq_update, found]
    rfl
  have here := emptied node h2hId
  rw [if_pos ⟨rfl, rfl⟩] at here
  have isId : (markedMsg msg).hdr.hh = h2hId := isHeld.stored.hh
  have stores : ∀ (served : Served Peer) (out : Msg), (∀ other i,
      served.router.pendingReq other i = if other = node ∧ i = h2hId then
        some (retried config env req (some out)) else router.pendingReq other i) →
      ∀ other i, served.router.pendingReq other i = if other = node ∧ i = h2hId then
        some (retried config env req (some out)) else world.router.pendingReq other i := by
    intro served out entries other i
    rw [entries, emptied]
    split <;> rfl
  by_cases checked : checks config (markedMsg msg) node = true
  · have queued : isQueued router node (markedMsg msg) = true := by
      rw [isQueued, isId, here]
      rfl
    rw [requestMsg_queued reaches checked queued] at taken
    rcases resend_returns router node peer (markedMsg msg) with ⟨served, result⟩
    have resends := resend_eq_ok queued result
    rw [result] at taken
    cases taken
    have object : (markedMsg msg).object = msg.object := rfl
    have entries := stores served (markedMsg msg) (by
      intro other i
      rw [resends.state, isId, MsgRouter.pendingReq_storeRequestMessage, here]
      rfl)
    exact Router.Kept.again kept found isHeld notLocal object isId isHeld.stored.request entries
      resends.sends sameDest
  · rcases passed with isChecked | ⟨isLocal, accepts⟩
    · exact absurd isChecked checked
    · have unchecked : checks config (markedMsg msg) node = false := by simpa using checked
      rcases deliver_accepted router req.source (some peer) accepts with ⟨acl, relayed⟩
      rcases requestMsg_unchecked reaches unchecked with ⟨rfl, call⟩
      rcases relay_returns config env router req.source .dcRouted peer
        { markedMsg msg with acl } with ⟨served, result⟩
      rw [call, relayed, result] at taken
      cases taken
      have relays := relay_eq_ok result
      have ids : (assignIds env router req.source { markedMsg msg with acl }).h2hIndex =
          h2hId := by
        rw [isLocal]
        exact assignIds_waiting isId isHeld.stored.positive
      have outId : (assignIds env router req.source
          { markedMsg msg with acl }).outMsg.hdr.hh = h2hId := outMsg_hh.trans ids
      have entries := stores served _ (by
        intro other i
        rw [relays.state, pendingReq_noteRequest, ids, notedReq, ids, here,
          if_pos isHeld.stored.positive]
        rfl)
      have request : (assignIds env router req.source
          { markedMsg msg with acl }).outMsg.hdr.flags.r = true := by
        rw [outMsg_request]
        exact isHeld.stored.request
      have object : (assignIds env router req.source
          { markedMsg msg with acl }).outMsg.object = msg.object := outMsg_object
      exact Router.Kept.again kept found isHeld notLocal object outId request entries
        relays.sends sameDest

theorem World.Kept.answered (kept : world.Kept) {copy : Copy Peer} {answer : Msg}
    [DecidableEq Peer] (enabled : world.Enabled (.answer copy answer))
    (taken : { world with copies := world.copies.erase copy }.ends
      (answerMsg env world.router answer) = some next) : next.Kept := by
  by_cases accepted : Accepted world.router answer
  · rcases answerMsg_accepted env accepted with ⟨node, req, found, processed⟩
    rw [processed] at taken
    have entries : ∀ other i entry,
        (world.router.deleteQueuedMessage node answer.hdr.hh).pendingReq other i = some entry →
        world.router.pendingReq other i = some entry ∧ ¬ (other = node ∧ i = answer.hdr.hh) := by
      intro other i entry isEntry
      rw [MsgRouter.pendingReq_deleteQueuedMessage] at isEntry
      split at isEntry
      · cases isEntry
      · rename_i elsewhere
        exact ⟨isEntry, elsewhere⟩
    have removed : Router.Kept (world.router.deleteQueuedMessage node answer.hdr.hh)
        world.arrivals ([] ++ world.history) := by
      apply Router.Kept.remove kept
      · intro other i entry isEntry
        exact (entries other i entry isEntry).1
      · simp
      · simp
    cases result : node.process env (world.router.deleteQueuedMessage node answer.hdr.hh)
        req.reqMessage req.source (restored answer req.origHH) with
    | error abort =>
      rw [result] at taken
      rcases process_fails abort result with rfl | rfl
      · cases taken
        exact removed
      · cases taken
    | ok served =>
      rw [result] at taken
      cases taken
      have noRequest : (restored answer req.origHH).hdr.flags.r = false := enabled.2.1
      rcases process_eq_ok noRequest result with
        ⟨same, quiet | ⟨request, peer, acl, isStored, sends⟩⟩
      · rw [World.Kept, same, quiet.handed]
        exact removed
      · -- The entry of the request is gone, and no other entry is about it.
        have notLocal := Router.Kept.notLocal_of_message kept found isStored
        rcases kept.holds node _ req notLocal found with ⟨held, isHeld⟩
        have isRequest : held = request := Option.some.inj (isHeld.holds.symm.trans isStored)
        subst isRequest
        have isHanded : ∀ other ∈ served.deliveries.filterMap Delivery.copy,
            other.object = held.object := by
          intro other member
          rcases handed_of_sends sends isHeld.stored.request with
            nothing | ⟨_, _, _, _, handed⟩
          · rw [nothing] at member
            cases member
          · rw [handed, List.mem_singleton] at member
            rw [member]
        rw [World.Kept, same]
        apply Router.Kept.remove kept
        · intro other i entry isEntry
          exact (entries other i entry isEntry).1
        · intro other member
          exact ⟨_, isHeld.stored.belongs, (isHanded other member).symm⟩
        · intro other member another i entry sent isEntry isSent isObject
          rcases entries another i entry isEntry with ⟨isThere, elsewhere⟩
          rw [isHanded other member] at isObject
          exact elsewhere (kept.own node another _ i req entry held sent found isThere
            isHeld.holds isSent isObject.symm)
  · rw [answerMsg_discarded accepted] at taken
    cases taken
    exact kept

theorem World.Kept.step [DecidableEq Peer] (kept : world.Kept) {event : Event Peer}
    (enabled : world.Enabled event) (keeping : Keeping config env world event)
    (taken : world.next config env event = some next) : next.Kept := by
  cases event with
  | request source msg => exact kept.request enabled keeping taken
  | answer copy msg => exact kept.answered enabled taken
  | reTxCheck node check h2hId =>
    change world.ends (Router.reTxCheck config env world.router node check h2hId) = some next
      at taken
    unfold Router.reTxCheck at taken
    cases found : world.router.pendingReq node h2hId with
    | none =>
      rw [found] at taken
      cases taken
      exact kept
    | some req =>
      rw [found] at taken
      dsimp only at taken
      by_cases isMatch : check.matches req = true
      · rw [if_pos isMatch] at taken
        by_cases few : req.reTxCount < config.retxMaxCount
        · rw [if_pos few] at taken
          apply kept.reTransmit enabled found _ taken
          intro msg holds
          exact keeping req msg found holds isMatch few
        · rw [if_neg few] at taken
          cases taken
          have removed : Router.Kept (world.router.deleteQueuedMessage node h2hId)
              world.arrivals ([] ++ world.history) := by
            apply Router.Kept.remove kept
            · intro other id entry isEntry
              rw [MsgRouter.pendingReq_deleteQueuedMessage] at isEntry
              split at isEntry
              · cases isEntry
              · exact isEntry
            · simp
            · simp
          exact removed
      · rw [if_neg isMatch] at taken
        cases taken
        exact kept

theorem Run.kept [DecidableEq Peer] (run : Run config (Keeping config) world) : world.Kept := by
  induction run with
  | initial => exact Router.Kept.initial
  | step _ enabled keeping taken induction =>
    exact World.Kept.step induction enabled keeping taken

/-- What is done to a waiting request when a peer is lost: nothing where it was last sent to
another one; else it is routed once more, or discarded after too many times. -/
def lossOutcome [DecidableEq Peer] (config : RouterConfig) (env : Environment Peer)
    (world : World Peer) (node : DeliveryNode) (id : HopId) (req : PendingReq Peer) (msg : Msg)
    (peer : Peer) : Except (Abort Peer) (Served Peer) :=
  if lastSent world.history msg.object = some peer then
    if req.reTxCount < config.retxMaxCount then
      requestMsg config env
        (world.router.update node id fun req => retried config env req none) req.source
        (markedMsg msg)
    else .ok ⟨world.router.deleteQueuedMessage node id, [], 0⟩
  else .ok ⟨world.router, [], 0⟩

/-- In every state that is reached by steps that keep the entries, each entry holds its
request and names the peer that it was last sent to, and the loss of a peer concerns exactly
the requests that were last sent there. -/
theorem waiting_requests_retransmit [DecidableEq Peer]
    (run : Run config (Keeping config) world) {node : DeliveryNode} {id : HopId}
    {req : PendingReq Peer} (notLocal : node ≠ .dcLocal)
    (found : world.router.pendingReq node id = some req) :
    ∃ msg, Holds world.arrivals world.history id req msg ∧
      ∀ env peer, reTxCheck config env world.router node (.peer peer) id =
        lossOutcome config env world node id req msg peer := by
  rcases run.kept.holds node id req notLocal found with ⟨msg, isHeld⟩
  refine ⟨msg, isHeld, ?_⟩
  intro env peer
  have isMatch : (ReTxCheck.peer peer).matches req = true ↔
      lastSent world.history msg.object = some peer := by
    rw [isHeld.sent]
    simp [ReTxCheck.matches]
  rw [reTxCheck, found, lossOutcome]
  dsimp only
  by_cases last : lastSent world.history msg.object = some peer
  · rw [if_pos (isMatch.mpr last), if_pos last]
    split
    · rw [reTransmit, isHeld.holds]
      rfl
    · rfl
  · rw [if_neg fun matched => last (isMatch.mp matched), if_neg last]

end

namespace Agent

/-- The realm `r` has two servers. -/
def twoServers : RouterConfig :=
  { config with
    retxMaxCount := 2
    routeTable :=
      { routes := [{ route [114] [115, 49] with
          applications := [⟨4, 0, [[115, 49], [115, 50]]⟩] }]
        defaultRoute := none } }

/-- The first server is lost. -/
def oneLost : Environment Nat :=
  { env with isOpen := fun peer => peer == 2 }

def sentFirst : World Nat :=
  (World.initial.next twoServers env (.request (some 0) byRealm)).getD .initial

def sentAgain : World Nat :=
  (sentFirst.next twoServers oneLost (.reTxCheck .dcRouted (.peer 1) 42)).getD .initial

theorem sentFirst_run : Run twoServers (Keeping twoServers) sentFirst := by
  apply Run.serve .initial env (.request (some 0) byRealm) ⟨rfl, by simp [World.initial]⟩
  · refine ⟨fun _ _ _ _ _ => rfl, ?_⟩
    intro node action peer passes accepts
    exact ⟨by decide, rfl, rfl⟩
  · rfl

theorem sentAgain_run : Run twoServers (fun _ _ _ => True) sentAgain := by
  have first : Run twoServers (fun _ _ _ => True) sentFirst :=
    Run.serve .initial env (.request (some 0) byRealm) ⟨rfl, by simp [World.initial]⟩ trivial rfl
  have notLocal : sentFirst.Enabled (.reTxCheck .dcRouted (.peer 1) 42) := by
    simp [World.Enabled]
  exact first.serve oneLost (.reTxCheck .dcRouted (.peer 1) 42) notLocal trivial rfl

end Agent

open Agent in
theorem waiting_requests_retransmit_first :
    ∃ req msg, Holds sentFirst.arrivals sentFirst.history 42 req msg ∧
      ∀ env peer, reTxCheck twoServers env sentFirst.router .dcRouted (.peer peer) 42 =
        lossOutcome twoServers env sentFirst .dcRouted 42 req msg peer :=
  ⟨_, waiting_requests_retransmit sentFirst_run (by decide) rfl⟩

open Agent in
/-- A request that was sent once more waits for the peer that is lost, and the loss of the
other one does not concern it. -/
theorem resent_request_misnamed :
    Run twoServers (fun _ _ _ => True) sentAgain ∧
      ∃ req, sentAgain.router.pendingReq .dcRouted 42 = some req ∧ req.dest = some 1 ∧
        lastSent sentAgain.history 0 = some 2 ∧
        reTxCheck twoServers env sentAgain.router .dcRouted (.peer 2) 42 =
          .ok ⟨sentAgain.router, [], 0⟩ :=
  ⟨sentAgain_run, _, rfl, rfl, rfl, rfl⟩

end OpenDiameter.Router
