import OpenDiameter.Eap.ArchieServed
import OpenDiameter.Eap.GpskServed
import OpenDiameter.Eap.SimpleMethods

/-!
Whether the switch has one verdict for each integrity check that it asks of a method.
-/

namespace OpenDiameter.Eap

open OpenDiameter.Foundation OpenDiameter.Framework

/-- In every state that integrity checks lead to, the next one has one verdict just where the
method answers. -/
def MethodMachine.VerdictIff {State Event Action Data Input Report : Type} [DecidableEq State]
    [DecidableEq Event] (machine : MethodMachine State Event Action Data Input Report)
    (check : Event) (start : Data → Data) (verdicts : List Report → Nat)
    (answers : Input → Data → State → Prop) : Prop :=
  ∀ {state : State} {data : Data}, machine.Reached check start state data → ∀ input : Input,
    verdicts (machine.event input 3 check state data).reports = 1 ↔ answers input data state

theorem MethodMachine.verdictIff {State Event Action Data Input Report : Type} [DecidableEq State]
    [DecidableEq Event] {machine : MethodMachine State Event Action Data Input Report}
    {check : Event} {start : Data → Data} {verdicts : List Report → Nat}
    {answers : Input → Data → State → Prop} (waits : State → Prop)
    (first : waits machine.initialState)
    (serve : ∀ input data state, waits state →
      waits (machine.event input 3 check state data).state ∧
        (verdicts (machine.event input 3 check state data).reports = 1 ↔
          answers input data state)) :
    machine.VerdictIff check start verdicts answers := by
  intro state data reached input
  have isWaiting := reached.invariant first fun input state data isWaiting =>
    (serve input data state isWaiting).1
  exact (serve input data state isWaiting).2

namespace IdentityAuth

def Waits (state : IdentityState) : Prop :=
  state = .initializing ∨ state = .waitResponse ∨ state = .success ∨ state = .failure

/-- The condition under which the switch has its verdict: the method is not over. -/
def Answers : IdentityState → Prop
  | .initializing => True
  | .waitResponse => True
  | _ => False

section Serve

variable (input : IdentityInput) (node : IdentityNode)

/-- A Response is accepted, or a trial is counted. -/
inductive Checked : Effect → Prop where
  | accepted (identity : EapOctets) :
      Checked { data := node, reports := [.peerIdentity identity], raised := some .sgSuccess }
  | again (reports : List AuthReport) (none : AuthReport.verdicts reports = 0) :
      Checked
        { data := { node with nTrial := node.nTrial + 1 }
          reports := reports
          raised := some .sgFailureMoreTrial }
  | ended (reports : List AuthReport) (none : AuthReport.verdicts reports = 0) :
      Checked
        { data := { node with nTrial := node.nTrial + 1 }
          reports := reports
          raised := some .sgFailureNoMoreTrial }

theorem countTrial_checked {reports : List AuthReport} (none : AuthReport.verdicts reports = 0) :
    Checked node (countTrial reports node) := by
  rw [countTrial]
  split
  · exact .again reports none
  · exact .ended reports none

theorem doIntegrityCheck_checked : Checked node (doIntegrityCheck input node) := by
  rw [doIntegrityCheck]
  split
  · exact countTrial_checked node rfl
  · split
    · exact .accepted _
    · exact countTrial_checked node rfl

/-- What follows a check of a Response. -/
theorem checked_served (depth : Nat) {state : IdentityState} {event : IdentityEvent}
    {entry : StateTableEntry IdentityState IdentityEvent IdentityAction}
    (found : identityAuth.table.find state event = some entry)
    (isCheck : entry.action = some .doIntegrityCheck)
    (isNext : entry.nextState = .processResponse) :
    Waits (identityAuth.event input (depth + 2) event state node).state ∧
      AuthReport.verdicts (identityAuth.event input (depth + 2) event state node).reports = 1 := by
  have foundSuccess : identityAuth.table.find .processResponse .sgSuccess =
      some ⟨.processResponse, some .sgSuccess, .success, some .notifySuccess⟩ := rfl
  have foundAgain : identityAuth.table.find .processResponse .sgFailureMoreTrial =
      some ⟨.processResponse, some .sgFailureMoreTrial, .waitResponse, some .prepareRequest⟩ := rfl
  have foundOver : identityAuth.table.find .processResponse .sgFailureNoMoreTrial =
      some ⟨.processResponse, some .sgFailureNoMoreTrial, .failure, some .notifyFailure⟩ := rfl
  have checked := doIntegrityCheck_checked input node
  generalize isEffect : doIntegrityCheck input node = effect at checked
  have does : identityAuth.act entry.action input node = effect := by
    rw [isCheck]
    exact isEffect
  cases checked with
  | accepted identity =>
    rw [MethodMachine.event_raises found does rfl, isNext,
      MethodMachine.event_ends foundSuccess rfl rfl]
    exact ⟨.inr (.inr (.inl rfl)), rfl⟩
  | again reports none =>
    rw [MethodMachine.event_raises found does rfl, isNext,
      MethodMachine.event_ends foundAgain rfl rfl]
    refine ⟨.inr (.inl rfl), ?_⟩
    rw [AuthReport.verdicts] at none
    rw [AuthReport.verdicts, List.countP_append, none]
    rfl
  | ended reports none =>
    rw [MethodMachine.event_raises found does rfl, isNext,
      MethodMachine.event_ends foundOver rfl rfl]
    refine ⟨.inr (.inr (.inr rfl)), ?_⟩
    rw [AuthReport.verdicts] at none
    rw [AuthReport.verdicts, List.countP_append, none]
    rfl

theorem serve_initializing :
    Waits (identityAuth.event input 3 .sgIntegrityCheck .initializing node).state ∧
      AuthReport.verdicts
        (identityAuth.event input 3 .sgIntegrityCheck .initializing node).reports = 1 := by
  have found : identityAuth.table.find .initializing .sgIntegrityCheck =
      some ⟨.initializing, some .sgIntegrityCheck, .checkPickUpInit, some .checkPickUpInit⟩ := rfl
  by_cases picksUp : input.isEapBackend ∧ ¬input.needInitialRequestToSend
  · have does : identityAuth.act (some .checkPickUpInit) input node =
        { data := node, raised := some .sgPickUpInit } := by
      simp only [MethodMachine.act, identityAuth, perform, if_pos picksUp]
    have foundNext : identityAuth.table.find .checkPickUpInit .sgPickUpInit =
        some ⟨.checkPickUpInit, some .sgPickUpInit, .processResponse, some .doIntegrityCheck⟩ := rfl
    rw [MethodMachine.event_raises found does rfl]
    exact checked_served input node 0 foundNext rfl rfl
  · have does : identityAuth.act (some .checkPickUpInit) input node =
        { data := node, raised := some .sgNoPickUpInit } := by
      simp only [MethodMachine.act, identityAuth, perform, if_neg picksUp]
    have foundNext : identityAuth.table.find .checkPickUpInit .sgNoPickUpInit =
        some ⟨.checkPickUpInit, some .sgNoPickUpInit, .waitResponse, some .prepareRequest⟩ := rfl
    rw [MethodMachine.event_checked found does foundNext rfl]
    exact ⟨.inr (.inl rfl), rfl⟩

theorem serve_answers {state : IdentityState} (waits : Waits state) :
    Waits (identityAuth.event input 3 .sgIntegrityCheck state node).state ∧
      (AuthReport.verdicts
          (identityAuth.event input 3 .sgIntegrityCheck state node).reports = 1 ↔
        Answers state) := by
  obtain rfl | rfl | rfl | rfl := waits
  · have one := serve_initializing input node
    exact ⟨one.1, iff_of_true one.2 trivial⟩
  · have found : identityAuth.table.find .waitResponse .sgIntegrityCheck =
        some ⟨.waitResponse, some .sgIntegrityCheck, .processResponse, some .doIntegrityCheck⟩ :=
      rfl
    have one := checked_served input node 1 found rfl rfl
    exact ⟨one.1, iff_of_true one.2 trivial⟩
  · exact ⟨.inr (.inr (.inl rfl)), iff_of_false Nat.zero_ne_one id⟩
  · exact ⟨.inr (.inr (.inr rfl)), iff_of_false Nat.zero_ne_one id⟩

end Serve

end IdentityAuth

namespace Md5Peer

def Waits (state : Md5State) : Prop := state = .initializing ∨ state = .success

def Answers (state : Md5State) : Prop := state = .initializing

/-- A Request is accepted or not. -/
theorem doIntegrityCheck_cases (md5 : EapOctets → EapOctets) (input : Md5Input) (node : Md5Node) :
    ∃ data, doIntegrityCheck md5 input node = { data := data, raised := some .sgReject } ∨
      doIntegrityCheck md5 input node = { data := data, raised := some .sgAccept } := by
  rw [doIntegrityCheck]
  split
  · exact ⟨node, .inl rfl⟩
  · split
    · exact ⟨node, .inl rfl⟩
    · exact ⟨_, .inr rfl⟩

theorem serve_answers (md5 : EapOctets → EapOctets) (input : Md5Input) (node : Md5Node)
    {state : Md5State} (waits : Waits state) :
    Waits ((md5ChallengePeer md5).event input 3 .sgIntegrityCheck state node).state ∧
      (PeerReport.verdicts
          ((md5ChallengePeer md5).event input 3 .sgIntegrityCheck state node).reports = 1 ↔
        Answers state) := by
  apply waits.elim
  · rintro rfl
    have found : (md5ChallengePeer md5).table.find .initializing .sgIntegrityCheck =
        some ⟨.initializing, some .sgIntegrityCheck, .process, some .doIntegrityCheck⟩ := rfl
    have foundReject : (md5ChallengePeer md5).table.find .process .sgReject =
        some ⟨.process, some .sgReject, .initializing, some .notifyInvalid⟩ := rfl
    have foundAccept : (md5ChallengePeer md5).table.find .process .sgAccept =
        some ⟨.process, some .sgAccept, .success, some .notifySuccess⟩ := rfl
    obtain ⟨data, rejects | accepts⟩ := doIntegrityCheck_cases md5 input node
    · rw [MethodMachine.event_checked found rejects foundReject rfl]
      exact ⟨.inl rfl, iff_of_true rfl rfl⟩
    · rw [MethodMachine.event_checked found accepts foundAccept rfl]
      exact ⟨.inr rfl, iff_of_true rfl rfl⟩
  · rintro rfl
    exact ⟨.inr rfl, iff_of_false Nat.zero_ne_one nofun⟩

end Md5Peer

namespace Md5Auth

def Waits (state : Md5State) : Prop :=
  state = .initializing ∨ state = .waitResponse ∨ state = .success ∨ state = .failure

/-- The condition under which the switch has its verdict: there is a challenge to send. -/
def Answers (input : Md5Input) : Md5State → Prop
  | .initializing => input.random.isSome
  | .waitResponse => True
  | _ => False

theorem doIntegrityCheck_cases (md5 : EapOctets → EapOctets) (input : Md5Input) (node : Md5Node) :
    ∃ data, doIntegrityCheck md5 input node = { data := data, raised := some .sgReject } ∨
      doIntegrityCheck md5 input node = { data := data, raised := some .sgAccept } := by
  rw [doIntegrityCheck]
  split
  · exact ⟨node, .inl rfl⟩
  · dsimp only
    split
    · exact ⟨_, .inl rfl⟩
    · split
      · exact ⟨_, .inr rfl⟩
      · exact ⟨_, .inl rfl⟩

theorem serve_answers (md5 : EapOctets → EapOctets) (input : Md5Input) (node : Md5Node)
    {state : Md5State} (waits : Waits state) :
    Waits ((md5ChallengeAuth md5).event input 3 .sgIntegrityCheck state node).state ∧
      (AuthReport.verdicts
          ((md5ChallengeAuth md5).event input 3 .sgIntegrityCheck state node).reports = 1 ↔
        Answers input state) := by
  obtain rfl | rfl | rfl | rfl := waits
  · have found : (md5ChallengeAuth md5).table.find .initializing .sgIntegrityCheck =
        some ⟨.initializing, some .sgIntegrityCheck, .waitResponse, some .prepareRequest⟩ := rfl
    rw [Answers]
    cases isRandom : input.random with
    | none =>
      have does : (md5ChallengeAuth md5).act (some .prepareRequest) input node =
          { data := node } := by
        simp only [MethodMachine.act, md5ChallengeAuth, perform, prepareRequest, isRandom]
      rw [MethodMachine.event_ends found does rfl]
      exact ⟨.inr (.inl rfl), iff_of_false Nat.zero_ne_one Bool.false_ne_true⟩
    | some random =>
      have does : (md5ChallengeAuth md5).act (some .prepareRequest) input node =
          { data := { node with value := firstOctets random 16 }
            reports :=
              [.txMessage (writeMd5 (firstOctets random 16) node.myName), .validResp] } := by
        simp only [MethodMachine.act, md5ChallengeAuth, perform, prepareRequest, isRandom]
      rw [MethodMachine.event_ends found does rfl]
      exact ⟨.inr (.inl rfl), iff_of_true rfl rfl⟩
  · have found : (md5ChallengeAuth md5).table.find .waitResponse .sgIntegrityCheck =
        some ⟨.waitResponse, some .sgIntegrityCheck, .process, some .doIntegrityCheck⟩ := rfl
    have foundAccept : (md5ChallengeAuth md5).table.find .process .sgAccept =
        some ⟨.process, some .sgAccept, .success, some .notifySuccess⟩ := rfl
    have foundReject : (md5ChallengeAuth md5).table.find .process .sgReject =
        some ⟨.process, some .sgReject, .failure, some .notifyInvalid⟩ := rfl
    obtain ⟨data, rejects | accepts⟩ := doIntegrityCheck_cases md5 input node
    · rw [MethodMachine.event_checked found rejects foundReject rfl]
      exact ⟨.inr (.inr (.inr rfl)), iff_of_true rfl trivial⟩
    · rw [MethodMachine.event_checked found accepts foundAccept rfl]
      exact ⟨.inr (.inr (.inl rfl)), iff_of_true rfl trivial⟩
  · exact ⟨.inr (.inr (.inl rfl)), iff_of_false Nat.zero_ne_one id⟩
  · exact ⟨.inr (.inr (.inr rfl)), iff_of_false Nat.zero_ne_one id⟩

end Md5Auth

namespace ArchiePeer

/-- The condition under which the switch has its verdict: a Request that is accepted can be
answered. -/
def Answers (input : ArchieInput) : ArchiePeerState → Prop
  | .initializing => (EapRequestArchieRequest.parseRawToApp input.rxMessage).isSome →
      input.sharedSecret.length = 64 → input.random.isSome ∧ input.identity.length ≠ 0
  | .responseSent => True
  | _ => False

theorem Served.answers {aesEncrypt : AesEncrypt} {input : ArchieInput} {node : ArchieNode}
    {state : ArchiePeerState} {run : Run} (served : Served aesEncrypt input node state run) :
    Waits run.state ∧ (PeerReport.verdicts run.reports = 1 ↔ Answers input state) := by
  cases served with
  | unread unread =>
    refine ⟨.inl rfl, iff_of_true rfl ?_⟩
    intro read
    rw [unread] at read
    cases read
  | unkeyed read short =>
    refine ⟨.inl rfl, iff_of_true rfl ?_⟩
    intro _ keyed
    exact absurd keyed short
  | noRandom read keyed failed =>
    refine ⟨.inr (.inl rfl), iff_of_false Nat.zero_ne_one ?_⟩
    intro answers
    have isRandom := (answers (Option.isSome_of_eq_some read) keyed).1
    rw [failed] at isRandom
    cases isRandom
  | unnamed read keyed isRandom noName =>
    refine ⟨.inr (.inl rfl), iff_of_false Nat.zero_ne_one ?_⟩
    intro answers
    exact (answers (Option.isSome_of_eq_some read) keyed).2 noName
  | responded read keyed isRandom named areFields isHistory =>
    refine ⟨.inr (.inl rfl), iff_of_true rfl ?_⟩
    intro _ _
    exact ⟨Option.isSome_of_eq_some isRandom, named⟩
  | refused refuses => exact ⟨.inr (.inl rfl), iff_of_true rfl trivial⟩
  | finished accepts areFields => exact ⟨.inr (.inr rfl), iff_of_true rfl trivial⟩
  | ended => exact ⟨.inr (.inr rfl), iff_of_false Nat.zero_ne_one id⟩

end ArchiePeer

namespace ArchieAuth

/-- The condition under which the switch has its verdict: there are random numbers for the message
that is to be sent, and a name for the first one. -/
def Answers (aesEncrypt : AesEncrypt) (input : ArchieInput) (node : ArchieNode) :
    ArchieAuthState → Prop
  | .initializing => input.random.isSome ∧ input.identity.length ≠ 0
  | .requestSent => ∀ response, Accepts aesEncrypt input node response → input.random.isSome
  | .confirmSent => True
  | _ => False

theorem Served.answers {aesEncrypt : AesEncrypt} {input : ArchieInput} {node : ArchieNode}
    {state : ArchieAuthState} {run : Run} (served : Served aesEncrypt input node state run) :
    Waits run.state ∧
      (AuthReport.verdicts run.reports = 1 ↔ Answers aesEncrypt input node state) := by
  cases served with
  | noRandom failed =>
    refine ⟨.inr (.inl rfl), iff_of_false Nat.zero_ne_one ?_⟩
    intro answers
    have isRandom := answers.1
    rw [failed] at isRandom
    cases isRandom
  | unnamed isRandom noName =>
    refine ⟨.inl rfl, iff_of_false Nat.zero_ne_one ?_⟩
    intro answers
    exact answers.2 noName
  | requested isRandom named built =>
    exact ⟨.inr (.inl rfl), iff_of_true rfl ⟨Option.isSome_of_eq_some isRandom, named⟩⟩
  | refused refuses =>
    refine ⟨.inl rfl, iff_of_true rfl ?_⟩
    intro response accepts
    exact absurd accepts (refuses response)
  | unconfirmed accepts failed =>
    refine ⟨.inr (.inr (.inl rfl)), iff_of_false Nat.zero_ne_one ?_⟩
    intro answers
    have isRandom := answers _ accepts
    rw [failed] at isRandom
    cases isRandom
  | confirmed accepts isRandom areFields isHistory =>
    refine ⟨.inr (.inr (.inl rfl)), iff_of_true rfl ?_⟩
    intro _ _
    exact Option.isSome_of_eq_some isRandom
  | finishRefused refuses => exact ⟨.inr (.inr (.inl rfl)), iff_of_true rfl trivial⟩
  | finished accepts => exact ⟨.inr (.inr (.inr rfl)), iff_of_true rfl trivial⟩
  | ended => exact ⟨.inr (.inr (.inr rfl)), iff_of_false Nat.zero_ne_one id⟩

end ArchieAuth

/-- Each check gets one verdict just where the next message can be built, the message after a
failure of EAP-GPSK is one, and the method is not over. -/
theorem integrityCheck_verdicts (aesEncrypt : AesEncrypt) (md5 : EapOctets → EapOctets) :
    identityAuth.VerdictIff .sgIntegrityCheck IdentityAuth.start AuthReport.verdicts
        (fun _ _ => IdentityAuth.Answers) ∧
      (md5ChallengePeer md5).VerdictIff .sgIntegrityCheck Md5Peer.start PeerReport.verdicts
        (fun _ _ => Md5Peer.Answers) ∧
      (md5ChallengeAuth md5).VerdictIff .sgIntegrityCheck Md5Auth.start AuthReport.verdicts
        (fun input _ => Md5Auth.Answers input) ∧
      (archiePeer aesEncrypt).VerdictIff .sgIntegrityCheck ArchiePeer.start PeerReport.verdicts
        (fun input _ => ArchiePeer.Answers input) ∧
      (archieAuth aesEncrypt).VerdictIff .sgIntegrityCheck ArchieAuth.start AuthReport.verdicts
        (ArchieAuth.Answers aesEncrypt) ∧
      (gpskPeer aesEncrypt).VerdictIff .sgIntegrityCheck GpskNode.start PeerReport.verdicts
        GpskPeer.Answers ∧
      (gpskAuth aesEncrypt).VerdictIff .sgIntegrityCheck GpskNode.start AuthReport.verdicts
        (GpskAuth.Answers aesEncrypt) := by
  refine ⟨?identity, ?md5Peer, ?md5Auth, ?archiePeer, ?archieAuth, ?gpskPeer, ?gpskAuth⟩
  case identity =>
    apply MethodMachine.verdictIff IdentityAuth.Waits (.inl rfl)
    intro input node state waits
    exact IdentityAuth.serve_answers input node waits
  case md5Peer =>
    apply MethodMachine.verdictIff Md5Peer.Waits (.inl rfl)
    intro input node state waits
    exact Md5Peer.serve_answers md5 input node waits
  case md5Auth =>
    apply MethodMachine.verdictIff Md5Auth.Waits (.inl rfl)
    intro input node state waits
    exact Md5Auth.serve_answers md5 input node waits
  case archiePeer =>
    apply MethodMachine.verdictIff ArchiePeer.Waits (.inl rfl)
    intro input node state waits
    exact (ArchiePeer.serve_served aesEncrypt input node waits).answers
  case archieAuth =>
    apply MethodMachine.verdictIff ArchieAuth.Waits (.inl rfl)
    intro input node state waits
    exact (ArchieAuth.serve_served aesEncrypt input node waits).answers
  case gpskPeer =>
    apply MethodMachine.verdictIff GpskPeer.Waits (.inl rfl)
    intro input node state waits
    exact GpskPeer.serve_answers aesEncrypt input node waits
  case gpskAuth =>
    apply MethodMachine.verdictIff GpskAuth.Waits (.inl rfl)
    intro input node state waits
    exact GpskAuth.serve_answers aesEncrypt input node waits

/-- A first message of a server without a name. -/
def namelessGpsk1 : GpskInput where
  rxMessage := [codeRequest, 1, 0, 48, 51, 1, 0, 0] ++ List.replicate 32 7 ++
    [0, 6, 0, 0, 0, 0, 0, 1]
  sharedSecret := List.replicate 16 7
  identity := [112]
  random := some (List.replicate 32 2)

/-- The peer accepts it and goes on, but cannot write the second message, and its switch is told of
neither. -/
theorem namelessGpsk1_silent :
    (gpskPeer fun _ block => block).Reached .sgIntegrityCheck GpskNode.start .initializing
        (GpskNode.start {}) ∧
      (serveGpskPeer (fun _ block => block) namelessGpsk1 .sgIntegrityCheck .initializing
        (GpskNode.start {})).state = .gpsk2Sent ∧
      PeerReport.verdicts
        (serveGpskPeer (fun _ block => block) namelessGpsk1 .sgIntegrityCheck .initializing
          (GpskNode.start {})).reports = 0 :=
  ⟨.start ({} : GpskNode), by decide +kernel, by decide +kernel⟩

end OpenDiameter.Eap
