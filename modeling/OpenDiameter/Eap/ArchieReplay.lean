import OpenDiameter.Eap.ArchieFreshness
import OpenDiameter.Eap.ArchieHonestRun

/-!
A conversation of EAP-Archie that is replayed: an authenticator accepts the Response and the Finish
of an earlier conversation, whatever session id its own Request has.
-/

namespace OpenDiameter.Eap

open OpenDiameter.Foundation OpenDiameter.Framework

namespace ArchieWorld

section Replay

variable (aesEncrypt : AesEncrypt) (setting : ArchieSetting) (randomSessionID randomA : EapOctets)

/-- The same applications with other random numbers of the authenticator. -/
def again : ArchieSetting :=
  { setting with randomSessionID := randomSessionID, randomA := randomA }

def misledNode : ArchieNode :=
  { setting.heardNode with
    nonceA := firstOctets randomA 40
    history := setting.responseHistory ++
      octetsAt (ArchieAuth.confirmFields randomA setting.heardNode).covered 4 592 }

/-- The run of an authenticator that is given the Response of another conversation. -/
def misled : ArchieAuth.Run where
  state := .confirmSent
  data := misledNode setting randomA
  reports :=
    [.txMessage ((ArchieAuth.confirmFields randomA setting.heardNode).covered ++
        setting.heardNode.mac aesEncrypt (misledNode setting randomA).history), .validResp]

theorem serve_misled :
    serveArchieAuth aesEncrypt
      (setting.authInput (setting.responseMsg aesEncrypt) (some randomA)) .sgIntegrityCheck
      .requestSent (again setting randomSessionID randomA).requestedNode =
        misled aesEncrypt setting randomA := by
  have found : (archieAuth aesEncrypt).table.find .requestSent .sgIntegrityCheck =
      some ⟨.requestSent, some .sgIntegrityCheck, .processResponse,
        some .doIntegrityCheckForResponseMsg⟩ := rfl
  let input := setting.authInput (setting.responseMsg aesEncrypt) (some randomA)
  have does : (archieAuth aesEncrypt).act (some .doIntegrityCheckForResponseMsg) input
      (again setting randomSessionID randomA).requestedNode =
        { data := setting.heardNode, raised := some .sgValid } := by
    have secret : ¬setting.sharedSecret.length ≠ 64 := fun other => other setting.secretLength
    have checks : ¬(setting.mac aesEncrypt setting.responseHistory ≠
        (setting.response aesEncrypt).mac1) := fun other => other rfl
    simp only [input, MethodMachine.act, archieAuth, ArchieAuth.perform, ArchieSetting.authInput,
      ArchieAuth.doIntegrityCheckForResponseMsg, setting.parse_responseMsg,
      setting.octetsAt_responseMsg, if_neg secret]
    exact if_neg checks
  have foundNext : (archieAuth aesEncrypt).table.find .processResponse .sgValid =
      some ⟨.processResponse, some .sgValid, .confirmSent, some .buildConfirm⟩ := rfl
  have doesNext := @ArchieAuth.buildConfirm_eq aesEncrypt input setting.heardNode randomA rfl
  exact MethodMachine.event_checked found does foundNext doesNext

/-- The Finish of the other conversation. -/
theorem serve_misled_finish :
    serveArchieAuth aesEncrypt (setting.authInput (setting.finishMsg aesEncrypt) none)
      .sgIntegrityCheck .confirmSent (misledNode setting randomA) =
        { state := .success
          data := { misledNode setting randomA with isDone := true }.deriveKey aesEncrypt true
          reports := [.policyUpdate .policyOnSuccess, .validResp] } := by
  have found : (archieAuth aesEncrypt).table.find .confirmSent .sgIntegrityCheck =
      some ⟨.confirmSent, some .sgIntegrityCheck, .processFinish,
        some .doIntegrityCheckForFinishMsg⟩ := rfl
  let input := setting.authInput (setting.finishMsg aesEncrypt) none
  have does : (archieAuth aesEncrypt).act (some .doIntegrityCheckForFinishMsg) input
      (misledNode setting randomA) =
        { data := misledNode setting randomA, raised := some .sgValid } := by
    have sameSession :
        ¬((setting.finish aesEncrypt).sessionID ≠ (misledNode setting randomA).sessionID) :=
      fun other => other rfl
    have checks : ¬(setting.mac aesEncrypt (octetsAt setting.finishFields.covered 4 36) ≠
        (setting.finish aesEncrypt).mac3) := fun other => other rfl
    simp only [input, MethodMachine.act, archieAuth, ArchieAuth.perform, ArchieSetting.authInput,
      ArchieAuth.doIntegrityCheckForFinishMsg, setting.parse_finishMsg,
      setting.octetsAt_finishMsg, if_neg sameSession]
    exact if_neg checks
  have foundNext : (archieAuth aesEncrypt).table.find .processFinish .sgValid =
      some ⟨.processFinish, some .sgValid, .success, some .notifySuccess⟩ := rfl
  exact MethodMachine.event_checked found does foundNext rfl

def freshWorld : ArchieWorld where
  peers _ := (.initializing, ArchiePeer.start setting.peer)
  auths _ := (.initializing, ArchieAuth.start setting.auth)
  maced := []
  log := []
  randoms := []

/-! The worlds of the replay, as far as the last delivery. -/

def requestedWorld : ArchieWorld :=
  { freshWorld setting with
    auths := Function.update (freshWorld setting).auths 0 (.requestSent, setting.requestedNode)
    log := [.generated 0 setting.sessionID]
    randoms := [setting.randomSessionID] }

def answeredWorld : ArchieWorld :=
  { requestedWorld setting with
    peers := Function.update (freshWorld setting).peers 0 (.responseSent, setting.answeredNode)
    maced := [setting.responseHistory]
    log :=
      [.generated 0 setting.sessionID, .received 0 setting.sessionID,
        .responded 0 (octetsAt setting.responseFields.covered 4 848)]
    randoms := [setting.randomSessionID, setting.randomP] }

def confirmedWorld : ArchieWorld :=
  { answeredWorld setting with
    auths := Function.update (requestedWorld setting).auths 0 (.confirmSent, setting.confirmedNode)
    maced := [setting.responseHistory, setting.confirmHistory]
    log := (answeredWorld setting).log ++
      [.heard 0 (octetsAt setting.responseFields.covered 4 848)]
    randoms := [setting.randomSessionID, setting.randomP, setting.randomA] }

def finishedWorld : ArchieWorld :=
  { confirmedWorld setting with
    peers := Function.update (answeredWorld setting).peers 0
      (.success, setting.agreedNode.deriveKey aesEncrypt true)
    maced :=
      [setting.responseHistory, setting.confirmHistory,
        octetsAt setting.finishFields.covered 4 36]
    log := (confirmedWorld setting).log ++
      [.finished 0 (octetsAt setting.finishFields.covered 4 36)] }

def requestedAgainWorld : ArchieWorld :=
  { finishedWorld aesEncrypt setting with
    auths := Function.update (confirmedWorld setting).auths 1
      (.requestSent, (again setting randomSessionID randomA).requestedNode)
    log := (finishedWorld aesEncrypt setting).log ++
      [.generated 1 (firstOctets randomSessionID 32)]
    randoms := [setting.randomSessionID, setting.randomP, setting.randomA, randomSessionID] }

theorem deliver_requested :
    (freshWorld setting).deliver aesEncrypt
      (.toAuth 0 (setting.authInput [] (some setting.randomSessionID))) =
        requestedWorld setting := by
  have run : (freshWorld setting).authRun aesEncrypt 0
      (setting.authInput [] (some setting.randomSessionID)) = _ := setting.requested_eq aesEncrypt
  simp only [deliver, run]
  rfl

theorem deliver_answered :
    (requestedWorld setting).deliver aesEncrypt
      (.toPeer 0 (setting.peerInput (setting.requestMsg aesEncrypt) (some setting.randomP))) =
        answeredWorld setting := by
  have run : (requestedWorld setting).peerRun aesEncrypt 0
      (setting.peerInput (setting.requestMsg aesEncrypt) (some setting.randomP)) = _ :=
    setting.answered_eq aesEncrypt
  have covers (mac1 : EapOctets) :
      octetsAt (setting.responseFields.covered ++ mac1) 4 848 =
        octetsAt setting.responseFields.covered 4 848 :=
    octetsAt_append_left _ (by simp)
  simp only [deliver, run, ArchiePeer.happenings, PeerReport.sent, List.findSome?_cons, covers]
  rfl

theorem deliver_confirmed :
    (answeredWorld setting).deliver aesEncrypt
      (.toAuth 0 (setting.authInput (setting.responseMsg aesEncrypt) (some setting.randomA))) =
        confirmedWorld setting := by
  have confirmed := setting.confirmed_eq aesEncrypt
  rw [ArchieSetting.confirmed, setting.requested_eq] at confirmed
  have run : (answeredWorld setting).authRun aesEncrypt 0
      (setting.authInput (setting.responseMsg aesEncrypt) (some setting.randomA)) = _ := confirmed
  have heard : octetsAt (setting.authInput (setting.responseMsg aesEncrypt)
      (some setting.randomA)).rxMessage 4 848 = octetsAt setting.responseFields.covered 4 848 :=
    setting.octetsAt_responseMsg aesEncrypt
  have before : ((answeredWorld setting).auths 0).1 = .requestSent := rfl
  simp only [deliver, run, ArchieAuth.happenings, before, heard]
  rfl

theorem deliver_finished :
    (confirmedWorld setting).deliver aesEncrypt
      (.toPeer 0 (setting.peerInput (setting.confirmMsg aesEncrypt) none)) =
        finishedWorld aesEncrypt setting := by
  have finished := setting.finished_eq aesEncrypt
  rw [ArchieSetting.finished, setting.answered_eq] at finished
  have run : (confirmedWorld setting).peerRun aesEncrypt 0
      (setting.peerInput (setting.confirmMsg aesEncrypt) none) = _ := finished
  have covers (mac3 : EapOctets) :
      octetsAt (setting.finishFields.covered ++ mac3) 4 36 =
        octetsAt setting.finishFields.covered 4 36 :=
    octetsAt_append_left _ (by simp)
  have before : ((confirmedWorld setting).peers 0).1 = .responseSent := rfl
  simp only [deliver, run, ArchiePeer.happenings, ArchiePeer.maced, PeerReport.sent,
    List.findSome?_cons, covers, before]
  rfl

theorem deliver_requested_again :
    (finishedWorld aesEncrypt setting).deliver aesEncrypt
      (.toAuth 1 (setting.authInput [] (some randomSessionID))) =
        requestedAgainWorld aesEncrypt setting randomSessionID randomA := by
  have run : (finishedWorld aesEncrypt setting).authRun aesEncrypt 1
      (setting.authInput [] (some randomSessionID)) = _ :=
    (again setting randomSessionID randomA).requested_eq aesEncrypt
  simp only [deliver, run]
  rfl

/-- The authenticator 1 after the Response of the first conversation. -/
def misledWorld : ArchieWorld :=
  (requestedAgainWorld aesEncrypt setting randomSessionID randomA).deliver aesEncrypt
    (.toAuth 1 (setting.authInput (setting.responseMsg aesEncrypt) (some randomA)))

def deceivedWorld : ArchieWorld :=
  (misledWorld aesEncrypt setting randomSessionID randomA).deliver aesEncrypt
    (.toAuth 1 (setting.authInput (setting.finishMsg aesEncrypt) none))

theorem misledWorld_eq :
    misledWorld aesEncrypt setting randomSessionID randomA =
      { requestedAgainWorld aesEncrypt setting randomSessionID randomA with
        auths := Function.update
          (requestedAgainWorld aesEncrypt setting randomSessionID randomA).auths 1
            (.confirmSent, misledNode setting randomA)
        maced := (finishedWorld aesEncrypt setting).maced ++ [(misledNode setting randomA).history]
        log := (requestedAgainWorld aesEncrypt setting randomSessionID randomA).log ++
          [.heard 1 (octetsAt setting.responseFields.covered 4 848)]
        randoms := [setting.randomSessionID, setting.randomP, setting.randomA, randomSessionID,
          randomA] } := by
  have run : (requestedAgainWorld aesEncrypt setting randomSessionID randomA).authRun aesEncrypt 1
      (setting.authInput (setting.responseMsg aesEncrypt) (some randomA)) = _ :=
    serve_misled aesEncrypt setting randomSessionID randomA
  have heard : octetsAt (setting.authInput (setting.responseMsg aesEncrypt)
      (some randomA)).rxMessage 4 848 = octetsAt setting.responseFields.covered 4 848 :=
    setting.octetsAt_responseMsg aesEncrypt
  have before : ((requestedAgainWorld aesEncrypt setting randomSessionID randomA).auths 1).1 =
      .requestSent := rfl
  simp only [misledWorld, deliver, run, ArchieAuth.happenings, before, heard]
  rfl

theorem deceivedWorld_eq :
    ((deceivedWorld aesEncrypt setting randomSessionID randomA).auths 1).1 = .success ∧
      (deceivedWorld aesEncrypt setting randomSessionID randomA).log =
        (misledWorld aesEncrypt setting randomSessionID randomA).log ++
          [.accepted 1 (octetsAt setting.finishFields.covered 4 36)] := by
  have isMisled := misledWorld_eq aesEncrypt setting randomSessionID randomA
  have waiting : (misledWorld aesEncrypt setting randomSessionID randomA).auths 1 =
      (.confirmSent, misledNode setting randomA) := by
    rw [isMisled]
    rfl
  have run : (misledWorld aesEncrypt setting randomSessionID randomA).authRun aesEncrypt 1
      (setting.authInput (setting.finishMsg aesEncrypt) none) =
        { state := .success
          data := { misledNode setting randomA with isDone := true }.deriveKey aesEncrypt true
          reports := [.policyUpdate .policyOnSuccess, .validResp] } := by
    rw [authRun, waiting]
    exact serve_misled_finish aesEncrypt setting randomA
  have accepted : octetsAt (setting.authInput (setting.finishMsg aesEncrypt) none).rxMessage 4 36 =
      octetsAt setting.finishFields.covered 4 36 := setting.octetsAt_finishMsg aesEncrypt
  constructor
  · simp only [deceivedWorld, deliver, run, Function.update_self]
  · simp only [deceivedWorld, deliver, run, waiting, ArchieAuth.happenings, accepted]

/-- The random numbers of the replay. -/
def replayRandoms : List EapOctets :=
  [setting.randomSessionID, setting.randomP, setting.randomA, randomSessionID, randomA]

/-- Session ids and nonces that are made of the numbers differ. -/
def Distinct (randoms : List EapOctets) : Prop :=
  randoms.Pairwise fun earlier later =>
    firstOctets later 32 ≠ firstOctets earlier 32 ∧ firstOctets later 40 ≠ firstOctets earlier 40

variable {aesEncrypt setting randomSessionID randomA}

/-- The numbers that come after others. -/
theorem Distinct.fresh {randoms : List EapOctets} (distinct : Distinct randoms)
    (earlier : List EapOctets) {later : List EapOctets} {random : EapOctets}
    (split : randoms = earlier ++ random :: later) {world : ArchieWorld}
    (given : world.randoms = earlier) {delivery : ArchieDelivery}
    (isRandom : delivery.input.random = some random) : world.Fresh delivery := by
  intro other isOther old wasGiven
  cases isRandom.symm.trans isOther
  rw [split] at distinct
  exact (List.pairwise_append.1 distinct).2.2 old (given ▸ wasGiven) random List.mem_cons_self

theorem fresh_of_none {world : ArchieWorld} {delivery : ArchieDelivery}
    (noRandom : delivery.input.random = none) : world.Fresh delivery := by
  intro random isRandom
  cases noRandom.symm.trans isRandom

/-- The first conversation, in which the authenticator has a Response to its own Request. -/
theorem reached_finished (distinct : Distinct (replayRandoms setting randomSessionID randomA)) :
    Reached Started (Attacked aesEncrypt setting.sharedSecret) OwnSession
      (finishedWorld aesEncrypt setting) := by
  have started : Started (freshWorld setting) :=
    ⟨fun _ => ⟨rfl, rfl⟩, fun _ => ⟨rfl, rfl⟩, rfl, rfl, rfl⟩
  have requested : Attacked aesEncrypt setting.sharedSecret (freshWorld setting)
      (.toAuth 0 (setting.authInput [] (some setting.randomSessionID)))
      (requestedWorld setting) := by
    refine ⟨rfl, distinct.fresh [] rfl rfl rfl, ⟨nofun, nofun⟩, ?_⟩
    exact (deliver_requested aesEncrypt setting).symm
  have answered : Attacked aesEncrypt setting.sharedSecret (requestedWorld setting)
      (.toPeer 0 (setting.peerInput (setting.requestMsg aesEncrypt) (some setting.randomP)))
      (answeredWorld setting) := by
    refine ⟨rfl, distinct.fresh [_] rfl rfl rfl, nofun, ?_⟩
    exact (deliver_answered aesEncrypt setting).symm
  have confirmed : Attacked aesEncrypt setting.sharedSecret (answeredWorld setting)
      (.toAuth 0 (setting.authInput (setting.responseMsg aesEncrypt) (some setting.randomA)))
      (confirmedWorld setting) := by
    refine ⟨rfl, distinct.fresh [_, _] rfl rfl rfl, ⟨fun _ _ => ?_, nofun⟩, ?_⟩
    · have covers := setting.octetsAt_responseMsg aesEncrypt
      have isMember : setting.responseHistory ∈ (answeredWorld setting).maced :=
        List.mem_singleton_self _
      rw [ArchieSetting.responseHistory, ← covers] at isMember
      exact isMember
    · exact (deliver_confirmed aesEncrypt setting).symm
  have finished : Attacked aesEncrypt setting.sharedSecret (confirmedWorld setting)
      (.toPeer 0 (setting.peerInput (setting.confirmMsg aesEncrypt) none))
      (finishedWorld aesEncrypt setting) := by
    refine ⟨rfl, fresh_of_none rfl, fun _ _ => ?_, ?_⟩
    · have covers := setting.octetsAt_confirmMsg aesEncrypt
      have isMember : setting.confirmHistory ∈ (confirmedWorld setting).maced :=
        List.mem_cons_of_mem _ (List.mem_singleton_self _)
      rw [ArchieSetting.confirmHistory, ← covers] at isMember
      exact isMember
    · exact (deliver_finished aesEncrypt setting).symm
  have own : (answeredWorld setting).OwnSession
      (.toAuth 0 (setting.authInput (setting.responseMsg aesEncrypt) (some setting.randomA))) := by
    intro _
    have isResponse := EapResponseArchieResponse.eq_of_parse (setting.parse_responseMsg aesEncrypt)
    exact (congrArg EapResponseArchieResponse.sessionID isResponse).symm
  have atStart : (freshWorld setting).OwnSession
      (.toAuth 0 (setting.authInput [] (some setting.randomSessionID))) := nofun
  exact (((Reached.start started).after _ requested atStart).after _ answered trivial).after _
    confirmed own |>.after _ finished trivial

theorem reached_deceived (distinct : Distinct (replayRandoms setting randomSessionID randomA)) :
    Reached Started (Attacked aesEncrypt setting.sharedSecret) (fun _ _ => True)
      (deceivedWorld aesEncrypt setting randomSessionID randomA) := by
  have first : Reached Started (Attacked aesEncrypt setting.sharedSecret) (fun _ _ => True)
      (finishedWorld aesEncrypt setting) :=
    (reached_finished distinct).mono fun _ _ _ => trivial
  have requestedAgain : Attacked aesEncrypt setting.sharedSecret (finishedWorld aesEncrypt setting)
      (.toAuth 1 (setting.authInput [] (some randomSessionID)))
      (requestedAgainWorld aesEncrypt setting randomSessionID randomA) := by
    refine ⟨rfl, distinct.fresh [_, _, _] rfl rfl rfl, ⟨nofun, nofun⟩, ?_⟩
    exact (deliver_requested_again aesEncrypt setting randomSessionID randomA).symm
  have misled : Attacked aesEncrypt setting.sharedSecret
      (requestedAgainWorld aesEncrypt setting randomSessionID randomA)
      (.toAuth 1 (setting.authInput (setting.responseMsg aesEncrypt) (some randomA)))
      (misledWorld aesEncrypt setting randomSessionID randomA) := by
    refine ⟨rfl, distinct.fresh [_, _, _, _] rfl rfl rfl, ⟨fun _ _ => ?_, nofun⟩, rfl⟩
    have covers := setting.octetsAt_responseMsg aesEncrypt
    have isMember : setting.responseHistory ∈
        (requestedAgainWorld aesEncrypt setting randomSessionID randomA).maced :=
      List.mem_cons_self
    rw [ArchieSetting.responseHistory, ← covers] at isMember
    exact isMember
  have deceived : Attacked aesEncrypt setting.sharedSecret
      (misledWorld aesEncrypt setting randomSessionID randomA)
      (.toAuth 1 (setting.authInput (setting.finishMsg aesEncrypt) none))
      (deceivedWorld aesEncrypt setting randomSessionID randomA) := by
    have isMisled := misledWorld_eq aesEncrypt setting randomSessionID randomA
    refine ⟨rfl, fresh_of_none rfl, ⟨fun waiting => ?_, fun _ _ => ?_⟩, rfl⟩
    · rw [isMisled] at waiting
      cases waiting
    · have covers := setting.octetsAt_finishMsg aesEncrypt
      have isMember : octetsAt setting.finishFields.covered 4 36 ∈
          (misledWorld aesEncrypt setting randomSessionID randomA).maced := by
        rw [isMisled]
        simp [finishedWorld]
      rw [← covers] at isMember
      exact isMember
  exact ((first.after _ requestedAgain trivial).after _ misled trivial).after _ deceived trivial

/-- No peer has received the session id of the authenticator 1. -/
theorem not_tookPart_deceived
    (differ : firstOctets randomSessionID 32 ≠ setting.sessionID) :
    ¬TookPart (deceivedWorld aesEncrypt setting randomSessionID randomA).log 1 := by
  intro ⟨sessionID, peer, response, finish, generated, received, _⟩
  rw [(deceivedWorld_eq aesEncrypt setting randomSessionID randomA).2,
    misledWorld_eq] at generated received
  simp only [requestedAgainWorld, finishedWorld, confirmedWorld, answeredWorld, requestedWorld,
    List.cons_append, List.nil_append, List.mem_cons, List.not_mem_nil, or_false, false_or,
    ArchieHappening.generated.injEq, ArchieHappening.received.injEq, reduceCtorEq,
    Nat.one_ne_zero, false_and, true_and] at generated received
  exact differ (generated.symm.trans received.2)

/-- The authenticator of the first conversation after the Finish. -/
def acceptedWorld (aesEncrypt : AesEncrypt) (setting : ArchieSetting) : ArchieWorld :=
  (finishedWorld aesEncrypt setting).deliver aesEncrypt
    (.toAuth 0 (setting.authInput (setting.finishMsg aesEncrypt) none))

theorem reached_accepted (distinct : Distinct (replayRandoms setting randomSessionID randomA)) :
    Reached Started (Attacked aesEncrypt setting.sharedSecret) OwnSession
        (acceptedWorld aesEncrypt setting) ∧
      ((acceptedWorld aesEncrypt setting).auths 0).1 = .success := by
  have accepted := setting.accepted_eq aesEncrypt
  rw [ArchieSetting.accepted, setting.confirmed_eq] at accepted
  have run : (finishedWorld aesEncrypt setting).authRun aesEncrypt 0
      (setting.authInput (setting.finishMsg aesEncrypt) none) = _ := accepted
  have attacked : Attacked aesEncrypt setting.sharedSecret (finishedWorld aesEncrypt setting)
      (.toAuth 0 (setting.authInput (setting.finishMsg aesEncrypt) none))
      (acceptedWorld aesEncrypt setting) := by
    refine ⟨rfl, fresh_of_none rfl, ⟨(by rintro ⟨⟩), fun _ _ => ?_⟩, rfl⟩
    have covers := setting.octetsAt_finishMsg aesEncrypt
    have isMember : octetsAt setting.finishFields.covered 4 36 ∈
        (finishedWorld aesEncrypt setting).maced := by simp [finishedWorld]
    rw [← covers] at isMember
    exact isMember
  constructor
  · exact (reached_finished distinct).after _ attacked (by rintro ⟨⟩)
  · rw [acceptedWorld, deliver, run]
    rfl

end Replay

theorem emptyBinding_fits : ({} : ArchieBinding).Fits := by
  have long : (List.replicate 256 (0 : UInt8)).length = 256 := List.length_replicate
  have field : FitsBlock (List.replicate 256 0) :=
    ⟨Nat.le_trans (by decide) (Nat.le_of_eq long.symm), Nat.le_of_eq long⟩
  exact ⟨field, field⟩

/-- Applications that give names of one octet, and a generator that counts. -/
def sampleArchie : ArchieSetting where
  sharedSecret := List.replicate 64 0
  secretLength := List.length_replicate
  authID := [1]
  authIDFits := ⟨by decide, by decide⟩
  peerID := [2]
  peerIDFits := ⟨by decide, by decide⟩
  randomSessionID := [1]
  randomP := [2]
  randomA := [3]
  peer := {}
  bindingFits := emptyBinding_fits
  auth := {}
  requestHeader := ⟨codeRequest, 1⟩
  responseHeader := ⟨codeResponse, 1⟩
  confirmHeader := ⟨codeRequest, 2⟩
  finishHeader := ⟨codeResponse, 2⟩

theorem sampleArchie_distinct : Distinct (replayRandoms sampleArchie [4] [5]) := by
  simp only [Distinct, replayRandoms, sampleArchie]
  decide

/-- The first conversation of the replay, in which the peer 0 takes part. -/
theorem sampleArchie_fresh :
    TookPart (acceptedWorld (fun _ block => block) sampleArchie).log 0 :=
  fresh_of_own_session (reached_accepted sampleArchie_distinct).1
    (reached_accepted sampleArchie_distinct).2

/-- An authenticator succeeds by the replay, and no peer has heard of its session. -/
theorem sampleArchie_replayed :
    ∃ world, Reached Started (Attacked (fun _ block => block) sampleArchie.sharedSecret)
        (fun _ _ => True) world ∧
      (world.auths 1).1 = .success ∧ ¬TookPart world.log 1 := by
  refine ⟨deceivedWorld (fun _ block => block) sampleArchie [4] [5],
    reached_deceived sampleArchie_distinct, (deceivedWorld_eq _ _ _ _).1, ?_⟩
  apply not_tookPart_deceived
  decide

end ArchieWorld

end OpenDiameter.Eap
