import Mathlib.Logic.Function.Basic
import OpenDiameter.Eap.AuthEffects
import OpenDiameter.Eap.Md5

/-!
The policy elements as an application builds them and as it means them, and the branches that a
standalone authenticator follows: it ends in success where the branches it followed lead to a
success element.
-/

namespace OpenDiameter.Eap

open OpenDiameter.Foundation OpenDiameter.Framework

/-- A call of an application on one of its policy elements. -/
inductive PolicyOperation where
  | addSuccessPolicyElement (sw : PolicySwitch)
  | addFailurePolicyElement
  | addContinuedPolicyElement (p : EapPolicyElement) (sw : PolicySwitch)
  deriving DecidableEq, Repr

namespace PolicyOperation

def apply : PolicyOperation → EapContinuedPolicyElement → EapContinuedPolicyElement
  | .addSuccessPolicyElement sw => fun element => element.addSuccessPolicyElement sw
  | .addFailurePolicyElement => fun element => element.addFailurePolicyElement
  | .addContinuedPolicyElement p sw => fun element => element.addContinuedPolicyElement p sw

/-- What the call is for: a failure element is one. -/
def meant : PolicyOperation → EapContinuedPolicyElement → EapContinuedPolicyElement
  | .addFailurePolicyElement => fun element => element.setNext .failure .policyOnFailure
  | operation => operation.apply

/-- Whether the last call on the failure branch added a failure element, given what it was before
this call. -/
def failureLast : PolicyOperation → Bool → Bool
  | .addFailurePolicyElement => fun _ => true
  | .addSuccessPolicyElement .policyOnFailure => fun _ => false
  | .addContinuedPolicyElement _ .policyOnFailure => fun _ => false
  | _ => id

end PolicyOperation

section Build

variable (types : Nat → EapType) (operations : List (Nat × PolicyOperation))

/-- What the calls leave at each element of what was there. -/
def operateAll {Value : Type} (change : PolicyOperation → Value → Value) (initial : Nat → Value) :
    Nat → Value :=
  operations.foldl (fun values call => Function.update values call.1 (change call.2 (values call.1)))
    initial

def newElements : PolicyElements := fun element => { methodType := types element }

def builtElements : PolicyElements :=
  operateAll operations PolicyOperation.apply (newElements types)

def meantElements : PolicyElements :=
  operateAll operations PolicyOperation.meant (newElements types)

def failureAddedLast : Nat → Bool :=
  operateAll operations PolicyOperation.failureLast fun _ => false

end Build

/-- The element that the branches lead to. -/
def followBranches (elements : PolicyElements) (start : EapPolicyElement)
    (branches : List PolicySwitch) : EapPolicyElement :=
  branches.foldl (fun element sw => EapPolicy.nextElement elements sw element) start

/-- The branches take the failure branch of an element to which a failure element was added
last. -/
def FollowsAddedFailure (types : Nat → EapType) (operations : List (Nat × PolicyOperation))
    (start : EapPolicyElement) (branches : List PolicySwitch) : Prop :=
  ∃ before after element, branches = before ++ .policyOnFailure :: after ∧
    followBranches (builtElements types operations) start before = .continued element ∧
    failureAddedLast operations element = true

/-- An element as it is built and as it is meant differ where a failure element was added last. -/
structure DiffersAt (last : Bool) (built meant : EapContinuedPolicyElement) : Prop where
  onSuccess : built.nextOnSuccess = meant.nextOnSuccess
  onFailure : last = false → built.nextOnFailure = meant.nextOnFailure
  added : last = true → built.nextOnFailure = .success ∧ meant.nextOnFailure = .failure

theorem DiffersAt.operate {last : Bool} {built meant : EapContinuedPolicyElement}
    (differs : DiffersAt last built meant) (operation : PolicyOperation) :
    DiffersAt (operation.failureLast last) (operation.apply built) (operation.meant meant) := by
  cases operation with
  | addFailurePolicyElement => exact ⟨differs.onSuccess, nofun, fun _ => ⟨rfl, rfl⟩⟩
  | addSuccessPolicyElement sw =>
    cases sw with
    | policyOnSuccess => exact ⟨rfl, differs.onFailure, differs.added⟩
    | policyOnFailure => exact ⟨differs.onSuccess, fun _ => rfl, nofun⟩
  | addContinuedPolicyElement p sw =>
    cases sw with
    | policyOnSuccess => exact ⟨rfl, differs.onFailure, differs.added⟩
    | policyOnFailure => exact ⟨differs.onSuccess, fun _ => rfl, nofun⟩

theorem differsAt_operateAll (operations : List (Nat × PolicyOperation)) {last : Nat → Bool}
    {built meant : PolicyElements}
    (differs : ∀ element, DiffersAt (last element) (built element) (meant element))
    (element : Nat) :
    DiffersAt (operateAll operations PolicyOperation.failureLast last element)
      (operateAll operations PolicyOperation.apply built element)
      (operateAll operations PolicyOperation.meant meant element) := by
  induction operations generalizing last built meant with
  | nil => exact differs element
  | cons call operations induction =>
    apply induction
    intro other
    dsimp only
    apply (eq_or_ne other call.1).elim
    · intro same
      rw [same, Function.update_self, Function.update_self, Function.update_self]
      exact (differs call.1).operate call.2
    · intro different
      rw [Function.update_of_ne different, Function.update_of_ne different,
        Function.update_of_ne different]
      exact differs other

theorem differsAt_built (types : Nat → EapType) (operations : List (Nat × PolicyOperation))
    (element : Nat) :
    DiffersAt (failureAddedLast operations element) (builtElements types operations element)
      (meantElements types operations element) := by
  apply differsAt_operateAll
  intro other
  exact ⟨rfl, fun _ => rfl, nofun⟩

@[simp] theorem followBranches_cons (elements : PolicyElements) (start : EapPolicyElement)
    (sw : PolicySwitch) (branches : List PolicySwitch) :
    followBranches elements start (sw :: branches) =
      followBranches elements (EapPolicy.nextElement elements sw start) branches := rfl

@[simp] theorem followBranches_append (elements : PolicyElements) (start : EapPolicyElement)
    (before after : List PolicySwitch) :
    followBranches elements start (before ++ after) =
      followBranches elements (followBranches elements start before) after := by
  simp [followBranches]

/-- A final element is not left. -/
theorem followBranches_final (elements : PolicyElements) {start : EapPolicyElement}
    (final : start.isContinued = false) (branches : List PolicySwitch) :
    followBranches elements start branches = start := by
  induction branches with
  | nil => rfl
  | cons sw branches induction =>
    cases start with
    | continued element => cases final
    | null => exact induction
    | success => exact induction
    | failure => exact induction

section Paths

variable {types : Nat → EapType} {operations : List (Nat × PolicyOperation)}

theorem followsAddedFailure_cons {start : EapPolicyElement} {sw : PolicySwitch}
    {branches : List PolicySwitch} :
    FollowsAddedFailure types operations start (sw :: branches) ↔
      (sw = .policyOnFailure ∧
        ∃ element, start = .continued element ∧ failureAddedLast operations element = true) ∨
      FollowsAddedFailure types operations
        (EapPolicy.nextElement (builtElements types operations) sw start) branches := by
  constructor
  · intro ⟨before, after, element, same, leads, added⟩
    cases before with
    | nil =>
      cases same
      exact .inl ⟨rfl, element, leads, added⟩
    | cons first before =>
      cases same
      exact .inr ⟨before, after, element, rfl, leads, added⟩
  · intro either
    apply either.elim
    · intro ⟨isFailure, element, isStart, added⟩
      cases isFailure
      exact ⟨[], branches, element, rfl, isStart, added⟩
    · intro ⟨before, after, element, same, leads, added⟩
      exact ⟨sw :: before, after, element, by rw [same]; rfl, leads, added⟩

/-- Branches that lead to success in what was built lead to success in what was meant unless they
take the branch of an added failure element. -/
theorem meant_success_iff (start : EapPolicyElement) (branches : List PolicySwitch)
    (succeeds : followBranches (builtElements types operations) start branches = .success) :
    followBranches (meantElements types operations) start branches = .success ↔
      ¬FollowsAddedFailure types operations start branches := by
  induction branches generalizing start with
  | nil =>
    have noBranch : ¬FollowsAddedFailure types operations start [] := by
      intro ⟨before, after, _, same, _⟩
      cases before with
      | nil => cases same
      | cons _ _ => cases same
    exact ⟨fun _ => noBranch, fun _ => succeeds⟩
  | cons sw branches induction =>
    rw [followsAddedFailure_cons, not_or]
    rw [followBranches_cons] at succeeds ⊢
    have later := induction _ succeeds
    cases start with
    | continued element =>
      have differs := differsAt_built types operations element
      cases sw with
      | policyOnSuccess =>
        have same : (meantElements types operations element).nextOnSuccess =
            (builtElements types operations element).nextOnSuccess := differs.onSuccess.symm
        change followBranches _ (meantElements types operations element).nextOnSuccess _ = _ ↔ _
        rw [same]
        constructor
        · intro meant
          exact ⟨nofun, later.mp meant⟩
        · intro avoids
          exact later.mpr avoids.2
      | policyOnFailure =>
        change followBranches _ (meantElements types operations element).nextOnFailure _ = _ ↔ _
        cases added : failureAddedLast operations element with
        | true =>
          rw [(differs.added added).2, followBranches_final _ rfl]
          constructor
          · nofun
          · intro avoids
            exact absurd ⟨rfl, element, rfl, added⟩ avoids.1
        | false =>
          rw [← differs.onFailure added]
          constructor
          · intro meant
            refine ⟨?_, later.mp meant⟩
            intro ⟨_, other, isOther, wasAdded⟩
            cases isOther
            exact absurd wasAdded (by simp [added])
          · intro avoids
            exact later.mpr avoids.2
    | null | success | failure =>
      constructor
      · intro meant
        exact ⟨nofun, later.mp meant⟩
      · intro avoids
        exact later.mpr avoids.2

end Paths

section Runs

variable {Method : Type} {methods : AuthMethods Method} {elements : PolicyElements}
  {initial : EapPolicyElement} {auth after begun : EapAuth Method} {event : AuthEvent}

/-- The current element is the one that the followed branches lead to. -/
structure Leads (elements : PolicyElements) (initial : EapPolicyElement) (path : PolicyPath) :
    Prop where
  standAlone : path.kind = .standAlone
  onElements : path.policy.elements = elements
  fromInitial : path.policy.initialPolicyElement = initial
  current : path.running = true →
    path.policy.currentPolicyElement = followBranches elements initial path.followed

theorem Leads.follow {path : PolicyPath} (leads : Leads elements initial path)
    (sw : PolicySwitch) :
    Leads elements initial
      { path with policy := path.policy.update sw, followed := path.followed ++ [sw] } where
  standAlone := leads.standAlone
  onElements := leads.onElements
  fromInitial := leads.fromInitial
  current := by
    intro running
    change EapPolicy.nextElement path.policy.elements _ path.policy.currentPolicyElement = _
    rw [leads.current running, leads.onElements, followBranches_append]
    rfl

/-- The authenticator is on its path, and it goes for success only where its policy is
satisfied. -/
structure OnPath (elements : PolicyElements) (initial : EapPolicyElement)
    (auth : EapAuth Method) : Prop where
  leads : Leads elements initial auth.path
  satisfied : auth.raised = some .sgPolicySat → auth.policy.isSatisfied = true
  notQueued : .switch .sgPolicySat ∉ auth.jobs

theorem decision_success_satisfied (isSuccess : auth.decision = .success) :
    auth.policy.isSatisfied = true := by
  rw [EapAuth.decision] at isSuccess
  split at isSuccess
  · split at isSuccess
    · cases isSuccess
    · cases isSuccess
  · split at isSuccess
    · assumption
    · split at isSuccess
      · cases isSuccess
      · cases isSuccess

namespace OnPath

theorem of_unraised (leads : Leads elements initial after.path)
    (unraised : after.raised ≠ some .sgPolicySat) (notQueued : .switch .sgPolicySat ∉ after.jobs) :
    OnPath elements initial after :=
  ⟨leads, fun raised => absurd raised unraised, notQueued⟩

theorem begins (onPath : OnPath elements initial auth) (takes : auth.Takes event begun) :
    begun.path = auth.path ∧ .switch .sgPolicySat ∉ begun.jobs := by
  cases takes with
  | raised _ => exact ⟨rfl, onPath.notQueued⟩
  | queued _ isFirst =>
    refine ⟨rfl, ?_⟩
    intro member
    exact onPath.notQueued (isFirst ▸ List.mem_cons_of_mem _ member)

theorem passive (leads : Leads elements initial auth.path)
    (notQueued : .switch .sgPolicySat ∉ auth.jobs) (passive : Passive auth after) :
    OnPath elements initial after where
  leads := by
    have same : after.path = auth.path := passive.quiet.path
    rw [same]
    exact leads
  satisfied := by
    intro raised
    have isSuccess := (passive.raised _ raised).2 rfl
    have samePolicy : after.policy = auth.policy := congrArg PolicyPath.policy passive.quiet.path
    rw [samePolicy]
    exact decision_success_satisfied isSuccess
  notQueued := by
    obtain ⟨added, isAdded, own⟩ := passive.quiet.jobs
    change after.jobs = auth.jobs ++ added at isAdded
    rw [isAdded]
    intro member
    apply (List.mem_append.mp member).elim notQueued
    intro isNew
    cases own _ isNew

theorem resetMethod (leads : Leads elements initial auth.path)
    (notQueued : .switch .sgPolicySat ∉ auth.jobs) (notRaised : auth.raised = none) :
    OnPath elements initial auth.resetMethod := by
  have unraised : auth.raised ≠ some .sgPolicySat := by simp [notRaised]
  rw [EapAuth.resetMethod]
  split
  · exact of_unraised leads unraised notQueued
  · rw [EapAuth.readNak, EapNakParser.parseRawToApp_nil, EapAuth.nakRounds,
      EapPolicy.updateOnNak_nil]
    exact of_unraised (leads.follow .policyOnFailure) nofun notQueued

theorem reply (leads : Leads elements initial auth.path)
    (notQueued : .switch .sgPolicySat ∉ auth.jobs) (notRaised : auth.raised = none)
    (reply : AuthReply) : OnPath elements initial (auth.reply reply) := by
  apply of_unraised
  · cases changes : reply.update with
    | none => simpa [EapAuth.reply, EapAuth.path, changes] using leads
    | some sw => simpa [EapAuth.reply, EapAuth.path, changes] using leads.follow sw
  · exact fun raised => nomatch notRaised.symm.trans raised
  · intro member
    apply (List.mem_append.mp member).elim notQueued
    cases signals : reply.signal with
    | none => simp
    | some signal => cases signal <;> simp [AuthSignal.event]

theorem performed (leads : Leads elements initial auth.path)
    (notQueued : .switch .sgPolicySat ∉ auth.jobs) (notRaised : auth.raised = none)
    (action : AuthAction) : OnPath elements initial (auth.perform methods action) := by
  have unraised : auth.raised ≠ some .sgPolicySat := by simp [notRaised]
  cases rx : action.takesRx with
  | true =>
    have took := @takesRx_perform Method methods auth notRaised action rx
    apply took.elim
    · rintro ⟨empty, _⟩
      cases action with
      | receiveMsg | receiveMsg2 | discard2 =>
        refine of_unraised ?_ ?_ ?_
        all_goals
          simp [EapAuth.perform, EapAuth.receiveMsg, EapAuth.receiveMsg2, EapAuth.discard2,
            empty, EapAuth.stop, notRaised, notQueued]
        all_goals exact leads
      | _ => cases rx
    · rintro ⟨_, rest, _, took⟩
      have begun : Leads elements initial (EapAuth.path { auth with rxQueue := rest }) := leads
      exact passive begun notQueued took
  | false =>
    cases aaa : action.takesAaa with
    | true =>
      have took := @takesAaa_perform Method methods auth notRaised action aaa
      apply took.elim
      · rintro ⟨empty, outcome⟩
        apply outcome.elim
        · rintro ⟨_, isDiscard⟩
          cases isDiscard
          refine of_unraised ?_ ?_ ?_
          all_goals
            simp [EapAuth.perform, EapAuth.discard3, empty, EapAuth.stop, notRaised, notQueued]
          all_goals exact leads
        · exact passive leads notQueued
      · rintro ⟨_, rest, _, took⟩
        have begun : Leads elements initial (EapAuth.path { auth with aaaRxQueue := rest }) := leads
        exact passive begun notQueued took
    | false =>
      cases ends : action.concludes with
      | true =>
        cases action with
        | sendSuccess | completePassThroughWithSuccess =>
          exact of_unraised leads unraised notQueued
        | resetMethod => exact resetMethod leads notQueued notRaised
        | _ => cases ends
      | false => exact passive leads notQueued (passive_perform notRaised rx aaa ends)

theorem serve (onPath : OnPath elements initial auth) :
    OnPath elements initial (auth.serve methods) := by
  have served := EapAuth.serve_served methods auth
  generalize auth.serve methods = after at served ⊢
  cases served with
  | nothing _ _ => exact onPath
  | ignored takes _ =>
    have begun := onPath.begins takes
    refine of_unraised ?_ ?_ begun.2
    · rw [begun.1]
      exact onPath.leads
    · simp [takes.raised_none]
  | @moved event begun entry takes _ _ _ =>
    have first := onPath.begins takes
    refine of_unraised ?_ ?_ first.2
    · change Leads elements initial begun.path
      rw [first.1]
      exact onPath.leads
    · simp [takes.raised_none]
  | @performed event begun entry action takes _ _ _ =>
    have first := onPath.begins takes
    have leads : Leads elements initial (EapAuth.path { begun with state := entry.nextState }) := by
      change Leads elements initial begun.path
      rw [first.1]
      exact onPath.leads
    have notRaised : ({ begun with state := entry.nextState } : EapAuth Method).raised = none :=
      takes.raised_none
    exact performed leads first.2 notRaised action
  | @method event rest notRaised isFirst =>
    have notQueued : .switch .sgPolicySat ∉ rest := by
      intro member
      exact onPath.notQueued (isFirst ▸ List.mem_cons_of_mem _ member)
    rw [EapAuth.serveMethod]
    split
    · exact of_unraised onPath.leads (by simp [EapAuth.stop, notRaised]) notQueued
    · rename_i method _
      have leads : Leads elements initial (EapAuth.path { auth with
          jobs := rest
          method := some (methods.serve event auth.rxMessage auth.currentIdentifier method).1 }) :=
        onPath.leads
      exact reply leads notQueued notRaised _
  | @innerMethod event rest notRaised isFirst =>
    have notQueued : .switch .sgPolicySat ∉ rest := by
      intro member
      exact onPath.notQueued (isFirst ▸ List.mem_cons_of_mem _ member)
    rw [EapAuth.serveInnerMethod]
    split
    · exact of_unraised onPath.leads (by simp [EapAuth.stop, notRaised]) notQueued
    · rename_i method _
      have leads : Leads elements initial (EapAuth.path { auth with
          jobs := rest
          innerMethod :=
            some (methods.serve event auth.rxMessage auth.currentIdentifier method).1 }) :=
        onPath.leads
      exact reply leads notQueued notRaised _

theorem notify (onPath : OnPath elements initial auth) {event : AuthEvent}
    (other : event ≠ .sgPolicySat) : OnPath elements initial (auth.notify event) where
  leads := onPath.leads
  satisfied := onPath.satisfied
  notQueued := by
    intro member
    apply (List.mem_append.mp member).elim onPath.notQueued
    intro isNew
    cases List.mem_singleton.mp isNew
    exact other rfl

theorem start (onPath : OnPath elements initial auth) (notRaised : auth.raised = none) :
    OnPath elements initial auth.start := by
  have standAlone : auth.kind = .standAlone := onPath.leads.standAlone
  let reset : EapAuth Method :=
    { auth with policy := { auth.policy with
        currentPolicyElement := auth.policy.initialPolicyElement } }
  have deleted : Quiet reset reset.deleteMethod := .deleteMethod
  have samePolicy : reset.deleteMethod.policy = reset.policy := congrArg PolicyPath.policy deleted.path
  have sameKind : reset.deleteMethod.kind = reset.kind := congrArg PolicyPath.kind deleted.path
  have isStarted : auth.start = { reset.deleteMethod with
      running := true
      state := .begin_
      keyData := []
      keyAvailable := false
      followed := [] }.notify .sgRestart := by
    rw [EapAuth.start]
    dsimp only
    rw [if_pos standAlone]
  rw [isStarted]
  have other : AuthEvent.sgRestart ≠ .sgPolicySat := nofun
  refine notify ?_ other
  apply of_unraised
  · refine ⟨?_, ?_, ?_, ?_⟩
    · exact sameKind.trans standAlone
    · change reset.deleteMethod.policy.elements = elements
      rw [samePolicy]
      exact onPath.leads.onElements
    · change reset.deleteMethod.policy.initialPolicyElement = initial
      rw [samePolicy]
      exact onPath.leads.fromInitial
    · intro _
      change reset.deleteMethod.policy.currentPolicyElement = initial
      rw [samePolicy]
      exact onPath.leads.fromInitial
  · have raised : reset.deleteMethod.raised = none := deleted.raised.trans notRaised
    simp [raised]
  · obtain ⟨added, isAdded, own⟩ := deleted.jobs
    change .switch .sgPolicySat ∉ reset.deleteMethod.jobs
    rw [isAdded]
    intro member
    apply (List.mem_append.mp member).elim onPath.notQueued
    intro isNew
    cases own _ isNew

theorem step (onPath : OnPath elements initial auth) {input : AuthInput}
    (step : AuthStep methods auth input after) : OnPath elements initial after := by
  have standAlone : auth.kind = .standAlone := onPath.leads.standAlone
  have noAaa : auth.decision ≠ .passthrough := by
    rw [EapAuth.decision, standAlone]
    simp only [reduceCtorEq, if_false]
    split
    · nofun
    · split
      · nofun
      · nofun
  obtain ⟨_, startable, backend, _, rfl⟩ := step
  cases input with
  | start => exact onPath.start (startable rfl)
  | startWith msg =>
    have isBackend := (backend msg rfl).1
    rw [standAlone] at isBackend
    cases isBackend
  | receive msg =>
    have queued : OnPath elements initial { auth with rxQueue := auth.rxQueue ++ [msg] } :=
      ⟨onPath.leads, onPath.satisfied, onPath.notQueued⟩
    exact queued.notify nofun
  | timeout => exact onPath.notify nofun
  | aaaSuccess msg key =>
    simp only [AuthInput.apply, if_neg noAaa]
    exact onPath
  | aaaFailure msg =>
    rw [AuthInput.apply, EapAuth.receiveFromAaa, if_neg noAaa]
    exact onPath
  | aaaContinue msg =>
    rw [AuthInput.apply, EapAuth.receiveFromAaa, if_neg noAaa]
    exact onPath
  | serve => exact onPath.serve

end OnPath

/-- A standalone authenticator that has elements built for its policy. -/
def StandAlonePolicy (elements : PolicyElements) (initial : EapPolicyElement)
    (auth : EapAuth Method) : Prop :=
  ∃ policy methodState, policy.elements = elements ∧ policy.initialPolicyElement = initial ∧
    auth = newAuth .standAlone policy methodState

/-- The runs of a standalone authenticator over its policy. -/
abbrev StandAloneReached (methods : AuthMethods Method) (elements : PolicyElements)
    (initial : EapPolicyElement) : EapAuth Method → Prop :=
  Reached (StandAlonePolicy elements initial) (AuthStep methods) fun _ _ => True

theorem StandAloneReached.onPath (reached : StandAloneReached methods elements initial auth) :
    OnPath elements initial auth := by
  apply reached.invariant
  · intro started ⟨policy, methodState, onElements, fromInitial, isNew⟩
    cases isNew
    exact ⟨⟨rfl, onElements, fromInitial, nofun⟩, nofun, nofun⟩
  · intro _ _ _ onPath step _
    exact onPath.step step

/-- The only entry that leads to the callback `Success`. -/
theorem standAlone_sendSuccess : ∀ entry ∈ standAloneStateTable,
    entry.action = some .sendSuccess → entry.event = some .sgPolicySat := by decide

theorem standAlone_notPassThrough : ∀ entry ∈ standAloneStateTable,
    entry.action ≠ some .completePassThroughWithSuccess := by decide

variable {msg : Option EapOctets}

theorem not_success_of_calls {added : List AuthCall} (noSuccess : ∀ msg, .success msg ∉ added)
    {calls : List AuthCall} (isAdded : calls = auth.calls ++ added) :
    calls ≠ auth.calls ++ [.success msg] := by
  intro isSuccess
  rw [isAdded] at isSuccess
  have same := List.append_cancel_left isSuccess
  exact noSuccess msg (same ▸ List.mem_singleton_self _)

/-- Success is called on an event that the policy check raised. -/
theorem OnPath.of_success (onPath : OnPath elements initial auth)
    (succeeds : (auth.serve methods).calls = auth.calls ++ [.success msg]) :
    auth.running = true ∧ auth.raised = some .sgPolicySat := by
  have unchanged {calls : List AuthCall} (same : calls = auth.calls) :
      calls ≠ auth.calls ++ [.success msg] := by
    rw [same]
    simp
  have served := EapAuth.serve_served methods auth
  generalize auth.serve methods = after at served succeeds
  have standAlone : auth.kind = .standAlone := onPath.leads.standAlone
  have begins {event : AuthEvent} {begun : EapAuth Method} (takes : auth.Takes event begun) :
      begun.calls = auth.calls := by
    cases takes with
    | raised _ => rfl
    | queued _ _ => rfl
  cases served with
  | nothing _ _ => exact absurd succeeds (unchanged rfl)
  | ignored takes _ => exact absurd succeeds (unchanged (begins takes))
  | moved takes _ _ _ =>
    have same := begins takes
    exact absurd succeeds (unchanged same)
  | @performed event begun entry action takes running found isAction =>
    rw [standAlone] at found
    have sameCalls : begun.calls = auth.calls := begins takes
    obtain ⟨member, serves⟩ := StateTable.find_sound found
    have notRaised : ({ begun with state := entry.nextState } : EapAuth Method).raised = none :=
      takes.raised_none
    have passives {other : EapAuth Method}
        (passive : Passive other
          (({ begun with state := entry.nextState } : EapAuth Method).perform methods action))
        (calls : other.calls = auth.calls) : False := by
      obtain ⟨added, isAdded, noSuccess⟩ := passive.quiet.calls
      refine not_success_of_calls noSuccess ?_ succeeds
      rw [← calls]
      exact isAdded
    cases rx : action.takesRx with
    | true =>
      apply (@takesRx_perform _ methods _ notRaised _ rx).elim
      · rintro ⟨empty, _⟩
        cases action with
        | receiveMsg | receiveMsg2 | discard2 =>
          refine absurd succeeds (unchanged ?_)
          simp [EapAuth.perform, EapAuth.receiveMsg, EapAuth.receiveMsg2, EapAuth.discard2,
            show begun.rxQueue = [] from empty, EapAuth.stop, sameCalls]
        | _ => cases rx
      · rintro ⟨_, rest, _, took⟩
        exact (passives took sameCalls).elim
    | false =>
      cases aaa : action.takesAaa with
      | true =>
        apply (@takesAaa_perform _ methods _ notRaised _ aaa).elim
        · rintro ⟨empty, outcome⟩
          apply outcome.elim
          · rintro ⟨_, isDiscard⟩
            cases isDiscard
            refine absurd succeeds (unchanged ?_)
            simp [EapAuth.perform, EapAuth.discard3,
              show begun.aaaRxQueue = [] from empty, EapAuth.stop, sameCalls]
          · intro passive
            exact (passives passive sameCalls).elim
        · rintro ⟨_, rest, _, took⟩
          exact (passives took sameCalls).elim
      | false =>
        cases ends : action.concludes with
        | true =>
          cases action with
          | sendSuccess =>
            have isEvent := standAlone_sendSuccess entry member isAction
            have same := serves.2 _ isEvent
            cases takes with
            | raised isRaised => exact ⟨running, same ▸ isRaised⟩
            | queued _ isFirst =>
              refine absurd ?_ onPath.notQueued
              rw [isFirst, ← same]
              exact List.mem_cons_self
          | completePassThroughWithSuccess =>
            exact absurd isAction (standAlone_notPassThrough entry member)
          | resetMethod =>
            refine absurd succeeds (unchanged ?_)
            simp only [EapAuth.perform, EapAuth.resetMethod]
            split
            · exact sameCalls
            · split
              · exact sameCalls
              · exact sameCalls
          | _ => cases ends
        | false => exact (passives (passive_perform notRaised rx aaa ends) sameCalls).elim
  | method _ _ =>
    refine absurd succeeds (unchanged ?_)
    rw [EapAuth.serveMethod]
    split
    · rfl
    · rfl
  | innerMethod _ _ =>
    refine absurd succeeds (unchanged ?_)
    rw [EapAuth.serveInnerMethod]
    split
    · rfl
    · rfl

/-- The authenticator calls Success where the branches it followed lead to a success element. -/
theorem OnPath.success_leads (onPath : OnPath elements initial auth)
    (succeeds : (auth.serve methods).calls = auth.calls ++ [.success msg]) :
    followBranches elements initial auth.followed = .success := by
  have atSuccess := onPath.of_success succeeds
  have satisfied := onPath.satisfied atSuccess.2
  have current : auth.policy.currentPolicyElement = followBranches elements initial auth.followed :=
    onPath.leads.current atSuccess.1
  rw [← current]
  exact of_decide_eq_true satisfied

/-- Of the authenticators that call Success, those keep to the policy as it is meant that did not
take the failure branch of an element to which a failure element was added last. -/
theorem success_meets_policy_iff {types : Nat → EapType}
    {operations : List (Nat × PolicyOperation)} {msg : Option EapOctets}
    (reached : StandAloneReached methods (builtElements types operations) initial auth)
    (succeeds : (auth.serve methods).calls = auth.calls ++ [.success msg]) :
    followBranches (meantElements types operations) initial auth.followed = .success ↔
      ¬FollowsAddedFailure types operations initial auth.followed :=
  meant_success_iff initial auth.followed (reached.onPath.success_leads succeeds)

end Runs

theorem reached_runInputs {Method : Type} {methods : AuthMethods Method}
    {elements : PolicyElements} {initial : EapPolicyElement} {auth last : EapAuth Method}
    (reached : StandAloneReached methods elements initial auth) (inputs : List AuthInput)
    (runs : runInputs (AuthInput.apply methods) authFits auth inputs = some last) :
    StandAloneReached methods elements initial last :=
  reached.runInputs (fun _ _ fits => ⟨authStep_of_fits fits, trivial⟩) runs

section FailedMethod

/-- The one element is for MD5-Challenge. -/
def md5Types : Nat → EapType := fun _ => .md5Challenge

/-- A standalone authenticator with a policy of elements for MD5-Challenge. -/
def md5Auth (operations : List (Nat × PolicyOperation)) : EapAuth Md5AuthState :=
  newAuth .standAlone
    { elements := builtElements md5Types operations
      initialPolicyElement := .continued 0
      currentPolicyElement := .null } .proposed

theorem reached_md5Auth (operations : List (Nat × PolicyOperation)) :
    StandAloneReached (md5AuthMethods sampleMd5) (builtElements md5Types operations)
      (.continued 0) (md5Auth operations) :=
  .start ⟨_, _, rfl, rfl, rfl⟩

/-- The inputs until the Response with a value is served and the policy is checked. -/
def md5Exchange (value : EapOctets) : List AuthInput :=
  [.start] ++ List.replicate 8 .serve ++
    [.receive ([codeResponse, 1, 0, 22, 4, UInt8.ofNat value.length] ++ value)] ++
    List.replicate 5 .serve

/-- A peer with the right passphrase leads to Success over the default elements. -/
theorem success_meets_policy_md5 : ∃ auth : EapAuth Md5AuthState,
    StandAloneReached (md5AuthMethods sampleMd5) (builtElements md5Types []) (.continued 0) auth ∧
    (followBranches (meantElements md5Types []) (.continued 0) auth.followed = .success ↔
      ¬FollowsAddedFailure md5Types [] (.continued 0) auth.followed) := by
  have runs := reached_runInputs (reached_md5Auth [])
    (md5Exchange (md5Response sampleMd5 1 sampleMd5.challenge)) rfl
  have succeeds := success_meets_policy_iff runs (Eq.refl _ :
    _ = _ ++ [AuthCall.success (some [3, 1, 0, 4])])
  exact ⟨_, runs, succeeds⟩

/-- A peer with the wrong passphrase is called successful although a failure element was added for
it. -/
theorem failure_element_succeeds : ∃ auth : EapAuth Md5AuthState,
    StandAloneReached (md5AuthMethods sampleMd5)
      (builtElements md5Types [(0, .addFailurePolicyElement)]) (.continued 0) auth ∧
    (∃ msg, (auth.serve (md5AuthMethods sampleMd5)).calls = auth.calls ++ [.success msg]) ∧
    followBranches (meantElements md5Types [(0, .addFailurePolicyElement)]) (.continued 0)
      auth.followed = .failure := by
  have runs := reached_runInputs (reached_md5Auth [(0, .addFailurePolicyElement)])
    (md5Exchange [1]) rfl
  exact ⟨_, runs, ⟨_, rfl⟩, rfl⟩

end FailedMethod

end OpenDiameter.Eap
