import OpenDiameter.Eap.Types

/-!
`eap_policy.hxx` and `eap_policy.cxx`: the policy elements, how an application links them and
how a session moves over them.
-/

namespace OpenDiameter.Eap

/-- An `EapPolicyElement*`: null, one of the two singletons, or a continued element. -/
inductive EapPolicyElement where
  | null
  | success
  | failure
  | continued (element : Nat)
  deriving DecidableEq, Repr

def EapPolicyElement.isContinued : EapPolicyElement → Bool
  | .continued _ => true
  | _ => false

inductive PolicySwitch where
  | policyOnSuccess
  | policyOnFailure
  deriving DecidableEq, Repr

structure EapContinuedPolicyElement where
  methodType : EapType
  nextOnSuccess : EapPolicyElement := .success
  nextOnFailure : EapPolicyElement := .failure
  deriving DecidableEq, Repr

namespace EapContinuedPolicyElement

def nextPolicyElement (element : EapContinuedPolicyElement) :
    PolicySwitch → EapPolicyElement
  | .policyOnSuccess => element.nextOnSuccess
  | .policyOnFailure => element.nextOnFailure

def setNext (element : EapContinuedPolicyElement) (next : EapPolicyElement) :
    PolicySwitch → EapContinuedPolicyElement
  | .policyOnSuccess => { element with nextOnSuccess := next }
  | .policyOnFailure => { element with nextOnFailure := next }

def addSuccessPolicyElement (element : EapContinuedPolicyElement) (sw : PolicySwitch) :
    EapContinuedPolicyElement :=
  element.setNext .success sw

def addFailurePolicyElement (element : EapContinuedPolicyElement) : EapContinuedPolicyElement :=
  { element with nextOnFailure := .success }

def addContinuedPolicyElement (element : EapContinuedPolicyElement) (p : EapPolicyElement)
    (sw : PolicySwitch) : EapContinuedPolicyElement :=
  element.setNext p sw

end EapContinuedPolicyElement

/-- The continued elements of an application, by their addresses. -/
abbrev PolicyElements := Nat → EapContinuedPolicyElement

structure EapPolicy where
  elements : PolicyElements
  initialPolicyElement : EapPolicyElement
  currentPolicyElement : EapPolicyElement
  innerEapMethodType : EapType := .none

namespace EapPolicy

/-- `EapPolicy::Allow` -/
def allow (policy : EapPolicy) (type : EapType) : Bool :=
  if type = .notification then true
  else
    match policy.currentPolicyElement with
    | .null => false
    | .success => true
    | .failure => false
    | .continued element => decide ((policy.elements element).methodType = type)

/-- `EapPolicy::IsSatisfied` -/
def isSatisfied (policy : EapPolicy) : Bool :=
  decide (policy.currentPolicyElement = .success)

/-- `EapPolicy::CurrentMethod`, nothing where it throws. -/
def currentMethod (policy : EapPolicy) : Option EapType :=
  match policy.currentPolicyElement with
  | .continued element => some (policy.elements element).methodType
  | _ => none

/-- The element one hop on. -/
def nextElement (elements : PolicyElements) (sw : PolicySwitch) :
    EapPolicyElement → EapPolicyElement
  | .continued element => (elements element).nextPolicyElement sw
  | final => final

/-- `EapPolicy::Update` for the end of a method -/
def update (policy : EapPolicy) (sw : PolicySwitch) : EapPolicy :=
  { policy with
    currentPolicyElement := nextElement policy.elements sw policy.currentPolicyElement }

/-- `EapPolicy::Update` for a Nak, in at most so many rounds: nothing where it reads the type of
an element that has none. -/
def updateOnNak (types : EapTypeList) : (rounds : Nat) → EapPolicy → Option EapPolicy
  | 0, policy => some policy
  | rounds + 1, policy =>
    if policy.currentPolicyElement.isContinued then
      let next := policy.update .policyOnFailure
      if types.isEmpty then some next
      else
        match next.currentMethod with
        | none => none
        | some type => if types.search type then some next else updateOnNak types rounds next
    else some policy

@[simp] theorem updateOnNak_nil (policy : EapPolicy) (rounds : Nat) :
    updateOnNak [] (rounds + 1) policy = some (policy.update .policyOnFailure) := by
  obtain ⟨elements, initial, current, inner⟩ := policy
  cases current with
  | continued element => rfl
  | null => rfl
  | success => rfl
  | failure => rfl

/-- `EapPolicy::MakeTypeList` from an element, in at most so many nested calls. Its recursion
passes the next element as the flag of the function that starts at the current element again. -/
def makeTypeListFrom (policy : EapPolicy) :
    (depth : Nat) → EapTypeList → (isVSE : Bool) → EapPolicyElement → EapTypeList
  | 0, types, _, _ => types
  | depth + 1, types, isVSE, .continued element =>
    let cpe := policy.elements element
    let type := if !isVSE && cpe.methodType.isVSE then ⟨254, 0, 0⟩ else cpe.methodType
    if types.search type then types
    else
      let again (types : EapTypeList) (sw : PolicySwitch) : EapTypeList :=
        policy.makeTypeListFrom depth types (cpe.nextPolicyElement sw ≠ .null)
          policy.currentPolicyElement
      again (again (types ++ [type]) .policyOnSuccess) .policyOnFailure
  | _ + 1, types, _, _ => types

/-- `EapPolicy::MakeTypeList`: an element is met as itself and, for a legacy Request, as type 254,
so that three nested calls are enough. -/
def makeTypeList (policy : EapPolicy) (types : EapTypeList) (isVSE : Bool) : EapTypeList :=
  let listed := policy.makeTypeListFrom 3 types isVSE policy.currentPolicyElement
  if listed.isEmpty then [.none] else listed

end EapPolicy

end OpenDiameter.Eap
