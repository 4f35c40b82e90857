import OpenDiameter.Peer.PeerTable

/-!
Two parties that connect to each other at the same time, and what each does with the
two connections. A party accepts the other's connection, or gives one of them up; it
acts on what the other has sent and closed.
-/

namespace OpenDiameter.Peer

/-- Where a connection is at a party. -/
inductive Place where
  | absent
  /-- It comes with an event that is not served yet. -/
  | arriving
  | held
  | dropped
deriving DecidableEq

@[ext] structure Party where
  state : PeerState
  /-- The connection that the party initiated. -/
  own : Place
  other : Place
  /-- A CER was sent. -/
  offered : Bool
  /-- A CEA of success was sent. -/
  agreed : Bool
  /-- A CEA of a failure was sent. -/
  refused : Bool

namespace Party

def initial : Party where
  state := .closed
  own := .absent
  other := .absent
  offered := false
  agreed := false
  refused := false

/-- The connection stays where it is or is given up. -/
def Drops (before after : Place) : Prop :=
  after = before ∨ after = .dropped

/-- Why a party closes that does not give up the other's connection. -/
def Ends (far near : Party) : Prop :=
  near.state = .closed ∨
    ((near.state = .waitICea ∨ near.state = .iOpen) ∧
      (far.other = .dropped ∨ far.refused = true))

/-- A step of a party, by what the other one did before. It has won where its host is
the greater one. -/
inductive Step (won : Bool) (far near : Party) : Party → Prop
  | connected : near.own = .absent → Step won far near { near with own := .arriving }
  | requested : near.other = .absent → far.offered = true →
      Step won far near { near with other := .arriving }
  | lost : near.other = .absent → Step won far near { near with other := .dropped }
  | ignoreOwn : near.own = .arriving → Step won far near { near with own := .dropped }
  | ignoreOther : near.other = .arriving → Step won far near { near with other := .dropped }
  | start : near.state = .closed → Step won far near { near with state := .waitConnAck }
  | accept : near.state = .closed → near.other = .arriving →
      Step won far near { near with state := .rOpen, other := .held, agreed := true }
  | refuse (own : Place) : near.state = .closed → near.other = .arriving →
      Drops near.own own →
      Step won far near
        { near with state := .closed, own := own, other := .dropped, refused := true }
  | offer : near.state = .waitConnAck → near.own = .arriving →
      Step won far near { near with state := .waitICea, own := .held, offered := true }
  | offerElect : near.state = .waitConnAckElect → near.own = .arriving →
      Step won far near { near with state := .waitReturns, own := .held, offered := true }
  | await : near.state = .waitConnAck → near.other = .arriving →
      Step won far near { near with state := .waitConnAckElect, other := .held }
  | awaitElect : near.state = .waitICea → near.other = .arriving →
      Step won far near { near with state := .waitReturns, other := .held }
  | win : near.state = .waitReturns → won = true ∨ far.other = .dropped →
      Step won far near { near with state := .rOpen, own := .dropped, agreed := true }
  | opened : near.state = .waitICea → far.agreed = true →
      Step won far near { near with state := .iOpen }
  | openedElect : near.state = .waitReturns → far.agreed = true →
      Step won far near { near with state := .iOpen, other := .dropped }
  | withdraw : near.state = .waitConnAckElect →
      Step won far near { near with state := .waitConnAck, other := .dropped }
  | withdrawElect : near.state = .waitReturns →
      Step won far near { near with state := .waitICea, other := .dropped }
  | close (own other : Place) : Drops near.own own → Drops near.other other →
      Ends far near → Step won far near { near with state := .closed, own := own, other := other }
  /-- The other's connection is given up; the open responder has lost it. -/
  | closeOther (own : Place) : Drops near.own own →
      (near.state = .rOpen → far.own = .dropped ∨ far.refused = true) →
      Step won far near { near with state := .closed, own := own, other := .dropped }

/-- What was sent and given up stays so. -/
structure Grows (before after : Party) : Prop where
  own : before.own = .dropped → after.own = .dropped
  other : before.other = .dropped → after.other = .dropped
  offered : before.offered = true → after.offered = true
  agreed : before.agreed = true → after.agreed = true
  refused : before.refused = true → after.refused = true

theorem Drops.dropped {before after : Place} (drops : Drops before after)
    (dropped : before = .dropped) : after = .dropped :=
  drops.elim (fun same => same.trans dropped) id

theorem Step.grows {won : Bool} {far near next : Party} (step : Step won far near next) :
    Grows near next := by
  cases step with
  | refuse own closed arriving drops =>
    constructor <;> simp_all [Drops.dropped drops]
  | close own other dropsOwn dropsOther ends =>
    constructor <;> simp_all [dropsOwn.dropped, dropsOther.dropped]
  | closeOther own drops lost =>
    constructor <;> simp_all [drops.dropped]
  | _ => constructor <;> simp_all

/-- What holds of a party, by what the other one did before. -/
structure Consistent (won : Bool) (far near : Party) : Prop where
  open_ : near.state ≠ .closing
  ownHeld : near.state = .waitICea ∨ near.state = .iOpen ∨ near.state = .waitReturns →
    near.own = .held
  otherHeld : near.state = .waitConnAckElect ∨ near.state = .rOpen ∨
    near.state = .waitReturns → near.other = .held
  offered : near.offered = true → near.own = .held ∨ near.own = .dropped
  agreed : near.agreed = true → near.other = .held ∨ near.other = .dropped
  refused : near.refused = true → near.other = .dropped
  answered : ¬ (near.agreed = true ∧ near.refused = true)
  requested : near.other = .arriving ∨ near.other = .held → far.offered = true
  initiatorOpen : near.state = .iOpen → far.agreed = true
  responderOpen : near.state = .rOpen → near.offered = true → won = true ∨ far.other = .dropped
  closed : near.state = .closed → near.offered = true →
    near.other = .absent ∨ near.other = .arriving → far.other = .dropped
  notOpen : near.agreed = true → near.state ≠ .rOpen →
    far.own = .dropped ∨ far.refused = true

theorem consistent_initial (won : Bool) (far : Party) : Consistent won far initial := by
  constructor <;> simp [initial]

/-- The other party only makes more true of what it did. -/
theorem Consistent.far {won : Bool} {far far' near : Party} (consistent : Consistent won far near)
    (grows : Grows far far') : Consistent won far' near where
  open_ := consistent.open_
  ownHeld := consistent.ownHeld
  otherHeld := consistent.otherHeld
  offered := consistent.offered
  agreed := consistent.agreed
  refused := consistent.refused
  answered := consistent.answered
  requested := fun there => grows.offered (consistent.requested there)
  initiatorOpen := fun isOpen => grows.agreed (consistent.initiatorOpen isOpen)
  responderOpen := fun isOpen offered =>
    (consistent.responderOpen isOpen offered).imp_right grows.other
  closed := fun closed offered there => grows.other (consistent.closed closed offered there)
  notOpen := fun agreed notOpen =>
    (consistent.notOpen agreed notOpen).imp grows.own grows.refused

section

variable {won : Bool} {far near next : Party}

theorem Consistent.step_ownHeld (consistent : Consistent won far near)
    (step : Step won far near next) :
    next.state = .waitICea ∨ next.state = .iOpen ∨ next.state = .waitReturns →
      next.own = .held := by
  have held := consistent.ownHeld
  cases step <;> simp_all

theorem Consistent.step_otherHeld (consistent : Consistent won far near)
    (step : Step won far near next) :
    next.state = .waitConnAckElect ∨ next.state = .rOpen ∨ next.state = .waitReturns →
      next.other = .held := by
  have held := consistent.otherHeld
  cases step <;> simp_all

theorem Consistent.step_offered (consistent : Consistent won far near)
    (step : Step won far near next) :
    next.offered = true → next.own = .held ∨ next.own = .dropped := by
  have offered := consistent.offered
  cases step with
  | refuse => grind [Drops]
  | close => grind [Drops]
  | closeOther => grind [Drops]
  | _ => simp_all

theorem Consistent.step_agreed (consistent : Consistent won far near)
    (step : Step won far near next) :
    next.agreed = true → next.other = .held ∨ next.other = .dropped := by
  have agreed := consistent.agreed
  have held := consistent.otherHeld
  cases step with
  | refuse => grind [Drops]
  | close => grind [Drops]
  | closeOther => grind [Drops]
  | _ => simp_all

theorem Consistent.step_refused (consistent : Consistent won far near)
    (step : Step won far near next) :
    (next.refused = true → next.other = .dropped) ∧
      ¬ (next.agreed = true ∧ next.refused = true) := by
  have refused := consistent.refused
  have answered := consistent.answered
  have agreed := consistent.agreed
  have held := consistent.otherHeld
  cases step with
  | refuse => grind [Drops]
  | close => grind [Drops]
  | closeOther => grind [Drops]
  | _ => simp_all

theorem Consistent.step_requested (consistent : Consistent won far near)
    (step : Step won far near next) :
    next.other = .arriving ∨ next.other = .held → far.offered = true := by
  have requested := consistent.requested
  cases step with
  | refuse => grind [Drops]
  | close => grind [Drops]
  | closeOther => grind [Drops]
  | _ => simp_all

theorem Consistent.step_open (consistent : Consistent won far near)
    (step : Step won far near next) :
    next.state ≠ .closing ∧ (next.state = .iOpen → far.agreed = true) := by
  have open_ := consistent.open_
  have initiatorOpen := consistent.initiatorOpen
  cases step <;> simp_all

theorem Consistent.step_responderOpen (consistent : Consistent won far near)
    (step : Step won far near next) :
    next.state = .rOpen → next.offered = true → won = true ∨ far.other = .dropped := by
  have responderOpen := consistent.responderOpen
  have closed := consistent.closed
  cases step <;> simp_all

theorem Consistent.step_closed (consistent : Consistent won far near)
    (refusedFar : far.refused = true → far.other = .dropped)
    (step : Step won far near next) :
    next.state = .closed → next.offered = true →
      next.other = .absent ∨ next.other = .arriving → far.other = .dropped := by
  have closed := consistent.closed
  cases step with
  | refuse => grind [Drops]
  | close => grind [Drops, Ends]
  | closeOther => grind [Drops]
  | _ => simp_all

theorem Consistent.step_notOpen (consistent : Consistent won far near)
    (step : Step won far near next) :
    next.agreed = true → next.state ≠ .rOpen → far.own = .dropped ∨ far.refused = true := by
  have notOpen := consistent.notOpen
  have agreed := consistent.agreed
  cases step with
  | refuse => grind
  | close => grind [Ends]
  | closeOther => grind
  | _ => simp_all

theorem Consistent.step (consistent : Consistent won far near)
    (refusedFar : far.refused = true → far.other = .dropped)
    (step : Step won far near next) : Consistent won far next where
  open_ := (consistent.step_open step).1
  ownHeld := consistent.step_ownHeld step
  otherHeld := consistent.step_otherHeld step
  offered := consistent.step_offered step
  agreed := consistent.step_agreed step
  refused := (consistent.step_refused step).1
  answered := (consistent.step_refused step).2
  requested := consistent.step_requested step
  initiatorOpen := (consistent.step_open step).2
  responderOpen := consistent.step_responderOpen step
  closed := consistent.step_closed refusedFar step
  notOpen := consistent.step_notOpen step

end

/-- Where not both have won, two parties are never open on different connections. -/
theorem agreement {leftWon rightWon : Bool} {left right : Party}
    (leftConsistent : Consistent leftWon right left)
    (rightConsistent : Consistent rightWon left right)
    (oneWins : ¬ (leftWon = true ∧ rightWon = true)) :
    ¬ (left.state = .rOpen ∧ right.state = .rOpen) ∧
      ¬ (left.state = .iOpen ∧ right.state = .iOpen) := by
  constructor
  · intro bothOpen
    have leftHeld := leftConsistent.otherHeld (.inr (.inl bothOpen.1))
    have rightHeld := rightConsistent.otherHeld (.inr (.inl bothOpen.2))
    have leftOffered := rightConsistent.requested (.inr rightHeld)
    have rightOffered := leftConsistent.requested (.inr leftHeld)
    apply oneWins
    constructor
    · apply (leftConsistent.responderOpen bothOpen.1 leftOffered).resolve_right
      simp [rightHeld]
    · apply (rightConsistent.responderOpen bothOpen.2 rightOffered).resolve_right
      simp [leftHeld]
  · intro bothOpen
    have rightAgreed := leftConsistent.initiatorOpen bothOpen.1
    have leftAgreed := rightConsistent.initiatorOpen bothOpen.2
    have leftHeld := leftConsistent.ownHeld (.inr (.inl bothOpen.1))
    have lost := rightConsistent.notOpen rightAgreed (by simp [bothOpen.2])
    rcases lost with dropped | refused
    · simp [leftHeld] at dropped
    · exact leftConsistent.answered ⟨leftAgreed, refused⟩

/-- An initiator that is open has an open responder, where it has refused nothing. -/
theorem Consistent.responder_open {won wonFar : Bool} {far near : Party}
    (consistent : Consistent won far near) (consistentFar : Consistent wonFar near far)
    (isOpen : near.state = .iOpen) (notRefused : near.refused = false) : far.state = .rOpen := by
  refine Classical.byContradiction fun notOpen => ?_
  rcases consistentFar.notOpen (consistent.initiatorOpen isOpen) notOpen with dropped | refused
  · simp [consistent.ownHeld (.inr (.inl isOpen))] at dropped
  · simp [notRefused] at refused

end Party

end OpenDiameter.Peer
