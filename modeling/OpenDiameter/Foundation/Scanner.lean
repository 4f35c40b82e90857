import Mathlib.Data.List.Basic

/-!
Grammars of a parser library that takes the first alternative that matches, repeats as often as it
can and skips some octets in front of each primitive. Actions store values while a text is read,
also where an alternative that has matched a part of it fails later on.
-/

namespace OpenDiameter.Foundation

/-- What is stored after a rule has been tried on an input, and what is left of the input where
the rule matches. -/
abbrev Rule (Store : Type) : Type := Store → List UInt8 → Store × Option (List UInt8)

/-- Where a part of a text stands: the text from its start on, and what follows it. -/
structure Place where
  first : List UInt8
  rest : List UInt8
  deriving DecidableEq, Repr

def Place.lexeme (place : Place) : List UInt8 :=
  place.first.take (place.first.length - place.rest.length)

@[simp] theorem Place.lexeme_append (word rest : List UInt8) :
    Place.lexeme ⟨word ++ rest, rest⟩ = word := by
  rw [Place.lexeme, List.length_append, Nat.add_sub_cancel, List.take_left]

/-- The octets of a text that has only ASCII characters. -/
def ascii (text : String) : List UInt8 := text.toList.map fun char => UInt8.ofNat char.toNat

namespace Rule

variable {Store : Type}

/-! Primitives. The octets of a text or of a number stand together. -/

section

variable (skips : UInt8 → Bool)

def char (test : UInt8 → Bool) : Rule Store := fun store input =>
  match input.dropWhile skips with
  | [] => (store, none)
  | octet :: rest => (store, if test octet then some rest else none)

def text (octets : List UInt8) : Rule Store := fun store input =>
  (store, octets.isPrefixOf? (input.dropWhile skips))

/-- A number, which is stored before its bounds are looked at. -/
def number {Value : Type} (digits : List UInt8 → Option (Value × List UInt8))
    (bounds : Value → Bool) (action : Value → Store → Store) : Rule Store := fun store input =>
  match digits (input.dropWhile skips) with
  | none => (store, none)
  | some (value, rest) => (action value store, if bounds value then some rest else none)

/-- An action with the place of what a rule has matched, from the first octet that is not
skipped. -/
def onPlace (action : Place → Store → Store) (rule : Rule Store) : Rule Store :=
  fun store input =>
    match rule store (input.dropWhile skips) with
    | (store, none) => (store, none)
    | (store, some rest) => (action ⟨input.dropWhile skips, rest⟩ store, some rest)

/-- An action on the text that a rule has matched. -/
def onText (action : List UInt8 → Store → Store) (rule : Rule Store) : Rule Store :=
  onPlace skips (fun place => action place.lexeme) rule

end

/-! Combinations -/

def next (first second : Rule Store) : Rule Store := fun store input =>
  match first store input with
  | (store, none) => (store, none)
  | (store, some rest) => second store rest

def orElse (first second : Rule Store) : Rule Store := fun store input =>
  match first store input with
  | (store, none) => second store input
  | (store, some rest) => (store, some rest)

def optional (rule : Rule Store) : Rule Store := fun store input =>
  match rule store input with
  | (store, none) => (store, some input)
  | (store, some rest) => (store, some rest)

def manyFrom (rule : Rule Store) : (rounds : Nat) → Rule Store
  | 0, store, input => (store, some input)
  | rounds + 1, store, input =>
    match rule store input with
    | (store, none) => (store, some input)
    | (store, some rest) => manyFrom rule rounds store rest

/-- A rule as often as it matches. It takes an octet at least, so the number of octets bounds the
rounds. -/
def many (rule : Rule Store) : Rule Store := fun store input =>
  manyFrom rule (input.length + 1) store input

def oneOrMore (rule : Rule Store) : Rule Store := next rule (many rule)

/-- Whether the rule matches a text as a whole. -/
def full (skips : UInt8 → Bool) (rule : Rule Store) (store : Store) (input : List UInt8) : Bool :=
  match (rule store input).2 with
  | none => false
  | some rest => (rest.dropWhile skips).isEmpty

/-- What is stored where the rule matches a text as a whole. -/
def parse (skips : UInt8 → Bool) (rule : Rule Store) (store : Store) (input : List UInt8) :
    Option Store :=
  if full skips rule store input then some (rule store input).1 else none

/-! Rules that take something of the input. -/

/-- What is left is shorter than the input. -/
def Consumes (rule : Rule Store) : Prop :=
  ∀ store input after rest, rule store input = (after, some rest) → rest.length < input.length

/-- What is left is not longer than the input. -/
def Shrinks (rule : Rule Store) : Prop :=
  ∀ store input after rest, rule store input = (after, some rest) → rest.length ≤ input.length

variable {rule : Rule Store}

theorem Consumes.shrinks (consumes : Consumes rule) : Shrinks rule :=
  fun store input after rest matched =>
    Nat.le_of_lt (consumes store input after rest matched)

theorem char_consumes (skips test : UInt8 → Bool) : Consumes (@char Store skips test) := by
  intro store input after rest matched
  have short := (@List.dropWhile_sublist _ input skips).length_le
  rw [char] at matched
  split at matched
  · cases matched
  · rename_i octet others isInput
    split at matched
    · cases matched
      rw [isInput, List.length_cons] at short
      exact short
    · cases matched

theorem next_consumes {first second : Rule Store} (consumes : Consumes first)
    (shrinks : Shrinks second) : Consumes (next first second) := by
  intro store input after rest matched
  rw [next] at matched
  cases isFirst : first store input with
  | mk middle outcome =>
    rw [isFirst] at matched
    cases outcome with
    | none => cases matched
    | some others =>
      have shorter := consumes store input middle others isFirst
      exact Nat.lt_of_le_of_lt (shrinks middle others after rest matched) shorter

theorem orElse_consumes {first second : Rule Store} (consumes : Consumes first)
    (others : Consumes second) : Consumes (orElse first second) := by
  intro store input after rest matched
  rw [orElse] at matched
  cases isFirst : first store input with
  | mk middle outcome =>
    rw [isFirst] at matched
    cases outcome with
    | none => exact others middle input after rest matched
    | some others =>
      cases matched
      exact consumes store input after rest isFirst

theorem manyFrom_shrinks (shrinks : Shrinks rule) (rounds : Nat) :
    Shrinks (manyFrom rule rounds) := by
  induction rounds with
  | zero =>
    intro store input after rest matched
    cases matched
    exact Nat.le_refl _
  | succ rounds induction =>
    intro store input after rest matched
    rw [manyFrom] at matched
    cases isRule : rule store input with
    | mk middle outcome =>
      rw [isRule] at matched
      cases outcome with
      | none =>
        cases matched
        exact Nat.le_refl _
      | some others =>
        exact Nat.le_trans (induction middle others after rest matched)
          (shrinks store input middle others isRule)

theorem many_shrinks (shrinks : Shrinks rule) : Shrinks (many rule) :=
  fun store input => manyFrom_shrinks shrinks (input.length + 1) store input

/-- Rounds that are left over change nothing. -/
theorem manyFrom_eq (consumes : Consumes rule) {rounds others : Nat} {store : Store}
    {input : List UInt8} (enough : input.length < rounds) (also : input.length < others) :
    manyFrom rule rounds store input = manyFrom rule others store input := by
  induction rounds generalizing others store input with
  | zero => cases enough
  | succ rounds induction =>
    cases others with
    | zero => cases also
    | succ others =>
      rw [manyFrom, manyFrom]
      cases isRule : rule store input with
      | mk after outcome =>
        cases outcome with
        | none => rfl
        | some rest =>
          have shorter := consumes store input after rest isRule
          exact induction (by omega) (by omega)

/-- A repetition, by its first round. -/
theorem many_eq (consumes : Consumes rule) (store : Store) (input : List UInt8) :
    many rule store input =
      match rule store input with
      | (store, none) => (store, some input)
      | (store, some rest) => many rule store rest := by
  rw [many, manyFrom]
  cases isRule : rule store input with
  | mk after outcome =>
    cases outcome with
    | none => rfl
    | some rest =>
      have shorter := consumes store input after rest isRule
      exact manyFrom_eq consumes shorter (Nat.lt_succ_self _)

/-! Octets that are skipped before one that is not. -/

section

variable {skips : UInt8 → Bool}

def clean (skips : UInt8 → Bool) (input : List UInt8) : List UInt8 :=
  input.filter fun octet => !skips octet

variable {test : UInt8 → Bool}

theorem char_of_cons {input rest : List UInt8} {octet : UInt8} (store : Store)
    (isInput : input.dropWhile skips = octet :: rest) :
    char skips test store input = (store, if test octet then some rest else none) := by
  rw [char, isInput]

theorem char_of_nil {input : List UInt8} (store : Store) (isInput : input.dropWhile skips = []) :
    char skips test store input = (store, none) := by
  rw [char, isInput]

theorem char_cons (store : Store) {octet : UInt8} (rest : List UInt8) (kept : skips octet = false) :
    char skips test store (octet :: rest) = (store, if test octet then some rest else none) := by
  apply char_of_cons
  rw [List.dropWhile_cons_of_neg]
  rw [kept]
  exact Bool.false_ne_true

theorem char_orElse (first second : UInt8 → Bool) :
    orElse (@char Store skips first) (char skips second) =
      char skips fun octet => first octet || second octet := by
  funext store input
  rw [orElse]
  cases isInput : input.dropWhile skips with
  | nil =>
    rw [char_of_nil store isInput, char_of_nil store isInput]
    exact char_of_nil store isInput
  | cons octet rest =>
    rw [char_of_cons store isInput, char_of_cons store isInput]
    cases first octet with
    | false => exact char_of_cons store isInput
    | true => rfl

/-- A repetition of single octets, on an input of which nothing is skipped. -/
theorem many_char (store : Store) {input : List UInt8}
    (isClean : ∀ octet ∈ input, skips octet = false) :
    many (char skips test) store input = (store, some (input.dropWhile test)) := by
  induction input with
  | nil => rfl
  | cons octet input induction =>
    rw [List.forall_mem_cons] at isClean
    rw [many_eq (char_consumes skips test), char_cons store input isClean.1]
    cases passed : test octet with
    | false =>
      rw [List.dropWhile_cons_of_neg]
      · rfl
      · rw [passed]
        exact Bool.false_ne_true
    | true =>
      rw [List.dropWhile_cons_of_pos passed]
      exact induction isClean.2

end

/-! What the combinations make of an input of which the start is known. -/

section

variable {skips : UInt8 → Bool} {first second : Rule Store} {store after : Store}
  {input rest : List UInt8}

theorem next_of_match (matched : first store input = (after, some rest)) :
    next first second store input = second after rest := by
  rw [next, matched]

theorem orElse_of_match (matched : first store input = (after, some rest)) :
    orElse first second store input = (after, some rest) := by
  rw [orElse, matched]

theorem orElse_of_fail (failed : first store input = (after, none)) :
    orElse first second store input = second after input := by
  rw [orElse, failed]

theorem optional_of_match (matched : first store input = (after, some rest)) :
    optional first store input = (after, some rest) := by
  rw [optional, matched]

theorem dropWhile_of_head (kept : ∀ octet ∈ input.head?, skips octet = false) :
    input.dropWhile skips = input := by
  cases input with
  | nil => rfl
  | cons octet rest =>
    rw [List.dropWhile_cons_of_neg]
    rw [kept octet rfl]
    exact Bool.false_ne_true

theorem onPlace_of_match (kept : ∀ octet ∈ input.head?, skips octet = false)
    {action : Place → Store → Store} (matched : first store input = (after, some rest)) :
    onPlace skips action first store input = (action ⟨input, rest⟩ after, some rest) := by
  rw [onPlace, dropWhile_of_head kept, matched]

theorem onText_of_match {word : List UInt8}
    (kept : ∀ octet ∈ (word ++ rest).head?, skips octet = false)
    {action : List UInt8 → Store → Store}
    (matched : first store (word ++ rest) = (after, some rest)) :
    onText skips action first store (word ++ rest) = (action word after, some rest) := by
  rw [onText, onPlace_of_match kept matched, Place.lexeme_append]

theorem isPrefix_append (word rest : List UInt8) :
    word.isPrefixOf? (word ++ rest) = some rest := by
  induction word with
  | nil => rfl
  | cons octet word induction =>
    rw [List.cons_append, List.isPrefixOf?, if_pos (beq_self_eq_true octet)]
    exact induction

theorem text_of_prefix {word : List UInt8}
    (kept : ∀ octet ∈ (word ++ rest).head?, skips octet = false) :
    text skips word store (word ++ rest) = (store, some rest) := by
  rw [text, dropWhile_of_head kept, isPrefix_append]

theorem number_of_read {Value : Type} {digits : List UInt8 → Option (Value × List UInt8)}
    {bounds : Value → Bool} {action : Value → Store → Store} {value : Value}
    (kept : ∀ octet ∈ input.head?, skips octet = false) (read : digits input = some (value, rest))
    (bounded : bounds value = true) :
    number skips digits bounds action store input = (action value store, some rest) := by
  rw [number, dropWhile_of_head kept, read]
  dsimp only
  rw [if_pos bounded]

end

end Rule

end OpenDiameter.Foundation
