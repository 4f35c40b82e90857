import Mathlib.Algebra.Group.Nat.Defs
import OpenDiameter.Foundation.Decimal
import OpenDiameter.Session.SessionId

/-!
`DiameterSessionId::Get` and `Set`: a session id as the text of its AVP. Positions in a text are
numbers of 64 bits, and are kept in 32 bits.
-/

namespace OpenDiameter.Session

open OpenDiameter.Foundation OpenDiameter.Router

def semicolon : UInt8 := 59

/-- `std::string::npos` -/
def npos : Nat := 2 ^ 64 - 1

/-- `std::string::find` of a semicolon -/
def findSemicolon (text : Octets) (start : Nat) : Nat :=
  let place := start + ((text.drop start).takeWhile (· ≠ semicolon)).length
  if place < text.length then place else npos

/-- `std::string::substr`; it throws behind the end of the text. -/
def substr (text : Octets) (start count : Nat) : Octets := (text.drop start).take count

/-- `isspace` -/
def isSpace (octet : UInt8) : Bool := octet = 32 || (9 ≤ octet && octet ≤ 13)

/-- The sign and the digits that a text begins with. -/
def signedNumber (text : Octets) : Bool × Nat :=
  match text.dropWhile isSpace with
  | 45 :: digits => (true, Decimal.value (digits.takeWhile Decimal.isDigit))
  | 43 :: digits => (false, Decimal.value (digits.takeWhile Decimal.isDigit))
  | digits => (false, Decimal.value (digits.takeWhile Decimal.isDigit))

/-- `strtoul`, with a `long` of 64 bits, as it is assigned to 32 bits. -/
def strtoul (text : Octets) : UInt32 :=
  let (negative, number) := signedNumber text
  if number ≥ 2 ^ 64 then UInt32.ofNat (2 ^ 64 - 1)
  else if negative then UInt32.ofNat (2 ^ 64 - number)
  else UInt32.ofNat number

/-- `atoi`, which is `strtol` as an `int`, as it is assigned to 32 bits. -/
def atoi (text : Octets) : UInt32 :=
  let (negative, number) := signedNumber text
  if negative then UInt32.ofNat (2 ^ 64 - min number (2 ^ 63))
  else UInt32.ofNat (min number (2 ^ 63 - 1))

namespace SessionId

/-- An id before anything is assigned to it. -/
def fresh : SessionId := ⟨⟨[], []⟩, ⟨0, 0⟩⟩

/-- `Get` of the text of the AVP, if there is one. -/
def get (own : SessionId) (sid : Option Octets) : Option SessionId :=
  match sid with
  | none => none
  | some sid =>
    let where1 := UInt32.ofNat (findSemicolon sid 0)
    if where1.toNat = npos then none
    else
      let diameterId := substr sid 0 where1.toNat
      let where1 := where1 + 1
      let where2 := UInt32.ofNat (findSemicolon sid where1.toNat)
      if where2.toNat = npos then none
      else
        let high := strtoul (substr sid where1.toNat (where2 - where1).toNat)
        let where2 := where2 + 1
        let where1 := UInt32.ofNat (findSemicolon sid where2.toNat)
        if where1.toNat = npos then
          some ⟨⟨diameterId, own.key.optionalVal⟩, ⟨high, atoi (sid.drop where2.toNat)⟩⟩
        else
          some ⟨⟨diameterId, sid.drop (where1 + 1).toNat⟩,
            ⟨high, atoi (substr sid where2.toNat (where1 - where2).toNat)⟩⟩

/-- The text of `Set` -/
def set (id : SessionId) : Octets :=
  id.key.diameterId ++ semicolon :: Decimal.write id.counter.high.toNat ++
    semicolon :: Decimal.write id.counter.low.toNat ++
    if id.key.optionalVal.length > 0 then semicolon :: id.key.optionalVal else []

end SessionId

/-- A position in 32 bits is never the one that marks the end. -/
theorem position_ne_npos (position : UInt32) : position.toNat ≠ npos :=
  Nat.ne_of_lt (Nat.lt_trans position.toNat_lt (by decide))

theorem findSemicolon_lt {text : Octets} {start : Nat}
    (found : findSemicolon text start ≠ npos) : findSemicolon text start < text.length := by
  unfold findSemicolon at found ⊢
  dsimp only at found ⊢
  split at found
  · rename_i inside
    rw [if_pos inside]
    exact inside
  · exact absurd rfl found

/-- The semicolon that is found behind a word. -/
theorem findSemicolon_append {before word rest : Octets} (plain : semicolon ∉ word) :
    findSemicolon (before ++ (word ++ semicolon :: rest)) before.length =
      before.length + word.length := by
  have isWord : (word ++ semicolon :: rest).takeWhile (· ≠ semicolon) = word := by
    rw [List.takeWhile_append_of_pos, List.takeWhile_cons_of_neg, List.append_nil]
    · exact Bool.false_ne_true
    · intro octet listed
      exact decide_eq_true fun same => plain (same ▸ listed)
  rw [findSemicolon, List.drop_left, isWord, if_pos]
  simp only [List.length_append, List.length_cons]
  omega

theorem substr_append (before word rest : Octets) :
    substr (before ++ (word ++ rest)) before.length word.length = word := by
  rw [substr, List.drop_left, List.take_left]

theorem signedNumber_write (number : Nat) :
    signedNumber (Decimal.write number) = (false, number) := by
  have digits := @Decimal.isDigit_of_write number
  have all : (Decimal.write number).takeWhile Decimal.isDigit = Decimal.write number :=
    List.takeWhile_eq_self_iff.mpr digits
  cases isText : Decimal.write number with
  | nil => exact absurd isText (Decimal.write_ne_nil number)
  | cons first rest =>
    have isDigit := digits first (by rw [isText]; exact List.mem_cons_self)
    rw [Decimal.isDigit, Bool.and_eq_true, decide_eq_true_eq, decide_eq_true_eq,
      UInt8.le_iff_toNat_le, UInt8.le_iff_toNat_le] at isDigit
    have notSpace : isSpace first = false := by
      rw [isSpace, Bool.or_eq_false_iff, Bool.and_eq_false_iff]
      simp only [decide_eq_false_iff_not, UInt8.le_iff_toNat_le, ← UInt8.toNat_inj]
      change ¬first.toNat = 32 ∧ (¬9 ≤ first.toNat ∨ ¬first.toNat ≤ 13)
      change 48 ≤ first.toNat ∧ first.toNat ≤ 57 at isDigit
      omega
    rw [signedNumber, List.dropWhile_cons_of_neg (by rw [notSpace]; exact Bool.false_ne_true)]
    rw [isText] at all
    split
    · rename_i isFirst
      cases isFirst
      exact absurd isDigit.1 (by decide)
    · rename_i isFirst
      cases isFirst
      exact absurd isDigit.1 (by decide)
    · rw [all, ← isText, Decimal.value_write]

theorem strtoul_write (number : UInt32) : strtoul (Decimal.write number.toNat) = number := by
  have small := number.toNat_lt
  rw [strtoul, signedNumber_write]
  dsimp only
  rw [if_neg (by omega), if_neg Bool.false_ne_true, UInt32.ofNat_toNat]

theorem atoi_write (number : UInt32) : atoi (Decimal.write number.toNat) = number := by
  have small := number.toNat_lt
  rw [atoi, signedNumber_write]
  dsimp only
  rw [if_neg Bool.false_ne_true, Nat.min_eq_left (by omega), UInt32.ofNat_toNat]

namespace SessionId

/-- No text is rejected. -/
theorem get_eq (own : SessionId) (sid : Octets) :
    own.get (some sid) =
      (let where1 := UInt32.ofNat (findSemicolon sid 0) + 1
      let where2 := UInt32.ofNat (findSemicolon sid where1.toNat)
      let where3 := UInt32.ofNat (findSemicolon sid (where2 + 1).toNat)
      some ⟨⟨substr sid 0 (where1 - 1).toNat, sid.drop (where3 + 1).toNat⟩,
        ⟨strtoul (substr sid where1.toNat (where2 - where1).toNat),
          atoi (substr sid (where2 + 1).toNat (where3 - (where2 + 1)).toNat)⟩⟩) := by
  rw [get]
  dsimp only
  rw [if_neg (position_ne_npos _), if_neg (position_ne_npos _), if_neg (position_ne_npos _),
    UInt32.add_sub_cancel]

/-- The optional value is what stands behind a position that was looked for. -/
theorem optionalVal_get {own read : SessionId} {sid : Octets}
    (isRead : own.get (some sid) = some read) :
    ∃ start, read.key.optionalVal =
      sid.drop (UInt32.ofNat (findSemicolon sid start) + 1).toNat := by
  rw [get_eq] at isRead
  cases isRead
  exact ⟨_, rfl⟩

/-- Parsing what was written gives the id again. -/
def TextRoundTrips (id : SessionId) : Prop := fresh.get (some id.set) = some id

end SessionId

theorem semicolon_notMem_write (number : Nat) : semicolon ∉ Decimal.write number := by
  intro listed
  exact absurd (Decimal.isDigit_of_write semicolon listed) (by decide)

/-- A word without semicolons ends where a text goes on with one. -/
theorem word_inj {word other rest otherRest : Octets} (plain : semicolon ∉ word)
    (otherPlain : semicolon ∉ other) (ends : rest.head?.all (· = semicolon))
    (otherEnds : otherRest.head?.all (· = semicolon)) (same : word ++ rest = other ++ otherRest) :
    word = other ∧ rest = otherRest := by
  induction word generalizing other with
  | nil => cases other <;> grind
  | cons head word induction => cases other <;> grind

namespace SessionId

variable {id : SessionId}

/-- An id with an optional value, in its parts. -/
theorem set_eq (nonempty : id.key.optionalVal ≠ []) :
    id.set = id.key.diameterId ++ (semicolon :: (Decimal.write id.counter.high.toNat ++
      semicolon :: (Decimal.write id.counter.low.toNat ++ semicolon :: id.key.optionalVal))) := by
  rw [set, if_pos (List.length_pos_iff.mpr nonempty)]
  simp only [List.append_assoc, List.cons_append]

/-- An id without one ends in a digit. -/
theorem set_ends (empty : id.key.optionalVal = []) :
    ∃ before digit, id.set = before ++ [digit] ∧ digit ≠ semicolon := by
  have some := Decimal.write_ne_nil id.counter.low.toNat
  refine ⟨id.key.diameterId ++ semicolon :: Decimal.write id.counter.high.toNat ++
    semicolon :: (Decimal.write id.counter.low.toNat).dropLast,
    (Decimal.write id.counter.low.toNat).getLast some, ?_, ?_⟩
  · have parts := List.dropLast_append_getLast some
    have isText : id.set = id.key.diameterId ++ semicolon :: Decimal.write id.counter.high.toNat ++
        semicolon :: Decimal.write id.counter.low.toNat := by
      rw [set, empty]
      exact List.append_nil _
    rw [isText, List.append_assoc _ (semicolon :: _) [_], List.cons_append, parts]
  · intro same
    apply semicolon_notMem_write id.counter.low.toNat
    rw [← same]
    exact List.getLast_mem some

theorem getElem?_takeWhile (text : Octets) :
    text[(text.takeWhile (· ≠ semicolon)).length]? =
      (text.dropWhile (· ≠ semicolon)).head? := by
  have parts := @List.takeWhile_append_dropWhile _ (· ≠ semicolon) text
  calc
    text[(text.takeWhile (· ≠ semicolon)).length]? =
        (text.takeWhile (· ≠ semicolon) ++
          text.dropWhile (· ≠ semicolon))[(text.takeWhile (· ≠ semicolon)).length]? := by
      rw [parts]
    _ = (text.dropWhile (· ≠ semicolon)).head? := by
      rw [List.getElem?_append_right (Nat.le_refl _), Nat.sub_self, List.head?_eq_getElem?]

/-- A semicolon that is found stands there. -/
theorem octet_at_found {text : Octets} {start : Nat} (found : findSemicolon text start ≠ npos) :
    text[findSemicolon text start]? = some semicolon := by
  unfold findSemicolon at found ⊢
  dsimp only at found ⊢
  split at found
  · rename_i inside
    rw [if_pos inside]
    have stops := List.head?_dropWhile_not (· ≠ semicolon) (text.drop start)
    rw [← getElem?_takeWhile, List.getElem?_drop, List.getElem?_eq_getElem inside] at stops
    rw [List.getElem?_eq_getElem inside]
    exact congrArg some (Decidable.not_not.mp (of_decide_eq_false stops))
  · exact absurd rfl found

/-- No position that is looked for leaves nothing behind it, unless a semicolon is the last. -/
theorem next_position_lt {before : Octets} {digit : UInt8} (other : digit ≠ semicolon)
    (start : Nat) :
    (UInt32.ofNat (findSemicolon (before ++ [digit]) start) + 1).toNat <
      (before ++ [digit]).length := by
  rw [UInt32.toNat_add, UInt32.toNat_one, UInt32.toNat_ofNat', List.length_append,
    List.length_singleton]
  by_cases found : findSemicolon (before ++ [digit]) start = npos
  · rw [found]
    exact Nat.succ_pos _
  · have inside := findSemicolon_lt found
    have isOctet := octet_at_found found
    have notLast : findSemicolon (before ++ [digit]) start ≠ before.length := by
      intro last
      rw [last, List.getElem?_concat_length] at isOctet
      exact other (Option.some.inj isOctet)
    rw [List.length_append, List.length_singleton] at inside
    omega

theorem nonempty_of_roundTrips (trips : id.TextRoundTrips) : id.key.optionalVal ≠ [] := by
  intro empty
  obtain ⟨before, digit, isText, other⟩ := set_ends empty
  have ⟨start, isOptional⟩ := optionalVal_get trips
  rw [empty, isText] at isOptional
  have inside := @next_position_lt before digit other start
  exact absurd (List.drop_eq_nil_iff.mp isOptional.symm) (Nat.not_le_of_lt inside)

/-- The octets in front of the optional value. -/
def frontLength (id : SessionId) : Nat :=
  id.key.diameterId.length + (Decimal.write id.counter.high.toNat).length +
    (Decimal.write id.counter.low.toNat).length + 3

theorem length_set (nonempty : id.key.optionalVal ≠ []) :
    id.set.length = id.frontLength + id.key.optionalVal.length := by
  rw [set_eq nonempty, frontLength]
  simp only [List.length_append, List.length_cons]
  omega

theorem fits_of_roundTrips (trips : id.TextRoundTrips) : id.frontLength < 2 ^ 32 := by
  have nonempty := nonempty_of_roundTrips trips
  have some := List.length_pos_iff.mpr nonempty
  have ⟨start, isOptional⟩ := optionalVal_get trips
  have lengths := congrArg List.length isOptional
  rw [List.length_drop, length_set nonempty] at lengths
  have small := (UInt32.ofNat (findSemicolon id.set start) + 1).toNat_lt
  omega

/-- A text of four parts is cut where they end. -/
theorem get_parts {first second third rest : Octets} (plainFirst : semicolon ∉ first)
    (plainSecond : semicolon ∉ second) (plainThird : semicolon ∉ third)
    (fits : first.length + second.length + third.length + 3 < 2 ^ 32) (own : SessionId) :
    own.get (some (first ++ (semicolon :: (second ++ semicolon ::
        (third ++ semicolon :: rest))))) =
      some ⟨⟨first, rest⟩, ⟨strtoul second, atoi third⟩⟩ := by
  generalize isText : first ++ (semicolon :: (second ++ semicolon ::
    (third ++ semicolon :: rest))) = text
  have textSecond : text = (first ++ [semicolon]) ++ (second ++ semicolon ::
      (third ++ semicolon :: rest)) := by
    rw [← isText, List.append_assoc, List.singleton_append]
  have textThird : text = (first ++ [semicolon] ++ second ++ [semicolon]) ++
      (third ++ semicolon :: rest) := by
    simp only [← isText, List.append_assoc, List.cons_append, List.nil_append]
  have textRest : text = (first ++ [semicolon] ++ second ++ [semicolon] ++ third ++ [semicolon]) ++
      rest := by
    simp only [← isText, List.append_assoc, List.cons_append, List.nil_append]
  have lengthSecond : (first ++ [semicolon]).length = first.length + 1 := List.length_append
  have lengthThird : (first ++ [semicolon] ++ second ++ [semicolon]).length =
      first.length + second.length + 2 := by
    simp only [List.length_append, List.length_singleton]
    omega
  have lengthRest :
      (first ++ [semicolon] ++ second ++ [semicolon] ++ third ++ [semicolon]).length =
        first.length + second.length + third.length + 3 := by
    simp only [List.length_append, List.length_singleton]
    omega
  have findFirst : findSemicolon text 0 = first.length := by
    have found := @findSemicolon_append [] first
      (second ++ semicolon :: (third ++ semicolon :: rest)) plainFirst
    rw [List.nil_append, isText] at found
    exact found.trans (Nat.zero_add _)
  have findSecond : findSemicolon text (first.length + 1) = first.length + 1 + second.length := by
    have found := @findSemicolon_append (first ++ [semicolon]) second
      (third ++ semicolon :: rest) plainSecond
    rw [← textSecond, lengthSecond] at found
    exact found
  have findThird : findSemicolon text (first.length + second.length + 2) =
      first.length + second.length + 2 + third.length := by
    have found := @findSemicolon_append (first ++ [semicolon] ++ second ++ [semicolon]) third rest
      plainThird
    rw [← textThird, lengthThird] at found
    exact found
  have place {position : Nat} (small : position < 2 ^ 32) :
      (UInt32.ofNat position).toNat = position := by
    rw [UInt32.toNat_ofNat', Nat.mod_eq_of_lt small]
  have placeSecond : UInt32.ofNat first.length + 1 = UInt32.ofNat (first.length + 1) :=
    (UInt32.ofNat_add _ _).symm
  have placeThird : UInt32.ofNat (first.length + 1 + second.length) + 1 =
      UInt32.ofNat (first.length + second.length + 2) := by
    rw [Nat.add_right_comm first.length 1]
    exact (UInt32.ofNat_add _ _).symm
  have placeRest : UInt32.ofNat (first.length + second.length + 2 + third.length) + 1 =
      UInt32.ofNat (first.length + second.length + third.length + 3) := by
    rw [Nat.add_right_comm (first.length + second.length) 2]
    exact (UInt32.ofNat_add _ _).symm
  have width (position count : Nat) :
      UInt32.ofNat (position + count) - UInt32.ofNat position = UInt32.ofNat count := by
    rw [UInt32.ofNat_add, UInt32.add_comm, UInt32.add_sub_cancel]
  have widthSecond := width (first.length + 1) second.length
  have widthThird := width (first.length + second.length + 2) third.length
  rw [get_eq]
  dsimp only
  rw [findFirst, UInt32.add_sub_cancel, place (by omega), placeSecond, place (by omega),
    findSecond, placeThird, place (by omega), findThird, placeRest, place (by omega), widthSecond,
    widthThird, place (by omega), place (by omega)]
  have partFirst : substr text 0 first.length = first := by
    rw [substr, List.drop_zero, ← isText, List.take_left]
  have partSecond : substr text (first.length + 1) second.length = second := by
    rw [textSecond, ← lengthSecond, substr_append]
  have partThird : substr text (first.length + second.length + 2) third.length = third := by
    rw [textThird, ← lengthThird, substr_append]
  have partRest : text.drop (first.length + second.length + third.length + 3) = rest := by
    rw [textRest, ← lengthRest, List.drop_left]
  rw [partFirst, partSecond, partThird, partRest]

theorem roundTrips_of_fits (plain : semicolon ∉ id.key.diameterId)
    (nonempty : id.key.optionalVal ≠ []) (fits : id.frontLength < 2 ^ 32) :
    id.TextRoundTrips := by
  rw [TextRoundTrips, set_eq nonempty, get_parts plain (semicolon_notMem_write _)
    (semicolon_notMem_write _) fits, strtoul_write, atoi_write]

/-- Ids without a semicolon in their first parts have different texts. -/
theorem set_inj {id other : SessionId} (plain : semicolon ∉ id.key.diameterId)
    (otherPlain : semicolon ∉ other.key.diameterId) : id.set = other.set ↔ id = other := by
  have tail (optionalVal : Octets) :
      (if optionalVal.length > 0 then semicolon :: optionalVal else []).head?.all
        (· = semicolon) := by
    split <;> rfl
  have number {high low : UInt32} (same : Decimal.write high.toNat = Decimal.write low.toNat) :
      high = low := by
    rw [← strtoul_write high, same, strtoul_write]
  refine ⟨fun same => ?_, congrArg set⟩
  rw [set, set] at same
  simp only [List.append_assoc, List.cons_append] at same
  have first := word_inj plain otherPlain rfl rfl same
  have high := word_inj (semicolon_notMem_write _) (semicolon_notMem_write _) rfl rfl
    (List.cons.inj first.2).2
  have low := word_inj (semicolon_notMem_write _) (semicolon_notMem_write _) (tail _) (tail _)
    (List.cons.inj high.2).2
  obtain ⟨⟨_, optionalVal⟩, _, _⟩ := id
  obtain ⟨⟨_, otherVal⟩, _, _⟩ := other
  cases first.1
  cases number high.1
  cases number low.1
  cases optionalVal <;> cases otherVal <;> cases low.2 <;> rfl

theorem set_inj_optional :
    SessionId.set ⟨⟨[97], []⟩, ⟨1, 2⟩⟩ = SessionId.set ⟨⟨[97], [98]⟩, ⟨1, 2⟩⟩ ↔
      (⟨⟨[97], []⟩, ⟨1, 2⟩⟩ : SessionId) = ⟨⟨[97], [98]⟩, ⟨1, 2⟩⟩ :=
  set_inj (by decide) (by decide)

end SessionId

/-- An id without a semicolon in its first part comes back from its text exactly when it has an
optional value that stands at a position of 32 bits; and no text is rejected. -/
theorem sessionId_text_iff (id : SessionId) (plain : semicolon ∉ id.key.diameterId) :
    (id.TextRoundTrips ↔ id.key.optionalVal ≠ [] ∧ id.frontLength < 2 ^ 32) ∧
      ∀ (own : SessionId) (text : Octets), own.get (some text) ≠ none := by
  refine ⟨⟨fun trips => ?_, fun fits => ?_⟩, fun own text rejected => ?_⟩
  · exact ⟨SessionId.nonempty_of_roundTrips trips, SessionId.fits_of_roundTrips trips⟩
  · exact SessionId.roundTrips_of_fits plain fits.1 fits.2
  · rw [SessionId.get_eq] at rejected
    cases rejected

/-- The id "a;1;4294967295;b". -/
def lastLowId : SessionId := ⟨⟨[97], [98]⟩, ⟨1, 4294967295⟩⟩

theorem lastLowId_text : SessionId.fresh.get (some lastLowId.set) = some lastLowId := by
  have plain : semicolon ∉ lastLowId.key.diameterId := by decide
  exact (sessionId_text_iff lastLowId plain).1.mpr ⟨List.cons_ne_nil _ _, by decide⟩

/-- Without an optional value the whole text is read as one, and a text without any semicolon is
read as an id. -/
theorem whole_text_optional :
    SessionId.fresh.get (some (SessionId.set ⟨⟨[97], []⟩, ⟨1, 2⟩⟩)) =
        some ⟨⟨[97], [97, 59, 49, 59, 50]⟩, ⟨1, 2⟩⟩ ∧
      SessionId.fresh.get (some [97]) = some ⟨⟨[97], [97]⟩, ⟨0, 0⟩⟩ := by
  decide

end OpenDiameter.Session
