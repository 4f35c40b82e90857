import Mathlib.Data.List.TakeWhile
import OpenDiameter.Foundation.Scanner
import OpenDiameter.Parser.EncodedContainers
import OpenDiameter.Parser.Utf8

/-!
`DiamidentGrammar` as it is written, the strings that it accepts, and the identities that its rules
stand for.
-/

namespace OpenDiameter.Parser

open Foundation

namespace DiamidentGrammar

section

variable {Store : Type}

def isAlnum (octet : UInt8) : Bool := isAlpha octet || isDigit octet

/-- `alnum_p | '-'` -/
def nameOctet : Rule Store := .orElse (.char isSpace isAlnum) (.char isSpace (· == 45))

def diameterName : Rule Store := .next (.char isSpace isAlpha) (.many nameOctet)

def diameterDname : Rule Store := .next (.char isSpace isDigit) (.oneOrMore nameOctet)

/-- `label` -/
def labelRule : Rule Store := .orElse diameterName diameterDname

/-- `'.' >> label` -/
def dotted : Rule Store := .next (.char isSpace (· == 46)) labelRule

def realm : Rule Store := .next labelRule (.many dotted)

def diameterIdentity : Rule Store := realm

end

/-! What the rules stand for. -/

inductive IsLabel : List UInt8 → Prop where
  | name (first : UInt8) (rest : List UInt8) (alpha : isAlpha first = true)
      (others : ∀ octet ∈ rest, inName octet = true) : IsLabel (first :: rest)
  | dname (first : UInt8) (rest : List UInt8) (digit : isDigit first = true) (more : rest ≠ [])
      (others : ∀ octet ∈ rest, inName octet = true) : IsLabel (first :: rest)

/-- Labels that are joined by single dots. -/
def IsIdentity (str : List UInt8) : Prop :=
  ∃ parts : List (List UInt8), parts ≠ [] ∧ str = [46].intercalate parts ∧
    ∀ part ∈ parts, IsLabel part

theorem label_iff (part : List UInt8) : label part = true ↔ IsLabel part := by
  cases part with
  | nil => exact iff_of_false Bool.false_ne_true fun isLabel => nomatch isLabel
  | cons first rest =>
    rw [label, Bool.or_eq_true, Bool.and_eq_true, Bool.and_eq_true, Bool.and_eq_true,
      List.all_eq_true, Bool.not_eq_true', List.isEmpty_eq_false_iff]
    constructor
    · intro either
      cases either with
      | inl name => exact .name first rest name.1 name.2
      | inr dname => exact .dname first rest dname.1.1 dname.1.2 dname.2
    · intro isLabel
      cases isLabel with
      | name _ _ alpha others => exact .inl ⟨alpha, others⟩
      | dname _ _ digit more others => exact .inr ⟨⟨digit, more⟩, others⟩

variable {part : List UInt8}

theorem inName_of_label (isLabel : label part = true) :
    ∀ octet ∈ part, inName octet = true := by
  cases (label_iff part).1 isLabel with
  | name first rest alpha others =>
    rw [List.forall_mem_cons]
    exact ⟨by rw [inName, alpha]; rfl, others⟩
  | dname first rest digit more others =>
    rw [List.forall_mem_cons]
    exact ⟨by rw [inName, digit, Bool.or_true]; rfl, others⟩

variable {octet : UInt8}

theorem isSpace_of_inName (named : inName octet = true) : isSpace octet = false := by
  revert named
  unfold inName isAlpha isDigit isSpace
  simp only [Bool.or_eq_true, Bool.and_eq_true, decide_eq_true_eq, beq_iff_eq, Bool.or_eq_false_iff,
    Bool.and_eq_false_iff, decide_eq_false_iff_not, beq_eq_false_iff_ne, ne_eq, UInt8.le_iff_toNat_le,
    ← UInt8.toNat_inj]
  simp only [UInt8.toNat_ofNat]
  omega

theorem dot_not_inName : inName 46 = false := rfl

/-! Splitting at the dots. -/

theorem labels_cons (str : List UInt8) : ∃ first others, labels str = first :: others := by
  cases str with
  | nil => exact ⟨[], [], rfl⟩
  | cons octet rest =>
    rw [labels]
    split
    · exact ⟨[], labels rest, rfl⟩
    · split
      · exact ⟨[octet], [], rfl⟩
      · exact ⟨_, _, rfl⟩

theorem labels_dot (rest : List UInt8) : labels (46 :: rest) = [] :: labels rest := by
  rw [labels, if_pos rfl]

theorem labels_octet (notDot : octet ≠ 46) {rest first : List UInt8} {others : List (List UInt8)}
    (isRest : labels rest = first :: others) :
    labels (octet :: rest) = (octet :: first) :: others := by
  rw [labels, if_neg notDot, isRest]

/-- A string is its labels, joined by dots. -/
theorem intercalate_labels (str : List UInt8) : [46].intercalate (labels str) = str := by
  induction str with
  | nil => rfl
  | cons octet rest induction =>
    obtain ⟨first, others, isRest⟩ := labels_cons rest
    by_cases dot : octet = 46
    · subst dot
      rw [labels_dot, isRest, List.intercalate_cons_cons, List.nil_append, ← isRest, induction]
      rfl
    · rw [labels_octet dot isRest]
      rw [isRest] at induction
      cases others with
      | nil =>
        rw [List.intercalate_singleton] at induction ⊢
        rw [induction]
      | cons second others =>
        rw [List.intercalate_cons_cons] at induction ⊢
        rw [← induction]
        rfl

/-- Labels without dots are found again. -/
theorem labels_append (noDot : ∀ octet ∈ part, octet ≠ 46) (str : List UInt8) {first : List UInt8}
    {others : List (List UInt8)} (isStr : labels str = first :: others) :
    labels (part ++ str) = (part ++ first) :: others := by
  induction part with
  | nil => exact isStr
  | cons octet part induction =>
    rw [List.forall_mem_cons] at noDot
    exact labels_octet noDot.1 (induction noDot.2)

theorem noDot_of_label (isLabel : IsLabel part) : ∀ octet ∈ part, octet ≠ 46 := by
  intro octet listed isDot
  have named := inName_of_label ((label_iff part).2 isLabel) octet listed
  rw [isDot, dot_not_inName] at named
  cases named

theorem labels_intercalate {parts : List (List UInt8)} (some : parts ≠ [])
    (areLabels : ∀ part ∈ parts, IsLabel part) : labels ([46].intercalate parts) = parts := by
  induction parts with
  | nil => exact absurd rfl some
  | cons part parts induction =>
    rw [List.forall_mem_cons] at areLabels
    cases parts with
    | nil =>
      rw [List.intercalate_singleton]
      have whole := labels_append (noDot_of_label areLabels.1) [] rfl
      rwa [List.append_nil] at whole
    | cons second others =>
      rw [List.intercalate_cons_cons, List.append_assoc]
      have rest := induction (List.cons_ne_nil _ _) areLabels.2
      have dot : labels ([46] ++ [46].intercalate (second :: others)) =
          [] :: second :: others := (labels_dot _).trans (congrArg _ rest)
      have whole := labels_append (noDot_of_label areLabels.1) _ dot
      rwa [List.append_nil] at whole

theorem labels_all_iff (str : List UInt8) : (labels str).all label = true ↔ IsIdentity str := by
  rw [List.all_eq_true]
  constructor
  · intro areLabels
    obtain ⟨first, others, isStr⟩ := labels_cons str
    refine ⟨labels str, ?_, (intercalate_labels str).symm, ?_⟩
    · rw [isStr]
      exact List.cons_ne_nil _ _
    · exact fun part listed => (label_iff part).1 (areLabels part listed)
  · intro ⟨parts, notEmpty, isStr, areLabels⟩ part listed
    rw [isStr, labels_intercalate notEmpty areLabels] at listed
    exact (label_iff part).2 (areLabels part listed)

/-! What the rules make of an input without spaces. -/

section

variable {Store : Type}

theorem nameOctet_eq : @nameOctet Store = .char isSpace inName := Rule.char_orElse _ _

theorem label_cons (first : UInt8) (rest : List UInt8) :
    label ((first :: rest).takeWhile inName) =
      (isAlpha first || (isDigit first && !(rest.takeWhile inName).isEmpty)) := by
  have all : (rest.takeWhile inName).all inName = true :=
    List.all_eq_true.2 fun octet listed => List.mem_takeWhile_imp listed
  by_cases named : inName first = true
  · rw [List.takeWhile_cons_of_pos named, label, all, Bool.and_true, Bool.and_true]
  · rw [List.takeWhile_cons_of_neg named, label]
    rw [Bool.not_eq_true, inName, Bool.or_eq_false_iff, Bool.or_eq_false_iff] at named
    rw [named.1.1, named.1.2]
    rfl

variable {rest : List UInt8}

theorem diameterName_cons (store : Store) {first : UInt8}
    (isClean : ∀ octet ∈ first :: rest, isSpace octet = false) :
    diameterName store (first :: rest) =
      (store, if isAlpha first then some (rest.dropWhile inName) else none) := by
  rw [List.forall_mem_cons] at isClean
  rw [diameterName, Rule.next, Rule.char_cons store rest isClean.1, nameOctet_eq]
  cases isAlpha first with
  | false => rfl
  | true => exact Rule.many_char store isClean.2

theorem diameterDname_cons (store : Store) {first : UInt8}
    (isClean : ∀ octet ∈ first :: rest, isSpace octet = false) :
    diameterDname store (first :: rest) =
      (store, if isDigit first && !(rest.takeWhile inName).isEmpty then
        some (rest.dropWhile inName) else none) := by
  rw [List.forall_mem_cons] at isClean
  rw [diameterDname, Rule.next, Rule.char_cons store rest isClean.1, nameOctet_eq]
  cases isDigit first with
  | false => rfl
  | true =>
    rw [if_pos rfl]
    dsimp only
    rw [Rule.oneOrMore, Rule.next]
    cases rest with
    | nil => rfl
    | cons second others =>
      have cleanRest := isClean.2
      rw [List.forall_mem_cons] at cleanRest
      rw [Rule.char_cons store others cleanRest.1]
      by_cases named : inName second = true
      · rw [List.takeWhile_cons_of_pos named, List.dropWhile_cons_of_pos named, named]
        exact Rule.many_char store cleanRest.2
      · rw [List.takeWhile_cons_of_neg named, if_neg named]
        rfl

theorem labelRule_clean (store : Store) {input : List UInt8}
    (isClean : ∀ octet ∈ input, isSpace octet = false) :
    labelRule store input =
      (store, if label (input.takeWhile inName) then some (input.dropWhile inName) else none) := by
  cases input with
  | nil => rfl
  | cons first rest =>
    rw [labelRule, Rule.orElse, diameterName_cons store isClean, label_cons]
    have kept (named : inName first = true) :
        (first :: rest).dropWhile inName = rest.dropWhile inName :=
      List.dropWhile_cons_of_pos named
    cases alpha : isAlpha first with
    | true =>
      rw [kept (by rw [inName, alpha]; rfl)]
      rfl
    | false =>
      rw [if_neg Bool.false_ne_true]
      dsimp only
      rw [diameterDname_cons store isClean, Bool.false_or]
      cases digit : isDigit first with
      | true => rw [kept (by rw [inName, digit, Bool.or_true]; rfl)]
      | false => rfl

theorem dotted_clean (store : Store) {octet : UInt8}
    (isClean : ∀ other ∈ octet :: rest, isSpace other = false) :
    dotted store (octet :: rest) =
      (store, if octet = 46 ∧ label (rest.takeWhile inName) then
        some (rest.dropWhile inName) else none) := by
  rw [List.forall_mem_cons] at isClean
  rw [dotted, Rule.next, Rule.char_cons store rest isClean.1]
  by_cases dot : octet = 46
  · rw [if_pos (beq_iff_eq.2 dot)]
    dsimp only
    rw [labelRule_clean store isClean.2]
    simp only [dot, true_and]
  · rw [if_neg fun same => dot (beq_iff_eq.1 same), if_neg fun both => dot both.1]

theorem dotted_consumes : Rule.Consumes (@dotted Store) := by
  have name : Rule.Consumes (@diameterName Store) := by
    apply Rule.next_consumes (Rule.char_consumes _ _)
    rw [nameOctet_eq]
    exact Rule.many_shrinks (Rule.char_consumes _ _).shrinks
  have dname : Rule.Consumes (@diameterDname Store) := by
    apply Rule.next_consumes (Rule.char_consumes _ _)
    rw [nameOctet_eq]
    exact (Rule.next_consumes (Rule.char_consumes _ _)
      (Rule.many_shrinks (Rule.char_consumes _ _).shrinks)).shrinks
  exact Rule.next_consumes (Rule.char_consumes _ _) (Rule.orElse_consumes name dname).shrinks

end

theorem full_iff (str : List UInt8) : full str = true ↔ IsIdentity (Rule.clean isSpace str) :=
  labels_all_iff _

theorem isAscii_of_inName (named : inName octet = true) :
    UTF8Checker.isAscii octet := by
  revert named
  unfold inName isAlpha isDigit UTF8Checker.isAscii
  simp only [Bool.or_eq_true, Bool.and_eq_true, decide_eq_true_eq, beq_iff_eq, ne_eq,
    UInt8.le_iff_toNat_le, ← UInt8.toNat_inj]
  simp only [UInt8.toNat_ofNat]
  omega

theorem isAscii_of_isSpace (space : isSpace octet = true) :
    UTF8Checker.isAscii octet := by
  revert space
  unfold isSpace UTF8Checker.isAscii
  simp only [Bool.or_eq_true, Bool.and_eq_true, decide_eq_true_eq, beq_iff_eq, ne_eq,
    UInt8.le_iff_toNat_le, ← UInt8.toNat_inj]
  simp only [UInt8.toNat_ofNat]
  omega

variable {str : List UInt8}

theorem mem_labels (listed : octet ∈ str) (notDot : octet ≠ 46) :
    ∃ part ∈ labels str, octet ∈ part := by
  induction str with
  | nil => cases listed
  | cons head rest induction =>
    obtain ⟨first, others, isRest⟩ := labels_cons rest
    by_cases dot : head = 46
    · subst dot
      rw [labels_dot]
      cases listed with
      | head => exact absurd rfl notDot
      | tail _ listed =>
        obtain ⟨part, isPart, inside⟩ := induction listed
        exact ⟨part, List.mem_cons_of_mem _ isPart, inside⟩
    · rw [labels_octet dot isRest]
      rw [isRest] at induction
      cases listed with
      | head => exact ⟨octet :: first, List.mem_cons_self, List.mem_cons_self⟩
      | tail _ listed =>
        obtain ⟨part, isPart, inside⟩ := induction listed
        cases isPart with
        | head => exact ⟨head :: first, List.mem_cons_self, List.mem_cons_of_mem _ inside⟩
        | tail _ isPart => exact ⟨part, List.mem_cons_of_mem _ isPart, inside⟩

/-- What the grammar accepts is made of ASCII characters. -/
theorem isAscii_of_full (accepted : full str = true) :
    ∀ octet ∈ str, UTF8Checker.isAscii octet := by
  intro octet listed
  by_cases space : isSpace octet = true
  · exact isAscii_of_isSpace space
  · by_cases dot : octet = 46
    · subst dot
      exact ⟨by decide, by decide⟩
    · have kept : octet ∈ Rule.clean isSpace str := by
        apply List.mem_filter.2
        rw [Bool.not_eq_true'] 
        exact ⟨listed, Bool.not_eq_true _ ▸ space⟩
      obtain ⟨part, isPart, inside⟩ := mem_labels kept dot
      have isLabel := List.all_eq_true.1 accepted part isPart
      exact isAscii_of_inName (inName_of_label isLabel octet inside)

theorem isSpace_of_identity (isIdentity : IsIdentity str) :
    ∀ octet ∈ str, isSpace octet = false := by
  intro octet listed
  by_cases dot : octet = 46
  · subst dot
    rfl
  · obtain ⟨part, isPart, inside⟩ := mem_labels listed dot
    have isLabel := List.all_eq_true.1 ((labels_all_iff str).2 isIdentity) part isPart
    exact isSpace_of_inName (inName_of_label isLabel octet inside)

end DiamidentGrammar

/-! What the parser accepts. -/

namespace DiamidentParser

/-- The octets of the value are read as an identity. -/
def Decodes (context : ParserContext) (avp : DictionaryEntry) (str : List UInt8) : Prop :=
  parseRawToApp context avp ⟨str, str.length⟩ = .ok str

/-- The identity is written where there is room for it. -/
def Encodes (context : ParserContext) (avp : DictionaryEntry) (str : List UInt8) : Prop :=
  ∀ buffer : ByteBuffer, str.length ≤ buffer.room →
    parseAppToRaw context avp ⟨.diamId, .octets str⟩ buffer = .ok (buffer.fill str)

open DiamidentGrammar

theorem check_of_full {str : List UInt8} (accepted : full str = true) :
    UTF8Checker.check 0 str = true := by
  rw [UTF8Checker.check_eq_accepts, UTF8Checker.accepts_iff_ascii]
  exact isAscii_of_full accepted

theorem decodes_iff (context : ParserContext) (avp : DictionaryEntry) (str : List UInt8) :
    Decodes context avp str ↔ full str = true := by
  have assigned : OctetstringParser.parseRawToApp ⟨str, str.length⟩ = .ok str := by
    rw [OctetstringParser.parseRawToApp, ValueBlock.assign, if_neg (Nat.lt_irrefl _),
      List.take_length]
  constructor
  · intro decodes
    apply Bool.of_not_eq_false
    intro refused
    rw [Decodes, parseRawToApp, parseText] at decodes
    obtain ⟨text, _, rest⟩ := bind_eq_ok.mp decodes
    by_cases accepted : full text = true
    · rw [if_pos accepted] at rest
      cases rest
      rw [refused] at accepted
      cases accepted
    · rw [if_neg accepted] at rest
      cases rest
  · intro accepted
    have text : Utf8stringParser.parseRawToApp context avp ⟨str, str.length⟩ = .ok str := by
      rw [Utf8stringParser.parseRawToApp, assigned]
      exact if_pos (check_of_full accepted)
    rw [Decodes, parseRawToApp, parseText, text]
    dsimp only [bind, Except.bind]
    rw [if_pos accepted]

theorem encodes_iff (context : ParserContext) (avp : DictionaryEntry) (str : List UInt8) :
    Encodes context avp str ↔ full str = true := by
  constructor
  · intro encodes
    have room : str.length ≤ (ByteBuffer.zeroed str.length).room := by
      rw [ByteBuffer.room, ByteBuffer.capacity_zeroed, ByteBuffer.used_zeroed]
      exact Nat.le_refl _
    have written := expect_eq_ok (encodes _ room)
    obtain ⟨⟨value, isValue⟩, _⟩ := writeText_eq_ok written
    by_cases accepted : full str = true
    · exact accepted
    · rw [if_neg accepted] at isValue
      cases isValue
  · intro accepted buffer room
    change writeText context avp buffer
      (fun str => if full str = true then some str else none) str = _
    rw [writeText, if_pos accepted]
    change Utf8stringParser.write buffer str = _
    rw [Utf8stringParser.write, if_pos (check_of_full accepted), copyOut,
      if_neg (Nat.not_lt.2 room)]

end DiamidentParser

end OpenDiameter.Parser
