import OpenDiameter.Foundation.Decimal
import OpenDiameter.Parser.IdentityGrammar

/-!
`DiamuriGrammar`, and the text that is written for a URI.
-/

namespace OpenDiameter.Parser

open Foundation

namespace UriScheme

def aaa : Int := 0
def aaas : Int := 1

end UriScheme

namespace UriTransport

def tcp : Int := 0
def sctp : Int := 1
def udp : Int := -1

end UriTransport

namespace UriProtocol

def diameter : Int := 0
def radius : Int := 1
def tacacsplus : Int := -1

end UriProtocol

namespace DiamuriGrammar

open DiamidentGrammar

/-- The URI that the actions write to, and where the number of its port stands in the text. -/
structure Reading where
  uri : DiameterUri
  portAt : Option Place
  deriving DecidableEq

def schemeFunctor (str : List UInt8) (reading : Reading) : Reading :=
  { reading with
    uri.scheme := if str = ascii "aaa" then UriScheme.aaa else UriScheme.aaas }

def transportFunctor (str : List UInt8) (reading : Reading) : Reading :=
  { reading with
    uri.transport :=
      if str = ascii "tcp" then UriTransport.tcp
      else if str = ascii "udp" then UriTransport.udp
      else if str = ascii "sctp" then UriTransport.sctp
      else reading.uri.transport }

/-- The protocol is written to the field of the transport. -/
def protocolFunctor (str : List UInt8) (reading : Reading) : Reading :=
  { reading with
    uri.transport :=
      if str = ascii "diameter" then UriProtocol.diameter
      else if str = ascii "radius" then UriProtocol.radius
      else if str = ascii "tacacs+" then UriProtocol.tacacsplus
      else reading.uri.transport }

def fqdnFunctor (str : List UInt8) (reading : Reading) : Reading :=
  { reading with uri.fqdn := str }

/-- `int_p`: an optional sign and digits, for a number of 32 bits. -/
def readInt (input : List UInt8) : Option (Int × List UInt8) :=
  match input with
  | [] => none
  | sign :: rest =>
    if sign = 45 then
      (Decimal.read rest.length 2147483648 rest).map fun (value, rest) => (-value, rest)
    else if sign = 43 then
      (Decimal.read rest.length 2147483647 rest).map fun (value, rest) => (value, rest)
    else
      (Decimal.read input.length 2147483647 input).map fun (value, rest) => (value, rest)

def scheme : Rule Reading :=
  .onText isSpace schemeFunctor (.orElse (.text isSpace (ascii "aaa")) (.text isSpace (ascii "aaas")))

def fqdn : Rule Reading := .onText isSpace fqdnFunctor realm

/-- The port is kept in 16 bits. -/
def port : Rule Reading :=
  .next (.text isSpace (ascii ":"))
    (.onPlace isSpace (fun place reading => { reading with portAt := some place })
      (.number isSpace readInt (fun _ => true)
        fun value reading => { reading with uri.port := UInt16.ofInt value }))

def transport : Rule Reading :=
  .next (.text isSpace (ascii ";transport="))
    (.onText isSpace transportFunctor
      (.orElse (.text isSpace (ascii "tcp"))
        (.orElse (.text isSpace (ascii "sctp")) (.text isSpace (ascii "udp")))))

def protocol : Rule Reading :=
  .next (.text isSpace (ascii ";protocol="))
    (.onText isSpace protocolFunctor
      (.orElse (.text isSpace (ascii "diameter"))
        (.orElse (.text isSpace (ascii "radius")) (.text isSpace (ascii "tacacs+")))))

def diameterUri : Rule Reading :=
  .next scheme
    (.next (.text isSpace (ascii "://"))
      (.next fqdn (.next (.optional port) (.next (.optional transport) (.optional protocol)))))

/-- The URI of a new parser, with the defaults that are set before the text is parsed. -/
def start : Reading where
  uri :=
    { fqdn := [], port := 0, transport := UriProtocol.diameter, protocol := UriTransport.tcp
      scheme := UriScheme.aaa }
  portAt := none

def parse (str : List UInt8) : Option DiameterUri :=
  (Rule.parse isSpace diameterUri start str).map Reading.uri

/-- The text that `parseAppToRaw` puts together. -/
def text (uri : DiameterUri) : List UInt8 :=
  (if uri.scheme = UriScheme.aaa then ascii "aaa://" else ascii "aaas://") ++
    (uri.fqdn ++ (ascii ":" ++ (Decimal.write uri.port.toNat ++ (ascii ";transport=" ++
      ((if uri.transport = UriTransport.tcp then ascii "tcp" else ascii "sctp") ++
        (ascii ";protocol=" ++
          if uri.protocol = UriProtocol.diameter then ascii "diameter" else ascii "radius"))))))

def format : TextFormat DiameterUri := ⟨parse, text⟩

example : parse (ascii "aaa://example.com:3868;transport=tcp;protocol=diameter") =
    some ⟨ascii "example.com", 3868, 0, 0, 0⟩ := by decide +kernel

/-! The labels of a name, with something else behind them. -/

section Names

variable {Store : Type}

/-- The octet is neither of a name nor a dot, if there is one. -/
def EndsName (rest : List UInt8) : Prop :=
  ∀ octet ∈ rest.head?, inName octet = false ∧ octet ≠ 46

theorem takeWhile_label {part rest : List UInt8} (isLabel : IsLabel part)
    (ends : ∀ octet ∈ rest.head?, inName octet = false) :
    (part ++ rest).takeWhile inName = part ∧ (part ++ rest).dropWhile inName = rest := by
  have named := inName_of_label ((label_iff part).2 isLabel)
  rw [List.takeWhile_append_of_pos named, List.dropWhile_append_of_pos named]
  cases rest with
  | nil => exact ⟨List.append_nil part, rfl⟩
  | cons octet rest =>
    have other : ¬inName octet = true := by
      rw [ends octet rfl]
      exact Bool.false_ne_true
    rw [List.takeWhile_cons_of_neg other, List.dropWhile_cons_of_neg other]
    exact ⟨List.append_nil part, rfl⟩

theorem labelRule_append (store : Store) {part rest : List UInt8} (isLabel : IsLabel part)
    (isClean : ∀ octet ∈ part ++ rest, isSpace octet = false)
    (ends : ∀ octet ∈ rest.head?, inName octet = false) :
    labelRule store (part ++ rest) = (store, some rest) := by
  obtain ⟨taken, left⟩ := takeWhile_label isLabel ends
  rw [labelRule_clean store isClean, taken, left, if_pos ((label_iff part).2 isLabel)]

theorem dotted_append (store : Store) {part rest : List UInt8} (isLabel : IsLabel part)
    (isClean : ∀ octet ∈ 46 :: (part ++ rest), isSpace octet = false)
    (ends : ∀ octet ∈ rest.head?, inName octet = false) :
    dotted store (46 :: (part ++ rest)) = (store, some rest) := by
  obtain ⟨taken, left⟩ := takeWhile_label isLabel ends
  rw [dotted_clean store isClean, taken, left, if_pos ⟨rfl, (label_iff part).2 isLabel⟩]

theorem many_dotted_of_ends (store : Store) {rest : List UInt8}
    (isClean : ∀ octet ∈ rest, isSpace octet = false) (ends : EndsName rest) :
    Rule.many dotted store rest = (store, some rest) := by
  rw [Rule.many_eq dotted_consumes]
  cases rest with
  | nil => rfl
  | cons octet rest => rw [dotted_clean store isClean, if_neg fun both => (ends octet rfl).2 both.1]

/-- The other labels, each behind a dot. -/
theorem many_dotted_append (store : Store) {part : List UInt8} {parts : List (List UInt8)}
    {rest : List UInt8} (areLabels : ∀ other ∈ part :: parts, IsLabel other)
    (isClean : ∀ octet ∈ 46 :: ([46].intercalate (part :: parts) ++ rest), isSpace octet = false)
    (ends : EndsName rest) :
    Rule.many dotted store (46 :: ([46].intercalate (part :: parts) ++ rest)) =
      (store, some rest) := by
  induction parts generalizing part with
  | nil =>
    rw [List.intercalate_singleton] at isClean ⊢
    rw [Rule.many_eq dotted_consumes, dotted_append store (areLabels part List.mem_cons_self)
      isClean fun octet first => (ends octet first).1]
    apply many_dotted_of_ends store _ ends
    exact fun octet listed => isClean octet
      (List.mem_cons_of_mem _ (List.mem_append_right _ listed))
  | cons second parts induction =>
    rw [List.forall_mem_cons] at areLabels
    rw [List.intercalate_cons_cons, List.append_assoc, List.append_assoc] at isClean ⊢
    rw [Rule.many_eq dotted_consumes, dotted_append store areLabels.1 isClean]
    · apply induction areLabels.2
      exact fun octet listed => isClean octet
        (List.mem_cons_of_mem _ (List.mem_append_right _ listed))
    · intro octet first
      cases first
      rfl

/-- A name is read as far as it goes. -/
theorem realm_append (store : Store) {name rest : List UInt8} (isIdentity : IsIdentity name)
    (isClean : ∀ octet ∈ name ++ rest, isSpace octet = false) (ends : EndsName rest) :
    realm store (name ++ rest) = (store, some rest) := by
  obtain ⟨parts, some, isName, areLabels⟩ := isIdentity
  subst isName
  cases parts with
  | nil => exact absurd rfl some
  | cons part parts =>
    rw [List.forall_mem_cons] at areLabels
    cases parts with
    | nil =>
      rw [List.intercalate_singleton] at isClean ⊢
      rw [realm, Rule.next_of_match (labelRule_append store areLabels.1 isClean
        fun octet first => (ends octet first).1)]
      apply many_dotted_of_ends store _ ends
      exact fun octet listed => isClean octet (List.mem_append_right _ listed)
    | cons second parts =>
      rw [List.intercalate_cons_cons, List.append_assoc, List.append_assoc] at isClean ⊢
      rw [realm, Rule.next_of_match (labelRule_append store areLabels.1 isClean _)]
      · apply many_dotted_append store areLabels.2 _ ends
        exact fun octet listed => isClean octet (List.mem_append_right _ listed)
      · intro octet first
        cases first
        rfl

end Names

/-! What the rules make of the text of a URI. -/

/-- Neither skipped nor refused by the test for UTF-8. -/
def Plain (octet : UInt8) : Prop := isSpace octet = false ∧ UTF8Checker.isAscii octet

def isPlain (octet : UInt8) : Bool := !isSpace octet && octet != 0 && decide (octet < 128)

theorem plain_word {word : List UInt8} (all : word.all isPlain = true) :
    ∀ octet ∈ word, Plain octet := by
  intro octet listed
  have plain := List.all_eq_true.1 all octet listed
  rw [isPlain, Bool.and_eq_true, Bool.and_eq_true, Bool.not_eq_true', bne_iff_ne,
    decide_eq_true_eq] at plain
  exact ⟨plain.1.1, plain.1.2, plain.2⟩

theorem plain_of_digit {octet : UInt8} (digit : Decimal.isDigit octet = true) : Plain octet := by
  have named : inName octet = true := by
    rw [inName, show isDigit octet = true from digit, Bool.or_true]
    rfl
  exact ⟨isSpace_of_inName named, isAscii_of_inName named⟩

theorem plain_of_identity {name : List UInt8} (isIdentity : IsIdentity name) :
    ∀ octet ∈ name, Plain octet := by
  intro octet listed
  refine ⟨isSpace_of_identity isIdentity octet listed, ?_⟩
  by_cases dot : octet = 46
  · rw [dot]
    exact ⟨by decide, by decide⟩
  · obtain ⟨part, isPart, inside⟩ := mem_labels listed dot
    have isLabel := List.all_eq_true.1 ((labels_all_iff name).2 isIdentity) part isPart
    exact isAscii_of_inName (inName_of_label isLabel octet inside)

/-- What follows the scheme in the text. -/
def textAfterScheme (uri : DiameterUri) : List UInt8 :=
  ascii "://" ++ (uri.fqdn ++ (ascii ":" ++ (Decimal.write uri.port.toNat ++
    (ascii ";transport=" ++
      ((if uri.transport = UriTransport.tcp then ascii "tcp" else ascii "sctp") ++
        (ascii ";protocol=" ++
          if uri.protocol = UriProtocol.diameter then ascii "diameter" else ascii "radius"))))))

theorem text_aaa {uri : DiameterUri} (isAaa : uri.scheme = UriScheme.aaa) :
    text uri = ascii "aaa" ++ textAfterScheme uri := by
  rw [text, if_pos isAaa]
  rfl

theorem text_aaas {uri : DiameterUri} (isAaas : uri.scheme ≠ UriScheme.aaa) :
    text uri = ascii "aaa" ++ (ascii "s" ++ textAfterScheme uri) := by
  rw [text, if_neg isAaas]
  rfl

theorem textAfterScheme_plain {uri : DiameterUri} (valid : IsIdentity uri.fqdn) :
    ∀ octet ∈ textAfterScheme uri, Plain octet := by
  have transport : ∀ octet ∈ if uri.transport = UriTransport.tcp then ascii "tcp" else ascii "sctp",
      Plain octet := by
    split
    · exact plain_word rfl
    · exact plain_word rfl
  have protocol : ∀ octet ∈ if uri.protocol = UriProtocol.diameter then ascii "diameter" else
      ascii "radius", Plain octet := by
    split
    · exact plain_word rfl
    · exact plain_word rfl
  simp only [textAfterScheme, List.forall_mem_append]
  exact ⟨plain_word rfl, plain_of_identity valid, plain_word rfl,
    fun octet listed => plain_of_digit (Decimal.isDigit_of_write octet listed), plain_word rfl,
    transport, plain_word rfl, protocol⟩

theorem text_plain {uri : DiameterUri} (valid : IsIdentity uri.fqdn) :
    ∀ octet ∈ text uri, Plain octet := by
  have after := textAfterScheme_plain valid
  by_cases isAaa : uri.scheme = UriScheme.aaa
  · rw [text_aaa isAaa, List.forall_mem_append]
    exact ⟨plain_word rfl, after⟩
  · rw [text_aaas isAaa, List.forall_mem_append, List.forall_mem_append]
    exact ⟨plain_word rfl, plain_word rfl, after⟩

theorem head_kept {input : List UInt8} (plain : ∀ octet ∈ input, Plain octet) :
    ∀ octet ∈ input.head?, isSpace octet = false :=
  fun octet first => (plain octet (List.mem_of_mem_head? first)).1

theorem kept_append {word : List UInt8} (plain : word.all isPlain = true) (some : word ≠ [])
    (rest : List UInt8) : ∀ octet ∈ (word ++ rest).head?, isSpace octet = false := by
  cases word with
  | nil => exact absurd rfl some
  | cons first word =>
    intro octet isFirst
    cases isFirst
    exact (plain_word plain first List.mem_cons_self).1

theorem scheme_append (reading : Reading) (rest : List UInt8) :
    scheme reading (ascii "aaa" ++ rest) =
      ({ reading with uri.scheme := UriScheme.aaa }, some rest) := by
  have kept := @kept_append (ascii "aaa") rfl (by decide) rest
  exact Rule.onText_of_match kept (Rule.orElse_of_match (Rule.text_of_prefix kept))

theorem readInt_write {number : Nat} (small : number < 65536) {rest : List UInt8}
    (ends : Decimal.Ends rest) :
    readInt (Decimal.write number ++ rest) = some ((number : Int), rest) := by
  have isRead := @Decimal.read_write number (Decimal.write number ++ rest).length 2147483647 rest
    (by omega) (by rw [List.length_append]; exact Nat.le_add_right _ _) ends
  cases isNumber : Decimal.write number with
  | nil => exact absurd isNumber (Decimal.write_ne_nil number)
  | cons first digits =>
    have digit : Decimal.isDigit first = true := by
      apply @Decimal.isDigit_of_write number
      rw [isNumber]
      exact List.mem_cons_self
    rw [isNumber, List.cons_append] at isRead
    rw [List.cons_append, readInt, if_neg, if_neg, isRead]
    · rfl
    · intro plus
      rw [plus] at digit
      cases digit
    · intro minus
      rw [minus] at digit
      cases digit

theorem port_append (reading : Reading) (number : UInt16) {rest : List UInt8}
    (plain : ∀ octet ∈ Decimal.write number.toNat ++ rest, Plain octet)
    (ends : Decimal.Ends rest) :
    port reading (ascii ":" ++ (Decimal.write number.toNat ++ rest)) =
      (⟨{ reading.uri with port := number }, some ⟨Decimal.write number.toNat ++ rest, rest⟩⟩,
        some rest) := by
  have colon := @kept_append (ascii ":") rfl (by decide)
    (Decimal.write number.toNat ++ rest)
  have same : UInt16.ofInt (number.toNat : Int) = number := by
    rw [UInt16.ofInt]
    have small := number.toNat_lt
    have isNumber : ((number.toNat : Int) % 2 ^ 16).toNat = number.toNat := by omega
    rw [isNumber, UInt16.ofNat_toNat]
  have kept := head_kept plain
  have isRead := @Rule.number_of_read Reading isSpace reading _ rest Int readInt (fun _ => true)
    (fun value reading => { reading with uri.port := UInt16.ofInt value }) _ kept
    (readInt_write number.toNat_lt ends) rfl
  refine (Rule.next_of_match (Rule.text_of_prefix colon)).trans
    ((Rule.onPlace_of_match kept isRead).trans ?_)
  rw [same]

/-- A keyword with one of two words behind it. -/
theorem keyword_append (keyword first second : List UInt8) (others : Rule Reading)
    (action : List UInt8 → Reading → Reading) (reading : Reading) (isFirst : Prop)
    [Decidable isFirst] {rest : List UInt8}
    (keywordKept : ∀ rest, ∀ octet ∈ (keyword ++ rest).head?, isSpace octet = false)
    (firstKept : ∀ octet ∈ (first ++ rest).head?, isSpace octet = false)
    (secondKept : ∀ octet ∈ (second ++ rest).head?, isSpace octet = false)
    (notFirst : Rule.text isSpace first reading (second ++ rest) = (reading, none))
    (isOther : others reading (second ++ rest) = (reading, some rest)) :
    Rule.next (.text isSpace keyword)
        (.onText isSpace action (.orElse (.text isSpace first) others)) reading
        (keyword ++ ((if isFirst then first else second) ++ rest)) =
      (action (if isFirst then first else second) reading, some rest) := by
  rw [Rule.next_of_match (Rule.text_of_prefix (keywordKept _))]
  split
  · exact Rule.onText_of_match firstKept (Rule.orElse_of_match (Rule.text_of_prefix firstKept))
  · exact Rule.onText_of_match secondKept ((Rule.orElse_of_fail notFirst).trans isOther)

theorem transport_append (reading : Reading) (isTcp : Prop) [Decidable isTcp]
    (rest : List UInt8) :
    transport reading (ascii ";transport=" ++
        ((if isTcp then ascii "tcp" else ascii "sctp") ++ rest)) =
      ({ reading with
          uri.transport := if isTcp then UriTransport.tcp else UriTransport.sctp }, some rest) := by
  have sctp := @kept_append (ascii "sctp") rfl (by decide) rest
  refine (keyword_append _ _ _ _ transportFunctor reading isTcp
    (@kept_append (ascii ";transport=") rfl (by decide))
    (@kept_append (ascii "tcp") rfl (by decide) rest) sctp rfl
    (Rule.orElse_of_match (Rule.text_of_prefix sctp))).trans ?_
  split <;> rfl

theorem protocol_append (reading : Reading) (isDiameter : Prop) [Decidable isDiameter] :
    protocol reading (ascii ";protocol=" ++
        if isDiameter then ascii "diameter" else ascii "radius") =
      ({ reading with
          uri.transport := if isDiameter then UriProtocol.diameter else UriProtocol.radius },
        some []) := by
  have radius := @kept_append (ascii "radius") rfl (by decide) []
  have matched := keyword_append _ _ _ _ protocolFunctor reading isDiameter
    (@kept_append (ascii ";protocol=") rfl (by decide))
    (@kept_append (ascii "diameter") rfl (by decide) []) radius rfl
    (@Rule.orElse_of_match _ _ (.text isSpace (ascii "tacacs+")) _ _ _ _
      (Rule.text_of_prefix radius))
  rw [List.append_nil] at matched
  refine matched.trans ?_
  split <;> rfl

/-- What the rule reads behind the scheme. -/
theorem afterScheme_append (reading : Reading) {uri : DiameterUri} (valid : IsIdentity uri.fqdn) :
    ∃ after, Rule.next (.text isSpace (ascii "://"))
        (.next fqdn (.next (.optional port) (.next (.optional transport) (.optional protocol))))
        reading (textAfterScheme uri) = (after, some []) ∧
      after.uri =
        { reading.uri with
          fqdn := uri.fqdn, port := uri.port
          transport :=
            if uri.protocol = UriProtocol.diameter then UriProtocol.diameter
            else UriProtocol.radius } := by
  have plain := textAfterScheme_plain valid
  rw [textAfterScheme] at plain ⊢
  rw [List.forall_mem_append] at plain
  have plainName := plain.2
  have plainPort := plainName
  rw [List.forall_mem_append, List.forall_mem_append] at plainPort
  have isRealm := realm_append reading valid (fun octet listed => (plainName octet listed).1) (by
    intro octet first
    cases first
    decide)
  have isName : fqdn reading _ = (fqdnFunctor uri.fqdn reading, some _) :=
    Rule.onText_of_match (head_kept plainName) isRealm
  have isPort := port_append (fqdnFunctor uri.fqdn reading) uri.port plainPort.2.2 (by
    intro octet first
    cases first
    rfl)
  exact ⟨_, (Rule.next_of_match (Rule.text_of_prefix
    (@kept_append (ascii "://") rfl (by decide) _))).trans
    ((Rule.next_of_match isName).trans
      ((Rule.next_of_match (Rule.optional_of_match isPort)).trans
        ((Rule.next_of_match (Rule.optional_of_match (transport_append _ _ _))).trans
          (Rule.optional_of_match (protocol_append _ _))))), rfl⟩

/-- Of the text for the scheme `aaa` everything is read but the protocol, and the transport is what
the protocol is. -/
theorem parse_text_aaa {uri : DiameterUri} (valid : IsIdentity uri.fqdn)
    (isAaa : uri.scheme = UriScheme.aaa) :
    parse (text uri) = some
      { uri with
        transport :=
          if uri.protocol = UriProtocol.diameter then UriProtocol.diameter else UriProtocol.radius
        protocol := UriProtocol.diameter } := by
  obtain ⟨after, matched, isUri⟩ := afterScheme_append
    { start with uri.scheme := UriScheme.aaa } valid
  have whole : diameterUri start (text uri) = (after, some []) := by
    rw [text_aaa isAaa, diameterUri, Rule.next_of_match (scheme_append start _), matched]
  have isFull : Rule.full isSpace diameterUri start (text uri) = true := by
    rw [Rule.full, whole]
    rfl
  rw [parse, Rule.parse, if_pos isFull, whole]
  dsimp only [Option.map]
  rw [isUri, ← isAaa]
  rfl

/-- The alternative for `aaas` is never reached. -/
theorem parse_text_aaas {uri : DiameterUri} (isAaas : uri.scheme ≠ UriScheme.aaa) :
    parse (text uri) = none := by
  have failed : ∃ after, diameterUri start (text uri) = (after, none) := by
    rw [text_aaas isAaas, diameterUri, Rule.next_of_match (scheme_append start _)]
    exact ⟨_, rfl⟩
  obtain ⟨after, failed⟩ := failed
  have notFull : Rule.full isSpace diameterUri start (text uri) = false := by
    rw [Rule.full, failed]
  rw [parse, Rule.parse, notFull]
  rfl

end DiamuriGrammar

namespace DiamuriParser

open DiamuriGrammar

/-- The URI is written where there is room for it, and read back from what is written. -/
def RoundTrips (context : ParserContext) (avp : DictionaryEntry) (uri : DiameterUri) : Prop :=
  let str := context.uri.text uri
  (∀ buffer : ByteBuffer, str.length ≤ buffer.room →
    parseAppToRaw context ⟨.diamUri, .uri uri⟩ buffer = .ok (buffer.fill str)) ∧
  parseRawToApp context avp ⟨str, str.length⟩ = .ok uri

theorem check_text {uri : DiameterUri} (valid : DiamidentGrammar.IsIdentity uri.fqdn) :
    UTF8Checker.check 0 (text uri) = true := by
  rw [UTF8Checker.check_eq_accepts, UTF8Checker.accepts_iff_ascii]
  exact fun octet listed => (text_plain valid octet listed).2

theorem roundTrips_iff_parse {context : ParserContext}
    (grammar : context.uri = DiamuriGrammar.format) (avp : DictionaryEntry) {uri : DiameterUri}
    (valid : DiamidentGrammar.IsIdentity uri.fqdn) :
    RoundTrips context avp uri ↔ parse (text uri) = some uri := by
  have written (buffer : ByteBuffer) (room : (text uri).length ≤ buffer.room) :
      parseAppToRaw context ⟨.diamUri, .uri uri⟩ buffer = .ok (buffer.fill (text uri)) := by
    change Utf8stringParser.write buffer (context.uri.text uri) = _
    rw [grammar]
    change Utf8stringParser.write buffer (text uri) = _
    rw [Utf8stringParser.write, if_pos (check_text valid), copyOut, if_neg (Nat.not_lt.2 room)]
  have read : parseRawToApp context avp ⟨text uri, (text uri).length⟩ = .ok uri ↔
      parse (text uri) = some uri := by
    have isText : Utf8stringParser.parseRawToApp context avp ⟨text uri, (text uri).length⟩ =
        .ok (text uri) := by
      rw [Utf8stringParser.parseRawToApp, OctetstringParser.parseRawToApp, ValueBlock.assign,
        if_neg (Nat.lt_irrefl _), List.take_length]
      exact if_pos (check_text valid)
    rw [parseRawToApp, parseText, isText, grammar]
    dsimp only [bind, Except.bind]
    rw [show DiamuriGrammar.format.parse (text uri) = parse (text uri) from rfl]
    cases parse (text uri) with
    | none => exact iff_of_false (by rintro ⟨⟩) (by rintro ⟨⟩)
    | some other =>
      constructor
      · intro same
        cases same
        rfl
      · intro same
        cases same
        rfl
  rw [← read, RoundTrips, grammar]
  exact and_iff_right written

/-- A URI comes back exactly when its scheme is `aaa`, its transport is TCP and its protocol is
Diameter. -/
theorem uriRoundTrips_iff {context : ParserContext} (grammar : context.uri = DiamuriGrammar.format)
    (avp : DictionaryEntry) (uri : DiameterUri)
    (valid : DiamidentGrammar.IsIdentity uri.fqdn) :
    RoundTrips context avp uri ↔
      uri.scheme = UriScheme.aaa ∧ uri.transport = UriTransport.tcp ∧
        uri.protocol = UriProtocol.diameter := by
  rw [roundTrips_iff_parse grammar avp valid]
  by_cases isAaa : uri.scheme = UriScheme.aaa
  · rw [parse_text_aaa valid isAaa]
    constructor
    · intro same
      have isUri := Option.some.inj same
      have isProtocol := congrArg DiameterUri.protocol isUri
      have isTransport := congrArg DiameterUri.transport isUri
      dsimp only at isProtocol isTransport
      rw [if_pos isProtocol.symm] at isTransport
      exact ⟨isAaa, isTransport.symm, isProtocol.symm⟩
    · intro ⟨_, isTransport, isProtocol⟩
      cases uri
      dsimp only at isTransport isProtocol
      subst isTransport isProtocol
      rfl
  · rw [parse_text_aaas isAaa]
    exact iff_of_false (fun same => nomatch same) fun all => isAaa all.1

/-! URIs of a host that is called `a`. -/

def context : ParserContext := { RouteRecords.context with uri := DiamuriGrammar.format }

def redirectHost : DictionaryEntry :=
  { avpName := "Redirect-Host", avpCode := 292, avpType := .diamUri, vendorId := 0
    flags := ⟨true, false, false⟩ }

def secure : DiameterUri :=
  { fqdn := ascii "a", port := 5658, transport := UriTransport.tcp
    protocol := UriProtocol.diameter, scheme := UriScheme.aaas }

def sctp : DiameterUri :=
  { fqdn := ascii "a", port := 3868, transport := UriTransport.sctp
    protocol := UriProtocol.diameter, scheme := UriScheme.aaa }

theorem host_valid : DiamidentGrammar.IsIdentity (ascii "a") :=
  (DiamidentGrammar.labels_all_iff _).1 (by decide)

theorem uriRoundTrips_iff_sctp :
    RoundTrips context redirectHost sctp ↔
      sctp.scheme = UriScheme.aaa ∧ sctp.transport = UriTransport.tcp ∧
        sctp.protocol = UriProtocol.diameter :=
  uriRoundTrips_iff rfl redirectHost sctp host_valid

/-- The text of the one is refused, and the other comes back with the transport TCP. -/
theorem uris_changed :
    parse (text secure) = none ∧
      parse (text sctp) = some { sctp with transport := UriTransport.tcp } ∧
      ¬RoundTrips context redirectHost secure ∧ ¬RoundTrips context redirectHost sctp := by
  have refused : parse (text secure) = none := parse_text_aaas (by decide)
  have changed := @parse_text_aaa sctp host_valid rfl
  refine ⟨refused, changed, ?_, ?_⟩
  · rw [roundTrips_iff_parse rfl redirectHost host_valid, refused]
    exact fun same => nomatch same
  · rw [roundTrips_iff_parse rfl redirectHost host_valid, changed]
    exact fun same => by cases congrArg DiameterUri.transport (Option.some.inj same)

end DiamuriParser

end OpenDiameter.Parser
