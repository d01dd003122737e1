import Mathlib.Data.List.ModifyLast
import OpenDiameter.Parser.Text

/-! The text of an IPFilterRule is read back exactly for protocols below 100 without ICMP types. -/

set_option autoImplicit false

namespace OpenDiameter.Parser

open Foundation

section Lists

variable {σ α : Type} {p q : Rule σ} {print : α → Octets} {effect : α → σ → σ} {follows : Octets → Prop}

theorem sepBy_printList (solid : (q >> p).Solid) {items : List α}
    (reads : ∀ item ∈ items, ∀ after s, follows after → p.parse (print item ++ after) s = (some after, effect item s))
    (separator : ∀ input s, q.parse (ascii "," ++ input) s = (some input, s))
    (comma : ∀ input, follows (ascii "," ++ input)) {after : Octets} (last : follows after)
    (stops : ∀ s, q.parse after s = (none, s)) (some' : items ≠ []) (s : σ) :
    (p % q).parse (printList print items ++ after) s = (some after, items.foldl (fun s item => effect item s) s) := by
  have later : ∀ (items : List α) (s : σ),
      (∀ item ∈ items, ∀ after s, follows after → p.parse (print item ++ after) s = (some after, effect item s)) →
      ∀ item, (∀ after s, follows after → p.parse (print item ++ after) s = (some after, effect item s)) →
        (p >> (q >> p).many).parse (printList print (item :: items) ++ after) s =
          (some after, items.foldl (fun s item => effect item s) (effect item s)) := by
    intro items
    induction items with
    | nil =>
      intro s _ item one
      have ends : (q >> p).parse after (effect item s) = (none, effect item s) := Rule.andThen_fail (stops _)
      rw [printList, Rule.andThen_match (one after s last), Rule.many_fail ends]
      rfl
    | cons next items ih =>
      intro s all item one
      obtain ⟨first, others⟩ := List.forall_mem_cons.mp all
      have text : printList print (item :: next :: items) ++ after =
          print item ++ (ascii "," ++ (printList print (next :: items) ++ after)) := by
        simp [printList]
      have rest := ih (effect item s) others next first
      rw [Rule.parse_andThen] at rest
      rw [text, Rule.andThen_match (one _ s (comma _))]
      cases inside : p.parse (printList print (next :: items) ++ after) (effect item s) with
      | mk left s' =>
        rw [inside] at rest
        cases left with
        | none => cases rest
        | some middle =>
          have turn : (q >> p).parse (ascii "," ++ (printList print (next :: items) ++ after)) (effect item s) =
              (some middle, s') := by
            rw [Rule.andThen_match (separator _ _), inside]
          rw [Rule.many_match solid turn]
          exact rest
  cases items with
  | nil => exact absurd rfl some'
  | cons item items =>
    obtain ⟨first, others⟩ := List.forall_mem_cons.mp reads
    exact later items s others item first

theorem foldl_append_one {put : List α → σ → σ} (nothing : ∀ s, put [] s = s)
    (step : ∀ item items s, put items (put [item] s) = put (item :: items) s) (items : List α) (s : σ) :
    items.foldl (fun s item => put [item] s) s = put items s := by
  induction items generalizing s with
  | nil => exact (nothing s).symm
  | cons item items ih => rw [List.foldl_cons, ih, step]

end Lists

section Numbers

variable {σ : Type}

theorem skip_decimal (n : Nat) (after : Octets) : skip (decimal n ++ after) = decimal n ++ after := by
  cases text : decimal n with
  | nil => exact absurd text (decimal_ne_nil _)
  | cons b rest => exact skip_cons (isDigit_solid (decimal_digits n b (by rw [text]; exact List.mem_cons_self))).1 _

theorem uintP_decimal {n : Nat} (small : n < 2 ^ 32) {action : Nat → σ → σ} {after : Octets} (stop : NoDigit after) (s : σ) :
    (uintP action).parse (decimal n ++ after) s = (some after, action n s) := by
  have value := digitsValue_decimal n
  have fits : (decimal n).length ≤ (decimal n ++ after).length := by simp
  have read := numeral_append (decimal_ne_nil n) (decimal_digits n) stop fits (by omega : digitsValue (decimal n) ≤ 2 ^ 32 - 1)
  unfold uintP Rule.token
  dsimp only
  rw [skip_decimal, read, value]
  rfl

theorem uint3P_digits {max : Nat} {digits : Octets} (some' : digits ≠ []) (all : ∀ b ∈ digits, isDigit b = true)
    (fits : digits.length ≤ 3) (small : digitsValue digits ≤ max) (bounded : max < 2 ^ 32) {action : Nat → σ → σ}
    {after : Octets} (stop : NoDigit after) (s : σ) :
    (uint3P max action).parse (digits ++ after) s = (some after, action (digitsValue digits) s) := by
  have skipped : skip (digits ++ after) = digits ++ after := by
    cases digits with
    | nil => exact absurd rfl some'
    | cons b digits => exact skip_cons (isDigit_solid (all b List.mem_cons_self)).1 _
  have read := numeral_append some' all stop fits (by omega : digitsValue digits ≤ 2 ^ 32 - 1)
  unfold uint3P Rule.token
  dsimp only
  rw [skipped, read]
  dsimp only
  rw [if_pos (decide_eq_true small)]

theorem uint3P_decimal {n max : Nat} (small : n ≤ max) (bounded : max < 1000) {action : Nat → σ → σ} {after : Octets}
    (stop : NoDigit after) (s : σ) : (uint3P max action).parse (decimal n ++ after) s = (some after, action n s) := by
  have value := digitsValue_decimal n
  have read : (uint3P max action).parse (decimal n ++ after) s = (some after, action (digitsValue (decimal n)) s) :=
    uint3P_digits (decimal_ne_nil n) (decimal_digits n) (decimal_length_le (by decide) (by omega))
      (by omega) (by omega) stop s
  rwa [value] at read

end Numbers

namespace IpFilterRuleGrammar

section Side

structure OctetText (digits : Octets) : Prop where
  nonempty : digits ≠ []
  short : digits.length ≤ 3
  all : ∀ b ∈ digits, isDigit b = true
  small : digitsValue digits ≤ 255

def DottedIpv4 (text : Octets) : Prop :=
  ∃ a b c d, OctetText a ∧ OctetText b ∧ OctetText c ∧ OctetText d ∧
    text = a ++ 46 :: (b ++ 46 :: (c ++ 46 :: d))

def Words (text : Octets) : Prop := ∀ b, (skip text).head? = some b → isAlpha b = true

variable {σ : Type}

theorem octet_text {digits : Octets} (text : OctetText digits) {after : Octets} (stop : NoDigit after) (s : σ) :
    octet.parse (digits ++ after) s = (some after, s) :=
  uint3P_digits text.nonempty text.all text.short text.small (by decide) stop s

theorem ipno_dotted {text : Octets} (dotted : DottedIpv4 text) {after : Octets} (stop : NoDigit after) (s : σ) :
    ipno.parse (text ++ after) s = (some after, s) := by
  obtain ⟨a, b, c, d, first, second, third, fourth, rfl⟩ := dotted
  have dot (tail : Octets) : NoDigit (46 :: tail) := by
    rintro c ⟨⟩
    rfl
  have point (tail : Octets) (s : σ) : (chP '.').parse (46 :: tail) s = (some tail, s) := rfl
  have parts : a ++ 46 :: (b ++ 46 :: (c ++ 46 :: d)) ++ after = a ++ 46 :: (b ++ 46 :: (c ++ 46 :: (d ++ after))) := by simp
  have whole : ipv4DottedForm.parse (a ++ 46 :: (b ++ 46 :: (c ++ 46 :: (d ++ after)))) s = (some after, s) := by
    unfold ipv4DottedForm
    rw [Rule.andThen_match (octet_text first (dot _) s), Rule.andThen_match (point _ s),
      Rule.andThen_match (octet_text second (dot _) s), Rule.andThen_match (point _ s),
      Rule.andThen_match (octet_text third (dot _) s), Rule.andThen_match (point _ s), octet_text fourth stop s]
  rw [parts, ipno, Rule.orElse_match whole]

structure OnSide.Lawful (on : OnSide) : Prop where
  same : ∀ r, on (fun side => side) r = r
  comp : ∀ f g r, on g (on f r) = on (fun side => g (f side)) r

theorem onSrc_lawful : OnSide.Lawful onSrc := ⟨fun _ => rfl, fun _ _ _ => rfl⟩

theorem onDst_lawful : OnSide.Lawful onDst := ⟨fun _ => rfl, fun _ _ _ => rfl⟩

variable {on : OnSide}

def NoRange (after : Octets) : Prop := NoDigit after ∧ (skip after).head? ≠ some 45

theorem ch_other {c : UInt8} {input : Octets} (differ : (skip input).head? ≠ some c) (s : σ) :
    (Rule.ch c : Rule σ).parse input s = (none, s) := by
  unfold Rule.ch Rule.one
  dsimp only
  cases skipped : skip input with
  | nil => rfl
  | cons b rest =>
    rw [skipped] at differ
    exact if_neg fun same => differ (congrArg some (beq_iff_eq.mp same))

theorem firstPort_port (port : UInt16) : firstPort port.toNat =
    fun side => { side with portRangeList := side.portRangeList ++ [(port, port)] } := by
  funext side
  simp [firstPort]

theorem portRange_print (lawful : on.Lawful) (range : UInt16 × UInt16) {after : Octets} (stop : NoRange after)
    (r : IpFilterRule) :
    (portRange on).parse (printRange range.1.toNat range.2.toNat ++ after) r =
      (some after, on (fun side => { side with portRangeList := side.portRangeList ++ [range] }) r) := by
  obtain ⟨first, last⟩ := range
  have small (port : UInt16) : port.toNat < 2 ^ 32 := Nat.lt_trans port.toNat_lt (by decide)
  unfold portRange printRange
  dsimp only
  by_cases single : first.toNat = last.toNat
  · have same : first = last := UInt16.toNat_inj.mp single
    subst same
    have none' : (chP '-' >> uintP fun value => on (lastPort value)).parse after (on (firstPort first.toNat) r) =
        (none, on (firstPort first.toNat) r) := Rule.andThen_fail (ch_other stop.2 _)
    rw [if_pos rfl, Rule.andThen_match (uintP_decimal (small first) stop.1 r), Rule.maybe_fail none',
      firstPort_port]
  · have dash : NoDigit (ascii "-" ++ (decimal last.toNat ++ after)) := by
      rintro c ⟨⟩
      rfl
    have second : (chP '-' >> uintP fun value => on (lastPort value)).parse (ascii "-" ++ (decimal last.toNat ++ after))
        (on (firstPort first.toNat) r) = (some after, on (lastPort last.toNat) (on (firstPort first.toNat) r)) := by
      have hyphen : (chP '-' : Rule IpFilterRule).parse (ascii "-" ++ (decimal last.toNat ++ after))
          (on (firstPort first.toNat) r) = (some (decimal last.toNat ++ after), on (firstPort first.toNat) r) := rfl
      rw [Rule.andThen_match hyphen, uintP_decimal (small last) stop.1]
    rw [if_neg single, List.append_assoc, List.append_assoc, Rule.andThen_match (uintP_decimal (small first) dash r),
      Rule.maybe_match second, lawful.comp]
    simp [firstPort, lastPort, List.modifyLast_concat]

theorem portRange_solid : (portRange on).Solid :=
  .andThen (solid_uintP _) (.maybe (.andThen (solid_chP rfl (by decide)) (solid_uintP _).loose))

theorem Words.noDigit {tail : Octets} (words : Words tail) : NoDigit (skip tail) := by
  intro b head
  have alpha := words b head
  simp only [isAlpha, isDigit, Bool.or_eq_true, Bool.and_eq_true, decide_eq_true_eq, Bool.and_eq_false_iff,
    decide_eq_false_iff_not, UInt8.le_iff_toNat_le, UInt8.reduceToNat] at alpha ⊢
  omega

theorem Words.ne {tail : Octets} (words : Words tail) {b : UInt8} (other : isAlpha b = false) :
    (skip tail).head? ≠ some b := by
  intro head
  have alpha := words b head
  rw [other] at alpha
  cases alpha

theorem uintP_words {tail : Octets} (words : Words tail) (action : Nat → σ → σ) (s : σ) :
    (uintP action).parse tail s = (none, s) := by
  unfold uintP Rule.token
  dsimp only
  rw [numeral_none words.noDigit]

theorem ports_print (lawful : on.Lawful) {tail : Octets} (words : Words tail) (ranges : List (UInt16 × UInt16))
    (r : IpFilterRule) :
    (ports on).maybe.parse (32 :: (printList (fun range => printRange range.1.toNat range.2.toNat) ranges ++
        ((if ranges = [] then [] else ascii " ") ++ tail))) r =
      (some (32 :: tail), on (fun side => { side with portRangeList := side.portRangeList ++ ranges }) r) := by
  have behind : Words (32 :: tail) := words
  by_cases none' : ranges = []
  · subst none'
    have fails : (ports on).parse (32 :: tail) r = (none, r) := Rule.andThen_fail (Rule.andThen_fail (uintP_words behind _ r))
    simpa [printList, lawful.same] using Rule.maybe_fail fails
  · have reads : (ports on).parse (printList (fun range => printRange range.1.toNat range.2.toNat) ranges ++ 32 :: tail) r =
        (some (32 :: tail),
          ranges.foldl (fun r range => on (fun side => { side with portRangeList := side.portRangeList ++ [range] }) r) r) :=
      sepBy_printList (.andThen (solid_chP rfl (by decide)) portRange_solid.loose) (fun range _ after r stop => portRange_print lawful range stop r) (fun _ _ => rfl)
        (fun _ => ⟨by rintro c ⟨⟩; rfl, by rintro ⟨⟩⟩) ⟨by rintro c ⟨⟩; rfl, behind.ne rfl⟩
        (fun r => ch_other (behind.ne rfl) r) none' r
    have folded := @foldl_append_one _ _
      (fun ranges => on fun side => { side with portRangeList := side.portRangeList ++ ranges })
      (by simp [lawful.same]) (by simp [lawful.comp]) ranges r
    rw [folded] at reads
    rw [if_neg none']
    exact Rule.maybe_match reads

def Documented (side : IpFilterSrcDst) : Prop :=
  match side.representation with
  | .any | .assigned => True
  | .exact => DottedIpv4 side.ipno
  | .mask => DottedIpv4 side.ipno ∧ side.bits.toNat ≤ 128

def readInto (side start : IpFilterSrcDst) : IpFilterSrcDst where
  modifier := start.modifier && side.modifier
  representation := if side.representation = .exact then start.representation else side.representation
  ipno := if side.representation = .exact ∨ side.representation = .mask then side.ipno else start.ipno
  bits := if side.representation = .mask then side.bits else start.bits
  portRangeList := start.portRangeList ++ side.portRangeList

def partyText (side : IpFilterSrcDst) : Octets :=
  match side.representation with
  | .any => ascii "any"
  | .assigned => ascii "assigned"
  | .mask => side.ipno ++ (ascii "/" ++ decimal side.bits.toNat)
  | .exact => side.ipno

theorem dotted_head {text : Octets} (dotted : DottedIpv4 text) : ∃ b rest, text = b :: rest ∧ isDigit b = true := by
  obtain ⟨a, b, c, d, first, -, -, -, rfl⟩ := dotted
  cases a with
  | nil => exact absurd rfl first.nonempty
  | cons x a => exact ⟨x, _, rfl, first.all x List.mem_cons_self⟩

theorem keyword_any (after : Octets) (r : IpFilterRule) : (keyword on).parse (ascii "any" ++ after) r =
    (some after, on (fun side => { side with representation := .any }) r) := by
  have inside : (strP "any" <|> strP "assigned").parse (ascii "any" ++ after) r = (some after, r) := rfl
  exact Rule.act_text rfl inside

theorem keyword_assigned (after : Octets) (r : IpFilterRule) : (keyword on).parse (ascii "assigned" ++ after) r =
    (some after, on (fun side => { side with representation := .assigned }) r) := by
  have inside : (strP "any" <|> strP "assigned").parse (ascii "assigned" ++ after) r = (some after, r) := rfl
  exact Rule.act_text rfl inside

theorem keyword_digit {b : UInt8} (digit : isDigit b = true) (rest : Octets) (r : IpFilterRule) :
    (keyword on).parse (b :: rest) r = (none, r) := by
  have solid : skip (b :: rest) = b :: rest := skip_cons (isDigit_solid digit).1 rest
  have letter : (97 : UInt8) ≠ b := by
    rintro rfl
    cases digit
  have any : (strP "any" : Rule IpFilterRule).parse (b :: rest) r = (none, r) := Rule.str_mismatch solid letter
  have assigned : (strP "assigned" : Rule IpFilterRule).parse (b :: rest) r = (none, r) := Rule.str_mismatch solid letter
  unfold keyword
  rw [Rule.act_fail]
  rw [solid, Rule.orElse_fail any, assigned]

theorem address_dotted {text : Octets} (dotted : DottedIpv4 text) {after : Octets} (stop : NoDigit after) (r : IpFilterRule) :
    (address on).parse (text ++ after) r = (some after, on (fun side => { side with ipno := text }) r) := by
  have solid : skip (text ++ after) = text ++ after := by
    obtain ⟨b, rest, rfl, digit⟩ := dotted_head dotted
    exact skip_cons (isDigit_solid digit).1 _
  exact Rule.act_text solid (ipno_dotted dotted stop r)

theorem maskBits_decimal (lawful : on.Lawful) {bits : UInt8} (small : bits.toNat ≤ 128) {after : Octets} (stop : NoDigit after)
    (r : IpFilterRule) : (maskBits on).parse (ascii "/" ++ (decimal bits.toNat ++ after)) r =
      (some after, on (fun side => { side with representation := .mask, bits := bits }) r) := by
  have inside : (chP '/' : Rule IpFilterRule).parse (ascii "/" ++ (decimal bits.toNat ++ after)) r =
      (some (decimal bits.toNat ++ after), r) := rfl
  have slash : ((chP '/').act fun _ => on fun side => { side with representation := .mask }).parse
      (ascii "/" ++ (decimal bits.toNat ++ after)) r =
      (some (decimal bits.toNat ++ after), on (fun side => { side with representation := .mask }) r) := Rule.act_text rfl inside
  unfold maskBits
  rw [Rule.andThen_match slash, uint3P_decimal small (by decide) stop, lawful.comp]
  simp

theorem party_print (lawful : on.Lawful) {side : IpFilterSrcDst} (documented : Documented side) {after : Octets}
    (slash : (skip after).head? ≠ some 47) (r : IpFilterRule) :
    (keyword on <|> (address on >> (maskBits on).maybe)).parse (partyText side ++ 32 :: after) r =
      (some (32 :: after), on (fun start => { readInto side start with
        modifier := start.modifier, portRangeList := start.portRangeList }) r) := by
  have blank : NoDigit (32 :: after) := by
    rintro c ⟨⟩
    rfl
  have noKeyword (dotted : DottedIpv4 side.ipno) (after : Octets) : (keyword on).parse (side.ipno ++ after) r = (none, r) := by
    obtain ⟨b, rest, same, digit⟩ := dotted_head dotted
    rw [same]
    exact keyword_digit digit _ r
  unfold Documented at documented
  unfold partyText readInto
  cases representation : side.representation with
  | any =>
    rw [Rule.orElse_match (keyword_any _ r)]
    simp
  | assigned =>
    rw [Rule.orElse_match (keyword_assigned _ r)]
    simp
  | exact =>
    rw [representation] at documented
    have noMask (r : IpFilterRule) : (maskBits on).parse (32 :: after) r = (none, r) := by
      have skipped : skip (32 :: after) = skip after := rfl
      have other : (skip (skip (32 :: after))).head? ≠ some 47 := by rwa [skipped, skip_skip]
      exact Rule.andThen_fail (Rule.act_fail (ch_other other r))
    rw [Rule.orElse_fail (noKeyword documented _), Rule.andThen_match (address_dotted documented blank r),
      Rule.maybe_fail (noMask _)]
    simp
  | mask =>
    rw [representation] at documented
    have bits : NoDigit (ascii "/" ++ (decimal side.bits.toNat ++ 32 :: after)) := by
      rintro c ⟨⟩
      rfl
    simp only [List.append_assoc]
    rw [Rule.orElse_fail (noKeyword documented.1 _), Rule.andThen_match (address_dotted documented.1 bits r),
      Rule.maybe_match (maskBits_decimal lawful documented.2 blank _), lawful.comp]
    simp

theorem print_eq_party (side : IpFilterSrcDst) (tail : Octets) :
    side.print ++ tail = (if side.modifier then [] else ascii "!") ++ (partyText side ++ 32 ::
      (printList (fun range => printRange range.1.toNat range.2.toNat) side.portRangeList ++
        ((if side.portRangeList = [] then [] else ascii " ") ++ tail))) := by
  have blank (text : Octets) : ascii " " ++ text = 32 :: text := rfl
  unfold IpFilterSrcDst.print partyText
  cases side.representation <;> simp only [List.append_assoc, blank] <;> rfl

theorem digits_ne {b c : UInt8} {rest : Octets} (digit : isDigit b = true) (other : isDigit c = false) :
    (skip (b :: rest)).head? ≠ some c := by
  rw [skip_cons (isDigit_solid digit).1]
  rintro ⟨⟩
  rw [other] at digit
  cases digit

theorem ports_head {tail : Octets} (words : Words tail) (ranges : List (UInt16 × UInt16)) {c : UInt8}
    (noDigit : isDigit c = false) (noAlpha : isAlpha c = false) :
    (skip (printList (fun range => printRange range.1.toNat range.2.toNat) ranges ++
      ((if ranges = [] then [] else ascii " ") ++ tail))).head? ≠ some c := by
  have number (n : Nat) (after : Octets) : (skip (decimal n ++ after)).head? ≠ some c := by
    cases text : decimal n with
    | nil => exact absurd text (decimal_ne_nil n)
    | cons b rest => exact digits_ne (decimal_digits n b (by rw [text]; exact List.mem_cons_self)) noDigit
  have range (first last : Nat) (after : Octets) : (skip (printRange first last ++ after)).head? ≠ some c := by
    unfold printRange
    split
    · exact number _ _
    · rw [List.append_assoc, List.append_assoc]
      exact number _ _
  cases ranges with
  | nil => exact words.ne noAlpha
  | cons first ranges =>
    cases ranges with
    | nil => exact range _ _ _
    | cons second ranges =>
      rw [printList, List.append_assoc, List.append_assoc]
      · exact range _ _ _
      · rintro ⟨⟩

theorem party_head {side : IpFilterSrcDst} (documented : Documented side) (after : Octets) :
    (skip (partyText side ++ after)).head? ≠ some 33 := by
  have dotted (ipv4 : DottedIpv4 side.ipno) (after : Octets) : (skip (side.ipno ++ after)).head? ≠ some 33 := by
    obtain ⟨b, rest, same, digit⟩ := dotted_head ipv4
    rw [same]
    exact digits_ne digit rfl
  unfold Documented at documented
  unfold partyText
  cases representation : side.representation with
  | any => rintro ⟨⟩
  | assigned => rintro ⟨⟩
  | exact =>
    rw [representation] at documented
    exact dotted documented _
  | mask =>
    rw [representation] at documented
    rw [List.append_assoc]
    exact dotted documented.1 _

theorem srcDst_print (lawful : on.Lawful) {side : IpFilterSrcDst} (documented : Documented side) {tail : Octets}
    (words : Words tail) (r : IpFilterRule) :
    (srcDst on).parse (32 :: (side.print ++ tail)) r = (some (32 :: tail), on (readInto side) r) := by
  have slash := @ports_head tail words side.portRangeList 47 rfl rfl
  have rest (r : IpFilterRule) : ((keyword on <|> (address on >> (maskBits on).maybe)) >> (ports on).maybe).parse
      (partyText side ++ 32 :: (printList (fun range => printRange range.1.toNat range.2.toNat) side.portRangeList ++
        ((if side.portRangeList = [] then [] else ascii " ") ++ tail))) r =
      (some (32 :: tail), on (fun start => { readInto side start with modifier := start.modifier }) r) := by
    rw [Rule.andThen_match (party_print lawful documented slash r), ports_print lawful words, lawful.comp]
    rfl
  rw [print_eq_party]
  unfold srcDst
  cases modifier : side.modifier with
  | true =>
    have none' (after : Octets) : (negation on).parse (32 :: (partyText side ++ after)) r = (none, r) := by
      apply Rule.act_fail
      apply ch_other
      rw [skip_skip]
      exact party_head documented after
    have lead (input : Octets) : ((keyword on <|> (address on >> (maskBits on).maybe)) >> (ports on).maybe).parse
        (32 :: input) r = ((keyword on <|> (address on >> (maskBits on).maybe)) >> (ports on).maybe).parse input r := rfl
    rw [if_pos rfl, List.nil_append, Rule.andThen_match (Rule.maybe_fail (none' _)), lead, rest]
    congr 2
    funext start
    simp [readInto, modifier]
  | false =>
    have inside (after : Octets) : (chP '!' : Rule IpFilterRule).parse (ascii "!" ++ after) r = (some after, r) := rfl
    have mark (after : Octets) : (negation on).parse (32 :: (ascii "!" ++ after)) r =
        (some after, on (fun side => { side with modifier := false }) r) := Rule.act_text rfl (inside after)
    rw [if_neg Bool.false_ne_true, Rule.andThen_match (Rule.maybe_match (mark _)), rest, lawful.comp]
    congr 2
    funext start
    simp [readInto, modifier]

end Side

section Options

structure OptionText where
  text : Octets
  effect : IpFilterRule → IpFilterRule

structure OptionText.Reads (o : OptionText) : Prop where
  words : ∀ after, Words (o.text ++ after)
  reads : ∀ after r, Words after → option.parse (o.text ++ after) r = (some after, o.effect r)

theorem solid_named {push : Int → IpFilterRule → IpFilterRule} {name : String} {number : Int}
    (name' : (strP name : Rule IpFilterRule).Solid) : (named push name number).Solid :=
  .orElse (.act (.andThen (solid_chP rfl (by decide)) name'.loose)) (.act name')

theorem solid_ipoptions : (ssrr <|> lsrr <|> rr <|> ipts).Solid :=
  .orElse (solid_named (solid_strP rfl rfl)) (.orElse (solid_named (solid_strP rfl rfl))
    (.orElse (solid_named (solid_strP rfl rfl)) (solid_named (solid_strP rfl rfl))))

theorem solid_tcpoptions : (mss <|> window <|> sack <|> tcpts <|> cc).Solid :=
  .orElse (solid_named (solid_strP rfl rfl)) (.orElse (solid_named (solid_strP rfl rfl))
    (.orElse (solid_named (solid_strP rfl rfl)) (.orElse (solid_named (solid_strP rfl rfl))
      (solid_named (solid_strP rfl rfl)))))

theorem solid_tcpflags : (fin <|> syn <|> rst <|> psh <|> ack <|> urg).Solid :=
  .orElse (solid_named (solid_strP rfl rfl)) (.orElse (solid_named (solid_strP rfl rfl))
    (.orElse (solid_named (solid_strP rfl rfl)) (.orElse (solid_named (solid_strP rfl rfl))
      (.orElse (solid_named (solid_strP rfl rfl)) (solid_named (solid_strP rfl rfl))))))

theorem option_solid : option.Solid := by
  have comma : (chP ',' : Rule IpFilterRule).Solid := solid_chP rfl (by decide)
  have keyword {text : String} (solid : (strP text : Rule IpFilterRule).Solid) {p : Rule IpFilterRule} (items : p.Solid) :
      (strP text >> p % chP ',').Solid := .andThen solid (Rule.Solid.sepBy items comma).loose
  have types : icmptypes.Solid :=
    .sepBy (.andThen (solid_uintP _) (.maybe (.andThen (solid_chP rfl (by decide)) (solid_uintP _).loose))) comma
  exact .orElse (.act (solid_strP rfl rfl)) (.orElse (keyword (solid_strP rfl rfl) solid_ipoptions)
    (.orElse (keyword (solid_strP rfl rfl) solid_tcpoptions) (.orElse (.act (solid_strP rfl rfl))
      (.orElse (.act (solid_strP rfl rfl)) (.orElse (keyword (solid_strP rfl rfl) solid_tcpflags) types)))))

theorem options_many {items : List OptionText} (all : ∀ o ∈ items, o.Reads) {after : Octets} (words : Words after)
    (stops : ∀ r, option.parse after r = (none, r)) (r : IpFilterRule) :
    option.many.parse (items.flatMap OptionText.text ++ after) r = (some after, items.foldl (fun r o => o.effect r) r) := by
  induction items generalizing r with
  | nil => exact Rule.many_fail (stops r)
  | cons o items ih =>
    obtain ⟨first, others⟩ := List.forall_mem_cons.mp all
    have behind : Words (items.flatMap OptionText.text ++ after) := by
      cases items with
      | nil => exact words
      | cons next items =>
        rw [List.flatMap_cons, List.append_assoc]
        exact (others next List.mem_cons_self).words _
    rw [List.flatMap_cons, List.append_assoc, Rule.many_match option_solid (first.reads _ r behind), ih others]
    rfl

theorem options_print {items : List OptionText} (all : ∀ o ∈ items, o.Reads) {after : Octets} (words : Words after)
    (stops : ∀ r, option.parse after r = (none, r)) (r : IpFilterRule) :
    ∃ rest, skip rest = skip after ∧ options.maybe.parse (32 :: (items.flatMap OptionText.text ++ after)) r =
      (some rest, items.foldl (fun r o => o.effect r) r) := by
  have blank (input : Octets) (r : IpFilterRule) : option.parse (32 :: input) r = option.parse input r := rfl
  cases items with
  | nil =>
    have none' : options.parse (32 :: after) r = (none, r) := Rule.andThen_fail ((blank after r).trans (stops r))
    exact ⟨32 :: after, rfl, Rule.maybe_fail none'⟩
  | cons o items =>
    obtain ⟨first, others⟩ := List.forall_mem_cons.mp all
    have behind : Words (items.flatMap OptionText.text ++ after) := by
      cases items with
      | nil => exact words
      | cons next items =>
        rw [List.flatMap_cons, List.append_assoc]
        exact (others next List.mem_cons_self).words _
    have head : option.parse (32 :: ((o :: items).flatMap OptionText.text ++ after)) r =
        (some (items.flatMap OptionText.text ++ after), o.effect r) := by
      rw [blank, List.flatMap_cons, List.append_assoc]
      exact first.reads _ r behind
    refine ⟨after, rfl, Rule.maybe_match ?_⟩
    unfold options Rule.many1
    rw [Rule.andThen_match head, options_many others words stops]
    rfl

theorem ipOption_print {n : Int} (low : 1 ≤ n.natAbs) (high : n.natAbs ≤ 4) (after : Octets) (r : IpFilterRule) :
    (ssrr <|> lsrr <|> rr <|> ipts).parse (printOption ["ssrr", "lsrr", "rr", "ts"] n ++ after) r =
      (some after, pushIpOption n r) := by
  obtain rfl | rfl | rfl | rfl | rfl | rfl | rfl | rfl :
    n = 1 ∨ n = 2 ∨ n = 3 ∨ n = 4 ∨ n = -1 ∨ n = -2 ∨ n = -3 ∨ n = -4 := by omega
  all_goals rfl

theorem tcpOption_print {n : Int} (low : 1 ≤ n.natAbs) (high : n.natAbs ≤ 5) (after : Octets) (r : IpFilterRule) :
    (mss <|> window <|> sack <|> tcpts <|> cc).parse (printOption ["mss", "window", "sack", "ts", "cc"] n ++ after) r =
      (some after, pushTcpOption n r) := by
  obtain rfl | rfl | rfl | rfl | rfl | rfl | rfl | rfl | rfl | rfl :
    n = 1 ∨ n = 2 ∨ n = 3 ∨ n = 4 ∨ n = 5 ∨ n = -1 ∨ n = -2 ∨ n = -3 ∨ n = -4 ∨ n = -5 := by omega
  all_goals rfl

theorem tcpFlag_print {n : Int} (low : 1 ≤ n.natAbs) (high : n.natAbs ≤ 6) (after : Octets) (r : IpFilterRule) :
    (fin <|> syn <|> rst <|> psh <|> ack <|> urg).parse
        (printOption ["fin", "syn", "rst", "psh", "ack", "urg"] n ++ after) r = (some after, pushTcpFlag n r) := by
  obtain rfl | rfl | rfl | rfl | rfl | rfl | rfl | rfl | rfl | rfl | rfl | rfl :
    n = 1 ∨ n = 2 ∨ n = 3 ∨ n = 4 ∨ n = 5 ∨ n = 6 ∨ n = -1 ∨ n = -2 ∨ n = -3 ∨ n = -4 ∨ n = -5 ∨ n = -6 := by omega
  all_goals rfl

section List

variable {p : Rule IpFilterRule} {push : Int → IpFilterRule → IpFilterRule} {names : List String} {limit : Nat}

theorem optionList_print (solid : p.Solid)
    (reads : ∀ n : Int, 1 ≤ n.natAbs → n.natAbs ≤ limit → ∀ after r,
      p.parse (printOption names n ++ after) r = (some after, push n r))
    {numbers : List Int} (inRange : ∀ n ∈ numbers, 1 ≤ n.natAbs ∧ n.natAbs ≤ limit) (some' : numbers ≠ []) {after : Octets}
    (words : Words after) (r : IpFilterRule) :
    (p % chP ',').parse (printList (printOption names) numbers ++ after) r =
      (some after, numbers.foldl (fun r n => push n r) r) :=
  @sepBy_printList _ _ _ _ _ _ (fun _ => True) (.andThen (solid_chP rfl (by decide)) solid.loose) _
    (fun n member after r _ => reads n (inRange n member).1 (inRange n member).2 after r) (fun _ _ => rfl)
    (fun _ => trivial) _ trivial (fun r => ch_other (words.ne rfl) r) some' r

end List

def fragText : OptionText := ⟨ascii " frag", fun r => { r with frag := true }⟩

def ipOptionsText (numbers : List Int) : OptionText where
  text := ascii " ipoptions" ++ printList (printOption ["ssrr", "lsrr", "rr", "ts"]) numbers
  effect r := { r with ipOptionList := r.ipOptionList ++ numbers }

def tcpOptionsText (numbers : List Int) : OptionText where
  text := ascii " tcpoptions " ++ printList (printOption ["mss", "window", "sack", "ts", "cc"]) numbers
  effect r := { r with tcpOptionList := r.tcpOptionList ++ numbers }

def establishedText : OptionText := ⟨ascii " established", fun r => { r with established := true }⟩

def setupText : OptionText := ⟨ascii " setup", fun r => { r with setup := true }⟩

def tcpFlagsText (numbers : List Int) : OptionText where
  text := ascii " tcpflags" ++ printList (printOption ["fin", "syn", "rst", "psh", "ack", "urg"]) numbers
  effect r := { r with tcpFlagList := r.tcpFlagList ++ numbers }

def optionTexts (r : IpFilterRule) : List OptionText :=
  (if r.frag then [fragText] else []) ++
    (if r.ipOptionList = [] then [] else [ipOptionsText r.ipOptionList]) ++
    (if r.tcpOptionList = [] then [] else [tcpOptionsText r.tcpOptionList]) ++
    (if r.established then [establishedText] else []) ++ (if r.setup then [setupText] else []) ++
    (if r.tcpFlagList = [] then [] else [tcpFlagsText r.tcpFlagList])

theorem words_of_letter {b : UInt8} (letter : isAlpha b = true) (solid : isBlank b = false) (rest : Octets) :
    Words (32 :: b :: rest) := by
  intro c head
  have skipped : skip (32 :: b :: rest) = b :: rest := skip_cons solid rest
  rw [skipped] at head
  cases head
  exact letter

theorem fragText_reads : fragText.Reads where
  words after := words_of_letter rfl rfl _
  reads after r _ := by
    have inside : (strP "frag" : Rule IpFilterRule).parse (ascii "frag" ++ after) r = (some after, r) := rfl
    have found : frag.parse (ascii " frag" ++ after) r = (some after, { r with frag := true }) := Rule.act_text rfl inside
    exact Rule.orElse_match found

theorem ipOptionsText_reads {numbers : List Int} (inRange : ∀ n ∈ numbers, 1 ≤ n.natAbs ∧ n.natAbs ≤ 4)
    (some' : numbers ≠ []) : (ipOptionsText numbers).Reads where
  words after := words_of_letter rfl rfl _
  reads after r words := by
    have items := optionList_print solid_ipoptions (fun n low high => ipOption_print low high) inRange some' words r
    have folded : numbers.foldl (fun r n => pushIpOption n r) r = (ipOptionsText numbers).effect r :=
      @foldl_append_one _ _ (fun numbers r => { r with ipOptionList := r.ipOptionList ++ numbers })
        (by simp) (by simp) numbers r
    have noFrag (input : Octets) : frag.parse (ascii " ipoptions" ++ input) r = (none, r) := rfl
    have keyword (input : Octets) : (strP "ipoptions" : Rule IpFilterRule).parse (ascii " ipoptions" ++ input) r =
        (some input, r) := rfl
    have found : ipoptions.parse (ascii " ipoptions" ++ (printList (printOption ["ssrr", "lsrr", "rr", "ts"]) numbers ++ after)) r =
        (some after, (ipOptionsText numbers).effect r) := by
      unfold ipoptions
      rw [Rule.andThen_match (keyword _), items, folded]
    have text : (ipOptionsText numbers).text ++ after =
        ascii " ipoptions" ++ (printList (printOption ["ssrr", "lsrr", "rr", "ts"]) numbers ++ after) := List.append_assoc _ _ _
    unfold option
    rw [text, Rule.orElse_fail (noFrag _), Rule.orElse_match found]

theorem tcpOptionsText_reads {numbers : List Int} (inRange : ∀ n ∈ numbers, 1 ≤ n.natAbs ∧ n.natAbs ≤ 5)
    (some' : numbers ≠ []) : (tcpOptionsText numbers).Reads where
  words after := words_of_letter rfl rfl _
  reads after r words := by
    have items := optionList_print solid_tcpoptions (fun n low high => tcpOption_print low high) inRange some' words r
    have folded : numbers.foldl (fun r n => pushTcpOption n r) r = (tcpOptionsText numbers).effect r :=
      @foldl_append_one _ _ (fun numbers r => { r with tcpOptionList := r.tcpOptionList ++ numbers })
        (by simp) (by simp) numbers r
    have noFrag (input : Octets) : frag.parse (ascii " tcpoptions " ++ input) r = (none, r) := rfl
    have noIp (input : Octets) : ipoptions.parse (ascii " tcpoptions " ++ input) r = (none, r) := rfl
    -- here a blank stands between the keyword and the list
    have keyword (input : Octets) : (strP "tcpoptions" : Rule IpFilterRule).parse (ascii " tcpoptions " ++ input) r =
        (some (32 :: input), r) := rfl
    have blank (input : Octets) : ((mss <|> window <|> sack <|> tcpts <|> cc) % chP ',').parse (32 :: input) r =
        ((mss <|> window <|> sack <|> tcpts <|> cc) % chP ',').parse input r := rfl
    have found : tcpoptions.parse
        (ascii " tcpoptions " ++ (printList (printOption ["mss", "window", "sack", "ts", "cc"]) numbers ++ after)) r =
        (some after, (tcpOptionsText numbers).effect r) := by
      unfold tcpoptions
      rw [Rule.andThen_match (keyword _), blank, items, folded]
    have text : (tcpOptionsText numbers).text ++ after =
        ascii " tcpoptions " ++ (printList (printOption ["mss", "window", "sack", "ts", "cc"]) numbers ++ after) :=
      List.append_assoc _ _ _
    unfold option
    rw [text, Rule.orElse_fail (noFrag _), Rule.orElse_fail (noIp _), Rule.orElse_match found]

theorem establishedText_reads : establishedText.Reads where
  words after := words_of_letter rfl rfl _
  reads after r _ := by
    have inside : (strP "established" : Rule IpFilterRule).parse (ascii "established" ++ after) r = (some after, r) := rfl
    have found : established.parse (ascii " established" ++ after) r = (some after, { r with established := true }) :=
      Rule.act_text rfl inside
    have noFrag : frag.parse (ascii " established" ++ after) r = (none, r) := rfl
    have noIp : ipoptions.parse (ascii " established" ++ after) r = (none, r) := rfl
    have noTcp : tcpoptions.parse (ascii " established" ++ after) r = (none, r) := rfl
    exact (Rule.orElse_fail noFrag).trans ((Rule.orElse_fail noIp).trans ((Rule.orElse_fail noTcp).trans
      (Rule.orElse_match found)))

theorem setupText_reads : setupText.Reads where
  words after := words_of_letter rfl rfl _
  reads after r _ := by
    have inside : (strP "setup" : Rule IpFilterRule).parse (ascii "setup" ++ after) r = (some after, r) := rfl
    have found : setup.parse (ascii " setup" ++ after) r = (some after, { r with setup := true }) := Rule.act_text rfl inside
    have noFrag : frag.parse (ascii " setup" ++ after) r = (none, r) := rfl
    have noIp : ipoptions.parse (ascii " setup" ++ after) r = (none, r) := rfl
    have noTcp : tcpoptions.parse (ascii " setup" ++ after) r = (none, r) := rfl
    have noEstablished : established.parse (ascii " setup" ++ after) r = (none, r) := rfl
    exact (Rule.orElse_fail noFrag).trans ((Rule.orElse_fail noIp).trans ((Rule.orElse_fail noTcp).trans
      ((Rule.orElse_fail noEstablished).trans (Rule.orElse_match found))))

theorem tcpFlagsText_reads {numbers : List Int} (inRange : ∀ n ∈ numbers, 1 ≤ n.natAbs ∧ n.natAbs ≤ 6)
    (some' : numbers ≠ []) : (tcpFlagsText numbers).Reads where
  words after := words_of_letter rfl rfl _
  reads after r words := by
    have items := optionList_print solid_tcpflags (fun n low high => tcpFlag_print low high) inRange some' words r
    have folded : numbers.foldl (fun r n => pushTcpFlag n r) r = (tcpFlagsText numbers).effect r :=
      @foldl_append_one _ _ (fun numbers r => { r with tcpFlagList := r.tcpFlagList ++ numbers })
        (by simp) (by simp) numbers r
    have noFrag (input : Octets) : frag.parse (ascii " tcpflags" ++ input) r = (none, r) := rfl
    have noIp (input : Octets) : ipoptions.parse (ascii " tcpflags" ++ input) r = (none, r) := rfl
    have noTcp (input : Octets) : tcpoptions.parse (ascii " tcpflags" ++ input) r = (none, r) := rfl
    have noEstablished (input : Octets) : established.parse (ascii " tcpflags" ++ input) r = (none, r) := rfl
    have noSetup (input : Octets) : setup.parse (ascii " tcpflags" ++ input) r = (none, r) := rfl
    have keyword (input : Octets) : (strP "tcpflags" : Rule IpFilterRule).parse (ascii " tcpflags" ++ input) r =
        (some input, r) := rfl
    have found : tcpflags.parse
        (ascii " tcpflags" ++ (printList (printOption ["fin", "syn", "rst", "psh", "ack", "urg"]) numbers ++ after)) r =
        (some after, (tcpFlagsText numbers).effect r) := by
      unfold tcpflags
      rw [Rule.andThen_match (keyword _), items, folded]
    have text : (tcpFlagsText numbers).text ++ after =
        ascii " tcpflags" ++ (printList (printOption ["fin", "syn", "rst", "psh", "ack", "urg"]) numbers ++ after) :=
      List.append_assoc _ _ _
    unfold option
    rw [text, Rule.orElse_fail (noFrag _), Rule.orElse_fail (noIp _), Rule.orElse_fail (noTcp _),
      Rule.orElse_fail (noEstablished _), Rule.orElse_fail (noSetup _), Rule.orElse_match found]

structure OptionsDocumented (r : IpFilterRule) : Prop where
  ip : ∀ n ∈ r.ipOptionList, 1 ≤ n.natAbs ∧ n.natAbs ≤ 4
  tcp : ∀ n ∈ r.tcpOptionList, 1 ≤ n.natAbs ∧ n.natAbs ≤ 5
  flags : ∀ n ∈ r.tcpFlagList, 1 ≤ n.natAbs ∧ n.natAbs ≤ 6

theorem optionTexts_reads {r : IpFilterRule} (documented : OptionsDocumented r) : ∀ o ∈ optionTexts r, o.Reads := by
  intro o member
  simp only [optionTexts, List.mem_append] at member
  obtain ((((member | member) | member) | member) | member) | member := member
  · split at member
    · rw [List.mem_singleton.mp member]
      exact fragText_reads
    · cases member
  · split at member
    case isTrue => cases member
    case isFalse some' =>
      rw [List.mem_singleton.mp member]
      exact ipOptionsText_reads documented.ip some'
  · split at member
    case isTrue => cases member
    case isFalse some' =>
      rw [List.mem_singleton.mp member]
      exact tcpOptionsText_reads documented.tcp some'
  · split at member
    · rw [List.mem_singleton.mp member]
      exact establishedText_reads
    · cases member
  · split at member
    · rw [List.mem_singleton.mp member]
      exact setupText_reads
    · cases member
  · split at member
    case isTrue => cases member
    case isFalse some' =>
      rw [List.mem_singleton.mp member]
      exact tcpFlagsText_reads documented.flags some'

theorem optionTexts_effect (r s : IpFilterRule) (frag : s.frag = false) (established : s.established = false)
    (setup : s.setup = false) :
    (optionTexts r).foldl (fun s o => o.effect s) s =
      { s with
        frag := r.frag, ipOptionList := s.ipOptionList ++ r.ipOptionList, established := r.established, setup := r.setup
        tcpOptionList := s.tcpOptionList ++ r.tcpOptionList, tcpFlagList := s.tcpFlagList ++ r.tcpFlagList } := by
  have one (c : Prop) [Decidable c] (o : OptionText) (s : IpFilterRule) :
      (if c then [o] else []).foldl (fun s o => o.effect s) s = if c then o.effect s else s := by split <;> rfl
  have list (numbers : List Int) (o : OptionText) (s : IpFilterRule) (nothing : numbers = [] → o.effect s = s) :
      (if numbers = [] then [] else [o]).foldl (fun s o => o.effect s) s = o.effect s := by
    split
    case isTrue empty => exact (nothing empty).symm
    case isFalse => rfl
  have ip (s : IpFilterRule) := list r.ipOptionList (ipOptionsText r.ipOptionList) s (fun empty => by simp [ipOptionsText, empty])
  have tcp (s : IpFilterRule) := list r.tcpOptionList (tcpOptionsText r.tcpOptionList) s (fun empty => by simp [tcpOptionsText, empty])
  have flags (s : IpFilterRule) := list r.tcpFlagList (tcpFlagsText r.tcpFlagList) s (fun empty => by simp [tcpFlagsText, empty])
  unfold optionTexts
  simp only [List.foldl_append, one, ip, tcp, flags]
  cases r.frag <;> cases r.established <;> cases r.setup <;>
    simp [fragText, establishedText, setupText, ipOptionsText, tcpOptionsText, tcpFlagsText, frag, established, setup]

theorem optionTexts_text (r : IpFilterRule) :
    (optionTexts r).flatMap OptionText.text =
      (if r.frag then ascii " frag" else []) ++ ((if r.ipOptionList = [] then [] else ascii " ipoptions") ++
        (printList (printOption ["ssrr", "lsrr", "rr", "ts"]) r.ipOptionList ++
        ((if r.tcpOptionList = [] then [] else ascii " tcpoptions ") ++
        (printList (printOption ["mss", "window", "sack", "ts", "cc"]) r.tcpOptionList ++
        ((if r.established then ascii " established" else []) ++ ((if r.setup then ascii " setup" else []) ++
        ((if r.tcpFlagList = [] then [] else ascii " tcpflags") ++
          printList (printOption ["fin", "syn", "rst", "psh", "ack", "urg"]) r.tcpFlagList))))))) := by
  have one (c : Prop) [Decidable c] (o : OptionText) : (if c then [o] else []).flatMap OptionText.text =
      if c then o.text else [] := by split <;> simp
  have list (numbers : List Int) (names : List String) (keyword : Octets) (o : OptionText)
      (text : o.text = keyword ++ printList (printOption names) numbers) :
      (if numbers = [] then [] else [o]).flatMap OptionText.text =
        (if numbers = [] then [] else keyword) ++ printList (printOption names) numbers := by
    cases numbers with
    | nil => rfl
    | cons n numbers => simpa using text
  unfold optionTexts
  simp only [List.flatMap_append, one, list r.ipOptionList _ _ (ipOptionsText r.ipOptionList) rfl,
    list r.tcpOptionList _ _ (tcpOptionsText r.tcpOptionList) rfl, list r.tcpFlagList _ _ (tcpFlagsText r.tcpFlagList) rfl,
    List.append_assoc]
  rfl

end Options

section Rule

def actionText : IpFilterAction → Octets
  | .permit => ascii "permit "
  | .deny => ascii "deny "

def dirText : IpFilterDirection → Octets
  | .into => ascii "in "
  | .out => ascii "out "

def protoText (proto : UInt8) : Octets := if proto = 0 then ascii "ip " else decimal proto.toNat ++ ascii " "

def icmpText (ranges : List (Int8 × Int8)) : Octets :=
  (if ranges = [] then [] else ascii " icmptypes") ++
    printList (fun range => printRange range.1.toInt.toNat range.2.toInt.toNat) ranges

def ruleText (r : IpFilterRule) : Octets :=
  actionText r.action ++ (dirText r.dir ++ (protoText r.proto ++ (ascii "from " ++ (r.src.print ++ (ascii "to " ++
    (r.dst.print ++ ((optionTexts r).flatMap OptionText.text ++ icmpText r.icmpTypeRangeList)))))))

/-- The printer overruns no buffer for a protocol of two digits and types that are not negative. -/
theorem print_rule (r : IpFilterRule) :
    r.print = if 100 ≤ r.proto.toNat ∨ ∃ range ∈ r.icmpTypeRangeList, range.1 < 0 ∨ range.2 < 0 then .fault
      else .returned (ruleText r) := by
  unfold IpFilterRule.print ruleText
  rw [optionTexts_text]
  refine if_congr Iff.rfl rfl (congrArg _ ?_)
  unfold actionText dirText protoText icmpText
  simp only [List.append_assoc] <;> rfl

theorem action_print (r s : IpFilterRule) (tail : Octets) :
    action.parse (actionText r.action ++ tail) s = (some (32 :: tail), { s with action := r.action }) := by
  cases r.action with
  | permit =>
    have inside : (strP "permit" <|> strP "deny").parse (ascii "permit" ++ 32 :: tail) s = (some (32 :: tail), s) := rfl
    exact Rule.act_text rfl inside
  | deny =>
    have inside : (strP "permit" <|> strP "deny").parse (ascii "deny" ++ 32 :: tail) s = (some (32 :: tail), s) := rfl
    exact Rule.act_text rfl inside

theorem dir_print (r s : IpFilterRule) (tail : Octets) :
    dir.parse (32 :: (dirText r.dir ++ tail)) s = (some (32 :: tail), { s with dir := r.dir }) := by
  cases r.dir with
  | into =>
    have inside : (strP "in" <|> strP "out").parse (ascii "in" ++ 32 :: tail) s = (some (32 :: tail), s) := rfl
    exact Rule.act_text rfl inside
  | out =>
    have inside : (strP "in" <|> strP "out").parse (ascii "out" ++ 32 :: tail) s = (some (32 :: tail), s) := rfl
    exact Rule.act_text rfl inside

theorem proto_print (r s : IpFilterRule) (default : s.proto = 0) (tail : Octets) :
    proto.parse (32 :: (protoText r.proto ++ tail)) s = (some (32 :: tail), { s with proto := r.proto }) := by
  unfold protoText
  by_cases zero : r.proto = 0
  · rw [if_pos zero, zero, ← default]
    rfl
  · have stop : NoDigit (ascii " " ++ tail) := by
      rintro c ⟨⟩
      rfl
    have noKeyword : (strP "ip" : Rule IpFilterRule).parse (32 :: (decimal r.proto.toNat ++ (ascii " " ++ tail))) s = (none, s) := by
      cases text : decimal r.proto.toNat with
      | nil => exact absurd text (decimal_ne_nil _)
      | cons b rest =>
        have digit := decimal_digits r.proto.toNat b (by rw [text]; exact List.mem_cons_self)
        have solid : skip (32 :: (b :: rest ++ (ascii " " ++ tail))) = b :: (rest ++ (ascii " " ++ tail)) :=
          skip_cons (isDigit_solid digit).1 _
        refine Rule.str_mismatch solid ?_
        rintro rfl
        cases digit
    have blank (input : Octets) : (uint3P 255 fun value (r : IpFilterRule) => { r with proto := UInt8.ofNat value }).parse
        (32 :: input) s = (uint3P 255 fun value (r : IpFilterRule) => { r with proto := UInt8.ofNat value }).parse input s := rfl
    have small : r.proto.toNat ≤ 255 := Nat.le_of_lt_succ r.proto.toNat_lt
    rw [if_neg zero, List.append_assoc, proto, Rule.orElse_fail noKeyword, blank, uint3P_decimal small (by decide) stop]
    simp
    rfl

theorem icmpText_words (ranges : List (Int8 × Int8)) : Words (icmpText ranges) := by
  unfold icmpText
  by_cases none' : ranges = []
  · subst none'
    rintro c ⟨⟩
  · rw [if_neg none']
    exact words_of_letter rfl rfl _

theorem icmpText_stops (ranges : List (Int8 × Int8)) (s : IpFilterRule) : option.parse (icmpText ranges) s = (none, s) := by
  unfold icmpText
  by_cases none' : ranges = []
  · subst none'
    rfl
  · rw [if_neg none']
    have digits (input : Octets) : icmptypes.parse (ascii " icmptypes" ++ input) s = (none, s) := by
      have words : Words (ascii " icmptypes" ++ input) := words_of_letter rfl rfl _
      exact Rule.andThen_fail (Rule.andThen_fail (uintP_words words _ s))
    have noFrag (input : Octets) : frag.parse (ascii " icmptypes" ++ input) s = (none, s) := rfl
    have noIp (input : Octets) : ipoptions.parse (ascii " icmptypes" ++ input) s = (none, s) := rfl
    have noTcp (input : Octets) : tcpoptions.parse (ascii " icmptypes" ++ input) s = (none, s) := rfl
    have noEstablished (input : Octets) : established.parse (ascii " icmptypes" ++ input) s = (none, s) := rfl
    have noSetup (input : Octets) : setup.parse (ascii " icmptypes" ++ input) s = (none, s) := rfl
    have noFlags (input : Octets) : tcpflags.parse (ascii " icmptypes" ++ input) s = (none, s) := rfl
    exact (Rule.orElse_fail (noFrag _)).trans ((Rule.orElse_fail (noIp _)).trans ((Rule.orElse_fail (noTcp _)).trans
      ((Rule.orElse_fail (noEstablished _)).trans ((Rule.orElse_fail (noSetup _)).trans
        ((Rule.orElse_fail (noFlags _)).trans (digits _))))))

theorem optionTexts_words {r : IpFilterRule} (documented : OptionsDocumented r) :
    Words ((optionTexts r).flatMap OptionText.text ++ icmpText r.icmpTypeRangeList) := by
  have reads := optionTexts_reads documented
  cases items : optionTexts r with
  | nil => exact icmpText_words _
  | cons o rest =>
    rw [List.flatMap_cons, List.append_assoc]
    exact (reads o (by rw [items]; exact List.mem_cons_self)).words _

end Rule

end IpFilterRuleGrammar

section RoundTrip

open IpFilterRuleGrammar

def IpFilterSrcDst.used (side : IpFilterSrcDst) : IpFilterSrcDst :=
  match side.representation with
  | .exact => { side with bits := 0 }
  | .mask => side
  | .any | .assigned => { side with ipno := [], bits := 0 }

def IpFilterRule.used (r : IpFilterRule) : IpFilterRule := { r with src := r.src.used, dst := r.dst.used }

structure IpFilterRule.Documented (r : IpFilterRule) : Prop where
  src : IpFilterRuleGrammar.Documented r.src
  dst : IpFilterRuleGrammar.Documented r.dst
  options : OptionsDocumented r

theorem readInto_new (side : IpFilterSrcDst) : readInto side IpFilterRuleGrammar.side = side.used := by
  obtain ⟨modifier, representation, ipno, bits, ports⟩ := side
  cases representation <;> simp [readInto, IpFilterRuleGrammar.side, IpFilterSrcDst.used]

theorem used_used (r : IpFilterRule) : r.used.used = r.used := by
  have side (s : IpFilterSrcDst) : s.used.used = s.used := by
    obtain ⟨modifier, representation, ipno, bits, ports⟩ := s
    cases representation <;> rfl
  simp [IpFilterRule.used, side]

theorem ipFilterRule_ruleText {r : IpFilterRule} (documented : r.Documented) :
    spirit.ipFilterRule (ruleText r) = if r.icmpTypeRangeList = [] then some r.used else none := by
  have words := optionTexts_words documented.options
  have toDst (tail : Octets) : Words (ascii "to " ++ tail) := by
    rintro c ⟨⟩
    rfl
  have keywordFrom (tail : Octets) (s : IpFilterRule) :
      (strP "from" : Rule IpFilterRule).parse (32 :: (ascii "from " ++ tail)) s = (some (32 :: tail), s) := rfl
  have keywordTo (tail : Octets) (s : IpFilterRule) :
      (strP "to" : Rule IpFilterRule).parse (32 :: (ascii "to " ++ tail)) s = (some (32 :: tail), s) := rfl
  let headed : IpFilterRule := { defaults with
    action := r.action, dir := r.dir, proto := r.proto, src := r.src.used, dst := r.dst.used }
  obtain ⟨rest, same, read⟩ := options_print (optionTexts_reads documented.options)
    (icmpText_words r.icmpTypeRangeList) (icmpText_stops r.icmpTypeRangeList) headed
  have parsed : ipfilterRule.parse (ruleText r) defaults =
      (some rest, (optionTexts r).foldl (fun s o => o.effect s) headed) := by
    unfold ipfilterRule ruleText src dst
    rw [Rule.andThen_match (action_print r _ _), Rule.andThen_match (dir_print r _ _),
      Rule.andThen_match (proto_print r _ rfl _), Rule.andThen_match (keywordFrom _ _),
      Rule.andThen_match (srcDst_print onSrc_lawful documented.src (toDst _) _), Rule.andThen_match (keywordTo _ _),
      Rule.andThen_match (srcDst_print onDst_lawful documented.dst words _)]
    have state : onDst (readInto r.dst) (onSrc (readInto r.src)
        { defaults with action := r.action, dir := r.dir, proto := r.proto }) = headed := by
      simp [onDst, onSrc, headed, ← readInto_new, defaults]
    rw [← read]
    exact congrArg (fun s => options.maybe.parse _ s) state
  rw [optionTexts_effect r headed rfl rfl rfl] at parsed
  unfold spirit Rule.full
  dsimp only
  rw [parsed]
  dsimp only
  rw [same]
  by_cases none' : r.icmpTypeRangeList = []
  · have ending : skip (icmpText r.icmpTypeRangeList) = [] := by rw [none']; rfl
    rw [if_pos ending, if_pos none']
    simp [headed, defaults, IpFilterRule.used, none']
  · have more : skip (icmpText r.icmpTypeRangeList) ≠ [] := by
      rw [icmpText, if_neg none']
      rintro ⟨⟩
    rw [if_neg more, if_neg none']

theorem ipno_solid : (ipno : Rule IpFilterRule).Solid := by
  have octet : (octet : Rule IpFilterRule).Solid := solid_uint3P _ _
  have dot : (chP '.' : Rule IpFilterRule).Solid := solid_chP rfl (by decide)
  have group : (hex4P <|> strP "::" : Rule IpFilterRule).Solid :=
    .orElse (.token fun _ _ _ => numeral_taken) (solid_strP rfl rfl)
  have third : (chP '.' >> IpFilterRuleGrammar.octet : Rule IpFilterRule).Solid := .andThen dot octet.loose
  have second := Rule.Solid.andThen dot (Rule.Solid.andThen octet third.loose).loose
  have first := Rule.Solid.andThen dot (Rule.Solid.andThen octet second.loose).loose
  exact .orElse (.andThen octet first.loose) (.andThen group (.many group))

theorem srcDst_solid (on : OnSide) : (srcDst on).Solid := by
  have word : (keyword on).Solid := .act (.orElse (solid_strP rfl rfl) (solid_strP rfl rfl))
  have mask : (maskBits on).Solid := .andThen (.act (solid_chP rfl (by decide))) (solid_uint3P _ _).loose
  have party : (keyword on <|> (address on >> (maskBits on).maybe)).Solid :=
    .orElse word (.andThen (.act ipno_solid) (.maybe mask))
  exact .after (.maybe (.act (solid_chP rfl (by decide))))
    (.andThen party (.maybe (.sepBy portRange_solid (solid_chP rfl (by decide)))))

theorem ipfilterRule_solid : ipfilterRule.Solid := by
  have action : action.Solid := .act (.orElse (solid_strP rfl rfl) (solid_strP rfl rfl))
  have dir : dir.Solid := .act (.orElse (solid_strP rfl rfl) (solid_strP rfl rfl))
  have proto : proto.Solid := .orElse (solid_strP rfl rfl) (solid_uint3P _ _)
  have options : options.Solid := .andThen option_solid (.many option_solid)
  have fromSrc : (strP "from" : Rule IpFilterRule).Solid := solid_strP rfl rfl
  have toDst : (strP "to" : Rule IpFilterRule).Solid := solid_strP rfl rfl
  have behindDst := Rule.Solid.andThen (srcDst_solid onDst) (.maybe options)
  have behindSrc := Rule.Solid.andThen (srcDst_solid onSrc) (Rule.Solid.andThen toDst behindDst.loose).loose
  exact .andThen action (Rule.Solid.andThen dir (Rule.Solid.andThen proto
    (Rule.Solid.andThen fromSrc behindSrc.loose).loose).loose).loose

/-- `IPFilterRuleParser::parseAppToRaw`: the text is written if the grammar accepts it. -/
def writeIpFilterRule (groups : List DiameterGroupedAvp) (avp : DictionaryEntry) (r : IpFilterRule) : Parse Octets := do
  let text ← r.print
  match spirit.ipFilterRule text with
  | some _ => writeUtf8 text
  | none => raiseWith groups (.normal .invalidAvpValue) avp

def RuleRoundTrips (groups : List DiameterGroupedAvp) (avp : DictionaryEntry) (r : IpFilterRule) : Prop :=
  ∃ text received, writeIpFilterRule groups avp r = .returned text ∧
    parseAvpValue ⟨groups, spirit⟩ avp (payloadBlock text 0) = .returned (.ipFilterRule received) ∧ received.used = r.used

/-- A documented rule is read back exactly when its protocol is below 100 and it has no
ICMP types. -/
theorem ipFilterRule_roundTrips_iff (groups : List DiameterGroupedAvp) {avp : DictionaryEntry}
    (typed : avp.avpType = .ipFilterRule) {r : IpFilterRule} (documented : r.Documented) :
    RuleRoundTrips groups avp r ↔ r.proto.toNat < 100 ∧ r.icmpTypeRangeList = [] := by
  have read := ipFilterRule_ruleText documented
  constructor
  · rintro ⟨text, received, written, -, -⟩
    unfold writeIpFilterRule at written
    rw [print_rule] at written
    split at written
    case isTrue => cases written
    case isFalse fits =>
      rw [Outcome.returned_bind, read] at written
      refine ⟨by omega, ?_⟩
      by_contra more
      rw [if_neg more] at written
      exact absurd written raiseWith_ne_returned
  · rintro ⟨small, none'⟩
    rw [if_pos none'] at read
    have plain : IsAscii (ruleText r) := ipfilterRule_solid.full_lt read
    refine ⟨ruleText r, r.used, ?_, ?_, used_used r⟩
    · unfold writeIpFilterRule
      rw [print_rule, if_neg (by simp [none', small]), Outcome.returned_bind, read]
      exact writeUtf8_ascii plain
    · rw [parseAvpValue, parseValue, typed]
      dsimp only
      rw [readUtf8_ascii _ _ plain, Outcome.returned_bind, read]
      rfl

def filterRuleEntry : DictionaryEntry := ⟨"NAS-Filter-Rule", 400, .ipFilterRule, 0, flagMandatory, mandatory_unvendored, by decide⟩

def anySide : IpFilterSrcDst where
  modifier := true
  representation := .any
  ipno := []
  bits := 0
  portRangeList := [(80, 90)]

def plainRule (proto : UInt8) (icmpTypeRangeList : List (Int8 × Int8)) : IpFilterRule :=
  { defaults with proto := proto, src := anySide, dst := anySide, ipOptionList := [1, -2], icmpTypeRangeList := icmpTypeRangeList }

theorem plainRule_documented (proto : UInt8) (types : List (Int8 × Int8)) : (plainRule proto types).Documented where
  src := trivial
  dst := trivial
  options := ⟨by simp [plainRule], by simp [plainRule, defaults], by simp [plainRule, defaults]⟩

theorem ipFilterRule_roundTrips_iff_plain :
    RuleRoundTrips [] filterRuleEntry (plainRule 17 []) ↔
      (plainRule 17 []).proto.toNat < 100 ∧ (plainRule 17 []).icmpTypeRangeList = [] :=
  ipFilterRule_roundTrips_iff [] rfl (plainRule_documented 17 [])

/-- A protocol of three digits overruns its buffer, as does a type from 128 on; a smaller type
is printed behind a keyword that the grammar does not know. -/
theorem proto_and_icmp_lost :
    (plainRule 132 []).print = .fault ∧ (plainRule 1 [(-128, -128)]).print = .fault ∧
      (plainRule 1 [(8, 8)]).print = .returned
        (ascii "permit in 1 from any 80-90 to any 80-90  ipoptionsssrr,!lsrr icmptypes8") ∧
      writeIpFilterRule [] filterRuleEntry (plainRule 1 [(8, 8)]) = raiseWith [] (.normal .invalidAvpValue) filterRuleEntry ∧
      ¬ RuleRoundTrips [] filterRuleEntry (plainRule 132 []) ∧ ¬ RuleRoundTrips [] filterRuleEntry (plainRule 1 [(8, 8)]) := by
  refine ⟨by decide +kernel, by decide +kernel, by decide +kernel, by decide +kernel, fun same => ?_, fun same => ?_⟩
  · have small := ((ipFilterRule_roundTrips_iff [] rfl (plainRule_documented 132 [])).mp same).1
    revert small
    decide
  · have none' := ((ipFilterRule_roundTrips_iff [] rfl (plainRule_documented 1 [(8, 8)])).mp same).2
    cases none'

end RoundTrip

end OpenDiameter.Parser
