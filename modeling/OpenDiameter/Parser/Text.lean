import OpenDiameter.Parser.Grammars
import OpenDiameter.Parser.Taking
import OpenDiameter.Parser.Utf8

/-! The ASCII texts and the decimal numbers that the printers of values write. -/

set_option autoImplicit false

namespace OpenDiameter.Parser

open Foundation

section Text

/-- `Utf8stringParser::parseAppToRaw`, up to the octets it writes. -/
def writeUtf8 (text : Octets) : Parse Octets :=
  if utf8Check text = 0 then .returned text else raise (.bug .invalidContainerContents)

def IsAscii (text : Octets) : Prop := ∀ b ∈ text, b < 128

theorem IsAscii.append {first second : Octets} (left : IsAscii first) (right : IsAscii second) :
    IsAscii (first ++ second) := by
  intro b member
  rcases List.mem_append.mp member with early | late
  · exact left b early
  · exact right b late

theorem utf8Check_ascii {text : Octets} (ascii : IsAscii text) : utf8Check text = 0 := by
  have well : Utf8.WellFormed text := by
    refine ⟨text.map fun b => [b], ?_, by rw [← List.flatMap_def, List.flatMap_singleton']⟩
    intro octets member
    obtain ⟨b, inText, rfl⟩ := List.mem_map.mp member
    exact .one (ascii b inText)
  rcases Utf8.utf8Check_spec text with ⟨accepts, -⟩ | ⟨-, bad⟩
  · exact accepts
  · exact absurd well bad

theorem writeUtf8_ascii {text : Octets} (ascii : IsAscii text) : writeUtf8 text = .returned text := by
  rw [writeUtf8, if_pos (utf8Check_ascii ascii)]

theorem readUtf8_ascii (env : ParserEnv) (avp : DictionaryEntry) {text : Octets} (ascii : IsAscii text) :
    readUtf8 env avp (payloadBlock text 0) = .returned text := by
  have whole : readString (payloadBlock text 0) = .returned text := by
    simp [readString, readOctets, payloadBlock]
  rw [readUtf8, whole, Outcome.returned_bind, if_pos (utf8Check_ascii ascii)]

theorem decimal_eq (n : Nat) : decimal n = (Nat.toDigits 10 n).map fun c => UInt8.ofNat c.toNat := by
  rw [decimal, ascii, Nat.toString_eq_ofList_toDigits, String.toList_ofList]

theorem decimal_ne_nil (n : Nat) : decimal n ≠ [] := by
  rw [decimal_eq]
  simp

theorem digit_octet {c : Char} (digit : c.isDigit = true) : (UInt8.ofNat c.toNat).toNat = c.toNat := by
  have small : c.toNat ≤ 57 := by
    have bounds := Char.isDigit_iff_toNat.mp digit
    exact bounds.2
  simp
  omega

theorem decimal_digits (n : Nat) : ∀ b ∈ decimal n, isDigit b = true := by
  intro b member
  rw [decimal_eq] at member
  obtain ⟨c, inDigits, rfl⟩ := List.mem_map.mp member
  have digit := Nat.isDigit_of_mem_toDigits (by decide) (by decide) inDigits
  have bounds := Char.isDigit_iff_toNat.mp digit
  have octet := digit_octet digit
  simp only [isDigit, Bool.and_eq_true, decide_eq_true_eq, UInt8.le_iff_toNat_le, octet]
  exact bounds

theorem digitsValue_decimal (n : Nat) : digitsValue (decimal n) = n := by
  have same : ∀ (cs : List Char), (∀ c ∈ cs, c.isDigit = true) → ∀ start : Nat,
      (cs.map fun c => UInt8.ofNat c.toNat).foldl (fun n b => 10 * n + (b.toNat - 48)) start =
        Nat.ofDigitChars 10 cs start := by
    intro cs
    induction cs with
    | nil => exact fun _ _ => rfl
    | cons c cs ih =>
      intro digits start
      rw [List.map_cons, List.foldl_cons, digit_octet (digits c List.mem_cons_self), Nat.ofDigitChars_cons]
      exact ih (fun c member => digits c (List.mem_cons_of_mem _ member)) _
  rw [digitsValue, decimal_eq, same _ (fun c member => Nat.isDigit_of_mem_toDigits (by decide) (by decide) member)]
  exact Nat.ofDigitChars_ten_toDigits

theorem decimal_length_le {n k : Nat} (positive : 0 < k) (small : n < 10 ^ k) : (decimal n).length ≤ k := by
  rw [decimal_eq, List.length_map]
  exact (Nat.length_toDigits_le_iff (by decide) positive).mpr small

theorem isAscii_of_all {text : Octets} (all : text.all (· < 128) = true) : IsAscii text := fun b member =>
  of_decide_eq_true (List.all_eq_true.mp all b member)

theorem isAscii_of_digits {text : Octets} (digits : ∀ b ∈ text, isDigit b = true) : IsAscii text := by
  intro b member
  have digit := digits b member
  simp only [isDigit, Bool.and_eq_true, decide_eq_true_eq] at digit
  exact Nat.lt_of_le_of_lt digit.2 (by decide)

end Text

section Tokens

variable {σ : Type}

theorem solid_chP {c : Char} (blank : isBlank (UInt8.ofNat c.toNat) = false) (small : UInt8.ofNat c.toNat < 128) :
    (chP c : Rule σ).Solid := by
  apply Rule.Solid.one
  intro b same
  rw [beq_iff_eq] at same
  exact same ▸ ⟨blank, small⟩

theorem solid_strP {text : String} (solid : (ascii text).getLast?.any (fun b => !isBlank b) = true)
    (plain : (ascii text).all (fun b => b < 128) = true) : (strP text : Rule σ).Solid := by
  unfold strP
  rcases List.eq_nil_or_concat' (ascii text) with nothing | ⟨before, last, parts⟩
  · rw [nothing] at solid
    cases solid
  · rw [parts, List.getLast?_concat] at solid
    rw [parts, List.all_eq_true] at plain
    rw [parts]
    exact .str (by simpa using solid) fun b member => by simpa using plain b member

theorem solid_uintP (action : Nat → σ → σ) : (uintP action).Solid := .token fun _ _ _ => numeral_taken

theorem solid_uint3P (max : Nat) (action : Nat → σ → σ) : (uint3P max action).Solid := .token fun _ _ _ => numeral_taken

end Tokens

end OpenDiameter.Parser
