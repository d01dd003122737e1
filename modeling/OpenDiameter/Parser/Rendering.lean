import OpenDiameter.Parser.Boundary
import OpenDiameter.Parser.Encode
import OpenDiameter.Parser.Locality

/-! Reading what the encoder lays out: AVPs in a row, and the rules that take them. -/

set_option autoImplicit false

namespace OpenDiameter.Parser

open Foundation

section Header

variable {avp : DictionaryEntry} {length : Nat}

theorem flagOctet_bits (v m p : Bool) :
    decide (flagOctet v m p &&& 0x80 ≠ 0) = v ∧ decide (flagOctet v m p &&& 0x40 ≠ 0) = m ∧
      decide (flagOctet v m p &&& 0x20 ≠ 0) = p := by
  revert v m p
  decide

theorem sentHeader_octets (avp : DictionaryEntry) (length : Nat) :
    (sentHeader avp length).octets =
      bigEndian 4 avp.avpCode.toNat ++ flagOctet avp.vendorSpecific (sentHeader avp length).m (sentHeader avp length).p ::
        bigEndian 3 length ++ if avp.vendorSpecific then bigEndian 4 avp.vendorId.toNat else [] := rfl

variable (before after : Octets)

theorem fixedAt_sent : fixedAt (before ++ (sentHeader avp length).octets ++ after) before.length =
    bigEndian 4 avp.avpCode.toNat ++ flagOctet avp.vendorSpecific (sentHeader avp length).m (sentHeader avp length).p ::
      bigEndian 3 length := by
  rw [fixedAt, List.append_assoc, List.drop_left, sentHeader_octets, List.append_assoc]
  exact List.take_left' (by simp)

theorem headerAt_sent (small : length < 2 ^ 24) :
    headerAt (before ++ (sentHeader avp length).octets ++ after) before.length =
      { sentHeader avp length with valueP := before.length } := by
  have fixed := @fixedAt_sent avp length before after
  obtain ⟨v, m, p⟩ := flagOctet_bits avp.vendorSpecific (sentHeader avp length).m (sentHeader avp length).p
  have bit : vendorBitAt (before ++ (sentHeader avp length).octets ++ after) before.length = avp.vendorSpecific := by
    rw [vendorBitAt, fixed]
    exact v
  have code : codeAt (before ++ (sentHeader avp length).octets ++ after) before.length = avp.avpCode := by
    rw [codeAt, fixed, List.take_left' (length_bigEndian 4 _),
      bigEndianValue_bigEndian_of_lt avp.avpCode.toNat_lt]
    exact UInt32.ofNat_toNat
  have size : lengthAt (before ++ (sentHeader avp length).octets ++ after) before.length = length := by
    rw [lengthAt, fixed]
    have dropped : (bigEndian 4 avp.avpCode.toNat ++ flagOctet avp.vendorSpecific (sentHeader avp length).m
        (sentHeader avp length).p :: bigEndian 3 length).drop 5 = bigEndian 3 length := rfl
    rw [dropped, bigEndianValue_bigEndian_of_lt small]
  have vendor : UInt32.ofNat (bigEndianValue
      (if vendorBitAt (before ++ (sentHeader avp length).octets ++ after) before.length then
        ((before ++ (sentHeader avp length).octets ++ after).drop (before.length + 8)).take 4 else [])) = avp.vendorId := by
    rw [bit]
    have flagged := avp.vendorFlag
    cases specific : avp.vendorSpecific with
    | false =>
      have none : avp.vendorId = 0 := by
        rw [DictionaryEntry.vendorSpecific, flagged] at specific
        exact Decidable.not_not.mp (of_decide_eq_false specific)
      rw [if_neg Bool.false_ne_true, none]
      rfl
    | true =>
      rw [if_pos rfl, ← List.drop_drop, List.append_assoc, List.drop_left, sentHeader_octets, specific, if_pos rfl,
        List.append_assoc, List.drop_left' (by simp), List.take_left' (length_bigEndian 4 _),
        bigEndianValue_bigEndian_of_lt avp.vendorId.toNat_lt]
      exact UInt32.ofNat_toNat
  unfold headerAt
  rw [code, vendor, bit, size, fixed]
  simp only [sentHeader, AvpHeader.mk.injEq, true_and]
  exact ⟨m, p, trivial⟩

end Header

section Row

variable {env : ParserEnv}

inductive Carries (env : ParserEnv) : List (DictionaryEntry × AvpContainerEntry) → Octets → Prop where
  | nil : Carries env [] []
  | cons {avp : DictionaryEntry} {e : AvpContainerEntry} {items : List (DictionaryEntry × AvpContainerEntry)}
      {value padding rest : Octets} (typed : avp.avpType ≠ .data)
      (reads : parseAvpValue env avp (payloadBlock value 0) = .returned e)
      (small : avp.headerLen + value.length < 2 ^ 24) (padded : padding.length = pad (avp.headerLen + value.length))
      (more : Carries env items rest) :
      Carries env ((avp, e) :: items)
        ((sentHeader avp (avp.headerLen + value.length)).octets ++ value ++ padding ++ rest)

theorem Carries.append {items others : List (DictionaryEntry × AvpContainerEntry)} {image rest : Octets}
    (carries : Carries env items image) (more : Carries env others rest) :
    Carries env (items ++ others) (image ++ rest) := by
  induction carries with
  | nil => exact more
  | cons typed reads small padded _ ih =>
    rw [List.append_assoc _ _ rest]
    exact .cons typed reads small padded ih

structure Held (env : ParserEnv) (base : Octets) (item : DictionaryEntry × AvpContainerEntry) (h : AvpHeader) : Prop where
  v : h.v = item.1.vendorSpecific
  vendor : h.vendor = item.1.vendorId
  code : h.code = item.1.avpCode
  value : parseAvpValue env item.1 (valueBlock base item.1 h) = .returned item.2

theorem valueBlock_sent {avp : DictionaryEntry} (typed : avp.avpType ≠ .data) (before value after : Octets)
    (small : avp.headerLen + value.length < 2 ^ 24) :
    valueBlock (before ++ ((sentHeader avp (avp.headerLen + value.length)).octets ++ value ++ after)) avp
        { sentHeader avp (avp.headerLen + value.length) with valueP := before.length } =
      (payloadBlock value 0).extend after := by
  have size := length_sentHeader typed (avp.headerLen + value.length)
  have rest : (before ++ ((sentHeader avp (avp.headerLen + value.length)).octets ++ value ++ after)).drop
      (before.length + avp.headerLen) = value ++ after := by
    rw [← List.drop_drop, List.drop_left, List.append_assoc, List.drop_left' size]
  have count : (2 ^ 32 + (avp.headerLen + value.length) - avp.headerLen) % 2 ^ 32 = value.length := by omega
  rw [valueBlock, rest]
  simp only [sentHeader, count]
  rfl

theorem readAvpHeader_sent {avp : DictionaryEntry} (typed : avp.avpType ≠ .data) {length : Nat} (small : length < 2 ^ 24)
    (covers : avp.headerLen ≤ length) {block : MessageBlock} (before after : Octets)
    (base : block.base = before ++ (sentHeader avp length).octets ++ after) (reach : before.length + length ≤ block.size) :
    readAvpHeader block before.length = .returned { sentHeader avp length with valueP := before.length } := by
  have size := length_sentHeader typed length
  have least : 8 ≤ avp.headerLen := le_headerLen (strict_of_type rfl typed)
  have found := @headerAt_sent avp length before after small
  rw [← base] at found
  have announced : lengthAt block.base before.length = length := congrArg AvpHeader.length found
  have flag : vendorBitAt block.base before.length = avp.vendorSpecific := congrArg AvpHeader.v found
  have memory : block.base.length = before.length + avp.headerLen + after.length := by
    rw [base, List.length_append, List.length_append, size]
  have vendor : ¬(vendorBitAt block.base before.length = true ∧ block.base.length < before.length + 12) := by
    rw [flag, memory, DictionaryEntry.headerLen, strict_of_type rfl typed]
    rintro ⟨specific, short⟩
    rw [specific] at short
    simp only [Bool.false_eq_true, ↓reduceIte] at short
    omega
  have valid : ValidLength block before.length := by
    rw [ValidLength, announced]
    omega
  rw [readAvpHeader_valid (by omega) valid, if_neg vendor, found]

/-- `create` on AVPs in a row, whatever is in front of them and behind. -/
theorem create_carries {items : List (DictionaryEntry × AvpContainerEntry)} {image : Octets} (carries : Carries env items image)
    (before after : Octets) (rd : Nat) :
    ∃ ahl, createFrom ⟨before ++ image ++ after, before.length + image.length, rd⟩ before.length = .returned ahl ∧
      List.Forall₂ (Held env (before ++ image ++ after)) items ahl := by
  induction carries generalizing before with
  | nil => exact ⟨[], createFrom_end _ (Nat.le_refl _), .nil⟩
  | @cons avp e items value padding rest typed reads small padded more ih =>
    have size := length_sentHeader typed (avp.headerLen + value.length)
    have least : 8 ≤ avp.headerLen := le_headerLen (strict_of_type rfl typed)
    obtain ⟨ahl, made, held⟩ :=
      ih (before ++ ((sentHeader avp (avp.headerLen + value.length)).octets ++ value ++ padding))
    have whole : before ++ ((sentHeader avp (avp.headerLen + value.length)).octets ++ value ++ padding) ++ rest =
        before ++ ((sentHeader avp (avp.headerLen + value.length)).octets ++ value ++ padding ++ rest) := by
      simp only [List.append_assoc]
    have position : (before ++ ((sentHeader avp (avp.headerLen + value.length)).octets ++ value ++ padding)).length =
        before.length + adjustWordBoundary (avp.headerLen + value.length) := by
      rw [adjust_pad (Nat.zero_add _).symm rfl (by omega)]
      simp only [List.length_append, size, padded]
    have finish : (before ++ ((sentHeader avp (avp.headerLen + value.length)).octets ++ value ++ padding)).length + rest.length =
        before.length + ((sentHeader avp (avp.headerLen + value.length)).octets ++ value ++ padding ++ rest).length := by
      simp only [List.length_append, Nat.add_assoc]
    rw [whole, finish] at made
    rw [whole] at held
    rw [position] at made
    have read : readAvpHeader
        ⟨before ++ ((sentHeader avp (avp.headerLen + value.length)).octets ++ value ++ padding ++ rest) ++ after,
          before.length + ((sentHeader avp (avp.headerLen + value.length)).octets ++ value ++ padding ++ rest).length, rd⟩
        before.length = .returned { sentHeader avp (avp.headerLen + value.length) with valueP := before.length } :=
      readAvpHeader_sent typed small (Nat.le_add_right _ _) before (value ++ padding ++ rest ++ after)
        (by simp only [List.append_assoc]) (by simp only [List.length_append, size]; omega)
    refine ⟨{ sentHeader avp (avp.headerLen + value.length) with valueP := before.length } :: ahl, ?_,
      .cons ⟨rfl, rfl, rfl, ?_⟩ held⟩
    · rw [createFrom_step _ (by simp only [List.length_append, size]; omega), read, Outcome.returned_bind]
      exact Outcome.bind_eq_returned.mpr ⟨ahl, made, rfl⟩
    · have tail : before ++ ((sentHeader avp (avp.headerLen + value.length)).octets ++ value ++ padding ++ rest) ++ after =
          before ++ ((sentHeader avp (avp.headerLen + value.length)).octets ++ value ++ (padding ++ rest ++ after)) := by
        simp only [List.append_assoc]
      rw [tail, valueBlock_sent typed before value _ small]
      exact ((parseAvpValue_below avp _ _).eq (by rw [reads]; simp)).trans reads

theorem parseRawToAppWithDict_below (block : MessageBlock) (more : Octets) (dict : DiameterDictionary) :
    Outcome.Below (parseRawToAppWithDict env block dict) (parseRawToAppWithDict env (block.extend more) dict) := by
  have longer : block.base.length + 1 ≤ (block.extend more).base.length + 1 := by
    rw [MessageBlock.extend, List.length_append]
    omega
  exact (parseWithin_below _ _ longer block more dict).bind fun _ => .refl _

end Row

end OpenDiameter.Parser
