import OpenDiameter.Parser.MsgHeader

/-! Whether the two header parsers agree.

The encoder refuses a request with the E bit and only logs a P bit that does not fit the
command; the decoder refuses the P bit and only logs the E bit.
-/

set_option autoImplicit false

namespace OpenDiameter.Parser

open Foundation

section Fields

theorem flags_of_octet (f : UInt8) :
    ((if f &&& 0x80 ≠ 0 then 0x80 else 0) ||| (if f &&& 0x40 ≠ 0 then 0x40 else 0) |||
      (if f &&& 0x20 ≠ 0 then 0x20 else 0) ||| (if f &&& 0x10 ≠ 0 then 0x10 else 0) : UInt8) = f &&& 0xf0 := by
  have all : ∀ n < 256, ((if UInt8.ofNat n &&& 0x80 ≠ 0 then 0x80 else 0) ||| (if UInt8.ofNat n &&& 0x40 ≠ 0 then 0x40 else 0) |||
      (if UInt8.ofNat n &&& 0x20 ≠ 0 then 0x20 else 0) ||| (if UInt8.ofNat n &&& 0x10 ≠ 0 then 0x10 else 0) : UInt8) =
        UInt8.ofNat n &&& 0xf0 := by decide +kernel
  rw [← f.ofNat_toNat]
  exact all f.toNat f.toNat_lt

theorem reserved_iff (f : UInt8) : f &&& 0xf0 = f ↔ f &&& 0x0f = 0 := by
  have all : ∀ n < 256, UInt8.ofNat n &&& 0xf0 = UInt8.ofNat n ↔ UInt8.ofNat n &&& 0x0f = 0 := by decide +kernel
  rw [← f.ofNat_toNat]
  exact all f.toNat f.toNat_lt

def MsgHeader.flags (h : MsgHeader) : UInt8 :=
  (if h.r then 0x80 else 0) ||| (if h.p then 0x40 else 0) ||| (if h.e then 0x20 else 0) ||| (if h.t then 0x10 else 0)

theorem flags_read (h : MsgHeader) :
    decide (h.flags &&& 0x80 ≠ 0) = h.r ∧ decide (h.flags &&& 0x40 ≠ 0) = h.p ∧
      decide (h.flags &&& 0x20 ≠ 0) = h.e ∧ decide (h.flags &&& 0x10 ≠ 0) = h.t := by
  unfold MsgHeader.flags
  rcases h.r <;> rcases h.p <;> rcases h.e <;> rcases h.t <;> decide

theorem word_append (before field after : Octets) :
    word (before ++ field ++ after) before.length field.length = bigEndianValue field := by
  rw [word, List.append_assoc, List.drop_left, List.take_left]

theorem word_field {octets : Octets} {start count n : Nat} (before after : Octets)
    (shape : octets = before ++ bigEndian count n ++ after) (place : before.length = start) :
    word octets start count = n % 256 ^ count := by
  have size := length_bigEndian count n
  have value := word_append before (bigEndian count n) after
  rw [size, place, bigEndianValue_bigEndian] at value
  rw [shape, value]

end Fields

section Headers

/-- A header without the command that was found for it. -/
def MsgHeader.fields (h : MsgHeader) : MsgHeader := { h with dictHandle := none }

theorem readMsgHeader_octets (h : MsgHeader) :
    readMsgHeader h.octets =
      { h with length := h.length % 2 ^ 24, code := UInt32.ofNat (h.code.toNat % 2 ^ 24), dictHandle := none } := by
  have shape : h.octets = h.ver :: bigEndian 3 h.length ++ h.flags :: bigEndian 3 h.code.toNat ++
      bigEndian 4 h.appId.toNat ++ bigEndian 4 h.hh.toNat ++ bigEndian 4 h.ee.toNat := rfl
  have size (k n : Nat) : (bigEndian k n).length = k := length_bigEndian k n
  have length : word h.octets 1 3 = h.length % 2 ^ 24 :=
    word_field [h.ver] (h.flags :: bigEndian 3 h.code.toNat ++
      bigEndian 4 h.appId.toNat ++ bigEndian 4 h.hh.toNat ++ bigEndian 4 h.ee.toNat) (by simp [shape]) rfl
  have code : word h.octets 5 3 = h.code.toNat % 2 ^ 24 :=
    word_field (h.ver :: bigEndian 3 h.length ++ [h.flags])
      (bigEndian 4 h.appId.toNat ++ bigEndian 4 h.hh.toNat ++ bigEndian 4 h.ee.toNat) (by simp [shape]) (by simp)
  have appId : word h.octets 8 4 = h.appId.toNat % 2 ^ 32 :=
    word_field (h.ver :: bigEndian 3 h.length ++ h.flags :: bigEndian 3 h.code.toNat)
      (bigEndian 4 h.hh.toNat ++ bigEndian 4 h.ee.toNat) (by simp [shape]) (by simp)
  have hh : word h.octets 12 4 = h.hh.toNat % 2 ^ 32 :=
    word_field (h.ver :: bigEndian 3 h.length ++ h.flags :: bigEndian 3 h.code.toNat ++ bigEndian 4 h.appId.toNat)
      (bigEndian 4 h.ee.toNat) (by simp [shape]) (by simp)
  have ee : word h.octets 16 4 = h.ee.toNat % 2 ^ 32 :=
    word_field (h.ver :: bigEndian 3 h.length ++ h.flags :: bigEndian 3 h.code.toNat ++ bigEndian 4 h.appId.toNat ++
      bigEndian 4 h.hh.toNat) [] (by simp [shape]) (by simp)
  have whole (x : UInt32) : UInt32.ofNat (x.toNat % 2 ^ 32) = x := by
    rw [Nat.mod_eq_of_lt x.toNat_lt, UInt32.ofNat_toNat]
  have flags : h.octets.getD 4 0 = h.flags := by
    rw [shape]
    simp [List.getD, bigEndian]
  obtain ⟨r, p, e, t⟩ := flags_read h
  unfold readMsgHeader
  rw [length, code, appId, hh, ee, whole, whole, whole, flags, r, p, e, t]
  rfl

/-- What is written of a header that was read: everything but the reserved bits. -/
theorem octets_readMsgHeader {octets : Octets} (size : octets.length = headerSize) :
    (readMsgHeader octets).octets = octets.take 4 ++ ((octets.getD 4 0 &&& 0xf0) :: octets.drop 5) := by
  have field (start count : Nat) (inside : start + count ≤ headerSize) :
      bigEndian count (word octets start count) = (octets.drop start).take count := by
    have length : ((octets.drop start).take count).length = count := by
      rw [List.length_take, List.length_drop, size]
      omega
    have value := bigEndian_bigEndianValue ((octets.drop start).take count)
    rwa [length] at value
  have wide (start : Nat) : (UInt32.ofNat (word octets start 4)).toNat = word octets start 4 :=
    UInt32.toNat_ofNat_of_lt (word_lt octets start 4)
  have narrow : (UInt32.ofNat (word octets 5 3)).toNat = word octets 5 3 :=
    UInt32.toNat_ofNat_of_lt (Nat.lt_trans (word_lt octets 5 3) (by decide))
  have first : octets.take 1 = [octets.getD 0 0] := by
    cases octets with
    | nil => cases size
    | cons => rfl
  have flags : (readMsgHeader octets).flags = octets.getD 4 0 &&& 0xf0 := by
    rw [← flags_of_octet]
    simp [MsgHeader.flags, readMsgHeader]
  have shape : (readMsgHeader octets).octets = (octets.getD 0 0 :: bigEndian 3 (word octets 1 3)) ++
      ((readMsgHeader octets).flags :: bigEndian 3 (UInt32.ofNat (word octets 5 3)).toNat) ++
      bigEndian 4 (UInt32.ofNat (word octets 8 4)).toNat ++ bigEndian 4 (UInt32.ofNat (word octets 12 4)).toNat ++
      bigEndian 4 (UInt32.ofNat (word octets 16 4)).toNat := rfl
  have parts (l : Octets) (i j : Nat) : l.take (i + j) = l.take i ++ (l.drop i).take j := List.take_add
  have front : octets.getD 0 0 :: (octets.drop 1).take 3 = octets.take 4 := by
    rw [parts octets 1 3, first]
    rfl
  have back : (octets.drop 5).take 3 ++ (octets.drop 8).take 4 ++ (octets.drop 12).take 4 ++ (octets.drop 16).take 4 =
      octets.drop 5 := by
    have rest : (octets.drop 5).take (3 + 4 + 4 + 4) = octets.drop 5 := by
      apply List.take_of_length_le
      rw [List.length_drop, size]
      decide
    rw [parts, parts, parts, List.drop_drop, List.drop_drop, List.drop_drop] at rest
    exact rest
  have gather (front x y z w : Octets) (f : UInt8) :
      front ++ (f :: x) ++ y ++ z ++ w = front ++ (f :: (x ++ y ++ z ++ w)) := by simp
  rw [shape, flags, wide, wide, wide, narrow, field 1 3 (by decide), field 5 3 (by decide), field 8 4 (by decide),
    field 12 4 (by decide), field 16 4 (by decide), front, gather, back]

theorem octets_readMsgHeader_iff {octets : Octets} (size : octets.length = headerSize) :
    (readMsgHeader octets).octets = octets ↔ octets.getD 4 0 &&& 0xf0 = octets.getD 4 0 := by
  have inside : 4 < octets.length := by
    rw [size]
    decide
  have whole : octets.take 4 ++ (octets.getD 4 0 :: octets.drop 5) = octets := by
    rw [List.getD_eq_getElem?_getD, List.getElem?_eq_getElem inside, Option.getD_some,
      ← List.drop_eq_getElem_cons inside, List.take_append_drop]
  calc (readMsgHeader octets).octets = octets
      ↔ octets.take 4 ++ ((octets.getD 4 0 &&& 0xf0) :: octets.drop 5) =
          octets.take 4 ++ (octets.getD 4 0 :: octets.drop 5) := by rw [octets_readMsgHeader size, whole]
    _ ↔ octets.getD 4 0 &&& 0xf0 = octets.getD 4 0 := by
      rw [List.append_cancel_left_eq, List.cons.injEq, and_iff_left rfl]

end Headers

section Agreement

variable (commands : List DiameterCommand) (b : Buffer)

def Encoded (h : MsgHeader) (octets : Octets) : Prop :=
  ∃ h' after, writeMsgHeader commands h b = .returned (h', after) ∧ after.memory.take headerSize = octets

def Decoded (octets : Octets) (h : MsgHeader) : Prop :=
  ∃ h', parseMsgHeader commands octets = (h', none) ∧ h'.fields = h.fields

variable {commands : List DiameterCommand} {b : Buffer}

/-- The encoder accepts the commands of the dictionary, but for requests with the E bit. -/
theorem encoded_iff (room : headerSize ≤ b.memory.length) {h : MsgHeader} {octets : Octets} :
    Encoded commands b h octets ↔
      (∃ com, searchCommand commands h.code h.appId h.r = some com ∧ ¬(com.r = true ∧ h.e = true)) ∧ h.octets = octets := by
  have written : ({ b with wr := 0 }.write h.octets : Parse Buffer) =
      .returned { b with memory := splice b.memory 0 h.octets, wr := 0 + h.octets.length } := by
    rw [Buffer.write, h.length_octets, if_pos (by rwa [Nat.zero_add])]
  have taken : (splice b.memory 0 h.octets).take headerSize = h.octets := by
    rw [splice, List.take_zero, List.nil_append, List.take_left' h.length_octets]
  unfold Encoded writeMsgHeader
  cases found : searchCommand commands h.code h.appId h.r with
  | none =>
    refine iff_of_false ?_ ?_
    · rintro ⟨h', after, raised, -⟩
      cases raised
    · rintro ⟨⟨com, unfound, -⟩, -⟩
      cases unfound
  | some com =>
    dsimp only
    by_cases refused : com.r = true ∧ h.e = true
    · rw [if_pos refused]
      refine iff_of_false ?_ ?_
      · rintro ⟨h', after, raised, -⟩
        cases raised
      · rintro ⟨⟨com', same, accepted⟩, -⟩
        cases same
        exact accepted refused
    · rw [if_neg refused, written]
      constructor
      · rintro ⟨h', after, returned, same⟩
        cases returned
        exact ⟨⟨com, rfl, refused⟩, taken.symm.trans same⟩
      · rintro ⟨-, rfl⟩
        exact ⟨_, _, rfl, taken⟩

/-- The decoder accepts the commands of the dictionary, but for a P bit that is not theirs. -/
theorem parseMsgHeader_iff {octets : Octets} {h : MsgHeader} :
    parseMsgHeader commands octets = (h, none) ↔
      ∃ com, searchCommand commands (readMsgHeader (octets.take headerSize)).code (readMsgHeader (octets.take headerSize)).appId
          (readMsgHeader (octets.take headerSize)).r = some com ∧
        ((readMsgHeader (octets.take headerSize)).p = true → com.p = true) ∧
        h = { readMsgHeader (octets.take headerSize) with dictHandle := some com } := by
  unfold parseMsgHeader checkMsgHeader
  generalize readMsgHeader (octets.take headerSize) = read
  dsimp only
  cases found : searchCommand commands read.code read.appId read.r with
  | none =>
    refine iff_of_false (fun same => ?_) (fun ⟨com, unfound, _⟩ => ?_)
    · cases (Prod.mk.inj same).2
    · cases unfound
  | some com =>
    dsimp only
    by_cases mismatch : com.p = false ∧ read.p = true
    · rw [if_pos mismatch]
      refine iff_of_false (fun same => ?_) (fun ⟨com', same, fits, _⟩ => ?_)
      · cases (Prod.mk.inj same).2
      · cases same
        have proxiable := fits mismatch.2
        rw [mismatch.1] at proxiable
        cases proxiable
    · rw [if_neg mismatch]
      constructor
      · intro same
        refine ⟨com, rfl, fun bit => ?_, (Prod.mk.inj same).1.symm⟩
        by_contra other
        exact mismatch ⟨Bool.eq_false_iff.mpr other, bit⟩
      · rintro ⟨com', same, -, rfl⟩
        cases same
        rfl

theorem searchCommand_r {code appId : UInt32} {r : Bool} {com : DiameterCommand}
    (found : searchCommand commands code appId r = some com) : com.r = r := by
  have matched := List.find?_some found
  simp only [Bool.and_eq_true, beq_iff_eq] at matched
  exact matched.2

theorem decoded_octets_iff {h : MsgHeader} {com : DiameterCommand} (small : h.length < 2 ^ 24)
    (found : searchCommand commands h.code h.appId h.r = some com) :
    Decoded commands h.octets h ↔ (h.p = true → com.p = true) ∧ h.code.toNat < 2 ^ 24 := by
  have read := readMsgHeader_octets h
  rw [Nat.mod_eq_of_lt small] at read
  have whole : h.octets.take headerSize = h.octets := List.take_of_length_le (Nat.le_of_eq h.length_octets)
  constructor
  · rintro ⟨h', parsed, same⟩
    obtain ⟨com', found', fits, rfl⟩ := parseMsgHeader_iff.mp parsed
    rw [whole, read] at found' fits same
    have code : UInt32.ofNat (h.code.toNat % 2 ^ 24) = h.code := congrArg MsgHeader.code same
    rw [code, found] at found'
    cases found'
    refine ⟨fits, ?_⟩
    have bound : (UInt32.ofNat (h.code.toNat % 2 ^ 24)).toNat = h.code.toNat % 2 ^ 24 :=
      UInt32.toNat_ofNat_of_lt (Nat.lt_trans (Nat.mod_lt _ (by decide)) (by decide))
    rw [← code, bound]
    exact Nat.mod_lt _ (by decide)
  · rintro ⟨fits, code⟩
    rw [Nat.mod_eq_of_lt code, UInt32.ofNat_toNat] at read
    refine ⟨{ h with dictHandle := some com }, ?_, rfl⟩
    rw [parseMsgHeader_iff, whole, read]
    exact ⟨com, found, fits, rfl⟩

/-- The parsers agree exactly on the headers that both of their checks allow. -/
theorem headerCodec_iff (room : headerSize ≤ b.memory.length) :
    (∀ (h : MsgHeader) (octets : Octets) (com : DiameterCommand), h.length < 2 ^ 24 →
      searchCommand commands h.code h.appId h.r = some com → Encoded commands b h octets →
      (Decoded commands octets h ↔ (h.p = true → com.p = true) ∧ h.code.toNat < 2 ^ 24)) ∧
    ∀ (h : MsgHeader) (octets : Octets), octets.length = headerSize → parseMsgHeader commands octets = (h, none) →
      (Encoded commands b h octets ↔ ¬(h.r = true ∧ h.e = true) ∧ octets.getD 4 0 &&& 0x0f = 0) := by
  constructor
  · intro h octets com small found encoded
    obtain ⟨-, rfl⟩ := (encoded_iff room).mp encoded
    exact decoded_octets_iff small found
  · intro h octets size parsed
    obtain ⟨com, found, -, rfl⟩ := parseMsgHeader_iff.mp parsed
    rw [List.take_of_length_le (Nat.le_of_eq size)] at found ⊢
    have bit := searchCommand_r found
    rw [encoded_iff room, ← reserved_iff]
    have written : MsgHeader.octets { readMsgHeader octets with dictHandle := some com } = octets ↔
        octets.getD 4 0 &&& 0xf0 = octets.getD 4 0 := octets_readMsgHeader_iff size
    rw [written, and_congr_left_iff]
    intro _
    constructor
    · rintro ⟨com', found', accepted⟩ ⟨request, error⟩
      rw [searchCommand_r found'] at accepted
      exact accepted ⟨request, error⟩
    · intro accepted
      refine ⟨com, found, ?_⟩
      rw [bit]
      exact accepted

def exchangeRequest : DiameterCommand := ⟨257, 0, true, false, { avpF := [], avpR := [], avpO := [] }⟩

def exchangeHeader (p : Bool) : MsgHeader := ⟨1, 20, true, p, false, false, 257, 0, 1, 2, none⟩

def headerBuffer : Buffer := { memory := List.replicate headerSize 0, size := headerSize, wr := 0 }

theorem encoded_exchange (p : Bool) :
    Encoded [exchangeRequest] headerBuffer (exchangeHeader p) (exchangeHeader p).octets := by
  rw [encoded_iff (Nat.le_of_eq (List.length_replicate).symm)]
  refine ⟨⟨exchangeRequest, rfl, ?_⟩, rfl⟩
  rintro ⟨-, error⟩
  cases error

theorem headerCodec_iff_exchange :
    Decoded [exchangeRequest] (exchangeHeader false).octets (exchangeHeader false) ∧
      Encoded [exchangeRequest] headerBuffer { exchangeHeader false with dictHandle := some exchangeRequest }
        (exchangeHeader false).octets := by
  have room : headerSize ≤ headerBuffer.memory.length := Nat.le_of_eq (List.length_replicate).symm
  obtain ⟨forth, back⟩ := @headerCodec_iff [exchangeRequest] headerBuffer room
  refine ⟨(forth _ _ exchangeRequest (by decide) rfl (encoded_exchange false)).mpr ⟨?_, by decide⟩, ?_⟩
  · intro bit
    cases bit
  · refine (back _ _ (by decide) (by decide)).mpr ⟨?_, by decide⟩
    rintro ⟨-, error⟩
    cases error

/-- The encoder writes a P bit that the decoder refuses. -/
theorem header_parsers_differ :
    ¬∀ (commands : List DiameterCommand) (b : Buffer) (h : MsgHeader) (octets : Octets),
      headerSize ≤ b.memory.length → h.length < 2 ^ 24 → Encoded commands b h octets → Decoded commands octets h := by
  intro claim
  obtain ⟨h', parsed, -⟩ := claim _ _ _ _ (Nat.le_of_eq (List.length_replicate).symm) (by decide) (encoded_exchange true)
  have refused : (parseMsgHeader [exchangeRequest] (exchangeHeader true).octets).2 = some (.normal .invalidBitInHeader) := by decide
  rw [parsed] at refused
  cases refused

end Agreement

end OpenDiameter.Parser
