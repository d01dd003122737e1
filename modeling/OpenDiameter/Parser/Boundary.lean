import OpenDiameter.Parser.Decode

/-! Where `DiameterAvpHeaderList::create` reads, and what it returns.

`AvpStart` gives the positions at which the loop looks for an AVP, straight from
the octets. The list that comes back tiles the payload; whether all reads stay
inside it, and all lengths cover their headers, is decided by the octets at
those positions.
-/

set_option autoImplicit false

namespace OpenDiameter.Parser

open Foundation

section Fields

def fixedAt (memory : Octets) (cavp : Nat) : Octets := (memory.drop cavp).take 8

def vendorBitAt (memory : Octets) (cavp : Nat) : Bool := (fixedAt memory cavp).getD 4 0 &&& 0x80 ≠ 0

def lengthAt (memory : Octets) (cavp : Nat) : Nat := bigEndianValue ((fixedAt memory cavp).drop 5)

def codeAt (memory : Octets) (cavp : Nat) : UInt32 :=
  UInt32.ofNat (bigEndianValue ((fixedAt memory cavp).take 4))

def headerAt (memory : Octets) (cavp : Nat) : AvpHeader where
  code := codeAt memory cavp
  v := vendorBitAt memory cavp
  m := (fixedAt memory cavp).getD 4 0 &&& 0x40 ≠ 0
  p := (fixedAt memory cavp).getD 4 0 &&& 0x20 ≠ 0
  length := lengthAt memory cavp
  vendor := UInt32.ofNat (bigEndianValue
    (if vendorBitAt memory cavp then (memory.drop (cavp + 8)).take 4 else []))
  valueP := cavp

def ValidLength (block : MessageBlock) (cavp : Nat) : Prop :=
  0 < lengthAt block.base cavp ∧ lengthAt block.base cavp ≤ block.size - cavp

instance (block : MessageBlock) (cavp : Nat) : Decidable (ValidLength block cavp) :=
  inferInstanceAs (Decidable (_ ∧ _))

theorem lengthAt_lt (memory : Octets) (cavp : Nat) : lengthAt memory cavp < 2 ^ 24 := by
  have small := bigEndianValue_lt ((fixedAt memory cavp).drop 5)
  have short : ((fixedAt memory cavp).drop 5).length ≤ 3 := by
    simp only [fixedAt, List.length_drop, List.length_take]
    omega
  calc lengthAt memory cavp < 256 ^ ((fixedAt memory cavp).drop 5).length := small
    _ ≤ 256 ^ 3 := Nat.pow_le_pow_right (by decide) short

def AvpHeader.size (h : AvpHeader) : Nat := if h.v then 12 else 8

end Fields

section Reading

variable {block : MessageBlock} {cavp : Nat}

theorem readAvpHeader_short (short : block.base.length < cavp + 8) :
    readAvpHeader block cavp = .fault := by
  simp only [readAvpHeader, readOctets, Nat.not_le_of_lt short, ↓reduceIte]

theorem readAvpHeader_invalid (inside : cavp + 8 ≤ block.base.length)
    (invalid : ¬ValidLength block cavp) :
    readAvpHeader block cavp = raise (.normal .invalidMessageLength) := by
  have wrong : lengthAt block.base cavp = 0 ∨ block.size - cavp < lengthAt block.base cavp := by
    unfold ValidLength at invalid
    omega
  simp only [lengthAt, fixedAt] at wrong
  simp only [readAvpHeader, readOctets, inside, ↓reduceIte, wrong]

theorem readAvpHeader_valid (inside : cavp + 8 ≤ block.base.length)
    (valid : ValidLength block cavp) :
    readAvpHeader block cavp =
      if vendorBitAt block.base cavp ∧ block.base.length < cavp + 12 then .fault
      else .returned (headerAt block.base cavp) := by
  have right : ¬(lengthAt block.base cavp = 0 ∨ block.size - cavp < lengthAt block.base cavp) := by
    unfold ValidLength at valid
    omega
  simp only [lengthAt, fixedAt] at right
  simp only [readAvpHeader, readOctets, inside, ↓reduceIte, right]
  change (readVendor block cavp (vendorBitAt block.base cavp) >>= _) = _
  cases vendor : vendorBitAt block.base cavp with
  | false =>
    simp only [readVendor, headerAt, vendor, Bool.false_eq_true, false_and, ↓reduceIte,
      Outcome.returned_bind, Outcome.pure_eq, Outcome.returned.injEq, AvpHeader.mk.injEq]
    exact ⟨rfl, vendor, rfl, rfl, rfl, trivial, trivial⟩
  | true =>
    by_cases short : block.base.length < cavp + 12
    · have outside : ¬(cavp + 8 + 4 ≤ block.base.length) := Nat.not_le_of_lt short
      simp only [readVendor, readOctets, outside, short, and_self, ↓reduceIte, Outcome.fault_bind]
    · have enough : cavp + 8 + 4 ≤ block.base.length := Nat.le_of_not_lt short
      simp only [readVendor, readOctets, enough, short, and_false, ↓reduceIte, Outcome.returned_bind,
        headerAt, vendor, Outcome.pure_eq, Outcome.returned.injEq, AvpHeader.mk.injEq]
      exact ⟨rfl, vendor, rfl, rfl, rfl, trivial, trivial⟩

end Reading

/-- The positions at which the loop of `create` looks for an AVP, the end of the
payload included. -/
inductive AvpStart (block : MessageBlock) : Nat → Prop where
  | first : AvpStart block block.rd
  | next {cavp : Nat} : AvpStart block cavp → cavp < block.size → ValidLength block cavp →
      AvpStart block (cavp + adjustWordBoundary (lengthAt block.base cavp))

/-- Headers in sequence from `start`, each at the padded end of the one before,
and reaching the end of the payload. -/
def Tiles (size : Nat) : Nat → List AvpHeader → Prop
  | start, [] => size ≤ start
  | start, h :: hs => start < size ∧ h.valueP = start ∧ Tiles size (start + adjustWordBoundary h.length) hs

section Create

variable {block : MessageBlock} {cavp : Nat}

theorem create_fault_of_start (start : AvpStart block cavp)
    (faulty : createFrom block cavp = .fault) : create block = .fault := by
  induction start with
  | first => exact faulty
  | @next cavp start inside valid ih =>
    apply ih
    rw [createFrom_step block inside]
    rcases Nat.lt_or_ge block.base.length (cavp + 8) with short | enough
    · rw [readAvpHeader_short short, Outcome.fault_bind]
    · rw [readAvpHeader_valid enough valid]
      split
      · rfl
      · rw [Outcome.returned_bind]
        change (createFrom block (cavp + adjustWordBoundary (lengthAt block.base cavp)) >>= _) = _
        rw [faulty, Outcome.fault_bind]

theorem createFrom_returned {hs : List AvpHeader} (inside : cavp < block.size)
    (made : createFrom block cavp = .returned hs) :
    ValidLength block cavp ∧ cavp + 8 ≤ block.base.length ∧
      ∃ tail, hs = headerAt block.base cavp :: tail ∧
      createFrom block (cavp + adjustWordBoundary (lengthAt block.base cavp)) = .returned tail := by
  rw [createFrom_step block inside] at made
  obtain ⟨h, read, rest⟩ := Outcome.bind_eq_returned.mp made
  obtain ⟨tail, later, same⟩ := Outcome.bind_eq_returned.mp rest
  rcases Nat.lt_or_ge block.base.length (cavp + 8) with short | enough
  · rw [readAvpHeader_short short] at read
    cases read
  · by_cases valid : ValidLength block cavp
    · rw [readAvpHeader_valid enough valid] at read
      split at read
      · cases read
      · cases read
        cases same
        exact ⟨valid, enough, tail, rfl, later⟩
    · rw [readAvpHeader_invalid enough valid] at read
      cases read

theorem createFrom_tiles {hs : List AvpHeader} (made : createFrom block cavp = .returned hs) :
    Tiles block.size cavp hs := by
  induction hs generalizing cavp with
  | nil =>
    apply Nat.le_of_not_lt
    intro inside
    obtain ⟨-, -, tail, same, -⟩ := createFrom_returned inside made
    cases same
  | cons h hs ih =>
    rcases Nat.lt_or_ge cavp block.size with inside | past
    · obtain ⟨-, -, tail, same, later⟩ := createFrom_returned inside made
      cases same
      exact ⟨inside, rfl, ih later⟩
    · rw [createFrom_end block past] at made
      cases made

/-- Every header that comes back stands at a position the loop reached. -/
theorem createFrom_starts {hs : List AvpHeader} (start : AvpStart block cavp)
    (made : createFrom block cavp = .returned hs) {h : AvpHeader} (member : h ∈ hs) :
    ∃ place, AvpStart block place ∧ place < block.size ∧ ValidLength block place ∧
      h = headerAt block.base place := by
  induction hs generalizing cavp with
  | nil => cases member
  | cons first hs ih =>
    rcases Nat.lt_or_ge cavp block.size with inside | past
    · obtain ⟨valid, -, tail, same, later⟩ := createFrom_returned inside made
      cases same
      rcases List.mem_cons.mp member with rfl | inTail
      · exact ⟨cavp, start, inside, valid, rfl⟩
      · exact ih (.next start inside valid) later inTail
    · rw [createFrom_end block past] at made
      cases made

/-- And every position the loop reached yields a header. -/
theorem create_member {hs : List AvpHeader} (made : create block = .returned hs)
    (start : AvpStart block cavp) :
    ∃ tail, createFrom block cavp = .returned tail ∧ ∀ h ∈ tail, h ∈ hs := by
  induction start with
  | first => exact ⟨hs, made, fun _ member => member⟩
  | next start inside valid ih =>
    obtain ⟨tail, later, sublist⟩ := ih
    obtain ⟨-, -, rest, rfl, after⟩ := createFrom_returned inside later
    exact ⟨rest, after, fun h member => sublist h (List.mem_cons_of_mem _ member)⟩

structure ReadsInside (block : MessageBlock) : Prop where
  fixed : ∀ cavp, AvpStart block cavp → cavp < block.size → cavp + 8 ≤ block.base.length
  vendor : ∀ cavp, AvpStart block cavp → cavp < block.size → ValidLength block cavp →
    vendorBitAt block.base cavp = true → cavp + 12 ≤ block.base.length

theorem createFrom_declared (reads : ReadsInside block) (start : AvpStart block cavp) :
    (createFrom block cavp = raise (.normal .invalidMessageLength) ∧
        ∃ refused, AvpStart block refused ∧ refused < block.size ∧ ¬ValidLength block refused) ∨
      ∃ hs, createFrom block cavp = .returned hs := by
  -- the distance to the end of the payload decreases
  induction remaining : block.size - cavp using Nat.strong_induction_on generalizing cavp with
  | _ distance ih =>
    rcases Nat.lt_or_ge cavp block.size with inside | past
    · rw [createFrom_step block inside]
      have enough := reads.fixed cavp start inside
      by_cases valid : ValidLength block cavp
      · have vendor : ¬(vendorBitAt block.base cavp = true ∧ block.base.length < cavp + 12) :=
          fun ⟨bit, short⟩ =>
            Nat.not_le_of_lt short (reads.vendor cavp start inside valid bit)
        rw [readAvpHeader_valid enough valid, if_neg vendor, Outcome.returned_bind]
        have advance := le_adjustWordBoundary (lengthAt_lt block.base cavp)
        have positive := valid.1
        rcases ih _ (by omega) (.next start inside valid) rfl with ⟨failed, refused⟩ | ⟨hs, made⟩
        · left
          refine ⟨?_, refused⟩
          change (createFrom block (cavp + adjustWordBoundary (lengthAt block.base cavp)) >>= _) = _
          rw [failed]
          rfl
        · right
          refine ⟨headerAt block.base cavp :: hs, ?_⟩
          change (createFrom block (cavp + adjustWordBoundary (lengthAt block.base cavp)) >>= _) = _
          rw [made, Outcome.returned_bind]
      · left
        rw [readAvpHeader_invalid enough valid]
        exact ⟨rfl, cavp, start, inside, valid⟩
    · exact .inr ⟨[], createFrom_end block past⟩

theorem create_ne_fault_iff : create block ≠ .fault ↔ ReadsInside block := by
  constructor
  · intro sound
    constructor
    · intro cavp start inside
      by_contra short
      apply sound
      apply create_fault_of_start start
      rw [createFrom_step block inside, readAvpHeader_short (Nat.lt_of_not_le short),
        Outcome.fault_bind]
    · intro cavp start inside valid bit
      by_contra short
      apply sound
      apply create_fault_of_start start
      rw [createFrom_step block inside]
      rcases Nat.lt_or_ge block.base.length (cavp + 8) with less | enough
      · rw [readAvpHeader_short less, Outcome.fault_bind]
      · rw [readAvpHeader_valid enough valid, if_pos ⟨bit, Nat.lt_of_not_le short⟩, Outcome.fault_bind]
  · intro reads
    rcases createFrom_declared reads .first with ⟨failed, -⟩ | ⟨hs, made⟩
    · rw [create, failed]
      exact fun faulty => nomatch faulty
    · rw [create, made]
      exact fun faulty => nomatch faulty

end Create

section Safety

/-- Whether a rule of kind `pt` takes an AVP with this header for `avp`. -/
def selects (pt : AvpParseType) (avp : DictionaryEntry) (h : AvpHeader) : Bool :=
  if pt = .fixedHead then avp.avpCode != 0 && h.code == avp.avpCode else avp.matches h

def payloadBlock (message : Octets) (rd : Nat) : MessageBlock := ⟨message, message.length, rd⟩

/-- `create` throws the length error or returns headers that tile the payload,
cover themselves and their values, and leave no rule a negative value size. -/
def BoundarySafe (dict : DiameterDictionary) (block : MessageBlock) : Prop :=
  create block = raise (.normal .invalidMessageLength) ∨
    ∃ ahl, create block = .returned ahl ∧ Tiles block.size block.rd ahl ∧
      (∀ h ∈ ahl, h.size ≤ h.length ∧ h.valueP + h.length ≤ block.size) ∧
      ∀ rule ∈ dict.rules, ∀ h ∈ ahl, selects rule.1 rule.2.avp h = true →
        rule.2.avp.headerLen ≤ h.length

/-- No AVP that the loop reaches has a length that `create` refuses. -/
def AllLengthsValid (block : MessageBlock) : Prop :=
  ∀ cavp, AvpStart block cavp → cavp < block.size → ValidLength block cavp

structure HeadersCovered (dict : DiameterDictionary) (block : MessageBlock) : Prop where
  reads : ReadsInside block
  lengths : AllLengthsValid block → ∀ cavp, AvpStart block cavp → cavp < block.size →
    (headerAt block.base cavp).size ≤ lengthAt block.base cavp
  fixedRules : AllLengthsValid block → ∀ qavp ∈ dict.avpF, qavp.avp.vendorSpecific = true →
    qavp.avp.avpCode ≠ 0 → ∀ cavp, AvpStart block cavp → cavp < block.size →
    codeAt block.base cavp = qavp.avp.avpCode → 12 ≤ lengthAt block.base cavp

theorem mem_rules {dict : DiameterDictionary} {pt : AvpParseType} {qavp : QualifiedAvp} :
    (pt, qavp) ∈ dict.rules ↔
      pt = .fixedHead ∧ qavp ∈ dict.avpF ∨ pt = .required ∧ qavp ∈ dict.avpR ∨
        pt = .optional ∧ qavp ∈ dict.avpO := by
  simp only [DiameterDictionary.rules, List.mem_append, List.mem_map, Prod.mk.injEq]
  constructor
  · rintro ((⟨q, member, rfl, rfl⟩ | ⟨q, member, rfl, rfl⟩) | ⟨q, member, rfl, rfl⟩)
    · exact .inl ⟨rfl, member⟩
    · exact .inr (.inl ⟨rfl, member⟩)
    · exact .inr (.inr ⟨rfl, member⟩)
  · rintro (⟨rfl, member⟩ | ⟨rfl, member⟩ | ⟨rfl, member⟩)
    · exact .inl (.inl ⟨qavp, member, rfl, rfl⟩)
    · exact .inl (.inr ⟨qavp, member, rfl, rfl⟩)
    · exact .inr ⟨qavp, member, rfl, rfl⟩

theorem headerLen_le_of_matches {avp : DictionaryEntry} {h : AvpHeader}
    (matched : avp.matches h = true) : avp.headerLen ≤ h.size := by
  unfold DictionaryEntry.matches at matched
  unfold DictionaryEntry.headerLen AvpHeader.size
  cases wildcard : avp.isWildcard with
  | true => exact Nat.zero_le _
  | false =>
    simp only [wildcard, Bool.false_or, Bool.and_eq_true, beq_iff_eq] at matched
    rw [matched.1.1]
    cases avp.vendorSpecific <;> simp

theorem headerLen_of_fixed {avp : DictionaryEntry} (code : avp.avpCode ≠ 0) :
    avp.headerLen = if avp.vendorSpecific then 12 else 8 := by
  have strict : avp.isWildcard = false := by simp [DictionaryEntry.isWildcard, code]
  rw [DictionaryEntry.headerLen, strict]
  rfl

theorem boundary_safe_iff (dict : DiameterDictionary) (message : Octets) (rd : Nat) :
    BoundarySafe dict (payloadBlock message rd) ↔ HeadersCovered dict (payloadBlock message rd) := by
  constructor
  · intro safe
    have reads : ReadsInside (payloadBlock message rd) := by
      apply create_ne_fault_iff.mp
      rcases safe with failed | ⟨ahl, made, -⟩
      · rw [failed]
        exact fun faulty => nomatch faulty
      · rw [made]
        exact fun faulty => nomatch faulty
    -- with every length valid the list comes back, and holds every AVP reached
    have listed : AllLengthsValid (payloadBlock message rd) →
        ∀ cavp, AvpStart (payloadBlock message rd) cavp → cavp < message.length →
        (headerAt message cavp).size ≤ lengthAt message cavp ∧
          ∀ rule ∈ dict.rules, selects rule.1 rule.2.avp (headerAt message cavp) = true →
            rule.2.avp.headerLen ≤ lengthAt message cavp := by
      intro allValid cavp start inside
      rcases safe with failed | ⟨ahl, made, -, sizes, rules⟩
      · rcases createFrom_declared reads .first with ⟨-, refused, reached, within, invalid⟩ | ⟨hs, made⟩
        · exact absurd (allValid refused reached within) invalid
        · rw [create, made] at failed
          cases failed
      · obtain ⟨tail, later, sublist⟩ := create_member made start
        obtain ⟨-, -, rest, rfl, -⟩ := createFrom_returned inside later
        have member := sublist _ List.mem_cons_self
        exact ⟨(sizes _ member).1, fun rule inRules selected => rules rule inRules _ member selected⟩
    constructor
    · exact reads
    · exact fun allValid cavp start inside => (listed allValid cavp start inside).1
    · intro allValid qavp member vendor code cavp start inside same
      have enough := (listed allValid cavp start inside).2 (.fixedHead, qavp)
        (mem_rules.mpr (.inl ⟨rfl, member⟩))
      rw [headerLen_of_fixed code, vendor] at enough
      apply enough
      have selected : selects .fixedHead qavp.avp (headerAt message cavp) = true := by
        simp only [selects, ↓reduceIte, Bool.and_eq_true, bne_iff_ne, ne_eq, beq_iff_eq]
        exact ⟨code, same⟩
      exact selected
  · intro covered
    rcases createFrom_declared covered.reads .first with ⟨failed, -⟩ | ⟨ahl, made⟩
    · exact .inl failed
    · right
      have allValid : AllLengthsValid (payloadBlock message rd) := by
        intro cavp start inside
        obtain ⟨tail, later, -⟩ := create_member made start
        exact (createFrom_returned inside later).1
      have sizes : ∀ h ∈ ahl, h.size ≤ h.length ∧ h.valueP + h.length ≤ message.length := by
        intro h member
        obtain ⟨cavp, start, inside, valid, rfl⟩ := createFrom_starts .first made member
        constructor
        · exact covered.lengths allValid cavp start inside
        · have fits := valid.2
          change cavp + lengthAt message cavp ≤ message.length
          simp only [payloadBlock] at fits inside
          omega
      refine ⟨ahl, made, createFrom_tiles made, sizes, ?_⟩
      rintro ⟨pt, qavp⟩ inRules h member selected
      obtain ⟨cavp, start, inside, valid, rfl⟩ := createFrom_starts .first made member
      rcases mem_rules.mp inRules with ⟨rfl, inFixed⟩ | ⟨rfl, -⟩ | ⟨rfl, -⟩
      · simp only [selects, ↓reduceIte, Bool.and_eq_true, bne_iff_ne, ne_eq, beq_iff_eq] at selected
        rw [headerLen_of_fixed selected.1]
        cases vendor : qavp.avp.vendorSpecific with
        | true =>
          exact covered.fixedRules allValid qavp inFixed vendor selected.1 cavp start inside selected.2
        | false =>
          have own := (sizes _ member).1
          unfold AvpHeader.size at own
          split at own <;> simp only [Bool.false_eq_true, ↓reduceIte] <;> omega
      · exact Nat.le_trans (headerLen_le_of_matches selected) (sizes _ member).1
      · exact Nat.le_trans (headerLen_le_of_matches selected) (sizes _ member).1

/-- An AVP of twelve octets and four stray ones: the header of a second AVP is
read from behind the payload. -/
theorem boundary_unsafe_tail :
    ¬BoundarySafe ⟨[], [], []⟩ (payloadBlock [0, 0, 1, 7, 0x40, 0, 0, 12, 1, 2, 3, 4, 0, 0, 1, 8] 0) := by
  have overRead :
      create (payloadBlock [0, 0, 1, 7, 0x40, 0, 0, 12, 1, 2, 3, 4, 0, 0, 1, 8] 0) = .fault := by
    decide +kernel
  rintro (failed | ⟨ahl, made, -⟩)
  · rw [overRead] at failed
    cases failed
  · rw [overRead] at made
    cases made

end Safety

end OpenDiameter.Parser
