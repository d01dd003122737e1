import OpenDiameter.Foundation.Buffer
import OpenDiameter.Parser.Values

/-! AVP headers: how they are written, what an error carries of them, and
`DiameterAvpHeaderList::create`, which cuts a payload into AVPs.
-/

set_option autoImplicit false

namespace OpenDiameter.Parser

open Foundation

def adjustWordBoundary (len : Nat) : Nat := ((2 ^ 32 + len - 1) % 2 ^ 32 / 4 + 1) * 4 % 2 ^ 32

theorem adjustWordBoundary_eq {len : Nat} (small : len ≤ 2 ^ 32 - 4) :
    adjustWordBoundary len = (len + 3) / 4 * 4 := by
  unfold adjustWordBoundary
  omega

theorem le_adjustWordBoundary {len : Nat} (small : len < 2 ^ 24) : len ≤ adjustWordBoundary len := by
  rw [adjustWordBoundary_eq (by omega)]
  omega

/-- `DiameterAvpHeader`. `valueP` counts from the base of the block the header
was read from; the header list keeps it at the head of the AVP. -/
structure AvpHeader where
  code : UInt32
  v : Bool
  m : Bool
  p : Bool
  length : Nat
  vendor : UInt32
  valueP : Nat
  deriving DecidableEq, Repr

def flagOctet (v m p : Bool) : UInt8 :=
  (if v then 0x80 else 0) ||| (if m then 0x40 else 0) ||| (if p then 0x20 else 0)

/-- The octets `DiameterAvpHeaderParser::parseAppToRaw` writes. -/
def AvpHeader.octets (h : AvpHeader) : Octets :=
  bigEndian 4 h.code.toNat ++ flagOctet h.v h.m h.p :: bigEndian 3 h.length ++
    if h.v then bigEndian 4 h.vendor.toNat else []

@[simp] theorem AvpHeader.length_octets (h : AvpHeader) :
    h.octets.length = if h.v then 12 else 8 := by
  cases v : h.v <;> simp [octets, v]

/-- `DiameterAvpHeaderParser::parseAppToRaw`. -/
def writeAvpHeader (avp : DictionaryEntry) (h : AvpHeader) (b : Buffer) : Parse Buffer :=
  if b.remaining < avp.headerLen then raise (.bug .invalidParserUsage)
  else b.write h.octets

section ErrorCode

/-- The example AVP that `DiameterErrorCode::set` builds: a header without a
code, in a buffer of the AVP's minimum size and four octets. -/
def failedAvp (groups : List DiameterGroupedAvp) (avp : DictionaryEntry) : Parse Octets := do
  let size ← getMinSize groups avp
  let avpSize := size % 2 ^ 24
  let h : AvpHeader :=
    { code := 0, v := false, m := false, p := false, length := avpSize, vendor := 0, valueP := 0 }
  let after ← writeAvpHeader avp h
    { memory := List.replicate (avpSize + 4) 0, size := avpSize + 4, wr := 0 }
  return after.memory.take avpSize

/-- `st.set(type, code, avp); throw st`. -/
def raiseWith {α : Type} (groups : List DiameterGroupedAvp) (error : ParseError)
    (avp : DictionaryEntry) : Parse α := do
  let failed ← failedAvp groups avp
  .thrown ⟨error, failed⟩

end ErrorCode

/-- An `AAAMessageBlock` to read from. `base` is the memory from the block's base
to the end of the allocation, which may be longer or shorter than `size`. -/
structure MessageBlock where
  base : Octets
  size : Nat
  rd : Nat
  deriving DecidableEq, Repr

def readOctets (memory : Octets) (start count : Nat) : Parse Octets :=
  if start + count ≤ memory.length then .returned ((memory.drop start).take count) else .fault

theorem length_readOctets {memory octets : Octets} {start count : Nat}
    (read : readOctets memory start count = .returned octets) : octets.length = count := by
  unfold readOctets at read
  split at read
  · cases read
    rw [List.length_take, List.length_drop]
    omega
  · cases read

def readVendor (block : MessageBlock) (cavp : Nat) (v : Bool) : Parse Octets :=
  if v then readOctets block.base (cavp + 8) 4 else .returned []

/-- The body of the loop of `DiameterAvpHeaderList::create` at `cavp`. The code,
the flags and the length are read before anything is checked. -/
def readAvpHeader (block : MessageBlock) (cavp : Nat) : Parse AvpHeader :=
  match readOctets block.base cavp 8 with
  | .returned fixed =>
    let flags := fixed.getD 4 0
    let length := bigEndianValue (fixed.drop 5)
    if length = 0 ∨ block.size - cavp < length then raise (.normal .invalidMessageLength)
    else do
      let vendor ← readVendor block cavp (flags &&& 0x80 ≠ 0)
      return {
        code := UInt32.ofNat (bigEndianValue (fixed.take 4))
        v := flags &&& 0x80 ≠ 0
        m := flags &&& 0x40 ≠ 0
        p := flags &&& 0x20 ≠ 0
        length
        vendor := UInt32.ofNat (bigEndianValue vendor)
        valueP := cavp }
  | .thrown st => .thrown st
  | .escaped => .escaped
  | .fault => .fault

theorem readAvpHeader_returned {block : MessageBlock} {cavp : Nat} {h : AvpHeader}
    (read : readAvpHeader block cavp = .returned h) :
    h.valueP = cavp ∧ 0 < h.length ∧ h.length ≤ block.size - cavp ∧ h.length < 2 ^ 24 := by
  unfold readAvpHeader at read
  split at read
  case h_1 fixed octets =>
    have size := length_readOctets octets
    have small := bigEndianValue_lt (fixed.drop 5)
    rw [List.length_drop, size] at small
    dsimp only at read
    split at read
    · cases read
    case isFalse valid =>
      obtain ⟨vendor, -, made⟩ := Outcome.bind_eq_returned.mp read
      cases made
      dsimp only
      omega
  all_goals cases read

/-- `DiameterAvpHeaderList::create` from the AVP at `cavp` on. -/
def createFrom (block : MessageBlock) (cavp : Nat) : Parse (List AvpHeader) :=
  if cavp < block.size then
    match _read : readAvpHeader block cavp with
    | .returned h => createFrom block (cavp + adjustWordBoundary h.length) >>= fun hs =>
        .returned (h :: hs)
    | .thrown st => .thrown st
    | .escaped => .escaped
    | .fault => .fault
  else .returned []
termination_by block.size - cavp
decreasing_by
  obtain ⟨-, positive, -, small⟩ := readAvpHeader_returned _read
  have advance := le_adjustWordBoundary small
  clear small
  omega

/-- `DiameterAvpHeaderList::create`. -/
def create (block : MessageBlock) : Parse (List AvpHeader) := createFrom block block.rd

theorem createFrom_step (block : MessageBlock) {cavp : Nat} (inside : cavp < block.size) :
    createFrom block cavp = (readAvpHeader block cavp >>= fun h =>
      createFrom block (cavp + adjustWordBoundary h.length) >>= fun hs => .returned (h :: hs)) := by
  rw [createFrom, if_pos inside]
  split
  case h_1 h read => rw [read, Outcome.returned_bind]
  case h_2 st read => rw [read, Outcome.thrown_bind]
  case h_3 read => rw [read, Outcome.escaped_bind]
  case h_4 read => rw [read, Outcome.fault_bind]

theorem createFrom_end (block : MessageBlock) {cavp : Nat} (past : block.size ≤ cavp) :
    createFrom block cavp = .returned [] := by
  rw [createFrom, if_neg (Nat.not_lt_of_le past)]

end OpenDiameter.Parser
