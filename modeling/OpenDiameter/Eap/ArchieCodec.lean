import OpenDiameter.Foundation.Buffer

/-! The four messages of the Archie method on the wire.

Identities and addresses stand in blocks of 256 octets behind a length of one
octet, where 0 stands for all 256. The writers take the octet for the length
itself: an empty address is copied as if it had 256 octets, and what is longer
than the block is cut to a few octets without a word.
-/

set_option autoImplicit false

namespace OpenDiameter.Eap.Archie

open Foundation

abbrev Writer : Type := Buffer → Outcome Int Buffer

section Writing

/-- `*msg->wr_ptr() = ..` and the step behind it. -/
def put (octets : Octets) : Writer := fun msg => msg.write octets

/-- `AAAMessageBlock::copy`; that it returns -1 when there is no room is not looked at. -/
def copy (data : Octets) (count : Nat) : Writer := fun msg =>
  if msg.remaining < count then .returned msg
  else if data.length < count then .fault
  else msg.write (data.take count)

def copyWithPadding (data : Octets) (dataLength blockSize : Nat) : Writer := fun msg => do
  let msg ← copy data (if dataLength ≠ 0 then dataLength else blockSize) msg
  if dataLength ≠ 0 then put (List.replicate (blockSize - dataLength) 0) msg else return msg

def archieMethodType : UInt8 := 100

/-- `EapRequestParser::parseAppToRaw` for a type that is not an extended one. -/
def requestParser : Writer := fun msg => copy [archieMethodType] 1 { msg with wr := 4 }

structure ArchieBinding where
  bType : UInt16
  addrS : Octets
  addrP : Octets
  deriving DecidableEq, Repr

structure ArchieRequest where
  authID : Octets
  sessionID : Octets
  deriving DecidableEq, Repr

structure ArchieResponse where
  sessionID : Octets
  peerID : Octets
  nonceP : Octets
  binding : ArchieBinding
  mac1 : Octets
  deriving DecidableEq, Repr

structure ArchieConfirm where
  sessionID : Octets
  nonceA : Octets
  binding : ArchieBinding
  mac2 : Octets
  deriving DecidableEq, Repr

structure ArchieFinish where
  sessionID : Octets
  mac3 : Octets
  deriving DecidableEq, Repr

def lengthOctet (text : Octets) : UInt8 := UInt8.ofNat text.length

def writeBinding (binding : ArchieBinding) : Writer := fun msg => do
  let msg ← put (bigEndian 2 binding.bType.toNat) msg
  let msg ← put [lengthOctet binding.addrS] msg
  let msg ← put [lengthOctet binding.addrP] msg
  let msg ← copyWithPadding binding.addrS (lengthOctet binding.addrS).toNat 256 msg
  copyWithPadding binding.addrP (lengthOctet binding.addrP).toNat 256 msg

def ArchieRequest.parseAppToRaw (request : ArchieRequest) : Writer := fun msg => do
  let msg ← requestParser msg
  let msg ← put [1] msg
  let msg ← put [0] msg
  if request.authID.length = 0 then Outcome.thrown (-1)
  else do
    let msg ← put [lengthOctet request.authID] msg
    let msg ← copyWithPadding request.authID (lengthOctet request.authID).toNat 256 msg
    copy request.sessionID 32 msg

def ArchieResponse.parseAppToRaw (response : ArchieResponse) : Writer := fun msg => do
  let msg ← requestParser msg
  let msg ← put [2] msg
  let msg ← put [0] msg
  if response.peerID.length = 0 then Outcome.thrown (-1)
  else do
    let msg ← put [lengthOctet response.peerID] msg
    let msg ← copy response.sessionID 32 msg
    let msg ← copyWithPadding response.peerID (lengthOctet response.peerID).toNat 256 msg
    let msg ← copy response.nonceP 40 msg
    let msg ← writeBinding response.binding msg
    copy response.mac1 12 msg

def ArchieConfirm.parseAppToRaw (confirm : ArchieConfirm) : Writer := fun msg => do
  let msg ← requestParser msg
  let msg ← put [3] msg
  let msg ← put [0] msg
  let msg ← put [0] msg
  let msg ← copy confirm.sessionID 32 msg
  let msg ← copy confirm.nonceA 40 msg
  let msg ← writeBinding confirm.binding msg
  copy confirm.mac2 12 msg

def ArchieFinish.parseAppToRaw (finish : ArchieFinish) : Writer := fun msg => do
  let msg ← requestParser msg
  let msg ← put [4] msg
  let msg ← put [0] msg
  let msg ← put [0] msg
  let msg ← copy finish.sessionID 32 msg
  copy finish.mac3 12 msg

end Writing

section Reading

/-- `std::string(msg->rd_ptr(), count)`, and the step over the block. -/
def text (count block : Nat) (rest : Octets) : Outcome Int (Octets × Octets) :=
  if count ≤ rest.length then .returned (rest.take count, rest.drop block) else .fault

def octet (rest : Octets) : Outcome Int (UInt8 × Octets) :=
  match rest with
  | [] => .fault
  | first :: rest => .returned (first, rest)

def fullLength (length : UInt8) : Nat := if length ≠ 0 then length.toNat else 256

def expectMsgID (msgID : UInt8) (step : Nat) (rest : Octets) : Outcome Int Octets := do
  let (found, _) ← octet rest
  if found ≠ msgID then Outcome.thrown (-1) else return rest.drop step

def readBinding (rest : Octets) : Outcome Int (ArchieBinding × Octets) := do
  let (bType, rest) ← text 2 2 rest
  let (sLength, rest) ← octet rest
  let (pLength, rest) ← octet rest
  let (addrS, rest) ← text (fullLength sLength) 256 rest
  let (addrP, rest) ← text (fullLength pLength) 256 rest
  return (⟨UInt16.ofNat (bigEndianValue bType), addrS, addrP⟩, rest)

def ArchieRequest.parseRawToApp (rest : Octets) : Outcome Int ArchieRequest := do
  let rest ← expectMsgID 1 2 rest
  let (naiLength, rest) ← octet rest
  let (authID, rest) ← text (fullLength naiLength) 256 rest
  let (sessionID, _) ← text 32 32 rest
  return ⟨authID, sessionID⟩

def ArchieResponse.parseRawToApp (rest : Octets) : Outcome Int ArchieResponse := do
  let rest ← expectMsgID 2 2 rest
  let (naiLength, rest) ← octet rest
  let (sessionID, rest) ← text 32 32 rest
  let (peerID, rest) ← text (fullLength naiLength) 256 rest
  let (nonceP, rest) ← text 40 40 rest
  let (binding, rest) ← readBinding rest
  let (mac1, _) ← text 12 12 rest
  return ⟨sessionID, peerID, nonceP, binding, mac1⟩

def ArchieConfirm.parseRawToApp (rest : Octets) : Outcome Int ArchieConfirm := do
  let rest ← expectMsgID 3 3 rest
  let (sessionID, rest) ← text 32 32 rest
  let (nonceA, rest) ← text 40 40 rest
  let (binding, rest) ← readBinding rest
  let (mac2, _) ← text 12 12 rest
  return ⟨sessionID, nonceA, binding, mac2⟩

def ArchieFinish.parseRawToApp (rest : Octets) : Outcome Int ArchieFinish := do
  let rest ← expectMsgID 4 3 rest
  let (sessionID, rest) ← text 32 32 rest
  let (mac3, _) ← text 12 12 rest
  return ⟨sessionID, mac3⟩

end Reading

section Stages

def stage (written rest : Octets) : Buffer := ⟨written ++ rest, written.length + rest.length, written.length⟩

def Writes (writer : Writer) (octets : Octets) : Prop :=
  ∀ written rest : Octets, octets.length ≤ rest.length → written.length + rest.length < 2 ^ 64 →
    writer (stage written rest) = .returned (stage (written ++ octets) (rest.drop octets.length))

def Faults (writer : Writer) (room : Nat) : Prop :=
  ∀ written rest : Octets, room ≤ rest.length → written.length + rest.length < 2 ^ 64 →
    writer (stage written rest) = .fault

variable {writer next : Writer} {first second : Octets} {room : Nat}

theorem remaining_stage {written rest : Octets} (small : written.length + rest.length < 2 ^ 64) :
    (stage written rest).remaining = rest.length := by
  rw [Buffer.remaining_eq (Nat.le_add_right _ _) small]
  exact Nat.add_sub_cancel_left _ _

theorem Writes.bind (before : Writes writer first) (behind : Writes next second) :
    Writes (fun msg => writer msg >>= next) (first ++ second) := by
  intro written rest room small
  rw [List.length_append] at room
  have moved : (written ++ first).length + (rest.drop first.length).length = written.length + rest.length := by
    rw [List.length_append, List.length_drop]
    omega
  have later := behind (written ++ first) (rest.drop first.length) (by rw [List.length_drop]; omega)
    (by rw [moved]; exact small)
  rw [List.append_assoc, List.drop_drop, ← List.length_append] at later
  have earlier := before written rest (by omega) small
  simp only [earlier, Outcome.returned_bind, later]

theorem Writes.faults (before : Writes writer first) (behind : Faults next room) :
    Faults (fun msg => writer msg >>= next) (first.length + room) := by
  intro written rest room small
  have moved : (written ++ first).length + (rest.drop first.length).length = written.length + rest.length := by
    rw [List.length_append, List.length_drop]
    omega
  have later := behind (written ++ first) (rest.drop first.length) (by rw [List.length_drop]; omega)
    (by rw [moved]; exact small)
  have earlier := before written rest (by omega) small
  simp only [earlier, Outcome.returned_bind, later]

theorem Faults.bind (before : Faults writer room) (next : Writer) : Faults (fun msg => writer msg >>= next) room := by
  intro written rest enough small
  simp only [before written rest enough small, Outcome.fault_bind]

theorem writes_put (octets : Octets) : Writes (put octets) octets := by
  intro written rest room small
  have inside : (stage written rest).wr + octets.length ≤ (stage written rest).memory.length := by
    simp only [stage, List.length_append]
    omega
  have memory : splice (written ++ rest) written.length octets = written ++ octets ++ rest.drop octets.length := by
    rw [splice, List.take_left, ← List.drop_drop, List.drop_left]
  have size : (written ++ octets).length + (rest.drop octets.length).length = written.length + rest.length := by
    rw [List.length_append, List.length_drop]
    omega
  rw [put, Buffer.write, if_pos inside, stage, stage, memory, size, List.length_append]

theorem writes_copy {data : Octets} {count : Nat} (enough : count ≤ data.length) :
    Writes (copy data count) (data.take count) := by
  intro written rest room small
  have taken : (data.take count).length = count := by
    rw [List.length_take, Nat.min_eq_left enough]
  have fits : ¬(stage written rest).remaining < count := by
    rw [remaining_stage small]
    omega
  rw [copy, if_neg fits, if_neg (Nat.not_lt.mpr enough)]
  exact writes_put _ written rest room small

theorem writes_copy_all {data : Octets} {count : Nat} (size : data.length = count) :
    Writes (copy data count) data := by
  have all := writes_copy (Nat.le_of_eq size.symm)
  rw [← size, List.take_length] at all
  rw [← size]
  exact all

theorem faults_copy {data : Octets} {count : Nat} (short : data.length < count) : Faults (copy data count) count := by
  intro written rest room small
  have fits : ¬(stage written rest).remaining < count := by
    rw [remaining_stage small]
    omega
  rw [copy, if_neg fits, if_pos short]

def padded (data : Octets) : Octets := data ++ List.replicate (256 - data.length) 0

theorem length_padded {data : Octets} (fits : data.length ≤ 256) : (padded data).length = 256 := by
  rw [padded, List.length_append, List.length_replicate]
  omega

theorem lengthOctet_eq {data : Octets} (short : data.length < 256) : (lengthOctet data).toNat = data.length := by
  rw [lengthOctet, UInt8.toNat_ofNat', Nat.mod_eq_of_lt short]

theorem writes_copyWithPadding {data : Octets} (some_octets : data ≠ []) (fits : data.length ≤ 256) :
    Writes (copyWithPadding data (lengthOctet data).toNat 256) (padded data) := by
  have positive : 0 < data.length := List.length_pos_iff.mpr some_octets
  rcases Nat.lt_or_eq_of_le fits with short | full
  · have nonzero : (lengthOctet data).toNat ≠ 0 := by
      rw [lengthOctet_eq short]
      omega
    have whole : Writes (copy data data.length) data := writes_copy_all rfl
    have both := whole.bind (writes_put (List.replicate (256 - data.length) 0))
    unfold copyWithPadding
    simp only [if_pos nonzero]
    rw [lengthOctet_eq short]
    exact both
  · have zero : (lengthOctet data).toNat = 0 := by
      rw [lengthOctet, full]
      rfl
    have unpadded : padded data = data := by
      rw [padded, full]
      exact List.append_nil data
    unfold copyWithPadding
    simp only [zero, ne_eq, not_true_eq_false, if_false]
    rw [unpadded]
    intro written rest room small
    have copied := writes_copy_all full written rest room small
    simp only [copied, Outcome.returned_bind, Outcome.pure_eq]

theorem faults_copyWithPadding : Faults (copyWithPadding [] (lengthOctet []).toNat 256) 256 := by
  have short : Faults (copy [] 256) 256 := faults_copy (by decide)
  exact short.bind _

def bindingOctets (binding : ArchieBinding) : Octets :=
  bigEndian 2 binding.bType.toNat ++ ([lengthOctet binding.addrS] ++ ([lengthOctet binding.addrP] ++
    (padded binding.addrS ++ padded binding.addrP)))

/-- Both addresses are there, and fit into their blocks. -/
structure ArchieBinding.Addressed (binding : ArchieBinding) : Prop where
  addrS : 1 ≤ binding.addrS.length ∧ binding.addrS.length ≤ 256
  addrP : 1 ≤ binding.addrP.length ∧ binding.addrP.length ≤ 256

theorem writes_binding {binding : ArchieBinding} (addressed : binding.Addressed) :
    Writes (writeBinding binding) (bindingOctets binding) := by
  have addrS := writes_copyWithPadding (List.length_pos_iff.mp addressed.addrS.1) addressed.addrS.2
  have addrP := writes_copyWithPadding (List.length_pos_iff.mp addressed.addrP.1) addressed.addrP.2
  exact (writes_put _).bind ((writes_put _).bind ((writes_put _).bind (addrS.bind addrP)))

theorem faults_binding {binding : ArchieBinding} (addrS : binding.addrS.length ≤ 256)
    (empty : binding.addrS = [] ∨ binding.addrP = []) : Faults (writeBinding binding) 516 := by
  have head {room : Nat} {next : Writer} (behind : Faults next room) := (writes_put (bigEndian 2 binding.bType.toNat)).faults
    ((writes_put [lengthOctet binding.addrS]).faults ((writes_put [lengthOctet binding.addrP]).faults behind))
  have weaken {writer : Writer} {room : Nat} (faults : Faults writer room) (more : room ≤ 516) : Faults writer 516 :=
    fun written rest enough small => faults written rest (Nat.le_trans more enough) small
  by_cases first : binding.addrS = []
  · have addresses : Faults (fun msg => copyWithPadding binding.addrS (lengthOctet binding.addrS).toNat 256 msg >>=
        copyWithPadding binding.addrP (lengthOctet binding.addrP).toNat 256) 256 := by
      rw [first]
      exact faults_copyWithPadding.bind _
    exact weaken (head addresses) (by simp)
  · have addresses : Faults (fun msg => copyWithPadding binding.addrS (lengthOctet binding.addrS).toNat 256 msg >>=
        copyWithPadding binding.addrP (lengthOctet binding.addrP).toNat 256) ((padded binding.addrS).length + 256) := by
      rw [empty.resolve_left first]
      exact (writes_copyWithPadding first addrS).faults faults_copyWithPadding
    rw [length_padded addrS] at addresses
    exact weaken (head addresses) (by simp)

theorem stage_zeros {size : Nat} (enough : 4 ≤ size) :
    stage (List.replicate 4 0) (List.replicate (size - 4) 0) = ⟨List.replicate size 0, size, 4⟩ := by
  have sum : 4 + (size - 4) = size := Nat.add_sub_cancel' enough
  rw [stage, List.replicate_append_replicate, List.length_replicate, List.length_replicate, sum]

theorem requestParser_writes {size : Nat} (behind : Writes next second) (room : 5 + second.length = size)
    (small : size < 2 ^ 64) :
    (requestParser ⟨List.replicate size 0, size, 0⟩ >>= next) =
      .returned ⟨List.replicate 4 0 ++ ([archieMethodType] ++ second), size, size⟩ := by
  have type : Writes (copy [archieMethodType] 1) [archieMethodType] := writes_copy_all rfl
  have all := type.bind behind (List.replicate 4 0)
    (List.replicate (size - 4) 0)
    (by simp only [List.length_append, List.length_singleton, List.length_replicate]; omega)
    (by simp only [List.length_replicate]; omega)
  rw [stage_zeros (by omega)] at all
  refine all.trans ?_
  have full : (List.replicate (size - 4) (0 : UInt8)).drop ([archieMethodType] ++ second).length = [] :=
    List.drop_eq_nil_of_le (by simp only [List.length_append, List.length_singleton, List.length_replicate]; omega)
  have length : (List.replicate 4 0 ++ ([archieMethodType] ++ second)).length = size := by
    simp only [List.length_append, List.length_singleton, List.length_replicate]
    omega
  rw [full, stage, List.append_nil, length]
  rfl

theorem requestParser_faults {size : Nat} (behind : Faults next room) (enough : 5 + room ≤ size)
    (small : size < 2 ^ 64) : (requestParser ⟨List.replicate size 0, size, 0⟩ >>= next) = .fault := by
  have type : Writes (copy [archieMethodType] 1) [archieMethodType] := writes_copy_all rfl
  have all := type.faults behind (List.replicate 4 0)
    (List.replicate (size - 4) 0)
    (by simp only [List.length_singleton, List.length_replicate]; omega)
    (by simp only [List.length_replicate]; omega)
  rw [stage_zeros (by omega)] at all
  exact all

end Stages

section Readers

variable {data tail : Octets}

theorem text_append {field : Octets} {count block : Nat} (size : block = field.length)
    (inside : count ≤ field.length) : text count block (field ++ tail) = .returned (field.take count, tail) := by
  have enough : count ≤ (field ++ tail).length := by
    rw [List.length_append]
    omega
  rw [text, if_pos enough, List.take_append_of_le_length inside, size, List.drop_left]

theorem text_all (tail : Octets) {count : Nat} (size : data.length = count) :
    text count count (data ++ tail) = .returned (data, tail) := by
  rw [text_append size.symm (Nat.le_of_eq size.symm), ← size, List.take_length]

theorem fullLength_lengthOctet (some_octets : data ≠ []) (fits : data.length ≤ 256) :
    fullLength (lengthOctet data) = data.length := by
  have positive : 0 < data.length := List.length_pos_iff.mpr some_octets
  rcases Nat.lt_or_eq_of_le fits with short | full
  · have nonzero : lengthOctet data ≠ 0 := by
      intro zero
      have same := lengthOctet_eq short
      rw [zero] at same
      have none_left : (0 : UInt8).toNat = 0 := rfl
      omega
    rw [fullLength, if_pos nonzero, lengthOctet_eq short]
  · have zero : lengthOctet data = 0 := by
      rw [lengthOctet, full]
      rfl
    rw [fullLength, zero, full]
    rfl

theorem text_padded (tail : Octets) (some_octets : data ≠ []) (fits : data.length ≤ 256) :
    text (fullLength (lengthOctet data)) 256 (padded data ++ tail) = .returned (data, tail) := by
  have size := length_padded fits
  rw [fullLength_lengthOctet some_octets fits, text_append size.symm (by omega), padded, List.take_left]

@[simp] theorem octet_cons (first : UInt8) (rest : Octets) : octet ([first] ++ rest) = .returned (first, rest) := rfl

theorem readBinding_eq (tail : Octets) {binding : ArchieBinding} (addressed : binding.Addressed) :
    readBinding (bindingOctets binding ++ tail) = .returned (binding, tail) := by
  have bType : bigEndianValue (bigEndian 2 binding.bType.toNat) = binding.bType.toNat :=
    bigEndianValue_bigEndian_of_lt binding.bType.toNat_lt
  have addrS := fun rest => text_padded rest (List.length_pos_iff.mp addressed.addrS.1) addressed.addrS.2
  have addrP := fun rest => text_padded rest (List.length_pos_iff.mp addressed.addrP.1) addressed.addrP.2
  have type := fun rest => text_all rest (length_bigEndian 2 binding.bType.toNat)
  simp only [readBinding, bindingOctets, List.append_assoc, type, octet_cons, addrS, addrP, bType,
    Outcome.returned_bind, Outcome.pure_eq, UInt16.ofNat_toNat]

end Readers

section Messages

inductive ArchieMessage where
  | request (message : ArchieRequest)
  | response (message : ArchieResponse)
  | confirm (message : ArchieConfirm)
  | finish (message : ArchieFinish)
  deriving DecidableEq, Repr

namespace ArchieMessage

def encode : ArchieMessage → Writer
  | request message => message.parseAppToRaw
  | response message => message.parseAppToRaw
  | confirm message => message.parseAppToRaw
  | finish message => message.parseAppToRaw

/-- The sizes that the state machines acquire. -/
def size : ArchieMessage → Nat
  | request _ => 8 + 256 + 32
  | response _ => 8 + 32 + 256 + 40 + 516 + 12
  | confirm _ => 8 + 32 + 40 + 516 + 12
  | finish _ => 8 + 32 + 12

def DecodedFrom (rest : Octets) : ArchieMessage → Prop
  | request message => ArchieRequest.parseRawToApp rest = .returned message
  | response message => ArchieResponse.parseRawToApp rest = .returned message
  | confirm message => ArchieConfirm.parseRawToApp rest = .returned message
  | finish message => ArchieFinish.parseRawToApp rest = .returned message

def identity? : ArchieMessage → Option Octets
  | request message => some message.authID
  | response message => some message.peerID
  | confirm _ => none
  | finish _ => none

def binding? : ArchieMessage → Option ArchieBinding
  | request _ => none
  | response message => some message.binding
  | confirm message => some message.binding
  | finish _ => none

def WellFormed : ArchieMessage → Prop
  | request message => message.authID ≠ [] ∧ message.sessionID.length = 32
  | response message => message.peerID ≠ [] ∧ message.sessionID.length = 32 ∧
      message.nonceP.length = 40 ∧ message.mac1.length = 12
  | confirm message => message.sessionID.length = 32 ∧ message.nonceA.length = 40 ∧ message.mac2.length = 12
  | finish message => message.sessionID.length = 32 ∧ message.mac3.length = 12

/-- Identity and addresses fit into their blocks. -/
structure Within (m : ArchieMessage) : Prop where
  identity : ∀ identity, m.identity? = some identity → identity.length ≤ 256
  addrS : ∀ binding, m.binding? = some binding → binding.addrS.length ≤ 256
  addrP : ∀ binding, m.binding? = some binding → binding.addrP.length ≤ 256

def zeroed (m : ArchieMessage) : Buffer := ⟨List.replicate m.size 0, m.size, 0⟩

/-- The message is written over the whole block, and read back. -/
def RoundTrips (m : ArchieMessage) : Prop :=
  ∃ msg, m.encode m.zeroed = .returned msg ∧ msg.wr = m.size ∧ m.DecodedFrom (msg.memory.drop 5)

structure Faithful (m : ArchieMessage) : Prop where
  round_trip : m.Within → m.RoundTrips
  rejects : ¬m.Within → ∃ error, m.encode m.zeroed = .thrown error

def octets : ArchieMessage → Octets
  | request message => [1] ++ ([0] ++ ([lengthOctet message.authID] ++ (padded message.authID ++ message.sessionID)))
  | response message => [2] ++ ([0] ++ ([lengthOctet message.peerID] ++ (message.sessionID ++
      (padded message.peerID ++ (message.nonceP ++ (bindingOctets message.binding ++ message.mac1))))))
  | confirm message => [3] ++ ([0] ++ ([0] ++ (message.sessionID ++
      (message.nonceA ++ (bindingOctets message.binding ++ message.mac2)))))
  | finish message => [4] ++ ([0] ++ ([0] ++ (message.sessionID ++ message.mac3)))

structure Addressed (m : ArchieMessage) : Prop where
  identity : ∀ identity, m.identity? = some identity → identity.length ≤ 256
  binding : ∀ binding, m.binding? = some binding → binding.Addressed

theorem Addressed.within {m : ArchieMessage} (addressed : m.Addressed) : m.Within :=
  ⟨addressed.identity, fun binding present => (addressed.binding binding present).addrS.2,
    fun binding present => (addressed.binding binding present).addrP.2⟩

theorem length_bindingOctets {binding : ArchieBinding} (addressed : binding.Addressed) :
    (bindingOctets binding).length = 516 := by
  simp [bindingOctets, length_padded addressed.addrS.2, length_padded addressed.addrP.2]

theorem length_octets {m : ArchieMessage} (wellFormed : m.WellFormed) (addressed : m.Addressed) :
    5 + m.octets.length = m.size := by
  cases m with
  | request message =>
    have identity := length_padded (addressed.identity _ rfl)
    simp only [octets, size, List.length_append, List.length_singleton, identity, wellFormed.2]
  | response message =>
    obtain ⟨-, session, nonce, mac⟩ := wellFormed
    have identity := length_padded (addressed.identity _ rfl)
    have binding := length_bindingOctets (addressed.binding _ rfl)
    simp only [octets, size, List.length_append, List.length_singleton, identity, binding, session, nonce, mac]
  | confirm message =>
    obtain ⟨session, nonce, mac⟩ := wellFormed
    have binding := length_bindingOctets (addressed.binding _ rfl)
    simp only [octets, size, List.length_append, List.length_singleton, binding, session, nonce, mac]
  | finish message =>
    simp only [octets, size, List.length_append, List.length_singleton, wellFormed.1, wellFormed.2]

theorem size_lt (m : ArchieMessage) : m.size < 2 ^ 64 := by
  cases m <;> simp [size]

theorem encode_eq {m : ArchieMessage} (wellFormed : m.WellFormed) (addressed : m.Addressed) :
    m.encode m.zeroed =
      .returned ⟨List.replicate 4 0 ++ ([archieMethodType] ++ m.octets), m.size, m.size⟩ := by
  have room := length_octets wellFormed addressed
  have small := m.size_lt
  cases m with
  | request message =>
    have some_octets : ¬message.authID.length = 0 := fun empty => wellFormed.1 (List.eq_nil_of_length_eq_zero empty)
    have identity := writes_copyWithPadding wellFormed.1 (addressed.identity _ rfl)
    have behind := (writes_put [1]).bind ((writes_put [0]).bind ((writes_put [lengthOctet message.authID]).bind
      (identity.bind (writes_copy_all wellFormed.2))))
    simp only [encode, ArchieRequest.parseAppToRaw, if_neg some_octets]
    exact requestParser_writes behind room small
  | response message =>
    obtain ⟨nonempty, session, nonce, mac⟩ := wellFormed
    have some_octets : ¬message.peerID.length = 0 := fun empty => nonempty (List.eq_nil_of_length_eq_zero empty)
    have identity := writes_copyWithPadding nonempty (addressed.identity _ rfl)
    have binding := writes_binding (addressed.binding _ rfl)
    have behind := (writes_put [2]).bind ((writes_put [0]).bind ((writes_put [lengthOctet message.peerID]).bind
      ((writes_copy_all session).bind (identity.bind ((writes_copy_all nonce).bind
        (binding.bind (writes_copy_all mac)))))))
    simp only [encode, ArchieResponse.parseAppToRaw, if_neg some_octets]
    exact requestParser_writes behind room small
  | confirm message =>
    obtain ⟨session, nonce, mac⟩ := wellFormed
    have binding := writes_binding (addressed.binding _ rfl)
    have behind := (writes_put [3]).bind ((writes_put [0]).bind ((writes_put [0]).bind
      ((writes_copy_all session).bind ((writes_copy_all nonce).bind (binding.bind (writes_copy_all mac))))))
    exact requestParser_writes behind room small
  | finish message =>
    have behind := (writes_put [4]).bind ((writes_put [0]).bind ((writes_put [0]).bind
      ((writes_copy_all wellFormed.1).bind (writes_copy_all wellFormed.2))))
    exact requestParser_writes behind room small

theorem decodedFrom_octets {m : ArchieMessage} (wellFormed : m.WellFormed) (addressed : m.Addressed) :
    m.DecodedFrom m.octets := by
  have last {data : Octets} {count : Nat} (size : data.length = count) : text count count data = .returned (data, []) := by
    have all := text_all [] size
    rw [List.append_nil] at all
    exact all
  cases m with
  | request message =>
    have identity := fun rest => text_padded rest wellFormed.1 (addressed.identity _ rfl)
    simp [DecodedFrom, ArchieRequest.parseRawToApp, octets, expectMsgID, octet, identity, last wellFormed.2]
  | response message =>
    obtain ⟨nonempty, session, nonce, mac⟩ := wellFormed
    have identity := fun rest => text_padded rest nonempty (addressed.identity _ rfl)
    have sessions := fun rest => text_all rest session
    have nonces := fun rest => text_all rest nonce
    have binding := fun rest => readBinding_eq rest (addressed.binding _ rfl)
    simp [DecodedFrom, ArchieResponse.parseRawToApp, octets, expectMsgID, octet, identity, sessions, nonces,
      binding, last mac]
  | confirm message =>
    obtain ⟨session, nonce, mac⟩ := wellFormed
    have sessions := fun rest => text_all rest session
    have nonces := fun rest => text_all rest nonce
    have binding := fun rest => readBinding_eq rest (addressed.binding _ rfl)
    simp [DecodedFrom, ArchieConfirm.parseRawToApp, octets, expectMsgID, octet, sessions, nonces, binding, last mac]
  | finish message =>
    have sessions := fun rest => text_all rest wellFormed.1
    simp [DecodedFrom, ArchieFinish.parseRawToApp, octets, expectMsgID, octet, sessions, last wellFormed.2]

theorem roundTrips {m : ArchieMessage} (wellFormed : m.WellFormed) (addressed : m.Addressed) : m.RoundTrips := by
  refine ⟨_, encode_eq wellFormed addressed, rfl, ?_⟩
  have behind : (List.replicate 4 0 ++ ([archieMethodType] ++ m.octets)).drop 5 = m.octets := rfl
  rw [behind]
  exact decodedFrom_octets wellFormed addressed

theorem encode_faults {m : ArchieMessage} (wellFormed : m.WellFormed) (within : m.Within)
    {binding : ArchieBinding} (present : m.binding? = some binding)
    (empty : binding.addrS = [] ∨ binding.addrP = []) : m.encode m.zeroed = .fault := by
  have small := m.size_lt
  have faults := faults_binding (within.addrS _ present) empty
  cases m with
  | request message => cases present
  | response message =>
    cases present
    obtain ⟨nonempty, session, nonce, -⟩ := wellFormed
    have some_octets : ¬message.peerID.length = 0 := fun none_left => nonempty (List.eq_nil_of_length_eq_zero none_left)
    have fits := within.identity _ rfl
    have identity := writes_copyWithPadding nonempty fits
    have behind := (writes_put [2]).faults ((writes_put [0]).faults ((writes_put [lengthOctet message.peerID]).faults
      ((writes_copy_all session).faults (identity.faults ((writes_copy_all nonce).faults
        (faults.bind (copy message.mac1 12)))))))
    simp only [encode, ArchieResponse.parseAppToRaw, if_neg some_octets]
    refine requestParser_faults behind ?_ small
    simp only [size, List.length_singleton, session, nonce, length_padded fits]
    omega
  | confirm message =>
    cases present
    obtain ⟨session, nonce, -⟩ := wellFormed
    have behind := (writes_put [3]).faults ((writes_put [0]).faults ((writes_put [0]).faults
      ((writes_copy_all session).faults ((writes_copy_all nonce).faults
        (faults.bind (copy message.mac2 12))))))
    refine requestParser_faults behind ?_ small
    simp only [size, List.length_singleton, session, nonce]
    omega
  | finish message => cases present

end ArchieMessage

section Throwing

def Tacit (writer : Writer) : Prop := ∀ msg error, writer msg ≠ .thrown error

variable {writer next : Writer}

theorem Tacit.bind (before : Tacit writer) (behind : Tacit next) : Tacit (fun msg => writer msg >>= next) := by
  intro msg error threw
  cases wrote : writer msg with
  | returned msg' =>
    simp only [wrote, Outcome.returned_bind] at threw
    exact behind msg' error threw
  | thrown error' => exact before msg error' wrote
  | escaped => simp [wrote] at threw
  | fault => simp [wrote] at threw

theorem tacit_put (octets : Octets) : Tacit (put octets) := by
  intro msg error threw
  unfold put Buffer.write at threw
  split at threw
  case isTrue => cases threw
  case isFalse => cases threw

theorem tacit_copy (data : Octets) (count : Nat) : Tacit (copy data count) := by
  intro msg error threw
  unfold copy at threw
  split at threw
  case isTrue => cases threw
  case isFalse =>
    split at threw
    case isTrue => cases threw
    case isFalse => exact tacit_put _ _ _ threw

theorem tacit_copyWithPadding (data : Octets) (dataLength blockSize : Nat) :
    Tacit (copyWithPadding data dataLength blockSize) := by
  refine (tacit_copy _ _).bind ?_
  by_cases nonzero : dataLength ≠ 0
  · simp only [if_pos nonzero]
    exact tacit_put _
  · simp only [if_neg nonzero]
    intro msg error threw
    cases threw

theorem tacit_writeBinding (binding : ArchieBinding) : Tacit (writeBinding binding) :=
  (tacit_put _).bind ((tacit_put _).bind ((tacit_put _).bind
    ((tacit_copyWithPadding _ _ _).bind (tacit_copyWithPadding _ _ _))))

theorem tacit_requestParser : Tacit requestParser := fun _ => tacit_copy _ _ _

theorem ArchieMessage.tacit_encode {m : ArchieMessage} (wellFormed : m.WellFormed) : Tacit m.encode := by
  cases m with
  | request message =>
    have some_octets : ¬message.authID.length = 0 := fun empty => wellFormed.1 (List.eq_nil_of_length_eq_zero empty)
    unfold encode ArchieRequest.parseAppToRaw
    simp only [if_neg some_octets]
    exact tacit_requestParser.bind ((tacit_put _).bind ((tacit_put _).bind ((tacit_put _).bind
      ((tacit_copyWithPadding _ _ _).bind (tacit_copy _ _)))))
  | response message =>
    have some_octets : ¬message.peerID.length = 0 := fun empty => wellFormed.1 (List.eq_nil_of_length_eq_zero empty)
    unfold encode ArchieResponse.parseAppToRaw
    simp only [if_neg some_octets]
    exact tacit_requestParser.bind ((tacit_put _).bind ((tacit_put _).bind ((tacit_put _).bind ((tacit_copy _ _).bind
      ((tacit_copyWithPadding _ _ _).bind ((tacit_copy _ _).bind ((tacit_writeBinding _).bind (tacit_copy _ _))))))))
  | confirm message =>
    exact tacit_requestParser.bind ((tacit_put _).bind ((tacit_put _).bind ((tacit_put _).bind ((tacit_copy _ _).bind
      ((tacit_copy _ _).bind ((tacit_writeBinding _).bind (tacit_copy _ _)))))))
  | finish message =>
    exact tacit_requestParser.bind ((tacit_put _).bind ((tacit_put _).bind ((tacit_put _).bind
      ((tacit_copy _ _).bind (tacit_copy _ _)))))

end Throwing

section Result

namespace ArchieMessage

theorem faithful_iff (m : ArchieMessage) (wellFormed : m.WellFormed) : m.Faithful ↔ m.Addressed := by
  constructor
  · intro faithful
    by_cases within : m.Within
    · obtain ⟨msg, encoded, -⟩ := faithful.round_trip within
      have nonempty (binding : ArchieBinding) (present : m.binding? = some binding) :
          ¬(binding.addrS = [] ∨ binding.addrP = []) := by
        intro empty
        rw [encode_faults wellFormed within present empty] at encoded
        cases encoded
      refine ⟨within.identity, fun binding present => ⟨⟨?_, within.addrS binding present⟩,
        ⟨?_, within.addrP binding present⟩⟩⟩
      · exact List.length_pos_iff.mpr fun empty => nonempty binding present (.inl empty)
      · exact List.length_pos_iff.mpr fun empty => nonempty binding present (.inr empty)
    · obtain ⟨error, threw⟩ := faithful.rejects within
      exact absurd threw (tacit_encode wellFormed _ _)
  · intro addressed
    exact ⟨fun _ => roundTrips wellFormed addressed, fun outside => absurd addressed.within outside⟩

def sample : ArchieMessage :=
  .confirm ⟨List.replicate 32 1, List.replicate 40 2, ⟨1, [10, 0, 0, 1], [10, 0, 0, 2]⟩, List.replicate 12 3⟩

def unaddressed : ArchieMessage :=
  .confirm ⟨List.replicate 32 1, List.replicate 40 2, ⟨0, [], []⟩, List.replicate 12 3⟩

theorem faithful_iff_sample : sample.Faithful := by
  refine (faithful_iff sample ⟨rfl, rfl, rfl⟩).mpr ⟨fun identity present => (nomatch present), ?_⟩
  intro binding present
  cases present
  exact ⟨by decide, by decide⟩

theorem not_faithful_unaddressed : ¬unaddressed.Faithful := by
  intro faithful
  have within : unaddressed.Within := by
    refine ⟨fun identity present => (nomatch present), ?_, ?_⟩
    all_goals
      intro binding present
      cases present
      decide
  obtain ⟨msg, encoded, -⟩ := faithful.round_trip within
  have wellFormed : unaddressed.WellFormed := ⟨rfl, rfl, rfl⟩
  rw [encode_faults wellFormed within rfl (.inl rfl)] at encoded
  cases encoded

end ArchieMessage

end Result

end Messages

end OpenDiameter.Eap.Archie
