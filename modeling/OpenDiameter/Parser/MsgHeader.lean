import OpenDiameter.Parser.Decode

/-! The Diameter message header: twenty octets, checked against the commands of
the dictionary.
-/

set_option autoImplicit false

namespace OpenDiameter.Parser

open Foundation

/-- `DiameterCommand`: the rule lists of a command and the flags that are checked. -/
structure DiameterCommand where
  code : UInt32
  appId : UInt32
  r : Bool
  p : Bool
  dict : DiameterDictionary
  deriving DecidableEq, Repr

/-- `DIAMETER_HEADER_SIZE`. -/
def headerSize : Nat := 20

structure MsgHeader where
  ver : UInt8
  length : Nat
  r : Bool
  p : Bool
  e : Bool
  t : Bool
  code : UInt32
  appId : UInt32
  hh : UInt32
  ee : UInt32
  dictHandle : Option DiameterCommand
  deriving DecidableEq, Repr

def MsgHeader.blank : MsgHeader :=
  ⟨0, 0, false, false, false, false, 0, 0, 0, 0, none⟩

/-- `DiameterCommandList::search`. -/
def searchCommand (commands : List DiameterCommand) (code appId : UInt32) (r : Bool) :
    Option DiameterCommand :=
  commands.find? fun com => com.code == code && com.appId == appId && com.r == r

section Reading

/-- A field of the header in network byte order. -/
def word (octets : Octets) (start count : Nat) : Nat := bigEndianValue ((octets.drop start).take count)

/-- The fields that `DiameterMsgHeaderParser::parseRawToApp` fills in before it
checks anything. -/
def readMsgHeader (octets : Octets) : MsgHeader where
  ver := octets.getD 0 0
  length := word octets 1 3
  r := octets.getD 4 0 &&& 0x80 ≠ 0
  p := octets.getD 4 0 &&& 0x40 ≠ 0
  e := octets.getD 4 0 &&& 0x20 ≠ 0
  t := octets.getD 4 0 &&& 0x10 ≠ 0
  code := UInt32.ofNat (word octets 5 3)
  appId := UInt32.ofNat (word octets 8 4)
  hh := UInt32.ofNat (word octets 12 4)
  ee := UInt32.ofNat (word octets 16 4)
  dictHandle := none

def checkMsgHeader (commands : List DiameterCommand) (h : MsgHeader) :
    Except ParseError DiameterCommand :=
  match searchCommand commands h.code h.appId h.r with
  | none => .error (.normal .commandUnsupported)
  | some com =>
    if com.p = false ∧ h.p = true then .error (.normal .invalidBitInHeader) else .ok com

/-- `DiameterMsgHeaderParser::parseRawToApp`: the header and what it throws. -/
def parseMsgHeader (commands : List DiameterCommand) (base : Octets) : MsgHeader × Option ParseError :=
  let h := readMsgHeader (base.take headerSize)
  match checkMsgHeader commands h with
  | .ok com => ({ h with dictHandle := some com }, none)
  | .error error => (h, some error)

theorem word_lt (octets : Octets) (start count : Nat) : word octets start count < 256 ^ count := by
  have size : ((octets.drop start).take count).length ≤ count := by
    rw [List.length_take]
    exact Nat.min_le_left _ _
  exact Nat.lt_of_lt_of_le (bigEndianValue_lt _) (Nat.pow_le_pow_right (by decide) size)

theorem parseMsgHeader_congr (commands : List DiameterCommand) {base base' : Octets}
    (same : base.take headerSize = base'.take headerSize) :
    parseMsgHeader commands base = parseMsgHeader commands base' := by
  unfold parseMsgHeader
  rw [same]

end Reading

section Writing

/-- The octets `DiameterMsgHeaderParser::parseAppToRaw` writes. -/
def MsgHeader.octets (h : MsgHeader) : Octets :=
  h.ver :: bigEndian 3 h.length ++
    ((if h.r then 0x80 else 0) ||| (if h.p then 0x40 else 0) ||| (if h.e then 0x20 else 0) |||
      (if h.t then 0x10 else 0)) :: bigEndian 3 h.code.toNat ++
    bigEndian 4 h.appId.toNat ++ bigEndian 4 h.hh.toNat ++ bigEndian 4 h.ee.toNat

@[simp] theorem MsgHeader.length_octets (h : MsgHeader) : h.octets.length = headerSize := by
  simp [octets, headerSize]

/-- `DiameterMsgHeaderParser::parseAppToRaw`: the octets go to the base of the
buffer, whose size is not asked for. -/
def writeMsgHeader (commands : List DiameterCommand) (h : MsgHeader) (b : Buffer) :
    Parse (MsgHeader × Buffer) :=
  match searchCommand commands h.code h.appId h.r with
  | none => raise (.normal .commandUnsupported)
  | some com =>
    if com.r = true ∧ h.e = true then raise (.normal .invalidHdrBits)
    else
      { b with wr := 0 }.write h.octets >>= fun after =>
        .returned ({ h with dictHandle := some com }, after)

end Writing

end OpenDiameter.Parser
