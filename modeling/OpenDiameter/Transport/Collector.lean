import OpenDiameter.Foundation.Machine
import OpenDiameter.Parser.MsgHeader

/-! `DiameterRxMsgCollector`: cuts the octets of a connection into messages.

The two nested loops of `Message` are one loop over states that say which of them
is at its test. What a call keeps in local variables, the data that is left and
the header error, does not survive it.
-/

set_option autoImplicit false

namespace OpenDiameter.Transport

open Foundation OpenDiameter.Parser

structure RangedValue where
  level : Nat
  low : Nat
  high : Nat
  deriving DecidableEq, Repr

/-- `operator++`. -/
def RangedValue.increment (v : RangedValue) : RangedValue × Bool :=
  ({ v with level := v.level + 1 }, v.high < v.level + 1)

def RangedValue.inRange (v : RangedValue) : Bool := v.low < v.level && v.level < v.high

/-- `MSG_COLLECTOR_MAX_MSG_LENGTH`. -/
def maxMsgLength : Nat := 2048

/-- `MSG_COLLECTOR_MAX_MSG_BLOCK`. -/
def maxMsgBlock : Nat := 10

/-- What the collector consults. The loader of the configuration clamps
`rx_buffer_size`; `alloc` tells which sizes `malloc` and `realloc` grant. -/
structure CollectorEnv where
  commands : List DiameterCommand
  parser : ParserEnv
  rxBufferSize : Nat
  alloc : Nat → Bool
  atLeast : maxMsgLength ≤ rxBufferSize
  atMost : rxBufferSize ≤ maxMsgLength * maxMsgBlock

/-- The kinds of `COLLECTOR_ERROR` that `Message` reports. -/
inductive CollectorError where
  | parsingError | bugInParsingCode | memoryAllocError | corruptedByteStream
  deriving DecidableEq, Repr

inductive Callback where
  | message (hdr : MsgHeader) (acl : AvpContainerList)
  | sendErrorAnswer (hdr : MsgHeader) (code : ResultCode)
  | error (kind : CollectorError) (eDesc : String)

/-- The fields of a collector whose buffer is not `NULL`; `m_BufSize` is the
length of the memory. -/
structure RxState where
  memory : Octets
  offset : Nat
  msgLength : Nat
  persistent : RangedValue
  deriving DecidableEq, Repr

def freshErrors (bufSize : Nat) : RangedValue := ⟨0, 0, bufSize * maxMsgBlock / 4⟩

/-- `rx` is `none` once `m_Buffer` is `NULL`: it never becomes anything else then. -/
structure Collector where
  handler : Bool
  rx : Option RxState
  deriving DecidableEq, Repr

variable (env : CollectorEnv)

/-- The constructor, and `RegisterHandler`. -/
def Collector.construct : Collector where
  handler := true
  rx :=
    let bufSize := headerSize + env.rxBufferSize
    if env.alloc bufSize then
      some ⟨List.replicate bufSize 0, 0, 0, freshErrors bufSize⟩
    else none

/-- A call of `Message` at the test of one of its loops. -/
structure Receiving where
  rx : RxState
  hasHeaderError : Bool
  data : Octets
  inner : Bool
  deriving DecidableEq, Repr

/-- How a call of `Message` ends: it comes back, the process is terminated, or the
behaviour is undefined. -/
inductive CallEnd where
  | returned (rx : Option RxState)
  | terminated
  | fault
  deriving DecidableEq, Repr

section Messages

/-- What the attempt to read a complete message comes to. -/
inductive Opened where
  | message (hdr : MsgHeader) (acl : AvpContainerList)
  | refused
  | bug
  | terminated
  | fault

/-- The types that the loader knows throw nothing but a `DiameterErrorCode`, an
IPAddress of fewer than two octets excepted: its `std::out_of_range` meets the
exception specification of `IPAddressParser::parseRawToApp`. -/
def payload (memory : Octets) (msgLength : Nat) (hdr : MsgHeader) (com : DiameterCommand) : Opened :=
  match parseRawToAppWithDict env.parser ⟨memory, msgLength, headerSize⟩ com.dict with
  | .returned acl => .message hdr acl
  | .thrown st =>
    match st.error with
    | .normal _ => .refused
    | .bug _ => .bug
  | .escaped => .terminated
  | .fault => .fault

/-- A header from an earlier turn is parsed again; if that fails, `throw (0)` ends
the attempt, and the handler which is meant for other exceptions goes on. -/
def openMessage (memory : Octets) (msgLength : Nat) (hdr : MsgHeader) : Opened :=
  match hdr.dictHandle with
  | some com => payload env memory msgLength hdr com
  | none =>
    let again := (parseMsgHeader env.commands memory).1
    match again.dictHandle with
    | some com => payload env memory msgLength again com
    | none => .message again []

end Messages

section Loop

/-- `memcpy(m_Buffer, m_Buffer + from, count)`. -/
def copyDown (memory : Octets) (start count : Nat) : Octets :=
  splice memory 0 ((memory.drop start).take count)

/-- Drop the message from the front of the buffer. -/
def RxState.consume (rx : RxState) : RxState :=
  let memory := if rx.msgLength < rx.offset then
    copyDown rx.memory rx.msgLength (rx.offset - rx.msgLength) else rx.memory
  let offset := rx.offset - rx.msgLength
  { rx with
    memory := memory.take offset ++ List.replicate (memory.length - offset) 0
    offset
    msgLength := 0 }

def frameTurn (s : Receiving) (hdr : MsgHeader) : List Callback × Turn Receiving CallEnd :=
  let rx := s.rx
  if rx.offset < rx.msgLength then
    if rx.memory.length < rx.msgLength then
      if env.alloc (rx.msgLength + 1) then
        let grown := rx.memory ++ List.replicate (rx.msgLength + 1 - rx.memory.length) 0
        ([], .again { s with rx := { rx with memory := grown } })
      else
        ([.error .memoryAllocError "Byte buffer too small but failed to re-alloc"],
          .done (.returned none))
    else ([], .again { s with inner := false })
  else if s.hasHeaderError then
    ([.error .parsingError "Header error encounted in newly arrived message"],
      .again { s with rx := rx.consume })
  else
    match openMessage env rx.memory rx.msgLength hdr with
    | .message hdr acl =>
      ([.message hdr acl],
        .again { s with rx := { rx with persistent := freshErrors rx.memory.length }.consume })
    | .refused =>
      -- released at the head of the handler and once more before the loop goes on,
      -- with one reference: the second call reads and frees a block that is gone
      ([], .done .fault)
    | .bug =>
      ([.error .bugInParsingCode "Bug present in the parsing code !!!!"], .done (.returned (some rx)))
    | .terminated => ([], .done .terminated)
    | .fault => ([], .done .fault)

/-- The header cannot be trusted: try again four octets later. -/
def resynchronise (s : Receiving) : List Callback × Turn Receiving CallEnd :=
  let (persistent, tooMany) := s.rx.persistent.increment
  if tooMany then
    ([.error .corruptedByteStream "To many persistent errors in data"],
      .done (.returned (some { s.rx with persistent })))
  else
    let offset := s.rx.offset - 4
    ([], .again { s with rx :=
      { s.rx with offset, memory := copyDown s.rx.memory 4 offset, persistent } })

def innerTurn (s : Receiving) : List Callback × Turn Receiving CallEnd :=
  if s.rx.offset ≤ headerSize then ([], .again { s with inner := false })
  else if s.rx.msgLength = 0 then
    let (hdr, thrown) := parseMsgHeader env.commands s.rx.memory
    let sized := { s.rx with msgLength := hdr.length }
    match thrown with
    | none => frameTurn env { s with rx := sized, hasHeaderError := false } hdr
    | some error =>
      -- An unknown command with an impossible length: the stream is out of step.
      if error = .normal .commandUnsupported ∧
          RangedValue.inRange ⟨hdr.length, headerSize, s.rx.memory.length * maxMsgBlock⟩ = false then
        resynchronise s
      else
        -- The length is trusted: the error is answered, and the frame taken out by it.
        match error with
        | .normal code =>
          let (callbacks, turn) := frameTurn env { s with rx := sized, hasHeaderError := true } hdr
          (.sendErrorAnswer hdr code :: callbacks, turn)
        | .bug _ =>
          ([.error .bugInParsingCode "Bug present in the parsing code !!!!"],
            .done (.returned (some s.rx)))
  else frameTurn env s .blank

def Receiving.copyIn (s : Receiving) : Receiving :=
  let rBytes := min s.data.length (s.rx.memory.length - s.rx.offset)
  let rx := { s.rx with
    memory := splice s.rx.memory s.rx.offset (s.data.take rBytes), offset := s.rx.offset + rBytes }
  { s with rx, data := s.data.drop rBytes, inner := true }

def outerTurn (s : Receiving) : List Callback × Turn Receiving CallEnd :=
  if s.data = [] then ([], .done (.returned (some s.rx))) else ([], .again s.copyIn)

/-- The loops of `DiameterRxMsgCollector::Message`. -/
def receive : Body Receiving Callback CallEnd := fun s =>
  if s.inner then innerTurn env s else outerTurn s

/-- A call of `Message` that comes back, with the calls of the handler. -/
inductive Message : Collector → Octets → List Callback → Collector → Prop where
  | ignored {c : Collector} {data : Octets} :
      c.handler = false ∨ c.rx = none → Message c data [] c
  | returned {rx : RxState} {data : Octets} {callbacks : List Callback} {after : Option RxState} :
      (receive env).Ends ⟨rx, false, data, false⟩ callbacks (.returned after) →
      Message ⟨true, some rx⟩ data callbacks ⟨true, after⟩

/-- Successive calls of `Message`. -/
inductive Messages : Collector → List Octets → List Callback → Collector → Prop where
  | none {c : Collector} : Messages c [] [] c
  | next {c middle last : Collector} {data : Octets} {chunks : List Octets}
      {callbacks later : List Callback} :
      Message env c data callbacks middle → Messages middle chunks later last →
      Messages c (data :: chunks) (callbacks ++ later) last

end Loop

end OpenDiameter.Transport
