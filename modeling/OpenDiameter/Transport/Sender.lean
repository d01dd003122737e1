import OpenDiameter.Parser.EncodeSpace
import OpenDiameter.Parser.HeaderCodec
import OpenDiameter.Transport.Collector

/-! `DiameterTxMsgCollector`: encodes messages into a buffer that grows on demand.

The buffer and the block count outlive a message. The block count also outlives
the transmitter thread, which starts with a buffer of one block.
-/

set_option autoImplicit false

namespace OpenDiameter.Transport

open Foundation OpenDiameter.Parser

structure TxState where
  buffer : Buffer
  blockCount : Nat
  deriving DecidableEq, Repr

/-- What becomes of a message: octets for `io->Send`, or the result -1. -/
inductive Sending where
  | sent (octets : Octets)
  | failed
  | escaped
  | fault
  deriving DecidableEq, Repr

/-- One turn of the loop of `SafeSend`: `short` is `AAA_OUT_OF_SPACE`. -/
inductive Attempt where
  | sent (octets : Octets) (after : Buffer)
  | short
  | failed
  | escaped
  | fault

/-- `AAAMessageBlock::Acquire`. -/
def acquire (size : Nat) : Buffer := ⟨List.replicate size 0, size, 0⟩

/-- The `memset` of `DiameterMsgPayloadParser::parseAppToRaw`. -/
def clearRest (b : Buffer) : Buffer :=
  { b with memory := b.memory.take b.wr ++ List.replicate (b.size - b.wr) 0 ++ b.memory.drop b.size }

variable (env : CollectorEnv)

section Sending

variable (hdr : MsgHeader) (acl : AvpContainerList)

def attempt (b : Buffer) : Attempt :=
  match writeMsgHeader env.commands hdr b with
  | .thrown _ => .failed
  | .escaped => .escaped
  | .fault => .fault
  | .returned (hdr, headed) =>
    -- The dictionary of the command, which the first header has looked up.
    match hdr.dictHandle with
    | none => .fault
    | some com =>
      match parseAppToRawWithDict env.parser acl com.dict (clearRest headed) with
      | .thrown st => if st.error = .normal .outOfSpace then .short else .failed
      | .escaped => .escaped
      | .fault => .fault
      | .returned full =>
        -- The header is written again with the length that is known now.
        match writeMsgHeader env.commands { hdr with length := full.wr % 2 ^ 24 } full with
        | .thrown _ => .failed
        | .escaped => .escaped
        | .fault => .fault
        | .returned (hdr, last) => .sent (last.memory.take hdr.length) { last with wr := hdr.length }

def TxState.grow (s : TxState) : TxState :=
  ⟨acquire (env.rxBufferSize * (s.blockCount + 1)), s.blockCount + 1⟩

/-- The end of `SafeSend` after its last turn. What a turn without success leaves
in the buffer is overwritten by the next message. -/
def Attempt.finish (s : TxState) : Attempt → Sending × TxState
  | sent octets after => (.sent octets, { s with buffer := after })
  | short => (.failed, s)
  | failed => (.failed, s)
  | escaped => (.escaped, s)
  | fault => (.fault, s)

/-- The loop of `SafeSend`, with the number of blocks it may still add. -/
def sendLoop : Nat → TxState → Sending × TxState
  | 0, s => (attempt env hdr acl s.buffer).finish s
  | grows + 1, s =>
    match attempt env hdr acl s.buffer with
    | .short => sendLoop grows (s.grow env)
    | tried => tried.finish s

/-- `DiameterTxMsgCollector::SafeSend`. -/
def safeSend (s : TxState) : Sending × TxState := sendLoop env hdr acl (maxMsgBlock - s.blockCount) s

end Sending

/-- What happens to a collector: messages of the queue, or `Stop` and `Start`. -/
inductive TxEvent where
  | send (hdr : MsgHeader) (acl : AvpContainerList)
  | restart

/-- The constructor and the begin of `svc`. -/
def TxState.start : TxState := ⟨acquire env.rxBufferSize, 1⟩

def TxState.step (s : TxState) : TxEvent → TxState
  | .send hdr acl => (safeSend env hdr acl s).2
  | .restart => { s with buffer := acquire env.rxBufferSize }

def TxState.run (s : TxState) (events : List TxEvent) : TxState := events.foldl (TxState.step env) s

section Attempts

open Foundation.Script

variable {env} {hdr : MsgHeader} {acl : AvpContainerList} {com : DiameterCommand} {b : Buffer}

structure Sendable (env : CollectorEnv) (hdr : MsgHeader) (com : DiameterCommand) : Prop where
  found : searchCommand env.commands hdr.code hdr.appId hdr.r = some com
  allowed : ¬(com.r = true ∧ hdr.e = true)

theorem level_acquire {size : Nat} (words : size % 4 = 0) (small : size < 2 ^ 32) : Level (acquire size) :=
  ⟨(List.length_replicate).symm, words, small, Nat.zero_le _⟩

theorem writeMsgHeader_sendable (sendable : Sendable env hdr com) (length : Nat) (room : headerSize ≤ b.memory.length) :
    writeMsgHeader env.commands { hdr with length } b =
      .returned ({ hdr with length, dictHandle := some com },
        { b with memory := splice b.memory 0 { hdr with length }.octets, wr := headerSize }) := by
  rw [writeMsgHeader, sendable.found]
  dsimp only
  rw [if_neg sendable.allowed, Buffer.write, MsgHeader.length_octets, if_pos (by rw [Nat.zero_add]; exact room),
    Outcome.returned_bind, Nat.zero_add]

def headed (hdr : MsgHeader) (size : Nat) : Buffer :=
  ⟨hdr.octets ++ List.replicate (size - headerSize) 0, size, headerSize⟩

theorem level_headed (level : Level b) (room : headerSize ≤ b.size) : Level (headed hdr b.size) where
  sized := by
    have size : (headed hdr b.size).memory.length = headerSize + (b.size - headerSize) := by
      rw [headed, List.length_append, List.length_replicate, MsgHeader.length_octets]
    rw [size]
    exact (Nat.add_sub_cancel' room).symm
  words := level.words
  small := level.small
  inside := room

theorem clearRest_headed (level : Level b) (room : headerSize ≤ b.size) :
    clearRest { b with memory := splice b.memory 0 hdr.octets, wr := headerSize } = headed hdr b.size := by
  have sized := level.sized
  have inside : 0 + hdr.octets.length ≤ b.memory.length := by rw [MsgHeader.length_octets]; omega
  have size := length_splice inside
  have front : (splice b.memory 0 hdr.octets).take headerSize = hdr.octets := by
    rw [splice, List.take_zero, List.nil_append, List.take_left' hdr.length_octets]
  rw [clearRest, headed]
  dsimp only
  rw [front, List.drop_of_length_le (by omega), List.append_nil]

theorem attempt_eq (sendable : Sendable env hdr com) (level : Level b) (room : headerSize ≤ b.size)
    (small : b.size < 2 ^ 24) :
    attempt env hdr acl b =
      match (payloadScript env.parser acl com.dict).exec (headed hdr b.size) with
      | .thrown st => if st.error = .normal .outOfSpace then .short else .failed
      | .escaped => .escaped
      | .fault => .fault
      | .returned full =>
        match writeMsgHeader env.commands { hdr with length := full.wr % 2 ^ 24, dictHandle := some com } full with
        | .thrown _ => .failed
        | .escaped => .escaped
        | .fault => .fault
        | .returned (hdr, last) => .sent (last.memory.take hdr.length) { last with wr := hdr.length } := by
  have sized := level.sized
  have first := @writeMsgHeader_sendable env hdr com b sendable hdr.length (by omega)
  unfold attempt
  rw [show writeMsgHeader env.commands hdr b = _ from first]
  dsimp only
  rw [clearRest_headed level room, parseAppToRaw_eq env.parser acl com.dict (level_headed level room)
    (show headerSize % 4 = 0 from rfl) (.inl (Nat.lt_of_le_of_lt (Nat.sub_le _ _) small))]
  rfl

def messageSize (env : CollectorEnv) (acl : AvpContainerList) (com : DiameterCommand) : Nat :=
  headerSize + payloadSize env.parser acl com.dict

def stops (env : CollectorEnv) (acl : AvpContainerList) (com : DiameterCommand) (size : Nat) : Option DiameterErrorCode :=
  overflow (size - headerSize) (payloadScript env.parser acl com.dict).pieces

theorem snug_headed (size : Nat) : Snug (headed hdr size).wr (payloadScript env.parser acl com.dict).pieces :=
  (payloadScript_snug env.parser acl com.dict).shift (show 0 % 4 = headerSize % 4 from rfl)

theorem attempt_stops (sendable : Sendable env hdr com) (level : Level b) (room : headerSize ≤ b.size)
    (small : b.size < 2 ^ 24) {st : DiameterErrorCode} (stopped : stops env acl com b.size = some st) :
    attempt env hdr acl b = if st.error = .normal .outOfSpace then .short else .failed := by
  rw [attempt_eq sendable level room small]
  rcases run_overflow _ (level_headed level room) (snug_headed b.size) with ⟨none, -⟩ | ⟨full, same, ran⟩
  · rw [stops] at stopped
    rw [headed] at none
    rw [none] at stopped
    cases stopped
  · rw [stops] at stopped
    rw [headed] at same
    rw [same] at stopped
    cases stopped
    rw [Foundation.Script.exec, ran]
    rfl

theorem stops_none (fits : messageSize env acl com ≤ b.size) : stops env acl com b.size = none :=
  overflow_none (by rw [messageSize, payloadSize] at fits; omega)

def messageOctets (hdr : MsgHeader) (image : Octets) : Octets :=
  { hdr with length := headerSize + image.length }.octets ++ image

theorem attempt_room (sendable : Sendable env hdr com) (level : Level b) (room : headerSize ≤ b.size)
    (small : b.size < 2 ^ 24) (goes : stops env acl com b.size = none) :
    messageSize env acl com ≤ b.size ∧ ∃ image after,
      Renders (payloadScript env.parser acl com.dict).pieces image ∧ Level after ∧ after.size = b.size ∧
        attempt env hdr acl b =
          match (payloadScript env.parser acl com.dict).ending with
          | .thrown st => if st.error = .normal .outOfSpace then .short else .failed
          | .escaped => .escaped
          | .fault => .fault
          | .returned _ => .sent (messageOctets hdr image) after := by
  have level' := @level_headed hdr b level room
  have snug := @snug_headed env hdr acl com b.size
  -- The pieces are all written, since the script does not stop at this size.
  obtain ⟨fits, full, ran⟩ : (headed hdr b.size).wr + total (payloadScript env.parser acl com.dict).pieces ≤
      (headed hdr b.size).size ∧ ∃ full, run (payloadScript env.parser acl com.dict).pieces (headed hdr b.size) = .returned full := by
    rcases run_overflow _ level' snug with ⟨-, fits, full, ran⟩ | ⟨full, same, -⟩
    · exact ⟨fits, full, ran⟩
    · rw [stops] at goes
      rw [headed] at same
      rw [goes] at same
      cases same
  obtain ⟨image, rendered, wr, memory⟩ := run_image level' snug ran
  obtain ⟨-, announced, -⟩ := run_cursor ran
  obtain ⟨levelFull, -⟩ := (run_level _ level' snug).2 full ran
  have front : (headed hdr b.size).memory.take (headed hdr b.size).wr = hdr.octets := List.take_left' hdr.length_octets
  have place : (headed hdr b.size).wr = headerSize := rfl
  have size : full.size = b.size := announced
  have inside := levelFull.inside
  have sized := levelFull.sized
  rw [front, place] at memory
  rw [place] at wr
  refine ⟨fits, image, ⟨splice full.memory 0 { hdr with length := headerSize + image.length }.octets, full.size,
    headerSize + image.length⟩, rendered, ?_, size, ?_⟩
  · refine ⟨?_, levelFull.words, levelFull.small, by rw [← wr]; exact inside⟩
    rw [length_splice (by rw [MsgHeader.length_octets]; omega)]
    exact sized
  -- The header is written once more, with the length that is known now.
  · have again : writeMsgHeader env.commands { hdr with length := full.wr % 2 ^ 24, dictHandle := some com } full =
        .returned ({ hdr with length := headerSize + image.length, dictHandle := some com },
          { full with memory := splice full.memory 0 { hdr with length := headerSize + image.length }.octets,
                      wr := headerSize }) := by
      have length : full.wr % 2 ^ 24 = headerSize + image.length := by omega
      rw [length]
      exact @writeMsgHeader_sendable env { hdr with dictHandle := some com } com full ⟨sendable.found, sendable.allowed⟩ _
        (by omega)
    have written : (splice full.memory 0 { hdr with length := headerSize + image.length }.octets).take
        (headerSize + image.length) = messageOctets hdr image := by
      rw [memory, List.append_assoc, splice, List.take_zero, List.nil_append, Nat.zero_add, MsgHeader.length_octets,
        List.drop_left' hdr.length_octets, ← List.append_assoc]
      exact List.take_left' (by rw [List.length_append, MsgHeader.length_octets])
    rw [attempt_eq sendable level room small]
    -- What the parser throws after its last piece.
    cases ended : (payloadScript env.parser acl com.dict).ending with
    | thrown st => rw [Foundation.Script.exec, ran, Outcome.returned_bind, ended]; rfl
    | escaped => rw [Foundation.Script.exec, ran, Outcome.returned_bind, ended]; rfl
    | fault => rw [Foundation.Script.exec, ran, Outcome.returned_bind, ended]; rfl
    | returned value =>
      rw [exec_eq_returned.mpr ⟨ran, ended⟩]
      dsimp only
      rw [again]
      dsimp only
      rw [written]

end Attempts

section Runs

open Foundation.Script

variable {env} {hdr : MsgHeader} {acl : AvpContainerList} {com : DiameterCommand} {s : TxState}

structure TxState.Ready (env : CollectorEnv) (s : TxState) : Prop where
  level : Level s.buffer
  least : env.rxBufferSize ≤ s.buffer.size
  most : s.buffer.size ≤ env.rxBufferSize * s.blockCount
  positive : 0 < s.blockCount
  bounded : s.blockCount ≤ maxMsgBlock

theorem TxState.Ready.small (ready : s.Ready env) : headerSize ≤ s.buffer.size ∧ s.buffer.size < 2 ^ 24 := by
  have least := ready.least
  have most := ready.most
  have atLeast := env.atLeast
  have atMost := env.atMost
  have product := Nat.mul_le_mul atMost ready.bounded
  simp only [maxMsgLength, maxMsgBlock, headerSize] at *
  omega

theorem ready_acquire (words : env.rxBufferSize % 4 = 0) {count blocks : Nat} (some : 0 < count) (few : count ≤ blocks)
    (bounded : blocks ≤ maxMsgBlock) : TxState.Ready env ⟨acquire (env.rxBufferSize * count), blocks⟩ where
  level := by
    have atMost := env.atMost
    have product := Nat.mul_le_mul atMost (Nat.le_trans few bounded)
    refine level_acquire ?_ ?_
    · rw [Nat.mul_mod, words, Nat.zero_mul, Nat.zero_mod]
    · simp only [maxMsgLength, maxMsgBlock] at product
      omega
  least := Nat.le_mul_of_pos_right _ some
  most := Nat.mul_le_mul_left _ few
  positive := Nat.lt_of_lt_of_le some few
  bounded := bounded

theorem ready_grow (words : env.rxBufferSize % 4 = 0) (more : s.blockCount < maxMsgBlock) : (s.grow env).Ready env :=
  ready_acquire words (Nat.succ_pos _) (Nat.le_refl _) more

/-- The sizes that a message is tried in, if it keeps failing for want of space. -/
def sizes (env : CollectorEnv) (s : TxState) : List Nat :=
  s.buffer.size :: (List.range' (s.blockCount + 1) (maxMsgBlock - s.blockCount)).map (env.rxBufferSize * ·)

def Retried (env : CollectorEnv) (acl : AvpContainerList) (com : DiameterCommand) (size : Nat) : Prop :=
  ∃ st, stops env acl com size = some st ∧ st.error = .normal .outOfSpace

theorem sizes_last (full : s.blockCount = maxMsgBlock) : sizes env s = [s.buffer.size] := by
  rw [sizes, full, Nat.sub_self]
  rfl

theorem sizes_grow (more : s.blockCount < maxMsgBlock) : sizes env s = s.buffer.size :: sizes env (s.grow env) := by
  have left : maxMsgBlock - s.blockCount = maxMsgBlock - (s.blockCount + 1) + 1 := by omega
  rw [sizes, left, List.range'_succ, List.map_cons]
  rfl

def Fits (env : CollectorEnv) (acl : AvpContainerList) (com : DiameterCommand) (sizes : List Nat) : Prop :=
  ∃ before size after, sizes = before ++ size :: after ∧ (∀ small ∈ before, Retried env acl com small) ∧
    messageSize env acl com ≤ size

theorem fits_cons {size : Nat} {later : List Nat} :
    Fits env acl com (size :: later) ↔ messageSize env acl com ≤ size ∨ Retried env acl com size ∧ Fits env acl com later := by
  constructor
  · rintro ⟨before, found, after, same, retried, fits⟩
    cases before with
    | nil =>
      cases same
      exact .inl fits
    | cons first before =>
      cases same
      exact .inr ⟨retried _ List.mem_cons_self, before, found, after, rfl,
        fun small member => retried small (List.mem_cons_of_mem _ member), fits⟩
  · rintro (fits | ⟨retried, before, found, after, rfl, all, fits⟩)
    · exact ⟨[], size, later, rfl, List.forall_mem_nil _, fits⟩
    · refine ⟨size :: before, found, after, rfl, fun small member => ?_, fits⟩
      rcases List.mem_cons.mp member with rfl | member
      · exact retried
      · exact all small member

theorem fits_nil : ¬Fits env acl com [] := by
  rintro ⟨before, size, after, same, -⟩
  cases before <;> cases same

theorem sendable_or (env : CollectorEnv) (hdr : MsgHeader) :
    (∃ com, Sendable env hdr com) ∨ ∀ acl b, attempt env hdr acl b = .failed := by
  cases found : searchCommand env.commands hdr.code hdr.appId hdr.r with
  | none =>
    refine .inr fun acl b => ?_
    rw [attempt, writeMsgHeader, found]
    rfl
  | some com =>
    by_cases refused : com.r = true ∧ hdr.e = true
    · refine .inr fun acl b => ?_
      rw [attempt, writeMsgHeader, found]
      dsimp only
      rw [if_pos refused]
      rfl
    · exact .inl ⟨com, found, refused⟩

theorem attempt_sent (sendable : Sendable env hdr com) (ready : s.Ready env) {octets : Octets} {after : Buffer}
    (sent : attempt env hdr acl s.buffer = .sent octets after) :
    (payloadScript env.parser acl com.dict).ending = .returned () ∧ messageSize env acl com ≤ s.buffer.size ∧
      Level after ∧ after.size = s.buffer.size ∧
      ∃ image, Renders (payloadScript env.parser acl com.dict).pieces image ∧ octets = messageOctets hdr image := by
  obtain ⟨room, small⟩ := ready.small
  cases stopped : stops env acl com s.buffer.size with
  | some st =>
    rw [attempt_stops sendable ready.level room small stopped] at sent
    split at sent <;> cases sent
  | none =>
    obtain ⟨fits, image, last, rendered, level, size, tried⟩ :=
      @attempt_room env hdr acl com s.buffer sendable ready.level room small stopped
    rw [tried] at sent
    cases ended : (payloadScript env.parser acl com.dict).ending with
    | thrown st =>
      rw [ended] at sent
      dsimp only at sent
      split at sent <;> cases sent
    | escaped => rw [ended] at sent; cases sent
    | fault => rw [ended] at sent; cases sent
    | returned value =>
      rw [ended] at sent
      cases sent
      exact ⟨rfl, fits, level, size, image, rendered, rfl⟩

theorem sendLoop_cases (grows : Nat) (s : TxState) :
    sendLoop env hdr acl grows s = (attempt env hdr acl s.buffer).finish s ∨
      attempt env hdr acl s.buffer = .short ∧ ∃ fewer, grows = fewer + 1 ∧
        sendLoop env hdr acl grows s = sendLoop env hdr acl fewer (s.grow env) := by
  cases grows with
  | zero => exact .inl rfl
  | succ fewer =>
    cases tried : attempt env hdr acl s.buffer with
    | short => exact .inr ⟨rfl, fewer, rfl, by rw [sendLoop, tried]⟩
    | sent octets after => exact .inl (by rw [sendLoop, tried])
    | failed => exact .inl (by rw [sendLoop, tried])
    | escaped => exact .inl (by rw [sendLoop, tried])
    | fault => exact .inl (by rw [sendLoop, tried])

theorem ready_finish (ready : s.Ready env) : ((attempt env hdr acl s.buffer).finish s).2.Ready env := by
  cases tried : attempt env hdr acl s.buffer with
  | sent octets after =>
    rcases sendable_or env hdr with ⟨com, sendable⟩ | fails
    · obtain ⟨-, -, level, size, -⟩ := attempt_sent sendable ready tried
      have least := ready.least
      have most := ready.most
      exact ⟨level, by rw [← size] at least; exact least, by rw [← size] at most; exact most, ready.positive, ready.bounded⟩
    · rw [fails] at tried
      cases tried
  | short => exact ready
  | failed => exact ready
  | escaped => exact ready
  | fault => exact ready

theorem attempt_sent_iff (sendable : Sendable env hdr com) (ready : s.Ready env)
    (ended : (payloadScript env.parser acl com.dict).ending = .returned ()) :
    (∃ octets after, attempt env hdr acl s.buffer = .sent octets after) ↔ messageSize env acl com ≤ s.buffer.size := by
  constructor
  · rintro ⟨octets, after, sent⟩
    exact (attempt_sent sendable ready sent).2.1
  · intro fits
    obtain ⟨room, small⟩ := ready.small
    obtain ⟨-, image, after, -, -, -, tried⟩ :=
      @attempt_room env hdr acl com s.buffer sendable ready.level room small (stops_none fits)
    rw [ended] at tried
    exact ⟨_, _, tried⟩

/-- It asks for a larger buffer exactly when the piece without room says so. -/
theorem attempt_short_iff (sendable : Sendable env hdr com) (ready : s.Ready env)
    (ended : (payloadScript env.parser acl com.dict).ending = .returned ()) :
    attempt env hdr acl s.buffer = .short ↔ Retried env acl com s.buffer.size := by
  obtain ⟨room, small⟩ := ready.small
  cases stopped : stops env acl com s.buffer.size with
  | some st =>
    rw [attempt_stops sendable ready.level room small stopped, Retried, stopped]
    by_cases space : st.error = .normal .outOfSpace
    · rw [if_pos space]
      exact iff_of_true rfl ⟨st, rfl, space⟩
    · rw [if_neg space]
      refine iff_of_false (by simp) ?_
      rintro ⟨st', same, space'⟩
      cases same
      exact space space'
  | none =>
    obtain ⟨-, image, after, -, -, -, tried⟩ :=
      @attempt_room env hdr acl com s.buffer sendable ready.level room small stopped
    rw [ended] at tried
    rw [tried, Retried, stopped]
    refine iff_of_false (by simp) ?_
    rintro ⟨st, same, -⟩
    cases same

theorem attempt_ne_fault (sendable : Sendable env hdr com) (ready : s.Ready env)
    (sound : (payloadScript env.parser acl com.dict).ending ≠ .fault) : attempt env hdr acl s.buffer ≠ .fault := by
  obtain ⟨room, small⟩ := ready.small
  cases stopped : stops env acl com s.buffer.size with
  | some st =>
    rw [attempt_stops sendable ready.level room small stopped]
    split <;> simp
  | none =>
    obtain ⟨-, image, after, -, -, -, tried⟩ :=
      @attempt_room env hdr acl com s.buffer sendable ready.level room small stopped
    rw [tried]
    cases ended : (payloadScript env.parser acl com.dict).ending with
    | returned value => simp
    | thrown st =>
      dsimp only
      split <;> simp
    | escaped => simp
    | fault => exact absurd ended sound

theorem finish_sent_iff {tried : Attempt} {octets : Octets} :
    (tried.finish s).1 = .sent octets ↔ ∃ after, tried = .sent octets after := by
  cases tried <;> simp [Attempt.finish]

theorem sendLoop_ready (words : env.rxBufferSize % 4 = 0) {grows : Nat} (ready : s.Ready env)
    (left : s.blockCount + grows ≤ maxMsgBlock) : (sendLoop env hdr acl grows s).2.Ready env := by
  induction grows generalizing s with
  | zero => exact ready_finish ready
  | succ grows ih =>
    rcases @sendLoop_cases env hdr acl (grows + 1) s with ended | ⟨-, fewer, same, again⟩
    · rw [ended]
      exact ready_finish ready
    · cases same
      rw [again]
      exact ih (ready_grow words (by omega)) (by have same : (s.grow env).blockCount = s.blockCount + 1 := rfl; omega)

theorem ready_start (words : env.rxBufferSize % 4 = 0) : (TxState.start env).Ready env := by
  have fresh := @ready_acquire env words 1 1 (by decide) (Nat.le_refl 1) (by decide)
  rw [Nat.mul_one] at fresh
  exact fresh

theorem run_ready (words : env.rxBufferSize % 4 = 0) (ready : s.Ready env) (events : List TxEvent) :
    (s.run env events).Ready env := by
  induction events generalizing s with
  | nil => exact ready
  | cons event events ih =>
    refine ih ?_
    cases event with
    | send hdr acl => exact sendLoop_ready words ready (by have bounded := ready.bounded; omega)
    | restart =>
      have fresh := @ready_acquire env words 1 s.blockCount (by decide) ready.positive ready.bounded
      rw [Nat.mul_one] at fresh
      exact fresh

theorem sendLoop_sent (words : env.rxBufferSize % 4 = 0) (sendable : Sendable env hdr com) {grows : Nat} (ready : s.Ready env)
    (left : s.blockCount + grows ≤ maxMsgBlock) {octets : Octets} (sent : (sendLoop env hdr acl grows s).1 = .sent octets) :
    (payloadScript env.parser acl com.dict).ending = .returned () ∧ messageSize env acl com < 2 ^ 24 ∧
      ∃ image, Renders (payloadScript env.parser acl com.dict).pieces image ∧ octets = messageOctets hdr image := by
  have finish (s : TxState) (ready : s.Ready env) (sent : ((attempt env hdr acl s.buffer).finish s).1 = .sent octets) :
      (payloadScript env.parser acl com.dict).ending = .returned () ∧ messageSize env acl com < 2 ^ 24 ∧
        ∃ image, Renders (payloadScript env.parser acl com.dict).pieces image ∧ octets = messageOctets hdr image := by
    obtain ⟨after, tried⟩ := finish_sent_iff.mp sent
    obtain ⟨ended, fits, -, -, written⟩ := attempt_sent sendable ready tried
    exact ⟨ended, Nat.lt_of_le_of_lt fits ready.small.2, written⟩
  induction grows generalizing s with
  | zero => exact finish s ready sent
  | succ grows ih =>
    rcases @sendLoop_cases env hdr acl (grows + 1) s with finished | ⟨-, fewer, same, again⟩
    · rw [finished] at sent
      exact finish s ready sent
    · cases same
      rw [again] at sent
      have count : (s.grow env).blockCount = s.blockCount + 1 := rfl
      exact ih (ready_grow words (by omega)) (by omega) sent

theorem sendLoop_fits_iff (words : env.rxBufferSize % 4 = 0) (sendable : Sendable env hdr com)
    (ended : (payloadScript env.parser acl com.dict).ending = .returned ()) {grows : Nat} (ready : s.Ready env)
    (left : s.blockCount + grows = maxMsgBlock) :
    (∃ octets, (sendLoop env hdr acl grows s).1 = .sent octets) ↔ Fits env acl com (sizes env s) := by
  have last (s : TxState) (ready : s.Ready env) : (∃ octets, ((attempt env hdr acl s.buffer).finish s).1 = .sent octets) ↔
      messageSize env acl com ≤ s.buffer.size := by
    simp only [finish_sent_iff]
    exact attempt_sent_iff sendable ready ended
  induction grows generalizing s with
  | zero =>
    rw [sizes_last left, fits_cons, sendLoop, last s ready]
    exact ⟨.inl, fun fits => fits.elim id fun more => absurd more.2 fits_nil⟩
  | succ grows ih =>
    have count : (s.grow env).blockCount = s.blockCount + 1 := rfl
    rw [sizes_grow (by omega), fits_cons, ← attempt_short_iff sendable ready ended]
    -- A turn that is short tries the next size; any other turn is the last.
    by_cases short : attempt env hdr acl s.buffer = .short
    · have unfit : ¬messageSize env acl com ≤ s.buffer.size := by
        rw [← attempt_sent_iff sendable ready ended, short]
        rintro ⟨_, _, same⟩
        cases same
      rw [sendLoop, short, or_iff_right unfit, and_iff_right rfl]
      exact ih (ready_grow words (by omega)) (by omega)
    · rcases @sendLoop_cases env hdr acl (grows + 1) s with finished | ⟨short', -⟩
      · rw [finished, last s ready]
        exact ⟨.inl, fun fits => fits.elim id fun more => absurd more.1 short⟩
      · exact absurd short' short

theorem sendLoop_ne_fault (words : env.rxBufferSize % 4 = 0) (sendable : Sendable env hdr com)
    (sound : (payloadScript env.parser acl com.dict).ending ≠ .fault) {grows : Nat} (ready : s.Ready env)
    (left : s.blockCount + grows ≤ maxMsgBlock) : (sendLoop env hdr acl grows s).1 ≠ .fault := by
  have finish (s : TxState) (ready : s.Ready env) : ((attempt env hdr acl s.buffer).finish s).1 ≠ .fault := by
    have tried := attempt_ne_fault sendable ready sound
    cases same : attempt env hdr acl s.buffer <;> simp_all [Attempt.finish]
  induction grows generalizing s with
  | zero => exact finish s ready
  | succ grows ih =>
    rcases @sendLoop_cases env hdr acl (grows + 1) s with finished | ⟨-, fewer, same, again⟩
    · rw [finished]
      exact finish s ready
    · cases same
      have count : (s.grow env).blockCount = s.blockCount + 1 := rfl
      rw [again]
      exact ih (ready_grow words (by omega)) (by omega)

/-- Every message in every run: it is sent exactly when its encoding ends and it fits
into one of the sizes before the space runs out at a piece that does not ask for more. -/
theorem safeSend_sent_iff (words : env.rxBufferSize % 4 = 0) (groups : ∀ gavp ∈ env.parser.groupedAvpList, Encodable env.parser gavp.dict)
    (sendable : Sendable env hdr com) (encodable : Encodable env.parser com.dict) (events : List TxEvent) :
    (safeSend env hdr acl ((TxState.start env).run env events)).1 ≠ .fault ∧
      ((∃ octets, (safeSend env hdr acl ((TxState.start env).run env events)).1 = .sent octets) ↔
        (payloadScript env.parser acl com.dict).ending = .returned () ∧
          Fits env acl com (sizes env ((TxState.start env).run env events))) := by
  have ready := run_ready words (ready_start words) events
  generalize (TxState.start env).run env events = s at ready
  have left : s.blockCount + (maxMsgBlock - s.blockCount) = maxMsgBlock := Nat.add_sub_cancel' ready.bounded
  have sound : (payloadScript env.parser acl com.dict).ending ≠ .fault :=
    scriptWithin_ne_fault groups (Nat.lt_succ_self _) encodable
  refine ⟨sendLoop_ne_fault words sendable sound ready (Nat.le_of_eq left), ?_⟩
  by_cases ended : (payloadScript env.parser acl com.dict).ending = .returned ()
  · rw [and_iff_right ended]
    exact sendLoop_fits_iff words sendable ended ready left
  · refine iff_of_false ?_ fun fits => ended fits.1
    rintro ⟨octets, sent⟩
    exact ended (sendLoop_sent words sendable ready (Nat.le_of_eq left) sent).1

def relayCommand : DiameterCommand := ⟨275, 0, true, true, relayDictionary⟩

def relaySender : CollectorEnv where
  commands := [relayCommand]
  parser := relayEnv
  rxBufferSize := 3072
  alloc := fun _ => true
  atLeast := by decide
  atMost := by decide

def relayHeader : MsgHeader := ⟨1, 0, true, true, false, false, 275, 0, 7, 8, none⟩

theorem sendable_relay : Sendable relaySender relayHeader relayCommand := ⟨by decide, by decide⟩

theorem safeSend_sent_iff_relay :
    (safeSend relaySender relayHeader relayList
        ((TxState.start relaySender).run relaySender [.send relayHeader [], .restart])).1 ≠ .fault ∧
      ((∃ octets, (safeSend relaySender relayHeader relayList
          ((TxState.start relaySender).run relaySender [.send relayHeader [], .restart])).1 = .sent octets) ↔
        (payloadScript relayEnv relayList relayDictionary).ending = .returned () ∧
          Fits relaySender relayList relayCommand
            (sizes relaySender ((TxState.start relaySender).run relaySender [.send relayHeader [], .restart]))) :=
  safeSend_sent_iff rfl encodable_relay_groups sendable_relay regular_relay.encodable _

end Runs

end OpenDiameter.Transport
