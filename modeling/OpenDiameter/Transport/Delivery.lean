import OpenDiameter.Transport.Sender
import OpenDiameter.Transport.Termination

/-! What a collector receives of the octets that a collector sent.

The octets arrive in any pieces. A message is delivered with the call that brings its
last octet; what came of the next one waits in the buffer.
-/

set_option autoImplicit false

namespace OpenDiameter.Transport

open Foundation OpenDiameter.Parser

/-- A message on the wire, and what is read from it. -/
structure Frame where
  octets : Octets
  hdr : MsgHeader
  acl : AvpContainerList

structure Framed (env : CollectorEnv) (f : Frame) : Prop where
  long : headerSize < f.octets.length
  header : parseMsgHeader env.commands f.octets = (f.hdr, none)
  length : f.hdr.length = f.octets.length
  opened : ∀ more, openMessage env (f.octets ++ more) f.octets.length f.hdr = .message f.hdr f.acl
  handled : f.hdr.dictHandle.isSome = true

def stream (frames : List Frame) : Octets := frames.flatMap Frame.octets

def Frame.callback (f : Frame) : Callback := .message f.hdr f.acl

def complete : List Frame → Nat → List Frame
  | [], _ => []
  | f :: frames, count =>
    if f.octets.length ≤ count then f :: complete frames (count - f.octets.length) else []

section Buffers

variable {env : CollectorEnv}

def RxState.held (rx : RxState) : Octets := rx.memory.take rx.offset

theorem length_held {rx : RxState} (inside : rx.offset ≤ rx.memory.length) : rx.held.length = rx.offset := by
  rw [RxState.held, List.length_take, Nat.min_eq_left inside]

theorem held_consume {rx : RxState} (inside : rx.offset ≤ rx.memory.length) :
    rx.consume.held = rx.held.drop rx.msgLength := by
  have size := consume_length inside
  unfold RxState.held
  rw [consume_offset, List.drop_take]
  unfold RxState.consume
  dsimp only
  by_cases behind : rx.msgLength < rx.offset
  · rw [if_pos behind, List.take_left' (by rw [List.length_take, length_copyDown]; omega), copyDown, splice, List.take_zero,
      List.nil_append, List.take_left' (by rw [List.length_take, List.length_drop]; omega)]
  · rw [show rx.offset - rx.msgLength = 0 by omega, List.take_zero, List.take_zero]

theorem held_copyIn {s : Receiving} (inside : s.rx.offset ≤ s.rx.memory.length) :
    s.copyIn.rx.held ++ s.copyIn.data = s.rx.held ++ s.data := by
  have room : s.rx.offset + (s.data.take (min s.data.length (s.rx.memory.length - s.rx.offset))).length ≤ s.rx.memory.length := by
    rw [List.length_take]
    omega
  have copied : s.copyIn.rx.held = s.rx.held ++ s.data.take (min s.data.length (s.rx.memory.length - s.rx.offset)) := by
    unfold RxState.held Receiving.copyIn
    dsimp only
    rw [splice]
    refine List.take_left' ?_
    rw [List.length_append, List.length_take, List.length_take]
    omega
  rw [copied, List.append_assoc]
  exact congrArg (s.rx.held ++ ·) (List.take_append_drop _ _)

theorem open_framed {f : Frame} (framed : Framed env f) {hdr : MsgHeader} (known : hdr = f.hdr ∨ hdr = .blank)
    (more : Octets) : openMessage env (f.octets ++ more) f.octets.length hdr = .message f.hdr f.acl := by
  rcases known with rfl | rfl
  · exact framed.opened more
  · have front : (f.octets ++ more).take headerSize = f.octets.take headerSize :=
      List.take_append_of_le_length (Nat.le_of_lt framed.long)
    have same := parseMsgHeader_congr env.commands front
    have opened := framed.opened more
    obtain ⟨com, handle⟩ := Option.isSome_iff_exists.mp framed.handled
    unfold openMessage at opened ⊢
    rw [handle] at opened
    rw [same, framed.header]
    dsimp only [MsgHeader.blank]
    rw [handle]
    exact opened

end Buffers

section Turns

variable {env : CollectorEnv} {s : Receiving} {frames : List Frame} {later : Octets}

structure Streaming (env : CollectorEnv) (s : Receiving) (frames : List Frame) (later : Octets) : Prop where
  formed : s.rx.WellFormed
  clean : s.hasHeaderError = false
  framed : ∀ f ∈ frames, Framed env f
  rest : s.rx.held ++ (s.data ++ later) = stream frames
  known : s.rx.msgLength = 0 ∨
    headerSize < s.rx.offset ∧ ∃ f others, frames = f :: others ∧ s.rx.msgLength = f.octets.length
  idle : s.inner = false →
    s.rx.offset ≤ headerSize ∨ s.rx.offset < s.rx.msgLength ∧ s.rx.msgLength ≤ s.rx.memory.length

/-- The octets of the stream that the call has. -/
def Receiving.arrived (s : Receiving) : Nat := s.rx.offset + s.data.length

inductive Delivers (env : CollectorEnv) (arrived : Nat) (later : Octets) :
    List Frame → List Callback × Turn Receiving CallEnd → Prop where
  | wait {frames : List Frame} {next : Receiving} : Streaming env next frames later →
      next.arrived = arrived → Delivers env arrived later frames ([], .again next)
  | frame {f : Frame} {others : List Frame} {next : Receiving} : Streaming env next others later →
      f.octets.length + next.arrived = arrived → Delivers env arrived later (f :: others) ([f.callback], .again next)

theorem Streaming.some (streaming : Streaming env s frames later) (long : headerSize < s.rx.offset) :
    ∃ f others, frames = f :: others := by
  cases frames with
  | cons f others => exact ⟨f, others, rfl⟩
  | nil =>
    have size := length_held streaming.formed.inside
    have nothing := congrArg List.length streaming.rest
    rw [List.length_append, size, stream, List.flatMap_nil, List.length_nil] at nothing
    omega

theorem Streaming.front {f : Frame} {others : List Frame} (streaming : Streaming env s (f :: others) later)
    (long : headerSize < s.rx.offset) : s.rx.memory.take headerSize = f.octets.take headerSize := by
  have size := length_held streaming.formed.inside
  have framed := streaming.framed f List.mem_cons_self
  have rest := congrArg (List.take headerSize) streaming.rest
  rw [stream, List.flatMap_cons, List.take_append_of_le_length (by omega),
    List.take_append_of_le_length (Nat.le_of_lt framed.long), RxState.held, List.take_take,
    Nat.min_eq_left (Nat.le_of_lt long)] at rest
  exact rest

theorem front_held {f : Frame} {others : List Frame} (streaming : Streaming env s (f :: others) later)
    (arrived : f.octets.length ≤ s.rx.offset) :
    s.rx.held = f.octets ++ s.rx.held.drop f.octets.length := by
  have size := length_held streaming.formed.inside
  have rest := streaming.rest
  rw [stream, List.flatMap_cons] at rest
  have front : s.rx.held.take f.octets.length = f.octets := by
    have taken := congrArg (List.take f.octets.length) rest
    rw [List.take_append_of_le_length (by omega), List.take_left] at taken
    exact taken
  have parts := List.take_append_drop f.octets.length s.rx.held
  rw [front] at parts
  exact parts.symm

theorem frameTurn_framed (grants : ∀ size, env.alloc size = true) {f : Frame} {others : List Frame}
    (streaming : Streaming env s (f :: others) later) (inner : s.inner = true) (long : headerSize < s.rx.offset)
    (announced : s.rx.msgLength = f.octets.length) {hdr : MsgHeader} (known : hdr = f.hdr ∨ hdr = .blank) :
    Delivers env s.arrived later (f :: others) (frameTurn env s hdr) := by
  have formed := streaming.formed
  have inside := formed.inside
  have large := formed.large
  unfold frameTurn
  dsimp only
  -- The frame is not there yet: the buffer may have to grow.
  by_cases short : s.rx.offset < s.rx.msgLength
  · rw [if_pos short]
    by_cases small : s.rx.memory.length < s.rx.msgLength
    · rw [if_pos small, if_pos (grants _)]
      refine .wait ⟨⟨?_, ?_⟩, streaming.clean, streaming.framed, ?_, .inr ⟨long, f, others, rfl, announced⟩, ?_⟩ rfl
      · dsimp only
        rw [List.length_append]
        omega
      · dsimp only
        rw [List.length_append]
        omega
      · have held : (s.rx.memory ++ List.replicate (s.rx.msgLength + 1 - s.rx.memory.length) (0 : UInt8)).take s.rx.offset =
            s.rx.held := List.take_append_of_le_length inside
        rw [← streaming.rest, RxState.held]
        dsimp only
        rw [held]
      · intro outer
        rw [inner] at outer
        cases outer
    · rw [if_neg small]
      exact .wait ⟨formed, streaming.clean, streaming.framed, streaming.rest, streaming.known,
        fun _ => .inr ⟨short, Nat.not_lt.mp small⟩⟩ rfl
  -- The frame is there: it is opened, delivered and taken out of the buffer.
  · rw [if_neg short, streaming.clean, if_neg Bool.false_ne_true]
    have arrived : f.octets.length ≤ s.rx.offset := by omega
    have front := front_held streaming arrived
    -- The buffer begins with the frame, so that the parser is given exactly its octets.
    have memory : s.rx.memory = f.octets ++ (s.rx.held.drop f.octets.length ++ s.rx.memory.drop s.rx.offset) := by
      rw [← List.append_assoc, ← front]
      exact (List.take_append_drop _ _).symm
    have opened : openMessage env s.rx.memory s.rx.msgLength hdr = .message f.hdr f.acl := by
      rw [announced, memory]
      exact open_framed (streaming.framed f List.mem_cons_self) known _
    rw [opened]
    dsimp only
    generalize reset : ({ s.rx with persistent := freshErrors s.rx.memory.length } : RxState) = rx
    have inside' : rx.offset ≤ rx.memory.length := by rw [← reset]; exact inside
    have formed' : rx.WellFormed := by rw [← reset]; exact ⟨inside, large⟩
    have taken : rx.consume.held = s.rx.held.drop f.octets.length := by
      rw [held_consume inside', ← announced, ← reset]
      rfl
    have offset : rx.consume.offset = s.rx.offset - f.octets.length := by
      rw [consume_offset, ← reset, ← announced]
    refine .frame ⟨formed'.consume, rfl, fun g member => ?_, ?_, .inl rfl, ?_⟩ ?_
    · exact streaming.framed g (List.mem_cons_of_mem f member)
    · have rest := streaming.rest
      rw [front, stream, List.flatMap_cons, List.append_assoc] at rest
      rw [taken]
      exact List.append_cancel_left rest
    · intro outer
      rw [inner] at outer
      cases outer
    · unfold Receiving.arrived
      dsimp only
      rw [offset]
      omega

theorem innerTurn_framed (grants : ∀ size, env.alloc size = true) (streaming : Streaming env s frames later)
    (inner : s.inner = true) : Delivers env s.arrived later frames (innerTurn env s) := by
  unfold innerTurn
  by_cases short : s.rx.offset ≤ headerSize
  · rw [if_pos short]
    exact .wait ⟨streaming.formed, streaming.clean, streaming.framed, streaming.rest, streaming.known, fun _ => .inl short⟩ rfl
  · rw [if_neg short]
    have long : headerSize < s.rx.offset := Nat.not_le.mp short
    obtain ⟨f, others, rfl⟩ := streaming.some long
    have framed := streaming.framed f List.mem_cons_self
    by_cases fresh : s.rx.msgLength = 0
    · rw [if_pos fresh]
      rw [parseMsgHeader_congr env.commands (streaming.front long), framed.header]
      dsimp only
      have announced : ({ s.rx with msgLength := f.hdr.length } : RxState).msgLength = f.octets.length := framed.length
      have turned := @frameTurn_framed env
        { s with rx := { s.rx with msgLength := f.hdr.length }, hasHeaderError := false } later grants f others
        ⟨⟨streaming.formed.inside, streaming.formed.large⟩, rfl, streaming.framed, streaming.rest,
          .inr ⟨long, f, others, rfl, announced⟩, fun outer => by rw [inner] at outer; cases outer⟩
        inner long announced f.hdr (.inl rfl)
      exact turned
    · rw [if_neg fresh]
      obtain ⟨-, f', others', same, announced⟩ := streaming.known.resolve_left fresh
      cases same
      exact frameTurn_framed grants streaming inner long announced (.inr rfl)

theorem Streaming.moves (streaming : Streaming env s frames later) : ¬Stalls env s := by
  rintro ⟨-, long, -, zero, -⟩
  obtain ⟨f, others, rfl⟩ := streaming.some long
  have framed := streaming.framed f List.mem_cons_self
  have longer := framed.long
  rw [parseMsgHeader_congr env.commands (streaming.front long), framed.header] at zero
  rw [← framed.length, zero] at longer
  exact Nat.not_lt_zero _ longer

theorem outerTurn_framed (streaming : Streaming env s frames later) (some : s.data ≠ []) :
    Delivers env s.arrived later frames (outerTurn s) := by
  have inside := streaming.formed.inside
  have large := streaming.formed.large
  have size := copyIn_length inside
  have offset : s.copyIn.rx.offset = s.rx.offset + min s.data.length (s.rx.memory.length - s.rx.offset) := rfl
  have left : s.copyIn.data = s.data.drop (min s.data.length (s.rx.memory.length - s.rx.offset)) := rfl
  rw [outerTurn, if_neg some]
  refine .wait ⟨⟨by omega, by omega⟩, streaming.clean, streaming.framed, ?_, ?_, fun outer => by cases outer⟩ ?_
  · rw [← List.append_assoc, held_copyIn inside, List.append_assoc]
    exact streaming.rest
  · rcases streaming.known with fresh | ⟨long, known⟩
    · exact .inl fresh
    · exact .inr ⟨by omega, known⟩
  · rw [Receiving.arrived, Receiving.arrived, offset, left, List.length_drop]
    omega

theorem Streaming.partial_front {f : Frame} {others : List Frame} (streaming : Streaming env s (f :: others) later)
    (outer : s.inner = false) : s.rx.offset < f.octets.length := by
  have long := (streaming.framed f List.mem_cons_self).long
  rcases streaming.idle outer with short | ⟨short, -⟩
  · omega
  · rcases streaming.known with fresh | ⟨-, f', others', same, announced⟩
    · omega
    · cases same
      omega

end Turns

section Calls

variable {env : CollectorEnv} {later : Octets}

abbrev Waiting (env : CollectorEnv) (rx : RxState) (frames : List Frame) (later : Octets) : Prop :=
  Streaming env ⟨rx, false, [], false⟩ frames later

theorem call_framed (grants : ∀ size, env.alloc size = true) {s : Receiving} {frames : List Frame}
    (streaming : Streaming env s frames later) :
    ∃ rx whole rest, (receive env).Ends s (whole.map Frame.callback) (.returned (some rx)) ∧ Waiting env rx rest later ∧
      frames = whole ++ rest ∧ (stream whole).length + rx.offset = s.arrived := by
  induction left : workLeft s using Nat.strong_induction_on generalizing s frames with
  | _ work ih =>
    by_cases stops : s.inner = false ∧ s.data = []
    · obtain ⟨outer, nothing⟩ := stops
      refine ⟨s.rx, [], frames, .done ?_, ?_, rfl, ?_⟩
      · rw [receive, outer, if_neg Bool.false_ne_true, outerTurn, if_pos nothing]
        rfl
      · have rest := streaming.rest
        rw [nothing] at rest
        exact ⟨streaming.formed, rfl, streaming.framed, rest, streaming.known, fun _ => streaming.idle outer⟩
      · rw [Receiving.arrived, nothing]
        exact Nat.zero_add _
    · have turned : Delivers env s.arrived later frames (receive env s) := by
        rw [receive]
        cases inner : s.inner with
        | true => exact innerTurn_framed grants streaming inner
        | false => exact outerTurn_framed streaming fun nothing => stops ⟨inner, nothing⟩
      generalize reached : receive env s = result at turned
      cases turned with
      | @wait frames next streaming' arrived =>
        have less := workLeft_decreases streaming.formed streaming.moves reached
        obtain ⟨rx, whole, rest, ends, waiting, parts, count⟩ := ih _ (by omega) streaming' rfl
        exact ⟨rx, whole, rest, .again reached ends, waiting, parts, count.trans arrived⟩
      | @frame f others next streaming' arrived =>
        have less := workLeft_decreases streaming.formed streaming.moves reached
        obtain ⟨rx, whole, rest, ends, waiting, parts, count⟩ := ih _ (by omega) streaming' rfl
        refine ⟨rx, f :: whole, rest, .again reached ends, waiting, congrArg (f :: ·) parts, ?_⟩
        rw [stream, List.flatMap_cons, List.length_append, Nat.add_assoc, ← arrived]
        exact congrArg (f.octets.length + ·) count

theorem calls_framed (grants : ∀ size, env.alloc size = true) {chunks : List Octets} {rx : RxState} {frames : List Frame}
    (waiting : Waiting env rx frames (chunks.flatten ++ later)) :
    ∃ rx' whole rest, Messages env ⟨true, some rx⟩ chunks (whole.map Frame.callback) ⟨true, some rx'⟩ ∧
      Waiting env rx' rest later ∧ frames = whole ++ rest ∧
      (stream whole).length + rx'.offset = rx.offset + chunks.flatten.length := by
  induction chunks generalizing rx frames with
  | nil => exact ⟨rx, [], frames, .none, waiting, rfl, Nat.zero_add _⟩
  | cons chunk chunks ih =>
    have begun : Streaming env ⟨rx, false, chunk, false⟩ frames (chunks.flatten ++ later) := by
      have rest := waiting.rest
      rw [List.flatten_cons, List.append_assoc] at rest
      exact ⟨waiting.formed, rfl, waiting.framed, rest, waiting.known, waiting.idle⟩
    obtain ⟨middle, whole, rest, ends, waiting', rfl, count⟩ := call_framed grants begun
    obtain ⟨last, whole', rest', messages, waiting'', rfl, count'⟩ := ih waiting'
    refine ⟨last, whole ++ whole', rest', ?_, waiting'', (List.append_assoc _ _ _).symm, ?_⟩
    · rw [List.map_append]
      exact .next (.returned ends) messages
    · have total : (stream (whole ++ whole')).length = (stream whole).length + (stream whole').length := by
        rw [stream, List.flatMap_append, List.length_append]
        rfl
      rw [Receiving.arrived] at count
      rw [total, List.flatten_cons, List.length_append]
      dsimp only at count
      omega

theorem complete_eq {whole rest : List Frame} {offset count : Nat} (total : (stream whole).length + offset = count)
    (short : ∀ f others, rest = f :: others → offset < f.octets.length) : complete (whole ++ rest) count = whole := by
  induction whole generalizing count with
  | nil =>
    cases rest with
    | nil => rfl
    | cons f others =>
      have partial_front := short f others rfl
      have same : offset = count := (Nat.zero_add offset).symm.trans total
      rw [List.nil_append, complete, if_neg (by omega)]
  | cons f whole ih =>
    rw [stream, List.flatMap_cons, List.length_append] at total
    rw [List.cons_append, complete, if_pos (by omega)]
    refine congrArg (f :: ·) (ih ?_)
    rw [stream]
    omega

theorem waiting_construct (grants : ∀ size, env.alloc size = true) {frames : List Frame} (framed : ∀ f ∈ frames, Framed env f) :
    ∃ rx, Collector.construct env = ⟨true, some rx⟩ ∧ rx.offset = 0 ∧ Waiting env rx frames (stream frames) := by
  have atLeast := env.atLeast
  refine ⟨⟨List.replicate (headerSize + env.rxBufferSize) 0, 0, 0, freshErrors (headerSize + env.rxBufferSize)⟩, ?_, rfl,
    ⟨Nat.zero_le _, ?_⟩, rfl, framed, rfl, .inl rfl, fun _ => .inl (Nat.zero_le _)⟩
  · unfold Collector.construct
    dsimp only
    rw [if_pos (grants _)]
  · dsimp only
    rw [List.length_replicate]
    simp only [maxMsgLength] at atLeast
    omega

theorem stream_delivered (grants : ∀ size, env.alloc size = true) {frames : List Frame} (framed : ∀ f ∈ frames, Framed env f)
    {chunks : List Octets} (wire : chunks.flatten ++ later = stream frames) :
    ∃ last, Messages env (Collector.construct env) chunks ((complete frames chunks.flatten.length).map Frame.callback) last := by
  obtain ⟨rx, made, empty, waiting⟩ := waiting_construct grants framed
  rw [← wire] at waiting
  obtain ⟨last, whole, rest, messages, waiting', rfl, count⟩ := calls_framed grants waiting
  have same : complete (whole ++ rest) chunks.flatten.length = whole := by
    refine @complete_eq whole rest last.offset _ (by omega) fun f others front => ?_
    rw [front] at waiting'
    exact waiting'.partial_front rfl
  rw [made, same]
  exact ⟨_, messages⟩

theorem message_unique {c last last' : Collector} {data : Octets} {callbacks callbacks' : List Callback}
    (first : Message env c data callbacks last) (second : Message env c data callbacks' last') :
    callbacks = callbacks' ∧ last = last' := by
  cases first with
  | ignored off =>
    cases second with
    | ignored => exact ⟨rfl, rfl⟩
    | returned => rcases off with off | off <;> cases off
  | returned ends =>
    cases second with
    | ignored off => rcases off with off | off <;> cases off
    | returned ends' =>
      obtain ⟨same, after⟩ := ends.unique ends'
      cases after
      exact ⟨same, rfl⟩

theorem messages_unique {c last last' : Collector} {chunks : List Octets} {callbacks callbacks' : List Callback}
    (first : Messages env c chunks callbacks last) (second : Messages env c chunks callbacks' last') :
    callbacks = callbacks' ∧ last = last' := by
  induction first generalizing callbacks' with
  | none =>
    cases second
    exact ⟨rfl, rfl⟩
  | next call _ ih =>
    cases second with
    | next call' later' =>
      obtain ⟨rfl, rfl⟩ := message_unique call call'
      obtain ⟨rfl, same⟩ := ih later'
      exact ⟨rfl, same⟩

end Calls

section Link

open Foundation.Script

variable {env : CollectorEnv}

theorem Framed.share {tx rx : CollectorEnv} {f : Frame} (framed : Framed tx f) (commands : rx.commands = tx.commands)
    (parser : rx.parser = tx.parser) : Framed rx f := by
  refine ⟨framed.long, by rw [commands]; exact framed.header, framed.length, fun more => ?_, framed.handled⟩
  have opened := framed.opened more
  obtain ⟨com, handle⟩ := Option.isSome_iff_exists.mp framed.handled
  unfold openMessage at opened ⊢
  rw [handle] at opened ⊢
  dsimp only at opened ⊢
  unfold payload at opened ⊢
  rw [parser]
  exact opened

def TxEvent.posted (env : CollectorEnv) (s : TxState) : TxEvent → List Frame
  | .send hdr acl =>
    match (safeSend env hdr acl s).1, searchCommand env.commands hdr.code hdr.appId hdr.r with
    | .sent octets, some com =>
      [⟨octets, { hdr with length := octets.length, dictHandle := some com }, received env.parser acl com.dict⟩]
    | _, _ => []
  | .restart => []

def outbox (env : CollectorEnv) : TxState → List TxEvent → List Frame
  | _, [] => []
  | s, event :: events => event.posted env s ++ outbox env (s.step env event) events

/-- A message that the receiver understands: the bits of its header are the
command's, it has AVPs, and the decoder undoes the rules of its dictionary. -/
structure Deliverable (env : CollectorEnv) (hdr : MsgHeader) (acl : AvpContainerList) (com : DiameterCommand) : Prop where
  proxiable : hdr.p = true → com.p = true
  code : hdr.code.toNat < 2 ^ 24
  some : 0 < payloadSize env.parser acl com.dict
  regular : Regular env.parser com.dict

theorem framed_sent (groups : ∀ gavp ∈ env.parser.groupedAvpList, Regular env.parser gavp.dict) {hdr : MsgHeader}
    {acl : AvpContainerList} {com : DiameterCommand} (found : searchCommand env.commands hdr.code hdr.appId hdr.r = some com)
    (deliverable : Deliverable env hdr acl com) (ended : (payloadScript env.parser acl com.dict).ending = .returned ())
    (small : messageSize env acl com < 2 ^ 24) {image : Octets}
    (rendered : Renders (payloadScript env.parser acl com.dict).pieces image) :
    Framed env ⟨messageOctets hdr image, { hdr with length := (messageOctets hdr image).length, dictHandle := some com },
      received env.parser acl com.dict⟩ := by
  have count : image.length = payloadSize env.parser acl com.dict := renders_length rendered
  have some := deliverable.some
  rw [messageSize] at small
  have size : (messageOctets hdr image).length = headerSize + image.length := by
    rw [messageOctets, List.length_append, MsgHeader.length_octets]
  have front : (messageOctets hdr image).take headerSize = { hdr with length := headerSize + image.length }.octets :=
    List.take_left' (MsgHeader.length_octets _)
  have read : readMsgHeader { hdr with length := headerSize + image.length }.octets =
      { hdr with length := headerSize + image.length, dictHandle := none } := by
    have fits : (headerSize + image.length) % 2 ^ 24 = headerSize + image.length := Nat.mod_eq_of_lt (by omega)
    rw [readMsgHeader_octets]
    dsimp only
    rw [fits, Nat.mod_eq_of_lt deliverable.code, UInt32.ofNat_toNat]
  rw [size]
  refine ⟨?_, ?_, size.symm, fun more => ?_, rfl⟩
  · dsimp only
    omega
  · rw [parseMsgHeader_iff, front, read]
    exact ⟨com, found, deliverable.proxiable, rfl⟩
  · have decoded := receives_within groups (depthList acl + 1) deliverable.regular ended
      { hdr with length := headerSize + image.length }.octets image rendered (by omega)
    rw [MsgHeader.length_octets] at decoded
    have extended := (parseRawToAppWithDict_below (payloadBlock (messageOctets hdr image) headerSize) more com.dict).eq
      (by rw [messageOctets, decoded]; simp)
    have block : (payloadBlock (messageOctets hdr image) headerSize).extend more =
        ⟨messageOctets hdr image ++ more, headerSize + image.length, headerSize⟩ := by
      rw [payloadBlock, MessageBlock.extend, size]
    have opened : parseRawToAppWithDict env.parser ⟨messageOctets hdr image ++ more, headerSize + image.length, headerSize⟩
        com.dict = .returned (received env.parser acl com.dict) := by
      rw [← block, extended]
      exact decoded
    rw [openMessage]
    dsimp only
    rw [payload, size, opened]

theorem framed_posted (words : env.rxBufferSize % 4 = 0)
    (groups : ∀ gavp ∈ env.parser.groupedAvpList, Regular env.parser gavp.dict) {s : TxState} (ready : s.Ready env)
    {hdr : MsgHeader} {acl : AvpContainerList}
    (deliverable : ∀ com, searchCommand env.commands hdr.code hdr.appId hdr.r = some com → Deliverable env hdr acl com)
    {f : Frame} (member : f ∈ (TxEvent.send hdr acl).posted env s) : Framed env f := by
  unfold TxEvent.posted at member
  dsimp only at member
  cases sent : (safeSend env hdr acl s).1 with
  | sent octets =>
    rcases sendable_or env hdr with ⟨com, sendable⟩ | fails
    · have bounded := ready.bounded
      obtain ⟨ended, small, image, rendered, rfl⟩ := sendLoop_sent words sendable ready (by omega) sent
      rw [sent, sendable.found] at member
      rw [List.mem_singleton.mp member]
      exact framed_sent groups sendable.found (deliverable com sendable.found) ended small rendered
    · rcases @sendLoop_cases env hdr acl (maxMsgBlock - s.blockCount) s with finished | ⟨short, -⟩
      · rw [safeSend, finished, fails] at sent
        cases sent
      · rw [fails] at short
        cases short
  | failed => rw [sent] at member; cases member
  | escaped => rw [sent] at member; cases member
  | fault => rw [sent] at member; cases member

theorem framed_outbox (words : env.rxBufferSize % 4 = 0)
    (groups : ∀ gavp ∈ env.parser.groupedAvpList, Regular env.parser gavp.dict) {events : List TxEvent}
    (deliverable : ∀ hdr acl, .send hdr acl ∈ events → ∀ com,
      searchCommand env.commands hdr.code hdr.appId hdr.r = some com → Deliverable env hdr acl com)
    {s : TxState} (ready : s.Ready env) : ∀ f ∈ outbox env s events, Framed env f := by
  induction events generalizing s with
  | nil => exact fun f member => by cases member
  | cons event events ih =>
    intro f member
    rcases List.mem_append.mp member with now | later
    · cases event with
      | restart => cases now
      | send hdr acl => exact framed_posted words groups ready (deliverable hdr acl List.mem_cons_self) now
    · exact ih (fun hdr acl member => deliverable hdr acl (List.mem_cons_of_mem _ member))
        (run_ready words ready [event]) f later

/-- From the queue of one collector to the handler of the other: whatever is sent and in whatever
pieces it arrives, the handler gets the messages whose octets have all arrived, once
each, in the order they were sent, and with what the decoder makes of their containers. -/
theorem messages_delivered {tx rx : CollectorEnv} (commands : rx.commands = tx.commands) (parser : rx.parser = tx.parser)
    (grants : ∀ size, rx.alloc size = true) (words : tx.rxBufferSize % 4 = 0)
    (groups : ∀ gavp ∈ tx.parser.groupedAvpList, Regular tx.parser gavp.dict) {events : List TxEvent}
    (deliverable : ∀ hdr acl, .send hdr acl ∈ events → ∀ com,
      searchCommand tx.commands hdr.code hdr.appId hdr.r = some com → Deliverable tx hdr acl com)
    {chunks : List Octets} {later : Octets} (wire : chunks.flatten ++ later = stream (outbox tx (TxState.start tx) events)) :
    (∃ last, Messages rx (Collector.construct rx) chunks
      ((complete (outbox tx (TxState.start tx) events) chunks.flatten.length).map Frame.callback) last) ∧
    ∀ callbacks last, Messages rx (Collector.construct rx) chunks callbacks last →
      callbacks = (complete (outbox tx (TxState.start tx) events) chunks.flatten.length).map Frame.callback := by
  have framed : ∀ f ∈ outbox tx (TxState.start tx) events, Framed rx f := fun f member =>
    (framed_outbox words groups deliverable (ready_start words) f member).share commands parser
  obtain ⟨last, messages⟩ := stream_delivered grants framed wire
  exact ⟨⟨last, messages⟩, fun callbacks last' messages' => (messages_unique messages' messages).1⟩

def relayReceiver : CollectorEnv := { relaySender with rxBufferSize := 4096, atLeast := by decide, atMost := by decide }

def relayRun : List TxEvent := [.send relayHeader relayList, .restart, .send relayHeader relayList]

theorem deliverable_relay {com : DiameterCommand}
    (found : searchCommand relaySender.commands relayHeader.code relayHeader.appId relayHeader.r = some com) :
    Deliverable relaySender relayHeader relayList com := by
  rw [sendable_relay.found] at found
  cases found
  exact ⟨fun _ => rfl, by decide, by decide +kernel, regular_relay⟩

def relayStream : Octets := stream (outbox relaySender (TxState.start relaySender) relayRun)

theorem messages_delivered_relay :
    (∃ last, Messages relayReceiver (Collector.construct relayReceiver) [relayStream.take 30]
      ((complete (outbox relaySender (TxState.start relaySender) relayRun) [relayStream.take 30].flatten.length).map
        Frame.callback) last) ∧
    ∀ callbacks last, Messages relayReceiver (Collector.construct relayReceiver) [relayStream.take 30] callbacks last →
      callbacks = (complete (outbox relaySender (TxState.start relaySender) relayRun)
        [relayStream.take 30].flatten.length).map Frame.callback := by
  have deliverable : ∀ hdr acl, TxEvent.send hdr acl ∈ relayRun → ∀ com,
      searchCommand relaySender.commands hdr.code hdr.appId hdr.r = some com → Deliverable relaySender hdr acl com := by
    intro hdr acl member com found
    obtain ⟨rfl, rfl⟩ : hdr = relayHeader ∧ acl = relayList := by
      simpa [relayRun] using member
    exact deliverable_relay found
  have wire : [relayStream.take 30].flatten ++ relayStream.drop 30 =
      stream (outbox relaySender (TxState.start relaySender) relayRun) := by
    rw [List.flatten_singleton]
    exact List.take_append_drop 30 relayStream
  exact @messages_delivered relaySender relayReceiver rfl rfl (fun _ => rfl) rfl regular_relay_groups relayRun deliverable
    [relayStream.take 30] (relayStream.drop 30) wire

end Link

end OpenDiameter.Transport
