import OpenDiameter.Parser.Coverage
import OpenDiameter.Transport.Collector

/-! Which calls of `DiameterRxMsgCollector::Message` come back.

Every turn of the inner loop leaves it, grows the buffer or takes octets out of it,
except one that begins a message and finds the length zero. Such a turn leaves the
buffer as it was, so the loop never ends.
-/

set_option autoImplicit false

namespace OpenDiameter.Transport

open Foundation OpenDiameter.Parser

section Buffers

structure RxState.WellFormed (rx : RxState) : Prop where
  inside : rx.offset ≤ rx.memory.length
  large : headerSize < rx.memory.length

@[simp] theorem length_copyDown (memory : Octets) (start count : Nat) :
    (copyDown memory start count).length = memory.length := by
  apply length_splice
  rw [List.length_take, List.length_drop]
  omega

@[simp] theorem consume_offset (rx : RxState) : rx.consume.offset = rx.offset - rx.msgLength := rfl

@[simp] theorem consume_msgLength (rx : RxState) : rx.consume.msgLength = 0 := rfl

theorem consume_length {rx : RxState} (inside : rx.offset ≤ rx.memory.length) :
    rx.consume.memory.length = rx.memory.length := by
  unfold RxState.consume
  dsimp only
  rw [List.length_append, List.length_take, List.length_replicate]
  split
  · rw [length_copyDown]
    omega
  · omega

theorem copyIn_length {s : Receiving} (inside : s.rx.offset ≤ s.rx.memory.length) :
    s.copyIn.rx.memory.length = s.rx.memory.length := by
  unfold Receiving.copyIn
  apply length_splice
  rw [List.length_take]
  omega

theorem RxState.WellFormed.consume {rx : RxState} (formed : rx.WellFormed) : rx.consume.WellFormed := by
  have length := consume_length formed.inside
  constructor
  · rw [length, consume_offset]
    exact Nat.le_trans (Nat.sub_le _ _) formed.inside
  · rw [length]
    exact formed.large

end Buffers

section Turns

variable {env : CollectorEnv} {s next : Receiving} {callbacks : List Callback}

/-- What a turn over a message does when it asks for another one. -/
inductive FrameStep (s : Receiving) : Receiving → Prop where
  | grow : s.rx.offset < s.rx.msgLength → s.rx.memory.length < s.rx.msgLength →
      FrameStep s { s with rx := { s.rx with
        memory := s.rx.memory ++ List.replicate (s.rx.msgLength + 1 - s.rx.memory.length) 0 } }
  | wait : s.rx.offset < s.rx.msgLength → s.rx.msgLength ≤ s.rx.memory.length →
      FrameStep s { s with inner := false }
  | consumed (persistent : RangedValue) : s.rx.msgLength ≤ s.rx.offset →
      FrameStep s { s with rx := { s.rx with persistent }.consume }

theorem frameTurn_again {hdr : MsgHeader} (turned : frameTurn env s hdr = (callbacks, .again next)) :
    FrameStep s next := by
  unfold frameTurn at turned
  dsimp only at turned
  split at turned
  case isTrue short =>
    split at turned
    case isTrue small =>
      split at turned
      · cases turned
        exact .grow short small
      · cases turned
    case isFalse enough =>
      cases turned
      exact .wait short (Nat.le_of_not_lt enough)
  case isFalse complete =>
    have whole := Nat.le_of_not_lt complete
    split at turned
    · cases turned
      exact .consumed s.rx.persistent whole
    · split at turned
      · cases turned
        exact .consumed _ whole
      · cases turned
      · cases turned
      · cases turned
      · cases turned

/-- What a turn of the inner loop does when it asks for another one. -/
inductive InnerStep (env : CollectorEnv) (s : Receiving) : Receiving → Prop where
  | short : s.rx.offset ≤ headerSize → InnerStep env s { s with inner := false }
  | resynchronised (persistent : RangedValue) : headerSize < s.rx.offset → s.rx.msgLength = 0 →
      InnerStep env s { s with rx := { s.rx with
        offset := s.rx.offset - 4, memory := copyDown s.rx.memory 4 (s.rx.offset - 4), persistent } }
  | begun {next : Receiving} (hasHeaderError : Bool) : headerSize < s.rx.offset → s.rx.msgLength = 0 →
      FrameStep { s with
        rx := { s.rx with msgLength := (parseMsgHeader env.commands s.rx.memory).1.length }
        hasHeaderError } next →
      InnerStep env s next
  | continued {next : Receiving} : headerSize < s.rx.offset → s.rx.msgLength ≠ 0 →
      FrameStep s next → InnerStep env s next

theorem innerTurn_again (turned : innerTurn env s = (callbacks, .again next)) :
    InnerStep env s next := by
  unfold innerTurn at turned
  split at turned
  case isTrue short =>
    cases turned
    exact .short short
  case isFalse long =>
    have enough := Nat.lt_of_not_le long
    split at turned
    case isTrue fresh =>
      dsimp only at turned
      split at turned
      · exact .begun false enough fresh (frameTurn_again turned)
      · split at turned
        · unfold resynchronise at turned
          dsimp only at turned
          split at turned
          · cases turned
          · cases turned
            exact .resynchronised _ enough fresh
        · split at turned
          · obtain ⟨-, same⟩ := Prod.mk.inj turned
            exact .begun true enough fresh (frameTurn_again (Prod.ext rfl same))
          · cases turned
    case isFalse pending => exact .continued enough pending (frameTurn_again turned)

theorem receive_again (turned : receive env s = (callbacks, .again next)) :
    s.inner = true ∧ InnerStep env s next ∨
      s.inner = false ∧ s.data ≠ [] ∧ outerTurn s = (callbacks, .again next) := by
  unfold receive at turned
  cases inner : s.inner with
  | true =>
    rw [inner] at turned
    exact .inl ⟨rfl, innerTurn_again turned⟩
  | false =>
    rw [inner] at turned
    refine .inr ⟨rfl, ?_, turned⟩
    intro empty
    simp [outerTurn, empty] at turned

theorem FrameStep.wellFormed (formed : s.rx.WellFormed) (step : FrameStep s next) :
    next.rx.WellFormed := by
  have inside := formed.inside
  have large := formed.large
  cases step with
  | grow _ small =>
    constructor
    · simp only [List.length_append]
      omega
    · simp only [List.length_append]
      omega
  | wait => exact formed
  | consumed persistent whole => exact RxState.WellFormed.consume ⟨inside, large⟩

theorem receive_wellFormed (formed : s.rx.WellFormed)
    (turned : receive env s = (callbacks, .again next)) : next.rx.WellFormed := by
  have inside := formed.inside
  have large := formed.large
  rcases receive_again turned with ⟨-, step⟩ | ⟨-, -, copied⟩
  · cases step with
    | short => exact formed
    | resynchronised persistent long fresh =>
      constructor
      · rw [length_copyDown]
        exact Nat.le_trans (Nat.sub_le _ _) inside
      · rw [length_copyDown]
        exact large
    | begun hasHeaderError long fresh step =>
      apply FrameStep.wellFormed _ step
      exact ⟨inside, large⟩
    | continued long pending step => exact step.wellFormed formed
  · unfold outerTurn at copied
    split at copied
    · cases copied
    · cases copied
      have length := copyIn_length inside
      constructor
      · rw [length]
        unfold Receiving.copyIn
        dsimp only
        omega
      · rw [length]
        exact large

end Turns

section Progress

variable {env : CollectorEnv} {s next : Receiving} {callbacks : List Callback}

def goesOnEmpty (env : CollectorEnv) (memory : Octets) : Bool :=
  match (parseMsgHeader env.commands memory).2 with
  | none =>
    match openMessage env memory 0 (parseMsgHeader env.commands memory).1 with
    | .message _ _ => true
    | .refused | .bug | .terminated | .fault => false
  | some (.normal code) => code ≠ .commandUnsupported
  | some (.bug _) => false

/-- A message begins whose length field is zero, with a command that is found. -/
def Stalls (env : CollectorEnv) (s : Receiving) : Prop :=
  s.inner = true ∧ headerSize < s.rx.offset ∧ s.rx.msgLength = 0 ∧
    (parseMsgHeader env.commands s.rx.memory).1.length = 0 ∧ goesOnEmpty env s.rx.memory = true

instance (env : CollectorEnv) (s : Receiving) : Decidable (Stalls env s) :=
  inferInstanceAs (Decidable (_ ∧ _ ∧ _ ∧ _ ∧ _))

def announced (env : CollectorEnv) (rx : RxState) : Nat :=
  if rx.msgLength = 0 then (parseMsgHeader env.commands rx.memory).1.length else rx.msgLength

/-- The payload of a message breaks a rule of its command or the encoding of a value,
has an IPAddress of fewer than two octets, or goes beyond the buffer. -/
def undecoded (env : CollectorEnv) (memory : Octets) (length : Nat) (com : DiameterCommand) : Bool :=
  match parseRawToAppWithDict env.parser ⟨memory, length, headerSize⟩ com.dict with
  | .returned _ => false
  | .thrown st =>
    match st.error with
    | .normal _ => true
    | .bug _ => false
  | .escaped => true
  | .fault => true

/-- All octets of a message of a known command are there, and its payload cannot be decoded. -/
def Spoils (env : CollectorEnv) (s : Receiving) : Prop :=
  s.inner = true ∧ headerSize < s.rx.offset ∧ announced env s.rx ≤ s.rx.offset ∧
    (s.rx.msgLength = 0 ∨ s.hasHeaderError = false) ∧
    ∃ com, (parseMsgHeader env.commands s.rx.memory).1.dictHandle = some com ∧
      undecoded env s.rx.memory (announced env s.rx) com = true

/-- A turn of the inner loop leaves it, grows the buffer, or takes octets out of it. -/
def Progresses (env : CollectorEnv) (s : Receiving) : Prop :=
  ∀ callbacks next, receive env s = (callbacks, .again next) → next.inner = false ∨
    s.rx.memory.length < next.rx.memory.length ∨ next.rx.offset < s.rx.offset

theorem FrameStep.progress (positive : 0 < s.rx.msgLength) (step : FrameStep s next) :
    (next.inner = false ∧ next.rx = s.rx ∧ s.rx.offset < s.rx.msgLength ∧
        s.rx.msgLength ≤ s.rx.memory.length) ∨
      (next.inner = s.inner ∧ s.rx.memory.length < s.rx.msgLength ∧ next.rx.offset = s.rx.offset ∧
        next.rx.msgLength = s.rx.msgLength ∧ next.rx.memory.length = s.rx.msgLength + 1) ∨
      next.inner = s.inner ∧ next.rx.offset < s.rx.offset := by
  cases step with
  | grow short small =>
    refine .inr (.inl ⟨rfl, small, rfl, rfl, ?_⟩)
    rw [List.length_append, List.length_replicate]
    omega
  | wait short enough => exact .inl ⟨rfl, rfl, short, enough⟩
  | consumed persistent whole =>
    refine .inr (.inr ⟨rfl, ?_⟩)
    rw [consume_offset]
    dsimp only
    omega

theorem FrameStep.data (step : FrameStep s next) : next.data = s.data := by
  cases step <;> rfl

theorem stalls_of_again (inner : s.inner = true) (long : headerSize < s.rx.offset)
    (fresh : s.rx.msgLength = 0)
    (zero : (parseMsgHeader env.commands s.rx.memory).1.length = 0)
    (turned : receive env s = (callbacks, .again next)) (kept : s.rx.offset ≤ next.rx.offset) :
    Stalls env s := by
  refine ⟨inner, long, fresh, zero, ?_⟩
  unfold goesOnEmpty
  unfold receive at turned
  rw [if_pos inner] at turned
  unfold innerTurn at turned
  rw [if_neg (Nat.not_le_of_lt long), if_pos fresh] at turned
  dsimp only at turned
  split at turned
  case h_1 accepted =>
    rw [accepted]
    dsimp only
    unfold frameTurn at turned
    dsimp only at turned
    rw [zero, if_neg (Nat.not_lt_zero _), if_neg Bool.false_ne_true] at turned
    cases opened : openMessage env s.rx.memory 0 (parseMsgHeader env.commands s.rx.memory).1 with
    | message hdr acl => rfl
    | refused | bug | terminated | fault =>
      rw [opened] at turned
      cases turned
  case h_2 error refused =>
    rw [refused]
    split at turned
    case isTrue unsupported =>
      unfold resynchronise at turned
      dsimp only at turned
      split at turned
      · cases turned
      · cases turned
        dsimp only [headerSize] at kept long
        omega
    case isFalse other =>
      cases error with
      | normal code =>
        apply decide_eq_true
        rintro rfl
        apply other
        rw [zero]
        exact ⟨rfl, rfl⟩
      | bug code => cases turned

theorem receive_progress (formed : s.rx.WellFormed) (moves : ¬Stalls env s) (inner : s.inner = true)
    (turned : receive env s = (callbacks, .again next)) :
    (next.inner = false ∧ next.rx.offset = s.rx.offset ∧ next.rx.offset < next.rx.memory.length) ∨
      (next.inner = true ∧ next.rx.offset = s.rx.offset ∧ 0 < next.rx.msgLength ∧
        next.rx.msgLength < next.rx.memory.length ∧ s.rx.memory.length < next.rx.memory.length ∧
        (s.rx.msgLength = 0 ∨ s.rx.memory.length < s.rx.msgLength)) ∨
      next.inner = true ∧ next.rx.offset < s.rx.offset := by
  have large := formed.large
  rcases receive_again turned with ⟨-, step⟩ | ⟨outer, -⟩
  -- The turn leaves the inner loop, grows the buffer, or takes something out of it.
  · cases step with
    | short few => exact .inl ⟨rfl, rfl, Nat.lt_of_le_of_lt few large⟩
    | resynchronised persistent long fresh =>
      refine .inr (.inr ⟨inner, ?_⟩)
      dsimp only [headerSize] at long ⊢
      omega
    | begun hasHeaderError long fresh step =>
      -- A header that says 0 takes something out, or stalls.
      rcases Nat.eq_zero_or_pos (parseMsgHeader env.commands s.rx.memory).1.length with zero | positive
      · right
        right
        rcases Nat.lt_or_ge next.rx.offset s.rx.offset with less | kept
        · cases step with
          | grow short _ | wait short _ =>
            dsimp only at short
            omega
          | consumed persistent whole => exact ⟨inner, less⟩
        · exact absurd (stalls_of_again inner long fresh zero turned kept) moves
      · rcases step.progress positive with
          ⟨left, same, short, enough⟩ | ⟨stays, small, offset, length, grown⟩ | ⟨stays, less⟩
        · left
          rw [same]
          exact ⟨left, rfl, Nat.lt_of_lt_of_le short enough⟩
        · refine .inr (.inl ⟨stays.trans inner, offset, ?_, ?_, ?_, .inl fresh⟩)
          · rw [length]
            exact positive
          · rw [length, grown]
            exact Nat.lt_succ_self _
          · rw [grown]
            exact Nat.lt_succ_of_lt small
        · exact .inr (.inr ⟨stays.trans inner, less⟩)
    | continued long pending step =>
      rcases step.progress (Nat.pos_of_ne_zero pending) with
        ⟨left, same, short, enough⟩ | ⟨stays, small, offset, length, grown⟩ | ⟨stays, less⟩
      · left
        rw [same]
        exact ⟨left, rfl, Nat.lt_of_lt_of_le short enough⟩
      · refine .inr (.inl ⟨stays.trans inner, offset, ?_, ?_, ?_, .inr small⟩)
        · rw [length]
          exact Nat.pos_of_ne_zero pending
        · rw [length, grown]
          exact Nat.lt_succ_self _
        · rw [grown]
          exact Nat.lt_succ_of_lt small
      · exact .inr (.inr ⟨stays.trans inner, less⟩)
  · rw [inner] at outer
    cases outer

theorem receive_data (inner : s.inner = true) (turned : receive env s = (callbacks, .again next)) :
    next.data = s.data := by
  rcases receive_again turned with ⟨-, step⟩ | ⟨outer, -⟩
  · cases step with
    | short => rfl
    | resynchronised => rfl
    | begun hasHeaderError long fresh step => exact step.data
    | continued long pending step => exact step.data
  · rw [inner] at outer
    cases outer

/-- Twice the data that is left and the octets that are buffered, and within the
same number of octets the place in the two loops. -/
def workLeft (s : Receiving) : Nat :=
  4 * (2 * s.data.length + s.rx.offset) +
    if s.inner then
      if s.rx.msgLength = 0 ∨ s.rx.memory.length < s.rx.msgLength then 2 else 1
    else if s.rx.offset < s.rx.memory.length then 0 else 3

theorem workLeft_decreases (formed : s.rx.WellFormed) (moves : ¬Stalls env s)
    (turned : receive env s = (callbacks, .again next)) : workLeft next < workLeft s := by
  have inside := formed.inside
  unfold workLeft
  cases inner : s.inner with
  | true =>
    rw [receive_data inner turned]
    rcases receive_progress formed moves inner turned with
      ⟨left, offset, room⟩ | ⟨stays, offset, positive, fits, -, before⟩ | ⟨stays, less⟩
    · rw [left, offset, if_neg Bool.false_ne_true, if_pos rfl, if_pos (offset ▸ room)]
      split <;> omega
    · rw [stays, offset, if_pos rfl, if_pos before, if_pos rfl, if_neg (by omega)]
      omega
    · rw [stays, if_pos rfl, if_pos rfl]
      split <;> split <;> omega
  | false =>
    rcases receive_again turned with ⟨impossible, -⟩ | ⟨-, some, copied⟩
    · rw [inner] at impossible
      cases impossible
    · have positive := List.length_pos_iff.mpr some
      unfold outerTurn at copied
      rw [if_neg some] at copied
      cases copied
      unfold Receiving.copyIn
      simp only [List.length_drop, ↓reduceIte, Bool.false_eq_true]
      split <;> split <;> omega

/-- Whether a message that is whole ends the call without a return. -/
def Opened.fatal : Opened → Bool
  | .message _ _ | .bug => false
  | .refused | .terminated | .fault => true

theorem payload_fatal (memory : Octets) (length : Nat) (hdr : MsgHeader) (com : DiameterCommand) :
    (payload env memory length hdr com).fatal = undecoded env memory length com := by
  unfold payload undecoded
  cases parseRawToAppWithDict env.parser ⟨memory, length, headerSize⟩ com.dict with
  | returned acl => rfl
  | thrown st =>
    obtain ⟨error, -⟩ := st
    cases error <;> rfl
  | escaped => rfl
  | fault => rfl

theorem openMessage_fatal (memory : Octets) (length : Nat) {hdr : MsgHeader}
    (known : hdr = (parseMsgHeader env.commands memory).1 ∨ hdr.dictHandle = none) :
    (openMessage env memory length hdr).fatal = true ↔
      ∃ com, (parseMsgHeader env.commands memory).1.dictHandle = some com ∧
        undecoded env memory length com = true := by
  have again : (openMessage env memory length hdr).fatal =
      (parseMsgHeader env.commands memory).1.dictHandle.any (undecoded env memory length) := by
    unfold openMessage
    rcases known with rfl | blank
    · cases handle : (parseMsgHeader env.commands memory).1.dictHandle with
      | none => dsimp only; rw [handle]; rfl
      | some com => exact payload_fatal _ _ _ _
    · rw [blank]
      dsimp only
      cases (parseMsgHeader env.commands memory).1.dictHandle with
      | none => rfl
      | some com => exact payload_fatal _ _ _ _
  rw [again, Option.any_eq_true]

def Lost (turned : List Callback × Turn Receiving CallEnd) : Prop :=
  ∃ ending, turned.2 = .done ending ∧ ∀ rx, ending ≠ .returned rx

theorem not_lost_again (callbacks : List Callback) (next : Receiving) : ¬Lost (callbacks, .again next) := by
  rintro ⟨ending, same, -⟩
  cases same

theorem not_lost_returned (callbacks : List Callback) (rx : Option RxState) :
    ¬Lost (callbacks, .done (.returned rx)) := by
  rintro ⟨ending, same, lost⟩
  cases same
  exact lost rx rfl

theorem frameTurn_lost {hdr : MsgHeader}
    (known : hdr = (parseMsgHeader env.commands s.rx.memory).1 ∨ hdr.dictHandle = none) :
    Lost (frameTurn env s hdr) ↔ s.rx.msgLength ≤ s.rx.offset ∧ s.hasHeaderError = false ∧
      ∃ com, (parseMsgHeader env.commands s.rx.memory).1.dictHandle = some com ∧
        undecoded env s.rx.memory s.rx.msgLength com = true := by
  rw [← openMessage_fatal s.rx.memory s.rx.msgLength known]
  unfold frameTurn
  dsimp only
  by_cases short : s.rx.offset < s.rx.msgLength
  · rw [if_pos short]
    refine ⟨fun lost => ?_, fun whole => absurd whole.1 (Nat.not_le_of_lt short)⟩
    split at lost
    · split at lost
      · exact absurd lost (not_lost_again _ _)
      · exact absurd lost (not_lost_returned _ _)
    · exact absurd lost (not_lost_again _ _)
  · rw [if_neg short]
    cases refused : s.hasHeaderError with
    | true =>
      rw [if_pos rfl]
      exact ⟨fun lost => absurd lost (not_lost_again _ _), fun whole => by cases whole.2.1⟩
    | false =>
      rw [if_neg Bool.false_ne_true]
      have whole := Nat.le_of_not_lt short
      cases openMessage env s.rx.memory s.rx.msgLength hdr with
      | message hdr acl =>
        exact ⟨fun lost => absurd lost (not_lost_again _ _), fun fatal => by cases fatal.2.2⟩
      | bug =>
        exact ⟨fun lost => absurd lost (not_lost_returned _ _), fun fatal => by cases fatal.2.2⟩
      | refused => exact ⟨fun _ => ⟨whole, rfl, rfl⟩, fun _ => ⟨.fault, rfl, fun _ same => by cases same⟩⟩
      | terminated => exact ⟨fun _ => ⟨whole, rfl, rfl⟩, fun _ => ⟨.terminated, rfl, fun _ same => by cases same⟩⟩
      | fault => exact ⟨fun _ => ⟨whole, rfl, rfl⟩, fun _ => ⟨.fault, rfl, fun _ same => by cases same⟩⟩

theorem dictHandle_refused {memory : Octets} {error : ParseError}
    (thrown : (parseMsgHeader env.commands memory).2 = some error) :
    (parseMsgHeader env.commands memory).1.dictHandle = none := by
  unfold parseMsgHeader at thrown ⊢
  dsimp only at thrown ⊢
  split at thrown
  · cases thrown
  · rfl

theorem receive_lost : Lost (receive env s) ↔ Spoils env s := by
  unfold receive
  cases inner : s.inner with
  | false =>
    rw [if_neg Bool.false_ne_true]
    refine ⟨fun lost => ?_, fun spoils => absurd spoils.1 (by rw [inner]; exact Bool.false_ne_true)⟩
    unfold outerTurn at lost
    split at lost
    · exact absurd lost (not_lost_returned _ _)
    · exact absurd lost (not_lost_again _ _)
  | true =>
    rw [if_pos rfl]
    unfold innerTurn Spoils announced
    by_cases few : s.rx.offset ≤ headerSize
    · rw [if_pos few]
      exact ⟨fun lost => absurd lost (not_lost_again _ _), fun spoils => absurd spoils.2.1 (Nat.not_lt_of_le few)⟩
    · rw [if_neg few]
      have long := Nat.lt_of_not_le few
      by_cases fresh : s.rx.msgLength = 0
      · rw [if_pos fresh, if_pos fresh]
        dsimp only
        cases thrown : (parseMsgHeader env.commands s.rx.memory).2 with
        | none =>
          dsimp only
          rw [frameTurn_lost (.inl rfl)]
          exact ⟨fun fatal => ⟨inner, long, fatal.1, .inl fresh, fatal.2.2⟩,
            fun spoils => ⟨spoils.2.2.1, rfl, spoils.2.2.2.2⟩⟩
        | some error =>
          have none := dictHandle_refused thrown
          refine ⟨fun lost => ?_, fun spoils => ?_⟩
          · dsimp only at lost
            split at lost
            · unfold resynchronise at lost
              dsimp only at lost
              split at lost
              · exact absurd lost (not_lost_returned _ _)
              · exact absurd lost (not_lost_again _ _)
            · cases error with
              | normal code =>
                obtain ⟨ending, same, lost⟩ := lost
                have fatal := (frameTurn_lost (.inl rfl)).mp ⟨ending, same, lost⟩
                cases fatal.2.1
              | bug code => exact absurd lost (not_lost_returned _ _)
          · obtain ⟨com, found, -⟩ := spoils.2.2.2.2
            rw [none] at found
            cases found
      · rw [if_neg fresh, if_neg fresh, frameTurn_lost (.inr rfl)]
        constructor
        · exact fun fatal => ⟨inner, long, fatal.1, .inr fatal.2.1, fatal.2.2⟩
        · rintro ⟨-, -, whole, zero | clean, undecodable⟩
          · exact absurd zero fresh
          · exact ⟨whole, clean, undecodable⟩

end Progress

section Divergence

variable {env : CollectorEnv} {s next : Receiving} {callbacks : List Callback}

theorem parseRules_empty (penv : ParserEnv)
    (value : DictionaryEntry → MessageBlock → Parse AvpContainerEntry) (base base' : Octets)
    (rules : List (AvpParseType × QualifiedAvp)) :
    parseRules penv value base rules [] = parseRules penv value base' rules [] := by
  induction rules with
  | nil => rfl
  | cons rule rules ih =>
    obtain ⟨pt, qavp⟩ := rule
    have same : parseAvps penv value base pt qavp.avp 0 [] = parseAvps penv value base' pt qavp.avp 0 [] := by
      rw [parseAvps_step, parseAvps_step]
      cases parsed : parseAvpHeader penv pt qavp.avp [] with
      | returned taken => exact absurd (parseAvpHeader_length penv parsed) (Nat.succ_ne_zero _)
      | thrown st => rfl
      | escaped => rfl
      | fault => rfl
    have none : (parseAvps penv value base' pt qavp.avp 0 []).1 = [] :=
      List.sublist_nil.mp parseAvps_sublist
    rw [parseRules, parseRules, same]
    generalize parseAvps penv value base' pt qavp.avp 0 [] = result at none
    obtain ⟨left, outcome⟩ := result
    cases none
    cases outcome <;> simp only [ih]

theorem payload_empty (memory memory' : Octets) (hdr : MsgHeader) (com : DiameterCommand) :
    payload env memory 0 hdr com = payload env memory' 0 hdr com := by
  have same : parseRawToAppWithDict env.parser ⟨memory, 0, headerSize⟩ com.dict =
      parseRawToAppWithDict env.parser ⟨memory', 0, headerSize⟩ com.dict := by
    unfold parseRawToAppWithDict
    rw [parseBounds_eq, parseBounds_eq, create, create, createFrom_end _ (Nat.zero_le _),
      createFrom_end _ (Nat.zero_le _), Outcome.returned_bind, Outcome.returned_bind,
      parseRules_empty _ _ memory memory']
  unfold payload
  rw [same]

theorem copyDown_zero (memory : Octets) (count : Nat) : copyDown memory 0 count = memory := by
  unfold copyDown splice
  rw [List.drop_zero, List.take_zero, List.nil_append, List.length_take, Nat.zero_add]
  rcases Nat.le_total count memory.length with less | more
  · rw [Nat.min_eq_left less, List.take_append_drop]
  · rw [Nat.min_eq_right more, List.take_of_length_le more, List.drop_length, List.append_nil]

/-- Nothing is taken out of the buffer when the message has no octets. -/
theorem consume_zero {rx : RxState} (zero : rx.msgLength = 0) :
    rx.consume = { rx with
      memory := rx.memory.take rx.offset ++ List.replicate (rx.memory.length - rx.offset) 0 } := by
  unfold RxState.consume
  simp only [zero, Nat.sub_zero, copyDown_zero, ite_self]

theorem Stalls.again (stalls : Stalls env s) (formed : s.rx.WellFormed) :
    ∃ callbacks next, receive env s = (callbacks, .again next) ∧ Stalls env next ∧
      next.rx.WellFormed := by
  obtain ⟨inner, long, fresh, zero, goes⟩ := stalls
  unfold goesOnEmpty at goes
  have offset := formed.inside
  -- the header stays where it is
  have kept : ∀ memory : Octets,
      memory.take headerSize = s.rx.memory.take headerSize →
      memory.length = s.rx.memory.length → ∀ persistent hasHeaderError,
      Stalls env { s with
        rx := { s.rx with memory, persistent, msgLength := 0 }, hasHeaderError } ∧
        RxState.WellFormed { s.rx with memory, persistent, msgLength := 0 } := by
    intro memory front length persistent hasHeaderError
    have same := parseMsgHeader_congr env.commands front
    refine ⟨⟨inner, long, rfl, ?_, ?_⟩, ?_, ?_⟩
    · dsimp only
      rw [same]
      exact zero
    · unfold goesOnEmpty
      dsimp only
      rw [same]
      cases accepted : (parseMsgHeader env.commands s.rx.memory).2 with
      | none =>
        rw [accepted] at goes
        dsimp only at goes ⊢
        have handle : ∃ com, (parseMsgHeader env.commands s.rx.memory).1.dictHandle = some com := by
          unfold parseMsgHeader at accepted ⊢
          dsimp only at accepted ⊢
          split at accepted
          · exact ⟨_, rfl⟩
          · cases accepted
        obtain ⟨com, handle⟩ := handle
        unfold openMessage at goes ⊢
        rw [handle] at goes ⊢
        dsimp only at goes ⊢
        rw [payload_empty memory s.rx.memory]
        exact goes
      | some error =>
        rw [accepted] at goes
        cases error <;> exact goes
    · dsimp only
      rw [length]
      exact offset
    · dsimp only
      rw [length]
      exact formed.large
  have cleared : (s.rx.memory.take s.rx.offset ++
        List.replicate (s.rx.memory.length - s.rx.offset) 0).take headerSize =
      s.rx.memory.take headerSize := by
    rw [List.take_append_of_le_length (by rw [List.length_take]; omega), List.take_take,
      Nat.min_eq_left (Nat.le_of_lt long)]
  have length : (s.rx.memory.take s.rx.offset ++
        List.replicate (s.rx.memory.length - s.rx.offset) (0 : UInt8)).length = s.rx.memory.length := by
    rw [List.length_append, List.length_take, List.length_replicate]
    omega
  unfold receive
  rw [if_pos inner]
  unfold innerTurn
  rw [if_neg (Nat.not_le_of_lt long), if_pos fresh]
  dsimp only
  cases accepted : (parseMsgHeader env.commands s.rx.memory).2 with
  | none =>
    rw [accepted] at goes
    dsimp only at goes ⊢
    unfold frameTurn
    dsimp only
    rw [zero, if_neg (Nat.not_lt_zero _), if_neg Bool.false_ne_true]
    cases opened : openMessage env s.rx.memory 0 (parseMsgHeader env.commands s.rx.memory).1 with
    | message hdr acl =>
      refine ⟨_, _, rfl, ?_⟩
      rw [consume_zero rfl]
      exact kept _ cleared length _ _
    | refused => rw [opened] at goes; cases goes
    | bug => rw [opened] at goes; cases goes
    | terminated => rw [opened] at goes; cases goes
    | fault => rw [opened] at goes; cases goes
  | some error =>
    rw [accepted] at goes
    cases error with
    | normal code =>
      dsimp only at goes ⊢
      rw [if_neg (fun unsupported => of_decide_eq_true goes (by
        have same := unsupported.1
        injection same))]
      unfold frameTurn
      dsimp only
      rw [zero, if_neg (Nat.not_lt_zero _), if_pos rfl]
      refine ⟨_, _, rfl, ?_⟩
      rw [consume_zero rfl]
      exact kept _ cleared length _ _
    | bug code => cases goes

end Divergence

section Calls

variable {env : CollectorEnv}

/-- The states that a call of `Message` goes through. -/
def InCall (env : CollectorEnv) (c : Collector) (data : Octets) (s : Receiving) : Prop :=
  ∃ rx, c = ⟨true, some rx⟩ ∧ (receive env).Reaches ⟨rx, false, data, false⟩ s

def Collector.WellFormed (c : Collector) : Prop := ∀ rx, c.rx = some rx → rx.WellFormed

theorem construct_wellFormed : (Collector.construct env).WellFormed := by
  intro rx made
  have large := env.atLeast
  simp only [maxMsgLength] at large
  simp only [Collector.construct] at made
  split at made
  · cases made
    constructor
    · exact Nat.zero_le _
    · dsimp only
      rw [List.length_replicate]
      omega
  · cases made

theorem reaches_wellFormed {s last : Receiving} (formed : s.rx.WellFormed)
    (reaches : (receive env).Reaches s last) : last.rx.WellFormed :=
  reaches.invariant (fun _ _ _ held turned => receive_wellFormed held turned) formed

theorem frameTurn_done {s : Receiving} {hdr : MsgHeader} {callbacks : List Callback} {rx : RxState}
    (turned : frameTurn env s hdr = (callbacks, .done (.returned (some rx)))) : rx = s.rx := by
  unfold frameTurn at turned
  dsimp only at turned
  split at turned
  · split at turned
    · split at turned <;> cases turned
    · cases turned
  · split at turned
    · cases turned
    · split at turned
      · cases turned
      · cases turned
      · cases turned
        rfl
      · cases turned
      · cases turned

theorem receive_done {s : Receiving} {callbacks : List Callback} {rx : RxState}
    (turned : receive env s = (callbacks, .done (.returned (some rx)))) :
    rx.memory = s.rx.memory ∧ rx.offset = s.rx.offset := by
  unfold receive at turned
  split at turned
  · unfold innerTurn at turned
    split at turned
    · cases turned
    · split at turned
      · dsimp only at turned
        split at turned
        · rw [frameTurn_done turned]
          exact ⟨rfl, rfl⟩
        · split at turned
          · unfold resynchronise at turned
            dsimp only at turned
            split at turned
            · cases turned
              exact ⟨rfl, rfl⟩
            · cases turned
          · split at turned
            · obtain ⟨-, same⟩ := Prod.mk.inj turned
              rw [frameTurn_done (Prod.ext rfl same)]
              exact ⟨rfl, rfl⟩
            · cases turned
              exact ⟨rfl, rfl⟩
      · rw [frameTurn_done turned]
        exact ⟨rfl, rfl⟩
  · unfold outerTurn at turned
    split at turned
    · cases turned
      exact ⟨rfl, rfl⟩
    · cases turned

theorem message_wellFormed {c after : Collector} {data : Octets} {callbacks : List Callback}
    (formed : c.WellFormed) (called : Message env c data callbacks after) : after.WellFormed := by
  cases called with
  | ignored => exact formed
  | @returned rx data callbacks result ends =>
    intro rx' same
    cases same
    obtain ⟨last, events, reaches, done⟩ := ends.exists_done
    have inLast := reaches_wellFormed (formed rx rfl) reaches
    obtain ⟨memory, offset⟩ := receive_done done
    constructor
    · rw [memory, offset]
      exact inLast.inside
    · rw [memory]
      exact inLast.large

theorem messages_wellFormed {c after : Collector} {chunks : List Octets} {callbacks : List Callback}
    (formed : c.WellFormed) (called : Messages env c chunks callbacks after) : after.WellFormed := by
  induction called with
  | none => exact formed
  | next first _ ih => exact ih (message_wellFormed formed first)

theorem message_ends_iff {c : Collector} (formed : c.WellFormed) (data : Octets) :
    (∃ callbacks after, Message env c data callbacks after) ↔
      ∀ s, InCall env c data s → ¬Stalls env s ∧ ¬Spoils env s := by
  -- A state that stalls turns for ever, and one that spoils ends the loop without returning.
  constructor
  · rintro ⟨callbacks, after, called⟩ s ⟨rx, rfl, reaches⟩
    cases called with
    | ignored off => rcases off with off | off <;> cases off
    | returned ends =>
      have inState := reaches_wellFormed (formed rx rfl) reaches
      obtain ⟨later, rest⟩ := ends.of_reaches reaches
      constructor
      · intro stalls
        exact @Body.not_ends_of_invariant _ _ _ _ (fun s => Stalls env s ∧ s.rx.WellFormed)
          (fun s held => held.1.again held.2) _ ⟨stalls, inState⟩ _ _ rest
      · intro spoils
        obtain ⟨ending, done, lost⟩ := receive_lost.mpr spoils
        exact lost _ (rest.unique (.done (Prod.ext rfl done))).2.symm
  · intro sound
    obtain ⟨handler, state⟩ := c
    cases handler with
    | false => exact ⟨[], _, .ignored (.inl rfl)⟩
    | true =>
      cases state with
      | none => exact ⟨[], _, .ignored (.inr rfl)⟩
      | some rx =>
        have moves := fun s reaches => sound s ⟨rx, rfl, reaches⟩
        -- Every turn that moves lowers the measure.
        obtain ⟨callbacks, result, ends⟩ := Body.ends_of_measure workLeft
          fun s reaches events next turned => workLeft_decreases
            (reaches_wellFormed (formed rx rfl) reaches) (moves s reaches).1 turned
        cases result with
        | returned after => exact ⟨callbacks, ⟨true, after⟩, .returned ends⟩
        | terminated | fault =>
          obtain ⟨last, events, reaches, done⟩ := ends.exists_done
          exact absurd (receive_lost.mp ⟨_, congrArg Prod.snd done, fun _ same => by cases same⟩) (moves last reaches).2

def Terminates (env : CollectorEnv) (c : Collector) (data : Octets) : Prop :=
  (∃ callbacks after, Message env c data callbacks after) ∧
    ∀ s, InCall env c data s → s.inner = true → Progresses env s

/-- After any calls, the next one terminates exactly when no message begins with
the length zero and every whole message of a known command can be decoded. -/
theorem message_terminates_iff {c : Collector} {chunks : List Octets} {callbacks : List Callback}
    (reached : Messages env (Collector.construct env) chunks callbacks c) (data : Octets) :
    Terminates env c data ↔ ∀ s, InCall env c data s → ¬Stalls env s ∧ ¬Spoils env s := by
  have formed := messages_wellFormed construct_wellFormed reached
  unfold Terminates
  rw [message_ends_iff formed]
  refine ⟨And.left, fun sound => ⟨sound, fun s inCall inner callbacks next turned => ?_⟩⟩
  have moves := (sound s inCall).1
  obtain ⟨rx, rfl, reaches⟩ := inCall
  rcases receive_progress (reaches_wellFormed (formed rx rfl) reaches) moves inner turned with
    ⟨left, -⟩ | ⟨-, -, -, -, grown, -⟩ | ⟨-, less⟩
  · exact .inl left
  · exact .inr (.inl grown)
  · exact .inr (.inr less)

/-- One command without AVPs, and memory as asked for. -/
def creditControlEnv : CollectorEnv where
  commands := [⟨272, 4, true, true, ⟨[], [], []⟩⟩]
  parser := bareEnv
  rxBufferSize := 2048
  alloc := fun _ => true
  atLeast := by decide
  atMost := by decide

def resultEnv : CollectorEnv :=
  { creditControlEnv with commands := [⟨272, 4, true, true, ⟨[], [⟨resultCodeEntry, 1, 1⟩], []⟩⟩] }

def resultMessage : Octets :=
  [1, 0, 0, 32, 0x80, 0, 1, 16, 0, 0, 0, 4, 0, 0, 0, 1, 0, 0, 0, 1, 0, 0, 1, 12, 0x40, 0, 0, 12, 0, 0, 7, 0xd1]

/-- The call that brings the end of a message and the beginning of the next one. -/
theorem message_terminates_second :
    ∃ callbacks c, Messages resultEnv (Collector.construct resultEnv) [resultMessage.take 26] callbacks c ∧
      Terminates resultEnv c (resultMessage.drop 26 ++ resultMessage.take 23) := by
  obtain ⟨first, half⟩ : ∃ events, (receive resultEnv).Ends
      ⟨⟨List.replicate 2068 0, 0, 0, freshErrors 2068⟩, false, resultMessage.take 26, false⟩ events
      (.returned (some ⟨resultMessage.take 26 ++ List.replicate 2042 0, 26, 32, freshErrors 2068⟩)) :=
    @Body.exists_ends_of_runFor _ _ _ _ 4 _ _ (by decide +kernel)
  obtain ⟨second, whole⟩ : ∃ events, (receive resultEnv).Ends
      ⟨⟨resultMessage.take 26 ++ List.replicate 2042 0, 26, 32, freshErrors 2068⟩, false,
        resultMessage.drop 26 ++ resultMessage.take 23, false⟩ events
      (.returned (some ⟨resultMessage.take 23 ++ List.replicate 2045 0, 23, 32, freshErrors 2068⟩)) :=
    @Body.exists_ends_of_runFor _ _ _ _ 6 _ _ (by decide +kernel)
  have reached : Messages resultEnv (Collector.construct resultEnv) [resultMessage.take 26] (first ++ []) _ :=
    .next (.returned half) .none
  have formed := messages_wellFormed construct_wellFormed reached
  exact ⟨_, _, reached, (message_terminates_iff reached _).mpr ((message_ends_iff formed _).mp ⟨_, _, .returned whole⟩)⟩

/-- The header of a known command with the length zero keeps the loop going. -/
theorem zero_length_never_ends :
    ¬Terminates creditControlEnv (Collector.construct creditControlEnv)
      [1, 0, 0, 0, 0x80, 0, 1, 16, 0, 0, 0, 4, 0, 0, 0, 1, 0, 0, 0, 1, 0] := by
  rintro ⟨ends, -⟩
  have sound := (message_ends_iff construct_wellFormed _).mp ends
  have reaches : InCall creditControlEnv (Collector.construct creditControlEnv)
      [1, 0, 0, 0, 0x80, 0, 1, 16, 0, 0, 0, 4, 0, 0, 0, 1, 0, 0, 0, 1, 0]
      (Receiving.copyIn ⟨⟨List.replicate 2068 0, 0, 0, freshErrors 2068⟩, false,
        [1, 0, 0, 0, 0x80, 0, 1, 16, 0, 0, 0, 4, 0, 0, 0, 1, 0, 0, 0, 1, 0], false⟩) :=
    ⟨⟨List.replicate 2068 0, 0, 0, freshErrors 2068⟩, rfl, @Body.Reaches.again _ _ _ _ _ _ _ [] rfl (.here _)⟩
  exact (sound _ reaches).1 (by decide +kernel)

end Calls

end OpenDiameter.Transport
