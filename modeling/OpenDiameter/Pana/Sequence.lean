import OpenDiameter.Foundation.Runs
import OpenDiameter.Pana.Validation

/-! The requests of one session on their way to another.

A request may be lost, delayed, duplicated or sent again: any copy of any request that
was sent can arrive at any time. The sender counts modulo `2 ^ 31` with `operator++`, the
receiver expects the next number modulo `2 ^ 32`, and for the receiver the number 0 says
that nothing was received.
-/

set_option autoImplicit false

namespace OpenDiameter.Pana

open Foundation

structure Traffic where
  sender : Session
  requests : List Message
  receiver : Session
  /-- The places of the accepted requests among all, the latest first. -/
  accepted : List Nat
  /-- The receiver has followed a null pointer. -/
  crashed : Bool

namespace Traffic

inductive Input where
  | request (type : MType) (avpList : AvpList)
  | deliver (place : Nat)
  | answer (type : MType)
  deriving DecidableEq, Repr

variable (crypto : Crypto) (t : Traffic)

def deliver (place : Nat) (msg : Message) : Traffic :=
  match Session.rxValidateMsg crypto msg false t.receiver with
  | .ok _ s => { t with receiver := s, accepted := place :: t.accepted }
  | .error (.thrown _) s => { t with receiver := s }
  | .error .fault s => { t with receiver := s, crashed := true }

def step (input : Input) : Traffic :=
  if t.crashed then t
  else
    match input with
    | .request type avpList =>
      let sender := t.sender.txRequest crypto type avpList
      { t with sender := sender, requests := t.requests ++ sender.lastTxReqMsg.toList }
    | .deliver place =>
      match t.requests[place]? with
      | none => t
      | some msg => t.deliver crypto place msg
    | .answer type => { t with receiver := t.receiver.txAnswer crypto type }

/-- Nothing is sent and nothing is accepted yet. -/
def opening (sender receiver : Session) : Traffic := ⟨sender, [], receiver, [], false⟩

section Properties

def Orderly : Input → Prop
  | .deliver place =>
    place < t.requests.length →
    (match t.accepted.head? with
      | none => (t.step crypto (.deliver place)).accepted = [place]
      | some last =>
        (place = last + 1 → (t.step crypto (.deliver place)).accepted = place :: t.accepted) ∧
        (place ≤ last → (t.step crypto (.deliver place)).accepted = t.accepted)) ∧
      (t.step crypto (.deliver place)).crashed = false
  | _ => True

def number (place : Nat) : SerialNumber := (t.requests[place]?.map (·.seq)).getD 0

def Countable : Input → Prop
  | .deliver place =>
    place < t.requests.length →
    match t.accepted.head? with
    | none => True
    | some last =>
      (place = last + 1 → t.number place ≠ 0) ∧
      (place ≤ last → t.number last ≠ 0 ∧ t.number place ≠ t.number last + 1) ∧
      (t.number last ≠ 0 → t.number place = t.number last → t.receiver.cachedAnsMsg.isSome = true)
  | _ => True

instance (input : Input) : Decidable (t.Orderly crypto input) := by
  unfold Orderly
  split
  · refine @instDecidableForall _ _ inferInstance (@instDecidableAnd _ _ ?_ inferInstance)
    split <;> infer_instance
  · infer_instance

instance (input : Input) : Decidable (t.Countable input) := by
  unfold Countable
  split
  · refine @instDecidableForall _ _ inferInstance ?_
    split <;> infer_instance
  · infer_instance

end Properties

section Invariant

structure Paired (sender receiver : Session) : Prop where
  sessionId : sender.sessionId = receiver.sessionId
  authKey : sender.sa.authKey = receiver.sa.authKey
  fresh : receiver.lastRxSeqNum = 0

structure Tracked : Prop where
  sessionId : t.sender.sessionId = t.receiver.sessionId
  authKey : t.sender.sa.authKey = t.receiver.sa.authKey
  admissible : ∀ msg ∈ t.requests, msg.request = true ∧ msg.seq.toNat < 2 ^ 31 ∧
    t.receiver.Authentic crypto msg false ∧ t.receiver.Addressed msg
  newest : ∀ msg, t.requests.getLast? = some msg → msg.seq = t.sender.lastTxSeqNum
  consecutive : ∀ place, place + 1 < t.requests.length → t.number (place + 1) = (t.number place).increment
  received : match t.accepted.head? with
    | none => t.receiver.lastRxSeqNum = 0
    | some last => last < t.requests.length ∧ t.receiver.lastRxSeqNum = t.number last
  running : t.crashed = false

variable {crypto t}

theorem number_of_getElem {place : Nat} {msg : Message} (here : t.requests[place]? = some msg) :
    t.number place = msg.seq := by
  rw [number, here]
  rfl

theorem tracked_opening {sender receiver : Session} (paired : Paired sender receiver) :
    (opening sender receiver).Tracked crypto where
  sessionId := paired.sessionId
  authKey := paired.authKey
  admissible msg mem := by cases mem
  newest msg last := by cases last
  consecutive place inside := by cases inside
  received := paired.fresh
  running := rfl

theorem deliver_cases (place : Nat) {msg : Message} (right : t.receiver.Authentic crypto msg false)
    (here : t.receiver.Addressed msg) :
    t.receiver.Numbered msg ∧
        t.deliver crypto place msg = { t with receiver := t.receiver.count msg, accepted := place :: t.accepted } ∨
      ¬t.receiver.Numbered msg ∧
        (((t.receiver.Repeats msg → t.receiver.cachedAnsMsg.isSome = true) ∧
            ∃ s : Session, s.sa = t.receiver.sa ∧ s.sessionId = t.receiver.sessionId ∧
              s.lastRxSeqNum = t.receiver.lastRxSeqNum ∧ t.deliver crypto place msg = { t with receiver := s }) ∨
          t.receiver.Repeats msg ∧ t.receiver.cachedAnsMsg = none ∧
            t.deliver crypto place msg = { t with crashed := true }) := by
  have how := t.receiver.validates crypto msg false
  unfold deliver
  generalize Session.rxValidateMsg crypto msg false t.receiver = result at how
  -- One case for each way out of `RxValidateMsg`.
  cases how with
  | accepted acceptable => exact Or.inl ⟨acceptable.numbered, rfl⟩
  | unanswered repeats empty => exact Or.inr ⟨repeats.not_numbered, Or.inr ⟨repeats, empty, rfl⟩⟩
  | resent repeats cached kept =>
    exact Or.inr ⟨repeats.not_numbered,
      Or.inl ⟨fun _ => (by rw [kept]; rfl), t.receiver.sendAnsMsg cached, rfl, rfl, rfl, rfl⟩⟩
  | unexpected repeats cached kept =>
    exact Or.inr ⟨repeats.not_numbered, Or.inl ⟨fun _ => (by rw [kept]; rfl), _, rfl, rfl, rfl, rfl⟩⟩
  | misnumbered misnumbered fresh =>
    exact Or.inr ⟨misnumbered, Or.inl ⟨fun repeats => absurd repeats fresh, _, rfl, rfl, rfl, rfl⟩⟩
  | refusedFirst first refused => exact absurd ⟨right, here⟩ refused
  | refused later numbered refused => exact absurd ⟨right, here⟩ refused

theorem lastRxSeqNum_count {s : Session} {msg : Message} (request : msg.request = true)
    (small : msg.seq.toNat < 2 ^ 31) (numbered : s.Numbered msg) : (s.count msg).lastRxSeqNum = msg.seq := by
  unfold Session.Numbered at numbered
  rw [if_pos request] at numbered
  unfold Session.count
  rw [if_pos request]
  by_cases zero : s.lastRxSeqNum = 0
  · exact if_pos zero
  · have next := numbered.resolve_left zero
    have same : s.lastRxSeqNum.increment = s.lastRxSeqNum + 1 := by
      rw [SerialNumber.increment_eq_succ]
      rw [next, SerialNumber.toNat_succ] at small
      have bound := s.lastRxSeqNum.toNat_lt
      omega
    show (if s.lastRxSeqNum = 0 then msg.seq else s.lastRxSeqNum.increment) = msg.seq
    rw [if_neg zero, same, next]

theorem Tracked.of_getElem (tracked : t.Tracked crypto) {place : Nat} {msg : Message}
    (here : t.requests[place]? = some msg) : msg.request = true ∧ msg.seq.toNat < 2 ^ 31 ∧
      t.receiver.Authentic crypto msg false ∧ t.receiver.Addressed msg :=
  tracked.admissible msg (List.mem_of_getElem? here)

theorem Tracked.receive (tracked : t.Tracked crypto) {s : Session} (sa : s.sa = t.receiver.sa)
    (sessionId : s.sessionId = t.receiver.sessionId) {accepted : List Nat}
    (received : match accepted.head? with
      | none => s.lastRxSeqNum = 0
      | some last => last < t.requests.length ∧ s.lastRxSeqNum = t.number last) :
    ({ t with receiver := s, accepted := accepted } : Traffic).Tracked crypto where
  sessionId := tracked.sessionId.trans sessionId.symm
  authKey := by rw [sa]; exact tracked.authKey
  admissible := by
    intro msg mem
    obtain ⟨request, small, right, here⟩ := tracked.admissible msg mem
    refine ⟨request, small, ?_, ?_⟩
    · unfold Session.Authentic at right ⊢
      rw [sa]
      exact right
    · unfold Session.Addressed at here ⊢
      rw [sessionId]
      exact here
  newest := tracked.newest
  consecutive := tracked.consecutive
  received := received
  running := tracked.running

theorem tracked_deliver (tracked : t.Tracked crypto) {place : Nat} {msg : Message}
    (here : t.requests[place]? = some msg) (running : (t.deliver crypto place msg).crashed = false) :
    (t.deliver crypto place msg).Tracked crypto := by
  obtain ⟨request, small, right, addressed⟩ := tracked.of_getElem here
  rcases deliver_cases place right addressed with
    ⟨numbered, same⟩ | ⟨_, ⟨_, s, sa, sessionId, kept, same⟩ | ⟨_, _, same⟩⟩
  · rw [same]
    have sa : (t.receiver.count msg).sa = t.receiver.sa := by unfold Session.count; split <;> rfl
    have sessionId : (t.receiver.count msg).sessionId = t.receiver.sessionId := by unfold Session.count; split <;> rfl
    apply tracked.receive sa sessionId
    constructor
    · exact (List.getElem?_eq_some_iff.mp here).1
    · rw [lastRxSeqNum_count request small numbered, number_of_getElem here]
  · rw [same]
    apply tracked.receive sa sessionId
    rw [kept]
    exact tracked.received
  · rw [same] at running
    cases running

theorem step_request (running : t.crashed = false) (type : MType) (avpList : AvpList) :
    t.step crypto (.request type avpList) =
      { t with
        sender := t.sender.txRequest crypto type avpList
        requests := t.requests ++ (t.sender.txRequest crypto type avpList).lastTxReqMsg.toList } := by
  rw [step, if_neg (by rw [running]; exact Bool.false_ne_true)]

theorem step_answer (running : t.crashed = false) (type : MType) :
    t.step crypto (.answer type) = { t with receiver := t.receiver.txAnswer crypto type } := by
  rw [step, if_neg (by rw [running]; exact Bool.false_ne_true)]

theorem step_deliver (running : t.crashed = false) {place : Nat} {msg : Message} (here : t.requests[place]? = some msg) :
    t.step crypto (.deliver place) = t.deliver crypto place msg := by
  rw [step, if_neg (by rw [running]; exact Bool.false_ne_true)]
  simp only [here]

theorem step_deliver_none (running : t.crashed = false) {place : Nat} (none : t.requests[place]? = none) :
    t.step crypto (.deliver place) = t := by
  rw [step, if_neg (by rw [running]; exact Bool.false_ne_true)]
  simp only [none]

theorem exists_txRequest (crypto : Crypto) (s : Session) (type : MType) (avpList : AvpList) :
    ∃ msg : Message, (s.txRequest crypto type avpList).lastTxReqMsg = some msg ∧ msg.request = true ∧
      msg.seq = s.lastTxSeqNum.increment ∧ msg.sessionId = s.sessionId ∧
      ∀ r : Session, s.sa.authKey = r.sa.authKey → r.Authentic crypto msg false := by
  refine ⟨_, rfl, ?_, ?_, ?_, fun r same => Session.authentic_protect same _ _⟩
  · simp
  · simp
  · simp

theorem tracked_request (tracked : t.Tracked crypto) (type : MType) (avpList : AvpList) :
    (t.step crypto (.request type avpList)).Tracked crypto := by
  obtain ⟨msg, sent, request, seq, sessionId, authentic⟩ := exists_txRequest crypto t.sender type avpList
  have shape := @step_request crypto t tracked.running type avpList
  rw [sent, Option.toList_some] at shape
  have grown : (t.step crypto (.request type avpList)).requests = t.requests ++ [msg] := by rw [shape]
  have receiver : (t.step crypto (.request type avpList)).receiver = t.receiver := by rw [shape]
  have old {place : Nat} (inside : place < t.requests.length) :
      (t.step crypto (.request type avpList)).number place = t.number place := by
    unfold number
    rw [grown, List.getElem?_append_left inside]
  have new : (t.step crypto (.request type avpList)).number t.requests.length = msg.seq := by
    apply number_of_getElem
    rw [grown, List.getElem?_concat_length]
  constructor
  case sessionId =>
    rw [shape]
    exact tracked.sessionId
  case authKey =>
    rw [shape]
    exact tracked.authKey
  case running =>
    rw [shape]
    exact tracked.running
  case admissible =>
    intro other mem
    rw [receiver]
    rw [grown, List.mem_append, List.mem_singleton] at mem
    rcases mem with mem | rfl
    · exact tracked.admissible other mem
    · refine ⟨request, ?_, authentic _ tracked.authKey, Or.inr (sessionId.trans tracked.sessionId)⟩
      rw [seq]
      exact SerialNumber.toNat_increment_lt _
  case newest =>
    intro other last
    rw [grown, List.getLast?_concat] at last
    cases last
    rw [shape]
    exact seq
  -- The new number follows that of the last request, which the sender remembers.
  case consecutive =>
    intro place inside
    rw [grown, List.length_append, List.length_singleton] at inside
    by_cases earlier : place + 1 < t.requests.length
    · rw [old earlier, old (by omega), tracked.consecutive place earlier]
    · have last : place + 1 = t.requests.length := by omega
      have here : t.requests.getLast? = t.requests[place]? := by
        rw [List.getLast?_eq_getElem?]
        congr 1
        omega
      rw [last, new, seq, old (by omega)]
      cases found : t.requests[place]? with
      | none =>
        rw [List.getElem?_eq_none_iff] at found
        omega
      | some before => rw [number_of_getElem found, tracked.newest before (here.trans found)]
  case received =>
    have received := tracked.received
    have accepted : (t.step crypto (.request type avpList)).accepted = t.accepted := by rw [shape]
    rw [accepted, receiver]
    cases head : t.accepted.head? with
    | none =>
      rw [head] at received
      exact received
    | some last =>
      rw [head] at received
      refine ⟨?_, ?_⟩
      · rw [grown, List.length_append]
        omega
      · rw [old received.1]
        exact received.2

theorem tracked_step (tracked : t.Tracked crypto) (input : Input) (running : (t.step crypto input).crashed = false) :
    (t.step crypto input).Tracked crypto := by
  cases input with
  | request type avpList => exact tracked_request tracked type avpList
  | deliver place =>
    cases here : t.requests[place]? with
    | none =>
      rw [step_deliver_none tracked.running here]
      exact tracked
    | some msg =>
      rw [step_deliver tracked.running here] at running ⊢
      exact tracked_deliver tracked here running
  | answer type =>
    rw [step_answer tracked.running]
    exact tracked.receive (s := t.receiver.txAnswer crypto type) rfl rfl tracked.received

end Invariant

section Runs

variable {crypto t}

theorem Tracked.numbered_iff (tracked : t.Tracked crypto) {place last : Nat} {msg : Message}
    (here : t.requests[place]? = some msg) (accepted : t.accepted.head? = some last) :
    t.receiver.Numbered msg ↔ t.number last = 0 ∨ t.number place = t.number last + 1 := by
  have received := tracked.received
  rw [accepted] at received
  unfold Session.Numbered
  rw [if_pos (tracked.of_getElem here).1, received.2, number_of_getElem here]

/-- Numbers that follow each other for the sender follow each other for the receiver
unless the second is 0. -/
theorem next_iff {serial : SerialNumber} (small : serial.toNat < 2 ^ 31) :
    serial = 0 ∨ serial.increment = serial + 1 ↔ serial.increment ≠ 0 := by
  rw [SerialNumber.increment_eq_succ, Ne, SerialNumber.increment_eq_zero, ← UInt32.toNat_inj]
  show serial.toNat = 0 ∨ _ ↔ _
  omega

theorem Tracked.repeats_iff (tracked : t.Tracked crypto) {place last : Nat} {msg : Message}
    (here : t.requests[place]? = some msg) (accepted : t.accepted.head? = some last) :
    t.receiver.Repeats msg ↔ t.number last ≠ 0 ∧ t.number place = t.number last := by
  have received := tracked.received
  rw [accepted] at received
  rw [Session.Repeats, and_iff_right (tracked.of_getElem here).1, received.2, number_of_getElem here]
  exact and_congr_right fun _ => eq_comm

theorem orderly_iff_countable (tracked : t.Tracked crypto) (input : Input) :
    t.Orderly crypto input ↔ t.Countable input := by
  cases input with
  | request => exact Iff.rfl
  | answer => exact Iff.rfl
  | deliver place =>
    unfold Orderly Countable
    apply imp_congr_right
    intro inside
    have here : t.requests[place]? = some t.requests[place] := List.getElem?_eq_getElem inside
    obtain ⟨request, small, right, addressed⟩ := tracked.of_getElem here
    rw [step_deliver tracked.running here]
    have delivers := deliver_cases place right addressed
    cases accepted : t.accepted.head? with
    | none =>
      -- Nothing was received, so that any number is taken.
      have empty : t.accepted = [] := List.head?_eq_none_iff.mp accepted
      have received := tracked.received
      rw [accepted] at received
      have numbered : t.receiver.Numbered t.requests[place] := by
        unfold Session.Numbered
        rw [if_pos request]
        exact Or.inl received
      rcases delivers with ⟨_, same⟩ | ⟨misnumbered, _⟩
      · rw [same, empty]
        exact iff_of_true ⟨rfl, tracked.running⟩ trivial
      · exact absurd numbered misnumbered
    | some last =>
      have expects := tracked.numbered_iff here accepted
      have repeats := tracked.repeats_iff here accepted
      have received := tracked.received
      rw [accepted] at received
      dsimp only
      rw [and_assoc]
      apply and_congr
      · apply imp_congr_right
        rintro rfl
        have next := tracked.consecutive last inside
        have lastSmall : (t.number last).toNat < 2 ^ 31 := by
          have found : t.requests[last]? = some t.requests[last] := List.getElem?_eq_getElem received.1
          rw [number_of_getElem found]
          exact (tracked.of_getElem found).2.1
        rw [next] at expects ⊢
        rw [next_iff lastSmall] at expects
        rcases delivers with ⟨numbered, same⟩ | ⟨misnumbered, ⟨_, s, _, _, _, same⟩ | ⟨_, _, same⟩⟩
        · rw [same]
          exact iff_of_true rfl (expects.mp numbered)
        · rw [same]
          refine iff_of_false ?_ (fun nonzero => misnumbered (expects.mpr nonzero))
          exact fun grown => List.cons_ne_self _ _ grown.symm
        · rw [same]
          refine iff_of_false ?_ (fun nonzero => misnumbered (expects.mpr nonzero))
          exact fun grown => List.cons_ne_self _ _ grown.symm
      · apply and_congr
        · apply imp_congr_right
          intro old
          rw [← not_or, ← expects]
          rcases delivers with ⟨numbered, same⟩ | ⟨misnumbered, ⟨_, s, _, _, _, same⟩ | ⟨_, _, same⟩⟩
          · rw [same]
            exact iff_of_false (List.cons_ne_self _ _) (fun fresh => fresh numbered)
          · rw [same]
            exact iff_of_true rfl misnumbered
          · rw [same]
            exact iff_of_true rfl misnumbered
        · rw [← and_imp, ← repeats]
          rcases delivers with ⟨numbered, same⟩ | ⟨_, ⟨cached, s, _, _, _, same⟩ | ⟨again, empty, same⟩⟩
          · rw [same]
            exact iff_of_true tracked.running fun again => absurd numbered again.not_numbered
          · rw [same]
            exact iff_of_true tracked.running cached
          · rw [same, empty]
            exact iff_of_false (fun running => (by cases running)) fun cached => (by cases cached again)

/-- Requests are accepted in order and once in a run exactly if none of its steps delivers
a request with a number that the receiver cannot place, or a repetition that it cannot answer. -/
theorem run_orderly_iff (crypto : Crypto) {sender receiver : Session} (paired : Paired sender receiver)
    (inputs : List Input) :
    Stepwise (step crypto) (Orderly crypto) (opening sender receiver) inputs ↔
      Stepwise (step crypto) Countable (opening sender receiver) inputs := by
  have agree (t : Traffic) (input : Input) (tracked : t.Tracked crypto) (_ : True) :
      t.Orderly crypto input ↔ t.Countable input := orderly_iff_countable tracked input
  have runs (t : Traffic) (input : Input) (tracked : t.Tracked crypto) (orderly : t.Orderly crypto input) :
      (t.step crypto input).crashed = false := by
    cases input with
    | request type avpList =>
      rw [step_request tracked.running]
      exact tracked.running
    | answer type =>
      rw [step_answer tracked.running]
      exact tracked.running
    | deliver place =>
      rcases Nat.lt_or_ge place t.requests.length with inside | beyond
      · exact (orderly inside).2
      · rw [step_deliver_none tracked.running (List.getElem?_eq_none beyond)]
        exact tracked.running
  have keeps (t : Traffic) (input : Input) (tracked : t.Tracked crypto) (_ : True) (countable : t.Countable input) :
      (t.step crypto input).Tracked crypto :=
    tracked_step tracked input (runs t input tracked ((orderly_iff_countable tracked input).mpr countable))
  exact stepwise_iff agree keeps (tracked_opening paired) (fun _ _ => trivial)

def plainCrypto : Crypto where
  generate pac paa msk _ _ := pac ++ paa ++ msk
  generateAuthAvpValue key header _ := key ++ [UInt8.ofNat header.seq.toNat]

/-- The two ends of a session whose sender starts with a number. -/
def numberedFrom (isn : UInt32) (role : Role) : Session := .constructed role ⟨false, false, true, 3600⟩ 7 isn 1 {} {}

theorem paired_numberedFrom (isn : UInt32) : Paired (numberedFrom isn .paa) (numberedFrom 5 .pac) where
  sessionId := rfl
  authKey := rfl
  fresh := rfl

/-- A run with a duplicate in it. -/
theorem run_orderly_iff_numberedFrom :
    Stepwise (step plainCrypto) (Orderly plainCrypto) (opening (numberedFrom 41 .paa) (numberedFrom 5 .pac))
      [.request mtypePPR {}, .deliver 0, .answer mtypePPR, .deliver 0, .request mtypePUR {}, .deliver 1] := by
  rw [run_orderly_iff plainCrypto (paired_numberedFrom 41)]
  decide +kernel

/-- The request after the one numbered `2 ^ 31 - 1` is numbered 0 and is not accepted. -/
theorem request_blocked_at_zero :
    ¬∀ (crypto : Crypto) (sender receiver : Session), Paired sender receiver → ∀ inputs : List Input,
      Stepwise (step crypto) (Orderly crypto) (opening sender receiver) inputs := by
  intro always
  have orderly := always plainCrypto _ _ (paired_numberedFrom 0x7ffffffe)
    [.request mtypePPR {}, .deliver 0, .answer mtypePPR, .request mtypePPR {}, .deliver 1]
  revert orderly
  decide +kernel

end Runs

end Traffic

end OpenDiameter.Pana
