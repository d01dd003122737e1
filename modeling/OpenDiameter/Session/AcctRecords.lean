import OpenDiameter.Session.AcctStream

/-! What becomes of the records of a sub-session in a run.

Each record has a number of its own here, and an answer says which record it is to. The
success action deletes from the storage whenever something is held there, and a failure
is taken for one of a stored record by the same rule, so that a record that waits in the
storage is lost with the answer to another.
-/

set_option autoImplicit false

namespace OpenDiameter.Session

open Foundation OpenDiameter.Framework

section Books

/-- What the effects of a call say about records. -/
structure RecordSummary where
  generates : Bool
  unsentIn : Option AcctState
  stores : Bool
  deletes : Bool
  deriving DecidableEq, Repr

def AcctEffect.generates : AcctEffect → Bool
  | .generateRecord .. => true
  | _ => false

def AcctEffect.unsentIn : AcctEffect → Option AcctState
  | .txDelivery state _ false => some state
  | _ => none

def AcctEffect.stores : AcctEffect → Bool
  | .storeLastRecord _ => true
  | _ => false

def AcctEffect.deletes : AcctEffect → Bool
  | .deleteLastRecord _ => true
  | _ => false

def summaryOf (effects : List AcctEffect) : RecordSummary where
  generates := effects.any AcctEffect.generates
  unsentIn := effects.findSome? AcctEffect.unsentIn
  stores := effects.any AcctEffect.stores
  deletes := effects.any AcctEffect.deletes

structure RecordCall where
  input : AcctInput
  answers : Nat
  deriving DecidableEq

def RecordCall.result (call : RecordCall) : Option Bool :=
  match call.input with
  | .rxAnswer answer _ => if answer.code = msgCodeAccounting then some answer.succeeds else none
  | _ => none

def givesUp (turn : AcctTurn) (session : AcctSession) (state : AcctState) : Bool :=
  match state.awaits with
  | some .current => !decide (Storable turn session)
  | some .last => !turn.storageSpace
  | some .stored | none => false

structure RecordBook where
  session : AcctSession
  storage : List Nat
  generated : Nat
  outstanding : Option Nat
  acknowledged : List Nat
  abandoned : List Nat
  /-- `End` has been called since the last `Begin` that was heeded. -/
  ended : Bool
  deleted : List (Option Nat × Option Nat)

namespace RecordBook

variable (book : RecordBook)

def initial (attributes : AcctAttributes) : RecordBook where
  session := .initial attributes
  storage := []
  generated := 0
  outstanding := none
  acknowledged := []
  abandoned := []
  ended := false
  deleted := []

def current (input : AcctInput) (summary : RecordSummary) : Option Nat :=
  match summary.generates, input, book.storage with
  | true, .begin .., stored :: _ => some stored
  | true, _, _ => some book.generated
  | false, _, _ => book.outstanding

def anew (input : AcctInput) (summary : RecordSummary) : Bool :=
  match summary.generates, input, book.storage with
  | true, .begin .., _ :: _ => false
  | true, _, _ => true
  | false, _, _ => summary.stores && summary.unsentIn.isNone

def record (call : RecordCall) (summary : RecordSummary) (after : AcctSession) : RecordBook where
  session := after
  -- What could not be sent is stored under its number, any other record under a new one.
  storage :=
    (if summary.stores && call.input.turn.storageSpace then
      (if summary.unsentIn.isNone then [book.generated] else (book.current call.input summary).toList) else []) ++
      if summary.deletes then book.storage.tail else book.storage
  generated := if book.anew call.input summary then book.generated + 1 else book.generated
  -- An answer settles what it answers, and a failed delivery what it was to deliver.
  outstanding :=
    if summary.unsentIn.isSome ∨ call.result.isSome = true ∧ book.outstanding = some call.answers then none
    else book.current call.input summary
  acknowledged := if call.result = some true then call.answers :: book.acknowledged else book.acknowledged
  -- A refused record is given up, and one that can neither be sent nor stored.
  abandoned :=
    (if call.result = some false then [call.answers]
      else if summary.unsentIn.any (givesUp call.input.turn after) then (book.current call.input summary).toList
      else []) ++ book.abandoned
  ended :=
    match call.input with
    | .endRecording _ => true
    | .begin .. => book.ended && !summary.generates
    | _ => book.ended
  deleted :=
    if summary.deletes then
      (book.storage.head?, if call.result.isSome then book.outstanding.filter (· = call.answers) else none) ::
        book.deleted
    else book.deleted

def step (input : AcctInput) : AcctSession × List AcctEffect :=
  book.session.step (input.told !book.storage.isEmpty)

def take (call : RecordCall) : RecordBook :=
  book.record call (summaryOf (book.step call.input).2) (book.step call.input).1

end RecordBook

end Books

section Purpose

structure RecordBook.Accounted (book : RecordBook) : Prop where
  each : ∀ id < book.generated,
    book.outstanding = some id ∧ book.session.state.awaits.isSome = true ∨ id ∈ book.storage ∨
      id ∈ book.acknowledged ∨ id ∈ book.abandoned
  deletes : ∀ dropped ∈ book.deleted, dropped.1.isSome = true ∧ dropped.1 = dropped.2
  idles : book.ended = true → book.outstanding = none → book.session.state = .idle

end Purpose

section Condition

def Discerned (book : RecordBook) (turn : AcctTurn) : Prop :=
  book.session.state = .opened → book.session.attributes.backwardCompatibility = false →
    turn.delivered = false → book.storage = []

instance (book : RecordBook) (turn : AcctTurn) : Decidable (Discerned book turn) :=
  inferInstanceAs (Decidable (_ → _))

def Careful (book : RecordBook) (call : RecordCall) : Prop :=
  match call.input with
  | .begin .. | .timeout .session _ => True
  | .timeout .interval turn => Discerned book turn
  | .endRecording turn => book.session.state.recording = none ∧ Discerned book turn
  | .send turn =>
    turn.delivered = false → book.session.state.awaits.isSome = true →
      book.session.state.awaits = some (recordKind (!book.storage.isEmpty) book.session.attributes.recordType)
  | .rxAnswer answer _ =>
    answer.code = msgCodeAccounting → book.session.state.awaits.isSome = true →
      book.outstanding = some call.answers ∧
        (answer.succeeds = true → book.session.state = .pendingB ∨ book.storage = []) ∧
        (answer.succeeds = false →
          (book.session.state.awaits = some .current ↔
            recordKind (!book.storage.isEmpty) (book.session.filter answer).attributes.recordType = .current))

instance (book : RecordBook) (call : RecordCall) : Decidable (Careful book call) :=
  match call with
  | ⟨.begin .., _⟩ | ⟨.timeout .session _, _⟩ => .isTrue trivial
  | ⟨.endRecording _, _⟩ => inferInstanceAs (Decidable (_ ∧ _))
  | ⟨.timeout .interval turn, _⟩ => inferInstanceAs (Decidable (Discerned book turn))
  | ⟨.send _, _⟩ | ⟨.rxAnswer .., _⟩ => inferInstanceAs (Decidable (_ → _))

end Condition

section Outcomes

variable {session : AcctSession} {turn : AcctTurn} {event : AcctEvent} {state : AcctState}

def RecordSummary.quiet : RecordSummary := ⟨false, none, false, false⟩

structure Settles (state : AcctState) (event : AcctEvent) (recordInStorage : Bool) (after : AcctState)
    (summary : RecordSummary) : Prop where
  unwaiting : after.awaits = none
  idles : state.recording = none → after = .idle
  stores : summary.stores = true ↔ event = .ftsNotDag ∨ event = .ftsBuf
  deletes : summary.deletes = true ↔
    event = .rxAcaOk ∧ recordInStorage = true ∨ event = .rxAcaFail ∧ state = .pendingB
  generates : summary.generates = false
  unsentIn : summary.unsentIn = none

theorem summaryOf_rxACASuccess (session : AcctSession) (turn : AcctTurn) :
    summaryOf (session.rxACASuccess turn).2 = { RecordSummary.quiet with deletes := turn.recordInStorage } := by
  unfold AcctSession.rxACASuccess
  cases stored : turn.recordInStorage with
  | true => rfl
  | false =>
    rw [if_neg Bool.false_ne_true]
    split <;> rfl

theorem summaryOf_storeRecord (session : AcctSession) (recordType : UInt32) :
    summaryOf (session.storeRecord recordType).2 = { RecordSummary.quiet with stores := true } := by
  rw [effects_storeRecord]
  rfl

theorem summaryOf_dumpEvent (state : AcctState) (event : AcctEvent) (effects : List AcctEffect) :
    summaryOf (.dumpEvent state event :: effects) = summaryOf effects := rfl

def AcctAction.summary (action : AcctAction) (recordInStorage : Bool) : RecordSummary :=
  match action with
  | .rxACASuccess => { RecordSummary.quiet with deletes := recordInStorage }
  | .storeStartRecord | .storeStopRecord | .storeInterimRecord | .storeEventRecord =>
    { RecordSummary.quiet with stores := true }
  | .deleteRecord => { RecordSummary.quiet with deletes := true }
  | .null | .txACR | .interimTimeout | .startIntTimer | .disconnect => .quiet

theorem summaryOf_perform {notify : AcctSession → AcctEvent → AcctSession × List AcctEffect} {action : AcctAction}
    (sends : action ≠ .txACR ∧ action ≠ .interimTimeout) :
    summaryOf (session.perform notify turn action).2 = action.summary turn.recordInStorage := by
  cases action with
  | null | startIntTimer | deleteRecord | disconnect => rfl
  | txACR => exact absurd rfl sends.1
  | interimTimeout => exact absurd rfl sends.2
  | rxACASuccess => exact summaryOf_rxACASuccess _ _
  | storeStartRecord | storeStopRecord | storeInterimRecord | storeEventRecord => exact summaryOf_storeRecord _ _

theorem settles_of_entry (recordInStorage : Bool) {entry : StateTableEntry AcctState AcctEvent AcctAction}
    (outcome : event.isOutcome = true) (mem : entry ∈ acctClientStateTable) (named : entry.event = some event) :
    Settles entry.prevState event recordInStorage entry.nextState (entry.action.summary recordInStorage) := by
  have rows : ∀ entry ∈ acctClientStateTable, ∀ event, entry.event = some event → event.isOutcome = true →
      Settles entry.prevState event recordInStorage entry.nextState (entry.action.summary recordInStorage) := by
    simp only [acctClientStateTable, List.forall_mem_cons, List.not_mem_nil, false_imp_iff, implies_true, and_true]
    and_intros
    all_goals
      intro event named outcome
      cases named <;> first
        | exact ⟨by decide, by decide, by cases recordInStorage <;> decide, by cases recordInStorage <;> decide, rfl, rfl⟩
        | cases outcome
  exact rows entry mem event named outcome

theorem found_of_hasRow (rowed : HasRow state event) :
    ∃ entry, acctClientStateTable.findStateTableEntry state event = some entry ∧ entry ∈ acctClientStateTable ∧
      entry.prevState = state ∧ entry.event = some event := by
  cases state <;> cases event <;> first
    | exact ⟨_, rfl, by decide, rfl, rfl⟩
    | exact absurd rowed (by decide)

theorem notify_settles (turn : AcctTurn) (outcome : event.isOutcome = true) (rowed : HasRow session.state event) :
    Settles session.state event turn.recordInStorage (session.notify turn event).1.state
      (summaryOf (session.notify turn event).2) := by
  obtain ⟨entry, found, mem, prev, named⟩ := found_of_hasRow rowed
  have sends := action_of_outcome outcome found
  have settles := settles_of_entry turn.recordInStorage outcome mem named
  unfold AcctSession.notify AcctSession.process
  rw [found]
  dsimp only
  rw [summaryOf_dumpEvent, summaryOf_perform sends, state_perform sends, ← prev]
  exact settles

end Outcomes

section Failures

variable {session : AcctSession} {turn : AcctTurn}

structure Fails (state : AcctState) (turn : AcctTurn) (after : AcctSession) (summary : RecordSummary) : Prop where
  unwaiting : after.state.awaits = none
  idles : state.recording = none → after.state = .idle
  generates : summary.generates = false
  unsentIn : summary.unsentIn = none
  deletes : summary.deletes = false
  covered : summary.stores = true ∧ turn.storageSpace = true ∨ givesUp turn after state = true ∨
    state.awaits = some .stored

theorem summaryOf_failed (effects : List AcctEffect) (recordNumber : UInt32) :
    summaryOf (effects ++ [.failed recordNumber]) = summaryOf effects := by
  simp [summaryOf, AcctEffect.generates, AcctEffect.unsentIn, AcctEffect.stores, AcctEffect.deletes]

theorem summaryOf_failToSend : summaryOf (session.failToSend (AcctSession.notify turn) turn).2 =
    summaryOf (session.notify turn (session.ftsEvent turn)).2 := by
  unfold AcctSession.failToSend
  exact summaryOf_failed _ _

theorem ftsEvent_covers (state : AcctState)
    (fits : state.awaits = some (recordKind turn.recordInStorage session.attributes.recordType)) :
    (session.ftsEvent turn = .ftsNotDag ∨ session.ftsEvent turn = .ftsBuf) ∧ turn.storageSpace = true ∨
      givesUp turn session state = true ∨ state.awaits = some .stored := by
  unfold givesUp
  rw [fits]
  cases kind : recordKind turn.recordInStorage session.attributes.recordType with
  | stored => exact Or.inr (Or.inr rfl)
  | current =>
    rw [ftsEvent_current kind]
    by_cases storable : Storable turn session
    · exact Or.inl ⟨Or.inl (if_pos storable), storable.1⟩
    · exact Or.inr (Or.inl (by simpa using storable))
  | last =>
    have last : turn.recordInStorage = false ∧
        (session.attributes.recordType = rectypeEvent ∨ session.attributes.recordType = rectypeStop) := by
      unfold recordKind at kind
      cases stored : turn.recordInStorage with
      | true =>
        rw [stored, if_pos rfl] at kind
        cases kind
      | false =>
        refine ⟨rfl, ?_⟩
        by_contra other
        rw [stored, if_neg Bool.false_ne_true, if_neg other] at kind
        cases kind
    unfold AcctSession.ftsEvent
    rw [last.1, if_neg Bool.false_ne_true, if_pos last.2]
    cases space : turn.storageSpace with
    | true => exact Or.inl ⟨Or.inr rfl, rfl⟩
    | false => exact Or.inr (Or.inl rfl)

theorem givesUp_congr {first second : AcctSession} {turn other : AcctTurn} (state : AcctState)
    (space : turn.storageSpace = other.storageSpace) (same : first.attributes = second.attributes) :
    givesUp turn first state = givesUp other second state := by
  cases first
  cases second
  cases turn
  cases other
  cases same
  cases space
  rfl

theorem fails_failToSend
    (fits : session.state.awaits = some (recordKind turn.recordInStorage session.attributes.recordType)) :
    Fails session.state turn (session.failToSend (AcctSession.notify turn) turn).1
      (summaryOf (session.failToSend (AcctSession.notify turn) turn).2) := by
  have outcome := isOutcome_ftsEvent session turn
  have about := about_ftsEvent session turn
  have rowed : HasRow session.state (session.ftsEvent turn) := (hasRow_about about _).mpr fits
  have settles := notify_settles turn outcome rowed
  have attributes := attributes_failToSend session turn
  rw [summaryOf_failToSend]
  refine ⟨settles.unwaiting, settles.idles, settles.generates, settles.unsentIn, ?_, ?_⟩
  · refine Bool.eq_false_iff.mpr fun deletes => ?_
    rcases settles.deletes.mp deletes with ⟨other, _⟩ | ⟨other, _⟩
    all_goals
      rw [other] at about
      cases about
  · rw [settles.stores]
    have same : givesUp turn (session.failToSend (AcctSession.notify turn) turn).1 session.state =
        givesUp turn session session.state := givesUp_congr session.state rfl attributes
    rw [same]
    exact ftsEvent_covers session.state fits

/-- A failure to send where nothing is outstanding is ignored. -/
theorem failToSend_ignored (idle : session.state.awaits = none) :
    (session.failToSend (AcctSession.notify turn) turn).1 = session ∧
      summaryOf (session.failToSend (AcctSession.notify turn) turn).2 = .quiet := by
  have outcome := isOutcome_ftsEvent session turn
  have unrowed : ¬ HasRow session.state (session.ftsEvent turn) := by
    intro rowed
    have waits := waits_of_hasRow outcome rowed
    rw [idle] at waits
    cases waits
  constructor
  · unfold AcctSession.failToSend
    rw [notify_ignored session turn unrowed]
  · rw [summaryOf_failToSend, notify_ignored session turn unrowed]
    rfl

theorem txACR_sends
    (fits : session.attributes.backwardCompatibility = false → turn.delivered = false →
      session.state.awaits = some (recordKind turn.recordInStorage session.attributes.recordType)) :
    let result := session.txACR (AcctSession.renotify turn) turn
    result.1.state = session.state ∧ summaryOf result.2 = { RecordSummary.quiet with generates := true } ∨
      ∃ summary, summaryOf result.2 = { summary with generates := true, unsentIn := some session.state } ∧
        Fails session.state turn result.1 summary := by
  intro result
  by_cases sends : session.attributes.backwardCompatibility = false ∧ turn.delivered = false
  · obtain ⟨incompatible, undelivered⟩ := sends
    right
    have fails := @fails_failToSend session.nextRecord turn (fits incompatible undelivered)
    have sent : result = ((session.nextRecord.failToSend (AcctSession.notify turn) turn).1,
        .generateRecord session.nextRecord.attributes.recordType session.nextRecord.attributes.recordNumber ::
          .txDelivery session.state (some session.nextRecord.request) false ::
            (session.nextRecord.failToSend (AcctSession.notify turn) turn).2) := by
      have kept : session.nextRecord.attributes.backwardCompatibility = false := incompatible
      simp only [result, AcctSession.txACR, kept, undelivered, failToSend_renotify]
      rfl
    rw [sent]
    exact ⟨_, rfl, fails⟩
  · left
    have kept : session.nextRecord.attributes.backwardCompatibility = session.attributes.backwardCompatibility := rfl
    simp only [result, AcctSession.txACR, kept]
    split
    · exact ⟨rfl, rfl⟩
    · next incompatible =>
      split
      · exact ⟨rfl, rfl⟩
      · next undelivered =>
        exact absurd ⟨Bool.eq_false_iff.mpr incompatible, Bool.eq_false_iff.mpr undelivered⟩ sends

end Failures

section Accounts

structure RecordBook.Kept (book : RecordBook) : Prop where
  each : ∀ id < book.generated, book.outstanding = some id ∨ id ∈ book.storage ∨
    id ∈ book.acknowledged ∨ id ∈ book.abandoned
  deletes : ∀ dropped ∈ book.deleted, dropped.1.isSome = true ∧ dropped.1 = dropped.2
  waits : book.session.state.awaits.isSome = book.outstanding.isSome
  resent : book.session.state = .pendingB → book.outstanding = book.storage.head?
  ended : book.ended = true → book.session.state ≠ .opened ∧ book.session.state.recording = none

variable {book : RecordBook} {call : RecordCall} {summary : RecordSummary} {after : AcctSession}

theorem RecordBook.Kept.accounted (kept : book.Kept) : book.Accounted := by
  refine ⟨fun id numbered => ?_, kept.deletes, fun ended settled => ?_⟩
  · rcases kept.each id numbered with waits | placed
    · refine Or.inl ⟨waits, ?_⟩
      rw [kept.waits, waits]
      rfl
    · exact Or.inr placed
  · obtain ⟨shut, unrecorded⟩ := kept.ended ended
    have idle := kept.waits
    rw [settled] at idle
    generalize book.session.state = state at shut unrecorded idle
    cases state with
    | idle => rfl
    | opened => exact absurd rfl shut
    | pendingS | pendingI | pendingE | pendingB | pendingL => cases idle

theorem current_of_anew {input : AcctInput} (stops : summary.stores = true → summary.unsentIn.isSome = true)
    (anew : book.anew input summary = true) : book.current input summary = some book.generated := by
  unfold RecordBook.anew at anew
  unfold RecordBook.current
  split at anew
  · cases anew
  · rfl
  · rw [Bool.and_eq_true] at anew
    have unsent := stops anew.1
    rw [Option.isNone_iff_eq_none.mp anew.2] at unsent
    cases unsent

/-- A call that is not an answer keeps the account if it drops nothing and settles what it
could not send. -/
theorem kept_record (kept : book.Kept) (unanswered : call.result = none) (undeleted : summary.deletes = false)
    (dropless : summary.generates = true → book.outstanding = none)
    (stops : summary.stores = true → summary.unsentIn.isSome = true)
    (covered : ∀ id ∈ book.current call.input summary, summary.unsentIn.isSome = true →
      summary.stores = true ∧ call.input.turn.storageSpace = true ∨
        summary.unsentIn.any (givesUp call.input.turn after) = true ∨ id ∈ book.storage)
    (waits : after.state.awaits.isSome = (book.record call summary after).outstanding.isSome)
    (resent : after.state = .pendingB →
      (book.record call summary after).outstanding = (book.record call summary after).storage.head?)
    (ended : (book.record call summary after).ended = true → after.state ≠ .opened ∧ after.state.recording = none) :
    (book.record call summary after).Kept := by
  have outstanding : (book.record call summary after).outstanding =
      if summary.unsentIn.isSome then none else book.current call.input summary := by
    simp [RecordBook.record, unanswered]
  -- The record that concerns the call is outstanding, or, if it was not sent, one of the three.
  have about : ∀ id ∈ book.current call.input summary,
      (book.record call summary after).outstanding = some id ∨ id ∈ (book.record call summary after).storage ∨
        id ∈ (book.record call summary after).acknowledged ∨ id ∈ (book.record call summary after).abandoned := by
    intro id current
    cases unsent : summary.unsentIn.isSome with
    | false =>
      left
      rw [outstanding, unsent, if_neg Bool.false_ne_true]
      exact current
    | true =>
      have sent : summary.unsentIn.isNone = false := by simpa using unsent
      have held : (book.current call.input summary).toList = [id] := by rw [Option.mem_def.mp current]; rfl
      right
      rcases covered id current unsent with ⟨stores, space⟩ | gives | stored
      · left
        simp [RecordBook.record, stores, space, sent, held]
      · right
        right
        simp [RecordBook.record, unanswered, gives, held]
      · left
        simp [RecordBook.record, undeleted, stored]
  constructor
  · intro id numbered
    -- A new number is that of the record that the call makes.
    by_cases old : id < book.generated
    · rcases kept.each id old with here | stored | acknowledged | abandoned
      · have unsent : summary.generates = false := by
          refine Bool.eq_false_iff.mpr fun generates => ?_
          rw [dropless generates] at here
          cases here
        refine about id ?_
        simp only [RecordBook.current, unsent]
        exact here
      · right
        left
        simp [RecordBook.record, undeleted, stored]
      · right
        right
        left
        simp [RecordBook.record, unanswered, acknowledged]
      · right
        right
        right
        simp only [RecordBook.record]
        exact List.mem_append_right _ abandoned
    · refine about id ?_
      simp only [RecordBook.record] at numbered
      split at numbered
      · next anew =>
        have last : id = book.generated := by omega
        rw [last, current_of_anew stops anew]
        rfl
      · exact absurd numbered old
  · simp only [RecordBook.record, undeleted]
    exact kept.deletes
  · exact waits
  · exact resent
  · exact ended

theorem kept_ignored (kept : book.Kept) (unanswered : call.result = none) (state : after.state = book.session.state)
    (ended : (book.record call .quiet after).ended = true →
      book.session.state ≠ .opened ∧ book.session.state.recording = none) :
    (book.record call .quiet after).Kept := by
  have outstanding : (book.record call .quiet after).outstanding = book.outstanding := by
    simp [RecordBook.record, RecordSummary.quiet, RecordBook.current, unanswered]
  refine kept_record kept unanswered rfl ?_ ?_ ?_ ?_ ?_ ?_
  · intro generates
    cases generates
  · intro stores
    cases stores
  · intro id _ unsent
    cases unsent
  · rw [outstanding, state]
    exact kept.waits
  · rw [outstanding, state]
    exact kept.resent
  · rw [state]
    exact ended

theorem unwaiting_of_sends {state next : AcctState} {event : AcctEvent} (sends : state.sends event = some next) :
    state.awaits = none ∧ next.awaits.isSome = true := by
  cases state <;> cases event <;> cases sends <;> exact ⟨rfl, rfl⟩

theorem kept_sends {session : AcctSession} {turn : AcctTurn} {event : AcctEvent} {next : AcctState}
    (kept : book.Kept) (unanswered : call.result = none) (state : session.state = book.session.state)
    (sends : session.state.sends event = some next) (space : turn.storageSpace = call.input.turn.storageSpace)
    (fits : session.attributes.backwardCompatibility = false → turn.delivered = false →
      next.awaits = some (recordKind turn.recordInStorage (session.pending event next).attributes.recordType))
    (current : ∃ id, (∀ summary, summary.generates = true → book.current call.input summary = some id) ∧
      (next = .pendingB → id ∈ book.storage ∧ book.storage.head? = some id))
    (ended : ∀ summary after, summary.generates = true → (book.record call summary after).ended = true →
      next.recording = none) :
    (book.record call (summaryOf (session.notify turn event).2) (session.notify turn event).1).Kept := by
  obtain ⟨id, concerns, resent⟩ := current
  obtain ⟨idle, pends⟩ := unwaiting_of_sends sends
  have settled : book.outstanding = none := by
    have waits := kept.waits
    rw [← state, idle] at waits
    exact Option.isNone_iff_eq_none.mp (by simpa using waits.symm)
  have sender : (session.pending event next).state = next ∧
      (session.pending event next).attributes.backwardCompatibility = session.attributes.backwardCompatibility := by
    unfold AcctSession.pending
    split <;> exact ⟨rfl, rfl⟩
  have result := @txACR_sends (session.pending event next) turn (by
    rw [sender.1, sender.2]
    exact fits)
  rw [notify_sends session turn sends]
  dsimp only at result ⊢
  rw [summaryOf_dumpEvent]
  rw [sender.1] at result
  -- The request is on its way, or could not be delivered.
  rcases result with ⟨waiting, summary⟩ | ⟨summary, same, fails⟩
  · rw [summary]
    have outstanding : ∀ after, (book.record call { RecordSummary.quiet with generates := true } after).outstanding =
        some id := by
      intro after
      simp [RecordBook.record, RecordSummary.quiet, unanswered, concerns]
    refine kept_record kept unanswered rfl (fun _ => settled) ?_ ?_ ?_ ?_ ?_
    · intro stores
      cases stores
    · intro id _ unsent
      cases unsent
    · rw [outstanding, waiting, pends]
      rfl
    · intro here
      rw [outstanding]
      simp only [RecordBook.record, RecordSummary.quiet, Bool.false_and, Bool.false_eq_true, if_false, List.nil_append]
      exact (resent (waiting ▸ here)).2.symm
    · intro finished
      rw [waiting]
      refine ⟨fun opened => ?_, ended _ _ rfl finished⟩
      rw [opened] at pends
      cases pends
  · rw [same]
    generalize (session.pending event next).txACR (AcctSession.renotify turn) turn = after at fails ⊢
    have outstanding : ∀ after, (book.record call { summary with generates := true, unsentIn := some next }
        after).outstanding = none := by
      intro after
      simp [RecordBook.record]
    refine kept_record kept unanswered fails.deletes (fun _ => settled) (fun _ => rfl) ?_ ?_ ?_ ?_
    · intro other here _
      rw [concerns _ rfl] at here
      cases here
      rcases fails.covered with ⟨stores, room⟩ | gives | stored
      · exact Or.inl ⟨stores, space ▸ room⟩
      · refine Or.inr (Or.inl ?_)
        -- The policy looks at the realtime attribute and the space alone.
        have same : givesUp call.input.turn after.1 next = givesUp turn after.1 next :=
          givesUp_congr next space.symm rfl
        simpa [same] using gives
      · refine Or.inr (Or.inr (resent ?_).1)
        cases next <;> first | rfl | cases stored
    · rw [outstanding, fails.unwaiting]
      rfl
    · intro here
      have unwaiting := fails.unwaiting
      rw [here] at unwaiting
      cases unwaiting
    · intro finished
      have unrecorded := ended _ _ rfl finished
      rw [fails.idles unrecorded]
      exact ⟨by decide, rfl⟩

end Accounts

section Calls

variable {book : RecordBook}

theorem kept_access {session : AcctSession} {event : AcctEvent} {next : AcctState} {call : RecordCall} {turn : AcctTurn}
    (kept : book.Kept) (begins : ∃ oneTime settings recordInStorage, call.input = .begin oneTime settings recordInStorage turn)
    (state : session.state = book.session.state) (sends : AcctState.sends .idle event = some next)
    (unexpired : event ≠ .intExpire)
    (fits : next.awaits = some (recordKind (!book.storage.isEmpty) session.attributes.recordType))
    (stored : next = .pendingB → book.storage ≠ []) :
    (book.record call
      (summaryOf (session.notify { turn with recordInStorage := !book.storage.isEmpty } event).2)
      (session.notify { turn with recordInStorage := !book.storage.isEmpty } event).1).Kept := by
  obtain ⟨oneTime, settings, recordInStorage, begins⟩ := begins
  have unanswered : call.result = none := by
    unfold RecordCall.result
    rw [begins]
  by_cases idle : session.state = .idle
  · refine kept_sends kept unanswered state (idle ▸ sends) (by rw [begins]; rfl) ?_ ?_ ?_
    · intro _ _
      rw [fits, AcctSession.pending, if_neg unexpired]
      rfl
    · cases same : book.storage with
      | nil =>
        refine ⟨book.generated, fun summary generates => ?_, fun here => absurd same (stored here)⟩
        simp only [RecordBook.current, generates, same, begins]
      | cons id storage =>
        refine ⟨id, fun summary generates => ?_, fun _ => ⟨List.mem_cons_self, rfl⟩⟩
        simp only [RecordBook.current, generates, same, begins]
    · intro summary after generates finished
      simp [RecordBook.record, generates, begins] at finished
  · have unrowed : ¬ HasRow session.state event := by
      generalize session.state = state at idle
      cases event <;> cases sends <;> cases state <;> first | exact absurd rfl idle | decide
    rw [notify_ignored session _ unrowed]
    refine kept_ignored kept unanswered state fun finished => kept.ended ?_
    simpa [RecordBook.record, RecordSummary.quiet, begins] using finished

theorem kept_begin (kept : book.Kept) (oneTime : Bool) (settings : AcctSettings) (recordInStorage : Bool)
    (turn : AcctTurn) (answers : Nat) :
    (book.take ⟨.begin oneTime settings recordInStorage turn, answers⟩).Kept := by
  unfold RecordBook.take RecordBook.step AcctInput.told AcctSession.step AcctSession.begin
  dsimp only
  split
  · next stored =>
    have held : book.storage ≠ [] := by simpa using stored
    refine kept_access kept ⟨_, _, _, rfl⟩ ?_ rfl (by decide) ?_ fun _ => held
    · rfl
    · rw [stored]
      rfl
  · next empty =>
    have fresh := Bool.eq_false_iff.mpr empty
    split
    · refine kept_access kept ⟨_, _, _, rfl⟩ rfl rfl (by decide) ?_ fun other => ?_
      · rw [fresh]
        rfl
      · cases other
    · refine kept_access kept ⟨_, _, _, rfl⟩ rfl rfl (by decide) ?_ fun other => ?_
      · rw [fresh]
        rfl
      · cases other

theorem summaryOf_unsent (state : AcctState) (effects : List AcctEffect) :
    summaryOf (.txDelivery state none false :: effects) = { summaryOf effects with unsentIn := some state } := rfl

theorem kept_send (kept : book.Kept) (turn : AcctTurn) (answers : Nat)
    (careful : Careful book ⟨.send turn, answers⟩) : (book.take ⟨.send turn, answers⟩).Kept := by
  unfold RecordBook.take RecordBook.step AcctInput.told AcctSession.step AcctSession.send
  dsimp only
  split
  · refine kept_ignored kept rfl rfl fun finished => kept.ended ?_
    simpa [RecordBook.record] using finished
  · next undelivered =>
    dsimp only
    rw [summaryOf_unsent]
    have settled : ∀ (summary : RecordSummary) after, (book.record ⟨.send turn, answers⟩
        { summary with unsentIn := some book.session.state } after).outstanding = none := by
      intro summary after
      simp [RecordBook.record]
    cases idle : book.session.state.awaits with
    -- No answer is awaited, so that the failure finds no row.
    | none =>
      obtain ⟨same, quiet⟩ := @failToSend_ignored _ { turn with recordInStorage := !book.storage.isEmpty } idle
      have unwaiting := kept.waits
      rw [idle] at unwaiting
      rw [same, quiet]
      refine kept_record kept rfl rfl ?_ ?_ ?_ ?_ ?_ kept.ended
      · intro generates
        cases generates
      · intro stores
        cases stores
      · intro id here _
        have outstanding : book.outstanding = some id := here
        rw [outstanding] at unwaiting
        cases unwaiting
      · rw [settled, idle]
        rfl
      · intro here
        rw [here] at idle
        cases idle
    | some kind =>
      have fits := careful (Bool.eq_false_iff.mpr undelivered) (by rw [idle]; rfl)
      have fails := @fails_failToSend _ { turn with recordInStorage := !book.storage.isEmpty } fits
      generalize book.session.failToSend _ _ = after at fails
      refine kept_record kept rfl fails.deletes ?_ (fun _ => rfl) ?_ ?_ ?_ ?_
      · intro generates
        have quiet := fails.generates
        rw [generates] at quiet
        cases quiet
      · intro id here _
        have outstanding : book.outstanding = some id := by
          unfold RecordBook.current at here
          simpa [fails.generates] using here
        rcases fails.covered with ⟨stores, room⟩ | gives | stored
        · exact Or.inl ⟨stores, room⟩
        · refine Or.inr (Or.inl ?_)
          have same : givesUp turn after.1 book.session.state =
              givesUp { turn with recordInStorage := !book.storage.isEmpty } after.1 book.session.state :=
            givesUp_congr _ rfl rfl
          exact same.trans gives
        · refine Or.inr (Or.inr ?_)
          have here : book.session.state = .pendingB := by
            generalize book.session.state = state at stored
            cases state <;> first | rfl | cases stored
          have resent := kept.resent here
          rw [outstanding] at resent
          exact List.mem_of_mem_head? resent.symm
      · rw [settled, fails.unwaiting]
        rfl
      · intro here
        have unwaiting := fails.unwaiting
        rw [here] at unwaiting
        cases unwaiting
      · intro finished
        have unrecorded := (kept.ended (by simpa [RecordBook.record] using finished)).2
        rw [fails.idles unrecorded]
        exact ⟨by decide, rfl⟩

theorem kept_answered {call : RecordCall} {summary : RecordSummary} {after : AcctSession} {success : Bool}
    (kept : book.Kept) (answered : call.result = some success)
    (outstanding : ∀ id ∈ book.outstanding, id = call.answers) (generates : summary.generates = false)
    (unsentIn : summary.unsentIn = none) (stores : summary.stores = false)
    (deletes : summary.deletes = true → book.outstanding = some call.answers ∧ book.storage.head? = some call.answers)
    (unwaiting : after.state.awaits = none)
    (ended : book.ended = true → after.state ≠ .opened ∧ after.state.recording = none) :
    (book.record call summary after).Kept := by
  have current : book.current call.input summary = book.outstanding := by
    unfold RecordBook.current
    rw [generates]
  have settled : (book.record call summary after).outstanding = none := by
    simp only [RecordBook.record, unsentIn, answered, current]
    cases waiting : book.outstanding with
    | none => simp
    | some id => simp [outstanding id waiting]
  have about : call.answers ∈ (book.record call summary after).acknowledged ∨
      call.answers ∈ (book.record call summary after).abandoned := by
    cases success with
    | true => exact Or.inl (by simp [RecordBook.record, answered])
    | false => exact Or.inr (by simp [RecordBook.record, answered])
  constructor
  · intro id numbered
    have old : id < book.generated := by
      simpa [RecordBook.record, RecordBook.anew, generates, stores] using numbered
    -- A number that was used is outstanding, stored, acknowledged or abandoned, and stays so.
    rcases kept.each id old with here | stored | acknowledged | abandoned
    · rw [outstanding id here]
      exact Or.inr (Or.inr about)
    -- A stored record goes away only as the one that is answered.
    · cases dropped : summary.deletes with
      | false =>
        right
        left
        simp [RecordBook.record, dropped, stored]
      | true =>
        obtain ⟨_, first⟩ := deletes dropped
        cases same : book.storage with
        | nil =>
          rw [same] at stored
          cases stored
        | cons head tail =>
          rw [same] at first stored
          obtain rfl := Option.some.inj first
          rcases List.mem_cons.mp stored with rfl | later
          · exact Or.inr (Or.inr about)
          · right
            left
            simp [RecordBook.record, dropped, same, later]
    · right
      right
      left
      simp only [RecordBook.record]
      split
      · exact List.mem_cons_of_mem _ acknowledged
      · exact acknowledged
    · right
      right
      right
      simp only [RecordBook.record]
      exact List.mem_append_right _ abandoned
  · simp only [RecordBook.record]
    split
    · next dropped =>
      obtain ⟨waiting, first⟩ := deletes dropped
      intro entry mem
      rcases List.mem_cons.mp mem with rfl | mem
      · simp [answered, waiting, first, Option.filter]
      · exact kept.deletes entry mem
    · exact kept.deletes
  · rw [settled]
    simp only [RecordBook.record, unwaiting, Option.isSome_none]
  · intro here
    have unwaiting := unwaiting
    rw [show after.state = .pendingB from here] at unwaiting
    cases unwaiting
  · intro finished
    refine ended ?_
    unfold RecordCall.result at answered
    cases input : call.input with
    | rxAnswer => simpa [RecordBook.record, input] using finished
    | «begin» | send | timeout | endRecording =>
      rw [input] at answered
      cases answered

theorem kept_outcome {session : AcctSession} {event : AcctEvent} {call : RecordCall} {summary : RecordSummary}
    {turn : AcctTurn} {success : Bool} (kept : book.Kept) (answered : call.result = some success)
    (state : session.state = book.session.state) (told : turn.recordInStorage = !book.storage.isEmpty)
    (outcome : event.isOutcome = true) (unstored : event ≠ .ftsNotDag ∧ event ≠ .ftsBuf)
    (rowed : book.session.state.awaits.isSome = true →
      book.outstanding = some call.answers ∧ HasRow book.session.state event)
    (fresh : event = .rxAcaOk → book.session.state.awaits.isSome = true →
      book.session.state = .pendingB ∨ book.storage = [])
    (same : summary = summaryOf (session.notify turn event).2) :
    (book.record call summary (session.notify turn event).1).Kept := by
  subst same
  rcases Option.eq_none_or_eq_some book.session.state.awaits with idle | ⟨kind, waiting⟩
  · have unrowed : ¬ HasRow session.state event := by
      intro rowed
      have waits := waits_of_hasRow outcome rowed
      rw [state, idle] at waits
      cases waits
    have settled := kept.waits
    rw [idle] at settled
    rw [notify_ignored session turn unrowed]
    refine kept_answered kept answered ?_ rfl rfl rfl ?_ (state ▸ idle) (state ▸ kept.ended)
    · intro id here
      rw [Option.mem_def.mp here] at settled
      cases settled
    · intro deletes
      cases deletes
  · have waits : book.session.state.awaits.isSome = true := by
      rw [waiting]
      rfl
    obtain ⟨outstanding, row⟩ := rowed waits
    have settles := notify_settles turn outcome (state ▸ row)
    refine kept_answered kept answered ?_ settles.generates settles.unsentIn ?_ ?_ settles.unwaiting ?_
    · intro id here
      exact Option.some.inj ((Option.mem_def.mp here).symm.trans outstanding)
    · exact Bool.eq_false_iff.mpr fun stores => (settles.stores.mp stores).elim unstored.1 unstored.2
    · intro deletes
      refine ⟨outstanding, ?_⟩
      have resent : book.session.state = .pendingB := by
        rcases settles.deletes.mp deletes with ⟨ok, stored⟩ | ⟨_, resent⟩
        · refine (fresh ok waits).resolve_right fun empty => ?_
          rw [told, empty] at stored
          cases stored
        · exact state ▸ resent
      exact (kept.resent resent).symm.trans outstanding
    · intro finished
      obtain ⟨_, unrecorded⟩ := kept.ended finished
      rw [settles.idles (state ▸ unrecorded)]
      exact ⟨by decide, rfl⟩

theorem kept_rxAnswer (kept : book.Kept) (answer : AccountingAnswer) (turn : AcctTurn) (answers : Nat)
    (careful : Careful book ⟨.rxAnswer answer turn, answers⟩) :
    (book.take ⟨.rxAnswer answer turn, answers⟩).Kept := by
  unfold RecordBook.take RecordBook.step AcctInput.told AcctSession.step AcctSession.rxAnswer
  dsimp only
  by_cases accounting : answer.code = msgCodeAccounting
  · have answered : RecordCall.result ⟨.rxAnswer answer turn, answers⟩ = some answer.succeeds := if_pos accounting
    rw [if_neg (not_not_intro accounting)]
    split
    · next succeeds =>
      refine kept_outcome kept answered rfl rfl rfl (by decide) (fun waiting => ?_) (fun _ waiting => ?_) rfl
      · exact ⟨(careful accounting waiting).1, (hasRow_ok _).mpr waiting⟩
      · exact (careful accounting waiting).2.1 succeeds
    · next fails =>
      have refused := Bool.eq_false_iff.mpr fails
      have outcome := isOutcome_failureEvent (book.session.filter answer)
        { turn with recordInStorage := !book.storage.isEmpty }
      refine kept_outcome kept answered rfl rfl outcome ?_ (fun waiting => ?_) (fun ok => ?_) (summaryOf_failed _ _)
      · unfold AcctSession.failureEvent
        split_ifs <;> decide
      · obtain ⟨outstanding, _, kinds⟩ := careful accounting waiting
        exact ⟨outstanding, (hasRow_failureEvent (book.session.filter answer) _ waiting).mpr (kinds refused)⟩
      · exact absurd ok (failureEvent_refused _ _).2
  · rw [if_pos accounting]
    have unanswered : RecordCall.result ⟨.rxAnswer answer turn, answers⟩ = none := if_neg accounting
    refine kept_ignored kept unanswered rfl fun finished => kept.ended ?_
    simpa [RecordBook.record] using finished

theorem kept_timeout (kept : book.Kept) (timer : AcctTimer) (turn : AcctTurn) (answers : Nat)
    (careful : Careful book ⟨.timeout timer turn, answers⟩) :
    (book.take ⟨.timeout timer turn, answers⟩).Kept := by
  have ignored : ¬ HasRow book.session.state timer.event → (book.take ⟨.timeout timer turn, answers⟩).Kept := by
    intro unrowed
    unfold RecordBook.take RecordBook.step AcctInput.told AcctSession.step
    dsimp only
    rw [notify_ignored _ _ unrowed]
    refine kept_ignored kept rfl rfl fun finished => kept.ended ?_
    simpa [RecordBook.record] using finished
  cases timer with
  | session =>
    refine ignored ?_
    cases book.session.state <;> decide
  | interval =>
    by_cases opened : book.session.state = .opened
    · have sends : book.session.state.sends AcctTimer.interval.event = some .pendingI := by
        rw [opened]
        rfl
      refine kept_sends kept rfl rfl sends rfl (fun incompatible undelivered => ?_) ?_ ?_
      · rw [careful opened incompatible undelivered]
        rfl
      · refine ⟨book.generated, fun summary generates => ?_, fun other => ?_⟩
        · simp only [RecordBook.current, generates]
        · cases other
      · intro summary after _ finished
        have ended : book.ended = true := by simpa [RecordBook.record] using finished
        exact absurd opened (kept.ended ended).1
    · refine ignored ?_
      generalize book.session.state = state at opened
      cases state <;> first | decide | exact absurd rfl opened

theorem kept_endRecording (kept : book.Kept) (turn : AcctTurn) (answers : Nat)
    (careful : Careful book ⟨.endRecording turn, answers⟩) : (book.take ⟨.endRecording turn, answers⟩).Kept := by
  obtain ⟨unrecorded, discerned⟩ := careful
  by_cases opened : book.session.state = .opened
  · have sends : ((book.session.setRecordType rectypeStop).cancelAllTimer).state.sends .stop = some .pendingL := by
      simp only [AcctSession.cancelAllTimer, AcctSession.setRecordType, opened]
      rfl
    refine kept_sends kept rfl rfl sends rfl (fun incompatible undelivered => ?_) ?_ ?_
    · rw [discerned opened incompatible undelivered]
      rfl
    · refine ⟨book.generated, fun summary generates => ?_, fun other => ?_⟩
      · simp only [RecordBook.current, generates]
      · cases other
    · intros
      rfl
  · have unrowed : ¬ HasRow ((book.session.setRecordType rectypeStop).cancelAllTimer).state .stop := by
      unfold AcctSession.cancelAllTimer AcctSession.setRecordType
      dsimp only
      generalize book.session.state = state at opened unrecorded
      cases state <;> first | decide | exact absurd rfl opened | cases unrecorded
    unfold RecordBook.take RecordBook.step AcctInput.told AcctSession.step
    dsimp only
    rw [notify_ignored _ _ unrowed]
    exact kept_ignored kept rfl rfl fun _ => ⟨opened, unrecorded⟩

theorem kept_call {call : RecordCall} (kept : book.Kept) (careful : Careful book call) : (book.take call).Kept := by
  obtain ⟨input, answers⟩ := call
  cases input with
  | «begin» oneTime settings recordInStorage turn => exact kept_begin kept oneTime settings recordInStorage turn answers
  | send turn => exact kept_send kept turn answers careful
  | rxAnswer answer turn => exact kept_rxAnswer kept answer turn answers careful
  | timeout timer turn => exact kept_timeout kept timer turn answers careful
  | endRecording turn => exact kept_endRecording kept turn answers careful

theorem kept_nothing (attributes : AcctAttributes) : (RecordBook.initial attributes).Kept := by
  refine ⟨fun id numbered => ?_, fun entry mem => ?_, rfl, fun other => ?_, fun finished => ?_⟩
  · cases numbered
  · cases mem
  · cases other
  · cases finished

/-- In a run of careful calls no record is lost. -/
theorem run_accounted (attributes : AcctAttributes) (calls : List RecordCall)
    (careful : Stepwise RecordBook.take Careful (.initial attributes) calls) :
    (calls.foldl RecordBook.take (.initial attributes)).Accounted :=
  (careful.invariant (fun _ _ kept here => kept_call kept here) (kept_nothing attributes)).accounted

/-- The records of a service are acknowledged, the last one is stored, and sent later. -/
theorem plainRecords_accounted :
    ([⟨.begin false {} false ⟨true, false, true⟩, 0⟩,
      ⟨.rxAnswer ⟨msgCodeAccounting, some 2001, some rectypeStart, none, none⟩ ⟨true, false, true⟩, 0⟩,
      ⟨.timeout .interval ⟨true, false, true⟩, 0⟩,
      ⟨.rxAnswer ⟨msgCodeAccounting, some 2001, none, none, none⟩ ⟨true, false, true⟩, 1⟩,
      ⟨.endRecording ⟨false, false, true⟩, 0⟩,
      ⟨.begin false {} true ⟨true, true, true⟩, 0⟩,
      ⟨.rxAnswer ⟨msgCodeAccounting, some 2001, none, none, none⟩ ⟨true, false, true⟩, 2⟩].foldl
      RecordBook.take (.initial ⟨0, realtimeGrantAndStore, 60, rectypeEvent, 0, none, none, false⟩)).Accounted :=
  run_accounted _ _ (by decide +kernel)

/-- The start record is stored, and deleted when the stop record is acknowledged. -/
theorem stored_record_lost : ¬ ∀ (attributes : AcctAttributes) (calls : List RecordCall),
    (calls.foldl RecordBook.take (.initial attributes)).Accounted := by
  intro always
  have each := (always ⟨0, realtimeGrantAndStore, 60, rectypeEvent, 0, none, none, false⟩
    [⟨.begin false {} false ⟨false, false, true⟩, 0⟩,
      ⟨.endRecording ⟨true, false, true⟩, 0⟩,
      ⟨.rxAnswer ⟨msgCodeAccounting, some 2001, none, none, none⟩ ⟨true, false, true⟩, 1⟩]).each 0 (by decide +kernel)
  revert each
  decide +kernel

end Calls

end OpenDiameter.Session
