import OpenDiameter.Foundation.Runs
import OpenDiameter.Session.AcctClient

/-! What becomes of a record that is refused or cannot be sent, and whether the machine
has a row for it.

The event of an outcome is chosen from the storage and the record type as they are when
it is chosen; the rows are those of the pending state. Where the two agree the outcome
is the one of the realtime value, except that an answer that reports a failure is taken
by the wrong value.
-/

set_option autoImplicit false

namespace OpenDiameter.Session

open Foundation OpenDiameter.Framework

section Purpose

def AcctEvent.isOutcome : AcctEvent → Bool
  | .rxAcaOk | .rxAcaFail | .rxAcaFailAndGal | .rxAcaFailNotGal | .fts | .ftsBuf | .ftsNoBuf | .ftsNotDag
  | .ftsAndGal | .ftsNotGal => true
  | _ => false

def HasRow (state : AcctState) (event : AcctEvent) : Prop :=
  ∃ entry ∈ acctClientStateTable, entry.prevState = state ∧ entry.event = some event

instance (state : AcctState) (event : AcctEvent) : Decidable (HasRow state event) :=
  inferInstanceAs (Decidable (∃ entry ∈ acctClientStateTable, _))

def AcctState.recording : AcctState → Option UInt32
  | .pendingS => some rectypeStart
  | .pendingI => some rectypeInterim
  | _ => none

def GrantedOrEnded (result : AcctSession × List AcctEffect) : Prop :=
  (result.1.state = .opened ↔ result.1.attributes.realtimeRequired = realtimeGrantAndLose) ∧
    (result.1.attributes.realtimeRequired ≠ realtimeGrantAndLose →
      result.1.state = .idle ∧ AcctEffect.reset ∈ result.2)

def Storable (turn : AcctTurn) (session : AcctSession) : Prop :=
  turn.storageSpace = true ∧ session.attributes.realtimeRequired ≠ realtimeDeliverAndGrant

instance (turn : AcctTurn) (session : AcctSession) : Decidable (Storable turn session) :=
  inferInstanceAs (Decidable (_ ∧ _))

def StoredOrGrantedOrEnded (turn : AcctTurn) (recordType : UInt32) (result : AcctSession × List AcctEffect) : Prop :=
  (AcctEffect.storeLastRecord recordType ∈ result.2 ↔ Storable turn result.1) ∧
    (¬ Storable turn result.1 → GrantedOrEnded result)

/-- A call treats the records as the realtime value demands. -/
structure Obeys (session : AcctSession) (input : AcctInput) : Prop where
  rowed : ∀ state event, AcctEffect.dumpEvent state event ∈ (session.step input).2 → event.isOutcome = true →
    HasRow state event
  refused : ∀ answer turn, input = .rxAnswer answer turn → answer.code = msgCodeAccounting →
    answer.succeeds = false → session.state.recording.isSome = true → GrantedOrEnded (session.step input)
  unsent : ∀ state request recordType, AcctEffect.txDelivery state request false ∈ (session.step input).2 →
    state.recording = some recordType → StoredOrGrantedOrEnded input.turn recordType (session.step input)

end Purpose

section Condition

/-- What a record is to the functions that choose an event. -/
inductive RecordKind where
  | stored | last | current
  deriving DecidableEq, Repr

def recordKind (recordInStorage : Bool) (recordType : UInt32) : RecordKind :=
  if recordInStorage then .stored
  else if recordType = rectypeEvent ∨ recordType = rectypeStop then .last
  else .current

def AcctState.awaits : AcctState → Option RecordKind
  | .idle | .opened => none
  | .pendingS | .pendingI => some .current
  | .pendingE | .pendingL => some .last
  | .pendingB => some .stored

def AcctEvent.about : AcctEvent → Option RecordKind
  | .fts => some .stored
  | .ftsBuf | .ftsNoBuf => some .last
  | .ftsNotDag | .ftsAndGal | .ftsNotGal | .rxAcaFailAndGal | .rxAcaFailNotGal => some .current
  | _ => none

def Fits (session : AcctSession) : AcctInput → Prop
  | .begin _ _ recordInStorage turn =>
    session.state = .idle → session.attributes.backwardCompatibility = false → turn.delivered = false →
      turn.recordInStorage = recordInStorage
  | .endRecording turn | .timeout .interval turn =>
    session.state = .opened → session.attributes.backwardCompatibility = false → turn.delivered = false →
      turn.recordInStorage = false
  | .timeout .session _ => True
  | .send turn =>
    turn.delivered = false →
      session.state.awaits = some (recordKind turn.recordInStorage session.attributes.recordType)
  | .rxAnswer answer turn =>
    answer.code = msgCodeAccounting →
      session.state.awaits.isSome = true ∧
        (answer.succeeds = false →
          (session.state.awaits = some .current ↔
              recordKind turn.recordInStorage (answer.recordType.getD session.attributes.recordType) = .current) ∧
            (session.state.awaits = some .current →
              answer.realtimeRequired.getD session.attributes.realtimeRequired ≠ realtimeGrantAndLose ∧
                answer.realtimeRequired.getD session.attributes.realtimeRequired ≠ realtimeDeliverAndGrant))

end Condition

section Rows

theorem hasRow_ok (state : AcctState) : HasRow state .rxAcaOk ↔ state.awaits.isSome = true := by
  cases state <;> decide

theorem hasRow_about {event : AcctEvent} {kind : RecordKind} (about : event.about = some kind) (state : AcctState) :
    HasRow state event ↔ state.awaits = some kind := by
  cases event <;> cases about <;> cases state <;> decide

theorem hasRow_fail (state : AcctState) :
    HasRow state .rxAcaFail ↔ state.awaits = some .stored ∨ state.awaits = some .last := by
  cases state <;> decide

theorem awaits_of_recording {state : AcctState} {recordType : UInt32} (recording : state.recording = some recordType) :
    state.awaits = some .current := by
  cases state <;> first | rfl | cases recording

theorem recording_iff {state : AcctState} : state.recording.isSome = true ↔ state.awaits = some .current := by
  cases state <;> decide

/-- An outcome has a row only where a record is outstanding. -/
theorem waits_of_hasRow {state : AcctState} {event : AcctEvent} (outcome : event.isOutcome = true)
    (rowed : HasRow state event) : state.awaits.isSome = true := by
  have rows : ∀ entry ∈ acctClientStateTable, ∀ event, entry.event = some event → event.isOutcome = true →
      entry.prevState.awaits.isSome = true := by
    simp only [acctClientStateTable, List.forall_mem_cons, List.not_mem_nil, false_imp_iff, implies_true]
    simp [acctEntry, acctWildcardEntry, AcctEvent.isOutcome, AcctState.awaits]
  obtain ⟨entry, mem, rfl, named⟩ := rowed
  exact rows entry mem event named outcome

variable (session : AcctSession) (turn : AcctTurn)

theorem about_ftsEvent :
    (session.ftsEvent turn).about = some (recordKind turn.recordInStorage session.attributes.recordType) := by
  unfold AcctSession.ftsEvent recordKind
  split
  · rfl
  · split
    · split <;> rfl
    · split
      · rfl
      · split <;> rfl

theorem isOutcome_ftsEvent : (session.ftsEvent turn).isOutcome = true := by
  have about := about_ftsEvent session turn
  cases same : session.ftsEvent turn <;> rw [same] at about <;> first | rfl | cases about

theorem isOutcome_failureEvent : (session.failureEvent turn).isOutcome = true := by
  unfold AcctSession.failureEvent
  split
  · rfl
  · split <;> rfl

theorem hasRow_failureEvent (waits : session.state.awaits.isSome = true) :
    HasRow session.state (session.failureEvent turn) ↔
      (session.state.awaits = some .current ↔
        recordKind turn.recordInStorage session.attributes.recordType = .current) := by
  obtain ⟨kind, awaits⟩ := Option.isSome_iff_exists.mp waits
  unfold AcctSession.failureEvent recordKind
  cases turn.recordInStorage with
  | true =>
    rw [if_pos (Or.inl rfl), if_pos rfl, hasRow_fail, awaits]
    cases kind <;> decide
  | false =>
    rw [if_neg Bool.false_ne_true]
    by_cases last : session.attributes.recordType = rectypeEvent ∨ session.attributes.recordType = rectypeStop
    · rw [if_pos (Or.inr last.symm), if_pos last, hasRow_fail, awaits]
      cases kind <;> decide
    · have other : ¬ (false = true ∨ session.attributes.recordType = rectypeStop ∨
          session.attributes.recordType = rectypeEvent) := by
        rintro (stored | stop | event)
        · cases stored
        · exact last (Or.inr stop)
        · exact last (Or.inl event)
      rw [if_neg other, if_neg last]
      split
      all_goals
        rw [hasRow_about rfl, awaits]
        cases kind <;> decide

end Rows

section Handling

/-- A call of the record collector or of the application. -/
def AcctEffect.isCallback : AcctEffect → Bool
  | .dumpEvent .. | .txDelivery .. => false
  | _ => true

variable (session : AcctSession) (turn : AcctTurn) {event : AcctEvent}

theorem effects_storeRecord (recordType : UInt32) :
    (session.storeRecord recordType).2 = [.storeLastRecord recordType] := by
  unfold AcctSession.storeRecord
  dsimp only
  split <;> rfl

theorem isCallback_of_mem_perform {notify : AcctSession → AcctEvent → AcctSession × List AcctEffect}
    {action : AcctAction} (sends : action ≠ .txACR ∧ action ≠ .interimTimeout) {effect : AcctEffect}
    (mem : effect ∈ (session.perform notify turn action).2) : effect.isCallback = true := by
  have stores : ∀ recordType, effect ∈ (session.storeRecord recordType).2 → effect.isCallback = true := by
    intro recordType mem
    rw [effects_storeRecord, List.mem_singleton] at mem
    rw [mem]
    rfl
  cases action with
  | null | startIntTimer => cases mem
  | txACR => exact absurd rfl sends.1
  | interimTimeout => exact absurd rfl sends.2
  | rxACASuccess =>
    unfold AcctSession.perform AcctSession.rxACASuccess at mem
    dsimp only at mem
    split at mem
    · rcases List.mem_cons.mp mem with rfl | mem
      · rfl
      · rw [List.mem_singleton.mp mem]
        rfl
    · split at mem
      all_goals
        rw [List.mem_singleton.mp mem]
        rfl
  | storeStartRecord | storeStopRecord | storeInterimRecord | storeEventRecord => exact stores _ mem
  | deleteRecord | disconnect =>
    rw [List.mem_singleton.mp mem]
    rfl

theorem action_of_outcome {state : AcctState} {entry : StateTableEntry AcctState AcctEvent AcctAction}
    (outcome : event.isOutcome = true)
    (found : acctClientStateTable.findStateTableEntry state event = some entry) :
    entry.action ≠ .txACR ∧ entry.action ≠ .interimTimeout := by
  have rows : ∀ entry ∈ acctClientStateTable, (∀ event, entry.event = some event → event.isOutcome = true) →
      entry.action ≠ .txACR ∧ entry.action ≠ .interimTimeout := by
    simp only [acctClientStateTable, List.forall_mem_cons, List.not_mem_nil, false_imp_iff, implies_true]
    simp [acctEntry, acctWildcardEntry, AcctEvent.isOutcome]
  obtain ⟨mem, _, wildcard | named⟩ := StateTable.findStateTableEntry_mem found
  · exact rows entry mem fun _ named => by rw [wildcard] at named; cases named
  · exact rows entry mem fun _ same => by rw [named] at same; cases same; exact outcome

theorem process_outcome (outcome : event.isOutcome = true)
    (first second : AcctSession → AcctEvent → AcctSession × List AcctEffect) :
    session.process first turn event = session.process second turn event := by
  unfold AcctSession.process
  cases found : acctClientStateTable.findStateTableEntry session.state event with
  | none => rfl
  | some entry =>
    obtain ⟨sends, expires⟩ := action_of_outcome outcome found
    cases same : entry.action with
    | txACR => exact absurd same sends
    | interimTimeout => exact absurd same expires
    | _ => simp only [same, AcctSession.perform]

theorem renotify_eq (outcome : event.isOutcome = true) :
    session.renotify turn event = session.notify turn event :=
  process_outcome session turn outcome _ _

theorem failToSend_renotify : session.failToSend (AcctSession.renotify turn) turn =
    session.failToSend (AcctSession.notify turn) turn := by
  unfold AcctSession.failToSend
  rw [renotify_eq session turn (isOutcome_ftsEvent session turn)]

theorem notify_eq (event : AcctEvent) :
    session.notify turn event = session.process (AcctSession.notify turn) turn event := by
  have sends : ∀ session : AcctSession,
      session.txACR (AcctSession.renotify turn) turn = session.txACR (AcctSession.notify turn) turn := by
    intro session
    unfold AcctSession.txACR
    dsimp only
    rw [failToSend_renotify]
  unfold AcctSession.notify AcctSession.process
  cases acctClientStateTable.findStateTableEntry session.state event with
  | none => rfl
  | some entry =>
    cases same : entry.action with
    | txACR | interimTimeout =>
      simp only [same, AcctSession.perform]
      rw [sends]
      rfl
    | _ => simp only [same, AcctSession.perform]

theorem effects_of_outcome (outcome : event.isOutcome = true) : ∃ effects,
    (session.notify turn event).2 = .dumpEvent session.state event :: effects ∧
      ∀ effect ∈ effects, effect.isCallback = true := by
  unfold AcctSession.notify AcctSession.process
  cases found : acctClientStateTable.findStateTableEntry session.state event with
  | none => exact ⟨[], rfl, fun _ mem => by cases mem⟩
  | some entry =>
    exact ⟨_, rfl, fun _ mem => isCallback_of_mem_perform _ _ (action_of_outcome outcome found) mem⟩

end Handling

section Outcomes

variable {session : AcctSession} {turn : AcctTurn} {recordType : UInt32}

theorem notify_ftsNotDag (recording : session.state.recording = some recordType) :
    session.notify turn .ftsNotDag =
      (({ session with state := .opened }.storeRecord recordType).1,
        [.dumpEvent session.state .ftsNotDag, .storeLastRecord recordType]) := by
  obtain ⟨state, attributes, timers⟩ := session
  cases state <;> cases recording <;> rfl

theorem notify_granted (recording : session.state.recording.isSome = true) {event : AcctEvent}
    (granting : event = .ftsAndGal ∨ event = .rxAcaFailAndGal) :
    session.notify turn event =
      (({ session with state := .opened }.cancelAllTimer.scheduleTimer .session session.attributes.sessionTimeout),
        [.dumpEvent session.state event]) := by
  obtain ⟨state, attributes, timers⟩ := session
  rcases granting with rfl | rfl
  all_goals cases state <;> cases recording <;> rfl

theorem notify_ended (recording : session.state.recording.isSome = true) {event : AcctEvent}
    (ending : event = .ftsNotGal ∨ event = .rxAcaFailNotGal) :
    session.notify turn event =
      ({ session with state := .idle }.cancelAllTimer, [.dumpEvent session.state event, .reset]) := by
  obtain ⟨state, attributes, timers⟩ := session
  rcases ending with rfl | rfl
  all_goals cases state <;> cases recording <;> rfl

theorem attributes_storeRecord (session : AcctSession) (recordType : UInt32) :
    (session.storeRecord recordType).1.attributes = session.attributes := by
  unfold AcctSession.storeRecord
  dsimp only
  split <;> rfl

/-- `recordKind` is `current` for what the functions take neither for stored nor for last. -/
theorem recordKind_eq_current {recordInStorage : Bool} :
    recordKind recordInStorage recordType = .current ↔
      recordInStorage = false ∧ ¬ (recordType = rectypeEvent ∨ recordType = rectypeStop) := by
  unfold recordKind
  cases recordInStorage with
  | true => simp
  | false =>
    rw [if_neg Bool.false_ne_true]
    split
    case isTrue last => simp [last]
    case isFalse other => simp [other]

theorem ftsEvent_current (current : recordKind turn.recordInStorage session.attributes.recordType = .current) :
    session.ftsEvent turn =
      if Storable turn session then .ftsNotDag
      else if session.attributes.realtimeRequired = realtimeGrantAndLose then .ftsAndGal else .ftsNotGal := by
  obtain ⟨fresh, other⟩ := recordKind_eq_current.mp current
  unfold AcctSession.ftsEvent
  rw [fresh, if_neg Bool.false_ne_true, if_neg other]
  rfl

theorem failureEvent_current (current : recordKind turn.recordInStorage session.attributes.recordType = .current) :
    session.failureEvent turn =
      if session.attributes.realtimeRequired = realtimeDeliverAndGrant then .rxAcaFailAndGal
      else .rxAcaFailNotGal := by
  obtain ⟨fresh, other⟩ := recordKind_eq_current.mp current
  have unlast : ¬ (turn.recordInStorage = true ∨ session.attributes.recordType = rectypeStop ∨
      session.attributes.recordType = rectypeEvent) := by
    rw [fresh]
    exact fun last => last.elim Bool.false_ne_true fun last => other last.symm
  unfold AcctSession.failureEvent
  rw [if_neg unlast]

theorem storedOrGrantedOrEnded_notify (recording : session.state.recording = some recordType)
    (current : recordKind turn.recordInStorage session.attributes.recordType = .current) :
    StoredOrGrantedOrEnded turn recordType (session.notify turn (session.ftsEvent turn)) := by
  have some := Option.isSome_of_eq_some recording
  rw [ftsEvent_current current]
  by_cases storable : Storable turn session
  · rw [if_pos storable, notify_ftsNotDag recording]
    have kept : Storable turn ({ session with state := .opened }.storeRecord recordType).1 := by
      unfold Storable
      rw [attributes_storeRecord]
      exact storable
    exact ⟨iff_of_true (by simp) kept, fun unstorable => absurd kept unstorable⟩
  · rw [if_neg storable]
    by_cases lose : session.attributes.realtimeRequired = realtimeGrantAndLose
    · rw [if_pos lose, notify_granted some (Or.inl rfl)]
      exact ⟨iff_of_false (by simp) storable, fun _ => ⟨iff_of_true rfl lose, fun keep => absurd lose keep⟩⟩
    · rw [if_neg lose, notify_ended some (Or.inl rfl)]
      refine ⟨iff_of_false (by simp) storable, fun _ => ⟨iff_of_false (fun opened => ?_) lose, fun _ => ⟨rfl, by simp⟩⟩⟩
      cases opened

/-- A record that is refused is treated as the realtime value demands, unless this is one
of the two that are mistaken for each other. -/
theorem grantedOrEnded_notify (recording : session.state.recording.isSome = true)
    (current : recordKind turn.recordInStorage session.attributes.recordType = .current) :
    GrantedOrEnded (session.notify turn (session.failureEvent turn)) ↔
      session.attributes.realtimeRequired ≠ realtimeGrantAndLose ∧
        session.attributes.realtimeRequired ≠ realtimeDeliverAndGrant := by
  rw [failureEvent_current current]
  by_cases deliver : session.attributes.realtimeRequired = realtimeDeliverAndGrant
  · rw [if_pos deliver, notify_granted recording (Or.inr rfl)]
    refine iff_of_false (fun obeys => ?_) fun fits => fits.2 deliver
    have lose := obeys.1.mp rfl
    exact absurd (deliver.symm.trans lose) (by decide)
  · rw [if_neg deliver, notify_ended recording (Or.inr rfl)]
    constructor
    · intro obeys
      refine ⟨fun lose => ?_, deliver⟩
      cases obeys.1.mpr lose
    · rintro ⟨keep, _⟩
      refine ⟨iff_of_false (fun opened => ?_) keep, fun _ => ⟨rfl, by simp⟩⟩
      cases opened

def AcctEffect.isAround : AcctEffect → Bool
  | .dumpEvent _ event => !event.isOutcome
  | .txDelivery .. | .storeLastRecord _ | .reset => false
  | _ => true

theorem isAround_dumpEvent (state : AcctState) (event : AcctEvent) :
    (AcctEffect.dumpEvent state event).isAround = !event.isOutcome := rfl

theorem grantedOrEnded_congr {result other : AcctSession × List AcctEffect} (same : result.1 = other.1)
    (reset : AcctEffect.reset ∈ result.2 ↔ AcctEffect.reset ∈ other.2) :
    GrantedOrEnded result ↔ GrantedOrEnded other := by
  unfold GrantedOrEnded
  rw [same, reset]

theorem storedOrGrantedOrEnded_congr {result other : AcctSession × List AcctEffect} (same : result.1 = other.1)
    (stored : AcctEffect.storeLastRecord recordType ∈ result.2 ↔ AcctEffect.storeLastRecord recordType ∈ other.2)
    (reset : AcctEffect.reset ∈ result.2 ↔ AcctEffect.reset ∈ other.2) :
    StoredOrGrantedOrEnded turn recordType result ↔ StoredOrGrantedOrEnded turn recordType other := by
  unfold StoredOrGrantedOrEnded
  rw [grantedOrEnded_congr same reset, stored, same]

end Outcomes

section Calls

variable {session pending : AcctSession} {input : AcctInput} {turn : AcctTurn}

theorem obeys_of_quiet (unanswered : ∀ answer turn, input ≠ .rxAnswer answer turn)
    (quiet : ∀ effect ∈ (session.step input).2, effect.isAround = true ∨ effect.isCallback = true ∨
      ∃ state request, effect = .txDelivery state request true) :
    Obeys session input where
  rowed state event mem outcome := by
    rcases quiet _ mem with around | callback | ⟨_, _, same⟩
    · rw [isAround_dumpEvent, outcome] at around
      cases around
    · cases callback
    · cases same
  refused answer turn same := absurd same (unanswered answer turn)
  unsent state request recordType mem := by
    rcases quiet _ mem with around | callback | ⟨_, _, same⟩
    · cases around
    · cases callback
    · cases same

theorem obeys_iff_of_unsent (timely : input.turn = turn) (unanswered : ∀ answer turn, input ≠ .rxAnswer answer turn)
    {before : List AcctEffect} {request : Option AccountingRequest} {number : UInt32}
    (around : ∀ effect ∈ before, effect.isAround = true)
    (same : session.step input = ((pending.notify turn (pending.ftsEvent turn)).1,
      before ++ .txDelivery pending.state request false :: (pending.notify turn (pending.ftsEvent turn)).2 ++
        [.failed number])) :
    Obeys session input ↔
      pending.state.awaits = some (recordKind turn.recordInStorage pending.attributes.recordType) := by
  have outcome := isOutcome_ftsEvent pending turn
  obtain ⟨effects, dumped, callbacks⟩ := effects_of_outcome pending turn outcome
  -- Of what a call does only the outcome stores the record or ends the session.
  have settles : ∀ effect : AcctEffect, effect.isAround = false → effect.isCallback = true →
      (effect ∈ (session.step input).2 ↔ effect ∈ (pending.notify turn (pending.ftsEvent turn)).2) := by
    intro effect settled callback
    rw [same]
    simp only [List.mem_append, List.mem_cons, List.not_mem_nil, or_false]
    constructor
    · rintro ((mem | rfl | mem) | rfl)
      · rw [around effect mem] at settled
        cases settled
      · cases callback
      · exact mem
      · cases settled
    · exact fun mem => Or.inl (Or.inr (Or.inr mem))
  constructor
  · intro obeys
    rw [← hasRow_about (about_ftsEvent pending turn)]
    apply obeys.rowed _ _ _ outcome
    rw [same, dumped]
    simp
  · intro awaits
    constructor
    · intro state event mem told
      rw [same, dumped] at mem
      simp only [List.mem_append, List.mem_cons, List.not_mem_nil, or_false] at mem
      rcases mem with (mem | mem | mem | mem) | mem
      · have away := around _ mem
        rw [isAround_dumpEvent, told] at away
        cases away
      · cases mem
      · cases mem
        exact (hasRow_about (about_ftsEvent pending turn) _).mpr awaits
      · cases callbacks _ mem
      · cases mem
    · exact fun answer turn same => absurd same (unanswered answer turn)
    · intro state request recordType mem recording
      have here : state = pending.state := by
        rw [same, dumped] at mem
        simp only [List.mem_append, List.mem_cons, List.not_mem_nil, or_false] at mem
        rcases mem with (mem | mem | mem | mem) | mem
        · cases around _ mem
        · cases mem
          rfl
        · cases mem
        · cases callbacks _ mem
        · cases mem
      rw [here] at recording
      have current := awaits_of_recording recording
      rw [awaits, Option.some.injEq] at current
      rw [timely, storedOrGrantedOrEnded_congr (by rw [same]) (settles _ rfl rfl) (settles _ rfl rfl)]
      exact storedOrGrantedOrEnded_notify recording current

theorem obeys_iff_of_sends (timely : input.turn = turn) (unanswered : ∀ answer turn, input ≠ .rxAnswer answer turn)
    {state : AcctState} {event : AcctEvent} (quiet : event.isOutcome = false)
    (same : session.step input = ((pending.txACR (AcctSession.renotify turn) turn).1,
      .dumpEvent state event :: (pending.txACR (AcctSession.renotify turn) turn).2)) :
    Obeys session input ↔ (pending.attributes.backwardCompatibility = false → turn.delivered = false →
      pending.state.awaits = some (recordKind turn.recordInStorage pending.attributes.recordType)) := by
  have around : (AcctEffect.dumpEvent state event).isAround = true := by rw [isAround_dumpEvent, quiet]; rfl
  unfold AcctSession.txACR at same
  dsimp only at same
  by_cases compatible : pending.nextRecord.attributes.backwardCompatibility = true
  · rw [if_pos compatible] at same
    have generates : Obeys session input := by
      apply obeys_of_quiet unanswered
      rw [same]
      intro effect mem
      rcases List.mem_cons.mp mem with rfl | mem
      · exact Or.inl around
      · rw [List.mem_singleton.mp mem]
        exact Or.inl rfl
    refine iff_of_true generates fun incompatible => ?_
    rw [show pending.attributes.backwardCompatibility = true from compatible] at incompatible
    cases incompatible
  · rw [if_neg compatible] at same
    have incompatible : pending.attributes.backwardCompatibility = false := Bool.not_eq_true _ ▸ compatible
    cases delivers : turn.delivered with
    | true =>
      rw [delivers, if_pos rfl] at same
      have sends : Obeys session input := by
        apply obeys_of_quiet unanswered
        rw [same]
        intro effect mem
        simp only [List.mem_cons, List.not_mem_nil, or_false] at mem
        rcases mem with rfl | rfl | rfl
        · exact Or.inl around
        · exact Or.inl rfl
        · exact Or.inr (Or.inr ⟨_, _, rfl⟩)
      exact iff_of_true sends fun _ fails => by cases fails
    | false =>
      rw [delivers, if_neg Bool.false_ne_true, failToSend_renotify] at same
      let next := pending.nextRecord
      have unsent : session.step input = ((next.notify turn (next.ftsEvent turn)).1,
          [.dumpEvent state event, .generateRecord next.attributes.recordType next.attributes.recordNumber] ++
            .txDelivery next.state (some next.request) false :: (next.notify turn (next.ftsEvent turn)).2 ++
            [.failed (next.notify turn (next.ftsEvent turn)).1.attributes.recordNumber]) := same
      have fails : Obeys session input ↔
          next.state.awaits = some (recordKind turn.recordInStorage next.attributes.recordType) := by
        apply obeys_iff_of_unsent timely unanswered _ unsent
        intro effect mem
        simp only [List.mem_cons, List.not_mem_nil, or_false] at mem
        rcases mem with rfl | rfl
        · exact around
        · rfl
      exact fails.trans ⟨fun fits _ _ => fits, fun fits => fits incompatible rfl⟩

theorem obeys_of_dropped (unanswered : ∀ answer turn, input ≠ .rxAnswer answer turn) {event : AcctEvent}
    (quiet : event.isOutcome = false) (same : session.step input = pending.notify turn event)
    {entry : StateTableEntry AcctState AcctEvent AcctAction}
    (found : acctClientStateTable.findStateTableEntry pending.state event = some entry)
    (unsent : entry.action ≠ .txACR ∧ entry.action ≠ .interimTimeout) : Obeys session input := by
  have around : (AcctEffect.dumpEvent pending.state event).isAround = true := by rw [isAround_dumpEvent, quiet]; rfl
  apply obeys_of_quiet unanswered
  rw [same]
  intro effect mem
  unfold AcctSession.notify AcctSession.process at mem
  rw [found] at mem
  rcases List.mem_cons.mp mem with rfl | mem
  · exact Or.inl around
  · exact Or.inr (Or.inl (isCallback_of_mem_perform _ _ unsent mem))

theorem notify_of_sends (session : AcctSession) (turn : AcctTurn) {event : AcctEvent} {next : AcctState}
    (found : acctClientStateTable.findStateTableEntry session.state event =
      some (acctEntry session.state event next .txACR)) :
    session.notify turn event =
      (({ session with state := next }.cancelAllTimer.txACR (AcctSession.renotify turn) turn).1,
        .dumpEvent session.state event ::
          ({ session with state := next }.cancelAllTimer.txACR (AcctSession.renotify turn) turn).2) := by
  unfold AcctSession.notify AcctSession.process
  rw [found]
  rfl

theorem recordKind_eq_stored {recordInStorage : Bool} {recordType : UInt32} :
    recordKind recordInStorage recordType = .stored ↔ recordInStorage = true := by
  unfold recordKind
  cases recordInStorage with
  | true => simp
  | false =>
    rw [if_neg Bool.false_ne_true]
    split <;> simp

theorem recordKind_eq_iff_fresh {recordInStorage : Bool} {recordType : UInt32} {kind : RecordKind}
    (typed : recordKind false recordType = kind) (fresh : kind ≠ .stored) :
    some kind = some (recordKind recordInStorage recordType) ↔ recordInStorage = false := by
  cases recordInStorage with
  | true => exact iff_of_false (fun same => fresh (Option.some.inj same)) fun absurd => by cases absurd
  | false => exact iff_of_true (congrArg some typed.symm) rfl

theorem found_of_busy {state : AcctState} (busy : state ≠ .idle) {event : AcctEvent}
    (begins : event = .recInStorage ∨ event = .requestOnetimeAccess ∨ event = .requestAccess) :
    acctClientStateTable.findStateTableEntry state event = some (acctWildcardEntry state state) := by
  rcases begins with rfl | rfl | rfl
  all_goals cases state <;> first | rfl | exact absurd rfl busy

theorem obeys_begin_iff (session : AcctSession) (oneTime : Bool) (settings : AcctSettings) (recordInStorage : Bool)
    (turn : AcctTurn) : Obeys session (.begin oneTime settings recordInStorage turn) ↔
      Fits session (.begin oneTime settings recordInStorage turn) := by
  have unanswered : ∀ answer answered,
      AcctInput.begin oneTime settings recordInStorage turn ≠ .rxAnswer answer answered :=
    fun _ _ same => by cases same
  by_cases idle : session.state = .idle
  · have opens {event : AcctEvent} {next : AcctState}
        (found : acctClientStateTable.findStateTableEntry .idle event = some (acctEntry .idle event next .txACR)) :
        acctClientStateTable.findStateTableEntry session.state event =
          some (acctEntry session.state event next .txACR) := by
      rw [idle]
      exact found
    have fits {kind : RecordKind} {recordType : UInt32}
        (judged : some kind = some (recordKind turn.recordInStorage recordType) ↔
          turn.recordInStorage = recordInStorage) :
        (session.attributes.backwardCompatibility = false → turn.delivered = false →
          some kind = some (recordKind turn.recordInStorage recordType)) ↔
        Fits session (.begin oneTime settings recordInStorage turn) :=
      ⟨fun sends _ incompatible fails => judged.mp (sends incompatible fails),
        fun fits incompatible fails => judged.mpr (fits idle incompatible fails)⟩
    cases recordInStorage with
    | true =>
      refine (obeys_iff_of_sends rfl unanswered rfl
        (notify_of_sends (session.adopt settings) turn (opens rfl))).trans (fits ?_)
      rw [Option.some.injEq, eq_comm]
      exact recordKind_eq_stored
    | false =>
      cases oneTime with
      | true | false =>
        refine (obeys_iff_of_sends rfl unanswered rfl (notify_of_sends _ turn (opens rfl))).trans (fits ?_)
        exact recordKind_eq_iff_fresh rfl (by decide)
  · refine iff_of_true ?_ fun here => absurd here idle
    have kept : (acctWildcardEntry session.state session.state).action ≠ .txACR ∧
        (acctWildcardEntry session.state session.state).action ≠ .interimTimeout := by simp [acctWildcardEntry]
    cases recordInStorage with
    | true => exact obeys_of_dropped unanswered rfl rfl (found_of_busy idle (Or.inl rfl)) kept
    | false =>
      cases oneTime with
      | true => exact obeys_of_dropped unanswered rfl rfl (found_of_busy idle (Or.inr (Or.inl rfl))) kept
      | false => exact obeys_of_dropped unanswered rfl rfl (found_of_busy idle (Or.inr (Or.inr rfl))) kept

theorem found_of_stop {state : AcctState} (closed : state ≠ .opened) :
    ∃ entry, acctClientStateTable.findStateTableEntry state .stop = some entry ∧
      entry.action ≠ .txACR ∧ entry.action ≠ .interimTimeout := by
  cases state with
  | opened => exact absurd rfl closed
  | _ => exact ⟨_, rfl, by decide, by decide⟩

theorem fresh_iff {recordType : UInt32} {kind : RecordKind} (opened : session.state = .opened)
    (typed : recordKind false recordType = kind) (fresh : kind ≠ .stored) :
    (session.attributes.backwardCompatibility = false → turn.delivered = false →
      some kind = some (recordKind turn.recordInStorage recordType)) ↔
    (session.state = .opened → session.attributes.backwardCompatibility = false → turn.delivered = false →
      turn.recordInStorage = false) :=
  ⟨fun sends _ incompatible fails => (recordKind_eq_iff_fresh typed fresh).mp (sends incompatible fails),
    fun fits incompatible fails => (recordKind_eq_iff_fresh typed fresh).mpr (fits opened incompatible fails)⟩

theorem obeys_endRecording_iff (session : AcctSession) (turn : AcctTurn) :
    Obeys session (.endRecording turn) ↔ Fits session (.endRecording turn) := by
  have unanswered : ∀ answer answered, AcctInput.endRecording turn ≠ .rxAnswer answer answered :=
    fun _ _ same => by cases same
  by_cases opened : session.state = .opened
  · have found : acctClientStateTable.findStateTableEntry session.state .stop =
        some (acctEntry session.state .stop .pendingL .txACR) := by
      rw [opened]
      rfl
    have sends := obeys_iff_of_sends rfl unanswered rfl
      (notify_of_sends (session.setRecordType rectypeStop).cancelAllTimer turn found)
    exact sends.trans (fresh_iff opened rfl (by decide))
  · obtain ⟨entry, found, kept⟩ := found_of_stop opened
    exact iff_of_true (obeys_of_dropped unanswered rfl rfl found kept) fun here => absurd here opened

theorem obeys_timeout_iff (session : AcctSession) (timer : AcctTimer) (turn : AcctTurn) :
    Obeys session (.timeout timer turn) ↔ Fits session (.timeout timer turn) := by
  have unanswered : ∀ answer answered, AcctInput.timeout timer turn ≠ .rxAnswer answer answered :=
    fun _ _ same => by cases same
  have kept (state : AcctState) : (acctWildcardEntry state state).action ≠ .txACR ∧
      (acctWildcardEntry state state).action ≠ .interimTimeout := by simp [acctWildcardEntry]
  cases timer with
  | session =>
    have found : acctClientStateTable.findStateTableEntry session.state .sessionTout =
        some (acctWildcardEntry session.state session.state) := by
      cases session.state <;> rfl
    exact iff_of_true (obeys_of_dropped unanswered rfl rfl found (kept _)) trivial
  | interval =>
    by_cases opened : session.state = .opened
    · have expires : session.step (.timeout .interval turn) =
          ((({ session with state := .pendingI }.cancelAllTimer.setRecordType rectypeInterim).txACR
              (AcctSession.renotify turn) turn).1,
            .dumpEvent session.state .intExpire ::
              (({ session with state := .pendingI }.cancelAllTimer.setRecordType rectypeInterim).txACR
                (AcctSession.renotify turn) turn).2) := by
        obtain ⟨state, attributes, timers⟩ := session
        cases opened
        rfl
      have sends := obeys_iff_of_sends rfl unanswered rfl expires
      exact sends.trans (fresh_iff opened rfl (by decide))
    · have found : acctClientStateTable.findStateTableEntry session.state .intExpire =
          some (acctWildcardEntry session.state session.state) := by
        cases same : session.state with
        | opened => exact absurd same opened
        | _ => rfl
      exact iff_of_true (obeys_of_dropped unanswered rfl rfl found (kept _)) fun here => absurd here opened

theorem obeys_send_iff (session : AcctSession) (turn : AcctTurn) :
    Obeys session (.send turn) ↔ Fits session (.send turn) := by
  cases delivers : turn.delivered with
  | true =>
    have sent : session.step (.send turn) = (session, [.txDelivery session.state none true]) := by
      simp only [AcctSession.step, AcctSession.send]
      rw [delivers, if_pos rfl]
    refine iff_of_true (obeys_of_quiet (fun _ _ same => by cases same) ?_) fun fails => ?_
    · rw [sent]
      exact fun effect mem => Or.inr (Or.inr ⟨_, _, List.mem_singleton.mp mem⟩)
    · rw [delivers] at fails
      cases fails
  | false =>
    have unsent : session.step (.send turn) = ((session.notify turn (session.ftsEvent turn)).1,
        [] ++ .txDelivery session.state none false :: (session.notify turn (session.ftsEvent turn)).2 ++
          [.failed (session.notify turn (session.ftsEvent turn)).1.attributes.recordNumber]) := by
      simp only [AcctSession.step, AcctSession.send, AcctSession.failToSend]
      rw [delivers, if_neg Bool.false_ne_true]
      rfl
    rw [obeys_iff_of_unsent rfl (fun _ _ same => by cases same) (fun _ mem => by cases mem) unsent]
    exact ⟨fun fits _ => fits, fun fits => fits delivers⟩

theorem state_filter (session : AcctSession) (answer : AccountingAnswer) :
    (session.filter answer).state = session.state := rfl

theorem recordType_filter (session : AcctSession) (answer : AccountingAnswer) :
    (session.filter answer).attributes.recordType = answer.recordType.getD session.attributes.recordType := rfl

theorem realtimeRequired_filter (session : AcctSession) (answer : AccountingAnswer) :
    (session.filter answer).attributes.realtimeRequired =
      answer.realtimeRequired.getD session.attributes.realtimeRequired := rfl

theorem obeys_succeeded_iff (session : AcctSession) {answer : AccountingAnswer} {turn : AcctTurn}
    (accounting : answer.code = msgCodeAccounting) (succeeds : answer.succeeds = true) :
    Obeys session (.rxAnswer answer turn) ↔ session.state.awaits.isSome = true := by
  have same : session.step (.rxAnswer answer turn) = (session.filter answer).notify turn .rxAcaOk := by
    simp only [AcctSession.step, AcctSession.rxAnswer]
    rw [if_neg (not_not_intro accounting), if_pos succeeds]
  have outcome : AcctEvent.rxAcaOk.isOutcome = true := rfl
  obtain ⟨effects, dumped, callbacks⟩ := effects_of_outcome (session.filter answer) turn outcome
  rw [← hasRow_ok]
  constructor
  · intro obeys
    apply obeys.rowed _ _ _ rfl
    rw [same, dumped]
    exact List.mem_cons_self
  · intro rowed
    constructor
    · intro state event mem told
      rw [same, dumped] at mem
      rcases List.mem_cons.mp mem with here | mem
      · cases here
        exact rowed
      · cases callbacks _ mem
    · intro answer turn input _ refused
      cases input
      rw [succeeds] at refused
      cases refused
    · intro state request recordType mem
      rw [same, dumped] at mem
      rcases List.mem_cons.mp mem with here | mem
      · cases here
      · cases callbacks _ mem

theorem obeys_refused_iff (session : AcctSession) {answer : AccountingAnswer} {turn : AcctTurn}
    (accounting : answer.code = msgCodeAccounting) (refused : answer.succeeds = false) :
    Obeys session (.rxAnswer answer turn) ↔
      HasRow session.state ((session.filter answer).failureEvent turn) ∧
        (session.state.recording.isSome = true →
          GrantedOrEnded ((session.filter answer).notify turn ((session.filter answer).failureEvent turn))) := by
  have same : session.step (.rxAnswer answer turn) =
      (((session.filter answer).notify turn ((session.filter answer).failureEvent turn)).1,
        ((session.filter answer).notify turn ((session.filter answer).failureEvent turn)).2 ++
          [.failed ((session.filter answer).notify turn
            ((session.filter answer).failureEvent turn)).1.attributes.recordNumber]) := by
    simp only [AcctSession.step, AcctSession.rxAnswer]
    rw [if_neg (not_not_intro accounting), refused, if_neg Bool.false_ne_true]
  have outcome := isOutcome_failureEvent (session.filter answer) turn
  obtain ⟨effects, dumped, callbacks⟩ := effects_of_outcome (session.filter answer) turn outcome
  have granted : GrantedOrEnded (session.step (.rxAnswer answer turn)) ↔
      GrantedOrEnded ((session.filter answer).notify turn ((session.filter answer).failureEvent turn)) := by
    apply grantedOrEnded_congr
    · rw [same]
    · rw [same]
      simp
  constructor
  · intro obeys
    refine ⟨obeys.rowed _ _ ?_ outcome, fun recording => ?_⟩
    · rw [same, dumped]
      exact List.mem_cons_self
    · exact granted.mp (obeys.refused answer turn rfl accounting refused recording)
  · rintro ⟨rowed, ends⟩
    constructor
    · intro state event mem told
      rw [same, dumped] at mem
      simp only [List.mem_append, List.mem_cons, List.not_mem_nil, or_false] at mem
      rcases mem with (here | mem) | mem
      · cases here
        exact rowed
      · cases callbacks _ mem
      · cases mem
    · intro answer turn input _ _ recording
      cases input
      exact granted.mpr (ends recording)
    · intro state request recordType mem
      rw [same, dumped] at mem
      simp only [List.mem_append, List.mem_cons, List.not_mem_nil, or_false] at mem
      rcases mem with (mem | mem) | mem
      · cases mem
      · cases callbacks _ mem
      · cases mem

theorem obeys_rxAnswer_iff (session : AcctSession) (answer : AccountingAnswer) (turn : AcctTurn) :
    Obeys session (.rxAnswer answer turn) ↔ Fits session (.rxAnswer answer turn) := by
  by_cases accounting : answer.code = msgCodeAccounting
  · cases succeeds : answer.succeeds with
    | true =>
      rw [obeys_succeeded_iff session accounting succeeds]
      refine ⟨fun waits _ => ⟨waits, fun refused => ?_⟩, fun fits => (fits accounting).1⟩
      rw [succeeds] at refused
      cases refused
    | false =>
      rw [obeys_refused_iff session accounting succeeds]
      have judged := hasRow_failureEvent (session.filter answer) turn
      have settled (recording : (session.filter answer).state.recording.isSome = true)
          (current : recordKind turn.recordInStorage (session.filter answer).attributes.recordType = .current) :=
        grantedOrEnded_notify recording current
      rw [Fits]
      simp only [state_filter, recordType_filter, realtimeRequired_filter] at judged settled
      constructor
      · rintro ⟨rowed, ends⟩ _
        have waits := waits_of_hasRow (isOutcome_failureEvent _ _) rowed
        have kinds := (judged waits).mp rowed
        refine ⟨waits, fun _ => ⟨kinds, fun current => ?_⟩⟩
        have recording := recording_iff.mpr current
        exact (settled recording (kinds.mp current)).mp (ends recording)
      · intro fits
        obtain ⟨waits, failing⟩ := fits accounting
        obtain ⟨kinds, realtime⟩ := failing succeeds
        refine ⟨(judged waits).mpr kinds, fun recording => ?_⟩
        have current := recording_iff.mp recording
        exact (settled recording (kinds.mp current)).mpr (realtime current)
  · have ignored : session.step (.rxAnswer answer turn) = (session, []) := by
      simp only [AcctSession.step, AcctSession.rxAnswer]
      rw [if_pos accounting]
    refine iff_of_true ?_ fun here => absurd here accounting
    constructor
    · intro state event mem
      rw [ignored] at mem
      cases mem
    · intro answer turn input here
      cases input
      exact absurd here accounting
    · intro state request recordType mem
      rw [ignored] at mem
      cases mem

theorem obeys_iff_fits (session : AcctSession) (input : AcctInput) : Obeys session input ↔ Fits session input := by
  cases input with
  | begin oneTime settings recordInStorage turn =>
    exact obeys_begin_iff session oneTime settings recordInStorage turn
  | send turn => exact obeys_send_iff session turn
  | rxAnswer answer turn => exact obeys_rxAnswer_iff session answer turn
  | timeout timer turn => exact obeys_timeout_iff session timer turn
  | endRecording turn => exact obeys_endRecording_iff session turn

/-- In every run of a sub-session the records are treated as the realtime value demands
exactly if every call fits. -/
theorem run_obeys_iff (attributes : AcctAttributes) (inputs : List AcctInput) :
    Stepwise AcctSession.take Obeys (.initial attributes) inputs ↔
      Stepwise AcctSession.take Fits (.initial attributes) inputs :=
  stepwise_iff (fun session input (_ : True) (_ : True) => obeys_iff_fits session input)
    (fun _ _ _ _ _ => trivial) trivial fun _ _ => trivial

/-- A start record is refused under `GRANT_AND_LOSE`: the session is ended. -/
theorem lost_record_ends : ¬ ∀ attributes inputs,
    Stepwise AcctSession.take Obeys (.initial attributes) inputs := by
  intro always
  have obeys := (always ⟨0, realtimeGrantAndLose, 60, rectypeEvent, 0, none, none, false⟩
    [.begin false {} false ⟨true, false, true⟩,
      .rxAnswer ⟨msgCodeAccounting, some 5012, none, none, none⟩ ⟨true, false, true⟩]).2.1
  have fits := (obeys_iff_fits _ _).mp obeys
  exact ((fits rfl).2 (by decide)).2 rfl |>.1 rfl

end Calls

end OpenDiameter.Session
