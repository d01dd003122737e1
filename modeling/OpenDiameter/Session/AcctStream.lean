import Mathlib.Data.List.Chain
import OpenDiameter.Session.AcctPolicy

/-! What a sub-session sends in a run, beside what the application and the server told it.

A record that is stored is sent again with the type that the attributes hold by then, and
an application that names a multi-session id has its RADIUS id sent for it. Where the
service is granted without the record only the session timer is armed.
-/

set_option autoImplicit false

namespace OpenDiameter.Session

open Foundation OpenDiameter.Framework

section Recording

structure Recorder where
  session : AcctSession
  storage : List UInt32

/-- What the record collector returns for `IsLastRecordInStorage`. -/
def AcctInput.told (recordInStorage : Bool) : AcctInput → AcctInput
  | .begin oneTime settings _ turn => .begin oneTime settings recordInStorage { turn with recordInStorage }
  | .send turn => .send { turn with recordInStorage }
  | .rxAnswer answer turn => .rxAnswer answer { turn with recordInStorage }
  | .timeout timer turn => .timeout timer { turn with recordInStorage }
  | .endRecording turn => .endRecording { turn with recordInStorage }

/-- `StoreLastRecord` and `DeleteLastRecord`; a record is held if there is space for it. -/
def collect (storageSpace : Bool) (storage : List UInt32) : AcctEffect → List UInt32
  | .storeLastRecord recordType => if storageSpace then recordType :: storage else storage
  | .deleteLastRecord _ => storage.tail
  | _ => storage

namespace Recorder

variable (recorder : Recorder)

def step (input : AcctInput) : AcctSession × List AcctEffect :=
  recorder.session.step (input.told !recorder.storage.isEmpty)

def take (input : AcctInput) : Recorder where
  session := (recorder.step input).1
  storage := (recorder.step input).2.foldl (collect input.turn.storageSpace) recorder.storage

end Recorder

end Recording

section Purpose

/-- The values of an ACR that the application supplies, or the server after it. -/
structure Supplied where
  radiusAcctSessionId : Option Octets
  multiSessionId : Option Octets
  realtimeRequired : UInt32
  interimInterval : UInt32
  deriving DecidableEq, Repr

def AcctAttributes.supplied (attributes : AcctAttributes) : Supplied where
  radiusAcctSessionId := attributes.radiusAcctSessionId
  multiSessionId := attributes.multiSessionId
  realtimeRequired := attributes.realtimeRequired
  interimInterval := attributes.interimInterval

def AccountingRequest.supplied (request : AccountingRequest) : Supplied where
  radiusAcctSessionId := request.radiusAcctSessionId
  multiSessionId := request.multiSessionId
  realtimeRequired := request.realtimeRequired
  interimInterval := request.interimInterval

def Supplied.after (supplied : Supplied) : AcctInput → Supplied
  | .begin _ settings _ _ =>
    { radiusAcctSessionId := settings.radiusAcctSessionId.or supplied.radiusAcctSessionId
      multiSessionId := settings.multiSessionId.or supplied.multiSessionId
      realtimeRequired := settings.realtimeRequired.getD supplied.realtimeRequired
      interimInterval := settings.interimInterval.getD supplied.interimInterval }
  | .rxAnswer answer _ =>
    if answer.code = msgCodeAccounting then
      { supplied with
        realtimeRequired := answer.realtimeRequired.getD supplied.realtimeRequired
        interimInterval := answer.interimInterval.getD supplied.interimInterval }
    else supplied
  | _ => supplied

def AcctInput.cause (storage : List UInt32) : AcctInput → Option UInt32
  | .begin oneTime _ _ _ => some (storage.headD (if oneTime then rectypeEvent else rectypeStart))
  | .timeout .interval _ => some rectypeInterim
  | .endRecording _ => some rectypeStop
  | .send _ | .rxAnswer .. | .timeout .session _ => none

structure SentRecord where
  request : AccountingRequest
  cause : Option UInt32
  supplied : Supplied
  deriving DecidableEq

def SentRecord.Proper (sent : SentRecord) : Prop :=
  sent.cause = some sent.request.recordType ∧ sent.request.supplied = sent.supplied

def AcctSession.Paced (session : AcctSession) : Prop :=
  session.state = .opened → session.attributes.interimInterval ≠ 0 → session.timers .interval ≠ none

def AcctEffect.request : AcctEffect → Option AccountingRequest
  | .txDelivery _ request _ => request
  | _ => none

def requestsOf (effects : List AcctEffect) : List AccountingRequest := effects.filterMap AcctEffect.request

structure Stream where
  recorder : Recorder
  supplied : Supplied
  log : List SentRecord

namespace Stream

def initial (attributes : AcctAttributes) : Stream where
  recorder := ⟨.initial attributes, []⟩
  supplied := attributes.supplied
  log := []

def take (stream : Stream) (input : AcctInput) : Stream where
  recorder := stream.recorder.take input
  supplied := stream.supplied.after input
  log := stream.log ++ (requestsOf (stream.recorder.step input).2).map fun request =>
    ⟨request, input.cause stream.recorder.storage, stream.supplied.after input⟩

structure WellFormed (stream : Stream) : Prop where
  consecutive : (stream.log.map (·.request.recordNumber)).IsChain fun first second => second = first + 1
  proper : ∀ sent ∈ stream.log, sent.Proper
  paced : stream.recorder.session.Paced

end Stream

end Purpose

section Condition

/-- A start or interim record that cannot be sent is lost, and the service granted. -/
def Loses (attributes : AcctAttributes) (turn : AcctTurn) : Prop :=
  turn.delivered = false ∧ turn.storageSpace = false ∧ attributes.realtimeRequired = realtimeGrantAndLose

instance (attributes : AcctAttributes) (turn : AcctTurn) : Decidable (Loses attributes turn) :=
  inferInstanceAs (Decidable (_ ∧ _))

def Arms (recorder : Recorder) : AcctInput → Prop
  | .begin oneTime settings _ turn =>
    (recorder.session.adopt settings).attributes.interimInterval ≠ 0 →
      (recorder.session.state = .opened → recorder.session.timers .interval ≠ none) ∧
        (recorder.session.state = .idle → oneTime = false → recorder.storage = [] →
          recorder.session.attributes.backwardCompatibility = false →
            ¬ Loses (recorder.session.adopt settings).attributes turn)
  | .timeout .interval turn =>
    recorder.session.attributes.interimInterval ≠ 0 → recorder.session.state = .opened → recorder.storage = [] →
      recorder.session.attributes.backwardCompatibility = false → ¬ Loses recorder.session.attributes turn
  | .send turn =>
    recorder.session.attributes.interimInterval ≠ 0 → recorder.session.state.recording.isSome = true →
      recordKind (!recorder.storage.isEmpty) recorder.session.attributes.recordType = .current →
        ¬ Loses recorder.session.attributes turn
  | .rxAnswer answer _ =>
    answer.code = msgCodeAccounting → (recorder.session.filter answer).attributes.interimInterval ≠ 0 →
      (recorder.session.state = .opened → recorder.session.timers .interval ≠ none) ∧
        (recorder.session.state.recording.isSome = true →
          (answer.succeeds = true →
            recorder.storage = [] ∧
              ((recorder.session.filter answer).attributes.recordType = rectypeStart ∨
                (recorder.session.filter answer).attributes.recordType = rectypeInterim)) ∧
          (answer.succeeds = false →
            recordKind (!recorder.storage.isEmpty) (recorder.session.filter answer).attributes.recordType = .current →
              (recorder.session.filter answer).attributes.realtimeRequired ≠ realtimeDeliverAndGrant))
  | .timeout .session _ | .endRecording _ => True

instance (recorder : Recorder) (input : AcctInput) : Decidable (Arms recorder input) :=
  match input with
  | .begin .. | .rxAnswer .. | .timeout .interval _ | .send _ => inferInstanceAs (Decidable (_ → _))
  | .timeout .session _ | .endRecording _ => .isTrue trivial

def Supplies (recorder : Recorder) : AcctInput → Prop
  | .begin _ settings _ _ =>
    (settings.multiSessionId.isSome = true → settings.radiusAcctSessionId = settings.multiSessionId) ∧
      (recorder.session.state = .idle → recorder.session.attributes.backwardCompatibility = false →
        ∀ recordType ∈ recorder.storage.head?, recorder.session.attributes.recordType = recordType)
  | _ => True

instance (recorder : Recorder) (input : AcctInput) : Decidable (Supplies recorder input) :=
  match input with
  | .begin .. =>
    @instDecidableAnd _ _ inferInstance (@instDecidableForall _ _ inferInstance
      (@instDecidableForall _ _ inferInstance (Option.decidableForallMem _)))
  | .rxAnswer .. | .timeout .. | .send _ | .endRecording _ => .isTrue trivial

def Sound (recorder : Recorder) (input : AcctInput) : Prop := Supplies recorder input ∧ Arms recorder input

instance (recorder : Recorder) (input : AcctInput) : Decidable (Sound recorder input) :=
  inferInstanceAs (Decidable (_ ∧ _))

end Condition

section Sending

def AcctState.sends : AcctState → AcctEvent → Option AcctState
  | .idle, .requestAccess => some .pendingS
  | .idle, .requestOnetimeAccess => some .pendingE
  | .idle, .recInStorage => some .pendingB
  | .opened, .intExpire => some .pendingI
  | .opened, .stop => some .pendingL
  | _, _ => none

def AcctSession.pending (session : AcctSession) (event : AcctEvent) (next : AcctState) : AcctSession :=
  if event = .intExpire then ({ session with state := next }.cancelAllTimer).setRecordType rectypeInterim
  else { session with state := next }.cancelAllTimer

variable (session : AcctSession) (turn : AcctTurn) {event : AcctEvent} {next : AcctState}

theorem notify_sends (sends : session.state.sends event = some next) :
    session.notify turn event =
      (((session.pending event next).txACR (AcctSession.renotify turn) turn).1,
        .dumpEvent session.state event :: ((session.pending event next).txACR (AcctSession.renotify turn) turn).2) := by
  obtain ⟨state, attributes, timers⟩ := session
  cases state <;> cases event <;> cases sends <;> rfl

theorem findStateTableEntry_unrowed {state : AcctState} (unrowed : ¬ HasRow state event) :
    acctClientStateTable.findStateTableEntry state event = some (acctWildcardEntry state state) := by
  cases state <;> cases event <;> first | rfl | exact absurd (by decide) unrowed

theorem notify_ignored (unrowed : ¬ HasRow session.state event) :
    session.notify turn event = (session, [.dumpEvent session.state event]) := by
  unfold AcctSession.notify AcctSession.process
  rw [findStateTableEntry_unrowed unrowed]
  rfl

theorem attributes_perform {notify : AcctSession → AcctEvent → AcctSession × List AcctEffect} {action : AcctAction}
    (sends : action ≠ .txACR ∧ action ≠ .interimTimeout) :
    (session.perform notify turn action).1.attributes = session.attributes := by
  cases action with
  | null | startIntTimer | deleteRecord | disconnect => rfl
  | txACR => exact absurd rfl sends.1
  | interimTimeout => exact absurd rfl sends.2
  | rxACASuccess =>
    unfold AcctSession.perform AcctSession.rxACASuccess
    dsimp only
    split
    · rfl
    · split <;> rfl
  | storeStartRecord | storeStopRecord | storeInterimRecord | storeEventRecord => exact attributes_storeRecord _ _

theorem action_of_unsent {state : AcctState} {entry : StateTableEntry AcctState AcctEvent AcctAction}
    (unsent : state.sends event = none) (found : acctClientStateTable.findStateTableEntry state event = some entry) :
    entry.action ≠ .txACR ∧ entry.action ≠ .interimTimeout := by
  cases state <;> cases event <;> cases unsent <;> cases found <;> exact ⟨by decide, by decide⟩

theorem unsent_of_outcome (outcome : event.isOutcome = true) (state : AcctState) : state.sends event = none := by
  cases state <;> cases event <;> first | rfl | cases outcome

theorem attributes_unsent (unsent : session.state.sends event = none) :
    (session.notify turn event).1.attributes = session.attributes := by
  unfold AcctSession.notify AcctSession.process
  cases found : acctClientStateTable.findStateTableEntry session.state event with
  | none => rfl
  | some entry => exact attributes_perform _ turn (action_of_unsent unsent found)

theorem requestsOf_unsent (unsent : session.state.sends event = none) :
    requestsOf (session.notify turn event).2 = [] := by
  unfold AcctSession.notify AcctSession.process
  cases found : acctClientStateTable.findStateTableEntry session.state event with
  | none => rfl
  | some entry =>
    refine List.filterMap_eq_nil_iff.mpr fun effect mem => ?_
    rcases List.mem_cons.mp mem with rfl | mem
    · rfl
    · have callback := isCallback_of_mem_perform _ _ (action_of_unsent unsent found) mem
      cases effect with
      | txDelivery => cases callback
      | _ => rfl

theorem attributes_failToSend :
    (session.failToSend (AcctSession.notify turn) turn).1.attributes = session.attributes :=
  attributes_unsent session turn (unsent_of_outcome (isOutcome_ftsEvent session turn) _)

theorem requestsOf_failToSend : requestsOf (session.failToSend (AcctSession.notify turn) turn).2 = [] := by
  have quiet := requestsOf_unsent session turn (unsent_of_outcome (isOutcome_ftsEvent session turn) _)
  unfold AcctSession.failToSend requestsOf
  rw [List.filterMap_append]
  exact List.append_eq_nil_iff.mpr ⟨quiet, rfl⟩

theorem attributes_txACR :
    (session.txACR (AcctSession.renotify turn) turn).1.attributes = session.nextRecord.attributes := by
  unfold AcctSession.txACR
  dsimp only
  split
  · rfl
  · split
    · rfl
    · rw [failToSend_renotify]
      exact attributes_failToSend session.nextRecord turn

theorem requestsOf_txACR : requestsOf (session.txACR (AcctSession.renotify turn) turn).2 =
    if session.attributes.backwardCompatibility then [] else [session.nextRecord.request] := by
  have kept : session.nextRecord.attributes.backwardCompatibility = session.attributes.backwardCompatibility := rfl
  unfold AcctSession.txACR
  dsimp only
  rw [kept]
  by_cases compatible : session.attributes.backwardCompatibility = true
  · rw [if_pos compatible, if_pos compatible]
    rfl
  · rw [if_neg compatible, if_neg compatible]
    split
    · rfl
    · rw [failToSend_renotify]
      have quiet := requestsOf_failToSend session.nextRecord turn
      simp only [requestsOf] at quiet ⊢
      simp only [List.filterMap_cons, AcctEffect.request, quiet]

end Sending

section Pacing

variable {session : AcctSession} {turn : AcctTurn} {event : AcctEvent}

theorem state_storeRecord (session : AcctSession) (recordType : UInt32) :
    (session.storeRecord recordType).1.state = session.state := by
  unfold AcctSession.storeRecord
  dsimp only
  split <;> rfl

theorem state_perform {notify : AcctSession → AcctEvent → AcctSession × List AcctEffect} {action : AcctAction}
    (sends : action ≠ .txACR ∧ action ≠ .interimTimeout) :
    (session.perform notify turn action).1.state = session.state := by
  cases action with
  | null | startIntTimer | deleteRecord | disconnect => rfl
  | txACR => exact absurd rfl sends.1
  | interimTimeout => exact absurd rfl sends.2
  | rxACASuccess =>
    unfold AcctSession.perform AcctSession.rxACASuccess
    dsimp only
    split
    · rfl
    · split <;> rfl
  | storeStartRecord | storeStopRecord | storeInterimRecord | storeEventRecord => exact state_storeRecord _ _

def AcctEvent.opens : AcctEvent → Bool
  | .rxAcaOk | .ftsNotDag | .ftsAndGal | .rxAcaFailAndGal => true
  | _ => false

theorem opened_of_outcome (outcome : event.isOutcome = true) (opened : (session.notify turn event).1.state = .opened) :
    (session.notify turn event).1 = session ∨ session.state.recording.isSome = true ∧ event.opens = true := by
  have rows : ∀ entry ∈ acctClientStateTable, entry.nextState = .opened →
      (entry.event = none → entry.prevState = .opened) ∧
        ∀ event, entry.event = some event → entry.prevState.recording.isSome = true ∧ event.opens = true := by
    simp only [acctClientStateTable, List.forall_mem_cons, List.not_mem_nil, false_imp_iff, implies_true]
    simp [acctEntry, acctWildcardEntry, AcctState.recording, AcctEvent.opens]
  by_cases rowed : HasRow session.state event
  · right
    unfold AcctSession.notify AcctSession.process at opened
    cases found : acctClientStateTable.findStateTableEntry session.state event with
    | none =>
      rw [found] at opened
      have waits := waits_of_hasRow outcome rowed
      simp only at opened
      rw [opened] at waits
      cases waits
    | some entry =>
      obtain ⟨mem, prev, named⟩ := StateTable.findStateTableEntry_mem found
      simp only [found, state_perform (action_of_outcome outcome found)] at opened
      obtain ⟨wild, granted⟩ := rows entry mem opened
      rw [← prev]
      rcases named with wildcard | named
      · have waits := waits_of_hasRow outcome rowed
        rw [← prev, wild wildcard] at waits
        cases waits
      · exact granted event named
  · left
    rw [notify_ignored session turn rowed]

theorem notify_rxAcaOk (recording : session.state.recording.isSome = true) :
    session.notify turn .rxAcaOk =
      (({ session with state := .opened }.rxACASuccess turn).1,
        .dumpEvent session.state .rxAcaOk :: ({ session with state := .opened }.rxACASuccess turn).2) := by
  obtain ⟨state, attributes, timers⟩ := session
  cases state <;> cases recording <;> rfl

theorem armed_scheduled (session : AcctSession) (sec : UInt32) :
    (session.scheduleTimer .interval sec).timers .interval ≠ none := by
  simp [AcctSession.scheduleTimer]

theorem armed_storeRecord {recordType : UInt32} (current : recordType = rectypeStart ∨ recordType = rectypeInterim) :
    (session.storeRecord recordType).1.timers .interval ≠ none := by
  unfold AcctSession.storeRecord
  dsimp only
  rw [if_pos current]
  exact armed_scheduled _ _

theorem armed_rxACASuccess (fresh : turn.recordInStorage = false)
    (current : session.attributes.recordType = rectypeStart ∨ session.attributes.recordType = rectypeInterim) :
    (session.rxACASuccess turn).1.timers .interval ≠ none := by
  unfold AcctSession.rxACASuccess
  rw [fresh, if_neg Bool.false_ne_true, if_pos current]
  exact armed_scheduled _ _

theorem current_of_recording {state : AcctState} {recordType : UInt32} (recording : state.recording = some recordType) :
    recordType = rectypeStart ∨ recordType = rectypeInterim := by
  cases state <;> cases recording
  · exact Or.inl rfl
  · exact Or.inr rfl

theorem paced_outcome (outcome : event.isOutcome = true) (paced : session.Paced)
    (arms : session.attributes.interimInterval ≠ 0 → session.state.recording.isSome = true →
      event ≠ .ftsAndGal ∧ event ≠ .rxAcaFailAndGal ∧
        (event = .rxAcaOk → turn.recordInStorage = false ∧
          (session.attributes.recordType = rectypeStart ∨ session.attributes.recordType = rectypeInterim))) :
    (session.notify turn event).1.Paced := by
  intro opened interval
  rcases opened_of_outcome outcome opened with same | ⟨recording, opens⟩
  · rw [same] at opened interval ⊢
    exact paced opened interval
  · rw [attributes_unsent session turn (unsent_of_outcome outcome _)] at interval
    obtain ⟨unsent, unrefused, acknowledged⟩ := arms interval recording
    cases event with
    | rxAcaOk =>
      obtain ⟨fresh, current⟩ := acknowledged rfl
      rw [notify_rxAcaOk recording]
      exact armed_rxACASuccess fresh current
    | ftsNotDag =>
      obtain ⟨recordType, some⟩ := Option.isSome_iff_exists.mp recording
      rw [notify_ftsNotDag some]
      exact armed_storeRecord (current_of_recording some)
    | ftsAndGal => exact absurd rfl unsent
    | rxAcaFailAndGal => exact absurd rfl unrefused
    | _ => cases opens

theorem ftsEvent_unsent (session : AcctSession) (turn : AcctTurn) : session.ftsEvent turn ≠ .rxAcaFailAndGal := by
  unfold AcctSession.ftsEvent
  split_ifs <;> simp

theorem failureEvent_refused (session : AcctSession) (turn : AcctTurn) :
    session.failureEvent turn ≠ .ftsAndGal ∧ session.failureEvent turn ≠ .rxAcaOk := by
  unfold AcctSession.failureEvent
  split_ifs <;> simp

theorem failureEvent_granting (granting : session.failureEvent turn = .rxAcaFailAndGal) :
    recordKind turn.recordInStorage session.attributes.recordType = .current ∧
      session.attributes.realtimeRequired = realtimeDeliverAndGrant := by
  unfold AcctSession.failureEvent at granting
  split at granting
  · cases granting
  · next current =>
    simp only [not_or] at current
    obtain ⟨fresh, other, lasting⟩ := current
    refine ⟨recordKind_eq_current.mpr ⟨Bool.eq_false_iff.mpr fresh, ?_⟩, ?_⟩
    · exact fun last => last.elim lasting other
    · by_contra granted
      rw [if_neg granted] at granting
      cases granting

theorem paced_failToSend (paced : session.Paced) (undelivered : turn.delivered = false)
    (arms : session.attributes.interimInterval ≠ 0 → session.state.recording.isSome = true →
      recordKind turn.recordInStorage session.attributes.recordType = .current → ¬ Loses session.attributes turn) :
    (session.failToSend (AcctSession.notify turn) turn).1.Paced := by
  refine paced_outcome (isOutcome_ftsEvent session turn) paced fun interval recording => ?_
  have about := about_ftsEvent session turn
  refine ⟨fun lost => ?_, fun other => ?_, fun other => ?_⟩
  · rw [lost] at about
    have current := Option.some.inj about.symm
    have kept := arms interval recording current
    rw [ftsEvent_current current] at lost
    by_cases storable : Storable turn session
    · rw [if_pos storable] at lost
      cases lost
    · rw [if_neg storable] at lost
      by_cases lose : session.attributes.realtimeRequired = realtimeGrantAndLose
      · refine kept ⟨undelivered, ?_, lose⟩
        have granting : session.attributes.realtimeRequired ≠ realtimeDeliverAndGrant := by
          rw [lose]
          decide
        exact Bool.eq_false_iff.mpr fun space => storable ⟨space, granting⟩
      · rw [if_neg lose] at lost
        cases lost
  · exact absurd other (ftsEvent_unsent session turn)
  · rw [other] at about
    cases about

end Pacing

section Calls

variable {session : AcctSession} {turn : AcctTurn} {event : AcctEvent} {next : AcctState}

theorem paced_txACR (paced : session.nextRecord.Paced)
    (arms : session.attributes.interimInterval ≠ 0 → session.attributes.backwardCompatibility = false →
      session.state.recording.isSome = true →
        recordKind turn.recordInStorage session.attributes.recordType = .current → ¬ Loses session.attributes turn) :
    (session.txACR (AcctSession.renotify turn) turn).1.Paced := by
  unfold AcctSession.txACR
  dsimp only
  split
  · exact paced
  · next sends =>
    split
    · exact paced
    · next undelivered =>
      rw [failToSend_renotify]
      exact paced_failToSend paced (Bool.eq_false_iff.mpr undelivered) fun interval recording current =>
        arms interval (Bool.eq_false_iff.mpr sends) recording current

structure Announces (attributes : AcctAttributes) (cause : Option UInt32)
    (result : AcctSession × List AcctEffect) : Prop where
  supplied : result.1.attributes.supplied = attributes.supplied
  compatible : result.1.attributes.backwardCompatibility = attributes.backwardCompatibility
  records :
    requestsOf result.2 = [] ∧ (attributes.backwardCompatibility = false →
        result.1.attributes.recordNumber = attributes.recordNumber) ∨
      attributes.backwardCompatibility = false ∧ ∃ request, requestsOf result.2 = [request] ∧
        request.recordNumber = attributes.recordNumber + 1 ∧
        result.1.attributes.recordNumber = request.recordNumber ∧
        cause = some request.recordType ∧ request.supplied = attributes.supplied

def AcctAttributes.Alike (first second : AcctAttributes) : Prop :=
  first = { second with recordType := first.recordType }

theorem alike_refl (attributes : AcctAttributes) : attributes.Alike attributes := rfl

theorem alike_setRecordType (session : AcctSession) (recordType : UInt32) :
    (session.setRecordType recordType).attributes.Alike session.attributes := rfl

theorem announces_quiet {attributes : AcctAttributes} {cause : Option UInt32} {result : AcctSession × List AcctEffect}
    (alike : result.1.attributes.Alike attributes) (quiet : requestsOf result.2 = []) :
    Announces attributes cause result := by
  constructor
  · rw [alike]
    rfl
  · rw [alike]
  · left
    refine ⟨quiet, fun _ => ?_⟩
    rw [alike]

theorem announces_sends {attributes : AcctAttributes} {cause : Option UInt32}
    (sends : session.state.sends event = some next) (alike : session.attributes.Alike attributes)
    (typed : attributes.backwardCompatibility = false →
      cause = some (session.pending event next).attributes.recordType) :
    Announces attributes cause (session.notify turn event) := by
  rw [notify_sends session turn sends]
  have kept : (session.pending event next).attributes.Alike attributes := by
    unfold AcctSession.pending
    split
    · unfold AcctAttributes.Alike at alike ⊢
      rw [alike]
      rfl
    · exact alike
  have after := attributes_txACR (session.pending event next) turn
  have requests := requestsOf_txACR (session.pending event next) turn
  generalize session.pending event next = sender at kept after requests typed
  have quiet : ∀ effects, requestsOf (.dumpEvent session.state event :: effects) = requestsOf effects := fun _ => rfl
  constructor
  · simp only [after, AcctSession.nextRecord]
    rw [kept]
    rfl
  · simp only [after, AcctSession.nextRecord]
    rw [kept]
  · simp only [quiet, requests, after]
    have same : sender.attributes.backwardCompatibility = attributes.backwardCompatibility := by rw [kept]
    rw [same]
    by_cases compatible : attributes.backwardCompatibility = true
    · left
      rw [if_pos compatible]
      refine ⟨rfl, fun sends => ?_⟩
      rw [compatible] at sends
      cases sends
    · right
      have sends := Bool.eq_false_iff.mpr compatible
      refine ⟨sends, _, if_neg compatible, ?_, rfl, typed sends, ?_⟩
      · simp only [AcctSession.nextRecord, AcctSession.request]
        rw [kept]
      · simp only [AcctSession.nextRecord, AcctSession.request, AccountingRequest.supplied]
        rw [kept]
        rfl

theorem announces_unsent {attributes : AcctAttributes} {cause : Option UInt32}
    (unsent : session.state.sends event = none) (alike : session.attributes.Alike attributes) :
    Announces attributes cause (session.notify turn event) := by
  refine announces_quiet ?_ (requestsOf_unsent session turn unsent)
  rw [attributes_unsent session turn unsent]
  exact alike

end Calls

section Steps

variable {recorder : Recorder} {input : AcctInput}

/-- The attributes once a call has taken over what it is given. -/
def AcctSession.adopted (session : AcctSession) : AcctInput → AcctAttributes
  | .begin _ settings _ _ => (session.adopt settings).attributes
  | .rxAnswer answer _ => if answer.code = msgCodeAccounting then (session.filter answer).attributes else session.attributes
  | _ => session.attributes

theorem announces_access {session : AcctSession} {event : AcctEvent} {attributes : AcctAttributes}
    {cause : Option UInt32} (turn : AcctTurn)
    (named : event = .recInStorage ∨ event = .requestOnetimeAccess ∨ event = .requestAccess)
    (alike : session.attributes.Alike attributes)
    (typed : session.state = .idle → attributes.backwardCompatibility = false →
      cause = some session.attributes.recordType) :
    Announces attributes cause (session.notify turn event) := by
  by_cases idle : session.state = .idle
  · have pends : ∃ next, session.state.sends event = some next := by
      rw [idle]
      rcases named with rfl | rfl | rfl <;> exact ⟨_, rfl⟩
    obtain ⟨next, pends⟩ := pends
    refine announces_sends pends alike fun sent => ?_
    rw [typed idle sent]
    rcases named with rfl | rfl | rfl <;> rfl
  · have unsent : session.state.sends event = none := by
      generalize session.state = state at idle
      rcases named with rfl | rfl | rfl <;> cases state <;> first | rfl | exact absurd rfl idle
    exact announces_unsent unsent alike

theorem announces_begin {oneTime : Bool} {settings : AcctSettings} {recordInStorage : Bool} {turn : AcctTurn}
    (typed : recorder.session.state = .idle → recorder.session.attributes.backwardCompatibility = false →
      ∀ recordType ∈ recorder.storage.head?, recorder.session.attributes.recordType = recordType) :
    Announces (recorder.session.adopt settings).attributes
      (some (recorder.storage.headD (if oneTime then rectypeEvent else rectypeStart)))
      (recorder.step (.begin oneTime settings recordInStorage turn)) := by
  obtain ⟨session, storage⟩ := recorder
  unfold Recorder.step AcctInput.told AcctSession.step AcctSession.begin
  cases storage with
  | nil =>
    cases oneTime with
    | true => exact announces_access _ (Or.inr (Or.inl rfl)) (alike_setRecordType _ _) fun _ _ => rfl
    | false => exact announces_access _ (Or.inr (Or.inr rfl)) (alike_setRecordType _ _) fun _ _ => rfl
  | cons stored storage =>
    refine announces_access _ (Or.inl rfl) (alike_refl _) fun idle sends => ?_
    have held : (session.adopt settings).attributes.recordType = stored := typed idle sends stored rfl
    rw [held]
    rfl

theorem step_announces (sound : Sound recorder input) :
    Announces (recorder.session.adopted input) (input.cause recorder.storage) (recorder.step input) := by
  cases input with
  | «begin» oneTime settings recordInStorage turn => exact announces_begin sound.1.2
  -- A failed delivery stores or gives up, and sends nothing.
  | send turn =>
    unfold Recorder.step AcctInput.told AcctSession.step AcctSession.send
    dsimp only
    split
    · exact announces_quiet rfl rfl
    · refine announces_quiet ?_ (requestsOf_failToSend recorder.session _)
      dsimp only
      rw [attributes_failToSend]
      rfl
  | rxAnswer answer turn =>
    unfold Recorder.step AcctInput.told AcctSession.step AcctSession.rxAnswer AcctSession.adopted
    dsimp only
    by_cases accounting : answer.code = msgCodeAccounting
    · rw [if_neg (not_not_intro accounting), if_pos accounting]
      split
      · exact announces_unsent (unsent_of_outcome rfl _) (alike_refl _)
      · have outcome := isOutcome_failureEvent (recorder.session.filter answer)
          { turn with recordInStorage := !recorder.storage.isEmpty }
        have unsent := unsent_of_outcome outcome (recorder.session.filter answer).state
        refine announces_quiet ?_ ?_
        · dsimp only
          rw [attributes_unsent _ _ unsent]
          rfl
        · dsimp only
          unfold requestsOf
          rw [List.filterMap_append]
          exact List.append_eq_nil_iff.mpr ⟨requestsOf_unsent _ _ unsent, rfl⟩
    · rw [if_pos accounting, if_neg accounting]
      exact announces_quiet rfl rfl
  | timeout timer turn =>
    cases timer with
    | interval =>
      by_cases opened : recorder.session.state = .opened
      · have sends : recorder.session.state.sends AcctTimer.interval.event = some .pendingI := by
          rw [opened]
          rfl
        exact announces_sends sends (alike_refl _) fun _ => rfl
      · refine announces_unsent ?_ (alike_refl _)
        generalize recorder.session.state = state at opened
        cases state <;> first | rfl | exact absurd rfl opened
    | session =>
      refine announces_unsent ?_ (alike_refl _)
      cases recorder.session.state <;> rfl
  | endRecording turn =>
    by_cases opened : recorder.session.state = .opened
    · have sends : ((recorder.session.setRecordType rectypeStop).cancelAllTimer).state.sends .stop = some .pendingL := by
        simp only [AcctSession.cancelAllTimer, AcctSession.setRecordType, opened]
        rfl
      exact announces_sends sends (alike_setRecordType _ _) fun _ => rfl
    · refine announces_unsent ?_ (alike_setRecordType _ _)
      unfold AcctSession.cancelAllTimer AcctSession.setRecordType
      dsimp only
      generalize recorder.session.state = state at opened
      cases state <;> first | rfl | exact absurd rfl opened

theorem paced_sends {session : AcctSession} {event : AcctEvent} {next : AcctState} {turn : AcctTurn}
    (sends : session.state.sends event = some next)
    (arms : session.attributes.interimInterval ≠ 0 → session.attributes.backwardCompatibility = false →
      next.recording.isSome = true →
        recordKind turn.recordInStorage (session.pending event next).attributes.recordType = .current →
          ¬ Loses session.attributes turn) :
    (session.notify turn event).1.Paced := by
  rw [notify_sends session turn sends]
  have waits : next ≠ .opened := by
    generalize session.state = state at sends
    cases state <;> cases event <;> cases sends <;> decide
  have kept : (session.pending event next).attributes.Alike session.attributes ∧
      (session.pending event next).state = next := by
    unfold AcctSession.pending
    split <;> exact ⟨rfl, rfl⟩
  obtain ⟨alike, state⟩ := kept
  generalize session.pending event next = sender at arms alike state
  refine paced_txACR ?_ fun interval compatible recording current loses => ?_
  · intro opened
    exact absurd (state.symm.trans opened) waits
  · rw [alike] at interval compatible loses
    rw [state] at recording
    exact arms interval compatible recording current loses

theorem paced_access {session : AcctSession} {event : AcctEvent} (turn : AcctTurn)
    (named : event = .recInStorage ∨ event = .requestOnetimeAccess ∨ event = .requestAccess) (paced : session.Paced)
    (arms : session.attributes.interimInterval ≠ 0 → session.state = .idle → event = .requestAccess →
      session.attributes.backwardCompatibility = false → ¬ Loses session.attributes turn) :
    (session.notify turn event).1.Paced := by
  by_cases idle : session.state = .idle
  · rcases named with rfl | rfl | rfl
    · refine paced_sends (by rw [idle]; rfl) fun _ _ recording => ?_
      cases recording
    · refine paced_sends (by rw [idle]; rfl) fun _ _ recording => ?_
      cases recording
    · exact paced_sends (by rw [idle]; rfl) fun interval compatible _ _ => arms interval idle rfl compatible
  · rw [notify_ignored]
    · exact paced
    · generalize session.state = state at idle
      rcases named with rfl | rfl | rfl <;> cases state <;> first | decide | exact absurd rfl idle

theorem unopened_stop {session : AcctSession} {turn : AcctTurn} (opened : session.state ≠ .opened) :
    (((session.setRecordType rectypeStop).cancelAllTimer).notify turn .stop).1.state ≠ .opened := by
  obtain ⟨state, attributes, timers⟩ := session
  intro reopened
  cases state <;> first | cases reopened | exact opened rfl

theorem step_paced (paced : recorder.session.Paced) (arms : Arms recorder input) : (recorder.step input).1.Paced := by
  cases input with
  -- Of the three beginnings only the lasting one without stored records waits for the answer that opens.
  | «begin» oneTime settings recordInStorage turn =>
    have adopted : (recorder.session.adopt settings).Paced := fun opened interval => (arms interval).1 opened
    unfold Recorder.step AcctInput.told AcctSession.step AcctSession.begin
    dsimp only
    split
    · refine paced_access _ (Or.inl rfl) adopted fun _ _ other => ?_
      cases other
    · next empty =>
      split
      · refine paced_access _ (Or.inr (Or.inl rfl)) adopted fun _ _ other => ?_
        cases other
      · next lasting =>
        refine paced_access _ (Or.inr (Or.inr rfl)) adopted fun interval idle _ compatible => ?_
        have fresh : recorder.storage = [] := by simpa using empty
        exact (arms interval).2 idle (Bool.eq_false_iff.mpr lasting) fresh compatible
  | send turn =>
    unfold Recorder.step AcctInput.told AcctSession.step AcctSession.send
    dsimp only
    split
    · exact paced
    · next undelivered => exact paced_failToSend paced (Bool.eq_false_iff.mpr undelivered) arms
  | rxAnswer answer turn =>
    unfold Recorder.step AcctInput.told AcctSession.step AcctSession.rxAnswer
    dsimp only
    split
    · exact paced
    · next accounting =>
      have accounting := not_not.mp accounting
      have filtered : (recorder.session.filter answer).Paced :=
        fun opened interval => (arms accounting interval).1 opened
      split
      · next succeeds =>
        refine paced_outcome rfl filtered fun interval recording => ⟨by simp, by simp, fun _ => ?_⟩
        obtain ⟨fresh, current⟩ := ((arms accounting interval).2 recording).1 succeeds
        exact ⟨by simp [fresh], current⟩
      · next fails =>
        refine paced_outcome (isOutcome_failureEvent _ _) filtered fun interval recording => ?_
        refine ⟨(failureEvent_refused _ _).1, fun granting => ?_, fun other => absurd other (failureEvent_refused _ _).2⟩
        obtain ⟨current, deliver⟩ := failureEvent_granting granting
        exact ((arms accounting interval).2 recording).2 (Bool.eq_false_iff.mpr fails) current deliver
  -- The interim timer sends from the open state; elsewhere, as the session timer, it finds no row.
  | timeout timer turn =>
    cases timer with
    | interval =>
      by_cases opened : recorder.session.state = .opened
      · have sends : recorder.session.state.sends AcctTimer.interval.event = some .pendingI := by
          rw [opened]
          rfl
        refine paced_sends sends fun interval compatible _ current => ?_
        have fresh : recorder.storage = [] := by simpa using (recordKind_eq_current.mp current).1
        exact arms interval opened fresh compatible
      · have unrowed : ¬ HasRow recorder.session.state AcctTimer.interval.event := by
          generalize recorder.session.state = state at opened
          cases state <;> first | decide | exact absurd rfl opened
        have ignored := congrArg Prod.fst (notify_ignored recorder.session
          { turn with recordInStorage := !recorder.storage.isEmpty } unrowed)
        exact ignored ▸ paced
    | session =>
      have unrowed : ¬ HasRow recorder.session.state AcctTimer.session.event := by
        cases recorder.session.state <;> decide
      have ignored := congrArg Prod.fst (notify_ignored recorder.session
        { turn with recordInStorage := !recorder.storage.isEmpty } unrowed)
      exact ignored ▸ paced
  | endRecording turn =>
    by_cases opened : recorder.session.state = .opened
    · have sends : ((recorder.session.setRecordType rectypeStop).cancelAllTimer).state.sends .stop = some .pendingL := by
        simp only [AcctSession.cancelAllTimer, AcctSession.setRecordType, opened]
        rfl
      refine paced_sends sends fun _ _ recording => ?_
      cases recording
    · exact fun reopened => absurd reopened (unopened_stop opened)

end Steps

section Runs

structure Stream.Kept (stream : Stream) : Prop where
  wellFormed : stream.WellFormed
  supplied : stream.recorder.session.attributes.supplied = stream.supplied
  silent : stream.recorder.session.attributes.backwardCompatibility = true → stream.log = []
  latest : ∀ sent ∈ stream.log.getLast?, sent.request.recordNumber = stream.recorder.session.attributes.recordNumber

variable {stream : Stream} {input : AcctInput}

theorem supplied_adopted (sound : Sound stream.recorder input)
    (supplied : stream.recorder.session.attributes.supplied = stream.supplied) :
    (stream.recorder.session.adopted input).supplied = stream.supplied.after input := by
  rw [← supplied]
  cases input with
  | «begin» oneTime settings recordInStorage turn =>
    obtain ⟨named, _⟩ := sound.1
    unfold AcctSession.adopted AcctSession.adopt AcctAttributes.supplied Supplied.after
    simp only [Supplied.mk.injEq, true_and, and_true]
    cases multi : settings.multiSessionId with
    | none => rfl
    | some id =>
      rw [named (by rw [multi]; rfl), multi]
      rfl
  | rxAnswer answer turn =>
    unfold AcctSession.adopted Supplied.after
    dsimp only
    split <;> rfl
  | send | timeout | endRecording => rfl

theorem numbering_adopted (session : AcctSession) (input : AcctInput) :
    (session.adopted input).recordNumber = session.attributes.recordNumber ∧
      (session.adopted input).backwardCompatibility = session.attributes.backwardCompatibility := by
  cases input with
  | rxAnswer answer turn =>
    unfold AcctSession.adopted
    dsimp only
    split <;> exact ⟨rfl, rfl⟩
  | «begin» | send | timeout | endRecording => exact ⟨rfl, rfl⟩

theorem kept_take (kept : stream.Kept) (sound : Sound stream.recorder input) : (stream.take input).Kept := by
  have announces := step_announces sound
  have supplied := supplied_adopted sound kept.supplied
  obtain ⟨number, compatible⟩ := numbering_adopted stream.recorder.session input
  have paced := step_paced kept.wellFormed.paced sound.2
  have agrees : (stream.take input).recorder.session.attributes.supplied = (stream.take input).supplied :=
    announces.supplied.trans supplied
  rcases announces.records with ⟨quiet, unnumbered⟩ | ⟨sends, request, sent, next, numbered, caused, carried⟩
  · have same : (stream.take input).log = stream.log := by
      unfold Stream.take
      rw [quiet, List.map_nil, List.append_nil]
    refine ⟨⟨same ▸ kept.wellFormed.consecutive, same ▸ kept.wellFormed.proper, paced⟩, agrees, fun silent => ?_, ?_⟩
    · rw [same]
      exact kept.silent (compatible ▸ announces.compatible ▸ silent)
    · rw [same]
      intro last mem
      by_cases silent : stream.recorder.session.attributes.backwardCompatibility = true
      · rw [kept.silent silent] at mem
        cases mem
      · have unnumbered := unnumbered (compatible.trans (Bool.eq_false_iff.mpr silent))
        exact (kept.latest last mem).trans (number.symm.trans unnumbered.symm)
  · have grows : (stream.take input).log =
        stream.log ++ [⟨request, input.cause stream.recorder.storage, stream.supplied.after input⟩] := by
      unfold Stream.take
      rw [sent]
      rfl
    refine ⟨⟨?_, ?_, paced⟩, agrees, fun silent => ?_, ?_⟩
    · rw [grows, List.map_append]
      refine List.isChain_append.mpr ⟨kept.wellFormed.consecutive, List.isChain_singleton _, ?_⟩
      intro last mem first here
      rw [List.getLast?_map] at mem
      obtain ⟨record, held, rfl⟩ := Option.map_eq_some_iff.mp mem
      obtain rfl := Option.some.inj here
      rw [kept.latest record held]
      exact next.trans (by rw [number])
    · rw [grows]
      intro record mem
      rcases List.mem_append.mp mem with mem | mem
      · exact kept.wellFormed.proper record mem
      · rw [List.mem_singleton.mp mem]
        exact ⟨caused, carried.trans supplied⟩
    · have silent := announces.compatible.symm.trans silent
      rw [sends] at silent
      cases silent
    · rw [grows, List.getLast?_concat]
      intro last mem
      obtain rfl := Option.some.inj mem
      exact numbered.symm

theorem kept_initial (attributes : AcctAttributes) : (Stream.initial attributes).Kept := by
  refine ⟨⟨List.isChain_nil, fun _ mem => ?_, fun opened => ?_⟩, rfl, fun _ => rfl, fun _ mem => ?_⟩
  · cases mem
  · cases opened
  · cases mem

/-- In a run of sound calls what a sub-session sends is well-formed. -/
theorem run_wellFormed (attributes : AcctAttributes) (inputs : List AcctInput)
    (sound : Stepwise Stream.take (fun stream => Sound stream.recorder) (.initial attributes) inputs) :
    (inputs.foldl Stream.take (.initial attributes)).WellFormed :=
  (sound.invariant (fun _ _ kept here => kept_take kept here) (kept_initial attributes)).wellFormed

def plainRun : List AcctInput :=
  [ .begin false ⟨none, none, none, some 60⟩ false ⟨true, false, true⟩,
    .rxAnswer ⟨msgCodeAccounting, some 2001, some rectypeStart, none, none⟩ ⟨true, false, true⟩,
    .timeout .interval ⟨true, false, true⟩,
    .rxAnswer ⟨msgCodeAccounting, some 2001, none, none, some 30⟩ ⟨true, false, true⟩,
    .endRecording ⟨false, false, true⟩ ]

theorem plainRun_wellFormed :
    (plainRun.foldl Stream.take (.initial ⟨0, realtimeGrantAndStore, 0, rectypeEvent, 0, none, none, false⟩)).WellFormed :=
  run_wellFormed _ _ (by decide +kernel)

/-- The application names a multi-session id, and none is sent. -/
theorem multiSessionId_unsent : ¬ ∀ (attributes : AcctAttributes) (inputs : List AcctInput),
    (inputs.foldl Stream.take (.initial attributes)).WellFormed := by
  intro always
  have proper := (always ⟨0, realtimeGrantAndStore, 60, rectypeEvent, 0, none, none, false⟩
    [.begin false ⟨none, some [0x6d], none, none⟩ false ⟨true, false, true⟩]).proper _ List.mem_cons_self
  have carried := congrArg Supplied.multiSessionId proper.2
  cases carried

end Runs

end OpenDiameter.Session
