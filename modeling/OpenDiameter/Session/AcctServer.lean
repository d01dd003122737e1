import OpenDiameter.Foundation.Runs
import OpenDiameter.Session.AcctClient

/-! The accounting session of a server.

A stateful session asks for space and lets its machine store and answer; one without
state stores first and asks then. The attributes keep what a request does not carry.
-/

set_option autoImplicit false

namespace OpenDiameter.Session.AcctServer

open Foundation OpenDiameter.Framework OpenDiameter.Peer

section Vocabulary

/-- The states of `DIAMETER_SESSION_ACCT_ST` that a server has. -/
inductive State where
  | idle | opened
  deriving DecidableEq, Repr

/-- `AAA_SESSION_EV_ACCT`, as far as a server notifies them. -/
inductive Event where
  | rxAcrStartOk | rxAcrEvOk | rxAcrIntOk | rxAcrStopOk | rxAcrNoBuf | sessionTout
  deriving DecidableEq, Repr

def aaaOutOfSpace : UInt32 := 4002

/-- A request, and the AVPs that `RxRequest` looks for. -/
structure Request where
  code : UInt32 := msgCodeAccounting
  hopByHop : UInt32
  endToEnd : UInt32
  sessionId : Option Octets
  subSessionId : Option UInt64
  recordNumber : Option UInt32
  recordType : Option UInt32
  radiusAcctSessionId : Option Octets := none
  multiSessionId : Option Octets := none
  deriving DecidableEq, Repr

structure Negotiated where
  value : UInt32
  isNegotiated : Bool := false
  deriving DecidableEq, Repr

structure Attributes where
  sessionId : Option Octets := none
  subSessionId : UInt64
  recordNumber : UInt32 := 0
  recordType : UInt32 := rectypeEvent
  radiusAcctSessionId : Option Octets := none
  multiSessionId : Option Octets := none
  realtimeRequired : Negotiated
  interimInterval : Negotiated
  sessionTimeout : UInt32
  backwardCompatibility : Bool := false
  lastRxHopId : UInt32 := 0
  lastRxEndId : UInt32 := 0
  deriving DecidableEq, Repr

structure Answer where
  hopByHop : UInt32
  endToEnd : UInt32
  sessionId : Option Octets
  resultCode : UInt32
  recordType : UInt32
  recordNumber : UInt32
  subSessionId : UInt64
  realtimeRequired : UInt32
  interimInterval : UInt32
  radiusAcctSessionId : Option Octets
  multiSessionId : Option Octets
  deriving DecidableEq, Repr

structure Turn where
  spaceAvailable : Bool
  /-- What `SetRealTimeRequired` and `SetInterimInterval` set. -/
  realtimeRequired : Option UInt32 := none
  interimInterval : Option UInt32 := none
  deriving DecidableEq, Repr

inductive Effect where
  | storeRecord (recordType recordNumber : UInt32)
  | txDelivery (answer : Answer)
  | success
  | failed (recordNumber : UInt32)
  | sessionTimeout | reset
  deriving DecidableEq, Repr

/-- `DiameterServerAcctSession`, with the state, the running flag and the timer of its machine. -/
structure ServerSession where
  stateful : Bool
  running : Bool
  state : State
  timer : Option UInt32
  attributes : Attributes
  deriving DecidableEq, Repr

def ServerSession.initial (stateful : Bool) (attributes : Attributes) : ServerSession where
  stateful
  running := stateful
  state := .idle
  timer := none
  attributes :=
    if stateful then { attributes with realtimeRequired := ⟨realtimeDeliverAndGrant, true⟩ } else attributes

end Vocabulary

section Table

inductive Action where
  | null | start | stop | rxACR | rxACROutOfSpace | timeout
  deriving DecidableEq, Repr

def entry (prev : State) (ev : Event) (next : State) (ac : Action) : StateTableEntry State Event Action :=
  ⟨prev, some ev, next, ac⟩

def wildcardEntry (prev next : State) : StateTableEntry State Event Action :=
  ⟨prev, none, next, .null⟩

/-- `DiameterSessAcctServerStateTable`. -/
def stateTable : StateTable State Event Action :=
  [ entry .idle .rxAcrStartOk .opened .start,
    entry .idle .rxAcrEvOk .idle .rxACR,
    entry .idle .rxAcrNoBuf .idle .rxACROutOfSpace,
    wildcardEntry .idle .idle,
    entry .opened .rxAcrIntOk .opened .start,
    entry .opened .rxAcrStopOk .idle .stop,
    entry .opened .rxAcrNoBuf .idle .rxACROutOfSpace,
    entry .opened .sessionTout .idle .timeout,
    entry .opened .rxAcrEvOk .opened .rxACR,
    entry .opened .rxAcrStartOk .opened .start,
    wildcardEntry .opened .opened ]

theorem stateTable_constructs : StateTable.construct stateTable = some stateTable := by
  decide +kernel

end Table

section Calls

namespace ServerSession

variable (session : ServerSession)

def answer (rcode : UInt32) : Answer where
  hopByHop := session.attributes.lastRxHopId
  endToEnd := session.attributes.lastRxEndId
  sessionId := session.attributes.sessionId
  resultCode := rcode
  recordType := session.attributes.recordType
  recordNumber := session.attributes.recordNumber
  subSessionId := session.attributes.subSessionId
  realtimeRequired := session.attributes.realtimeRequired.value
  interimInterval := session.attributes.interimInterval.value
  radiusAcctSessionId := session.attributes.radiusAcctSessionId
  multiSessionId := session.attributes.multiSessionId

def txACA (rcode : UInt32) : List Effect :=
  if session.attributes.backwardCompatibility then [] else [.txDelivery (session.answer rcode)]

def storeRecord : Effect := .storeRecord session.attributes.recordType session.attributes.recordNumber

def reset : ServerSession := { session with running := false }

def perform : Action → ServerSession × List Effect
  | .null => (session, [])
  | .start =>
    ({ session with timer := some session.attributes.sessionTimeout },
      session.storeRecord :: session.txACA aaaSuccess ++ [.success])
  | .stop =>
    ({ session.reset with timer := none }, session.storeRecord :: session.txACA aaaSuccess ++ [.success, .reset])
  | .rxACR => (session, session.storeRecord :: session.txACA aaaSuccess ++ [.success])
  | .rxACROutOfSpace =>
    (session.reset, session.txACA aaaOutOfSpace ++ [.failed session.attributes.recordNumber, .reset])
  | .timeout => ({ session.reset with timer := none }, [.sessionTimeout, .reset])

def notify (event : Event) : ServerSession × List Effect :=
  if session.running then
    match stateTable.findStateTableEntry session.state event with
    | none => (session, [])
    | some entry => { session with state := entry.nextState }.perform entry.action
  else (session, [])

def okEvent (recordType : UInt32) : Option Event :=
  if recordType = rectypeEvent then some .rxAcrEvOk
  else if recordType = rectypeStart then some .rxAcrStartOk
  else if recordType = rectypeInterim then some .rxAcrIntOk
  else if recordType = rectypeStop then some .rxAcrStopOk
  else none

def negotiate (current : Negotiated) (set : Option UInt32) : Negotiated :=
  if current.isNegotiated then current else ⟨set.getD current.value, true⟩

/-- `RxRequest`, as far as the attributes, with the ids that `RxACR` keeps. -/
def filter (request : Request) (turn : Turn) : ServerSession :=
  { session with
    attributes :=
      { session.attributes with
        sessionId := session.attributes.sessionId.or request.sessionId
        subSessionId := request.subSessionId.getD session.attributes.subSessionId
        recordNumber := request.recordNumber.getD session.attributes.recordNumber
        recordType := request.recordType.getD session.attributes.recordType
        radiusAcctSessionId := request.radiusAcctSessionId.or session.attributes.radiusAcctSessionId
        multiSessionId := request.multiSessionId.or session.attributes.multiSessionId
        realtimeRequired := negotiate session.attributes.realtimeRequired turn.realtimeRequired
        interimInterval := negotiate session.attributes.interimInterval turn.interimInterval
        lastRxHopId := request.hopByHop
        lastRxEndId := request.endToEnd } }

/-- `RxRequest`, once the attributes are filtered. -/
def formulate (turn : Turn) : ServerSession × List Effect :=
  if session.stateful then
    if turn.spaceAvailable then
      match okEvent session.attributes.recordType with
      | some event => session.notify event
      | none => (session, [])
    else session.notify .rxAcrNoBuf
  else
    (session, session.storeRecord ::
      if turn.spaceAvailable then session.txACA aaaSuccess ++ [.success] else session.txACA aaaOutOfSpace)

def rxRequest (request : Request) (turn : Turn) : ServerSession × List Effect :=
  if request.code ≠ msgCodeAccounting then (session, [])
  else if (session.attributes.sessionId.or request.sessionId).isNone then (session, [])
  else (session.filter request turn).formulate turn

end ServerSession

inductive Input where
  | rxRequest (request : Request) (turn : Turn)
  | timeout
  deriving DecidableEq, Repr

namespace ServerSession

variable (session : ServerSession)

def step : Input → ServerSession × List Effect
  | .rxRequest request turn => session.rxRequest request turn
  | .timeout => session.notify .sessionTout

def take (input : Input) : ServerSession := (session.step input).1

end ServerSession

end Calls

section Purpose

def Effect.answer : Effect → Option Answer
  | .txDelivery answer => some answer
  | _ => none

def answersOf (effects : List Effect) : List Answer := effects.filterMap Effect.answer

structure Answer.Echoes (answer : Answer) (request : Request) : Prop where
  hopByHop : answer.hopByHop = request.hopByHop
  endToEnd : answer.endToEnd = request.endToEnd
  subSessionId : some answer.subSessionId = request.subSessionId
  recordType : some answer.recordType = request.recordType
  recordNumber : some answer.recordNumber = request.recordNumber

def Handed (request : Request) (effects : List Effect) : Prop :=
  ∃ recordType ∈ request.recordType, ∃ recordNumber ∈ request.recordNumber,
    Effect.storeRecord recordType recordNumber ∈ effects

def Effect.stores : Effect → Bool
  | .storeRecord .. => true
  | _ => false

def Answered (session : ServerSession) : Input → Prop
  | .rxRequest request turn =>
    request.code = msgCodeAccounting → ∃ answer, answersOf (session.rxRequest request turn).2 = [answer] ∧
      answer.Echoes request ∧
      (answer.resultCode = aaaSuccess ↔ Handed request (session.rxRequest request turn).2) ∧
      (answer.resultCode = aaaOutOfSpace → ∀ effect ∈ (session.rxRequest request turn).2, effect.stores = false)
  | .timeout => True

end Purpose

section Condition

def State.handles (state : State) (recordType : UInt32) : Prop :=
  recordType = rectypeStart ∨ recordType = rectypeEvent ∨
    state = .opened ∧ (recordType = rectypeInterim ∨ recordType = rectypeStop)

instance (state : State) (recordType : UInt32) : Decidable (state.handles recordType) :=
  inferInstanceAs (Decidable (_ ∨ _))

def Answerable (session : ServerSession) : Input → Prop
  | .rxRequest request turn =>
    request.code = msgCodeAccounting →
      session.attributes.backwardCompatibility = false ∧
        (session.attributes.sessionId.or request.sessionId).isSome = true ∧
        request.subSessionId.isSome = true ∧ request.recordNumber.isSome = true ∧
        (∃ recordType ∈ request.recordType,
          if session.stateful = true then
            session.running = true ∧ (turn.spaceAvailable = true → session.state.handles recordType)
          else turn.spaceAvailable = true)
  | .timeout => True

end Condition

section Answers

variable {session : ServerSession} {request : Request} {turn : Turn}

theorem answersOf_append (first second : List Effect) : answersOf (first ++ second) = answersOf first ++ answersOf second :=
  List.filterMap_append

def Silent (effects : List Effect) : Prop := answersOf effects = [] ∧ ∀ effect ∈ effects, effect.stores = false

theorem silent_success : Silent [.success] := by
  refine ⟨rfl, fun effect mem => ?_⟩
  rw [List.mem_singleton.mp mem]
  rfl

theorem silent_ended (first : Effect) (quiet : first.answer = none ∧ first.stores = false) : Silent [first, .reset] := by
  refine ⟨?_, fun effect mem => ?_⟩
  · simp only [answersOf, List.filterMap_cons, quiet.1]
    rfl
  · rcases List.mem_cons.mp mem with rfl | mem
    · exact quiet.2
    · rw [List.mem_singleton.mp mem]
      rfl

theorem notify_handled (running : session.running = true) {event : Event} {recordType : UInt32}
    (ok : ServerSession.okEvent recordType = some event) (handles : session.state.handles recordType) :
    ∃ rest, (session.notify event).2 = session.storeRecord :: session.txACA aaaSuccess ++ rest ∧ Silent rest := by
  obtain ⟨stateful, runs, state, timer, attributes⟩ := session
  obtain rfl : runs = true := running
  rcases handles with rfl | rfl | ⟨opened, rfl | rfl⟩
  · obtain rfl : Event.rxAcrStartOk = event := Option.some.inj ok
    cases state <;> exact ⟨_, rfl, silent_success⟩
  · obtain rfl : Event.rxAcrEvOk = event := Option.some.inj ok
    cases state <;> exact ⟨_, rfl, silent_success⟩
  · obtain rfl : Event.rxAcrIntOk = event := Option.some.inj ok
    obtain rfl : state = .opened := opened
    exact ⟨_, rfl, silent_success⟩
  · obtain rfl : Event.rxAcrStopOk = event := Option.some.inj ok
    obtain rfl : state = .opened := opened
    exact ⟨_, rfl, silent_ended _ ⟨rfl, rfl⟩⟩

theorem notify_unhandled {event : Event} {recordType : UInt32} (ok : ServerSession.okEvent recordType = some event)
    (unhandled : ¬ session.state.handles recordType) : (session.notify event).2 = [] := by
  obtain ⟨stateful, running, state, timer, attributes⟩ := session
  simp only [State.handles, not_or, not_and] at unhandled
  obtain ⟨start, once, later⟩ := unhandled
  unfold ServerSession.okEvent at ok
  rw [if_neg once, if_neg start] at ok
  cases state with
  | opened =>
    obtain ⟨interim, stop⟩ := later rfl
    rw [if_neg interim, if_neg stop] at ok
    cases ok
  | idle =>
    split at ok
    · obtain rfl := Option.some.inj ok
      cases running <;> rfl
    · split at ok
      · obtain rfl := Option.some.inj ok
        cases running <;> rfl
      · cases ok

theorem notify_noBuf (running : session.running = true) : ∃ rest,
    (session.notify .rxAcrNoBuf).2 = session.txACA aaaOutOfSpace ++ rest ∧ Silent rest := by
  obtain ⟨stateful, runs, state, timer, attributes⟩ := session
  obtain rfl : runs = true := running
  cases state <;> exact ⟨_, rfl, silent_ended _ ⟨rfl, rfl⟩⟩

theorem okEvent_of_handles {state : State} {recordType : UInt32} (handles : state.handles recordType) :
    ∃ event, ServerSession.okEvent recordType = some event := by
  rcases handles with rfl | rfl | ⟨_, rfl | rfl⟩ <;> exact ⟨_, rfl⟩

/-- What is done with a request: its record is stored and answered, refused, stored and
refused, or dropped. -/
theorem formulate_cases (session : ServerSession) (turn : Turn) :
    (∃ rest, (session.formulate turn).2 = session.storeRecord :: session.txACA aaaSuccess ++ rest ∧ Silent rest ∧
        if session.stateful = true then
          session.running = true ∧ turn.spaceAvailable = true ∧ session.state.handles session.attributes.recordType
        else turn.spaceAvailable = true) ∨
      (∃ rest, (session.formulate turn).2 = session.txACA aaaOutOfSpace ++ rest ∧ Silent rest ∧
        session.stateful = true ∧ session.running = true ∧ turn.spaceAvailable = false) ∨
      ((session.formulate turn).2 = session.storeRecord :: session.txACA aaaOutOfSpace ∧ session.stateful = false ∧
        turn.spaceAvailable = false) ∨
      ((session.formulate turn).2 = [] ∧ session.stateful = true ∧ (session.running = true →
        turn.spaceAvailable = true ∧ ¬ session.state.handles session.attributes.recordType)) := by
  unfold ServerSession.formulate
  cases stateful : session.stateful with
  | false =>
    cases space : turn.spaceAvailable with
    | true => exact Or.inl ⟨_, rfl, silent_success, by simp⟩
    | false => exact Or.inr (Or.inr (Or.inl ⟨rfl, rfl, rfl⟩))
  | true =>
    cases running : session.running with
    | false =>
      have dropped : ∀ event, session.notify event = (session, []) := by
        intro event
        unfold ServerSession.notify
        rw [running, if_neg Bool.false_ne_true]
      refine Or.inr (Or.inr (Or.inr ⟨?_, rfl, fun other => ?_⟩))
      · simp only [dropped, if_true]
        split
        · split <;> rfl
        · rfl
      · cases other
    | true =>
      cases space : turn.spaceAvailable with
      | false =>
        obtain ⟨rest, same, silent⟩ := notify_noBuf running
        exact Or.inr (Or.inl ⟨rest, same, silent, rfl, rfl, rfl⟩)
      | true =>
        by_cases handles : session.state.handles session.attributes.recordType
        · obtain ⟨event, ok⟩ := okEvent_of_handles handles
          obtain ⟨rest, same, silent⟩ := notify_handled running ok handles
          refine Or.inl ⟨rest, ?_, silent, ?_⟩
          · simp only [ok]
            exact same
          · simp [handles]
        · refine Or.inr (Or.inr (Or.inr ⟨?_, rfl, fun _ => ⟨rfl, handles⟩⟩))
          cases ok : ServerSession.okEvent session.attributes.recordType with
          | none => rfl
          | some event => exact notify_unhandled ok handles

theorem answersOf_txACA {session : ServerSession} (sends : session.attributes.backwardCompatibility = false)
    (rcode : UInt32) : answersOf (session.txACA rcode) = [session.answer rcode] := by
  unfold ServerSession.txACA
  rw [sends, if_neg Bool.false_ne_true]
  rfl

theorem stores_txACA (session : ServerSession) (rcode : UInt32) :
    ∀ effect ∈ session.txACA rcode, effect.stores = false := by
  unfold ServerSession.txACA
  split
  · intro effect mem
    cases mem
  · intro effect mem
    rw [List.mem_singleton.mp mem]
    rfl

theorem echoes_filter (session : ServerSession) (request : Request) (turn : Turn) (rcode : UInt32) :
    ((session.filter request turn).answer rcode).Echoes request ↔
      request.subSessionId.isSome = true ∧ request.recordNumber.isSome = true ∧ request.recordType.isSome = true := by
  have carried : ∀ {α : Type} (given : Option α) (kept : α), some (given.getD kept) = given ↔ given.isSome = true := by
    intro α given kept
    cases given <;> simp
  constructor
  · intro echoes
    exact ⟨(carried _ _).mp echoes.subSessionId, (carried _ _).mp echoes.recordNumber,
      (carried _ _).mp echoes.recordType⟩
  · rintro ⟨sub, number, type⟩
    exact ⟨rfl, rfl, (carried _ _).mpr sub, (carried _ _).mpr type, (carried _ _).mpr number⟩

theorem handed_filter (session : ServerSession) {request : Request} {turn : Turn} {effects : List Effect}
    (named : request.recordNumber.isSome = true ∧ request.recordType.isSome = true)
    (stored : (session.filter request turn).storeRecord ∈ effects) : Handed request effects := by
  obtain ⟨number, same⟩ := Option.isSome_iff_exists.mp named.1
  obtain ⟨type, typed⟩ := Option.isSome_iff_exists.mp named.2
  refine ⟨type, typed, number, same, ?_⟩
  have record : (session.filter request turn).storeRecord = .storeRecord type number := by
    simp [ServerSession.storeRecord, ServerSession.filter, same, typed]
  exact record ▸ stored

theorem unhanded {request : Request} {effects : List Effect} (unstored : ∀ effect ∈ effects, effect.stores = false) :
    ¬ Handed request effects := by
  rintro ⟨type, _, number, _, mem⟩
  cases unstored _ mem

theorem unanswered_compatible {session : ServerSession} (turn : Turn)
    (compatible : session.attributes.backwardCompatibility = true) : answersOf (session.formulate turn).2 = [] := by
  have unsent : ∀ rcode, session.txACA rcode = [] := by
    intro rcode
    unfold ServerSession.txACA
    rw [if_pos compatible]
  rcases formulate_cases session turn with ⟨rest, same, silent, _⟩ | ⟨rest, same, silent, _⟩ | ⟨same, _⟩ | ⟨same, _⟩
  · rw [same, unsent]
    exact silent.1
  · rw [same, unsent]
    exact silent.1
  · rw [same, unsent]
    rfl
  · rw [same]
    rfl

structure Answer.Fits (answer : Answer) (request : Request) (effects : List Effect) : Prop where
  echoes : answer.Echoes request
  success : answer.resultCode = aaaSuccess ↔ Handed request effects
  refused : answer.resultCode = aaaOutOfSpace → ∀ effect ∈ effects, effect.stores = false

theorem fits_formulate_iff {session : ServerSession} {request : Request} {turn : Turn}
    (sends : session.attributes.backwardCompatibility = false) :
    (∃ answer, answersOf ((session.filter request turn).formulate turn).2 = [answer] ∧
        answer.Fits request ((session.filter request turn).formulate turn).2) ↔
      request.subSessionId.isSome = true ∧ request.recordNumber.isSome = true ∧
        (∃ recordType ∈ request.recordType,
          if session.stateful = true then
            session.running = true ∧ (turn.spaceAvailable = true → session.state.handles recordType)
          else turn.spaceAvailable = true) := by
  have answers := @answersOf_txACA (session.filter request turn) sends
  have typed : ∀ recordType ∈ request.recordType, (session.filter request turn).attributes.recordType = recordType := by
    intro recordType mem
    simp [ServerSession.filter, Option.mem_def.mp mem]
  -- The record is stored, refused for want of space by a running or a stateless session, or dropped.
  rcases formulate_cases (session.filter request turn) turn with
    ⟨rest, same, silent, served⟩ | ⟨rest, same, silent, stateful, running, space⟩ | ⟨same, stateful, space⟩ |
      ⟨same, stateful, dropped⟩
  -- Stored: the answer is a success, and the record reached the application.
  · have sole : answersOf ((session.filter request turn).formulate turn).2 =
        [(session.filter request turn).answer aaaSuccess] := by
      rw [same, answersOf_append, silent.1, List.append_nil, ← answers]
      rfl
    have stored : (session.filter request turn).storeRecord ∈ ((session.filter request turn).formulate turn).2 := by
      rw [same]
      exact List.mem_cons_self
    rw [sole]
    constructor
    · rintro ⟨answer, only, fits⟩
      obtain rfl := List.singleton_inj.mp only
      obtain ⟨sub, number, type⟩ := (echoes_filter session request turn _).mp fits.echoes
      obtain ⟨recordType, mem⟩ := Option.isSome_iff_exists.mp type
      refine ⟨sub, number, recordType, mem, ?_⟩
      rw [typed recordType mem] at served
      by_cases stateful : session.stateful = true
      · rw [if_pos stateful]
        rw [if_pos (show (session.filter request turn).stateful = true from stateful)] at served
        exact ⟨served.1, fun _ => served.2.2⟩
      · rw [if_neg stateful]
        rw [if_neg (show ¬ (session.filter request turn).stateful = true from stateful)] at served
        exact served
    · rintro ⟨sub, number, recordType, mem, _⟩
      have type := Option.isSome_of_mem mem
      refine ⟨_, rfl, (echoes_filter session request turn _).mpr ⟨sub, number, type⟩, ?_, fun refused => ?_⟩
      · exact iff_of_true rfl (handed_filter session ⟨number, type⟩ stored)
      · cases refused
  -- A running session without space: the refusal is right if the request echoes.
  · have sole : answersOf ((session.filter request turn).formulate turn).2 =
        [(session.filter request turn).answer aaaOutOfSpace] := by
      rw [same, answersOf_append, silent.1, List.append_nil, answers]
    have unstored : ∀ effect ∈ ((session.filter request turn).formulate turn).2, effect.stores = false := by
      rw [same]
      intro effect mem
      rcases List.mem_append.mp mem with mem | mem
      · exact stores_txACA _ _ effect mem
      · exact silent.2 effect mem
    rw [sole]
    constructor
    · rintro ⟨answer, only, fits⟩
      obtain rfl := List.singleton_inj.mp only
      obtain ⟨sub, number, type⟩ := (echoes_filter session request turn _).mp fits.echoes
      obtain ⟨recordType, mem⟩ := Option.isSome_iff_exists.mp type
      refine ⟨sub, number, recordType, mem, ?_⟩
      rw [if_pos (show session.stateful = true from stateful)]
      refine ⟨running, fun there => ?_⟩
      rw [space] at there
      cases there
    · rintro ⟨sub, number, recordType, mem, _⟩
      refine ⟨_, rfl, (echoes_filter session request turn _).mpr ⟨sub, number, Option.isSome_of_mem mem⟩, ?_,
        fun _ => unstored⟩
      refine iff_of_false (fun success => ?_) (unhanded unstored)
      cases success
  -- A stateless server without space: the record was handed over, and is refused nevertheless.
  · have sole : answersOf ((session.filter request turn).formulate turn).2 =
        [(session.filter request turn).answer aaaOutOfSpace] := by
      rw [same, ← answers]
      rfl
    rw [sole]
    constructor
    · rintro ⟨answer, only, fits⟩
      obtain rfl := List.singleton_inj.mp only
      have unstored := fits.refused rfl (session.filter request turn).storeRecord (by rw [same]; exact List.mem_cons_self)
      cases unstored
    · rintro ⟨_, _, recordType, _, served⟩
      rw [if_neg (show ¬ session.stateful = true from Bool.eq_false_iff.mp stateful), space] at served
      cases served
  -- No row of the state takes the record type, and nothing is answered.
  · rw [same]
    refine iff_of_false ?_ ?_
    · rintro ⟨answer, only, _⟩
      cases only
    · rintro ⟨_, _, recordType, mem, served⟩
      rw [if_pos (show session.stateful = true from stateful)] at served
      obtain ⟨space, unhandled⟩ := dropped served.1
      rw [typed recordType mem] at unhandled
      exact unhandled (served.2 space)

theorem answered_iff_answerable (session : ServerSession) (input : Input) :
    Answered session input ↔ Answerable session input := by
  cases input with
  | timeout => exact Iff.rfl
  | rxRequest request turn =>
    unfold Answered Answerable ServerSession.rxRequest
    refine forall_congr' fun accounting => ?_
    rw [if_neg (not_not_intro accounting)]
    cases known : (session.attributes.sessionId.or request.sessionId) with
    | none => simp [answersOf]
    | some id =>
      rw [if_neg (by simp)]
      by_cases compatible : session.attributes.backwardCompatibility = true
      · refine iff_of_false ?_ fun answerable => Bool.eq_false_iff.mp answerable.1 compatible
        rintro ⟨answer, only, _⟩
        rw [@unanswered_compatible (session.filter request turn) turn compatible] at only
        cases only
      · have sends := Bool.eq_false_iff.mpr compatible
        have fits := @fits_formulate_iff session request turn sends
        constructor
        · rintro ⟨answer, only, echoes, success, refused⟩
          exact ⟨sends, rfl, fits.mp ⟨answer, only, echoes, success, refused⟩⟩
        · rintro ⟨_, _, served⟩
          obtain ⟨answer, only, echoes, success, refused⟩ := fits.mpr served
          exact ⟨answer, only, echoes, success, refused⟩

theorem run_answered_iff (stateful : Bool) (attributes : Attributes) (inputs : List Input) :
    Stepwise ServerSession.take Answered (.initial stateful attributes) inputs ↔
      Stepwise ServerSession.take Answerable (.initial stateful attributes) inputs :=
  stepwise_iff (fun session input (_ : True) (_ : True) => answered_iff_answerable session input)
    (fun _ _ _ _ _ => trivial) trivial fun _ _ => trivial

/-- An interim record comes first: it is dropped. -/
theorem interim_unanswered : ¬ ∀ stateful attributes inputs,
    Stepwise ServerSession.take Answered (.initial stateful attributes) inputs := by
  intro always
  obtain ⟨answer, only, _⟩ := (always true ⟨none, 0, 0, rectypeEvent, none, none, ⟨1, false⟩, ⟨60, false⟩, 0, false, 0, 0⟩
    [.rxRequest ⟨msgCodeAccounting, 1, 1, some [0x73], some 7, some 0, some rectypeInterim, none, none⟩
      ⟨true, none, none⟩]).1 rfl
  cases only

end Answers

end OpenDiameter.Session.AcctServer
