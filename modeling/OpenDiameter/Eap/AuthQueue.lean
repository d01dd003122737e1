import OpenDiameter.Eap.AuthPacing
import OpenDiameter.Foundation.Runs

/-! The received messages of an EAP authenticator and the events that announce them. -/

set_option autoImplicit false

namespace OpenDiameter.Eap

open Foundation OpenDiameter.Framework

def AuthAction.aaaCode : AuthAction → Option UInt8
  | .aaaContinue => some codeRequest
  | .aaaSuccess => some codeSuccess
  | .aaaFailure => some codeFailure
  | _ => none

/-- The states in which a switch waits for messages. -/
def AuthState.idles : AuthState → Bool
  | .idle | .idle2 | .aaaIdle => true
  | _ => false

namespace AuthSwitch

section Steps

variable (config : AuthConfig) (machine : Machine) (input : Input)

/-- What the constructors set of the attributes that matter here; all others are arbitrary. -/
structure Constructed (machine : Machine) : Prop where
  raised : machine.raised = none
  events : machine.events = []
  rxQueue : machine.data.rxQueue = []
  aaaRxQueue : machine.data.aaaRxQueue = []
  methodStateMachine : machine.data.methodStateMachine = none

def Waits : Prop :=
  machine.running = true ∧ machine.state.idles = true ∧ machine.raised = none ∧ machine.events = []

def InStep : Prop :=
  .blocked ∉ callbacks config machine input ∧
    (Waits (take config machine input) → (take config machine input).data.rxQueue = [])

/-- `EvRxMsg` is handled where the message is taken. `AAA_Continue` is called with a
Request, and the event of an AAA call finds no message with the code of another call
at the head of `aaaRxQueue`. -/
def Announced : Input → Prop
  | .handle =>
    (machine.raised = some .rxMsg → ((program config).acting machine).any (·.takesRx) = true) ∧
      (((program config).acting machine).bind (·.aaaCode)).all
        (fun code => machine.data.aaaRxQueue.head?.all (·.code == code)) = true
  | .aaa .continued (some msg) => msg.code = codeRequest
  | _ => True

instance : Decidable (Waits machine) := inferInstanceAs (Decidable (_ ∧ _))

instance : Decidable (InStep config machine input) := inferInstanceAs (Decidable (_ ∧ (_ → _)))

instance : Decidable (Announced config machine input) :=
  match input with
  | .handle => inferInstanceAs (Decidable (_ ∧ _))
  | .aaa .continued (some msg) => inferInstanceAs (Decidable (msg.code = codeRequest))
  | .aaa .continued none | .aaa (.success _) _ | .aaa .failure _ | .start | .startBackend _ | .receive _ | .serve
  | .method _ | .timeout => .isTrue trivial

end Steps

section Rows

theorem takes_rows (kind : AuthKind) : ∀ row ∈ kind.table,
    (row.action.takesRx = true → row.event = some .rxMsg) ∧
      (row.action = .discard3 → row.event = some .sgDiscard ∨ row.event = some .sgAaaContinue) ∧
        (row.action = .aaaContinue → row.event = some .sgAaaContinue) := by
  cases kind <;> decide +kernel

theorem raises_queues (ac : AuthAction) : .rxMsg ∉ ac.raises ∧ .sgAaaContinue ∉ ac.raises ∧
    (.sgDiscard ∈ ac.raises → ac.aaaCode.isSome = true) := by
  cases ac <;> decide

end Rows

section Requests

def requests (queue : List EapMessage) : Nat := queue.countP (·.code == codeRequest)

theorem requests_le_tail (queue : List EapMessage) : requests queue ≤ requests queue.tail + 1 := by
  cases queue with
  | nil => exact Nat.zero_le _
  | cons msg rest =>
    show (msg :: rest).countP _ ≤ rest.countP _ + 1
    rw [List.countP_cons]
    split <;> omega

theorem requests_tail {queue : List EapMessage} {code : UInt8} (other : code ≠ codeRequest)
    (head : queue.head?.all (·.code == code) = true) : requests queue.tail = requests queue := by
  cases queue with
  | nil => rfl
  | cons msg rest =>
    have same : msg.code = code := beq_iff_eq.mp head
    have different : (msg.code == codeRequest) = false := by
      rw [same]
      exact beq_eq_false_iff_ne.mpr other
    show rest.countP _ = (msg :: rest).countP _
    rw [List.countP_cons_of_neg (by rw [different]; exact Bool.false_ne_true)]

end Requests

section Invariant

variable {config : AuthConfig} {machine : Machine}

/-- Each received message is announced by one event, and each `AAA_Continue` has its
request in the queue. -/
structure Matched (machine : Machine) : Prop where
  rxMsg : machine.pending .rxMsg = machine.data.rxQueue.length
  requests : machine.pending .sgAaaContinue ≤ requests machine.data.aaaRxQueue
  discards : machine.pending .sgDiscard = 0

theorem Constructed.matched (constructed : Constructed machine) : Matched machine where
  rxMsg := by
    rw [EventMachine.pending, constructed.raised, constructed.events, constructed.rxQueue]
    rfl
  requests := by
    rw [EventMachine.pending, constructed.raised, constructed.events]
    exact Nat.zero_le _
  discards := by
    rw [EventMachine.pending, constructed.raised, constructed.events]
    rfl

theorem Matched.unblocked (matched : Matched machine) (input : Input) : .blocked ∉ callbacks config machine input := by
  cases input with
  | handle =>
    show .blocked ∉ ((program config).handle machine).2
    refine (program config).handle_elim machine (fun _ => List.not_mem_nil) List.not_mem_nil ?_
    intro event row takes blocked
    obtain ⟨rx, discards, -⟩ := takes_rows config.kind row takes.mem
    rcases (perform_effect config machine.data row.action).told.blocked blocked with ⟨takesRx, empty⟩ | ⟨third, empty⟩
    · obtain rfl := takes.event_eq (rx takesRx)
      have same := matched.rxMsg
      rw [EventMachine.pending_raised takes.raised, empty] at same
      exact Nat.succ_ne_zero _ same
    · rcases discards third with named | named
      · obtain rfl := takes.event_eq named
        have none := matched.discards
        rw [EventMachine.pending_raised takes.raised] at none
        exact Nat.succ_ne_zero _ none
      · obtain rfl := takes.event_eq named
        have enough := matched.requests
        rw [EventMachine.pending_raised takes.raised, empty] at enough
        exact Nat.not_succ_le_zero _ enough
  | start | startBackend | receive | serve | method | timeout | aaa => exact List.not_mem_nil

/-- A message of `rxQueue` that is there is taken off it. -/
theorem perform_takesRx (config : AuthConfig) (sm : AuthData) {ac : AuthAction} (takes : ac.takesRx = true) :
    (perform config sm ac).data.rxQueue = sm.rxQueue.tail := by
  cases ac with
  | discard2 =>
    show (acDiscard2 config sm).data.rxQueue = _
    unfold acDiscard2
    cases sm.rxQueue <;> rfl
  | receiveMsg =>
    show (acReceiveMsg config sm).data.rxQueue = _
    unfold acReceiveMsg subAcParseResponse
    cases queue : sm.rxQueue with
    | nil => exact queue
    | cons =>
      dsimp only
      repeat' split
      all_goals rfl
  | receiveMsg2 =>
    show (acReceiveMsg2 sm).data.rxQueue = _
    unfold acReceiveMsg2
    cases queue : sm.rxQueue with
    | nil => exact queue
    | cons =>
      dsimp only
      split <;> rfl
  | _ => cases takes

theorem acDiscard3_tail (config : AuthConfig) (sm : AuthData) :
    (perform config sm .discard3).data.aaaRxQueue = sm.aaaRxQueue.tail := by
  show (acDiscard3 sm).data.aaaRxQueue = _
  unfold acDiscard3
  cases queue : sm.aaaRxQueue with
  | nil => exact queue
  | cons => rfl

theorem perform_aaa (config : AuthConfig) (sm : AuthData) {ac : AuthAction} {code : UInt8}
    (looks : ac.aaaCode = some code) (head : sm.aaaRxQueue.head?.all (·.code == code) = true) :
    (perform config sm ac).data.aaaRxQueue = sm.aaaRxQueue.tail ∧
      (perform config sm ac).raised ≠ some .sgDiscard := by
  have matching {msg : EapMessage} {rest : List EapMessage} {event : AuthEvent}
      (queue : sm.aaaRxQueue = msg :: rest) (other : event ≠ .sgDiscard) :
      (subAcAaaMessage sm msg rest code event).data.aaaRxQueue = rest ∧
        (subAcAaaMessage sm msg rest code event).raised ≠ some .sgDiscard := by
    rw [queue] at head
    have same : msg.code = code := beq_iff_eq.mp head
    unfold subAcAaaMessage
    dsimp only
    rw [if_neg (fun different => different same)]
    exact ⟨rfl, fun raised => other (Option.some.inj raised)⟩
  cases ac with
  | aaaContinue =>
    cases looks
    show (acAaaContinue sm).data.aaaRxQueue = _ ∧ (acAaaContinue sm).raised ≠ _
    unfold acAaaContinue
    cases queue : sm.aaaRxQueue with
    | nil => exact ⟨rfl, nofun⟩
    | cons msg rest => exact matching queue nofun
  | aaaSuccess =>
    cases looks
    show (acAaaSuccess sm).data.aaaRxQueue = _ ∧ (acAaaSuccess sm).raised ≠ _
    unfold acAaaSuccess
    cases queue : sm.aaaRxQueue with
    | nil => exact ⟨rfl, nofun⟩
    | cons msg rest => exact matching queue nofun
  | aaaFailure =>
    cases looks
    show (acAaaFailure sm).data.aaaRxQueue = _ ∧ (acAaaFailure sm).raised ≠ _
    unfold acAaaFailure
    cases queue : sm.aaaRxQueue with
    | nil => exact ⟨rfl, nofun⟩
    | cons msg rest => exact matching queue nofun
  | _ => cases looks

theorem taken_matched {event : AuthEvent} {row : StateTableEntry AuthState AuthEvent AuthAction}
    (matched : Matched machine) (takes : (program config).Takes machine event row)
    (announced : Announced config machine .handle) :
    Matched (machine.react row.nextState (perform config machine.data row.action)) := by
  obtain ⟨message, head⟩ := announced
  rw [takes.acting] at message head
  obtain ⟨rx, discards, continues⟩ := takes_rows config.kind row takes.mem
  obtain ⟨unreceived, uncontinued, undiscarded⟩ := raises_queues row.action
  have effect := perform_effect config machine.data row.action
  have unnotified {other : AuthEvent} (different : other ≠ .uct ∧ other ≠ .evElse) :
      other ∉ (perform config machine.data row.action).notified := by
    intro mem
    rcases notifies_no_report row.action other (effect.notified other mem) with same | same
    · exact different.1 same
    · exact different.2 same
  have unraised {other : AuthEvent} (absent : other ∉ row.action.raises) :
      (perform config machine.data row.action).raised ≠ some other :=
    fun raised => absent (effect.raised other raised)
  have discard : (perform config machine.data row.action).raised ≠ some .sgDiscard := by
    cases looks : row.action.aaaCode with
    | none =>
      apply unraised
      intro mem
      have looking := undiscarded mem
      rw [looks] at looking
      cases looking
    -- The action takes the head if it has the code it looks for.
    | some code =>
      rw [Option.bind_some, looks] at head
      exact (perform_aaa config machine.data looks head).2
  -- The three counts: messages of the peer, requests of the AAA server, discards.
  constructor
  · rw [machine.pending_react row.nextState (unraised unreceived) (unnotified (by decide))]
    show _ = (perform config machine.data row.action).data.rxQueue.length
    have before := matched.rxMsg
    cases takesRx : row.action.takesRx with
    | true =>
      obtain rfl := takes.event_eq (rx takesRx)
      rw [EventMachine.pending_raised takes.raised] at before
      rw [perform_takesRx config machine.data takesRx, List.length_tail]
      omega
    | false =>
      have other : event ≠ .rxMsg := by
        intro same
        have taken := message (same ▸ takes.raised)
        rw [Option.any_some, takesRx] at taken
        cases taken
      rw [EventMachine.pending_other _ takes.raised other] at before
      rw [effect.kept.rxQueue takesRx, before]
  · rw [machine.pending_react row.nextState (unraised uncontinued) (unnotified (by decide))]
    show _ ≤ requests (perform config machine.data row.action).data.aaaRxQueue
    have before := matched.requests
    have fewer := EventMachine.pending_le machine .sgAaaContinue
    have shorter := requests_le_tail machine.data.aaaRxQueue
    cases looks : row.action.aaaCode with
    | some code =>
      rw [Option.bind_some, looks] at head
      rw [(perform_aaa config machine.data looks head).1]
      by_cases request : code = codeRequest
      · have continued : row.action = .aaaContinue := by
          rw [request] at looks
          revert looks
          cases row.action <;> decide
        obtain rfl := takes.event_eq (continues continued)
        rw [EventMachine.pending_raised takes.raised] at before
        omega
      · rw [requests_tail request head]
        omega
    | none =>
      -- `AcDiscard3` takes the head without looking at it.
      by_cases third : row.action = .discard3
      · rcases discards third with named | named
        · obtain rfl := takes.event_eq named
          have none := matched.discards
          rw [EventMachine.pending_raised takes.raised] at none
          exact absurd none (Nat.succ_ne_zero _)
        · obtain rfl := takes.event_eq named
          rw [EventMachine.pending_raised takes.raised] at before
          rw [third, acDiscard3_tail config machine.data]
          omega
      · have untaken : row.action.takesAaa = false := by
          revert looks third
          cases row.action <;> decide
        rw [effect.kept.aaaRxQueue untaken]
        omega
  · rw [machine.pending_react row.nextState discard (unnotified (by decide))]
    have before := matched.discards
    have fewer := EventMachine.pending_le machine .sgDiscard
    omega

theorem Matched.notify {data : AuthData} {event : AuthEvent} (matched : Matched machine)
    (other : event ≠ .rxMsg ∧ event ≠ .sgAaaContinue ∧ event ≠ .sgDiscard)
    (rxQueue : data.rxQueue = machine.data.rxQueue)
    (aaaRxQueue : AuthSwitch.requests machine.data.aaaRxQueue ≤ AuthSwitch.requests data.aaaRxQueue) :
    Matched (EventMachine.notify { machine with data } event) := by
  have same {named : AuthEvent} (different : event ≠ named) :
      (EventMachine.notify { machine with data } event).pending named = machine.pending named := by
    rw [EventMachine.pending_notify, List.count_eq_zero.mpr (fun mem => different (List.mem_singleton.mp mem).symm)]
    rfl
  constructor
  · rw [same other.1]
    show _ = data.rxQueue.length
    rw [rxQueue, matched.rxMsg]
  · rw [same other.2.1]
    exact Nat.le_trans matched.requests aaaRxQueue
  · rw [same other.2.2]
    exact matched.discards

theorem Matched.receive (matched : Matched machine) (msg : EapMessage) : Matched (receive machine msg) := by
  have pending (event : AuthEvent) : (AuthSwitch.receive machine msg).pending event =
    machine.pending event + [AuthEvent.rxMsg].count event := EventMachine.pending_notify _ _ _
  constructor
  · rw [pending, matched.rxMsg, List.count_singleton_self]
    show machine.data.rxQueue.length + 1 = (machine.data.rxQueue ++ [msg]).length
    rw [List.length_append, List.length_singleton]
  · rw [pending]
    exact matched.requests
  · rw [pending]
    exact matched.discards

theorem Matched.aaa (matched : Matched machine) (report : AaaReport) (msg : Option EapMessage)
    (announced : Announced config machine (.aaa report msg)) : Matched (aaa config machine report msg) := by
  unfold AuthSwitch.aaa
  split
  case isFalse => exact matched
  case isTrue takes =>
    have longer : AuthSwitch.requests machine.data.aaaRxQueue ≤
        AuthSwitch.requests (machine.data.aaaRxQueue ++ msg.toList) := by
      unfold AuthSwitch.requests
      rw [List.countP_append]
      exact Nat.le_add_right _ _
    cases report with
    | success aaaKey =>
      have other : AuthEvent.sgAaaSuccess ≠ .rxMsg ∧ AuthEvent.sgAaaSuccess ≠ .sgAaaContinue ∧
        AuthEvent.sgAaaSuccess ≠ .sgDiscard := by decide
      exact matched.notify other rfl longer
    | failure =>
      have other : AuthEvent.sgAaaFailure ≠ .rxMsg ∧ AuthEvent.sgAaaFailure ≠ .sgAaaContinue ∧
        AuthEvent.sgAaaFailure ≠ .sgDiscard := by decide
      exact matched.notify other rfl longer
    | continued =>
      cases msg with
      | none =>
        unfold accepted at takes
        rw [Bool.and_eq_true] at takes
        cases takes.2
      | some msg =>
        have request : msg.code = codeRequest := announced
        have pending (data : AuthData) (event : AuthEvent) :
            (EventMachine.notify { machine with data } .sgAaaContinue).pending event =
              machine.pending event + [AuthEvent.sgAaaContinue].count event := EventMachine.pending_notify _ _ _
        constructor
        · rw [AaaReport.authEvent, pending]
          exact matched.rxMsg
        · rw [AaaReport.authEvent, pending]
          show _ ≤ (machine.data.aaaRxQueue ++ [msg]).countP _
          rw [List.countP_append, List.countP_singleton, request, if_pos BEq.rfl, List.count_singleton_self]
          exact Nat.succ_le_succ matched.requests
        · rw [AaaReport.authEvent, pending]
          exact matched.discards

theorem Matched.serve (matched : Matched machine) : Matched machine.serve := by
  have data : machine.serve.data = machine.data := machine.serve_elim rfl fun _ _ _ _ => rfl
  constructor
  · rw [machine.pending_serve, data]
    exact matched.rxMsg
  · rw [machine.pending_serve, data]
    exact matched.requests
  · rw [machine.pending_serve]
    exact matched.discards

theorem Matched.method (matched : Matched machine) (turn : MethodTurn) : Matched (method config machine turn) := by
  unfold AuthSwitch.method
  split
  · exact matched
  · split
    · exact ⟨matched.rxMsg, matched.requests, matched.discards⟩
    · have same {data : AuthData} {event : AuthEvent} (other : event ≠ .sgValidResp ∧ event ≠ .sgInvalidResp) :
          EventMachine.pending { machine with
            data, events := machine.events ++ (turn.notified.map (·.authEvent)).toList } event = machine.pending event := by
        have unreported : event ∉ (turn.notified.map (·.authEvent)).toList := by
          intro mem
          cases reported : turn.notified with
          | none =>
            rw [reported] at mem
            cases mem
          | some report =>
            rw [reported] at mem
            cases report with
            | valid => exact other.1 (List.mem_singleton.mp mem)
            | invalid => exact other.2 (List.mem_singleton.mp mem)
        unfold EventMachine.pending
        rw [← List.append_assoc, List.count_append, List.count_eq_zero.mpr unreported, Nat.add_zero]
      constructor
      · rw [same (by decide)]
        exact matched.rxMsg
      · rw [same (by decide)]
        exact matched.requests
      · rw [same (by decide)]
        exact matched.discards

theorem Matched.restart (matched : Matched machine) : Matched ((program config).start machine) :=
  ⟨matched.rxMsg, matched.requests, matched.discards⟩

theorem Matched.start (matched : Matched machine) : Matched (start config machine) := by
  have kept : (deleteMethodStateMachine machine.data).rxQueue = machine.data.rxQueue ∧
      (deleteMethodStateMachine machine.data).aaaRxQueue = machine.data.aaaRxQueue := by
    unfold deleteMethodStateMachine
    split <;> exact ⟨rfl, rfl⟩
  have opened {data : AuthData} (rxQueue : data.rxQueue = machine.data.rxQueue)
      (aaaRxQueue : data.aaaRxQueue = machine.data.aaaRxQueue) :
      Matched (EventMachine.notify { (program config).start machine with data } .sgRestart) :=
    matched.restart.notify (by decide) rxQueue (Nat.le_of_eq (congrArg AuthSwitch.requests aaaRxQueue.symm))
  unfold AuthSwitch.start
  split
  · exact opened kept.1 kept.2
  · exact opened rfl rfl

theorem Matched.startBackend (matched : Matched machine) (msg : Option EapMessage) :
    Matched (startBackend config machine msg) := by
  unfold AuthSwitch.startBackend
  split
  · exact matched.restart.notify (by decide) rfl (Nat.le_refl _)
  · exact matched

theorem Matched.drop {event : AuthEvent} (matched : Matched machine) (raised : machine.raised = some event)
    (other : event ≠ .rxMsg) : Matched { machine with raised := none } := by
  have before (named : AuthEvent) : EventMachine.pending { machine with raised := none } named =
    machine.events.count named := rfl
  have fewer := EventMachine.pending_le machine
  constructor
  · rw [before, ← EventMachine.pending_other _ raised other]
    exact matched.rxMsg
  · rw [before]
    exact Nat.le_trans (fewer _) matched.requests
  · rw [before]
    exact Nat.le_zero.mp (Nat.le_trans (fewer _) (Nat.le_of_eq matched.discards))

theorem Matched.take {input : Input} (matched : Matched machine) (announced : Announced config machine input) :
    Matched (take config machine input) := by
  cases input with
  | start => exact matched.start
  | startBackend msg => exact matched.startBackend msg
  | receive msg => exact matched.receive msg
  | handle =>
    show Matched ((program config).handle machine).1
    rcases (program config).handle_cases machine with ⟨_, same⟩ | ⟨event, raised, dropped, same⟩ | ⟨event, row, takes⟩
    · rw [same]
      exact matched
    · rw [same]
      apply matched.drop raised
      intro message
      have acts := announced.1 (message ▸ raised)
      rw [(program config).acting_dropped raised dropped] at acts
      cases acts
    · rw [takes.handle]
      exact taken_matched matched takes announced
  | serve => exact matched.serve
  | method turn => exact matched.method turn
  | timeout =>
    have other : AuthEvent.timeout ≠ .rxMsg ∧ AuthEvent.timeout ≠ .sgAaaContinue ∧ AuthEvent.timeout ≠ .sgDiscard := by
      decide
    exact matched.notify other rfl (Nat.le_refl _)
  | aaa report msg => exact matched.aaa report msg announced

theorem Matched.inStep {input : Input} (matched : Matched machine) (announced : Announced config machine input) :
    InStep config machine input := by
  refine ⟨matched.unblocked input, ?_⟩
  rintro ⟨_, _, nothing, quiet⟩
  have next := (matched.take announced).rxMsg
  rw [EventMachine.pending, nothing, quiet] at next
  exact List.length_eq_zero_iff.mp next.symm

theorem runs_in_step {inputs : List Input} (constructed : Constructed machine)
    (announced : Stepwise (take config) (Announced config) machine inputs) :
    Stepwise (take config) (InStep config) machine inputs :=
  announced.imp (fun _ _ matched _ meets => matched.inStep meets) (fun _ _ matched _ meets => matched.take meets)
    constructed.matched fun _ _ => trivial

end Invariant

end AuthSwitch

end OpenDiameter.Eap
