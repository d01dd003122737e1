import OpenDiameter.Eap.PeerActions
import OpenDiameter.Foundation.Runs

/-! The received messages of an EAP peer and the events that announce them.

A message that is looked for after another has been answered is announced once more,
also when its own event has not been handled yet.
-/

set_option autoImplicit false

namespace OpenDiameter.Eap.PeerSwitch

open Foundation OpenDiameter.Framework

section Steps

variable (config : PeerConfig) (machine : Machine) (input : Input)

def Waits : Prop :=
  machine.running = true ∧ machine.state = .idle ∧ machine.raised = none ∧ machine.events = []

def InStep : Prop :=
  .blocked ∉ callbacks config machine input ∧
    (Waits (take config machine input) → (take config machine input).data.rxQueue = [])

/-- When `AcCheckRxQueue` runs, a message that is queued has lost its event; when the
switch becomes idle first, none has. -/
def Announced : Prop :=
  input = .handle →
    ((program config).acting machine = some .checkRxQueue →
        machine.pending .rxMsg < machine.data.rxQueue.length ∨ machine.data.rxQueue = []) ∧
      ((program config).acting machine = some .startTimer →
        machine.data.rxQueue.length ≤ machine.pending .rxMsg)

instance : Decidable (Waits machine) := inferInstanceAs (Decidable (_ ∧ _))

instance : Decidable (InStep config machine input) := inferInstanceAs (Decidable (_ ∧ (_ → _)))

instance : Decidable (Announced config machine input) := inferInstanceAs (Decidable (_ → _))

end Steps

section Rows

theorem receiveMsg_rows : ∀ row ∈ peerSwitchStateTable, row.action = .receiveMsg →
    row.event = some .rxMsg ∧ row.nextState ≠ .idle := by
  decide +kernel

theorem idle_rows : ∀ row ∈ peerSwitchStateTable,
    (row.nextState = .idle → row.action = .startTimer ∨ row.action = .checkRxQueue ∨
        row.prevState = .idle ∧ row.event = some .timeout) ∧
      (row.action = .checkRxQueue ∨ row.action = .startTimer → row.event = some .uct) := by
  decide +kernel

theorem found_rxMsg : peerSwitchStateTable.findStateTableEntry .idle .rxMsg =
    some (peerEntry .idle .rxMsg .received .receiveMsg) := by
  decide +kernel

end Rows

section Invariant

variable {config : PeerConfig} {machine : Machine}

/-- No event announces a message that is not there, and an idle switch is told of every message. -/
structure Matched (machine : Machine) : Prop where
  enough : machine.pending .rxMsg ≤ machine.data.rxQueue.length
  told : machine.running = true → machine.state = .idle →
    machine.data.rxQueue.length ≤ machine.pending .rxMsg ∨ machine.raised = some .rxMsg

theorem Constructed.matched (constructed : Constructed machine) : Matched machine where
  enough := by
    rw [EventMachine.pending, constructed.raised, constructed.events]
    exact Nat.zero_le _
  told running := by
    rw [constructed.running] at running
    cases running

theorem Performed.queue {sm : PeerData} {ac : PeerAction} {reaction : PeerReaction}
    (performed : Performed sm ac reaction) :
    (ac ≠ .receiveMsg → reaction.data.rxQueue = sm.rxQueue) ∧
      (ac ≠ .checkRxQueue → reaction.raised ≠ some .rxMsg) ∧
        (ac = .receiveMsg → reaction.data.rxQueue = sm.rxQueue.tail) := by
  cases performed with
  | success => exact ⟨fun _ => rfl, fun _ => nofun, nofun⟩
  | blocked queue =>
    refine ⟨fun _ => rfl, fun _ => nofun, fun _ => ?_⟩
    rw [queue]
    rfl
  | received queue confined =>
    refine ⟨fun other => absurd rfl other, fun _ => confined.rxMsg, fun _ => ?_⟩
    rw [confined.kept.rxQueue, queue]
    rfl
  | checked =>
    refine ⟨fun _ => ?_, fun other => absurd rfl other, nofun⟩
    unfold acCheckRxQueue
    split <;> rfl
  | confined taken unchecked confined =>
    exact ⟨fun _ => confined.kept.rxQueue, fun _ => confined.rxMsg, fun receives => absurd receives taken⟩

theorem Performed.waits {sm : PeerData} {ac : PeerAction} {reaction : PeerReaction}
    (performed : Performed sm ac reaction) (blocked : .blocked ∈ reaction.callbacks) :
    ac = .receiveMsg ∧ sm.rxQueue = [] := by
  cases performed with
  | success => exact nomatch blocked
  | blocked queue => exact ⟨rfl, queue⟩
  | checked =>
    unfold acCheckRxQueue at blocked
    split at blocked <;> cases blocked
  | received _ confined | confined _ _ confined => exact absurd blocked confined.blocked

theorem Matched.unblocked (matched : Matched machine) (input : Input) : .blocked ∉ callbacks config machine input := by
  cases input with
  | handle =>
    show .blocked ∉ ((program config).handle machine).2
    refine (program config).handle_elim machine (fun _ => List.not_mem_nil) List.not_mem_nil ?_
    intro event row takes blocked
    obtain ⟨receives, empty⟩ := (performed config machine.data row.action).waits blocked
    have message := takes.event_eq (receiveMsg_rows row takes.mem receives).1
    have enough := matched.enough
    rw [EventMachine.pending_raised (message ▸ takes.raised), empty] at enough
    exact Nat.not_succ_le_zero _ enough
  | start | receive | serve | method | timeout | identity => exact List.not_mem_nil

theorem dropped_matched {event : PeerEvent} (matched : Matched machine) (raised : machine.raised = some event)
    (dropped : machine.running = false ∨ peerSwitchStateTable.findStateTableEntry machine.state event = none) :
    Matched { machine with raised := none } where
  enough := Nat.le_trans (EventMachine.pending_le machine .rxMsg) matched.enough
  told running idle := by
    have other : event ≠ .rxMsg := by
      intro message
      rcases dropped with stopped | unfound
      · rw [stopped] at running
        cases running
      · rw [idle, message] at unfound
        cases unfound.symm.trans found_rxMsg
    apply Or.inl
    rcases matched.told running idle with told | again
    · rw [EventMachine.pending_other _ raised other] at told
      exact told
    · exact absurd (Option.some.inj (raised.symm.trans again)) other

theorem checked_matched (matched : Matched machine) (unannounced : machine.raised = some .uct)
    (lost : machine.pending .rxMsg < machine.data.rxQueue.length ∨ machine.data.rxQueue = []) (state : PeerState) :
    Matched (machine.react state (acCheckRxQueue machine.data)) := by
  have pending := EventMachine.pending_other PeerEvent.rxMsg unannounced nofun
  have enough := matched.enough
  rw [pending] at lost enough
  unfold acCheckRxQueue
  split
  case isTrue empty =>
    have none : machine.data.rxQueue = [] := List.isEmpty_iff.mp empty
    have after : (machine.react state ({ data := machine.data } : PeerReaction)).pending .rxMsg =
      machine.events.count .rxMsg := machine.pending_react state nofun nofun
    constructor
    · rw [after]
      exact enough
    · intro _ _
      apply Or.inl
      show machine.data.rxQueue.length ≤ _
      rw [none]
      exact Nat.zero_le _
  case isFalse some =>
    have after : (machine.react state (raise machine.data .rxMsg)).pending PeerEvent.rxMsg =
        machine.events.count .rxMsg + 1 := by
      rw [EventMachine.pending_raised rfl]
      show (machine.events ++ []).count PeerEvent.rxMsg + 1 = _
      rw [List.append_nil]
    constructor
    · rw [after]
      rcases lost with lost | empty
      · exact lost
      · exact absurd (List.isEmpty_iff.mpr empty) some
    · exact fun _ _ => Or.inr rfl

theorem taken_matched {event : PeerEvent} {row : StateTableEntry PeerState PeerEvent PeerAction}
    (matched : Matched machine) (takes : (program config).Takes machine event row)
    (announced : Announced config machine .handle) :
    Matched (machine.react row.nextState (perform config machine.data row.action)) := by
  obtain ⟨checks, starts⟩ := announced rfl
  rw [takes.acting] at checks starts
  have performs := performed config machine.data row.action
  obtain ⟨queue, unraised, taken⟩ := performs.queue
  obtain ⟨becomes, unnamed⟩ := idle_rows row takes.mem
  have unnotified : .rxMsg ∉ (perform config machine.data row.action).notified := by
    intro mem
    rcases performs.notified _ mem with same | same <;> cases same
  have before := EventMachine.pending_le machine .rxMsg
  have enough := matched.enough
  -- Two actions look at the queue: one takes its head, the other asks whether there is one.
  by_cases receives : row.action = .receiveMsg
  · obtain ⟨named, leaves⟩ := receiveMsg_rows row takes.mem receives
    rw [EventMachine.pending_raised (takes.raised_named named)] at enough
    have after := machine.pending_react row.nextState (unraised (receives ▸ nofun)) unnotified
    constructor
    · rw [after]
      show _ ≤ (perform config machine.data row.action).data.rxQueue.length
      rw [taken receives, List.length_tail]
      omega
    · exact fun _ idle => absurd idle leaves
  · have kept : (perform config machine.data row.action).data.rxQueue = machine.data.rxQueue := queue receives
    by_cases check : row.action = .checkRxQueue
    · have uct := takes.event_eq (unnamed (Or.inl check))
      rw [check]
      exact checked_matched matched (uct ▸ takes.raised) (checks (congrArg some check)) row.nextState
    · have after := machine.pending_react row.nextState (unraised check) unnotified
      -- A row into `idle` starts the machine, checks the queue, or stays there for another event.
      have told : row.nextState = .idle → machine.data.rxQueue.length ≤ machine.events.count .rxMsg := by
        intro idle
        rcases becomes idle with start | checks | ⟨prev, named⟩
        · obtain rfl := takes.event_eq (unnamed (Or.inr start))
          have all := starts (congrArg some start)
          rw [EventMachine.pending_other PeerEvent.rxMsg takes.raised nofun] at all
          exact all
        · exact absurd checks check
        · obtain rfl := takes.event_eq named
          rcases matched.told takes.running (takes.prevState.symm.trans prev) with told | again
          · rw [EventMachine.pending_other PeerEvent.rxMsg takes.raised nofun] at told
            exact told
          · rw [takes.raised] at again
            cases again
      constructor
      · rw [after]
        show _ ≤ (perform config machine.data row.action).data.rxQueue.length
        rw [kept]
        omega
      · intro _ idle
        apply Or.inl
        show (perform config machine.data row.action).data.rxQueue.length ≤ _
        rw [after, kept]
        exact told idle

theorem Matched.notify {event : PeerEvent} (matched : Matched machine) (other : event ≠ .rxMsg) :
    Matched (machine.notify event) := by
  have same : (machine.notify event).pending .rxMsg = machine.pending .rxMsg := by
    rw [machine.pending_notify, List.count_eq_zero.mpr (fun mem => other (List.mem_singleton.mp mem).symm), Nat.add_zero]
  constructor
  · rw [same]
    exact matched.enough
  · rw [same]
    exact matched.told

theorem Matched.receive (matched : Matched machine) (msg : EapMessage) : Matched (receive machine msg) := by
  have more : (PeerSwitch.receive machine msg).pending .rxMsg = machine.pending .rxMsg + 1 := EventMachine.pending_notify _ _ _
  have longer : (PeerSwitch.receive machine msg).data.rxQueue.length = machine.data.rxQueue.length + 1 :=
    List.length_append
  constructor
  · rw [more, longer]
    exact Nat.succ_le_succ matched.enough
  · intro running idle
    rw [more, longer]
    exact (matched.told running idle).imp_left Nat.succ_le_succ

theorem Matched.serve (matched : Matched machine) : Matched machine.serve := by
  have same := machine.pending_serve .rxMsg
  rcases machine.serve_cases with kept | ⟨event, rest, nothing, _, served⟩
  · rw [kept]
    exact matched
  · rw [served] at same ⊢
    constructor
    · rw [same]
      exact matched.enough
    · intro running idle
      rw [same]
      apply Or.inl
      rcases matched.told running idle with told | again
      · exact told
      · rw [nothing] at again
        cases again

theorem Matched.method (matched : Matched machine) (turn : MethodTurn) : Matched (method machine turn) := by
  refine method_elim machine turn matched ?_
  intro msm nothing waiting asked
  have unreported {report : Option MethodReport} : .rxMsg ∉ (report.map (·.peerEvent)).toList := by
    intro mem
    rcases reported mem with same | same <;> cases same
  have same : ((turn.event.map (·.peerEvent)).toList ++
      (machine.events ++ (turn.notified.map (·.peerEvent)).toList)).count .rxMsg = machine.pending .rxMsg := by
    rw [List.count_append, List.count_append, List.count_eq_zero.mpr unreported, List.count_eq_zero.mpr unreported,
      EventMachine.pending, nothing, Nat.zero_add, Nat.add_zero]
    rfl
  constructor
  · show _ ≤ machine.data.rxQueue.length
    rw [EventMachine.pending, same]
    exact matched.enough
  · intro running idle
    apply Or.inl
    show machine.data.rxQueue.length ≤ _
    rw [EventMachine.pending, same]
    rcases matched.told running idle with told | again
    · exact told
    · rw [nothing] at again
      cases again

theorem Matched.start (matched : Matched machine) : Matched (start config machine) := by
  have kept : (PeerSwitch.start config machine).data.rxQueue = machine.data.rxQueue :=
    (deleteMethodStateMachine_kept { machine.data with policy := machine.data.policy.restart }).rxQueue
  have same : (PeerSwitch.start config machine).pending .rxMsg = machine.pending .rxMsg :=
    EventMachine.pending_notify _ _ _
  constructor
  · rw [kept, same]
    exact matched.enough
  · exact fun _ idle => nomatch idle

theorem Matched.take {input : Input} (matched : Matched machine) (announced : Announced config machine input) :
    Matched (take config machine input) := by
  cases input with
  | start => exact matched.start
  | receive msg => exact matched.receive msg
  | handle =>
    show Matched ((program config).handle machine).1
    rcases (program config).handle_cases machine with ⟨_, same⟩ | ⟨event, raised, dropped, same⟩ | ⟨event, row, takes⟩
    · rw [same]
      exact matched
    · rw [same]
      exact dropped_matched matched raised dropped
    · rw [takes.handle]
      exact taken_matched matched takes announced
  | serve => exact matched.serve
  | method turn => exact matched.method turn
  | timeout timer => exact matched.notify (by cases timer <;> exact nofun)
  | identity answer => exact ⟨matched.enough, matched.told⟩

theorem Matched.inStep {input : Input} (matched : Matched machine) (announced : Announced config machine input) :
    InStep config machine input := by
  refine ⟨matched.unblocked input, ?_⟩
  rintro ⟨running, idle, nothing, quiet⟩
  have next := matched.take announced
  rcases next.told running idle with told | again
  · rw [EventMachine.pending, nothing, quiet] at told
    exact List.length_eq_zero_iff.mp (Nat.le_zero.mp told)
  · rw [nothing] at again
    cases again

theorem runs_in_step {inputs : List Input} (constructed : Constructed machine)
    (announced : Stepwise (take config) (Announced config) machine inputs) :
    Stepwise (take config) (InStep config) machine inputs :=
  announced.imp (fun _ _ matched _ meets => matched.inStep meets) (fun _ _ matched _ meets => matched.take meets)
    constructed.matched fun _ _ => trivial

end Invariant

end OpenDiameter.Eap.PeerSwitch
