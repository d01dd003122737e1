import OpenDiameter.Eap.AuthOutcome

/-! How an EAP session ends once the outcomes of its methods lead to a failure leaf. -/

set_option autoImplicit false

namespace OpenDiameter.Eap.AuthSwitch

open Foundation OpenDiameter.Framework

section Due

/-- The switch is on its way to tell the application of failure. -/
inductive Due (machine : Machine) : Prop where
  | report {msm : AuthMethod} (state : machine.state = .integrityCheck)
      (found : machine.data.methodStateMachine = some msm) (ended : msm.isDone = true)
      (unasked : msm.asked = 0) (reported : reports machine = [.sgValidResp]) : Due machine
  | ended (state : machine.state = .methodResponse) (raised : machine.raised = some .sgEndMethod) : Due machine
  | nak (state : machine.state = .nak) (raised : machine.raised = some .uct) : Due machine
  | unsatisfied (state : machine.state = .selectAction)
      (raised : machine.raised = some .sgPolicyNotSatEndSess) : Due machine

variable {config : AuthConfig} {machine : Machine}

theorem decision_failure {sm : AuthData} (kind : config.kind ≠ .passthrough)
    (failure : sm.policy.currentPolicyElement = .finalFailure) : decision config sm = .failure := by
  have unsatisfied : sm.policy.isSatisfied = false := by
    rw [EapPolicy.isSatisfied, failure]
    rfl
  have none : (sm.policy.currentMethod config.heap).isNone = true := by
    rw [EapPolicy.currentMethod, failure]
    rfl
  unfold decision
  cases named : config.kind with
  | passthrough => exact absurd named kind
  | standalone | backend =>
    dsimp only
    rw [unsatisfied, none]
    rfl

theorem checked_due {event : AuthEvent} {prev : AuthState} (kind : config.kind ≠ .passthrough)
    (failure : machine.data.policy.currentPolicyElement = .finalFailure)
    (takes : (program config).Takes machine event (authEntry prev event .selectAction .doPolicyCheck)) :
    ((program config).handle machine).1.state = .selectAction ∧
      ((program config).handle machine).1.raised = some .sgPolicyNotSatEndSess := by
  rw [takes.handle]
  refine ⟨rfl, ?_⟩
  show (acDoPolicyCheck config machine.data).raised = _
  rw [acDoPolicyCheck, decision_failure kind failure]
  rfl

theorem other_raised {event : AuthEvent} (reported : reports machine = [.sgValidResp])
    (raised : machine.raised = some event) (other : event ≠ .sgValidResp) :
    event.isReport = false ∧ machine.events.filter (·.isReport) = [.sgValidResp] := by
  rw [reports_raised raised] at reported
  have unreported : event.isReport = false := by
    cases event with
    | sgValidResp => exact absurd rfl other
    | sgInvalidResp => cases reported
    | _ => rfl
  rw [List.filter_cons_of_neg (by rw [unreported]; exact Bool.false_ne_true), List.filter_nil,
    List.nil_append] at reported
  exact ⟨unreported, reported⟩

/-- While it waits for the report, the switch does nothing else but discard messages. -/
theorem discards_quietly {event : AuthEvent} {row : StateTableEntry AuthState AuthEvent AuthAction}
    (kind : config.kind ≠ .passthrough) (state : machine.state = .integrityCheck)
    (takes : (program config).Takes machine event row) (other : event.isReport = false) :
    row.nextState = .integrityCheck ∧ row.action.turnsMethod = false ∧
      (perform config machine.data row.action).raised = none ∧
        (perform config machine.data row.action).notified = [] := by
  have unnamed {report : AuthEvent} (isReport : report.isReport = true) : row.event ≠ some report := by
    intro named
    rw [takes.event_eq named, isReport] at other
    cases other
  rcases integrityCheck_rows config.kind row takes.mem (takes.prevState.trans state) with
    named | named | ⟨next, null | discards⟩
  · exact absurd named (unnamed rfl)
  · exact absurd named (unnamed rfl)
  · rw [null]
    exact ⟨next, rfl, rfl, rfl⟩
  · rw [discards]
    have unraised : (acDiscard2 config machine.data).raised = none ∧ (acDiscard2 config machine.data).notified = [] := by
      unfold acDiscard2
      dsimp only
      split
      · exact ⟨rfl, rfl⟩
      · exact ⟨if_neg kind, rfl⟩
    exact ⟨next, rfl, unraised.1, unraised.2⟩

theorem report_handled (kind : config.kind ≠ .passthrough) (running : machine.running = true) {msm : AuthMethod}
    (state : machine.state = .integrityCheck) (found : machine.data.methodStateMachine = some msm)
    (ended : msm.isDone = true) (reported : reports machine = [.sgValidResp]) :
    ((program config).handle machine).1.state = .methodResponse ∧
        ((program config).handle machine).1.raised = some .sgEndMethod ∨
      ((program config).handle machine).1.state = .integrityCheck ∧
        ((program config).handle machine).1.raised = none ∧
          ((program config).handle machine).1.events = machine.events ∧
            ((program config).handle machine).1.data.methodStateMachine = some msm ∧
              reports ((program config).handle machine).1 = [.sgValidResp] := by
  have finds := found_valid config.kind
  rcases (program config).handle_cases machine with ⟨nothing, same⟩ | ⟨event, raised, dropped, same⟩ | ⟨event, row, takes⟩
  · rw [same]
    exact Or.inr ⟨state, nothing, rfl, found, reported⟩
  · rw [same]
    have other : event ≠ .sgValidResp := by
      intro valid
      rcases dropped with idle | unfound
      · rw [running] at idle
        cases idle
      · rw [state, valid] at unfound
        cases unfound.symm.trans finds
    exact Or.inr ⟨state, rfl, rfl, found, (other_raised reported raised other).2⟩
  · rw [takes.handle]
    by_cases valid : event = .sgValidResp
    · have here := takes.found
      rw [state, valid] at here
      have known : row = authEntry .integrityCheck .sgValidResp .methodResponse .methodResponse :=
        Option.some.inj (here.symm.trans finds)
      rw [known]
      refine Or.inl ⟨rfl, ?_⟩
      show (acMethodResponse config machine.data).raised = _
      rw [acMethodResponse, found]
      dsimp only
      rw [ended, if_pos rfl]
      rfl
    · obtain ⟨unreported, waiting⟩ := other_raised reported takes.raised valid
      obtain ⟨next, steady, unraised, unnotified⟩ := discards_quietly kind state takes unreported
      refine Or.inr ⟨next, unraised, ?_, ?_, ?_⟩
      · show machine.events ++ (perform config machine.data row.action).notified = machine.events
        rw [unnotified, List.append_nil]
      · exact ((perform_effect config machine.data row.action).kept.methodStateMachine steady).trans found
      · exact (reports_react config machine row.nextState row.action).trans waiting

/-- Nothing but the thread itself moves a switch on its way. -/
theorem Due.unawaited (due : Due machine) : methodAwaited machine = none := by
  cases awaited : methodAwaited machine with
  | none => rfl
  | some msm =>
    obtain ⟨nothing, named, some⟩ := awaited_spec awaited
    cases due with
    | report _ found _ unasked _ =>
      rw [found] at named
      rw [Option.some.inj named] at unasked
      exact absurd unasked some
    | ended _ raised | nak _ raised | unsatisfied _ raised =>
      rw [nothing] at raised
      cases raised

theorem Due.notify {data : AuthData} {event : AuthEvent} (due : Due machine) (other : event.isReport = false)
    (same : data.methodStateMachine = machine.data.methodStateMachine) :
    Due (EventMachine.notify { machine with data } event) := by
  cases due with
  | report state found ended unasked reported =>
    exact .report state (same.trans found) ended unasked ((reports_notify { machine with data } other).trans reported)
  | ended state raised => exact .ended state raised
  | nak state raised => exact .nak state raised
  | unsatisfied state raised => exact .unsatisfied state raised

theorem Due.serve (due : Due machine) : Due machine.serve := by
  rcases machine.serve_cases with same | ⟨event, rest, nothing, _, same⟩
  · rw [same]
    exact due
  · cases due with
    | report state found ended unasked reported =>
      have after := (reports_serve machine).trans reported
      rw [same] at after ⊢
      exact .report state found ended unasked after
    | ended _ raised | nak _ raised | unsatisfied _ raised =>
      rw [nothing] at raised
      cases raised

theorem takes_found {event : AuthEvent} {prev : AuthState} {row : StateTableEntry AuthState AuthEvent AuthAction}
    (running : machine.running = true) (state : machine.state = prev) (raised : machine.raised = some event)
    (found : config.kind.table.findStateTableEntry prev event = some row) :
    (program config).Takes machine event row :=
  ⟨raised, running, state ▸ found⟩

theorem Due.handle (kind : config.kind ≠ .passthrough) (running : machine.running = true)
    (failure : machine.data.policy.currentPolicyElement = .finalFailure) (due : Due machine) :
    Due ((program config).handle machine).1 ∨ tellsFailure ((program config).handle machine).2 = true := by
  cases due with
  | report state found ended unasked reported =>
    rcases report_handled kind running state found ended reported with ⟨next, raised⟩ | ⟨next, _, _, found', reported'⟩
    · exact Or.inl (.ended next raised)
    · exact Or.inl (.report next found' ended unasked reported')
  | ended state raised =>
    have checked := checked_due kind failure (takes_found running state raised (found_endMethod config.kind))
    exact Or.inl (.unsatisfied checked.1 checked.2)
  | nak state raised =>
    have checked := checked_due kind failure (takes_found running state raised (found_nak config.kind))
    exact Or.inl (.unsatisfied checked.1 checked.2)
  | unsatisfied state raised =>
    rw [(takes_found running state raised (found_unsatisfied config.kind)).handle]
    exact Or.inr rfl

end Due

section Settling

variable {config : AuthConfig} {session : Session}

/-- A running switch that passes nothing through, at a failure leaf. -/
structure Fails (config : AuthConfig) (machine : Machine) : Prop where
  kind : config.kind ≠ .passthrough
  running : machine.running = true
  failure : machine.data.policy.currentPolicyElement = .finalFailure

theorem Fails.take {machine : Machine} (fails : Fails config machine) (input : Input) (later : continues input = true)
    (running : (take config machine input).running = machine.running) : Fails config (take config machine input) where
  kind := fails.kind
  running := running.trans fails.running
  failure := by
    rw [take_policy config machine later]
    cases outcome config machine input with
    | none => exact fails.failure
    | some sw =>
      have leaf : EapPolicy.element config.heap machine.data.policy.currentPolicyElement = none := by
        rw [fails.failure]
        rfl
      show (machine.data.policy.update config.heap sw).currentPolicyElement = .finalFailure
      rw [EapPolicy.update_leaf sw leaf]
      exact fails.failure

theorem Fails.handle (fails : Fails config session.machine) :
    Fails config (session.take config .handle).machine :=
  Fails.take fails .handle rfl ((program config).running_handle session.machine)

theorem Fails.serve (fails : Fails config session.machine) : Fails config (session.take config .serve).machine := by
  refine Fails.take fails .serve rfl ?_
  show session.machine.serve.running = session.machine.running
  refine session.machine.serve_elim rfl fun _ _ _ _ => rfl

theorem settle_failed {count : Nat} (failed : session.failed = true) : (session.settle config count).failed = true := by
  induction count generalizing session with
  | zero => exact failed
  | succ count ih =>
    apply ih
    show (session.failed || _ || _) = true
    rw [failed, Bool.true_or, Bool.true_or]

theorem settle_raised {event : AuthEvent}
    (raised : ((program config).handle session.machine).1.raised = some event) :
    ((session.take config .handle).take config .serve).machine = ((program config).handle session.machine).1 :=
  EventMachine.serve_raised raised

theorem settles_of_unsatisfied (fails : Fails config session.machine) (state : session.machine.state = .selectAction)
    (raised : session.machine.raised = some .sgPolicyNotSatEndSess) (count : Nat) :
    (session.settle config (count + 1)).failed = true := by
  have told : tellsFailure ((program config).handle session.machine).2 = true := by
    rw [(takes_found fails.running state raised (found_unsatisfied config.kind)).handle]
    rfl
  show (((session.take config .handle).take config .serve).settle config count).failed = true
  apply settle_failed
  show (session.failed || tellsFailure ((program config).handle session.machine).2 || _) = true
  rw [told, Bool.or_true, Bool.true_or]

theorem settles_of_checked {prev : AuthState} {event : AuthEvent} (fails : Fails config session.machine)
    (takes : (program config).Takes session.machine event (authEntry prev event .selectAction .doPolicyCheck))
    (count : Nat) : (session.settle config (count + 2)).failed = true := by
  have checked := checked_due fails.kind fails.failure takes
  have moved := settle_raised checked.2
  show ((((session.take config .handle).take config .serve)).settle config (count + 1)).failed = true
  apply settles_of_unsatisfied
  · exact fails.handle.serve
  · rw [moved]
    exact checked.1
  · rw [moved]
    exact checked.2

theorem settles_of_report {count : Nat} {msm : AuthMethod} (fails : Fails config session.machine)
    (state : session.machine.state = .integrityCheck) (found : session.machine.data.methodStateMachine = some msm)
    (ended : msm.isDone = true) (reported : reports session.machine = [.sgValidResp])
    (enough : session.machine.events.length + 3 ≤ count) : (session.settle config count).failed = true := by
  induction count generalizing session with
  | zero => omega
  | succ count ih =>
    rcases report_handled fails.kind fails.running state found ended reported with
      ⟨next, raised⟩ | ⟨next, unraised, events, found', reported'⟩
    · have moved := settle_raised raised
      have state' : ((session.take config .handle).take config .serve).machine.state = .methodResponse := by
        rw [moved]
        exact next
      have raised' : ((session.take config .handle).take config .serve).machine.raised = some .sgEndMethod := by
        rw [moved]
        exact raised
      obtain ⟨fewer, rfl⟩ : ∃ fewer, count = fewer + 2 := ⟨count - 2, by omega⟩
      exact settles_of_checked fails.handle.serve
        (takes_found fails.handle.serve.running state' raised' (found_endMethod config.kind)) fewer
    · cases queue : session.machine.events with
      | nil =>
        rw [reports, unraised, events, queue] at reported'
        cases reported'
      | cons event rest =>
        have serves : ((program config).handle session.machine).1.serve =
            { ((program config).handle session.machine).1 with raised := some event, events := rest } := by
          rw [EventMachine.serve, unraised, events.trans queue]
        have moved : ((session.take config .handle).take config .serve).machine =
          { ((program config).handle session.machine).1 with raised := some event, events := rest } := serves
        have after : reports ((session.take config .handle).take config .serve).machine = [.sgValidResp] :=
          (reports_serve _).trans reported'
        apply ih fails.handle.serve
        · rw [moved]
          exact next
        · rw [moved]
          exact found'
        · exact after
        · rw [moved]
          rw [queue, List.length_cons] at enough
          exact Nat.le_of_succ_le_succ (by omega)

/-- A switch on its way tells of failure once what is pending is served. -/
theorem Due.settles (fails : Fails config session.machine) (due : Due session.machine) :
    (session.settled config).failed = true := by
  cases due with
  | report state found ended _ reported => exact settles_of_report fails state found ended reported (Nat.le_refl _)
  | ended state raised =>
    exact settles_of_checked fails (takes_found fails.running state raised (found_endMethod config.kind)) _
  | nak state raised =>
    exact settles_of_checked fails (takes_found fails.running state raised (found_nak config.kind)) _
  | unsatisfied state raised => exact settles_of_unsatisfied fails state raised _

end Settling

section Tracking

variable {config : AuthConfig} {tree : PolicyHeap} {root : PolicyElement} {session : Session} {input : Input}

structure Tracked (config : AuthConfig) (tree : PolicyHeap) (session : Session) : Prop where
  walked : Walked config tree session
  signalled : Signalled config tree session
  owed : session.leads tree = .finalFailure → session.failed = true ∨ Due session.machine

theorem Tracked.fails (tracked : Tracked config tree session) (leads : session.leads tree = .finalFailure) :
    Fails config session.machine where
  kind passes := tracked.walked.passing passes leads
  running := tracked.signalled.running
  failure := tracked.walked.current.trans leads

theorem due_of_outcome (walked : Walked config tree session) (signalled : Signalled config tree session)
    (regular : Regular config tree session input) {sw : PolicySwitch}
    (taken : outcome config session.machine input = some sw)
    (leads : tree.follow (session.leads tree) sw = .finalFailure) :
    Due (take config session.machine input) := by
  have reports := ((walked.next regular taken).2 leads).2
  cases input with
  -- The method is done, so that its report is the only one that waits.
  | method turn =>
    cases awaited : methodAwaited session.machine with
    | none =>
      rw [outcome, awaited, Option.bind_none] at taken
      cases taken
    | some msm =>
      rw [outcome, awaited, Option.bind_some] at taken
      obtain ⟨nothing, found, asked⟩ := awaited_spec awaited
      have one := signalled.paced.one
      rw [asked_eq found] at one
      have unreported : AuthSwitch.reports session.machine = [] := List.length_eq_zero_iff.mp (by omega)
      have here : session.machine.state = .integrityCheck ∧ turn.notified = some .valid := by
        simp only [reportsEnd, Bool.and_eq_true, beq_iff_eq] at reports
        exact reports
      show Due (method config session.machine turn)
      unfold method
      rw [awaited]
      dsimp only
      split at taken
      case isTrue => cases taken
      case isFalse unfinished =>
        rw [if_neg unfinished]
        refine .report here.1 rfl ?_ ?_ ?_
        · show turn.outcome.isSome = true
          rw [taken]
          rfl
        · show msm.asked - 1 = 0
          omega
        · show List.filter _ (session.machine.raised.toList ++ (session.machine.events ++ _)) = _
          rw [here.2, ← List.append_assoc, List.filter_append]
          exact congrArg (· ++ [AuthEvent.sgValidResp]) unreported
  -- A Nak on the last element of the policy leads to the failure.
  | handle =>
    have named : outcome config session.machine .handle =
      if (program config).acting session.machine = some .resetMethod ∧ session.machine.data.rxMessage.isSome then
        some .policyOnFailure else none := rfl
    rw [named] at taken
    split at taken
    case isFalse => cases taken
    case isTrue resets =>
      obtain ⟨event, row, takes, action⟩ := MachineProgram.takes_of_acting resets.1
      show Due ((program config).handle session.machine).1
      rw [takes.handle]
      apply Due.nak
      · exact nak_rows config.kind row takes.mem action
      · show (perform config session.machine.data row.action).raised = _
        rw [action]
        show (acResetMethod config session.machine.data).raised = _
        unfold acResetMethod
        split
        case h_1 missing =>
          rw [missing] at resets
          cases resets.2
        case h_2 => rfl
  | start | startBackend | receive | serve | timeout | aaa => cases taken

/-- A switch on its way stays on it until the application is told. -/
theorem Due.take {machine : Machine} (fails : Fails config machine) (due : Due machine)
    (later : continues input = true) :
    Due (take config machine input) ∨ tellsFailure (callbacks config machine input) = true := by
  cases input with
  | start | startBackend => cases later
  | receive msg => exact Or.inl (due.notify rfl rfl)
  | timeout => exact Or.inl (due.notify rfl rfl)
  | serve => exact Or.inl due.serve
  | handle => exact due.handle fails.kind fails.running fails.failure
  | method turn =>
    apply Or.inl
    show Due (method config machine turn)
    rw [method, due.unawaited]
    exact due
  | aaa report msg =>
    apply Or.inl
    show Due (aaa config machine report msg)
    unfold aaa
    split
    · refine due.notify ?_ rfl
      cases report <;> rfl
    · exact due

theorem Tracked.take (closed : tree.Tree root) (tracked : Tracked config tree session)
    (later : continues input = true) (regular : Regular config tree session input) :
    Tracked config tree (session.take config input) where
  walked := tracked.walked.take closed later regular
  signalled := tracked.signalled.take tracked.walked later
  owed leads := by
    have moved := leads_take config tree session later
    rw [moved] at leads
    cases taken : outcome config session.machine input with
    | some sw =>
      rw [taken] at leads
      exact Or.inr (due_of_outcome tracked.walked tracked.signalled regular taken leads)
    | none =>
      rw [taken] at leads
      have told (failure : tellsFailure (callbacks config session.machine input) = true) :
          (session.take config input).failed = true := by
        show (session.failed || tellsFailure (callbacks config session.machine input)) = true
        rw [failure, Bool.or_true]
      rcases tracked.owed leads with failed | due
      · apply Or.inl
        show (session.failed || _) = true
        rw [failed, Bool.true_or]
      · exact (due.take (tracked.fails leads) later).symm.imp_left told

theorem callbacks_handled (told : List AuthCallback) (tells : told = callbacks config session.machine input)
    (some : told ≠ []) : ∃ event row, (program config).Takes session.machine event row ∧
      told = (perform config session.machine.data row.action).callbacks := by
  cases input with
  | handle =>
    have handled : told = ((program config).handle session.machine).2 := tells
    rcases (program config).handle_cases session.machine with ⟨_, same⟩ | ⟨_, _, _, same⟩ | ⟨event, row, takes⟩
    · rw [same] at handled
      exact absurd handled some
    · rw [same] at handled
      exact absurd handled some
    · rw [takes.handle] at handled
      exact ⟨event, row, takes, handled⟩
  | _ => exact absurd tells some

theorem Tracked.success (same : tree.length = config.heap.length) (tracked : Tracked config tree session)
    (told : tellsSuccess (callbacks config session.machine input) = true) :
    session.leads tree = .finalSuccess ∧ (config.kind = .passthrough → session.reported = true) := by
  obtain ⟨callback, mem, success⟩ := List.any_eq_true.mp told
  obtain ⟨event, row, takes, tells⟩ := callbacks_handled _ rfl (List.ne_nil_of_mem mem)
  rw [tells] at mem
  obtain ⟨sends, completes, -⟩ := success_rows config.kind row takes.mem
  have raised {named : AuthEvent} (names : row.event = some named) := takes.raised_named names
  cases callback with
  | success msg =>
    rcases (perform_effect config session.machine.data row.action).told.success msg mem with sent | completed
    · have satisfied := tracked.signalled.satisfied (raised (sends sent))
      exact ⟨satisfied.2, fun passes => absurd passes satisfied.1⟩
    · have reported := tracked.signalled.raised (Or.inr (raised (completes completed)))
      have kind : config.kind = .passthrough := by
        by_contra other
        exact (forward_rows other row takes.mem).2 completed
      rcases tracked.walked.points.leaf same (tracked.walked.reported reported) with leads | leads
      · exact ⟨leads, fun _ => reported⟩
      · exact absurd leads (tracked.walked.passing kind)
  | _ => cases success

theorem Tracked.unforwarded (tracked : Tracked config tree session) (leads : session.leads tree = .finalFailure) :
    forwards (callbacks config session.machine input) = false := by
  by_contra told
  obtain ⟨callback, mem, forward⟩ := List.any_eq_true.mp (Bool.of_not_eq_false told)
  obtain ⟨event, row, takes, same⟩ := callbacks_handled _ rfl (List.ne_nil_of_mem mem)
  rw [same] at mem
  cases callback with
  | forwardResponse msg =>
    have passes := (perform_effect config session.machine.data row.action).told.forwardResponse msg mem
    exact (forward_rows (tracked.fails leads).kind row takes.mem).1 passes
  | _ => cases forward

theorem Tracked.follows (closed : tree.Tree root) (same : tree.length = config.heap.length)
    (tracked : Tracked config tree session) (later : continues input = true)
    (regular : Regular config tree session input) : Follows config tree session input := by
  refine ⟨tracked.success same, tracked.unforwarded, fun leads => ?_⟩
  have next := tracked.take closed later regular
  rcases next.owed leads with failed | due
  · exact settle_failed failed
  · exact due.settles (next.fails leads)

end Tracking

section Starting

variable {config : AuthConfig} {calls : List PolicyCall} {machine : Machine} {opening : Input}

theorem opened_machine (machine : Machine) (opening_opens : opens config opening = true) :
    ∃ data, take config machine opening =
        EventMachine.notify { state := .stBegin, running := true, raised := machine.raised,
                              events := machine.events, data } .sgRestart ∧
      data.policy = machine.data.policy.restart ∧ asked data ≤ asked machine.data := by
  have deleted : asked (deleteMethodStateMachine machine.data) ≤ asked machine.data := by
    unfold deleteMethodStateMachine
    split
    · exact Nat.zero_le _
    · exact Nat.le_refl _
  have unchanged : (deleteMethodStateMachine machine.data).policy = machine.data.policy := by
    unfold deleteMethodStateMachine
    split <;> rfl
  cases opening with
  | start =>
    by_cases kind : config.kind = .standalone
    · refine ⟨_, rfl, ?_, ?_⟩
      · show (ite _ _ _ : AuthData).policy.restart = _
        rw [if_pos kind, unchanged]
      · show asked (ite _ _ _ : AuthData) ≤ _
        rw [if_pos kind]
        exact deleted
    · refine ⟨_, rfl, ?_, ?_⟩
      · show (ite _ _ _ : AuthData).policy.restart = _
        rw [if_neg kind]
      · show asked (ite _ _ _ : AuthData) ≤ _
        exact Nat.le_of_eq (congrArg asked (if_neg kind))
  | startBackend msg =>
    have kind : config.kind = .backend := beq_iff_eq.mp opening_opens
    exact ⟨_, if_pos kind, rfl, Nat.le_refl _⟩
  | _ => cases opening_opens

theorem opened_tracked {tree : PolicyHeap} (closed : tree.Tree machine.data.policy.initialPolicyElement)
    (ready : Ready machine) (starts : opens config opening = true) : Tracked config tree (opened config machine opening) := by
  obtain ⟨data, taken, restarted, unasked⟩ := opened_machine machine starts
  have moved : (opened config machine opening).machine = EventMachine.notify
    { state := .stBegin, running := true, raised := machine.raised, events := machine.events, data } .sgRestart := taken
  have leads : (opened config machine opening).leads tree = machine.data.policy.initialPolicyElement := by
    show (opened config machine opening).machine.data.policy.initialPolicyElement = _
    rw [moved]
    exact congrArg (·.initialPolicyElement) restarted
  have rooted : machine.data.policy.initialPolicyElement ≠ .finalFailure := by
    intro failure
    have root := closed.root
    rw [failure] at root
    cases root
  have unreported : reports (opened config machine opening).machine = [] := by
    rw [moved, reports_notify _ rfl, reports, ready.raised, ready.events]
    rfl
  have idle : asked (opened config machine opening).machine.data = 0 := by
    rw [moved]
    have none := ready.asked
    exact Nat.le_zero.mp (none ▸ unasked)
  -- A restarted switch stands at the root, has asked nothing, and has only its restart to handle.
  refine ⟨⟨?_, ?_, ?_, fun told => by cases told⟩, ⟨?_, ⟨?_, ?_, ?_⟩, ?_, ?_, ?_⟩, ?_⟩
  · rw [leads, moved]
    exact congrArg (·.currentPolicyElement) restarted
  · rw [leads]
    exact closed.points_root
  · rw [leads]
    exact fun _ => rooted
  · rw [moved]
    rfl
  · rw [unreported, idle]
    decide
  · rw [unreported, idle]
    exact fun some => absurd rfl some
  · rw [moved]
    show ∀ event ∈ machine.events ++ [_], _
    rw [ready.events]
    decide
  · rw [moved]
    show machine.raised = _ → _
    rw [ready.raised]
    intro same
    cases same
  · rw [moved]
    show _ ∈ machine.events ++ [_] → _
    rw [ready.events]
    intro mem
    cases List.mem_singleton.mp mem
  · rw [moved]
    show machine.raised = _ ∨ machine.raised = _ → _
    rw [ready.raised]
    intro before
    rcases before with same | same <;> cases same
  · rw [leads]
    exact fun failure => absurd failure rooted

/-- The session of every switch follows the tree of its application, as long as each
outcome is regular. -/
theorem session_follows {inputs : List Input} (built : config.heap = .build calls)
    (closed : (PolicyHeap.meant calls).Tree machine.data.policy.initialPolicyElement) (ready : Ready machine)
    (starts : opens config opening = true) (later : ∀ input ∈ inputs, continues input = true)
    (regular : Stepwise (Session.take config) (Regular config (.meant calls)) (opened config machine opening) inputs) :
    Stepwise (Session.take config) (Follows config (.meant calls)) (opened config machine opening) inputs := by
  have same : (PolicyHeap.meant calls).length = config.heap.length := built ▸ PolicyHeap.length_meant calls
  exact regular.imp (fun _ _ tracked goes meets => tracked.follows closed same goes meets)
    (fun _ _ tracked goes meets => tracked.take closed goes meets)
    (opened_tracked closed ready starts) later

end Starting

section Runs

variable (config : AuthConfig) (tree : PolicyHeap)

instance (session : Session) (input : Input) : Decidable (Follows config tree session input) :=
  inferInstanceAs (Decidable (_ ∧ _))

instance (session : Session) (input : Input) : Decidable (Regular config tree session input) :=
  match taken : outcome config session.machine input with
  | none => .isTrue fun sw same => by
    rw [taken] at same
    cases same
  | some sw =>
    let current := session.machine.data.policy.currentPolicyElement
    decidable_of_iff (config.heap.follow current sw = tree.follow current sw ∧
        (tree.follow current sw = .finalFailure → config.kind ≠ .passthrough ∧ reportsEnd session.machine input = true))
      ⟨fun meets sw' same => by
        rw [taken] at same
        cases same
        exact meets,
      fun regular => regular sw taken⟩

def methodAuth (kind : AuthKind) (type : UInt8) (calls : List PolicyCall) : AuthConfig where
  kind := kind
  heap := .build (.construct { type } :: calls)
  registered known := known == { type }

/-- An authenticator that has been constructed. -/
def idleAuth : Machine where
  state := .stBegin
  running := false
  raised := none
  events := []
  data :=
    { policy := ⟨.continued 0, .continued 0⟩
      methodState := .proposed
      keyData := []
      keyAvailable := false
      currentIdentifier := 0
      currentMethod := { type := 0 }
      discardCount := 0
      retransmissionCount := 0
      maxRetransmissionCount := 3
      retransmissionInterval := 3
      rxQueue := []
      aaaRxQueue := []
      rxMessage := none
      txMessage := none
      methodStateMachine := none }

theorem idleAuth_ready : Ready idleAuth := ⟨rfl, rfl, rfl⟩

def exchange (type : UInt8) (sw : PolicySwitch) (report : MethodReport) : List Input :=
  [.serve, .handle, .handle, .handle, .handle,
    .method { txMessage := some [type], notified := some .valid },
    .serve, .handle, .handle, .serve, .handle,
    .receive ⟨codeResponse, 1, [type]⟩, .serve, .handle, .handle,
    .method { outcome := some sw, notified := some report },
    .serve, .handle, .handle, .handle]

/-- The session of a failed MD5-Challenge. -/
theorem session_follows_md5 :
    Stepwise (Session.take (methodAuth .standalone 4 []))
      (Follows (methodAuth .standalone 4 []) (.meant [.construct { type := 4 }]))
      (opened (methodAuth .standalone 4 []) idleAuth .start) (exchange 4 .policyOnFailure .valid) :=
  session_follows rfl ⟨rfl, by decide, by decide⟩ idleAuth_ready rfl (by decide) (by decide +kernel)

/-- A failed method succeeds when its failure branch was given a failure element. -/
theorem failure_element_succeeds : ¬∀ (config : AuthConfig) (calls : List PolicyCall) (machine : Machine)
    (opening : Input) (inputs : List Input), config.heap = .build calls →
    (PolicyHeap.meant calls).Tree machine.data.policy.initialPolicyElement → Ready machine →
    opens config opening = true → (∀ input ∈ inputs, continues input = true) →
    Stepwise (Session.take config) (Follows config (.meant calls)) (opened config machine opening) inputs := by
  intro follows
  have run := follows (methodAuth .standalone 4 [.addFailurePolicyElement 0])
    [.construct { type := 4 }, .addFailurePolicyElement 0] idleAuth .start (exchange 4 .policyOnFailure .valid)
    rfl ⟨rfl, by decide, by decide⟩ idleAuth_ready rfl (by decide)
  revert run
  decide +kernel

-- An Identity that fails says `EvSgInvalidResp`, and its session does not end.
example : ¬Stepwise (Session.take (methodAuth .standalone 1 []))
    (Follows (methodAuth .standalone 1 []) (.meant [.construct { type := 1 }]))
    (opened (methodAuth .standalone 1 []) idleAuth .start) (exchange 1 .policyOnFailure .invalid) := by
  decide +kernel

-- A pass-through switch forwards what follows a failed method.
example : ¬Stepwise (Session.take (methodAuth .passthrough 4 []))
    (Follows (methodAuth .passthrough 4 []) (.meant [.construct { type := 4 }]))
    (opened (methodAuth .passthrough 4 []) idleAuth .start) (exchange 4 .policyOnFailure .valid) := by
  decide +kernel

end Runs

end OpenDiameter.Eap.AuthSwitch
