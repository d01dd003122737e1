import OpenDiameter.Eap.AuthActions

/-! How the reports of methods keep pace with the switch of an EAP authenticator.

A method is asked once, and the switch waits in its state until the report comes.
-/

set_option autoImplicit false

namespace OpenDiameter.Eap

open Foundation OpenDiameter.Framework

section Waiting

def AuthEvent.isReport : AuthEvent → Bool
  | .sgValidResp | .sgInvalidResp => true
  | _ => false

def AuthState.waits : AuthState → Bool
  | .proposeMethod | .integrityCheck => true
  | _ => false

def AuthAction.asks : AuthAction → Bool
  | .doIntegrityCheck | .proposeMethod => true
  | _ => false

theorem asks_rows (kind : AuthKind) : ∀ row ∈ kind.table, row.action.turnsMethod = true →
    row.prevState.waits = false ∧ (row.action.asks = true → row.nextState.waits = true) := by
  cases kind <;> decide +kernel

theorem leaves_rows (kind : AuthKind) : ∀ row ∈ kind.table, row.prevState.waits = true →
    row.nextState.waits = false → ∃ event, row.event = some event ∧ event.isReport = true := by
  have each : ∀ row ∈ kind.table, row.prevState.waits = true → row.nextState.waits = false →
      row.event.any (·.isReport) = true := by
    cases kind <;> decide +kernel
  intro row mem waits leaves
  have reported := each row mem waits leaves
  cases named : row.event with
  | none =>
    rw [named] at reported
    cases reported
  | some event =>
    rw [named] at reported
    exact ⟨event, rfl, reported⟩

theorem raises_no_report (ac : AuthAction) : ∀ event ∈ ac.raises, event.isReport = false := by
  cases ac <;> decide

theorem AuthAction.turnsMethod_of_asks {ac : AuthAction} (asks : ac.asks = true) : ac.turnsMethod = true := by
  cases ac <;> first | rfl | cases asks

theorem notifies_no_report (ac : AuthAction) : ∀ event ∈ ac.notifies, event = .uct ∨ event = .evElse := by
  cases ac <;> decide

end Waiting

namespace AuthSwitch

section Counting

def asked (sm : AuthData) : Nat := (sm.methodStateMachine.map (·.asked)).getD 0

def reports (machine : Machine) : List AuthEvent :=
  (machine.raised.toList ++ machine.events).filter (·.isReport)

def queues : AuthEvent → Bool
  | .rxMsg | .sgRestart | .sgValidResp | .sgInvalidResp | .sgAaaContinue | .sgAaaSuccess | .sgAaaFailure
  | .timeout | .uct | .evElse => true
  | _ => false

structure Paced (machine : Machine) : Prop where
  one : asked machine.data + (reports machine).length ≤ 1
  waits : asked machine.data + (reports machine).length ≠ 0 → machine.state.waits = true
  queued : ∀ event ∈ machine.events, queues event = true

variable {config : AuthConfig} {machine : Machine} {event : AuthEvent}
  {row : StateTableEntry AuthState AuthEvent AuthAction}

theorem asked_eq {sm : AuthData} {msm : AuthMethod} (found : sm.methodStateMachine = some msm) :
    asked sm = msm.asked := by
  rw [asked, found, Option.map_some, Option.getD_some]

theorem awaited_spec {msm : AuthMethod} (awaited : methodAwaited machine = some msm) :
    machine.raised = none ∧ machine.data.methodStateMachine = some msm ∧ msm.asked ≠ 0 := by
  unfold methodAwaited at awaited
  cases raised : machine.raised with
  | none =>
    rw [raised, Option.isSome_none, if_neg Bool.false_ne_true] at awaited
    have filtered := Option.filter_eq_some_iff.mp awaited
    exact ⟨rfl, filtered.1, of_decide_eq_true filtered.2⟩
  | some event =>
    rw [raised, Option.isSome_some, if_pos rfl] at awaited
    cases awaited

theorem perform_asked (config : AuthConfig) (sm : AuthData) (ac : AuthAction) :
    asked (perform config sm ac).data ≤ asked sm + if ac.asks then 1 else 0 := by
  cases turns : ac.turnsMethod with
  | false =>
    have kept := (perform_effect config sm ac).kept.methodStateMachine turns
    unfold asked
    rw [kept]
    exact Nat.le_add_right _ _
  | true =>
    cases ac with
    | pickUpMethod =>
      show asked (acPickUpMethod config sm).data ≤ asked sm + 0
      unfold acPickUpMethod createMethodStateMachine
      split
      · exact Nat.le_refl _
      case h_2 type _ =>
        split
        · by_cases registered : config.registered type = true
          · rw [if_pos registered]
            exact Nat.zero_le _
          · rw [if_neg registered]
            exact Nat.le_refl _
        · exact Nat.le_refl _
    | doIntegrityCheck =>
      show asked (acDoIntegrityCheck sm).data ≤ asked sm + 1
      unfold acDoIntegrityCheck
      split
      · exact Nat.le_add_right _ _
      case h_2 msm found =>
        rw [asked_eq found]
        exact Nat.le_refl _
    | proposeMethod =>
      show asked (acProposeMethod config sm).data ≤ asked sm + 1
      unfold acProposeMethod createMethodStateMachine
      split
      · exact Nat.le_add_right _ _
      case h_2 type _ =>
        dsimp only
        by_cases registered : config.registered type = true
        · rw [if_pos registered]
          exact Nat.le_add_left _ _
        · rw [if_neg registered]
          exact Nat.zero_le _
    | _ => cases turns

theorem reports_react (config : AuthConfig) (machine : Machine) (state : AuthState) (ac : AuthAction) :
    reports (machine.react state (perform config machine.data ac)) = machine.events.filter (·.isReport) := by
  have effect := perform_effect config machine.data ac
  have raised : (perform config machine.data ac).raised.toList.filter (·.isReport) = [] := by
    apply List.filter_eq_nil_iff.mpr
    intro event mem
    rw [raises_no_report ac event (effect.raised event (Option.mem_toList.mp mem))]
    exact Bool.false_ne_true
  have notified : (perform config machine.data ac).notified.filter (·.isReport) = [] := by
    apply List.filter_eq_nil_iff.mpr
    intro event mem
    rcases notifies_no_report ac event (effect.notified event mem) with rfl | rfl <;> exact Bool.false_ne_true
  show List.filter _ ((perform config machine.data ac).raised.toList ++ (machine.events ++ _)) = _
  rw [List.filter_append, List.filter_append, raised, notified, List.nil_append, List.append_nil]

theorem reports_raised (raised : machine.raised = some event) :
    reports machine = [event].filter (·.isReport) ++ machine.events.filter (·.isReport) := by
  rw [reports, raised, List.filter_append]
  rfl

theorem Paced.with_data (paced : Paced machine) {data : AuthData}
    (same : data.methodStateMachine = machine.data.methodStateMachine) : Paced { machine with data } := by
  have equal : asked data = asked machine.data := by
    unfold asked
    rw [same]
  constructor
  · show asked data + (reports machine).length ≤ 1
    rw [equal]
    exact paced.one
  · show asked data + (reports machine).length ≠ 0 → _
    rw [equal]
    exact paced.waits
  · exact paced.queued

theorem reports_notify (machine : Machine) (other : event.isReport = false) :
    reports (machine.notify event) = reports machine := by
  show List.filter _ (_ ++ (_ ++ [event])) = _
  rw [← List.append_assoc, List.filter_append, List.filter_cons_of_neg (by rw [other]; exact Bool.false_ne_true),
    List.filter_nil, List.append_nil]
  rfl

theorem Paced.notify (paced : Paced machine) (queued : queues event = true) (other : event.isReport = false) :
    Paced (machine.notify event) := by
  have same := reports_notify machine other
  constructor
  · rw [same]
    exact paced.one
  · rw [same]
    exact paced.waits
  · intro waiting mem
    rcases List.mem_append.mp mem with before | new
    · exact paced.queued waiting before
    · rw [List.mem_singleton.mp new, queued]

theorem reports_serve (machine : Machine) : reports machine.serve = reports machine := by
  refine machine.serve_elim ?_ ?_
  · rfl
  · intro event rest nothing waiting
    rw [reports, reports, nothing, waiting]
    rfl

theorem Paced.serve (paced : Paced machine) : Paced machine.serve := by
  have same := reports_serve machine
  revert same
  refine machine.serve_elim ?_ ?_
  · exact fun _ => paced
  · intro event rest _ waiting same
    constructor
    · rw [same]
      exact paced.one
    · rw [same]
      exact paced.waits
    · intro later mem
      apply paced.queued later
      rw [waiting]
      exact List.mem_cons_of_mem event mem

theorem Paced.method (paced : Paced machine) (turn : MethodTurn) : Paced (method config machine turn) := by
  unfold AuthSwitch.method
  split
  · exact paced
  case h_2 msm awaited =>
    obtain ⟨-, found, some⟩ := awaited_spec awaited
    have before := asked_eq found
    have one := paced.one
    have waits := paced.waits
    rw [before] at one waits
    split
    · constructor
      · show msm.asked - 1 + (reports machine).length ≤ 1
        omega
      · intro _
        exact waits (by omega)
      · exact paced.queued
    · have fewer : (turn.notified.map (·.authEvent)).toList.length ≤ 1 := by
        cases turn.notified <;> simp
      have appended : (reports { machine with
          data := turn.apply config machine.data msm
          events := machine.events ++ (turn.notified.map (·.authEvent)).toList }).length ≤ (reports machine).length + 1 := by
        show (List.filter _ (_ ++ (_ ++ _))).length ≤ _
        rw [← List.append_assoc, List.filter_append, List.length_append]
        exact Nat.add_le_add_left (Nat.le_trans (List.length_filter_le _ _) fewer) _
      constructor
      · show msm.asked - 1 + _ ≤ 1
        omega
      · intro _
        exact waits (by omega)
      · intro event mem
        rcases List.mem_append.mp mem with waiting | new
        · exact paced.queued event waiting
        · cases reported : turn.notified with
          | none =>
            rw [reported] at new
            cases new
          | some report =>
            rw [reported] at new
            rw [List.mem_singleton.mp new]
            cases report <;> rfl

theorem Paced.handle (paced : Paced machine) : Paced ((program config).handle machine).1 := by
  refine (program config).handle_elim machine ?kept ?dropped ?taken
  case kept => exact fun _ => paced
  case dropped =>
    have fewer : (machine.events.filter (·.isReport)).length ≤ (reports machine).length := by
      rw [reports, List.filter_append, List.length_append]
      exact Nat.le_add_left _ _
    constructor
    · exact Nat.le_trans (Nat.add_le_add_left fewer _) paced.one
    · intro some
      apply paced.waits
      intro none
      apply some
      exact Nat.le_zero.mp (Nat.le_trans (Nat.add_le_add_left fewer _) (Nat.le_of_eq none))
    · exact paced.queued
  case taken =>
    intro event row takes
    have after := reports_react config machine row.nextState row.action
    have before := reports_raised takes.raised
    have grows := perform_asked config machine.data row.action
    have one := paced.one
    have waits := paced.waits
    rw [before, List.length_append] at one waits
    have prev := takes.prevState
    have turns := asks_rows config.kind row takes.mem
    have queued : ∀ event ∈ machine.events ++ (perform config machine.data row.action).notified,
        queues event = true := by
      intro event mem
      rcases List.mem_append.mp mem with waiting | new
      · exact paced.queued event waiting
      · rcases notifies_no_report row.action event
          ((perform_effect config machine.data row.action).notified event new) with rfl | rfl <;> rfl
    -- A method is asked only when nothing is awaited.
    have idle (asks : row.action.asks = true) : asked machine.data + (machine.events.filter (·.isReport)).length = 0 := by
      have unwaiting := (turns (AuthAction.turnsMethod_of_asks asks)).1
      rw [prev] at unwaiting
      by_contra some
      rw [waits (by omega)] at unwaiting
      cases unwaiting
    constructor
    · show asked (perform config machine.data row.action).data +
        (reports (machine.react row.nextState (perform config machine.data row.action))).length ≤ 1
      rw [after]
      cases asks : row.action.asks with
      | true =>
        have none := idle asks
        rw [asks, if_pos rfl] at grows
        omega
      | false =>
        rw [asks, if_neg Bool.false_ne_true] at grows
        omega
    · show asked (perform config machine.data row.action).data +
        (reports (machine.react row.nextState (perform config machine.data row.action))).length ≠ 0 →
          row.nextState.waits = true
      rw [after]
      intro some
      cases asks : row.action.asks with
      | true => exact (turns (AuthAction.turnsMethod_of_asks asks)).2 asks
      | false =>
        rw [asks, if_neg Bool.false_ne_true] at grows
        have waiting : row.prevState.waits = true := by
          rw [prev]
          exact waits (by omega)
        by_contra leaves
        obtain ⟨report, named, isReport⟩ := leaves_rows config.kind row takes.mem waiting (Bool.eq_false_iff.mpr leaves)
        obtain rfl := takes.event_eq named
        rw [List.filter_cons_of_pos isReport, List.length_cons] at one
        omega
    · exact queued

end Counting

end AuthSwitch

end OpenDiameter.Eap
