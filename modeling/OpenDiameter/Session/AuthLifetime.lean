import OpenDiameter.Foundation.Runs
import OpenDiameter.Session.AuthMachine

/-! The timers that end an authorization session whose peer is silent. -/

set_option autoImplicit false

namespace OpenDiameter.Session

open Foundation OpenDiameter.Framework

section Lifetimes

def AuthAttributes.finite (attributes : AuthAttributes) : Bool :=
  attributes.maintained || decide (0 < attributes.sessionTimeout)

variable {Action : Type} (table : StateTable AuthState AuthEvent Action)

def nextState (st : AuthState) (event : AuthEvent) : AuthState :=
  ((table.findStateTableEntry st event).map (·.nextState)).getD st

/-- An event that comes again and again ends the session: it leads to `IDLE`, directly or
through one more state. -/
def leadsOut (st : AuthState) (event : AuthEvent) : Bool :=
  nextState table st event == .idle || nextState table (nextState table st event) event == .idle

/-- A machine that waits in `OPEN` or `DISC` has a timer that ends the session. -/
def Bounded (machine : AuthMachine) : Prop :=
  machine.raised = none → machine.running = true → machine.state = .opened ∨ machine.state = .disc →
    machine.data.turn.attributes.finite = true →
      ∃ type, (machine.data.timers type).any (fun timer => leadsOut table machine.state timer.event) = true

instance (machine : AuthMachine) : Decidable (Bounded table machine) := inferInstanceAs (Decidable (_ → _ → _ → _ → _))

structure AuthMachine.Constructed (machine : AuthMachine) : Prop where
  running : machine.running = false
  raised : machine.raised = none
  timers : ∀ type, machine.data.timers type = none

end Lifetimes

section Conditions

/-- No session is aborted in `OPEN`, and what is sent there leaves the session stateful. -/
def Server.Kept (abortRetryTm : UInt32) (machine : AuthMachine) (input : AuthInput) : Prop :=
  input = .handle → machine.state = .opened →
    (Server.program abortRetryTm).acting machine ≠ some .txAsr ∧
      ((Server.program abortRetryTm).acting machine = some .txSsa → machine.data.turn.attributes.maintained = true)

/-- The actions that go to `DISC` and leave no timer. -/
def ClientAction.strands : ClientAction → Bool
  | .txStrNoSvc | .txStrProcError | .sessionTimeoutState | .authTimeout | .userAbort => true
  | _ => false

def AuthTurn.grants (turn : AuthTurn) (event : AuthEvent) : Bool :=
  event == .ssaaOk || event == .rxSsaa && turn.rc == .success && !turn.request

/-- A session goes to `DISC` only by an ASR that is accepted, while the timer of a
stateful session is armed; and an open session without a lifetime is given one only
when access is granted again. -/
def Client.Kept (machine : AuthMachine) : AuthInput → Prop
  | .handle =>
    (Client.program.acting machine).all (!·.strands) = true ∧
      (Client.program.acting machine = some .txAsaTxStrSuccess →
        (machine.data.timers .session).any (·.event == .sessionToutSt) = true)
  | .notify event turn =>
    machine.raised = none → machine.state = .opened → turn.attributes.finite = true →
      machine.data.turn.attributes.finite = true ∨ turn.grants event = true
  | .start | .stop => True

instance (abortRetryTm : UInt32) (machine : AuthMachine) (input : AuthInput) :
    Decidable (Server.Kept abortRetryTm machine input) :=
  inferInstanceAs (Decidable (_ → _ → _ ∧ (_ → _)))

instance (machine : AuthMachine) : (input : AuthInput) → Decidable (Client.Kept machine input)
  | .handle => inferInstanceAs (Decidable (_ ∧ (_ → _)))
  | .notify _ _ => inferInstanceAs (Decidable (_ → _ → _ → _ ∨ _))
  | .start | .stop => .isTrue trivial

end Conditions

section Settling

variable {Action : Type} {program : MachineProgram AuthState AuthEvent Action AuthData AuthCallback} {machine : AuthMachine}

theorem AuthMachine.running_settle {handled : AuthMachine × List AuthCallback}
    (running : (AuthMachine.settle handled).running = true) : AuthMachine.settle handled = handled.1 := by
  unfold AuthMachine.settle at running ⊢
  split at running
  · cases running
  · exact if_neg ‹_›

end Settling

def ServerAction.keeps : ServerAction → Bool
  | .null | .rxSsa | .txRar | .rxRaa => true
  | _ => false

namespace Server

section Rows

/-- How the states are reached in which a session lives. -/
theorem live_rows : ∀ row ∈ serverTable,
    (row.nextState = .disc → row.prevState = .disc ∨ row.prevState = .opened ∧ row.action = .txAsr) ∧
      (row.nextState = .opened →
        row.action = .grantAccess ∨ row.prevState = .opened ∧ (row.action.keeps = true ∨ row.action = .txSsa)) := by
  decide +kernel

theorem leadsOut_sessionToutSt : leadsOut serverTable .opened .sessionToutSt = true := by decide +kernel

end Rows

section Invariant

variable {abortRetryTm : UInt32} {machine : AuthMachine}

theorem perform_keeps (abortRetryTm : UInt32) (fsm : AuthData) {ac : ServerAction} (keeps : ac.keeps = true) :
    (perform abortRetryTm fsm ac).data = fsm := by
  cases ac <;> first | rfl | cases keeps

theorem txSsa_maintained {fsm : AuthData} (maintained : fsm.turn.attributes.maintained = true) :
    (txSsa fsm).data = fsm := by
  rw [txSsa, if_pos maintained]

theorem grantAccess_session (fsm : AuthData) :
    ∃ sec, (grantAccess fsm).data.timers .session = some ⟨.sessionToutSt, sec⟩ := by
  refine ⟨fsm.turn.attributes.sessionTimeout + authSessionGracePeriod, ?_⟩
  rw [grantAccess, AuthData.timers_scheduleTimer_of_ne _ (by decide), AuthData.timers_scheduleTimer_self]

/-- No session waits in `DISC`, and one in `OPEN` has its timer. -/
structure Guarded (machine : AuthMachine) : Prop where
  disc : machine.running = true → machine.state ≠ .disc
  opened : machine.running = true → machine.state = .opened →
    ∃ sec, machine.data.timers .session = some ⟨.sessionToutSt, sec⟩

theorem constructed_guarded (constructed : AuthMachine.Constructed machine) : Guarded machine := by
  have stopped : machine.running ≠ true := by
    rw [constructed.running]
    exact Bool.false_ne_true
  exact ⟨fun running => absurd running stopped, fun running => absurd running stopped⟩

theorem handled_guarded (guarded : Guarded machine) (kept : Kept abortRetryTm machine .handle) :
    Guarded ((program abortRetryTm).handle machine).1 := by
  rcases (program abortRetryTm).handle_cases machine with ⟨_, same⟩ | ⟨_, _, _, same⟩ | ⟨event, row, takes⟩
  · rw [same]
    exact guarded
  · rw [same]
    exact ⟨guarded.disc, guarded.opened⟩
  · rw [takes.handle]
    obtain ⟨toDisc, toOpened⟩ := live_rows row takes.mem
    have before := takes.prevState
    constructor
    · intro _ disc
      rcases toDisc disc with stays | ⟨opened, aborts⟩
      · exact guarded.disc takes.running (before ▸ stays)
      · exact (kept rfl (before ▸ opened)).1 (aborts ▸ takes.acting)
    · intro _ opened
      show ∃ sec, (perform abortRetryTm machine.data row.action).data.timers .session = _
      rcases toOpened opened with grants | ⟨stays, keeps⟩
      · rw [grants]
        exact grantAccess_session machine.data
      · have timed := guarded.opened takes.running (before ▸ stays)
        rcases keeps with keeps | sends
        · rw [perform_keeps abortRetryTm machine.data keeps]
          exact timed
        · have maintained := (kept rfl (before ▸ stays)).2 (sends ▸ takes.acting)
          rw [sends]
          show ∃ sec, (txSsa machine.data).data.timers .session = _
          rw [txSsa_maintained maintained]
          exact timed

theorem Guarded.take {input : AuthInput} (guarded : Guarded machine) (kept : Kept abortRetryTm machine input) :
    Guarded (AuthMachine.take (program abortRetryTm) machine input) := by
  cases input with
  | start => exact ⟨fun _ => nofun, fun _ => nofun⟩
  | stop => exact ⟨nofun, nofun⟩
  | notify event turn =>
    show Guarded (if machine.raised.isSome then machine else _)
    split
    · exact guarded
    · exact ⟨guarded.disc, guarded.opened⟩
  | handle =>
    have handled := handled_guarded guarded kept
    show Guarded (AuthMachine.settle _)
    constructor
    · intro running
      have same := AuthMachine.running_settle running
      rw [same] at running ⊢
      exact handled.disc running
    · intro running
      have same := AuthMachine.running_settle running
      rw [same] at running ⊢
      exact handled.opened running

theorem Guarded.bounded (guarded : Guarded machine) : Bounded serverTable machine := by
  rintro _ running lives _
  rcases lives with opened | disc
  · obtain ⟨sec, armed⟩ := guarded.opened running opened
    exact ⟨.session, (Option.any_eq_true _ _).mpr ⟨_, armed, opened ▸ leadsOut_sessionToutSt⟩⟩
  · exact absurd disc (guarded.disc running)

end Invariant

end Server

def ClientAction.keeps : ClientAction → Bool
  | .null | .txSsar | .rxSsa | .txSsarDiscard | .rxSsaaDiscard | .rxRar | .txAsaSuccess | .txAsaTxStrSuccess
  | .txAsaFail => true
  | _ => false

namespace Client

section Rows

/-- How the states are reached in which a session lives. -/
theorem live_rows : ∀ row ∈ clientTable,
    (row.nextState = .disc → row.action.strands = true ∨ row.action = .txAsaTxStrSuccess ∨
        row.prevState = .disc ∧ row.action.keeps = true) ∧
      (row.nextState = .opened → row.action = .grantAccess ∨ row.prevState = .opened ∧ row.action.keeps = true) := by
  decide +kernel

theorem found_ssaaOk : clientTable.findStateTableEntry .opened .ssaaOk =
    some (authEntry .opened .ssaaOk .opened .grantAccess) := by
  decide +kernel

theorem found_rxSsaa : clientTable.findStateTableEntry .opened .rxSsaa =
    some (authEntry .opened .rxSsaa .opened .rxSsa) := by
  decide +kernel

theorem found_opened (event : AuthEvent) : clientTable.findStateTableEntry .opened event ≠ none := by
  cases event <;> decide +kernel

theorem leads_out : leadsOut clientTable .opened .sessionToutSt = true ∧
    leadsOut clientTable .opened .sessionToutNost = true ∧ leadsOut clientTable .disc .sessionToutSt = true := by
  decide +kernel

end Rows

section Invariant

variable {machine : AuthMachine}

def lively (fsm : AuthData) : Bool :=
  (fsm.timers .session).any fun timer => timer.event == .sessionToutSt || timer.event == .sessionToutNost

def granting (machine : AuthMachine) : Bool := machine.raised.any machine.data.turn.grants

/-- An open session has a timer, or no lifetime, or is granted access; one in `DISC` has
the timer of a stateful session. -/
structure Guarded (machine : AuthMachine) : Prop where
  opened : machine.running = true → machine.state = .opened →
    lively machine.data = true ∨ machine.data.turn.attributes.finite = false ∨ granting machine = true
  disc : machine.running = true → machine.state = .disc →
    (machine.data.timers .session).any (·.event == .sessionToutSt) = true

theorem constructed_guarded (constructed : AuthMachine.Constructed machine) : Guarded machine := by
  have stopped : machine.running ≠ true := by
    rw [constructed.running]
    exact Bool.false_ne_true
  exact ⟨fun running => absurd running stopped, fun running => absurd running stopped⟩

theorem perform_keeps (fsm : AuthData) {ac : ClientAction} (keeps : ac.keeps = true) : (perform fsm ac).data = fsm := by
  cases ac with
  | rxRar =>
    show (rxRar fsm).data = fsm
    unfold rxRar
    split <;> rfl
  | _ => first | rfl | cases keeps

theorem grantAccess_lively (fsm : AuthData) :
    lively (grantAccess fsm).data = true ∨ (grantAccess fsm).data.turn.attributes.finite = false := by
  unfold grantAccess
  dsimp only
  split
  · apply Or.inl
    rw [lively, AuthData.timers_scheduleTimer_of_ne _ (by decide), AuthData.timers_scheduleTimer_self]
    rfl
  case isFalse stateless =>
    split
    · apply Or.inl
      rw [lively, AuthData.timers_scheduleTimer_self]
      rfl
    case isFalse unlimited =>
      apply Or.inr
      show fsm.turn.attributes.finite = false
      rw [AuthAttributes.finite, Bool.eq_false_iff.mpr stateless, decide_eq_false unlimited, Bool.or_self]

theorem granted {event : AuthEvent} {row : StateTableEntry AuthState AuthEvent ClientAction}
    (takes : program.Takes machine event row) (opened : machine.state = .opened)
    (grants : machine.data.turn.grants event = true) :
    row.action = .grantAccess ∨ row.action = .rxSsa ∧ rxDelivery machine.data.turn = some .ssaaOk := by
  have found := takes.found
  rw [opened] at found
  unfold AuthTurn.grants at grants
  rcases Bool.or_eq_true_iff.mp grants with again | answers
  · rw [beq_iff_eq.mp again] at found
    cases found_ssaaOk.symm.trans found
    exact Or.inl rfl
  · obtain ⟨accepted, answer⟩ := Bool.and_eq_true_iff.mp answers
    obtain ⟨received, success⟩ := Bool.and_eq_true_iff.mp accepted
    rw [beq_iff_eq.mp received] at found
    cases found_rxSsaa.symm.trans found
    refine Or.inr ⟨rfl, ?_⟩
    rw [rxDelivery, beq_iff_eq.mp success]
    rw [Bool.not_eq_true'] at answer
    rw [answer]
    rfl

theorem handled_guarded (guarded : Guarded machine) (kept : Kept machine .handle) :
    Guarded (program.handle machine).1 := by
  obtain ⟨unstranded, accepted⟩ := kept
  rcases program.handle_cases machine with ⟨_, same⟩ | ⟨event, _, dropped, same⟩ | ⟨event, row, takes⟩
  · rw [same]
    exact guarded
  · rw [same]
    refine ⟨fun running opened => ?_, guarded.disc⟩
    rcases dropped with stopped | unfound
    · exact absurd running (stopped ▸ Bool.false_ne_true)
    · have nowhere : clientTable.findStateTableEntry .opened event = none := opened ▸ unfound
      exact absurd nowhere (found_opened event)
  · rw [takes.handle]
    rw [takes.acting] at unstranded accepted
    obtain ⟨toDisc, toOpened⟩ := live_rows row takes.mem
    have before := takes.prevState
    constructor
    · intro _ opened
      show lively (perform machine.data row.action).data = true ∨
        (perform machine.data row.action).data.turn.attributes.finite = false ∨ granting (machine.react _ _) = true
      rcases toOpened opened with grants | ⟨stays, keeps⟩
      · rw [grants]
        exact (grantAccess_lively machine.data).imp_right Or.inl
      · have same := perform_keeps machine.data keeps
        rw [same]
        rcases guarded.opened takes.running (before ▸ stays) with alive | unlimited | grants
        · exact Or.inl alive
        · exact Or.inr (Or.inl unlimited)
        · unfold granting at grants
          rw [takes.raised, Option.any_some] at grants
          rcases granted takes (before ▸ stays) grants with access | ⟨receives, answers⟩
          · rw [access] at keeps
            cases keeps
          · apply Or.inr
            apply Or.inr
            show (perform machine.data row.action).raised.any (perform machine.data row.action).data.turn.grants = true
            rw [same, receives]
            show (rxDelivery machine.data.turn).any _ = true
            rw [answers]
            rfl
    · intro _ disc
      show ((perform machine.data row.action).data.timers .session).any _ = true
      rcases toDisc disc with strands | agrees | ⟨stays, keeps⟩
      · rw [Option.all_some, strands] at unstranded
        cases unstranded
      · rw [agrees]
        exact accepted (agrees ▸ rfl)
      · rw [perform_keeps machine.data keeps]
        exact guarded.disc takes.running (before ▸ stays)

theorem Guarded.take {input : AuthInput} (guarded : Guarded machine) (kept : Kept machine input) :
    Guarded (AuthMachine.take program machine input) := by
  cases input with
  | start => exact ⟨fun _ => nofun, fun _ => nofun⟩
  | stop => exact ⟨nofun, nofun⟩
  | notify event turn =>
    show Guarded (if machine.raised.isSome then machine else _)
    split
    · exact guarded
    case isFalse quiet =>
      have nothing : machine.raised = none := Option.not_isSome_iff_eq_none.mp quiet
      refine ⟨fun running opened => ?_, guarded.disc⟩
      rcases guarded.opened running opened with alive | unlimited | grants
      · exact Or.inl alive
      · cases limited : turn.attributes.finite with
        | false => exact Or.inr (Or.inl rfl)
        | true =>
          rcases kept nothing opened limited with before | grants
          · rw [unlimited] at before
            cases before
          · exact Or.inr (Or.inr grants)
      · rw [granting, nothing] at grants
        cases grants
  | handle =>
    have handled := handled_guarded guarded kept
    show Guarded (AuthMachine.settle _)
    constructor
    · intro running
      have same := AuthMachine.running_settle running
      rw [same] at running ⊢
      exact handled.opened running
    · intro running
      have same := AuthMachine.running_settle running
      rw [same] at running ⊢
      exact handled.disc running

theorem Guarded.bounded (guarded : Guarded machine) : Bounded clientTable machine := by
  rintro nothing running lives limited
  obtain ⟨stateful, stateless, closing⟩ := leads_out
  rcases lives with opened | disc
  · rcases guarded.opened running opened with alive | unlimited | grants
    · obtain ⟨timer, armed, event⟩ := (Option.any_eq_true _ _).mp alive
      refine ⟨.session, (Option.any_eq_true _ _).mpr ⟨timer, armed, ?_⟩⟩
      rw [opened]
      rcases Bool.or_eq_true_iff.mp event with same | same
      · rw [beq_iff_eq.mp same]
        exact stateful
      · rw [beq_iff_eq.mp same]
        exact stateless
    · rw [unlimited] at limited
      cases limited
    · rw [granting, nothing] at grants
      cases grants
  · obtain ⟨timer, armed, event⟩ := (Option.any_eq_true _ _).mp (guarded.disc running disc)
    refine ⟨.session, (Option.any_eq_true _ _).mpr ⟨timer, armed, ?_⟩⟩
    rw [disc, beq_iff_eq.mp event]
    exact closing

end Invariant

end Client

section Runs

def freshMachine : AuthMachine where
  state := .idle
  running := false
  raised := none
  events := []
  data :=
    { turn := { attributes := ⟨true, 0, 0, 0, none⟩ }
      timers := fun _ => none
      asrSent := false }

theorem freshMachine_constructed : freshMachine.Constructed := ⟨rfl, rfl, fun _ => rfl⟩

/-- A message for a stateful session of an hour, which the application accepts. -/
def hourly (request : Bool) : AuthTurn := { attributes := ⟨true, 3600, 1800, 5, none⟩, request }

def serverOpens : List AuthInput := [.start, .notify .rxSsar (hourly true), .handle, .handle]

def clientOpens : List AuthInput :=
  [.start, .notify .requestAccess (hourly false), .handle, .notify .txSsar (hourly true), .handle,
    .notify .rxSsaa (hourly false), .handle, .handle]

-- A client whose session times out sends its STR, and waits for the answer without a timer.
example : ¬Stepwise (AuthMachine.take Client.program)
    (fun machine input => Bounded clientTable (AuthMachine.take Client.program machine input)) freshMachine
    (clientOpens ++ [.notify .sessionToutSt (hourly false), .handle]) := by
  decide +kernel

end Runs

end OpenDiameter.Session
