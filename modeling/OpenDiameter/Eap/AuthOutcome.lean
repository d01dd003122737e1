import OpenDiameter.Eap.AuthPacing
import OpenDiameter.Eap.PolicyTree
import OpenDiameter.Foundation.Runs

/-! What becomes of an EAP session, against what the policy of the application says.

The outcomes of the methods lead from the root of the tree that the application means
to a leaf. A session is to end as its leaf says.
-/

set_option autoImplicit false

namespace OpenDiameter.Eap.AuthSwitch

open Foundation OpenDiameter.Framework

section Sessions

/-- A switch with what has happened since `Start`: the outcomes of its methods, and
whether the AAA server has reported success and the application was told of failure. -/
structure Session where
  machine : Machine
  outcomes : List PolicySwitch := []
  reported : Bool := false
  failed : Bool := false

def tellsSuccess (told : List AuthCallback) : Bool :=
  told.any fun
    | .success _ => true
    | _ => false

def tellsFailure (told : List AuthCallback) : Bool :=
  told.any fun
    | .failure _ => true
    | _ => false

def forwards (told : List AuthCallback) : Bool :=
  told.any fun
    | .forwardResponse _ => true
    | _ => false

variable (config : AuthConfig) (tree : PolicyHeap)

def outcome (machine : Machine) : Input → Option PolicySwitch
  | .method turn => (methodAwaited machine).bind fun msm => if msm.isDone then none else turn.outcome
  | .handle =>
    if (program config).acting machine = some .resetMethod ∧ machine.data.rxMessage.isSome then some .policyOnFailure
    else none
  | _ => none

def aaaSucceeds (machine : Machine) : Input → Bool
  | .aaa (.success aaaKey) msg => accepted config machine (.success aaaKey) msg
  | _ => false

namespace Session

def take (session : Session) (input : Input) : Session where
  machine := AuthSwitch.take config session.machine input
  outcomes := session.outcomes ++ (outcome config session.machine input).toList
  reported := session.reported || aaaSucceeds config session.machine input
  failed := session.failed || tellsFailure (callbacks config session.machine input)

def leads (session : Session) : PolicyElement :=
  session.outcomes.foldl tree.follow session.machine.data.policy.initialPolicyElement

/-- The thread handles what is raised and serves the next event, so many times. -/
def settle : Nat → Session → Session
  | 0, session => session
  | count + 1, session => settle count ((session.take config .handle).take config .serve)

/-- The thread has handled and served all that is pending. -/
def settled (session : Session) : Session := session.settle config (session.machine.events.length + 3)

end Session

def Follows (session : Session) (input : Input) : Prop :=
  (tellsSuccess (callbacks config session.machine input) = true →
      session.leads tree = .finalSuccess ∧ (config.kind = .passthrough → session.reported = true)) ∧
    (session.leads tree = .finalFailure → forwards (callbacks config session.machine input) = false) ∧
      ((session.take config input).leads tree = .finalFailure →
        ((session.take config input).settled config).failed = true)

/-- A method that is done says so with `EvSgValidResp` to a switch in `StIntegrityCheck`. -/
def reportsEnd (machine : Machine) : Input → Bool
  | .method turn => machine.state == .integrityCheck && turn.notified == some .valid
  | _ => true

def Regular (session : Session) (input : Input) : Prop :=
  ∀ sw, outcome config session.machine input = some sw →
    let current := session.machine.data.policy.currentPolicyElement
    config.heap.follow current sw = tree.follow current sw ∧
      (tree.follow current sw = .finalFailure → config.kind ≠ .passthrough ∧ reportsEnd session.machine input = true)

/-- The switch is started with nothing pending of what was before. -/
structure Ready (machine : Machine) : Prop where
  raised : machine.raised = none
  events : machine.events = []
  asked : asked machine.data = 0

def opens : Input → Bool
  | .start => true
  | .startBackend _ => config.kind == .backend
  | _ => false

def continues : Input → Bool
  | .start | .startBackend _ => false
  | _ => true

def opened (machine : Machine) (opening : Input) : Session where
  machine := take config machine opening

end Sessions

section Rows

theorem found_valid (kind : AuthKind) : kind.table.findStateTableEntry .integrityCheck .sgValidResp =
    some (authEntry .integrityCheck .sgValidResp .methodResponse .methodResponse) := by
  cases kind <;> rfl

theorem found_endMethod (kind : AuthKind) : kind.table.findStateTableEntry .methodResponse .sgEndMethod =
    some (authEntry .methodResponse .sgEndMethod .selectAction .doPolicyCheck) := by
  cases kind <;> rfl

theorem found_nak (kind : AuthKind) : kind.table.findStateTableEntry .nak .uct =
    some (authEntry .nak .uct .selectAction .doPolicyCheck) := by
  cases kind <;> rfl

theorem found_unsatisfied (kind : AuthKind) : kind.table.findStateTableEntry .selectAction .sgPolicyNotSatEndSess =
    some (authEntry .selectAction .sgPolicyNotSatEndSess .failure .sendFailure) := by
  cases kind <;> rfl

/-- While the switch waits for a report, it does nothing else but discard messages. -/
theorem integrityCheck_rows (kind : AuthKind) : ∀ row ∈ kind.table, row.prevState = .integrityCheck →
    row.event = some .sgValidResp ∨ row.event = some .sgInvalidResp ∨
      row.nextState = .integrityCheck ∧ (row.action = .null ∨ row.action = .discard2) := by
  cases kind <;> decide +kernel

theorem nak_rows (kind : AuthKind) : ∀ row ∈ kind.table, row.action = .resetMethod → row.nextState = .nak := by
  cases kind <;> decide +kernel

theorem success_rows (kind : AuthKind) : ∀ row ∈ kind.table,
    (row.action = .sendSuccess → row.event = some .sgPolicySat) ∧
      (row.action = .completePassThroughWithSuccess → row.event = some .evSgAaaSuccess) ∧
        (row.action = .aaaSuccess → row.event = some .sgAaaSuccess) := by
  cases kind <;> decide +kernel

theorem forward_rows {kind : AuthKind} (other : kind ≠ .passthrough) : ∀ row ∈ kind.table,
    row.action ≠ .doIntegrityCheck2 ∧ row.action ≠ .completePassThroughWithSuccess := by
  cases kind with
  | passthrough => exact absurd rfl other
  | standalone | backend => decide +kernel

theorem raises_success (ac : AuthAction) : (.sgPolicySat ∈ ac.raises → ac = .doPolicyCheck) ∧
    (.evSgAaaSuccess ∈ ac.raises → ac = .aaaSuccess) ∧ .sgAaaSuccess ∉ ac.raises := by
  cases ac <;> decide

end Rows

section Outcomes

variable (config : AuthConfig) (tree : PolicyHeap) (machine : Machine) (session : Session) {input : Input}

/-- The policy moves with the outcomes, and with nothing else. -/
theorem take_policy (later : continues input = true) : (take config machine input).data.policy =
    ((outcome config machine input).map (machine.data.policy.update config.heap)).getD machine.data.policy := by
  cases input with
  | start | startBackend => cases later
  | receive | timeout => rfl
  | serve =>
    show machine.serve.data.policy = machine.data.policy
    refine machine.serve_elim rfl fun _ _ _ _ => rfl
  | aaa report msg =>
    show (aaa config machine report msg).data.policy = machine.data.policy
    unfold aaa
    split <;> rfl
  | method turn =>
    show (method config machine turn).data.policy = _
    unfold method outcome
    cases methodAwaited machine with
    | none => rfl
    | some msm =>
      dsimp only [Option.bind_some]
      cases msm.isDone <;> rfl
  -- Handling updates the policy in `AcResetMethod` alone, by the types of the Nak.
  | handle =>
    have named : outcome config machine .handle =
      if (program config).acting machine = some .resetMethod ∧ machine.data.rxMessage.isSome then
        some .policyOnFailure else none := rfl
    show ((program config).handle machine).1.data.policy = _
    rw [named]
    split
    case isTrue resets =>
      obtain ⟨event, row, takes, action⟩ := MachineProgram.takes_of_acting resets.1
      rw [takes.handle]
      show (perform config machine.data row.action).data.policy = _
      rw [action]
      show (acResetMethod config machine.data).data.policy = _
      unfold acResetMethod
      split
      case h_1 missing =>
        rw [missing] at resets
        cases resets.2
      case h_2 msg _ => exact EapPolicy.updateList_nak config.heap machine.data.policy msg
    case isFalse kept =>
      refine (program config).handle_elim machine ?_ ?_ ?_
      · exact fun _ => rfl
      · rfl
      · intro event row takes
        by_cases resets : row.action = .resetMethod
        · have missing : machine.data.rxMessage = none := by
            rw [takes.acting, resets] at kept
            cases found : machine.data.rxMessage with
            | none => rfl
            | some msg =>
              rw [found] at kept
              exact absurd ⟨rfl, rfl⟩ kept
          show (perform config machine.data row.action).data.policy = _
          rw [resets]
          show (acResetMethod config machine.data).data.policy = _
          rw [acResetMethod, missing]
          rfl
        · exact (perform_effect config machine.data row.action).kept.policy resets

theorem leads_take (later : continues input = true) :
    (session.take config input).leads tree =
      ((outcome config session.machine input).map (tree.follow (session.leads tree))).getD (session.leads tree) := by
  have root : (AuthSwitch.take config session.machine input).data.policy.initialPolicyElement =
      session.machine.data.policy.initialPolicyElement := by
    rw [take_policy config session.machine later]
    cases outcome config session.machine input with
    | none => rfl
    | some sw => exact EapPolicy.initialPolicyElement_update config.heap _ sw
  show (session.outcomes ++ _).foldl tree.follow (take config session.machine input).data.policy.initialPolicyElement = _
  rw [root, List.foldl_append]
  cases outcome config session.machine input <;> rfl

end Outcomes

section Walking

variable {config : AuthConfig} {tree : PolicyHeap} {root : PolicyElement} {session : Session} {input : Input}

structure Walked (config : AuthConfig) (tree : PolicyHeap) (session : Session) : Prop where
  current : session.machine.data.policy.currentPolicyElement = session.leads tree
  points : tree.Points (session.leads tree)
  passing : config.kind = .passthrough → session.leads tree ≠ .finalFailure
  reported : session.reported = true → EapPolicy.element config.heap (session.leads tree) = none

theorem Walked.next (walked : Walked config tree session) (regular : Regular config tree session input)
    {sw : PolicySwitch} (taken : outcome config session.machine input = some sw) :
    config.heap.follow (session.leads tree) sw = tree.follow (session.leads tree) sw ∧
      (tree.follow (session.leads tree) sw = .finalFailure →
        config.kind ≠ .passthrough ∧ reportsEnd session.machine input = true) := by
  rw [← walked.current]
  exact regular sw taken

theorem Walked.aaa (walked : Walked config tree session) (now : aaaSucceeds config session.machine input = true) :
    EapPolicy.element config.heap (session.leads tree) = none := by
  unfold aaaSucceeds at now
  split at now
  case h_1 aaaKey msg =>
    unfold accepted at now
    have passes : config.kind = .passthrough ∧ decision config session.machine.data = .passthrough := by
      simp only [Bool.and_eq_true, beq_iff_eq] at now
      exact now.1
    rw [← walked.current]
    have none := passes.2
    unfold decision at none
    rw [passes.1] at none
    dsimp only at none
    split at none
    case isTrue unmapped => exact Option.map_eq_none_iff.mp (Option.isNone_iff_eq_none.mp unmapped)
    case isFalse => cases none
  case h_2 => cases now

theorem Walked.take (closed : tree.Tree root) (walked : Walked config tree session)
    (later : continues input = true) (regular : Regular config tree session input) :
    Walked config tree (session.take config input) := by
  have policy := take_policy config session.machine later
  have leads := leads_take config tree session later
  have reports : (session.take config input).reported = (session.reported || aaaSucceeds config session.machine input) := rfl
  cases taken : outcome config session.machine input with
  | none =>
    rw [taken] at policy leads
    change _ = session.leads tree at leads
    constructor
    · rw [leads, ← walked.current]
      exact congrArg (·.currentPolicyElement) policy
    · rw [leads]
      exact walked.points
    · rw [leads]
      exact walked.passing
    · rw [leads, reports, Bool.or_eq_true]
      rintro (before | now)
      · exact walked.reported before
      · exact walked.aaa now
  | some sw =>
    rw [taken] at policy leads
    change _ = tree.follow (session.leads tree) sw at leads
    obtain ⟨same, ends⟩ := walked.next regular taken
    constructor
    · rw [leads, ← same, ← walked.current]
      exact (congrArg (·.currentPolicyElement) policy).trans (EapPolicy.currentPolicyElement_update _ _ _)
    · rw [leads]
      exact closed.points_follow walked.points sw
    · rw [leads]
      exact fun passes fails => (ends fails).1 passes
    · rw [leads, reports, Bool.or_eq_true]
      intro reported
      have leaf : EapPolicy.element config.heap (session.leads tree) = none :=
        reported.elim walked.reported walked.aaa
      rw [← same, PolicyHeap.follow_leaf leaf, leaf]

end Walking

section Signals

variable {config : AuthConfig} {tree : PolicyHeap} {session : Session} {input : Input}

structure Signalled (config : AuthConfig) (tree : PolicyHeap) (session : Session) : Prop where
  running : session.machine.running = true
  paced : Paced session.machine
  satisfied : session.machine.raised = some .sgPolicySat →
    config.kind ≠ .passthrough ∧ session.leads tree = .finalSuccess
  waiting : .sgAaaSuccess ∈ session.machine.events → session.reported = true
  raised : session.machine.raised = some .sgAaaSuccess ∨ session.machine.raised = some .evSgAaaSuccess →
    session.reported = true

theorem perform_satisfied {sm : AuthData} {ac : AuthAction}
    (raised : (perform config sm ac).raised = some .sgPolicySat) :
    config.kind ≠ .passthrough ∧ sm.policy.currentPolicyElement = .finalSuccess ∧ ac = .doPolicyCheck := by
  have checks := (raises_success ac).1 ((perform_effect config sm ac).raised _ raised)
  rw [checks] at raised
  change (acDoPolicyCheck config sm).raised = _ at raised
  unfold acDoPolicyCheck at raised
  split at raised
  case h_1 success =>
    unfold decision at success
    cases kind : config.kind with
    | passthrough =>
      rw [kind] at success
      dsimp only at success
      split at success <;> cases success
    | standalone | backend =>
      rw [kind] at success
      dsimp only at success
      split at success
      case isTrue satisfied => exact ⟨nofun, beq_iff_eq.mp satisfied, checks⟩
      case isFalse => split at success <;> cases success
  all_goals cases raised

theorem outcome_handle {machine : Machine} {event : AuthEvent} {row : StateTableEntry AuthState AuthEvent AuthAction}
    (takes : (program config).Takes machine event row) (kept : row.action ≠ .resetMethod) :
    outcome config machine .handle = none := by
  apply if_neg
  rw [takes.acting]
  exact fun resets => kept (Option.some.inj resets.1)

theorem Signalled.unmoved (signalled : Signalled config tree session) (later : continues input = true)
    (taken : AuthSwitch.take config session.machine input = session.machine)
    (steady : outcome config session.machine input = none) :
    Signalled config tree (session.take config input) := by
  have leads := leads_take config tree session later
  rw [steady] at leads
  have grows : session.reported = true → (session.take config input).reported = true := by
    intro before
    show (session.reported || _) = true
    rw [before, Bool.true_or]
  have moved : (session.take config input).machine = session.machine := taken
  constructor
  · rw [moved]
    exact signalled.running
  · rw [moved]
    exact signalled.paced
  · rw [moved, leads]
    exact signalled.satisfied
  · rw [moved]
    exact fun mem => grows (signalled.waiting mem)
  · rw [moved]
    exact fun before => grows (signalled.raised before)

theorem Signalled.notify {data : AuthData} {event : AuthEvent} (signalled : Signalled config tree session)
    (taken : AuthSwitch.take config session.machine input = EventMachine.notify { session.machine with data } event)
    (paced : Paced (EventMachine.notify { session.machine with data } event))
    (later : continues input = true) (steady : outcome config session.machine input = none)
    (reports : event = .sgAaaSuccess → aaaSucceeds config session.machine input = true) :
    Signalled config tree (session.take config input) := by
  have leads := leads_take config tree session later
  rw [steady] at leads
  have grows : session.reported = true → (session.take config input).reported = true := by
    intro before
    show (session.reported || _) = true
    rw [before, Bool.true_or]
  have moved : (session.take config input).machine = EventMachine.notify { session.machine with data } event := taken
  constructor
  · rw [moved]
    exact signalled.running
  · rw [moved]
    exact paced
  · rw [moved, leads]
    exact signalled.satisfied
  · rw [moved]
    intro mem
    rcases List.mem_append.mp mem with before | new
    · exact grows (signalled.waiting before)
    · show (session.reported || _) = true
      rw [reports (List.mem_singleton.mp new).symm, Bool.or_true]
  · rw [moved]
    exact fun before => grows (signalled.raised before)

theorem Signalled.handle (walked : Walked config tree session) (signalled : Signalled config tree session) :
    Signalled config tree (session.take config .handle) := by
  have leads := leads_take config tree session (show continues .handle = true from rfl)
  have kept : (session.take config .handle).reported = session.reported := Bool.or_false _
  have moved : (session.take config .handle).machine = ((program config).handle session.machine).1 := rfl
  have paced : Paced ((program config).handle session.machine).1 := signalled.paced.handle
  rcases (program config).handle_cases session.machine with ⟨nothing, same⟩ | ⟨event, _, _, same⟩ | ⟨event, row, takes⟩
  · apply signalled.unmoved rfl
    · exact congrArg Prod.fst same
    · apply if_neg
      rw [MachineProgram.acting, nothing]
      intro acts
      cases acts.1
  · rw [same] at moved paced
    constructor
    · rw [moved]
      exact signalled.running
    · rw [moved]
      exact paced
    · rw [moved]
      intro same
      cases same
    · rw [moved, kept]
      exact signalled.waiting
    · rw [moved]
      intro before
      rcases before with same | same <;> cases same
  · rw [takes.handle] at moved paced
    have effect := perform_effect config session.machine.data row.action
    constructor
    · rw [moved]
      exact signalled.running
    · rw [moved]
      exact paced
    · rw [moved, leads]
      intro raised
      obtain ⟨kind, success, checks⟩ := perform_satisfied raised
      rw [outcome_handle takes (checks ▸ AuthAction.noConfusion)]
      exact ⟨kind, walked.current ▸ success⟩
    · rw [moved, kept]
      intro mem
      rcases List.mem_append.mp mem with before | new
      · exact signalled.waiting before
      · rcases notifies_no_report row.action _ (effect.notified _ new) with same | same <;> cases same
    · rw [moved, kept]
      rintro (raised | raised)
      · exact absurd (effect.raised _ raised) (raises_success row.action).2.2
      · -- The table's own event comes from the report that is being handled.
        have reads := (raises_success row.action).2.1 (effect.raised _ raised)
        have named := (success_rows config.kind row takes.mem).2.2 reads
        apply signalled.raised
        apply Or.inl
        exact takes.raised_named named

theorem Signalled.serve (signalled : Signalled config tree session) :
    Signalled config tree (session.take config .serve) := by
  have kept : (session.take config .serve).reported = session.reported := Bool.or_false _
  have moved : (session.take config .serve).machine = session.machine.serve := rfl
  have paced : Paced session.machine.serve := signalled.paced.serve
  rcases session.machine.serve_cases with same | ⟨event, rest, _, waiting, same⟩
  · exact signalled.unmoved rfl same rfl
  · rw [same] at moved paced
    have queued : queues event = true := by
      apply signalled.paced.queued
      rw [waiting]
      exact List.mem_cons_self
    constructor
    · rw [moved]
      exact signalled.running
    · rw [moved]
      exact paced
    · rw [moved]
      intro raised
      rw [Option.some.inj raised] at queued
      cases queued
    · rw [moved, kept]
      intro mem
      apply signalled.waiting
      rw [waiting]
      exact List.mem_cons_of_mem event mem
    · rw [moved, kept]
      rintro (raised | raised)
      · apply signalled.waiting
        rw [waiting, Option.some.inj raised]
        exact List.mem_cons_self
      · rw [Option.some.inj raised] at queued
        cases queued

theorem Signalled.method (signalled : Signalled config tree session) (turn : MethodTurn) :
    Signalled config tree (session.take config (.method turn)) := by
  have kept : (session.take config (.method turn)).reported = session.reported := Bool.or_false _
  have moved : (session.take config (.method turn)).machine = AuthSwitch.method config session.machine turn := rfl
  have paced : Paced (AuthSwitch.method config session.machine turn) := signalled.paced.method turn
  cases awaited : methodAwaited session.machine with
  | none =>
    apply signalled.unmoved rfl
    · show AuthSwitch.method config session.machine turn = session.machine
      rw [AuthSwitch.method, awaited]
    · rw [outcome, awaited, Option.bind_none]
  | some msm =>
    obtain ⟨nothing, -, -⟩ := awaited_spec awaited
    have frame : (AuthSwitch.method config session.machine turn).running = session.machine.running ∧
        (AuthSwitch.method config session.machine turn).raised = none ∧
          (.sgAaaSuccess ∈ (AuthSwitch.method config session.machine turn).events →
            .sgAaaSuccess ∈ session.machine.events) := by
      unfold AuthSwitch.method
      rw [awaited]
      dsimp only
      split
      · exact ⟨rfl, nothing, id⟩
      · refine ⟨rfl, nothing, fun mem => ?_⟩
        rcases List.mem_append.mp mem with before | new
        · exact before
        · cases reported : turn.notified with
          | none =>
            rw [reported] at new
            cases new
          | some report =>
            rw [reported] at new
            cases report <;> cases List.mem_singleton.mp new
    constructor
    · rw [moved, frame.1]
      exact signalled.running
    · rw [moved]
      exact paced
    · rw [moved, frame.2.1]
      exact nofun
    · rw [moved, kept]
      exact fun mem => signalled.waiting (frame.2.2 mem)
    · rw [moved, frame.2.1]
      intro before
      rcases before with same | same <;> cases same

theorem Signalled.aaa (signalled : Signalled config tree session) (report : AaaReport) (msg : Option EapMessage) :
    Signalled config tree (session.take config (.aaa report msg)) := by
  by_cases takes : accepted config session.machine report msg = true
  · have taken : AuthSwitch.take config session.machine (.aaa report msg) = EventMachine.notify
        { session.machine with
          data := { session.machine.data with
            keyData := report.aaaKey.getD session.machine.data.keyData
            aaaRxQueue := session.machine.data.aaaRxQueue ++ msg.toList } } report.authEvent := if_pos takes
    refine signalled.notify taken ?paced rfl rfl ?reports
    case paced =>
      apply Paced.notify
      · exact signalled.paced.with_data rfl
      · cases report <;> rfl
      · cases report <;> rfl
    case reports =>
      intro success
      cases report with
      | success aaaKey => exact takes
      | failure | continued => cases success
  · exact signalled.unmoved rfl (if_neg takes) rfl

theorem Signalled.take (walked : Walked config tree session) (signalled : Signalled config tree session)
    (later : continues input = true) : Signalled config tree (session.take config input) := by
  cases input with
  | start | startBackend => cases later
  | handle => exact signalled.handle walked
  | serve => exact signalled.serve
  | method turn => exact signalled.method turn
  | aaa report msg => exact signalled.aaa report msg
  | receive msg =>
    have taken : AuthSwitch.take config session.machine (.receive msg) = EventMachine.notify
      { session.machine with
        data := { session.machine.data with rxQueue := session.machine.data.rxQueue ++ [msg] } } .rxMsg := rfl
    refine signalled.notify taken ?_ rfl rfl nofun
    apply Paced.notify
    · exact signalled.paced.with_data rfl
    · rfl
    · rfl
  | timeout =>
    have taken : AuthSwitch.take config session.machine .timeout =
      EventMachine.notify { session.machine with data := session.machine.data } .timeout := rfl
    exact signalled.notify taken (signalled.paced.notify rfl rfl) rfl rfl nofun

end Signals

end OpenDiameter.Eap.AuthSwitch
