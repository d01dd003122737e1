import OpenDiameter.Eap.PeerActions
import OpenDiameter.Foundation.Runs

/-! When an EAP peer succeeds.

The decision is written by methods only. No start of the switch sets it back, so that
what a method of one run decided is what the messages of the next run are judged by.
-/

set_option autoImplicit false

namespace OpenDiameter.Eap.PeerSwitch

open Foundation OpenDiameter.Framework

section Attempts

/-- A switch, and whether a method has ended since its last `Start` with a decision
other than `FAIL`. -/
structure Attempt where
  machine : Machine
  ended : Bool

/-- A method that is being waited for ends with a decision other than `FAIL`. -/
def concludes (machine : Machine) : Input → Bool
  | .method turn =>
    machine.raised.isNone && machine.data.methodStateMachine.any (·.asked != 0) && turn.decision.any (· != .fail)
  | _ => false

def Attempt.take (config : PeerConfig) (attempt : Attempt) (input : Input) : Attempt where
  machine := PeerSwitch.take config attempt.machine input
  ended := input != .start && (attempt.ended || concludes attempt.machine input)

def Sound (config : PeerConfig) (attempt : Attempt) (input : Input) : Prop :=
  attempt.ended = false →
    .success ∉ callbacks config attempt.machine input ∧
      (attempt.machine.data.keyAvailable = false →
        (take config attempt.machine input).data.keyAvailable = false) ∧
      (input = .handle → (take config attempt.machine input).raised ≠ some .sgSuccess)

def StartsUndecided (attempt : Attempt) : Input → Prop
  | .start => attempt.machine.data.decision = .fail
  | _ => True

instance (config : PeerConfig) (attempt : Attempt) (input : Input) : Decidable (Sound config attempt input) :=
  inferInstanceAs (Decidable (_ → _))

instance (attempt : Attempt) : (input : Input) → Decidable (StartsUndecided attempt input)
  | .start => inferInstanceAs (Decidable (attempt.machine.data.decision = .fail))
  | .receive _ | .handle | .serve | .method _ | .timeout _ | .identity _ => .isTrue trivial

end Attempts

section Rows

theorem sendSuccess_rows : ∀ row ∈ peerSwitchStateTable, row.action = .sendSuccess →
    row.event = some .sgSuccess ∧ row.prevState ≠ .disabled := by
  decide +kernel

end Rows

section Invariant

structure Justified (attempt : Attempt) : Prop where
  decided : attempt.machine.running = true → attempt.machine.data.decision ≠ .fail → attempt.ended = true
  raised : attempt.machine.running = true → attempt.machine.raised = some .sgSuccess →
    attempt.machine.state = .disabled ∨ attempt.ended = true
  events : .sgSuccess ∉ attempt.machine.events

variable {config : PeerConfig} {machine : Machine} {attempt : Attempt} {ended later : Bool}

theorem Constructed.justified (constructed : Constructed machine) : Justified ⟨machine, false⟩ where
  decided running := by
    rw [constructed.running] at running
    cases running
  raised running := by
    rw [constructed.running] at running
    cases running
  events := by
    rw [constructed.events]
    exact List.not_mem_nil

theorem Justified.mono (justified : Justified ⟨machine, ended⟩) (since : ended = true → later = true) :
    Justified ⟨machine, later⟩ where
  decided running decided := since (justified.decided running decided)
  raised running raised := (justified.raised running raised).imp_right since
  events := justified.events

theorem Justified.notify {event : PeerEvent} (justified : Justified ⟨machine, ended⟩) (other : .sgSuccess ≠ event) :
    Justified ⟨machine.notify event, ended⟩ where
  decided := justified.decided
  raised := justified.raised
  events mem := by
    rcases List.mem_append.mp mem with waiting | new
    · exact justified.events waiting
    · exact other (List.mem_singleton.mp new)

theorem success_raised {event : PeerEvent} {row : StateTableEntry PeerState PeerEvent PeerAction}
    (takes : (program config).Takes machine event row) (sends : row.action = .sendSuccess) :
    machine.raised = some .sgSuccess ∧ machine.state ≠ .disabled := by
  obtain ⟨named, enabled⟩ := sendSuccess_rows row takes.mem sends
  rw [takes.prevState] at enabled
  exact ⟨takes.raised_named named, enabled⟩

theorem handle_sound (justified : Justified attempt) : Sound config attempt .handle := by
  intro unfinished
  show .success ∉ ((program config).handle attempt.machine).2 ∧
    (_ → ((program config).handle attempt.machine).1.data.keyAvailable = false) ∧
      (_ → ((program config).handle attempt.machine).1.raised ≠ some .sgSuccess)
  refine (program config).handle_elim attempt.machine ?kept ?dropped ?taken
  case kept =>
    intro nothing
    refine ⟨List.not_mem_nil, id, fun _ => ?_⟩
    rw [nothing]
    exact nofun
  case dropped => exact ⟨List.not_mem_nil, id, fun _ => nofun⟩
  case taken =>
    intro event row takes
    have unsent : row.action ≠ .sendSuccess := by
      intro sends
      obtain ⟨raised, enabled⟩ := success_raised takes sends
      rcases justified.raised takes.running raised with disabled | finished
      · exact enabled disabled
      · rw [finished] at unfinished
        cases unfinished
    have performs := performed config attempt.machine.data row.action
    have silent := performs.silent unsent
    refine ⟨silent.1, silent.2.trans, fun _ raised => ?_⟩
    have finished := justified.decided takes.running (performs.sgSuccess raised)
    rw [finished] at unfinished
    cases unfinished

/-- Nothing but a handled event reaches the application. -/
theorem Justified.sound (justified : Justified attempt) (input : Input) : Sound config attempt input := by
  cases input with
  | handle => exact handle_sound justified
  | start => exact fun _ => ⟨List.not_mem_nil, fun _ => rfl, nofun⟩
  | receive | timeout | identity => exact fun _ => ⟨List.not_mem_nil, id, nofun⟩
  | serve =>
    refine fun _ => ⟨List.not_mem_nil, ?_, nofun⟩
    show _ → attempt.machine.serve.data.keyAvailable = false
    refine attempt.machine.serve_elim ?_ ?_
    · exact id
    · exact fun _ _ _ _ => id
  | method turn =>
    refine fun _ => ⟨List.not_mem_nil, ?_, nofun⟩
    show _ → (method attempt.machine turn).data.keyAvailable = false
    refine method_elim attempt.machine turn ?_ ?_
    · exact id
    · exact fun _ _ _ _ => id

theorem start_justified (undecided : machine.data.decision = .fail) (events : .sgSuccess ∉ machine.events) :
    Justified ⟨start config machine, false⟩ := by
  have kept : (start config machine).data.decision = machine.data.decision :=
    (deleteMethodStateMachine_kept { machine.data with policy := machine.data.policy.restart }).decision
  constructor
  · intro _ decided
    exact absurd (kept.trans undecided) decided
  · exact fun _ _ => Or.inl rfl
  · intro mem
    rcases List.mem_append.mp mem with waiting | new
    · exact events waiting
    · cases List.mem_singleton.mp new

theorem serve_justified (justified : Justified ⟨machine, ended⟩) : Justified ⟨machine.serve, ended⟩ := by
  refine machine.serve_elim ?_ ?_
  · exact justified
  · intro event rest _ waiting
    have others : .sgSuccess ∉ event :: rest := waiting ▸ justified.events
    constructor
    · exact justified.decided
    · intro _ raised
      rw [Option.some.inj raised] at others
      exact absurd List.mem_cons_self others
    · exact fun mem => others (List.mem_cons_of_mem event mem)

theorem handle_justified (justified : Justified ⟨machine, ended⟩) :
    Justified ⟨((program config).handle machine).1, ended⟩ := by
  refine (program config).handle_elim machine ?kept ?dropped ?taken
  case kept => exact fun _ => justified
  case dropped => exact ⟨justified.decided, nofun, justified.events⟩
  case taken =>
    intro event row takes
    have performs := performed config machine.data row.action
    constructor
    · intro running decided
      exact justified.decided running (performs.decision ▸ decided)
    · intro running raised
      exact Or.inr (justified.decided running (performs.sgSuccess raised))
    · intro mem
      rcases List.mem_append.mp mem with waiting | new
      · exact justified.events waiting
      · rcases performs.notified _ new with same | same <;> cases same

theorem method_justified (justified : Justified ⟨machine, ended⟩) (turn : MethodTurn) :
    Justified ⟨method machine turn, ended || concludes machine (.method turn)⟩ := by
  refine method_elim machine turn ?kept ?turned
  case kept => exact justified.mono fun finished => by rw [finished, Bool.true_or]
  case turned =>
    intro msm nothing waiting asked
    constructor
    · intro running decided
      cases written : turn.decision with
      | none =>
        change turn.decision.getD machine.data.decision ≠ .fail at decided
        rw [written] at decided
        have finished : ended = true := justified.decided running decided
        rw [finished, Bool.true_or]
      | some decision =>
        change turn.decision.getD machine.data.decision ≠ .fail at decided
        rw [written] at decided
        have awaited : (msm.asked != 0) = true := bne_iff_ne.mpr asked
        have success : (decision != .fail) = true := bne_iff_ne.mpr decided
        have concluded : concludes machine (.method turn) = true := by
          unfold concludes
          dsimp only
          rw [nothing, waiting, written, Option.any_some, Option.any_some, awaited, success]
          rfl
        rw [concluded, Bool.or_true]
    · intro _ raised
      rcases reported (Option.mem_toList.mpr raised) with same | same <;> cases same
    · intro mem
      rcases List.mem_append.mp mem with waiting | new
      · exact justified.events waiting
      · rcases reported new with same | same <;> cases same

theorem Justified.take (justified : Justified attempt) {input : Input} (undecided : StartsUndecided attempt input) :
    Justified (attempt.take config input) := by
  have kept : attempt.ended = true → (attempt.ended || false) = true := (Bool.or_false _).trans
  cases input with
  | start => exact start_justified undecided justified.events
  | receive msg =>
    have received : Justified ⟨receive attempt.machine msg, attempt.ended⟩ :=
      Justified.notify ⟨justified.decided, justified.raised, justified.events⟩ nofun
    exact received.mono kept
  | handle => exact (handle_justified justified).mono kept
  | serve => exact (serve_justified justified).mono kept
  | method turn => exact method_justified justified turn
  | timeout timer =>
    have expired : Justified ⟨attempt.machine.notify timer.event, attempt.ended⟩ :=
      justified.notify (by cases timer <;> exact nofun)
    exact expired.mono kept
  | identity answer => exact Justified.mono ⟨justified.decided, justified.raised, justified.events⟩ kept

/-- A switch that is started with the decision `FAIL` each time succeeds only after
a method has ended with another. -/
theorem success_vouched {machine : Machine} (constructed : Constructed machine) {inputs : List Input}
    (undecided : Stepwise (Attempt.take config) StartsUndecided ⟨machine, false⟩ inputs) :
    Stepwise (Attempt.take config) (Sound config) ⟨machine, false⟩ inputs :=
  undecided.imp (fun _ input justified _ _ => justified.sound input)
    (fun _ _ justified _ starts => justified.take starts) constructed.justified fun _ _ => trivial

end Invariant

section Forgery

def md5Config : PeerConfig where
  heap := [{ methodType := { type := 4 } }]
  registered type := type == { type := 4 }

def md5Peer : Machine where
  state := .disabled
  running := false
  raised := none
  events := []
  data :=
    { policy := ⟨.continued 0, .continued 0⟩
      notificationAllowed := false
      methodState := .none
      decision := .fail
      keyData := []
      keyAvailable := false
      currentIdentifier := 0
      lastIdentifier := 0
      lastIdValidity := false
      receivedFirstRequest := false
      currentMethod := { type := 0 }
      reqMethod := { type := 0 }
      rxQueue := []
      rxMessage := none
      txMessage := none
      discardCount := 0
      methodStateMachine := none
      peerIdentity := []
      authenticatorIdentity := []
      notificationStr := []
      prompt := none
      futureIdentity := none }

theorem md5Peer_constructed : Constructed md5Peer := ⟨rfl, rfl, rfl, rfl, rfl, rfl, rfl, rfl, rfl, rfl⟩

def answered (msg : EapMessage) : List Input := [.receive msg, .serve, .handle, .handle, .handle]

def started : List Input := [.start, .serve, .handle, .handle]

/-- An MD5-Challenge, the response of the method, and the `Success` of the authenticator. -/
def md5Run : List Input :=
  started ++ answered ⟨codeRequest, 1, [4]⟩ ++
    [.method { decision := some .uncondSucc, txMessage := some { content := .method [] }, event := some .valid },
      .handle, .serve, .handle] ++
    answered ⟨codeSuccess, 1, []⟩

/-- A second run in which nothing but a `Success` is received. -/
def forgedRun : List Input := started ++ answered ⟨codeSuccess, 0, []⟩

theorem success_vouched_md5 : Stepwise (Attempt.take md5Config) (Sound md5Config) ⟨md5Peer, false⟩ md5Run :=
  success_vouched md5Peer_constructed (by decide +kernel)

/-- The decision of the first run makes the second succeed. -/
theorem success_forged : ¬∀ (config : PeerConfig) (machine : Machine) (inputs : List Input), Constructed machine →
    Stepwise (Attempt.take config) (Sound config) ⟨machine, false⟩ inputs := by
  intro sound
  have run := sound md5Config md5Peer (md5Run ++ forgedRun) md5Peer_constructed
  revert run
  decide +kernel

end Forgery

end OpenDiameter.Eap.PeerSwitch
