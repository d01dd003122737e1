import OpenDiameter.Eap.TlsMethod
import OpenDiameter.Foundation.Runs

/-! When an EAP-TLS authenticator succeeds.

The table goes on as long as the library reports no alert. The response to the last
request is not given to the library, which may still wait for its handshake then.
-/

set_option autoImplicit false

namespace OpenDiameter.Eap

open Foundation OpenDiameter.Framework

def TlsPacket.wellFormed (packet : TlsPacket) : Bool :=
  match EapRequestTls.parseRawToApp packet with
  | .returned _ => true
  | _ => false

namespace AuthTls

section Steps

variable {engine : TlsEngine} (config : TlsConfig) (machine : Machine engine) (input : Input)

/-- What the constructor sets; all other attributes are arbitrary. -/
structure Constructed (machine : Machine engine) : Prop where
  raised : machine.raised = none
  events : machine.events = []
  ssn : machine.data.ssn = none

def finished (sm : TlsData engine) : Bool := sm.ssn.any (·.finished)

def Sound : Prop := .update .policyOnSuccess ∈ callbacks config machine input → finished machine.data = true

/-- A message that the parser takes in `StSentRequestFinish` finds the handshake finished. -/
def Completed : Prop :=
  input = .handle → (program config engine).acting machine = some .processResponseFinish →
    machine.data.rxMessage.any (·.wellFormed) = true → finished machine.data = true

instance : Decidable (Sound config machine input) := inferInstanceAs (Decidable (_ → _))

instance : Decidable (Completed config machine input) := inferInstanceAs (Decidable (_ → _ → _ → _))

end Steps

section Rows

theorem finish_rows : ∀ row ∈ authTlsStateTable,
    (row.nextState = .processResponseFinish → row.action = .processResponseFinish) ∧
      (row.action = .notifySuccess → row.prevState = .processResponseFinish ∧ row.event = some .valid) := by
  decide +kernel

end Rows

section Quiet

variable {engine : TlsEngine} {config : TlsConfig} {sm : TlsData engine}

structure Quiet (reaction : TlsReaction engine) : Prop where
  notified : reaction.notified = []
  update : .update .policyOnSuccess ∉ reaction.callbacks

theorem quiet_raise (sm : TlsData engine) (event : TlsEvent) : Quiet (raise sm event) := ⟨rfl, List.not_mem_nil⟩

theorem quiet_crash (sm : TlsData engine) : Quiet (crash sm) :=
  ⟨rfl, fun mem => nomatch List.mem_singleton.mp mem⟩

theorem quiet_send (sm : TlsData engine) (payload : Octets) : Quiet (send sm payload) where
  notified := rfl
  update mem := by
    rcases List.mem_cons.mp mem with same | rest
    · cases same
    · cases List.mem_singleton.mp rest

theorem quiet_parse {next : EapRequestTls → TlsReaction engine} (each : ∀ response, Quiet (next response)) :
    Quiet (parse sm next) := by
  unfold parse
  split
  · exact quiet_crash sm
  · split
    case h_1 response _ => exact each response
    case h_2 => exact quiet_raise sm _
    case h_3 => exact quiet_raise sm _
    case h_4 => exact quiet_crash sm

theorem quiet_withSession {next : TlsSession engine → TlsReaction engine} (each : ∀ ssn, Quiet (next ssn)) :
    Quiet (withSession sm next) := by
  unfold withSession
  split
  · exact quiet_crash sm
  case h_2 ssn _ => exact each ssn

theorem quiet_notifyFailure (sm : TlsData engine) : Quiet (acNotifyFailure sm) := by
  apply quiet_withSession
  intro ssn
  split
  · exact quiet_crash sm
  · refine ⟨rfl, fun mem => ?_⟩
    rcases List.mem_cons.mp mem with same | rest
    · cases same
    · cases List.mem_singleton.mp rest

theorem quiet_verifyAuthMoreFragments (config : TlsConfig) (sm : TlsData engine) :
    Quiet (acVerifyAuthMoreFragments config sm) := by
  apply quiet_withSession
  intro ssn
  dsimp only
  split <;> exact quiet_raise _ _

theorem quiet_verifyPeerMoreFragments (sm : TlsData engine) : Quiet (acVerifyPeerMoreFragments sm) := by
  apply quiet_parse
  intro response
  apply quiet_withSession
  intro ssn
  split
  · split
    · split <;> exact quiet_raise _ _
    · split
      · split
        · exact quiet_crash sm
        · split <;> exact quiet_raise _ _
      · exact quiet_raise _ _
  · exact quiet_raise _ _

theorem quiet_processResponseSecondWay (config : TlsConfig) (sm : TlsData engine) :
    Quiet (acProcessResponseSecondWay config sm) := by
  apply quiet_withSession
  intro ssn
  dsimp only
  split
  · exact quiet_send _ _
  · exact quiet_raise _ _

theorem perform_quiet (config : TlsConfig) (sm : TlsData engine) {ac : TlsAction} (other : ac ≠ .notifySuccess) :
    Quiet (perform config sm ac) := by
  cases ac with
  | null => exact ⟨rfl, List.not_mem_nil⟩
  | buildStart => exact quiet_send _ _
  | processResponseClientHello =>
    exact quiet_parse fun response => quiet_withSession fun ssn => quiet_raise _ _
  | verifyAuthMoreFragments => exact quiet_verifyAuthMoreFragments config sm
  | recvAck => exact quiet_parse fun response => quiet_raise sm _
  | sendFragment => exact quiet_withSession fun ssn => quiet_send _ _
  | sendAck => exact quiet_send sm _
  | processResponseSecondWay => exact quiet_processResponseSecondWay config sm
  | verifyPeerMoreFragments => exact quiet_verifyPeerMoreFragments sm
  | processResponseFinish => exact quiet_parse fun response => quiet_withSession fun ssn => quiet_raise _ _
  | notifySuccess => exact absurd rfl other
  | notifyInvalid => exact ⟨rfl, fun mem => nomatch List.mem_singleton.mp mem⟩
  | buildRequestAlert => exact quiet_withSession fun ssn => quiet_send sm _
  | processResponseAckAlert => exact quiet_parse fun response => quiet_withSession fun ssn => quiet_raise _ _
  | notifyFailure => exact quiet_notifyFailure sm

theorem perform_notified (config : TlsConfig) (sm : TlsData engine) (ac : TlsAction) :
    (perform config sm ac).notified = [] := by
  by_cases succeeds : ac = .notifySuccess
  · rw [succeeds]
    show (acNotifySuccess sm).notified = []
    unfold acNotifySuccess close withSession
    split
    · rfl
    · dsimp only
      split <;> rfl
  · exact (perform_quiet config sm succeeds).notified

theorem TlsSession.finished_tlsHandshakeRecv {ssn : TlsSession engine} (done : ssn.finished = true) :
    ssn.tlsHandshakeRecv.1.finished = true := by
  unfold TlsSession.tlsHandshakeRecv
  dsimp only
  split <;> exact (congrArg (· || _) done).trans (Bool.true_or _)

theorem finish_valid (raised : (acProcessResponseFinish sm).raised = some .valid) :
    sm.rxMessage.any (·.wellFormed) = true ∧
      (finished sm = true → finished (acProcessResponseFinish sm).data = true) := by
  unfold acProcessResponseFinish parse at raised ⊢
  split at raised
  · cases raised
  case h_2 packet received =>
    rw [received]
    split at raised
    case h_1 response taken =>
      rw [Option.any_some, TlsPacket.wellFormed, taken]
      refine ⟨rfl, ?_⟩
      unfold withSession finished
      cases found : sm.ssn with
      | none => exact nofun
      | some ssn => exact TlsSession.finished_tlsHandshakeRecv
    · cases raised
    · cases raised
    · cases raised

end Quiet

section Invariant

variable {engine : TlsEngine} {config : TlsConfig} {machine : Machine engine}

/-- `EvSgValid` is handled in `StProcessResponseFinish` only after the handshake. -/
structure Vouched (machine : Machine engine) : Prop where
  events : ∀ event ∈ machine.events, event = .integrityCheck
  finish : machine.raised = some .valid → machine.state = .processResponseFinish → finished machine.data = true

theorem Constructed.vouched (constructed : Constructed machine) : Vouched machine where
  events := by
    rw [constructed.events]
    exact nofun
  finish raised := by
    rw [constructed.raised] at raised
    cases raised

theorem Vouched.sound (vouched : Vouched machine) (input : Input) : Sound config machine input := by
  cases input with
  | handle =>
    show _ ∈ ((program config engine).handle machine).2 → _
    refine (program config engine).handle_elim machine (fun _ => nofun) nofun ?_
    intro event row takes updates
    have succeeds : row.action = .notifySuccess := by
      apply Decidable.of_not_not
      intro other
      exact (perform_quiet config machine.data other).update updates
    obtain ⟨before, named⟩ := (finish_rows row takes.mem).2 succeeds
    exact vouched.finish (takes.raised_named named) (takes.prevState ▸ before)
  | start | share | integrityCheck | serve => exact nofun

theorem taken_vouched {event : TlsEvent} {row : StateTableEntry TlsState TlsEvent TlsAction} (vouched : Vouched machine)
    (takes : (program config engine).Takes machine event row) (completed : Completed config machine .handle) :
    Vouched (machine.react row.nextState (perform config machine.data row.action)) where
  events := by
    show ∀ event ∈ machine.events ++ (perform config machine.data row.action).notified, _
    rw [perform_notified, List.append_nil]
    exact vouched.events
  finish := by
    intro raised arrives
    have acts := (finish_rows row takes.mem).1 arrives
    change (perform config machine.data row.action).raised = _ at raised
    rw [acts] at raised
    obtain ⟨taken, kept⟩ := finish_valid raised
    show finished (perform config machine.data row.action).data = true
    rw [acts]
    exact kept (completed rfl (acts ▸ takes.acting) taken)

theorem Vouched.take {input : Input} (vouched : Vouched machine) (completed : Completed config machine input) :
    Vouched (take config machine input) := by
  cases input with
  | start => exact ⟨vouched.events, fun _ => nofun⟩
  | share => exact ⟨vouched.events, vouched.finish⟩
  | integrityCheck msg =>
    refine ⟨fun event mem => ?_, vouched.finish⟩
    rcases List.mem_append.mp mem with waiting | new
    · exact vouched.events event waiting
    · exact List.mem_singleton.mp new
  | serve =>
    show Vouched machine.serve
    rcases machine.serve_cases with same | ⟨first, rest, nothing, waiting, same⟩
    · rw [same]
      exact vouched
    · rw [same]
      have each := vouched.events
      rw [waiting] at each
      refine ⟨fun event mem => each event (List.mem_cons_of_mem _ mem), fun raised => ?_⟩
      have asked := each first List.mem_cons_self
      rw [asked] at raised
      cases raised
  | handle =>
    show Vouched ((program config engine).handle machine).1
    rcases (program config engine).handle_cases machine with ⟨_, same⟩ | ⟨_, _, _, same⟩ | ⟨event, row, takes⟩
    · rw [same]
      exact vouched
    · rw [same]
      exact ⟨vouched.events, nofun⟩
    · rw [takes.handle]
      exact taken_vouched vouched takes completed

/-- An authenticator that finds each handshake finished in `StSentRequestFinish` succeeds
only after one. -/
theorem success_finished {inputs : List Input} (constructed : Constructed machine)
    (completed : Stepwise (take config) (Completed config) machine inputs) :
    Stepwise (take config) (Sound config) machine inputs :=
  completed.imp (fun _ input vouched _ _ => vouched.sound input) (fun _ _ vouched _ meets => vouched.take meets)
    constructed.vouched fun _ _ => trivial

end Invariant

section Runs

/-- A library that answers a ClientHello (22), and finishes on the message of the client
after it (20). -/
def flights : TlsEngine where
  State := Nat
  accept := 0
  read
    | 0, 22 :: _ => (1, { output := [22], error := .wantRead, finished := false })
    | 1, 20 :: _ => (2, { output := [20], error := .wantRead, finished := true })
    | flight, _ => (flight, { output := [], error := .wantRead, finished := false })
  session flight := flight != 0

theorem flights_waits : flights.Waits := by
  rintro (_ | _ | flight) <;> exact ⟨rfl, rfl⟩

def unfragmented : TlsConfig where
  fragmentSize := 0
  includeLength := false

/-- An authenticator that has been constructed. -/
def tlsAuth : Machine flights where
  state := .stInitialize
  running := false
  raised := none
  events := []
  data := { ssn := none, isDone := false, rxMessage := none, firstFragmentAuth := true, firstFragmentPeer := true }

theorem tlsAuth_constructed : Constructed tlsAuth := ⟨rfl, rfl, rfl⟩

def answered (packet : TlsPacket) : List Input := [.integrityCheck (some packet), .serve, .handle, .handle]

/-- The ClientHello, another message of the client, and an acknowledgement. -/
def conversation (packet : TlsPacket) : List Input :=
  [.start, .integrityCheck none, .serve, .handle] ++ answered ⟨7, [0, 22]⟩ ++ [.handle] ++ answered packet ++
    answered ⟨6, [0]⟩

theorem success_finished_flights :
    Stepwise (take unfragmented) (Sound unfragmented) tlsAuth (conversation ⟨7, [0, 20]⟩) :=
  success_finished tlsAuth_constructed (by decide +kernel)

/-- A peer that says nothing after its ClientHello is let in. -/
theorem success_unfinished : ¬∀ (engine : TlsEngine) (config : TlsConfig) (machine : Machine engine)
    (inputs : List Input), engine.Waits → Constructed machine →
    Stepwise (take config) (Sound config) machine inputs := by
  intro sound
  have run := sound flights unfragmented tlsAuth (conversation ⟨6, [0]⟩) flights_waits tlsAuth_constructed
  revert run
  decide +kernel

-- The handshake that is finished succeeds.
example : .update .policyOnSuccess ∈ callbacks unfragmented
    ((conversation ⟨7, [0, 20]⟩).dropLast.foldl (take unfragmented) tlsAuth) .handle := by
  decide +kernel

end Runs

end AuthTls

end OpenDiameter.Eap
