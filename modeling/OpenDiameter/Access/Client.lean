import OpenDiameter.Access.Server

/-! The client machine that the EAP and the NASREQ application share.

The EAP client has one state more, in which it waits for the answer to an AA-Request that
it does not send. The other rows of the two tables are the same.
-/

set_option autoImplicit false

namespace OpenDiameter.Access

open OpenDiameter.Framework

section Vocabulary

/-- `StWaitDEA` and `StWaitAA_Answer` of NASREQ are `waitAnswer`, and so on. -/
inductive ClientState where
  | initial | waitAnswer | checkResult | accepted | rejected | waitInfo | waitAaAnswer | terminated
  deriving DecidableEq, Repr

/-- `EvRxEapResponse` and `EvRxAuthInfo` are `rxInfo`, and so on. -/
inductive ClientEvent where
  | rxInfo | rxAnswer | rxAaAnswer | success | limitedSuccess | failure | «continue»
  | disconnect | sessionTimeout | authLifetimeTimeout | authGracePeriodTimeout | timeout
  deriving DecidableEq, Repr

def Notice.clientEvent : Notice → ClientEvent
  | .disconnect => .disconnect
  | .sessionTimeout => .sessionTimeout
  | .authLifetimeTimeout => .authLifetimeTimeout
  | .authGracePeriodTimeout => .authGracePeriodTimeout
  | .timeout => .timeout

inductive ClientAction where
  | none
  | request
  /-- `AcCheckDEA_ResultCode`, `AcCheckAA_AnswerResultCode` of NASREQ. -/
  | check
  | checkAaAnswer
  | accept
  | reject
  | «continue»
  /-- `AcSendAA_Request` of EAP, which is not supported. -/
  | requestAa
  | reauthenticate
  | disconnect
  deriving DecidableEq, Repr

def clientEntry (prev : ClientState) (ev : ClientEvent) (next : ClientState) (ac : ClientAction) :
    StateTableEntry ClientState ClientEvent ClientAction :=
  ⟨prev, some ev, next, ac⟩

def clientWildcardEntry (prev next : ClientState) : StateTableEntry ClientState ClientEvent ClientAction :=
  ⟨prev, none, next, .none⟩

/-- `DiameterEapClientStateTable_S`, which has the second leg, and `DiameterNasreqClientStateTable_S`. -/
def clientTable (secondLeg : Bool) : StateTable ClientState ClientEvent ClientAction :=
  [clientEntry .initial .rxInfo .waitAnswer .request,
    clientEntry .initial .disconnect .terminated .none,
    clientWildcardEntry .initial .initial,
    clientEntry .waitAnswer .rxAnswer .checkResult .check,
    clientEntry .waitAnswer .disconnect .terminated .none,
    clientWildcardEntry .waitAnswer .terminated,
    clientEntry .checkResult .success .accepted .accept] ++
  (if secondLeg then [clientEntry .checkResult .limitedSuccess .waitAaAnswer .requestAa] else []) ++
  [clientEntry .checkResult .failure .rejected .reject,
    clientEntry .checkResult .continue .waitInfo .continue,
    clientEntry .accepted .disconnect .terminated .disconnect,
    clientEntry .accepted .sessionTimeout .terminated .disconnect,
    clientEntry .accepted .authGracePeriodTimeout .terminated .disconnect,
    clientEntry .accepted .authLifetimeTimeout .initial .reauthenticate,
    clientWildcardEntry .accepted .accepted,
    clientWildcardEntry .rejected .terminated] ++
  (if secondLeg then [clientEntry .waitAaAnswer .rxAaAnswer .checkResult .checkAaAnswer] else []) ++
  [clientEntry .waitInfo .rxInfo .waitAnswer .request,
    clientEntry .waitInfo .disconnect .terminated .none,
    clientWildcardEntry .waitInfo .terminated,
    clientWildcardEntry .terminated .terminated]

end Vocabulary

section Applications

inductive Requesting (Message : Type) where
  /-- `SendDER` or `SendAA_Request` is called. -/
  | sends (message : Message)
  /-- An attribute that is required has not been set. -/
  | disconnects
  /-- A null pointer is dereferenced. -/
  | faults

structure ClientApplication (app : Application) where
  Data : Type
  Callbacks : Type
  Info : Type
  Call : Type
  secondLeg : Bool
  forward : Info → Data → Option Data
  request : Callbacks → Data → Data × Requesting (Request app.Body)
  /-- What becomes of a message is a matter of the commands in the dictionary, and of what `Send` returns. -/
  sendRequest : List String → Bool → Request app.Body → Transmission (Request app.Body)
  sendAnswer : List String → Bool → app.Answer → Transmission app.Answer
  receive : ResultCode → app.Answer → Data → Data
  resultCode : Data → Option ResultCode
  check : Data → ClientEvent
  /-- What is told of an answer; a null pointer may be dereferenced when the conversation goes on. -/
  continuing : Data → Data × Option Call
  accept : Data → Data × Call
  reject : Data → Call

variable {app : Application}

inductive ClientEffect (client : ClientApplication app) where
  | requested (message : Request app.Body)
  | told (call : client.Call)
  | reauthentication
  | disconnection
  | faulted

namespace ClientEffect

variable {client : ClientApplication app}

def message : ClientEffect client → Option (Request app.Body)
  | .requested message => some message
  | .told _ | .reauthentication | .disconnection | .faulted => none

def call : ClientEffect client → Option client.Call
  | .told call => some call
  | .requested _ | .reauthentication | .disconnection | .faulted => none

def isFault : ClientEffect client → Bool
  | .faulted => true
  | .requested _ | .told _ | .reauthentication | .disconnection => false

end ClientEffect

namespace ClientApplication

variable (client : ClientApplication app)

def perform (turn : client.Callbacks) :
    ClientAction → client.Data → Reaction ClientEvent client.Data (ClientEffect client)
  | .none, data | .requestAa, data => { data }
  | .request, data =>
    match client.request turn data with
    | (data, .sends message) => { data, callbacks := [.requested message] }
    | (data, .disconnects) => { data, raised := some .disconnect }
    | (data, .faults) => { data, callbacks := [.faulted] }
  | .check, data => { data, raised := some (client.check data) }
  | .checkAaAnswer, data =>
    { data, raised := some (if client.resultCode data = some .success then .success else .failure) }
  | .accept, data => { data := (client.accept data).1, callbacks := [.told (client.accept data).2] }
  | .reject, data => { data, callbacks := [.told (client.reject data)] }
  | .continue, data =>
    match client.continuing data with
    | (data, some call) => { data, callbacks := [.told call] }
    | (data, none) => { data, callbacks := [.faulted] }
  | .reauthenticate, data => { data, callbacks := [.reauthentication] }
  | .disconnect, data => { data, callbacks := [.disconnection] }

def program (turn : client.Callbacks) :
    MachineProgram ClientState ClientEvent ClientAction client.Data (ClientEffect client) where
  table := clientTable client.secondLeg
  initialState := .initial
  perform := client.perform turn

end ClientApplication

structure Client (client : ClientApplication app) where
  state : ClientState
  data : client.Data

namespace Client

variable {client : ClientApplication app} (machine : Client client)

def event (turn : client.Callbacks) (ev : ClientEvent) : Client client × List (ClientEffect client) :=
  let (state, data, effects) := (client.program turn).event machine.state machine.data ev
  (⟨state, data⟩, effects)

end Client

end Applications

section Courses

variable {app : Application} {client : ClientApplication app} (machine : Client client) (turn : client.Callbacks)

/-- Where a notice leads. -/
def ClientState.after : ClientState → Notice → ClientState
  | .initial, .disconnect => .terminated
  | .accepted, .disconnect | .accepted, .sessionTimeout | .accepted, .authGracePeriodTimeout => .terminated
  | .accepted, .authLifetimeTimeout => .initial
  | .waitAnswer, _ | .rejected, _ | .waitInfo, _ | .terminated, _ => .terminated
  | state, _ => state

namespace Client

/-- Nothing is sent, and nothing is told of an answer. -/
structure Noticed (notice : Notice) (result : Client client × List (ClientEffect client)) : Prop where
  same : result.1 = ⟨machine.state.after notice, machine.data⟩
  messages : result.2.filterMap ClientEffect.message = []
  calls : result.2.filterMap ClientEffect.call = []
  alive : result.2.any ClientEffect.isFault = false

theorem event_of_takes {ev : ClientEvent} {row : StateTableEntry ClientState ClientEvent ClientAction}
    (found : (clientTable client.secondLeg).findStateTableEntry machine.state ev = some row)
    (silent : (client.perform turn row.action machine.data).raised = none) :
    machine.event turn ev = (⟨row.nextState, (client.perform turn row.action machine.data).data⟩,
      (client.perform turn row.action machine.data).callbacks) := by
  have same := (client.program turn).event_of_silent found silent
  rw [event, same]
  rfl

variable {machine}

theorem event_info {data : client.Data} {message : Request app.Body}
    (asks : machine.state = .initial ∨ machine.state = .waitInfo)
    (sends : client.request turn machine.data = (data, .sends message)) :
    machine.event turn .rxInfo = (⟨.waitAnswer, data⟩, [.requested message]) := by
  obtain ⟨state, before⟩ := machine
  have found : (clientTable client.secondLeg).findStateTableEntry state .rxInfo =
      some (clientEntry state .rxInfo .waitAnswer .request) := by
    cases client.secondLeg <;> rcases asks with rfl | rfl <;> rfl
  have same : client.perform turn .request before = { data, callbacks := [.requested message] } := by
    simp only [ClientApplication.perform, sends]
  rw [event_of_takes ⟨state, before⟩ turn found (by simp only [clientEntry, same])]
  simp only [clientEntry, same]

section Answers

variable (waits : machine.state = .waitAnswer)
include waits

theorem event_answer {next : ClientEvent} {row : StateTableEntry ClientState ClientEvent ClientAction}
    (is : client.check machine.data = next)
    (found : (clientTable client.secondLeg).findStateTableEntry .checkResult next = some row) :
    machine.event turn .rxAnswer = (⟨row.nextState, (client.perform turn row.action machine.data).data⟩,
      (client.perform turn row.action machine.data).callbacks) := by
  obtain ⟨state, data⟩ := machine
  obtain rfl : state = .waitAnswer := waits
  have takes : (clientTable client.secondLeg).findStateTableEntry .waitAnswer .rxAnswer =
      some (clientEntry .waitAnswer .rxAnswer .checkResult .check) := by
    cases client.secondLeg <;> rfl
  have raises : (client.perform turn .check data).raised = some next := congrArg some is
  have same := (client.program turn).event_of_raises takes raises found
  rw [event, same]
  rfl

theorem event_accepted (accepts : client.check machine.data = .success) :
    machine.event turn .rxAnswer =
      (⟨.accepted, (client.accept machine.data).1⟩, [.told (client.accept machine.data).2]) := by
  have found : (clientTable client.secondLeg).findStateTableEntry .checkResult .success =
      some (clientEntry .checkResult .success .accepted .accept) := by
    cases client.secondLeg <;> rfl
  rw [event_answer turn waits accepts found]
  rfl

theorem event_rejected (rejects : client.check machine.data = .failure) :
    machine.event turn .rxAnswer = (⟨.rejected, machine.data⟩, [.told (client.reject machine.data)]) := by
  have found : (clientTable client.secondLeg).findStateTableEntry .checkResult .failure =
      some (clientEntry .checkResult .failure .rejected .reject) := by
    cases client.secondLeg <;> rfl
  rw [event_answer turn waits rejects found]
  rfl

theorem event_continued {data : client.Data} {call : client.Call} (continues : client.check machine.data = .continue)
    (tells : client.continuing machine.data = (data, some call)) :
    machine.event turn .rxAnswer = (⟨.waitInfo, data⟩, [.told call]) := by
  have found : (clientTable client.secondLeg).findStateTableEntry .checkResult .continue =
      some (clientEntry .checkResult .continue .waitInfo .continue) := by
    cases client.secondLeg <;> rfl
  rw [event_answer turn waits continues found]
  simp only [clientEntry, ClientApplication.perform, tells]

theorem event_limited (second : client.secondLeg = true) (limited : client.check machine.data = .limitedSuccess) :
    machine.event turn .rxAnswer = (⟨.waitAaAnswer, machine.data⟩, []) := by
  have found : (clientTable client.secondLeg).findStateTableEntry .checkResult .limitedSuccess =
      some (clientEntry .checkResult .limitedSuccess .waitAaAnswer .requestAa) := by
    rw [second]
    rfl
  rw [event_answer turn waits limited found]
  rfl

end Answers

variable (machine)

theorem event_notice (notice : Notice) : Noticed machine notice (machine.event turn notice.clientEvent) := by
  obtain ⟨state, data⟩ := machine
  have silent {row : StateTableEntry ClientState ClientEvent ClientAction}
      (found : (clientTable client.secondLeg).findStateTableEntry state notice.clientEvent = some row)
      (goes : row.nextState = state.after notice)
      (acts : row.action = .none ∨ row.action = .reauthenticate ∨ row.action = .disconnect) :
      Noticed (⟨state, data⟩ : Client client) notice (event ⟨state, data⟩ turn notice.clientEvent) := by
    obtain ⟨prev, ev, next, action⟩ := row
    obtain rfl : next = state.after notice := goes
    rcases acts with rfl | rfl | rfl
    · rw [event_of_takes ⟨state, data⟩ turn found rfl]
      exact ⟨rfl, rfl, rfl, rfl⟩
    · rw [event_of_takes ⟨state, data⟩ turn found rfl]
      exact ⟨rfl, rfl, rfl, rfl⟩
    · rw [event_of_takes ⟨state, data⟩ turn found rfl]
      exact ⟨rfl, rfl, rfl, rfl⟩
  have stays (missing : (clientTable client.secondLeg).findStateTableEntry state notice.clientEvent = none)
      (remains : state.after notice = state) :
      Noticed (⟨state, data⟩ : Client client) notice (event ⟨state, data⟩ turn notice.clientEvent) := by
    have same : (client.program turn).event state data notice.clientEvent = (state, data, []) :=
      (client.program turn).event_of_missing missing
    rw [event, same]
    refine ⟨?_, rfl, rfl, rfl⟩
    dsimp only
    rw [remains]
  cases state with
  | initial | accepted =>
    cases notice <;> refine silent (by cases client.secondLeg <;> rfl) rfl ?_ <;>
      first | exact Or.inl rfl | exact Or.inr (Or.inl rfl) | exact Or.inr (Or.inr rfl)
  | waitAnswer | rejected | waitInfo | terminated =>
    cases notice <;> exact silent (by cases client.secondLeg <;> rfl) rfl (Or.inl rfl)
  | checkResult | waitAaAnswer => cases notice <;> exact stays (by cases client.secondLeg <;> rfl) rfl

end Client

end Courses

end OpenDiameter.Access
