import OpenDiameter.Access.Authorization
import OpenDiameter.Framework.NestedEvent

/-! The server machine that the EAP and the NASREQ application share.

The two state tables are the same up to the names of states, events and actions. What an
application has of its own are the AVPs that it reads and sends, the check of a request
and what it hands to its authenticator.
-/

set_option autoImplicit false

namespace OpenDiameter.Access

open OpenDiameter.Framework

section Vocabulary

abbrev Octets := List UInt8

inductive Value where
  | number (n : UInt32)
  | octets (o : Octets)
  | vector (os : List Octets)
  deriving DecidableEq, Repr

def Value.strings : Value → List Octets
  | .vector os => os
  | .number _ | .octets _ => []

def clearValue (own : Attribute Value) : Attribute Value :=
  match own.value with
  | .vector _ => ⟨.vector [], false⟩
  | .number _ | .octets _ => own.clear

def receiveValue (own : Attribute Value) (avp : Option Value) : Attribute Value :=
  match avp with
  | some value => .set value
  | none => clearValue own

/-- `CopyFrom` without a `Clear` before it, which makes a vector longer but not shorter. -/
def receiveUncleared (own : Attribute Value) (avp : Option Value) : Attribute Value :=
  match avp with
  | some (.vector os) => .set (.vector (os ++ own.value.strings.drop os.length))
  | some value => .set value
  | none => own

/-- `AUTH_REQUEST_TYPE_AUTHENTICATION_ONLY`. -/
def authenticationOnly : UInt32 := 1

/-- `AUTH_REQUEST_TYPE_AUTHORIZE_ONLY`. -/
def authorizeOnly : UInt32 := 2

/-- `AUTH_REQUEST_TYPE_AUTHORIZE_AUTHENTICATE`. -/
def authorizeAuthenticate : UInt32 := 3

/-- The result codes that the machines send. -/
inductive ResultCode where
  | multiRoundAuth | success | authenticationRejected | authorizationRejected | invalidAvpValue
  deriving DecidableEq, Repr

/-- `StWaitDER` and `StWaitAA_Request` are `waitRequest`, and so on. -/
inductive ServerState where
  | initial | waitRequest | checkRequest | waitAuthorization | accepted | rejected | waitInfo | terminated
  deriving DecidableEq, Repr

/-- `EvRxEapRequest` and `EvRxAuthContinue` are `rxContinue`, and so on. -/
inductive ServerEvent where
  | rxRequest | rxContinue | rxSuccess | rxFailure | valid | invalid
  | authorizationSuccess | authorizationFailure
  | disconnect | sessionTimeout | authLifetimeTimeout | authGracePeriodTimeout | timeout
  deriving DecidableEq, Repr

inductive Notice where
  | disconnect | sessionTimeout | authLifetimeTimeout | authGracePeriodTimeout | timeout
  deriving DecidableEq, Repr

def Notice.event : Notice → ServerEvent
  | .disconnect => .disconnect
  | .sessionTimeout => .sessionTimeout
  | .authLifetimeTimeout => .authLifetimeTimeout
  | .authGracePeriodTimeout => .authGracePeriodTimeout
  | .timeout => .timeout

inductive ServerAction where
  | none
  | check
  | forward
  | authorize
  | send (code : ResultCode)
  deriving DecidableEq, Repr

def serverEntry (prev : ServerState) (ev : ServerEvent) (next : ServerState) (ac : ServerAction) :
    StateTableEntry ServerState ServerEvent ServerAction :=
  ⟨prev, some ev, next, ac⟩

def serverWildcardEntry (prev next : ServerState) : StateTableEntry ServerState ServerEvent ServerAction :=
  ⟨prev, none, next, .none⟩

/-- `DiameterEapServerStateTable_S` and `DiameterNasreqServerStateTable_S`. -/
def serverTable : StateTable ServerState ServerEvent ServerAction :=
  [serverEntry .initial .rxRequest .checkRequest .check,
    serverEntry .initial .disconnect .terminated .none,
    serverWildcardEntry .initial .terminated,
    serverEntry .checkRequest .valid .waitInfo .forward,
    serverEntry .checkRequest .invalid .rejected (.send .invalidAvpValue),
    serverEntry .waitRequest .rxRequest .checkRequest .check,
    serverEntry .waitRequest .disconnect .terminated .none,
    serverWildcardEntry .waitRequest .terminated,
    serverEntry .waitInfo .rxContinue .waitRequest (.send .multiRoundAuth),
    serverEntry .waitInfo .rxSuccess .waitAuthorization .authorize,
    serverEntry .waitInfo .rxFailure .rejected (.send .authenticationRejected),
    serverEntry .waitInfo .disconnect .terminated .none,
    serverWildcardEntry .waitInfo .terminated,
    serverEntry .waitAuthorization .authorizationSuccess .accepted (.send .success),
    serverEntry .waitAuthorization .authorizationFailure .rejected (.send .authorizationRejected),
    serverEntry .waitAuthorization .disconnect .terminated .none,
    serverWildcardEntry .waitAuthorization .terminated,
    -- Re-authentication.
    serverEntry .accepted .rxRequest .checkRequest .check,
    serverEntry .accepted .disconnect .terminated .none,
    serverWildcardEntry .accepted .terminated,
    serverWildcardEntry .rejected .rejected,
    serverWildcardEntry .terminated .terminated]

end Vocabulary

section Applications

structure Request (Body : Type) where
  authRequestType : Option UInt32
  avps : Avp → Option Value
  body : Body

def Request.onlyAuthenticates {Body : Type} (message : Request Body) : Prop :=
  message.authRequestType = some authenticationOnly

instance {Body : Type} (message : Request Body) : Decidable message.onlyAuthenticates :=
  inferInstanceAs (Decidable (_ = _))

structure ServerData (Own : Type) where
  requestType : Attribute UInt32
  request : Avp → Attribute Value
  answerType : Attribute UInt32
  granted : Avp → Attribute Value
  authorizationDone : Bool
  own : Own

structure Keeps {Own : Type} (before after : ServerData Own) : Prop where
  requestType : after.requestType = before.requestType
  answerType : after.answerType = before.answerType
  authorizationDone : after.authorizationDone = before.authorizationDone

/-- What the application calls: `SignalContinue`, `SignalSuccess` or `SignalFailure`. -/
inductive Signal (Continuing Ending : Type) where
  | continue (argument : Continuing)
  | success (argument : Ending)
  | failure (argument : Ending)
  deriving DecidableEq, Repr

def Signal.event {Continuing Ending : Type} : Signal Continuing Ending → ServerEvent
  | .continue _ => .rxContinue
  | .success _ => .rxSuccess
  | .failure _ => .rxFailure

inductive Sending (Answer : Type) where
  /-- `SendDEA` or `SendAA_Answer` is called. -/
  | sends (answer : Answer)
  /-- `Abort`, and nothing is sent. -/
  | aborts
  /-- A null pointer is dereferenced. -/
  | faults
  deriving DecidableEq, Repr

/-- What becomes of a message that is to be sent. -/
inductive Transmission (Message : Type) where
  | sent (message : Message)
  /-- There was a parsing error, or `AAAMessageControl::Send` failed. -/
  | unsent
  /-- An entry has been written beyond its end. -/
  | overrun

namespace Transmission

variable {Message : Type}

def message : Transmission Message → Option Message
  | .sent message => some message
  | .unsent | .overrun => none

def isOverrun : Transmission Message → Bool
  | .overrun => true
  | .sent _ | .unsent => false

end Transmission

/-- `SendDER`, `SendDEA`, `SendAA_Request` and `SendAA_Answer`: `parseAppToRaw` looks the command up in the dictionary
before it copies any attribute. -/
def transmit {Message : Type} (commands : List String) (command : String) (overruns accepted : Bool)
    (message : Message) : Transmission Message :=
  if command ∉ commands then .unsent
  else if overruns then .overrun
  else if accepted then .sent message
  else .unsent

theorem transmit_sent {Message : Type} {commands : List String} {command : String} {accepted : Bool}
    (known : command ∈ commands) (accepts : accepted = true) (message : Message) :
    transmit commands command false accepted message = .sent message := by
  rw [transmit, if_neg (not_not_intro known), accepts]
  rfl

/-- What the check of a request leaves. It has no verdict when it writes through a pointer
that is none. -/
structure Checked (Own : Type) where
  data : ServerData Own
  verdict : Option Bool
  /-- The callbacks that it has asked to authorize. -/
  calls : List (Call Value × Bool) := []

/-- What the callbacks of the application return while an event is handled. -/
structure Turn (Own : Type) where
  reply : Call Value → Reply Value
  own : Own

structure Application where
  Body : Type
  Own : Type
  Callbacks : Type
  Continuing : Type
  Ending : Type
  Info : Type
  Answer : Type
  chain : List AuthorizeStep
  parse : ServerData Own → Request Body → ServerData Own
  /-- `parseRawToApp`, when it throws because of the application identifier. -/
  refuse : ServerData Own → ServerData Own
  check : Turn Callbacks → ServerData Own → Checked Own
  /-- What is forwarded, unless it is a null pointer. -/
  info : ServerData Own → Option Info
  signalled : Signal Continuing Ending → ServerData Own → ServerData Own
  send : Turn Callbacks → ResultCode → ServerData Own → ServerData Own × Sending Answer

/-- What a machine tells the application and sends. -/
inductive Effect (app : Application) where
  | asked (call : Call Value) (accepted : Bool)
  | forwarded (info : app.Info)
  | sent (code : ResultCode) (answer : app.Answer)
  | aborted
  | faulted

namespace Effect

variable {app : Application}

def call : Effect app → Option (Call Value × Bool)
  | .asked call accepted => some (call, accepted)
  | .forwarded _ | .sent .. | .aborted | .faulted => none

def code : Effect app → Option ResultCode
  | .sent code _ => some code
  | .asked .. | .forwarded _ | .aborted | .faulted => none

def info : Effect app → Option app.Info
  | .forwarded info => some info
  | .asked .. | .sent .. | .aborted | .faulted => none

def isFault : Effect app → Bool
  | .faulted => true
  | .asked .. | .forwarded _ | .sent .. | .aborted => false

end Effect

def Sending.effect {app : Application} (code : ResultCode) : Sending app.Answer → Effect app
  | .sends answer => .sent code answer
  | .aborts => .aborted
  | .faults => .faulted

namespace Application

variable (app : Application)

abbrev Data := ServerData app.Own

abbrev AppTurn := Turn app.Callbacks

def asking (calls : List (Call Value × Bool)) : List (Effect app) := calls.map fun call => .asked call.1 call.2

/-- `Authorize`. The variable `r` is not initialised. -/
def authorize (turn : app.AppTurn) (data : app.Data) : Bool × app.Data × List (Call Value × Bool) :=
  if data.answerType.value = authenticationOnly then (true, data, [])
  else
    let done := authorizeFrom data.request turn.reply false data.granted app.chain
    (done.accepted,
      { data with granted := done.granted, authorizationDone := data.authorizationDone || done.accepted },
      done.calls)

def forwarding (data : app.Data) : Effect app :=
  match app.info data with
  | some info => .forwarded info
  | none => .faulted

def perform (turn : app.AppTurn) :
    ServerAction → app.Data → Reaction ServerEvent app.Data (Effect app)
  | .none, data => { data }
  | .check, data =>
    let checked := app.check turn data
    match checked.verdict with
    | some valid =>
      { data := checked.data, callbacks := app.asking checked.calls,
        raised := some (if valid then .valid else .invalid) }
    | none => { data := checked.data, callbacks := app.asking checked.calls ++ [.faulted] }
  | .forward, data => { data, callbacks := [app.forwarding data] }
  | .authorize, data =>
    if data.authorizationDone then { data, raised := some .authorizationSuccess }
    else
      let (accepted, data, calls) := app.authorize turn data
      { data, callbacks := app.asking calls,
        raised := some (if accepted then .authorizationSuccess else .authorizationFailure) }
  | .send code, data =>
    let (data, sending) := app.send turn code data
    { data, callbacks := [sending.effect code] }

def program (turn : app.AppTurn) : MachineProgram ServerState ServerEvent ServerAction app.Data (Effect app) where
  table := serverTable
  initialState := .initial
  perform := app.perform turn

end Application

structure Application.Lawful (app : Application) : Prop where
  settled : settles app.chain = true
  parse_type : ∀ (data : app.Data) (message : Request app.Body) (value : UInt32),
    message.authRequestType = some value → (app.parse data message).requestType.value = value
  parse_done : ∀ (data : app.Data) (message : Request app.Body),
    (app.parse data message).authorizationDone = data.authorizationDone
  refuse_done : ∀ data : app.Data, (app.refuse data).authorizationDone = data.authorizationDone
  signalled : ∀ (signal : Signal app.Continuing app.Ending) (data : app.Data), Keeps data (app.signalled signal data)
  send : ∀ (turn : app.AppTurn) (code : ResultCode) (data : app.Data), Keeps data (app.send turn code data).1
  check_type : ∀ (turn : app.AppTurn) (data : app.Data), (app.check turn data).verdict = some true →
    (app.check turn data).data.answerType.value = data.requestType.value
  check_done : ∀ (turn : app.AppTurn) (data : app.Data),
    (app.check turn data).data.authorizationDone = data.authorizationDone
  check_calls : ∀ (turn : app.AppTurn) (data : app.Data), ∀ call ∈ (app.check turn data).calls,
    call = (⟨.multiRoundTimeOut, none⟩, (turn.reply ⟨.multiRoundTimeOut, none⟩).accepted)

structure Server (app : Application) where
  state : ServerState
  data : app.Data

namespace Server

variable {app : Application} (server : Server app)

def event (turn : app.AppTurn) (ev : ServerEvent) : Server app × List (Effect app) :=
  let (state, data, effects) := (app.program turn).event server.state server.data ev
  (⟨state, data⟩, effects)

end Server

end Applications

section Effects

variable {app : Application}

theorem filterMap_call_asking (calls : List (Call Value × Bool)) :
    (app.asking calls).filterMap Effect.call = calls := by
  induction calls with
  | nil => rfl
  | cons call rest ih => exact congrArg (call :: ·) ih

theorem filterMap_code_asking (calls : List (Call Value × Bool)) : (app.asking calls).filterMap Effect.code = [] := by
  induction calls with
  | nil => rfl
  | cons call rest ih => exact ih

theorem filterMap_info_asking (calls : List (Call Value × Bool)) : (app.asking calls).filterMap Effect.info = [] := by
  induction calls with
  | nil => rfl
  | cons call rest ih => exact ih

theorem any_isFault_asking (calls : List (Call Value × Bool)) : (app.asking calls).any Effect.isFault = false := by
  induction calls with
  | nil => rfl
  | cons call rest ih => exact ih

theorem call_effect (code : ResultCode) (sending : Sending app.Answer) : (sending.effect code).call = none := by
  cases sending <;> rfl

theorem mem_code_effect {code sent : ResultCode} {sending : Sending app.Answer}
    (mem : sent ∈ [sending.effect code].filterMap Effect.code) : sent = code := by
  cases sending with
  | sends answer => exact List.mem_singleton.mp mem
  | aborts | faults => cases mem

end Effects

section Courses

variable {app : Application} (server : Server app) (turn : app.AppTurn)

def ServerState.awaits : ServerState → Bool
  | .initial | .waitRequest | .accepted => true
  | .checkRequest | .waitAuthorization | .rejected | .waitInfo | .terminated => false

def ServerState.rests : ServerState → Bool
  | .checkRequest | .waitAuthorization => false
  | .initial | .waitRequest | .accepted | .rejected | .waitInfo | .terminated => true

namespace Server

def answering (code : ResultCode) (next : ServerState) : Server app × List (Effect app) :=
  let (data, sending) := app.send turn code server.data
  (⟨next, data⟩, [sending.effect code])

def checking : Server app × List (Effect app) :=
  let checked := app.check turn server.data
  match checked.verdict with
  | some true => (⟨.waitInfo, checked.data⟩, app.asking checked.calls ++ [app.forwarding checked.data])
  | some false =>
    let (after, effects) := answering ⟨.checkRequest, checked.data⟩ turn .invalidAvpValue .rejected
    (after, app.asking checked.calls ++ effects)
  | none => (⟨.checkRequest, checked.data⟩, app.asking checked.calls ++ [.faulted])

def authorizing : Server app × List (Effect app) :=
  if server.data.authorizationDone then server.answering turn .success .accepted
  else
    let (accepted, data, calls) := app.authorize turn server.data
    let (after, effects) :=
      if accepted then answering ⟨.waitAuthorization, data⟩ turn .success .accepted
      else answering ⟨.waitAuthorization, data⟩ turn .authorizationRejected .rejected
    (after, app.asking calls ++ effects)

theorem event_of_takes {ev : ServerEvent} {row : StateTableEntry ServerState ServerEvent ServerAction}
    (found : serverTable.findStateTableEntry server.state ev = some row)
    (silent : (app.perform turn row.action server.data).raised = none) :
    server.event turn ev = (⟨row.nextState, (app.perform turn row.action server.data).data⟩,
      (app.perform turn row.action server.data).callbacks) := by
  have same := (app.program turn).event_of_silent found silent
  rw [event, same]
  rfl

theorem event_of_raises {ev next : ServerEvent} {row nested : StateTableEntry ServerState ServerEvent ServerAction}
    (found : serverTable.findStateTableEntry server.state ev = some row)
    (raised : (app.perform turn row.action server.data).raised = some next)
    (then_ : serverTable.findStateTableEntry row.nextState next = some nested) :
    server.event turn ev =
      (⟨nested.nextState, (app.perform turn nested.action (app.perform turn row.action server.data).data).data⟩,
        (app.perform turn row.action server.data).callbacks ++
          (app.perform turn nested.action (app.perform turn row.action server.data).data).callbacks) := by
  have same := (app.program turn).event_of_raises found raised then_
  rw [event, same]
  rfl

variable {server}

private theorem valid_found : serverTable.findStateTableEntry .checkRequest .valid =
    some (serverEntry .checkRequest .valid .waitInfo .forward) := rfl

private theorem invalid_found : serverTable.findStateTableEntry .checkRequest .invalid =
    some (serverEntry .checkRequest .invalid .rejected (.send .invalidAvpValue)) := rfl

theorem event_request (awaits : server.state.awaits = true) :
    server.event turn .rxRequest = server.checking turn := by
  obtain ⟨state, data⟩ := server
  have found : serverTable.findStateTableEntry state .rxRequest =
      some (serverEntry state .rxRequest .checkRequest .check) := by
    cases state <;> first | rfl | cases awaits
  rw [checking]
  dsimp only
  cases verdict : (app.check turn data).verdict with
  | none =>
    have same : app.perform turn .check data =
        { data := (app.check turn data).data, callbacks := app.asking (app.check turn data).calls ++ [.faulted] } := by
      simp only [Application.perform, verdict]
    rw [event_of_takes ⟨_, _⟩ turn found (by simp only [serverEntry, same])]
    simp only [serverEntry, same]
  | some valid =>
    have same : app.perform turn .check data =
        { data := (app.check turn data).data, callbacks := app.asking (app.check turn data).calls,
          raised := some (if valid then .valid else .invalid) } := by
      simp only [Application.perform, verdict]
    cases valid with
    | true =>
      rw [event_of_raises ⟨_, _⟩ turn found (by simp only [serverEntry, same]; rfl) valid_found]
      simp only [serverEntry, same]
      rfl
    | false =>
      rw [event_of_raises ⟨_, _⟩ turn found (by simp only [serverEntry, same]; rfl) invalid_found]
      simp only [serverEntry, same]
      rfl

section WaitInfo

variable (waits : server.state = .waitInfo)
include waits

theorem event_continue : server.event turn .rxContinue = server.answering turn .multiRoundAuth .waitRequest := by
  obtain ⟨state, data⟩ := server
  obtain rfl : state = .waitInfo := waits
  have found : serverTable.findStateTableEntry .waitInfo .rxContinue =
      some (serverEntry .waitInfo .rxContinue .waitRequest (.send .multiRoundAuth)) := rfl
  exact event_of_takes ⟨_, _⟩ turn found rfl

theorem event_failure : server.event turn .rxFailure = server.answering turn .authenticationRejected .rejected := by
  obtain ⟨state, data⟩ := server
  obtain rfl : state = .waitInfo := waits
  have found : serverTable.findStateTableEntry .waitInfo .rxFailure =
      some (serverEntry .waitInfo .rxFailure .rejected (.send .authenticationRejected)) := rfl
  exact event_of_takes ⟨_, _⟩ turn found rfl

theorem event_success : server.event turn .rxSuccess = server.authorizing turn := by
  obtain ⟨state, data⟩ := server
  obtain rfl : state = .waitInfo := waits
  have found : serverTable.findStateTableEntry .waitInfo .rxSuccess =
      some (serverEntry .waitInfo .rxSuccess .waitAuthorization .authorize) := rfl
  rw [authorizing]
  dsimp only
  split
  case isTrue authorized =>
    have same : app.perform turn .authorize data = { data, raised := some .authorizationSuccess } := if_pos authorized
    have raised : (app.perform turn .authorize data).raised = some .authorizationSuccess := by rw [same]
    rw [event_of_raises ⟨_, _⟩ turn found raised rfl]
    simp only [serverEntry, same, List.nil_append]
    rfl
  case isFalse unauthorized =>
    cases accepted : (app.authorize turn data).1 with
    | true =>
      have raised : (app.perform turn .authorize data).raised = some .authorizationSuccess := by
        simp only [Application.perform, if_neg unauthorized, accepted, if_true]
      rw [event_of_raises ⟨_, _⟩ turn found raised rfl]
      simp only [serverEntry, Application.perform, if_neg unauthorized]
      rfl
    | false =>
      have raised : (app.perform turn .authorize data).raised = some .authorizationFailure := by
        simp only [Application.perform, if_neg unauthorized, accepted, Bool.false_eq_true, if_false]
      rw [event_of_raises ⟨_, _⟩ turn found raised rfl]
      simp only [serverEntry, Application.perform, if_neg unauthorized]
      rfl

end WaitInfo

theorem found_otherwise {state : ServerState} {ev : ServerEvent} (rests : state.rests = true)
    (unasked : ¬(state.awaits = true ∧ ev = .rxRequest))
    (unsignalled : ¬(state = .waitInfo ∧ (ev = .rxContinue ∨ ev = .rxSuccess ∨ ev = .rxFailure))) :
    serverTable.findStateTableEntry state ev =
      some (serverWildcardEntry state (if state = .rejected then .rejected else .terminated)) ∨
    serverTable.findStateTableEntry state ev = some (serverEntry state ev .terminated .none) ∧ state ≠ .rejected := by
  cases state with
  | checkRequest | waitAuthorization => cases rests
  | rejected | terminated => exact Or.inl rfl
  | initial | waitRequest | accepted =>
    cases ev with
    | rxRequest => exact absurd ⟨rfl, rfl⟩ unasked
    | disconnect => exact Or.inr ⟨rfl, nofun⟩
    | _ => exact Or.inl rfl
  | waitInfo =>
    cases ev with
    | rxContinue | rxSuccess | rxFailure => exact absurd ⟨rfl, by decide⟩ unsignalled
    | disconnect => exact Or.inr ⟨rfl, nofun⟩
    | _ => exact Or.inl rfl

theorem event_otherwise {ev : ServerEvent} (rests : server.state.rests = true)
    (unasked : ¬(server.state.awaits = true ∧ ev = .rxRequest))
    (unsignalled : ¬(server.state = .waitInfo ∧ (ev = .rxContinue ∨ ev = .rxSuccess ∨ ev = .rxFailure))) :
    server.event turn ev = (⟨if server.state = .rejected then .rejected else .terminated, server.data⟩, []) := by
  obtain ⟨state, data⟩ := server
  rcases found_otherwise rests unasked unsignalled with found | ⟨found, unrejected⟩
  · exact event_of_takes ⟨_, _⟩ turn found rfl
  · rw [if_neg unrejected]
    exact event_of_takes ⟨_, _⟩ turn found rfl

/-- A notice ends the conversation, or finds it ended. -/
theorem event_notice (rests : server.state.rests = true) (notice : Notice) :
    server.event turn notice.event =
      (⟨if server.state = .rejected then .rejected else .terminated, server.data⟩, []) := by
  refine event_otherwise turn rests ?_ ?_
  · intro ⟨_, same⟩
    cases notice <;> cases same
  · intro ⟨_, same⟩
    cases notice <;> rcases same with same | same | same <;> cases same

end Server

end Courses

end OpenDiameter.Access
