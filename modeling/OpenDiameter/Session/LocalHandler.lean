import OpenDiameter.Foundation.Registry
import OpenDiameter.Session.AcctServer
import OpenDiameter.Session.AuthMachine
import OpenDiameter.Session.DatabaseMap

/-! The local message handler of a server, and the sessions that it finds or creates.

A session is known by its number: the first one created is 0. It takes itself out of
the database and goes to the garbage collector when its machine resets it, which may
happen within its first request, before the handler has added it.
-/

set_option autoImplicit false

namespace OpenDiameter.Session

open Foundation OpenDiameter.Framework OpenDiameter.Peer

namespace LocalHandler

section Vocabulary

def msgCodeReAuth : UInt32 := 258
def msgCodeAbortSession : UInt32 := 274
def msgCodeSessionTermination : UInt32 := 275

/-- A request. An authorization session looks for the code alone, whatever the AVPs are. -/
structure Request where
  /-- What `DiameterSessionId::Get` reads. -/
  id : Option SessionId
  appId : UInt32
  message : AcctServer.Request
  deriving DecidableEq, Repr

structure Answer where
  id : Option SessionId
  code : UInt32
  resultCode : Option UInt32
  deriving DecidableEq, Repr

inductive AppCall where
  | endSession | reAuth
  | send (request : Bool)
  deriving DecidableEq, Repr

def AppCall.event : AppCall → AuthEvent
  | .endSession => .abort
  | .reAuth => .reauth
  | .send request => if request then .txSsar else .txSsaa

structure Turn where
  /-- The session is stateful as the message comes. -/
  maintained : Bool
  auth : AuthTurn
  /-- What the application calls from within `RequestMsg` and `AnswerMsg`. -/
  calls : List (AppCall × AuthTurn) := []
  acct : AcctServer.Turn
  throws : Bool := false
  deriving DecidableEq, Repr

/-- The time of day, and the memory that a new node of the database gets. -/
structure Supply where
  now : Counter
  object : Nat
  block : Nat
  deriving DecidableEq, Repr

inductive ServerSession where
  | auth (machine : AuthMachine)
  | acct (session : AcctServer.ServerSession)

def ServerSession.running : ServerSession → Bool
  | .auth machine => machine.running
  | .acct session => session.running

structure Object where
  key : SessionId
  sessionId : SessionId := ⟨.null, [], []⟩
  session : ServerSession

/-- A `DiameterServerSessionFactory`, with what its sessions start from. -/
inductive Factory where
  | auth (attributes : AuthAttributes)
  | acct (stateful : Bool) (attributes : AcctServer.Attributes)
  deriving DecidableEq, Repr

end Vocabulary

variable (abortRetryTm : UInt32)

section Sessions

def constructed (attributes : AuthAttributes) : AuthMachine :=
  (Server.program abortRetryTm).start
    { state := .idle
      running := false
      raised := none
      events := []
      data := { turn := { attributes }, timers := fun _ => none, asrSent := false } }

def Factory.createInstance : Factory → ServerSession
  | .auth attributes => .auth (constructed abortRetryTm attributes)
  | .acct stateful attributes => .acct (.initial stateful attributes)

/-- `Notify` of an authorization session, as far as one call of `Event`. -/
def event (machine : AuthMachine) (ev : AuthEvent) (turn : AuthTurn) : AuthMachine × List AuthCallback :=
  let handled := (Server.program abortRetryTm).handle
    { machine with raised := some ev, data := { machine.data with turn } }
  (AuthMachine.settle handled, handled.2)

def events (machine : AuthMachine) : List (AuthEvent × AuthTurn) → AuthMachine × List AuthCallback
  | [] => (machine, [])
  | (ev, turn) :: rest =>
    let first := event abortRetryTm machine ev turn
    let later := events first.1 rest
    (later.1, first.2 ++ later.2)

def rxMessage (machine : AuthMachine) (ev : AuthEvent) (turn : Turn) : AuthMachine × List AuthCallback :=
  let first := event abortRetryTm machine ev turn.auth
  let within := if .receive ∈ first.2 then turn.calls.map fun call => (call.1.event, call.2) else []
  let later := events abortRetryTm first.1 (within ++ first.1.raised.toList.map fun raised => (raised, turn.auth))
  (later.1, first.2 ++ later.2)

/-- `DiameterServerAuthSession::RxRequest`, once the session id is filtered. -/
def authRequest (machine : AuthMachine) (code : UInt32) (turn : Turn) : AuthMachine × List AuthCallback :=
  if code = msgCodeSessionTermination ∧ turn.maintained = true then event abortRetryTm machine .rxStr turn.auth
  else if code = msgCodeAbortSession then (machine, [])
  else if turn.throws then (machine, [])
  else rxMessage abortRetryTm machine .rxSsar { turn with auth := { turn.auth with request := true } }

def Answer.succeeds (answer : Answer) : Bool :=
  answer.resultCode.getD 0 != 0 && interpretedResultCode (answer.resultCode.getD 0) == .success

/-- `DiameterServerAuthSession::RxAnswer`. -/
def authAnswer (machine : AuthMachine) (answer : Answer) (turn : Turn) : AuthMachine × List AuthCallback :=
  if answer.code = msgCodeAbortSession ∧ turn.maintained = true then
    if machine.data.asrSent then
      event abortRetryTm machine (if answer.succeeds then .rxAsaOk else .rxAsaFail) turn.auth
    else (machine, [])
  else if answer.code = msgCodeSessionTermination then (machine, [])
  else if answer.code = msgCodeReAuth then
    if answer.resultCode.isSome then event abortRetryTm machine .rxRaa turn.auth else (machine, [])
  else rxMessage abortRetryTm machine .rxSsaa { turn with auth := { turn.auth with request := false } }

def Object.address (object : Object) (id : SessionId) : Object :=
  if object.sessionId.diameterId.isEmpty then { object with sessionId := id } else object

namespace Object

variable (object : Object)

def ofAuth (after : AuthMachine × List AuthCallback) : Object × Nat :=
  ({ object with session := .auth after.1 }, after.2.count .reset)

def ofAcct (after : AcctServer.ServerSession × List AcctServer.Effect) : Object × Nat :=
  ({ object with session := .acct after.1 }, after.2.count .reset)

def throws (request : Request) (turn : Turn) : Bool :=
  turn.throws &&
    match object.session with
    | .auth _ => !(request.message.code == msgCodeSessionTermination && turn.maintained) &&
        request.message.code != msgCodeAbortSession
    | .acct _ => request.message.code == msgCodeAccounting

def rxRequest (id : SessionId) (request : Request) (turn : Turn) : Object × Nat :=
  match object.session with
  | .auth machine => (object.address id).ofAuth (authRequest abortRetryTm machine request.message.code turn)
  | .acct session =>
    if request.message.code ≠ msgCodeAccounting then (object, 0)
    else if turn.throws then (object.address id).ofAcct (session.filter request.message turn.acct, [])
    else (object.address id).ofAcct (session.rxRequest request.message turn.acct)

def rxAnswer (answer : Answer) (turn : Turn) : Object × Nat :=
  match object.session with
  | .auth machine => object.ofAuth (authAnswer abortRetryTm machine answer turn)
  | .acct _ => (object, 0)

def timeout (type : TimerType) (turn : AuthTurn) : Object × Nat :=
  match object.session with
  | .auth machine =>
    match machine.data.timers type with
    | some timer => object.ofAuth (event abortRetryTm machine timer.event turn)
    | none => (object, 0)
  | .acct session => if session.timer.isSome then object.ofAcct (session.notify .sessionTout) else (object, 0)

def call (appCall : AppCall) (turn : AuthTurn) : Object × Nat :=
  match object.session with
  | .auth machine => object.ofAuth (event abortRetryTm machine appCall.event turn)
  | .acct _ => (object, 0)

end Object

end Sessions

end LocalHandler

section Handler

structure LocalHandler where
  factories : List (UInt32 × LocalHandler.Factory)
  db : Database Nat
  objects : List LocalHandler.Object
  /-- The sessions for which `ScheduleForDeletion` was called. -/
  scheduled : List Nat

inductive LocalHandler.Input where
  | request (request : LocalHandler.Request) (turn : LocalHandler.Turn) (supply : LocalHandler.Supply)
  | answer (answer : LocalHandler.Answer) (turn : LocalHandler.Turn)
  | error (id : Option SessionId)
  | timeout (n : Nat) (type : TimerType) (turn : AuthTurn)
  | call (n : Nat) (appCall : LocalHandler.AppCall) (turn : AuthTurn)
  deriving DecidableEq, Repr

namespace LocalHandler

variable (abortRetryTm : UInt32) (fuel : Nat) (handler : LocalHandler)

def new (factories : List (UInt32 × Factory)) : LocalHandler := ⟨factories, .new, [], []⟩

def reset (n : Nat) : Nat → LocalHandler → Option LocalHandler
  | 0, handler => some handler
  | resets + 1, handler => do
    let object ← handler.objects[n]?
    let (_, db) ← handler.db.remove fuel object.sessionId
    reset n resets { handler with db, scheduled := handler.scheduled ++ [n] }

/-- A call on a session; following a pointer to none is a fault. -/
def deliver (n : Nat) (call : Object → Object × Nat) : Option LocalHandler := do
  let object ← handler.objects[n]?
  let after := call object
  reset fuel n after.2 { handler with objects := handler.objects.set n after.1 }

/-- `RxLocalMsgHandler::Request` for a session that is not found: it handles the request
before it is added, and is not added when that throws. -/
def create (id : SessionId) (factory : Factory) (request : Request) (turn : Turn) (supply : Supply) :
    Option LocalHandler := do
  let object : Object := { key := id, session := factory.createInstance abortRetryTm }
  let n := handler.objects.length
  let handler ← { handler with objects := handler.objects ++ [object] }.deliver fuel n
    (·.rxRequest abortRetryTm id request turn)
  if object.throws request turn then return handler
  let (_, _, db) ← handler.db.add fuel id n supply.now supply.object supply.block
  return { handler with db }

def step : Input → Option LocalHandler
  | .request request turn supply =>
    match request.id with
    | none => some handler
    | some id => do
      match ← handler.db.lookup fuel id with
      | some n => handler.deliver fuel n (·.rxRequest abortRetryTm id request turn)
      | none =>
        -- Without a factory the request is discarded, or an ASR is answered, and no session is touched.
        match handler.factories.lookup request.appId with
        | none => return handler
        | some factory => handler.create abortRetryTm fuel id factory request turn supply
  | .answer answer turn =>
    match answer.id with
    | none => some handler
    | some id => do
      match ← handler.db.lookup fuel id with
      | some n => handler.deliver fuel n (·.rxAnswer abortRetryTm answer turn)
      | none => return handler
  | .error id =>
    match id with
    | none => some handler
    | some id => do
      let _ ← handler.db.lookup fuel id
      return handler
  | .timeout n type turn =>
    if n < handler.objects.length then handler.deliver fuel n (·.timeout abortRetryTm type turn) else some handler
  | .call n appCall turn =>
    if n < handler.objects.length then handler.deliver fuel n (·.call abortRetryTm appCall turn) else some handler

def run : LocalHandler → List Input → Option LocalHandler
  | handler, [] => some handler
  | handler, input :: inputs => do
    let handler ← handler.step abortRetryTm fuel input
    run handler inputs

end LocalHandler

end Handler

end OpenDiameter.Session
