import Mathlib.Data.Fintype.Basic
import OpenDiameter.Framework.EventMachine

/-! The state machines of authorization sessions, of a server and of a client.

An event is handled at once when it is notified, and `RxDelivery` may notify one more
from within an action. What the application and the transport answer comes with the
event, and so do the attributes of the session as the actions find them.
-/

set_option autoImplicit false

namespace OpenDiameter.Session

open OpenDiameter.Framework

section Vocabulary

inductive AuthState where
  | idle | pending | opened | disc
  deriving DecidableEq, Repr

inductive AuthEvent where
  | requestAccess | rxAsr | rxAsaOk | rxAsaFail | rxAsrUsid | rxAsrOk | rxAsrRetry | txAsrFail | rxStr | rxSta
  | txSsar | rxSsar | txSsaa | rxSsaa | rxRar | rxRaa | ssarOk | ssarFail | ssaaOk | ssaaNosvc | ssaaError | ssaaFail
  | reauth | lifetimeTout | sessionToutSt | sessionToutNost | sessionReclaim | abort | stop
  deriving DecidableEq, Repr

/-- The result codes and termination causes that the actions send. -/
inductive AuthCode where
  | success | authorizationRejected | realmNotServed | avpUnsupported | unableToComply
  deriving DecidableEq, Repr

/-- The `DIAMETER_TIMER_TYPE`s of the machines. -/
inductive TimerType where
  | asr | session | auth
  deriving DecidableEq, Repr

instance : Fintype TimerType where
  elems := {.asr, .session, .auth}
  complete type := by cases type <;> decide

/-- An entry of `timerHandleMap`: the event and its interval in seconds. -/
structure Timer where
  event : AuthEvent
  sec : UInt32
  deriving DecidableEq, Repr

structure AuthAttributes where
  maintained : Bool
  sessionTimeout : UInt32
  authLifetime : UInt32
  authGrace : UInt32
  /-- `reAuthType` and `resultCode` of `ReAuthRequestValue`, when it is set. -/
  reAuthRequestValue : Option (UInt32 × UInt32)
  deriving DecidableEq, Repr

inductive ReturnCode where
  | success | incomplete | noService | msgUnprocessed | failure | other
  deriving DecidableEq, Repr

structure AuthTurn where
  attributes : AuthAttributes
  delivered : Bool := true
  /-- `hdr.flags.r` of the pending message, and what `RequestMsg` or `AnswerMsg` returns. -/
  request : Bool := false
  rc : ReturnCode := .success
  reAuthenticated : UInt32 := 0
  /-- `ReClaimSession` returns `AAA_ERR_SUCCESS`. -/
  reclaimed : Bool := true
  deriving DecidableEq, Repr

/-- What is sent and what the application is told. -/
inductive AuthCallback where
  | deliver | receive | discard
  | txAsr | txSta (rcode : AuthCode) | txRar (reAuthType : UInt32)
  | txStr (cause : AuthCode) | txAsa (rcode : AuthCode) | txRaa (rcode : UInt32)
  | success | disconnect | abortSession | authorizationTimeout | sessionTimeout | reAuthenticate (value : UInt32)
  | reset
  deriving DecidableEq, Repr

structure AuthData where
  turn : AuthTurn
  timers : TimerType → Option Timer
  asrSent : Bool

abbrev AuthReaction := Reaction AuthEvent AuthData AuthCallback

/-- `AAA_AUTH_SESSION_GRACE_PERIOD`. -/
def authSessionGracePeriod : UInt32 := 5

/-- `AAA_AUTH_SESSION_RECLAMATION_PERIOD`. -/
def authSessionReclamationPeriod : UInt32 := 60

/-- `AAA_SUCCESS`, as a result code of the message. -/
def aaaSuccess : UInt32 := 2001

namespace AuthData

variable (fsm : AuthData)

def scheduleTimer (type : TimerType) (event : AuthEvent) (sec : UInt32) : AuthData :=
  { fsm with timers := Function.update fsm.timers type (some ⟨event, sec⟩) }

def cancelTimer (type : TimerType) : AuthData := { fsm with timers := Function.update fsm.timers type none }

def cancelAllTimer : AuthData := { fsm with timers := fun _ => none }

theorem timers_scheduleTimer_self (type : TimerType) (event : AuthEvent) (sec : UInt32) :
    (fsm.scheduleTimer type event sec).timers type = some ⟨event, sec⟩ :=
  Function.update_self _ _ _

theorem timers_scheduleTimer_of_ne {type other : TimerType} (different : other ≠ type) (event : AuthEvent)
    (sec : UInt32) : (fsm.scheduleTimer type event sec).timers other = fsm.timers other :=
  Function.update_of_ne different _ _

end AuthData

def authEntry {Action : Type} (prev : AuthState) (ev : AuthEvent) (next : AuthState) (ac : Action) :
    StateTableEntry AuthState AuthEvent Action :=
  ⟨prev, some ev, next, ac⟩

def authWildcardEntry {Action : Type} (prev next : AuthState) (ac : Action) :
    StateTableEntry AuthState AuthEvent Action :=
  ⟨prev, none, next, ac⟩

end Vocabulary

section Server

inductive ServerAction where
  | null | rxSsarDiscard | txSsaaDiscard | rxSsa | txSsa | txRar | grantAccess | txAsr | rxRaa | rxAsa | txStaCleanup
  | txStaCleanupIdle | authTimeout | sessionTimeout | sessionReclaim | cleanup
  deriving DecidableEq, Repr

/-- `AAA_SessAuthServerStateTable`. -/
def serverTable : StateTable AuthState AuthEvent ServerAction :=
  [ authEntry .idle .ssarOk .opened .grantAccess,
    authEntry .idle .ssarFail .idle .cleanup,
    authEntry .idle .rxAsaOk .idle .null,
    authEntry .idle .rxAsaFail .idle .null,
    authEntry .idle .rxStr .idle .txStaCleanupIdle,
    authEntry .idle .txSsaa .idle .txSsa,
    authEntry .idle .rxSsar .idle .rxSsa,
    authEntry .idle .sessionToutNost .idle .sessionTimeout,
    authEntry .idle .sessionReclaim .idle .sessionReclaim,
    authEntry .idle .abort .idle .cleanup,
    authWildcardEntry .idle .idle .null,
    authEntry .opened .ssarOk .opened .grantAccess,
    authEntry .opened .ssarFail .idle .cleanup,
    authEntry .opened .txSsar .opened .txSsa,
    authEntry .opened .rxSsaa .opened .rxSsa,
    authEntry .opened .ssaaOk .opened .null,
    authEntry .opened .ssaaFail .idle .cleanup,
    authEntry .opened .abort .disc .txAsr,
    authEntry .opened .lifetimeTout .idle .authTimeout,
    authEntry .opened .sessionToutSt .idle .sessionTimeout,
    authEntry .opened .rxAsaOk .opened .null,
    authEntry .opened .rxAsaFail .opened .null,
    authEntry .opened .rxStr .idle .txStaCleanup,
    authEntry .opened .txSsaa .opened .txSsa,
    authEntry .opened .rxSsar .opened .rxSsa,
    authEntry .opened .reauth .opened .txRar,
    authEntry .opened .rxRaa .opened .rxRaa,
    authWildcardEntry .opened .opened .null,
    authEntry .disc .txAsrFail .disc .txAsr,
    authEntry .disc .rxAsaOk .disc .rxAsa,
    authEntry .disc .rxAsaFail .idle .cleanup,
    authEntry .disc .rxStr .idle .txStaCleanup,
    authEntry .disc .lifetimeTout .idle .authTimeout,
    authEntry .disc .sessionToutSt .idle .sessionTimeout,
    authEntry .disc .txSsaa .disc .txSsaaDiscard,
    authEntry .disc .rxSsar .disc .rxSsarDiscard,
    authWildcardEntry .disc .disc .null ]

theorem serverTable_constructs : StateTable.construct serverTable = some serverTable := by decide +kernel

namespace Server

variable (abortRetryTm : UInt32) (fsm : AuthData)

/-- `DiameterServerAuthSession::RxDelivery`; without a result the event 0 is notified. -/
def rxDelivery (turn : AuthTurn) : Option AuthEvent :=
  if turn.attributes.maintained then
    match turn.rc with
    | .success => some (if turn.request then .ssarOk else .ssaaOk)
    | .incomplete => some .requestAccess
    | _ => some (if turn.request then .ssarFail else .ssaaFail)
  else none

def txSsa : AuthReaction :=
  if fsm.turn.attributes.maintained then { data := fsm, callbacks := [.deliver] }
  else
    let timed := if 0 < fsm.turn.attributes.sessionTimeout
      then fsm.cancelAllTimer.scheduleTimer .session .sessionToutNost
        (fsm.turn.attributes.sessionTimeout + authSessionGracePeriod)
      else fsm.cancelAllTimer.scheduleTimer .session .sessionReclaim authSessionReclamationPeriod
    { data := timed, callbacks := [.deliver, .success] }

def grantAccess : AuthReaction where
  data := (fsm.cancelAllTimer.scheduleTimer .session .sessionToutSt
    (fsm.turn.attributes.sessionTimeout + authSessionGracePeriod)).scheduleTimer .auth .lifetimeTout
      (fsm.turn.attributes.authLifetime + fsm.turn.attributes.authGrace + authSessionGracePeriod)
  callbacks := [.success]

/-- `TxASR`: a request that cannot be sent is sent again later. -/
def txAsr : AuthReaction :=
  let cancelled := fsm.cancelAllTimer
  if fsm.turn.delivered then { data := { cancelled with asrSent := true }, callbacks := [.txAsr] }
  else { data := cancelled.scheduleTimer .asr .txAsrFail abortRetryTm, callbacks := [.txAsr] }

def sessionReclaim : AuthReaction :=
  let cancelled := fsm.cancelAllTimer
  if fsm.turn.reclaimed then { data := { cancelled with asrSent := false }, callbacks := [.disconnect, .reset] }
  else { data := cancelled.scheduleTimer .session .sessionReclaim authSessionReclamationPeriod }

def ends (callbacks : List AuthCallback) : AuthReaction :=
  { data := { fsm.cancelAllTimer with asrSent := false }, callbacks := callbacks ++ [.reset] }

def perform (ac : ServerAction) : AuthReaction :=
  match ac with
  | .null => { data := fsm }
  | .rxSsarDiscard | .txSsaaDiscard => { data := fsm, callbacks := [.discard] }
  | .rxSsa => { data := fsm, callbacks := [.receive], raised := rxDelivery fsm.turn }
  | .txSsa => txSsa fsm
  | .txRar =>
    { data := fsm, callbacks := (fsm.turn.attributes.reAuthRequestValue.map fun value => .txRar value.1).toList }
  | .grantAccess => grantAccess fsm
  | .txAsr => txAsr abortRetryTm fsm
  | .rxRaa =>
    { data := fsm
      callbacks := (fsm.turn.attributes.reAuthRequestValue.map fun value => .reAuthenticate value.2).toList }
  | .rxAsa => { data := fsm.cancelTimer .asr, callbacks := [.abortSession] }
  | .txStaCleanup => ends fsm [.txSta .authorizationRejected, .disconnect]
  | .txStaCleanupIdle => ends fsm [.txSta .authorizationRejected]
  | .authTimeout => ends fsm [.authorizationTimeout]
  | .sessionTimeout => ends fsm [.sessionTimeout]
  | .sessionReclaim => sessionReclaim fsm
  | .cleanup => ends fsm [.abortSession]

/-- `DiameterAuthSessionServerStateMachine`. -/
def program : MachineProgram AuthState AuthEvent ServerAction AuthData AuthCallback where
  table := serverTable
  initialState := .idle
  perform ac fsm := perform abortRetryTm fsm ac

end Server

end Server

section Client

inductive ClientAction where
  | null | txSsar | rxSsa | txSsarDiscard | rxSsaaDiscard | grantAccess | rxRar | txStrNoSvc | txStrProcError
  | sessionTimeout | sessionTimeoutState | authTimeout | userAbort | txAsaSuccess | txAsaTxStrSuccess | txAsaFail
  | cleanup | disconnect
  deriving DecidableEq, Repr

/-- `AAA_SessAuthClientStateTable`. -/
def clientTable : StateTable AuthState AuthEvent ClientAction :=
  [ authEntry .idle .requestAccess .pending .null,
    authEntry .idle .rxAsrUsid .idle .null,
    authEntry .idle .txSsar .idle .txSsarDiscard,
    authEntry .idle .rxSsaa .idle .rxSsaaDiscard,
    authWildcardEntry .idle .idle .null,
    authEntry .pending .ssaaOk .opened .grantAccess,
    authEntry .pending .ssaaNosvc .disc .txStrNoSvc,
    authEntry .pending .ssaaError .disc .txStrProcError,
    authEntry .pending .ssaaFail .idle .cleanup,
    authEntry .pending .txSsar .pending .txSsar,
    authEntry .pending .rxSsaa .pending .rxSsa,
    authEntry .pending .stop .idle .disconnect,
    authWildcardEntry .pending .pending .null,
    authEntry .opened .requestAccess .opened .null,
    authEntry .opened .rxRar .opened .rxRar,
    authEntry .opened .ssaaOk .opened .grantAccess,
    authEntry .opened .rxSsar .opened .rxSsa,
    authEntry .opened .ssarOk .opened .null,
    authEntry .opened .ssarFail .idle .disconnect,
    authEntry .opened .ssaaFail .idle .disconnect,
    authEntry .opened .sessionToutSt .disc .sessionTimeoutState,
    authEntry .opened .sessionToutNost .idle .sessionTimeout,
    authEntry .opened .rxAsrOk .disc .txAsaTxStrSuccess,
    authEntry .opened .rxAsrRetry .opened .txAsaFail,
    authEntry .opened .lifetimeTout .disc .authTimeout,
    authEntry .opened .stop .idle .disconnect,
    authEntry .opened .abort .disc .userAbort,
    authEntry .opened .txSsar .opened .txSsar,
    authEntry .opened .rxSsaa .opened .rxSsa,
    authWildcardEntry .opened .opened .null,
    authEntry .disc .rxAsr .disc .txAsaSuccess,
    authEntry .disc .rxSta .idle .disconnect,
    authEntry .disc .sessionToutSt .idle .disconnect,
    authEntry .disc .lifetimeTout .idle .disconnect,
    authEntry .disc .txSsar .disc .txSsarDiscard,
    authEntry .disc .rxSsaa .disc .rxSsaaDiscard,
    authWildcardEntry .disc .disc .null ]

theorem clientTable_constructs : StateTable.construct clientTable = some clientTable := by decide +kernel

namespace Client

variable (fsm : AuthData)

/-- `DiameterClientAuthSession::RxDelivery`. -/
def rxDelivery (turn : AuthTurn) : Option AuthEvent :=
  match turn.rc with
  | .success => some (if turn.request then .ssarOk else .ssaaOk)
  | .failure => some (if turn.request then .ssarFail else .ssaaFail)
  | .noService => if !turn.request && turn.attributes.maintained then some .ssaaNosvc else none
  | .msgUnprocessed => if !turn.request && turn.attributes.maintained then some .ssaaError else none
  | .incomplete | .other => none

def grantAccess : AuthReaction :=
  let cancelled := fsm.cancelAllTimer
  let attributes := fsm.turn.attributes
  let timed :=
    if attributes.maintained then
      (cancelled.scheduleTimer .session .sessionToutSt attributes.sessionTimeout).scheduleTimer .auth .lifetimeTout
        (attributes.authLifetime + attributes.authGrace)
    else if 0 < attributes.sessionTimeout then
      cancelled.scheduleTimer .session .sessionToutNost attributes.sessionTimeout
    else cancelled
  { data := timed, callbacks := [.success] }

def rxRar : AuthReaction :=
  match fsm.turn.attributes.reAuthRequestValue with
  | none => { data := fsm, callbacks := [.txRaa aaaSuccess] }
  | some value => { data := fsm, callbacks := [.reAuthenticate value.1, .txRaa fsm.turn.reAuthenticated] }

def perform (ac : ClientAction) : AuthReaction :=
  match ac with
  | .null => { data := fsm }
  | .txSsar => { data := fsm, callbacks := [.deliver] }
  | .rxSsa => { data := fsm, callbacks := [.receive], raised := rxDelivery fsm.turn }
  | .txSsarDiscard | .rxSsaaDiscard => { data := fsm, callbacks := [.discard] }
  | .grantAccess => grantAccess fsm
  | .rxRar => rxRar fsm
  | .txStrNoSvc => { data := fsm, callbacks := [.txStr .realmNotServed] }
  | .txStrProcError => { data := fsm, callbacks := [.txStr .avpUnsupported] }
  | .sessionTimeout => { data := fsm.cancelAllTimer, callbacks := [.sessionTimeout, .reset] }
  | .sessionTimeoutState =>
    { data := fsm.cancelAllTimer, callbacks := [.txStr .authorizationRejected, .sessionTimeout] }
  | .authTimeout =>
    { data := fsm.cancelAllTimer, callbacks := [.txStr .authorizationRejected, .authorizationTimeout] }
  | .userAbort => { data := fsm.cancelAllTimer, callbacks := [.txStr .authorizationRejected] }
  | .txAsaSuccess => { data := fsm, callbacks := [.txAsa .success] }
  | .txAsaTxStrSuccess => { data := fsm, callbacks := [.txAsa .success, .txStr .success] }
  | .txAsaFail => { data := fsm, callbacks := [.txAsa .unableToComply] }
  | .cleanup => { data := fsm.cancelAllTimer, callbacks := [.abortSession, .reset] }
  | .disconnect => { data := fsm.cancelAllTimer, callbacks := [.disconnect, .reset] }

/-- `DiameterAuthSessionClientStateMachine`. -/
def program : MachineProgram AuthState AuthEvent ClientAction AuthData AuthCallback where
  table := clientTable
  initialState := .idle
  perform ac fsm := perform fsm ac

end Client

end Client

section Machines

abbrev AuthMachine := EventMachine AuthState AuthEvent AuthData

inductive AuthInput where
  /-- `Start`; a client starts again when `Begin` is called after a reset. -/
  | start
  | stop
  /-- `Notify`, by a message, the application or a timer. -/
  | notify (event : AuthEvent) (turn : AuthTurn)
  /-- The event that is notified is handled. -/
  | handle
  deriving DecidableEq, Repr

variable {Action : Type} (program : MachineProgram AuthState AuthEvent Action AuthData AuthCallback)

namespace AuthMachine

def settle (handled : AuthMachine × List AuthCallback) : AuthMachine :=
  if .reset ∈ handled.2 then { handled.1 with running := false } else handled.1

def take (machine : AuthMachine) : AuthInput → AuthMachine
  | .start => program.start machine
  | .stop => { machine with running := false }
  | .notify event turn =>
    if machine.raised.isSome then machine
    else { machine with raised := some event, data := { machine.data with turn } }
  | .handle => settle (program.handle machine)

end AuthMachine

end Machines

end OpenDiameter.Session
