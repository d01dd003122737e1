import OpenDiameter.Access.Client
import OpenDiameter.Foundation.Runs

/-! A client and a server of an application, and a channel in each direction.

Everything comes in any order: the calls of the two applications, the events that the
machines serve from their queues, and the messages that the channels deliver. As long as
the applications speak in their turn, at any time there is one thing at one place that the
conversation is waiting for. Where that is, is the phase of the conversation.
-/

set_option autoImplicit false

namespace OpenDiameter.Access

open Foundation

section System

variable {app : Application} (nas : ClientApplication app)

/-- What the applications have said and what they have been told. -/
structure History where
  given : List nas.Info
  handed : List app.Info
  signals : List (Signal app.Continuing app.Ending)
  answers : List (ResultCode × app.Data)
  told : List nas.Call

structure Joint where
  client : Client nas
  clientQueue : List ClientEvent
  clientDead : Bool
  toServer : List (Request app.Body)
  server : Server app
  serverQueue : List ServerEvent
  serverDead : Bool
  toClient : List (ResultCode × app.Answer)
  history : History nas

inductive Input where
  | forward (info : nas.Info)
  | clientNotice (notice : Notice)
  /-- What `AAAMessageControl::Send` returns when it is called. -/
  | clientServe (turn : nas.Callbacks) (accepted : Bool)
  | deliverRequest
  | signal (signal : Signal app.Continuing app.Ending)
  | serverNotice (notice : Notice)
  | serverServe (turn : app.AppTurn) (accepted : Bool)
  | deliverAnswer

def Effect.answer : Effect app → Option (ResultCode × app.Answer)
  | .sent code answer => some (code, answer)
  | .asked .. | .forwarded _ | .aborted | .faulted => none

variable {nas}

namespace Joint

variable (commands : List String) (joint : Joint nas)

/-- The requests and the answers that a machine has given to its `Send` function, and what has become of them. -/
def requests (nas : ClientApplication app) (accepted : Bool) (effects : List (ClientEffect nas)) :
    List (Transmission (Request app.Body)) :=
  (effects.filterMap ClientEffect.message).map (nas.sendRequest commands accepted)

def answers (nas : ClientApplication app) (accepted : Bool) (effects : List (Effect app)) :
    List (ResultCode × Transmission app.Answer) :=
  (effects.filterMap Effect.answer).map fun answer => (answer.1, nas.sendAnswer commands accepted answer.2)

/-- The answers that are on their way. -/
def leaving (answers : List (ResultCode × Transmission app.Answer)) : List (ResultCode × app.Answer) :=
  answers.filterMap fun answer => answer.2.message.map fun message => (answer.1, message)

/-- A queue is served by the job of its machine, a message is parsed when it is delivered. -/
def step : Input nas → Joint nas
  | .forward info =>
    match nas.forward info joint.client.data with
    | some data =>
      { joint with
        client := { joint.client with data }
        clientQueue := joint.clientQueue ++ [.rxInfo]
        history := { joint.history with given := joint.history.given ++ [info] } }
    | none => joint
  | .clientNotice notice => { joint with clientQueue := joint.clientQueue ++ [notice.clientEvent] }
  | .clientServe turn accepted =>
    match joint.clientDead, joint.clientQueue with
    | false, ev :: rest =>
      let (client, effects) := joint.client.event turn ev
      let sent := requests commands nas accepted effects
      { joint with
        client
        clientQueue := rest
        clientDead := effects.any ClientEffect.isFault || sent.any Transmission.isOverrun
        toServer := joint.toServer ++ sent.filterMap Transmission.message
        history := { joint.history with told := joint.history.told ++ effects.filterMap ClientEffect.call } }
    -- A machine that has ended, or has nothing to serve, does nothing.
    | _, _ => joint
  | .deliverRequest =>
    match joint.toServer with
    | message :: rest =>
      { joint with
        server := { joint.server with data := app.parse joint.server.data message }
        serverQueue := joint.serverQueue ++ [.rxRequest]
        toServer := rest }
    | [] => joint
  | .signal signal =>
    { joint with
      server := { joint.server with data := app.signalled signal joint.server.data }
      serverQueue := joint.serverQueue ++ [signal.event]
      history := { joint.history with signals := joint.history.signals ++ [signal] } }
  | .serverNotice notice => { joint with serverQueue := joint.serverQueue ++ [notice.event] }
  | .serverServe turn accepted =>
    match joint.serverDead, joint.serverQueue with
    | false, ev :: rest =>
      let (server, effects) := joint.server.event turn ev
      let sent := answers commands nas accepted effects
      { joint with
        server
        serverQueue := rest
        serverDead := effects.any Effect.isFault || sent.any fun answer => answer.2.isOverrun
        toClient := joint.toClient ++ leaving sent
        history := { joint.history with
          handed := joint.history.handed ++ effects.filterMap Effect.info
          answers := joint.history.answers ++ (leaving sent).map fun answer => (answer.1, server.data) } }
    | _, _ => joint
  | .deliverAnswer =>
    match joint.toClient with
    | (code, answer) :: rest =>
      { joint with
        client := { joint.client with data := nas.receive code answer joint.client.data }
        clientQueue := joint.clientQueue ++ [.rxAnswer]
        toClient := rest }
    | [] => joint

/-- Both machines before anything has happened. -/
def initial (client : nas.Data) (server : app.Data) : Joint nas :=
  ⟨⟨.initial, client⟩, [], false, [], ⟨.initial, server⟩, [], false, [], ⟨[], [], [], [], []⟩⟩

/-- Nothing is queued, and nothing is in flight. -/
def Idle : Prop := joint.clientQueue = [] ∧ joint.toServer = [] ∧ joint.serverQueue = [] ∧ joint.toClient = []

instance instDecidableIdle : Decidable joint.Idle :=
  haveI : Decidable (joint.toServer = []) := List.instDecidableEqNil _
  haveI : Decidable (joint.toClient = []) := List.instDecidableEqNil _
  inferInstanceAs (Decidable (_ ∧ _ ∧ _ ∧ _))

/-- Nothing can happen unless an application begins something. -/
def Quiescent : Prop :=
  joint.Idle ∧ joint.client.state ≠ .initial ∧ joint.client.state ≠ .waitInfo ∧ joint.server.state ≠ .waitInfo

end Joint

/-- What the applications and the libraries do. -/
structure Terms (nas : ClientApplication app) where
  asks : List String → Bool → nas.Callbacks → nas.Data → Prop
  serves : app.AppTurn → app.Data → Prop
  speaks : Signal app.Continuing app.Ending → nas.Data → app.Data → Prop
  answers : List String → Bool → Prop
  /-- A notice may end one of the machines while the other goes on. -/
  parts : Prop

def ClientState.asks : ClientState → Bool
  | .initial | .waitInfo => true
  | .waitAnswer | .checkResult | .accepted | .rejected | .waitAaAnswer | .terminated => false

def ClientEvent.notice : ClientEvent → Option Notice
  | .disconnect => some .disconnect
  | .sessionTimeout => some .sessionTimeout
  | .authLifetimeTimeout => some .authLifetimeTimeout
  | .authGracePeriodTimeout => some .authGracePeriodTimeout
  | .timeout => some .timeout
  | .rxInfo | .rxAnswer | .rxAaAnswer | .success | .limitedSuccess | .failure | .continue => none

def ServerEvent.notice : ServerEvent → Option Notice
  | .disconnect => some .disconnect
  | .sessionTimeout => some .sessionTimeout
  | .authLifetimeTimeout => some .authLifetimeTimeout
  | .authGracePeriodTimeout => some .authGracePeriodTimeout
  | .timeout => some .timeout
  | .rxRequest | .rxContinue | .rxSuccess | .rxFailure | .valid | .invalid | .authorizationSuccess
  | .authorizationFailure => none

namespace Joint

variable (joint : Joint nas)

/-- When the notices in its queue have been served, the client asks for an info. -/
def ClientAsks : Prop :=
  (∀ ev ∈ joint.clientQueue, ev.notice.isSome = true) ∧
    ((joint.clientQueue.filterMap ClientEvent.notice).foldl ClientState.after joint.client.state).asks = true

def ServerWaits : Prop := joint.server.state = .waitInfo ∧ ∀ ev ∈ joint.serverQueue, ev.notice.isSome = true

/-- A notice finds a client that waits for nothing, and ends it only if that is allowed. -/
def MayServe (parts : Prop) (notice : Notice) : Prop :=
  joint.client.state ≠ .waitAnswer ∧ joint.client.state ≠ .waitInfo ∧
    (joint.client.state = .initial ∨ joint.client.state = .accepted →
      joint.client.state.after notice = .terminated → parts)

/-- A notice finds a server that has ended, or one that nobody waits for. -/
def MayEnd (parts : Prop) : Prop :=
  joint.server.state = .rejected ∨ joint.server.state = .terminated ∨
    (joint.server.state = .initial ∨ joint.server.state = .accepted) ∧
      joint.toServer = [] ∧ ServerEvent.rxRequest ∉ joint.serverQueue ∧ parts

instance instDecidableClientAsks : Decidable joint.ClientAsks := inferInstanceAs (Decidable (_ ∧ _))

instance instDecidableServerWaits : Decidable joint.ServerWaits := inferInstanceAs (Decidable (_ ∧ _))

instance instDecidableMayServe (parts : Prop) [Decidable parts] (notice : Notice) :
    Decidable (joint.MayServe parts notice) :=
  inferInstanceAs (Decidable (_ ∧ _ ∧ (_ → _ → _)))

instance instDecidableMayEnd (parts : Prop) [Decidable parts] : Decidable (joint.MayEnd parts) :=
  haveI : Decidable (joint.toServer = []) := List.instDecidableEqNil _
  inferInstanceAs (Decidable (_ ∨ _ ∨ _ ∧ _ ∧ _ ∧ _))

end Joint

def Joint.Meets (commands : List String) (terms : Terms nas) (joint : Joint nas) : Input nas → Prop
  | .forward info => nas.forward info joint.client.data = none ∨ joint.ClientAsks
  | .clientServe turn accepted => ∀ ev ∈ joint.clientQueue.head?,
    (ev = .rxInfo → terms.asks commands accepted turn joint.client.data ∧ joint.server.state ≠ .terminated) ∧
      ∀ notice ∈ ev.notice, joint.MayServe terms.parts notice
  | .signal signal => joint.ServerWaits ∧ terms.speaks signal joint.client.data joint.server.data
  | .serverServe turn accepted => ∀ ev ∈ joint.serverQueue.head?,
    (ev = .rxRequest → terms.serves turn joint.server.data) ∧
      (ev = .rxRequest ∧ (app.check turn joint.server.data).verdict = some false ∨
          ev ∈ [.rxContinue, .rxSuccess, .rxFailure] → terms.answers commands accepted) ∧
      ∀ notice ∈ ev.notice, joint.MayEnd terms.parts
  | .clientNotice _ | .serverNotice _ | .deliverRequest | .deliverAnswer => True

end System

section Phases

variable {app : Application} (nas : ClientApplication app)

/-- What has become of an info at the server: what was handed to its application and what that signalled,
unless the request was refused, and what was answered. -/
structure Handling where
  given : nas.Info
  handled : Option (app.Info × Signal app.Continuing app.Ending)
  code : ResultCode
  data : app.Data

/-- A round after which the conversation can go on. -/
structure Exchange where
  given : nas.Info
  handed : app.Info
  signal : Signal app.Continuing app.Ending
  code : ResultCode
  data : app.Data
  call : nas.Call

inductive Phase where
  /-- Nothing is on its way. -/
  | rest
  | forwarded (given : nas.Info)
  | requested (given : nas.Info) (message : Request app.Body)
  | posted (given : nas.Info)
  | waiting (given : nas.Info) (handed : app.Info)
  | signalled (given : nas.Info) (handed : app.Info) (signal : Signal app.Continuing app.Ending)
  | answered (handling : Handling nas) (answer : app.Answer)
  | received (handling : Handling nas)
  /-- The conversation has come to its end. -/
  | closed (handling : Handling nas) (call : Option nas.Call)

/-- The notices before and behind what a conversation has in the two queues. -/
structure Backlog where
  clientFirst : List Notice
  clientLast : List Notice
  serverFirst : List Notice
  serverLast : List Notice

variable {nas}

namespace Phase

variable (phase : Phase nas)

@[simp]
def given : List nas.Info :=
  match phase with
  | .rest => []
  | .forwarded given | .requested given _ | .posted given | .waiting given _ | .signalled given .. => [given]
  | .answered handling _ | .received handling | .closed handling .. => [handling.given]

@[simp]
def handed : List app.Info :=
  match phase with
  | .rest | .forwarded _ | .requested .. | .posted _ => []
  | .waiting _ handed | .signalled _ handed _ => [handed]
  | .answered handling _ | .received handling | .closed handling .. => (handling.handled.map Prod.fst).toList

@[simp]
def signals : List (Signal app.Continuing app.Ending) :=
  match phase with
  | .rest | .forwarded _ | .requested .. | .posted _ | .waiting .. => []
  | .signalled _ _ signal => [signal]
  | .answered handling _ | .received handling | .closed handling .. => (handling.handled.map Prod.snd).toList

@[simp]
def answers : List (ResultCode × app.Data) :=
  match phase with
  | .rest | .forwarded _ | .requested .. | .posted _ | .waiting .. | .signalled .. => []
  | .answered handling _ | .received handling | .closed handling .. => [(handling.code, handling.data)]

@[simp]
def told : List nas.Call :=
  match phase with
  | .closed _ call => call.toList
  | _ => []

@[simp]
def clientQueue : List ClientEvent :=
  match phase with
  | .forwarded _ => [.rxInfo]
  | .received _ => [.rxAnswer]
  | _ => []

@[simp]
def toServer : List (Request app.Body) :=
  match phase with
  | .requested _ message => [message]
  | _ => []

@[simp]
def serverQueue : List ServerEvent :=
  match phase with
  | .posted _ => [.rxRequest]
  | .signalled _ _ signal => [signal.event]
  | _ => []

@[simp]
def toClient : List (ResultCode × app.Answer) :=
  match phase with
  | .answered handling answer => [(handling.code, answer)]
  | _ => []

def joint (backlog : Backlog) (exchanges : List (Exchange nas)) (client : Client nas) (server : Server app) :
    Joint nas where
  client := client
  clientQueue :=
    backlog.clientFirst.map Notice.clientEvent ++ (phase.clientQueue ++ backlog.clientLast.map Notice.clientEvent)
  clientDead := false
  toServer := phase.toServer
  server := server
  serverQueue := backlog.serverFirst.map Notice.event ++ (phase.serverQueue ++ backlog.serverLast.map Notice.event)
  serverDead := false
  toClient := phase.toClient
  history :=
    { given := exchanges.map Exchange.given ++ phase.given
      handed := exchanges.map Exchange.handed ++ phase.handed
      signals := exchanges.map Exchange.signal ++ phase.signals
      answers := exchanges.map (fun exchange => (exchange.code, exchange.data)) ++ phase.answers
      told := exchanges.map Exchange.call ++ phase.told }

end Phase

def ResultCode.leaves : ResultCode → ServerState
  | .multiRoundAuth => .waitRequest
  | .success => .accepted
  | .authenticationRejected | .authorizationRejected | .invalidAvpValue => .rejected

def ClientState.calm : ClientState → Bool
  | .initial | .accepted | .terminated => true
  | .waitAnswer | .checkResult | .rejected | .waitInfo | .waitAaAnswer => false

def ServerState.calm : ServerState → Bool
  | .initial | .accepted | .terminated => true
  | .waitRequest | .checkRequest | .waitAuthorization | .rejected | .waitInfo => false

/-- The states of the two machines between two rounds. -/
inductive Paired (parts : Prop) : ClientState → ServerState → Prop
  | fresh : Paired parts .initial .initial
  | again : Paired parts .initial .accepted
  | onward : Paired parts .waitInfo .waitRequest
  | accepted : Paired parts .accepted .accepted
  /-- A notice has ended one of them, or both. -/
  | parted {client : ClientState} {server : ServerState} (allowed : parts) (first : client.calm = true)
      (second : server.calm = true) : Paired parts client server

/-- What a code leaves, unless a notice has ended the server since. -/
def Leaves (parts : Prop) (code : ResultCode) (server : ServerState) : Prop :=
  server = code.leaves ∨ parts ∧ code = .success ∧ server = .terminated

/-- The states of the two machines at the end. -/
inductive Closed : ClientState → ServerState → Prop
  | rejected : Closed .rejected .rejected
  | terminated : Closed .terminated .rejected
  | stranded {server : ServerState} (done : server = .accepted ∨ server = .terminated) : Closed .waitAaAnswer server

def Phase.States (parts : Prop) (backlog : Backlog) : Phase nas → ClientState → ServerState → Prop
  | .rest, client, server => Paired parts client server
  | .forwarded _, client, server =>
    Paired parts client server ∧ (backlog.clientFirst.foldl ClientState.after client).asks = true
  | .requested .., client, server | .posted _, client, server => client = .waitAnswer ∧ server.awaits = true
  | .waiting .., client, server | .signalled .., client, server => client = .waitAnswer ∧ server = .waitInfo
  | .answered handling _, client, server | .received handling, client, server =>
    client = .waitAnswer ∧ Leaves parts handling.code server
  | .closed _ call, client, server => Closed client server ∧ (client = .waitAaAnswer → call = none)

/-- What holds of the data of both machines in the phases, and of what has been finished. -/
structure Contract (nas : ClientApplication app) where
  taken : nas.Info → nas.Data → Prop
  posted : nas.Info → nas.Data → app.Data → Prop
  waiting : nas.Info → app.Info → nas.Data → app.Data → Prop
  signalled : nas.Info → app.Info → Signal app.Continuing app.Ending → nas.Data → app.Data → Prop
  received : Handling nas → nas.Data → Prop
  well : Exchange nas → Prop
  closes : Handling nas → Option nas.Call → Prop

def Phase.Holds (contract : Contract nas) : Phase nas → nas.Data → app.Data → Prop
  | .rest, _, _ => True
  | .forwarded given, client, _ => contract.taken given client
  | .requested given message, client, server => contract.posted given client (app.parse server message)
  | .posted given, client, server => contract.posted given client server
  | .waiting given handed, client, server => contract.waiting given handed client server
  | .signalled given handed signal, client, server => contract.signalled given handed signal client server
  | .answered handling answer, client, _ =>
    contract.received handling (nas.receive handling.code answer client)
  | .received handling, client, _ => contract.received handling client
  | .closed handling call, _, _ => contract.closes handling call

inductive Signal.Leads {Continuing Ending : Type} : Signal Continuing Ending → ResultCode → Prop
  | continue (argument : Continuing) : Leads (.continue argument) .multiRoundAuth
  | success (argument : Ending) : Leads (.success argument) .success
  | unauthorized (argument : Ending) : Leads (.success argument) .authorizationRejected
  | failure (argument : Ending) : Leads (.failure argument) .authenticationRejected

/-- What a client makes of an answer that it has received. -/
inductive Heeds (contract : Contract nas) (handling : Handling nas) (data : nas.Data) : Prop
  | accepts (handed : app.Info) (signal : Signal app.Continuing app.Ending)
      (handled : handling.handled = some (handed, signal)) (success : handling.code = .success)
      (checked : nas.check data = .success)
      (well : contract.well ⟨handling.given, handed, signal, handling.code, handling.data, (nas.accept data).2⟩)
  | continues (handed : app.Info) (signal : Signal app.Continuing app.Ending) (after : nas.Data) (call : nas.Call)
      (handled : handling.handled = some (handed, signal)) (multiRound : handling.code = .multiRoundAuth)
      (checked : nas.check data = .continue) (tells : nas.continuing data = (after, some call))
      (well : contract.well ⟨handling.given, handed, signal, handling.code, handling.data, call⟩)
  | rejects (final : handling.code.leaves = .rejected) (checked : nas.check data = .failure)
      (closes : contract.closes handling (some (nas.reject data)))
  | strands (second : nas.secondLeg = true) (success : handling.code = .success)
      (checked : nas.check data = .limitedSuccess) (closes : contract.closes handling none)

/-- What has to be shown of each operation of the two applications. -/
structure Contract.Kept (contract : Contract nas) (commands : List String) (terms : Terms nas) : Prop where
  forward : ∀ {info : nas.Info} {before after : nas.Data}, nas.forward info before = some after →
    contract.taken info after
  request : ∀ {info : nas.Info} {turn : nas.Callbacks} {accepted : Bool} {client : nas.Data}, contract.taken info client →
    terms.asks commands accepted turn client → ∃ after message, nas.request turn client = (after, .sends message) ∧
      nas.sendRequest commands accepted message = .sent message ∧
        ∀ server, contract.posted info after (app.parse server message)
  check : ∀ {info : nas.Info} {turn : app.AppTurn} {client : nas.Data} {server : app.Data},
    contract.posted info client server → terms.serves turn server →
    ((app.check turn server).verdict = some true ∧
        ∃ handed, app.info (app.check turn server).data = some handed ∧
          contract.waiting info handed client (app.check turn server).data) ∨
      (app.check turn server).verdict = some false ∧ ∃ after answer,
        app.send turn .invalidAvpValue (app.check turn server).data = (after, .sends answer) ∧
          contract.received ⟨info, none, .invalidAvpValue, after⟩ (nas.receive .invalidAvpValue answer client)
  signal : ∀ {info : nas.Info} {handed : app.Info} {signal : Signal app.Continuing app.Ending} {client : nas.Data}
    {server : app.Data}, contract.waiting info handed client server → terms.speaks signal client server →
    contract.signalled info handed signal client (app.signalled signal server)
  authorize : ∀ (turn : app.AppTurn) {info : nas.Info} {handed : app.Info} {ending : app.Ending} {client : nas.Data}
    {server : app.Data}, contract.signalled info handed (.success ending) client server →
    contract.signalled info handed (.success ending) client (app.authorize turn server).2.1
  answer : ∀ (turn : app.AppTurn) {info : nas.Info} {handed : app.Info} {signal : Signal app.Continuing app.Ending}
    {client : nas.Data} {server : app.Data} {code : ResultCode},
    contract.signalled info handed signal client server → signal.Leads code →
    ∃ after answer, app.send turn code server = (after, .sends answer) ∧
      contract.received ⟨info, some (handed, signal), code, after⟩ (nas.receive code answer client)
  carries : ∀ {accepted : Bool}, terms.answers commands accepted →
    ∀ answer, nas.sendAnswer commands accepted answer = .sent answer
  heeds : ∀ {handling : Handling nas} {client : nas.Data}, contract.received handling client →
    Heeds contract handling client

structure Contract.Stands (contract : Contract nas) (parts : Prop) (backlog : Backlog) (phase : Phase nas)
    (exchanges : List (Exchange nas)) (client : Client nas) (server : Server app) : Prop where
  states : phase.States parts backlog client.state server.state
  holds : phase.Holds contract client.data server.data
  well : ∀ exchange ∈ exchanges, contract.well exchange

def Contract.Stage (contract : Contract nas) (parts : Prop) (joint : Joint nas) : Prop :=
  ∃ backlog phase exchanges client server, joint = phase.joint backlog exchanges client server ∧
    contract.Stands parts backlog phase exchanges client server

end Phases

section Serving

variable {app : Application} {server : Server app} {turn : app.AppTurn}

structure Answers (effects : List (Effect app)) (code : ResultCode) (answer : app.Answer) : Prop where
  answers : effects.filterMap Effect.answer = [(code, answer)]
  codes : effects.filterMap Effect.code = [code]
  infos : effects.filterMap Effect.info = []
  alive : effects.any Effect.isFault = false

theorem filterMap_answer_asking (calls : List (Call Value × Bool)) : (app.asking calls).filterMap Effect.answer = [] := by
  induction calls with
  | nil => rfl
  | cons call rest ih => exact ih

theorem answers_asking (calls : List (Call Value × Bool)) (code : ResultCode) (answer : app.Answer) :
    Answers (app.asking calls ++ [.sent code answer]) code answer where
  answers := by
    rw [List.filterMap_append, filterMap_answer_asking]
    rfl
  codes := by
    rw [List.filterMap_append, filterMap_code_asking]
    rfl
  infos := by
    rw [List.filterMap_append, filterMap_info_asking]
    rfl
  alive := by
    rw [List.any_append, any_isFault_asking]
    rfl

structure Hands (effects : List (Effect app)) (handed : app.Info) : Prop where
  answers : effects.filterMap Effect.answer = []
  codes : effects.filterMap Effect.code = []
  infos : effects.filterMap Effect.info = [handed]
  alive : effects.any Effect.isFault = false

theorem hands_asking (calls : List (Call Value × Bool)) (handed : app.Info) :
    Hands (app.asking calls ++ [.forwarded handed]) handed where
  answers := by
    rw [List.filterMap_append, filterMap_answer_asking]
    rfl
  codes := by
    rw [List.filterMap_append, filterMap_code_asking]
    rfl
  infos := by
    rw [List.filterMap_append, filterMap_info_asking]
    rfl
  alive := by
    rw [List.any_append, any_isFault_asking]
    rfl

theorem Answers.leaving {effects : List (Effect app)} {code : ResultCode} {answer : app.Answer}
    (answers : Answers effects code answer) {nas : ClientApplication app} {commands : List String} {accepted : Bool}
    (carried : nas.sendAnswer commands accepted answer = .sent answer) :
    Joint.answers commands nas accepted effects = [(code, .sent answer)] := by
  rw [Joint.answers, answers.answers, List.map_singleton, carried]

theorem answering_of_sends {code : ResultCode} {next : ServerState} {after : app.Data} {answer : app.Answer}
    (sends : app.send turn code server.data = (after, .sends answer)) :
    server.answering turn code next = (⟨next, after⟩, [.sent code answer]) := by
  rw [Server.answering, sends]
  rfl

end Serving

section Steps

variable {app : Application} {nas : ClientApplication app} {commands : List String} {terms : Terms nas}
  {contract : Contract nas}
  {exchanges : List (Exchange nas)} {client : Client nas} {server : Server app}

theorem Contract.Kept.serve_signal (kept : contract.Kept commands terms) {given : nas.Info} {handed : app.Info}
    {signal : Signal app.Continuing app.Ending} (turn : app.AppTurn) (waits : server.state = .waitInfo)
    (signalled : contract.signalled given handed signal client.data server.data) :
    ∃ code after answer effects, server.event turn signal.event = (⟨code.leaves, after⟩, effects) ∧
      Answers effects code answer ∧
      contract.received ⟨given, some (handed, signal), code, after⟩ (nas.receive code answer client.data) := by
  cases signal with
  | «continue» argument =>
    obtain ⟨after, answer, sends, received⟩ := kept.answer turn signalled (.continue argument)
    refine ⟨_, after, answer, _, ?_, answers_asking [] _ _, received⟩
    rw [Signal.event, Server.event_continue turn waits, answering_of_sends sends]
    rfl
  | failure argument =>
    obtain ⟨after, answer, sends, received⟩ := kept.answer turn signalled (.failure argument)
    refine ⟨_, after, answer, _, ?_, answers_asking [] _ _, received⟩
    rw [Signal.event, Server.event_failure turn waits, answering_of_sends sends]
    rfl
  | success argument =>
    rw [Signal.event, Server.event_success turn waits, Server.authorizing]
    have authorized := kept.authorize turn signalled
    split
    case isTrue =>
      obtain ⟨after, answer, sends, received⟩ := kept.answer turn signalled (.success argument)
      exact ⟨_, after, answer, _, answering_of_sends sends, answers_asking [] _ _, received⟩
    case isFalse =>
      dsimp only
      split
      · obtain ⟨after, answer, sends, received⟩ := kept.answer turn authorized (.success argument)
        refine ⟨_, after, answer, _, ?_, answers_asking (app.authorize turn server.data).2.2 _ _, received⟩
        rw [answering_of_sends sends]
        rfl
      · obtain ⟨after, answer, sends, received⟩ := kept.answer turn authorized (.unauthorized argument)
        refine ⟨_, after, answer, _, ?_, answers_asking (app.authorize turn server.data).2.2 _ _, received⟩
        rw [answering_of_sends sends]
        rfl

theorem Contract.Kept.serve_request (kept : contract.Kept commands terms) {given : nas.Info} {turn : app.AppTurn}
    (awaits : server.state.awaits = true) (posted : contract.posted given client.data server.data)
    (serves : terms.serves turn server.data) :
    (∃ after handed effects, server.event turn .rxRequest = (⟨.waitInfo, after⟩, effects) ∧ Hands effects handed ∧
        contract.waiting given handed client.data after) ∨
      (app.check turn server.data).verdict = some false ∧
        ∃ after answer effects, server.event turn .rxRequest = (⟨.rejected, after⟩, effects) ∧
        Answers effects .invalidAvpValue answer ∧
        contract.received ⟨given, none, .invalidAvpValue, after⟩ (nas.receive .invalidAvpValue answer client.data) := by
  rw [Server.event_request turn awaits, Server.checking]
  rcases kept.check posted serves with ⟨valid, handed, hands, waiting⟩ | ⟨invalid, after, answer, sends, received⟩
  · apply Or.inl
    have forwards : app.forwarding (app.check turn server.data).data = .forwarded handed := by
      rw [Application.forwarding, hands]
    refine ⟨_, handed, _, ?_, hands_asking (app.check turn server.data).calls handed, waiting⟩
    dsimp only
    rw [valid, forwards]
  · apply Or.inr
    refine ⟨invalid, after, answer, _, ?_, answers_asking (app.check turn server.data).calls _ _, received⟩
    dsimp only
    rw [invalid]
    dsimp only
    rw [answering_of_sends sends]

@[simp]
theorem ClientState.calm_after (state : ClientState) (notice : Notice) (calm : state.calm = true) :
    (state.after notice).calm = true := by
  cases state with
  | initial | accepted | terminated => cases notice <;> rfl
  | waitAnswer | checkResult | rejected | waitInfo | waitAaAnswer => cases calm

/-- A client that awaits an answer, or that has ended, asks for nothing after a notice. -/
theorem ClientState.asks_foldl (notices : List Notice) {state : ClientState} (unasked : state.asks = false)
    (unaccepted : state ≠ .accepted) : (notices.foldl ClientState.after state).asks = false := by
  induction notices generalizing state with
  | nil => exact unasked
  | cons notice notices ih =>
    rw [List.foldl_cons]
    cases state with
    | initial | waitInfo => cases unasked
    | accepted => exact absurd rfl unaccepted
    | waitAnswer | checkResult | rejected | waitAaAnswer | terminated => exact ih rfl nofun

theorem ClientEvent.clientEvent_of_notice {ev : ClientEvent} {notice : Notice} (is : ev.notice = some notice) :
    notice.clientEvent = ev := by
  cases ev <;> cases is <;> rfl

theorem ClientEvent.map_notices {queue : List ClientEvent} (all : ∀ ev ∈ queue, ev.notice.isSome = true) :
    (queue.filterMap ClientEvent.notice).map Notice.clientEvent = queue := by
  induction queue with
  | nil => rfl
  | cons ev queue ih =>
    obtain ⟨here, later⟩ := List.forall_mem_cons.mp all
    obtain ⟨notice, is⟩ := Option.isSome_iff_exists.mp here
    rw [List.filterMap_cons_some is, List.map_cons, ih later, clientEvent_of_notice is]

theorem Notice.notice_clientEvent (notice : Notice) : notice.clientEvent.notice = some notice := by
  cases notice <;> rfl

theorem Notice.notice_event (notice : Notice) : notice.event.notice = some notice := by
  cases notice <;> rfl

theorem Signal.event_mem {Continuing Ending : Type} (signal : Signal Continuing Ending) :
    signal.event ∈ [ServerEvent.rxContinue, .rxSuccess, .rxFailure] ∧ signal.event.notice = none := by
  cases signal <;> exact ⟨(by simp [Signal.event]), rfl⟩

def ServerState.ended (state : ServerState) : ServerState := if state = .rejected then .rejected else .terminated

theorem ResultCode.leaves_ne (code : ResultCode) : code.leaves ≠ .waitInfo ∧ code.leaves ≠ .initial := by
  cases code <;> exact ⟨nofun, nofun⟩

section States

variable {parts : Prop} {state : ClientState} {peer : ServerState}

theorem Paired.unwaiting (paired : Paired parts state peer) : peer ≠ .waitInfo := by
  cases paired with
  | fresh | again | onward | accepted => nofun
  | parted allowed first second =>
    rintro rfl
    cases second

theorem Paired.noticed (paired : Paired parts state peer) {notice : Notice} (may : state ≠ .waitAnswer ∧ state ≠ .waitInfo ∧
      (state = .initial ∨ state = .accepted → state.after notice = .terminated → parts)) :
    Paired parts (state.after notice) peer := by
  obtain ⟨-, unasked, ends⟩ := may
  cases paired with
  | fresh =>
    cases notice with
    | disconnect => exact .parted (ends (Or.inl rfl) rfl) rfl rfl
    | sessionTimeout | authLifetimeTimeout | authGracePeriodTimeout | timeout => exact .fresh
  | again =>
    cases notice with
    | disconnect => exact .parted (ends (Or.inl rfl) rfl) rfl rfl
    | sessionTimeout | authLifetimeTimeout | authGracePeriodTimeout | timeout => exact .again
  | onward => exact absurd rfl unasked
  | accepted =>
    cases notice with
    | disconnect | sessionTimeout | authGracePeriodTimeout => exact .parted (ends (Or.inr rfl) rfl) rfl rfl
    | authLifetimeTimeout => exact .again
    | timeout => exact .accepted
  | parted allowed first second => exact .parted allowed (state.calm_after notice first) second

theorem Paired.ended (paired : Paired parts state peer)
    (may : peer = .rejected ∨ peer = .terminated ∨ (peer = .initial ∨ peer = .accepted) ∧ parts) :
    Paired parts state peer.ended := by
  have rests (calm : state.calm = true) (second : peer.calm = true) : Paired parts state peer.ended := by
    rcases may with rfl | rfl | ⟨rfl | rfl, allowed⟩
    · cases second
    · cases paired with
      | parted allowed first second => exact .parted allowed first rfl
    · exact .parted allowed calm rfl
    · exact .parted allowed calm rfl
  cases paired with
  | fresh | again | accepted => exact rests rfl rfl
  | onward => rcases may with same | same | ⟨same | same, -⟩ <;> cases same
  | parted allowed first second => exact rests first second

theorem Paired.awaits (paired : Paired parts state peer) (asks : state.asks = true) (lives : peer ≠ .terminated) :
    peer.awaits = true := by
  cases paired with
  | fresh | again | onward => rfl
  | accepted => cases asks
  | parted allowed first second =>
    cases peer with
    | initial | accepted => rfl
    | terminated => exact absurd rfl lives
    | waitRequest | checkRequest | waitAuthorization | rejected | waitInfo => cases second

theorem Closed.noticed (closed : Closed state peer) (notice : Notice) :
    Closed (state.after notice) peer ∧ (state.after notice = .waitAaAnswer → state = .waitAaAnswer) := by
  cases closed with
  | rejected | terminated => exact ⟨.terminated, nofun⟩
  | stranded done => exact ⟨.stranded done, fun _ => rfl⟩

theorem Closed.ended (closed : Closed state peer) : Closed state peer.ended := by
  cases closed with
  | rejected => exact .rejected
  | terminated => exact .terminated
  | stranded done =>
    refine .stranded (Or.inr ?_)
    rcases done with rfl | rfl <;> rfl

theorem Closed.unasked (closed : Closed state peer) : state.asks = false ∧ state ≠ .accepted ∧ peer ≠ .waitInfo := by
  cases closed with
  | rejected | terminated => exact ⟨rfl, nofun, nofun⟩
  | stranded done =>
    refine ⟨rfl, nofun, ?_⟩
    rcases done with rfl | rfl <;> nofun

theorem Closed.settled (closed : Closed state peer) (unstranded : state ≠ .waitAaAnswer) :
    (state = .rejected ∨ state = .terminated) ∧ peer = .rejected := by
  cases closed with
  | rejected => exact ⟨Or.inl rfl, rfl⟩
  | terminated => exact ⟨Or.inr rfl, rfl⟩
  | stranded => exact absurd rfl unstranded

theorem Leaves.ended {code : ResultCode} (leaves : Leaves parts code peer)
    (may : peer = .rejected ∨ peer = .terminated ∨ (peer = .initial ∨ peer = .accepted) ∧ parts) :
    Leaves parts code peer.ended := by
  rcases leaves with rfl | ⟨allowed, same, rfl⟩
  · cases code with
    | multiRoundAuth => rcases may with same | same | ⟨same | same, -⟩ <;> cases same
    | success =>
      rcases may with same | same | ⟨-, allowed⟩
      · cases same
      · cases same
      · exact Or.inr ⟨allowed, rfl, rfl⟩
    | authenticationRejected | authorizationRejected | invalidAvpValue => exact Or.inl rfl
  · exact Or.inr ⟨allowed, same, rfl⟩

theorem Leaves.unwaiting {code : ResultCode} (leaves : Leaves parts code peer) : peer ≠ .waitInfo := by
  rcases leaves with rfl | ⟨-, -, rfl⟩
  · exact code.leaves_ne.1
  · nofun

end States

section Notices

variable {phase : Phase nas} {backlog : Backlog}

theorem Contract.Stands.noticed (stands : contract.Stands terms.parts backlog phase exchanges client server)
    {notice : Notice} (may : (phase.joint backlog exchanges client server).MayServe terms.parts notice) {after : Backlog}
    (asks : ∀ given, phase = .forwarded given →
      (after.clientFirst.foldl ClientState.after (client.state.after notice)).asks = true) :
    contract.Stands terms.parts after phase exchanges ⟨client.state.after notice, client.data⟩ server := by
  have states := stands.states
  refine ⟨?_, stands.holds, stands.well⟩
  cases phase with
  | rest => exact Paired.noticed states may
  | forwarded given => exact ⟨states.1.noticed may, asks given rfl⟩
  | requested | posted | waiting | signalled | answered | received => exact absurd states.1 may.1
  | closed handling call =>
    obtain ⟨closed, same⟩ := states.1.noticed notice
    exact ⟨closed, fun stranded => states.2 (same stranded)⟩

theorem Contract.Stands.ended (stands : contract.Stands terms.parts backlog phase exchanges client server)
    (may : (phase.joint backlog exchanges client server).MayEnd terms.parts) (after : Backlog)
    (same : after.clientFirst = backlog.clientFirst) :
    contract.Stands terms.parts after phase exchanges client ⟨server.state.ended, server.data⟩ := by
  have states := stands.states
  have ends : server.state = .rejected ∨ server.state = .terminated ∨
      (server.state = .initial ∨ server.state = .accepted) ∧ terms.parts :=
    may.imp_right (Or.imp_right fun quiet => ⟨quiet.1, quiet.2.2.2⟩)
  have busy (awaits : server.state.awaits = true)
      (way : phase.toServer ≠ [] ∨ ServerEvent.rxRequest ∈ phase.serverQueue) : False := by
    rcases may with rejected | terminated | ⟨-, empty, unasked, -⟩
    · have same : server.state = .rejected := rejected
      rw [same] at awaits
      cases awaits
    · have same : server.state = .terminated := terminated
      rw [same] at awaits
      cases awaits
    · rcases way with way | way
      · exact way empty
      · exact unasked (List.mem_append_right _ (List.mem_append_left _ way))
  have unwaiting (waits : server.state = .waitInfo) : False := by
    rw [waits] at ends
    rcases ends with same | same | ⟨same | same, -⟩ <;> cases same
  refine ⟨?_, stands.holds, stands.well⟩
  cases phase with
  | rest => exact Paired.ended states ends
  | forwarded given =>
    refine ⟨states.1.ended ends, ?_⟩
    rw [same]
    exact states.2
  | requested given message => exact (busy states.2 (Or.inl (List.cons_ne_nil _ _))).elim
  | posted given => exact (busy states.2 (Or.inr List.mem_cons_self)).elim
  | waiting | signalled => exact (unwaiting states.2).elim
  | answered | received => exact ⟨states.1, states.2.ended ends⟩
  | closed handling call => exact ⟨states.1.ended, states.2⟩

end Notices

section Queues

variable {phase : Phase nas} {backlog : Backlog}

/-- What is idle has nothing of the conversation on its way either. -/
theorem Phase.idle (idle : (phase.joint backlog exchanges client server).Idle) :
    phase.clientQueue = [] ∧ phase.toServer = [] ∧ phase.serverQueue = [] ∧ phase.toClient = [] :=
  ⟨(List.append_eq_nil_iff.mp (List.append_eq_nil_iff.mp idle.1).2).1, idle.2.1,
    (List.append_eq_nil_iff.mp (List.append_eq_nil_iff.mp idle.2.2.1).2).1, idle.2.2.2⟩

theorem Phase.count_clientQueue : (phase.joint backlog exchanges client server).clientQueue.count .rxAnswer =
    phase.clientQueue.count .rxAnswer := by
  have none (notices : List Notice) : (notices.map Notice.clientEvent).count .rxAnswer = 0 := by
    rw [List.count_eq_zero]
    intro mem
    obtain ⟨notice, -, same⟩ := List.mem_map.mp mem
    cases notice <;> cases same
  rw [Phase.joint, List.count_append, List.count_append, none, none, Nat.zero_add, Nat.add_zero]

end Queues

section Inputs

variable {phase : Phase nas} {backlog : Backlog}

theorem Contract.Stands.rest_of_asks (stands : contract.Stands terms.parts backlog phase exchanges client server)
    (asks : (phase.joint backlog exchanges client server).ClientAsks) : phase = .rest := by
  have states := stands.states
  obtain ⟨noticed, asks⟩ := asks
  have unasked (waits : client.state.asks = false) (unaccepted : client.state ≠ .accepted) : False := by
    have never := ClientState.asks_foldl
      ((phase.joint backlog exchanges client server).clientQueue.filterMap ClientEvent.notice) waits unaccepted
    exact Bool.false_ne_true (never.symm.trans asks)
  have only {ev : ClientEvent} (mem : ev ∈ phase.clientQueue) : ev.notice.isSome = true :=
    noticed ev (List.mem_append_right _ (List.mem_append_left _ mem))
  cases phase with
  | rest => rfl
  | forwarded given => cases only List.mem_cons_self
  | requested | posted | waiting | signalled | answered =>
    exact (unasked (by rw [states.1]; rfl) (by rw [states.1]; nofun)).elim
  | received handling => cases only List.mem_cons_self
  | closed handling call => exact (unasked states.1.unasked.1 states.1.unasked.2.1).elim

theorem Contract.Kept.step_forward (kept : contract.Kept commands terms) {info : nas.Info}
    (stands : contract.Stands terms.parts backlog phase exchanges client server)
    (meets : (phase.joint backlog exchanges client server).Meets commands terms (.forward info)) :
    contract.Stage terms.parts ((phase.joint backlog exchanges client server).step commands (.forward info)) := by
  cases taken : nas.forward info client.data with
  | none =>
    refine ⟨backlog, phase, exchanges, client, server, ?_, stands⟩
    simp only [Joint.step, Phase.joint, taken]
  | some after =>
    rcases meets with untaken | asks
    · cases taken.symm.trans untaken
    · obtain rfl := stands.rest_of_asks asks
      obtain ⟨noticed, final⟩ := asks
      have queue := ClientEvent.map_notices noticed
      generalize ((Phase.rest : Phase nas).joint backlog exchanges client server).clientQueue.filterMap
        ClientEvent.notice = notices at queue final
      refine ⟨⟨notices, [], backlog.serverFirst, backlog.serverLast⟩, .forwarded info, exchanges, ⟨client.state, after⟩,
        server, ?_, ⟨stands.states, final⟩, kept.forward taken, stands.well⟩
      simp only [Phase.joint, Phase.clientQueue, List.nil_append] at queue
      simp [Joint.step, Phase.joint, taken, queue]

theorem Contract.Stands.serve_clientNotice (stands : contract.Stands terms.parts backlog phase exchanges client server)
    {notice : Notice} (turn : nas.Callbacks) (accepted : Bool) (may : (phase.joint backlog exchanges client server).MayServe terms.parts notice)
    (first : List Notice) {last : List Notice}
    (queue : backlog.clientFirst.map Notice.clientEvent ++
        (phase.clientQueue ++ backlog.clientLast.map Notice.clientEvent) =
      notice.clientEvent :: (first.map Notice.clientEvent ++ (phase.clientQueue ++ last.map Notice.clientEvent)))
    (asks : ∀ given, phase = .forwarded given →
      (first.foldl ClientState.after (client.state.after notice)).asks = true) :
    contract.Stage terms.parts
      ((phase.joint backlog exchanges client server).step commands (.clientServe turn accepted)) := by
  obtain ⟨same, messages, calls, alive⟩ := Client.event_notice client turn notice
  refine ⟨⟨first, last, backlog.serverFirst, backlog.serverLast⟩, phase, exchanges,
    ⟨client.state.after notice, client.data⟩, server, ?_, stands.noticed may asks⟩
  simp only [Joint.step, Phase.joint, queue, Joint.requests, same, messages, calls, alive, List.map_nil, List.any_nil,
    List.filterMap_nil, List.append_nil, Bool.or_false]

theorem Contract.Kept.tell (kept : contract.Kept commands terms) (turn : nas.Callbacks) (accepted : Bool)
    {handling : Handling nas} (first : backlog.clientFirst = [])
    (stands : contract.Stands terms.parts backlog (.received handling) exchanges client server) :
    contract.Stage terms.parts
      (((Phase.received handling).joint backlog exchanges client server).step commands (.clientServe turn accepted)) := by
  obtain ⟨waits, leaves⟩ := stands.states
  cases kept.heeds stands.holds with
  | accepts handed signal handled success checked well =>
    have runs := Client.event_accepted turn waits checked
    let exchange : Exchange nas :=
      ⟨handling.given, handed, signal, handling.code, handling.data, (nas.accept client.data).2⟩
    refine ⟨backlog, .rest, exchanges ++ [exchange], ⟨.accepted, (nas.accept client.data).1⟩, server, ?_, ?_, trivial, ?_⟩
    · simp [Joint.step, Phase.joint, first, runs, handled, exchange, Joint.requests, ClientEffect.isFault,
        ClientEffect.message, ClientEffect.call]
    · rcases leaves with same | ⟨allowed, -, same⟩
      · rw [same, success]
        exact .accepted
      · rw [same]
        exact .parted allowed rfl rfl
    · exact List.forall_mem_append.mpr ⟨stands.well, List.forall_mem_singleton.mpr well⟩
  | continues handed signal after call handled multiRound checked tells well =>
    have runs := Client.event_continued turn waits checked tells
    let exchange : Exchange nas := ⟨handling.given, handed, signal, handling.code, handling.data, call⟩
    refine ⟨backlog, .rest, exchanges ++ [exchange], ⟨.waitInfo, after⟩, server, ?_, ?_, trivial, ?_⟩
    · simp [Joint.step, Phase.joint, first, runs, handled, exchange, Joint.requests, ClientEffect.isFault,
        ClientEffect.message, ClientEffect.call]
    · rcases leaves with same | ⟨-, success, -⟩
      · rw [same, multiRound]
        exact .onward
      · cases multiRound.symm.trans success
    · exact List.forall_mem_append.mpr ⟨stands.well, List.forall_mem_singleton.mpr well⟩
  | rejects final checked closes =>
    have runs := Client.event_rejected turn waits checked
    refine ⟨backlog, .closed handling (some (nas.reject client.data)), exchanges, ⟨.rejected, client.data⟩, server, ?_,
      ?_, closes, stands.well⟩
    · simp [Joint.step, Phase.joint, first, runs, Joint.requests, ClientEffect.isFault, ClientEffect.message,
        ClientEffect.call]
    · rcases leaves with same | ⟨-, success, -⟩
      · rw [same, final]
        exact ⟨.rejected, nofun⟩
      · rw [success] at final
        cases final
  | strands second success checked closes =>
    have runs := Client.event_limited turn waits second checked
    refine ⟨backlog, .closed handling none, exchanges, ⟨.waitAaAnswer, client.data⟩, server, ?_, ?_, closes, stands.well⟩
    · simp [Joint.step, Phase.joint, first, runs, Joint.requests]
    · refine ⟨.stranded ?_, fun _ => rfl⟩
      rcases leaves with same | ⟨-, -, same⟩
      · rw [same, success]
        exact Or.inl rfl
      · exact Or.inr same

theorem Contract.Kept.ask (kept : contract.Kept commands terms) {turn : nas.Callbacks} {accepted : Bool}
    {given : nas.Info} (first : backlog.clientFirst = [])
    (stands : contract.Stands terms.parts backlog (.forwarded given) exchanges client server)
    (asks : terms.asks commands accepted turn client.data) (lives : server.state ≠ .terminated) :
    contract.Stage terms.parts
      (((Phase.forwarded given).joint backlog exchanges client server).step commands (.clientServe turn accepted)) := by
  obtain ⟨paired, waits⟩ := stands.states
  rw [first] at waits
  have ready : client.state = .initial ∨ client.state = .waitInfo := by
    have asking : client.state.asks = true := waits
    cases same : client.state with
    | initial => exact Or.inl rfl
    | waitInfo => exact Or.inr rfl
    | waitAnswer | checkResult | accepted | rejected | waitAaAnswer | terminated =>
      rw [same] at asking
      cases asking
  obtain ⟨after, message, sends, goes, posted⟩ := kept.request stands.holds asks
  have runs := Client.event_info turn ready sends
  refine ⟨backlog, .requested given message, exchanges, ⟨.waitAnswer, after⟩, server, ?_,
    ⟨rfl, paired.awaits waits lives⟩, posted server.data, stands.well⟩
  simp [Joint.step, Phase.joint, first, runs, Joint.requests, goes, ClientEffect.isFault, ClientEffect.message,
    ClientEffect.call, Transmission.message, Transmission.isOverrun]

theorem Contract.Kept.step_clientServe (kept : contract.Kept commands terms) {turn : nas.Callbacks} {accepted : Bool}
    (stands : contract.Stands terms.parts backlog phase exchanges client server)
    (meets : (phase.joint backlog exchanges client server).Meets commands terms (.clientServe turn accepted)) :
    contract.Stage terms.parts
      ((phase.joint backlog exchanges client server).step commands (.clientServe turn accepted)) := by
  obtain ⟨clientFirst, clientLast, serverFirst, serverLast⟩ := backlog
  cases clientFirst with
  | cons notice first =>
    refine stands.serve_clientNotice turn accepted ((meets _ rfl).2 notice notice.notice_clientEvent) first rfl ?_
    rintro given rfl
    exact stands.states.2
  | nil =>
    cases phase with
    | forwarded given =>
      obtain ⟨asks, lives⟩ := (meets _ rfl).1 rfl
      exact kept.ask rfl stands asks lives
    | received handling => exact kept.tell turn accepted rfl stands
    | rest | requested | posted | waiting | signalled | answered | closed =>
      cases clientLast with
      | nil => exact ⟨_, _, exchanges, client, server, rfl, stands⟩
      | cons notice last =>
        exact stands.serve_clientNotice turn accepted ((meets _ rfl).2 notice notice.notice_clientEvent) [] rfl nofun

theorem Contract.Stands.step_deliverRequest (stands : contract.Stands terms.parts backlog phase exchanges client server) :
    contract.Stage terms.parts ((phase.joint backlog exchanges client server).step commands .deliverRequest) := by
  cases phase with
  | requested given message =>
    refine ⟨⟨backlog.clientFirst, backlog.clientLast, backlog.serverFirst ++ backlog.serverLast, []⟩, .posted given,
      exchanges, client, ⟨server.state, app.parse server.data message⟩, ?_, stands.states, stands.holds, stands.well⟩
    simp [Joint.step, Phase.joint]
  | _ => exact ⟨_, _, exchanges, client, server, rfl, stands⟩

theorem Contract.Stands.step_deliverAnswer (stands : contract.Stands terms.parts backlog phase exchanges client server) :
    contract.Stage terms.parts ((phase.joint backlog exchanges client server).step commands .deliverAnswer) := by
  cases phase with
  | answered handling answer =>
    refine ⟨⟨backlog.clientFirst ++ backlog.clientLast, [], backlog.serverFirst, backlog.serverLast⟩,
      .received handling, exchanges, ⟨client.state, nas.receive handling.code answer client.data⟩, server, ?_,
      stands.states, stands.holds, stands.well⟩
    simp [Joint.step, Phase.joint]
  | _ => exact ⟨_, _, exchanges, client, server, rfl, stands⟩

theorem Contract.Stands.waiting_of_waits (stands : contract.Stands terms.parts backlog phase exchanges client server)
    (waiting : (phase.joint backlog exchanges client server).ServerWaits) :
    ∃ given handed, phase = .waiting given handed := by
  have states := stands.states
  obtain ⟨(waits : server.state = .waitInfo), noticed⟩ := waiting
  cases phase with
  | rest => exact absurd waits (Paired.unwaiting states)
  | forwarded => exact absurd waits states.1.unwaiting
  | requested | posted =>
    have awaits := states.2
    rw [waits] at awaits
    cases awaits
  | waiting given handed => exact ⟨given, handed, rfl⟩
  | signalled given handed signal =>
    have only := noticed signal.event (List.mem_append_right _ List.mem_cons_self)
    rw [signal.event_mem.2] at only
    cases only
  | answered | received => exact absurd waits states.2.unwaiting
  | closed => exact absurd waits states.1.unasked.2.2

theorem Contract.Kept.step_signal (kept : contract.Kept commands terms) {signal : Signal app.Continuing app.Ending}
    (stands : contract.Stands terms.parts backlog phase exchanges client server)
    (meets : (phase.joint backlog exchanges client server).Meets commands terms (.signal signal)) :
    contract.Stage terms.parts ((phase.joint backlog exchanges client server).step commands (.signal signal)) := by
  obtain ⟨waits, speaks⟩ := meets
  obtain ⟨given, handed, rfl⟩ := stands.waiting_of_waits waits
  refine ⟨⟨backlog.clientFirst, backlog.clientLast, backlog.serverFirst ++ backlog.serverLast, []⟩,
    .signalled given handed signal, exchanges, client, ⟨server.state, app.signalled signal server.data⟩, ?_,
    stands.states, kept.signal stands.holds speaks, stands.well⟩
  simp [Joint.step, Phase.joint]

theorem Contract.Stands.serve_serverNotice (stands : contract.Stands terms.parts backlog phase exchanges client server)
    {notice : Notice} (turn : app.AppTurn) (accepted : Bool)
    (may : (phase.joint backlog exchanges client server).MayEnd terms.parts) (first : List Notice) {last : List Notice}
    (queue : backlog.serverFirst.map Notice.event ++ (phase.serverQueue ++ backlog.serverLast.map Notice.event) =
      notice.event :: (first.map Notice.event ++ (phase.serverQueue ++ last.map Notice.event))) :
    contract.Stage terms.parts
      ((phase.joint backlog exchanges client server).step commands (.serverServe turn accepted)) := by
  have rests : server.state.rests = true := by
    rcases may with same | same | ⟨same | same, -⟩ <;> exact (congrArg ServerState.rests same).trans rfl
  have runs := Server.event_notice turn rests notice
  refine ⟨⟨backlog.clientFirst, backlog.clientLast, first, last⟩, phase, exchanges, client,
    ⟨server.state.ended, server.data⟩, ?_, stands.ended may _ rfl⟩
  simp only [Joint.step, Phase.joint, queue, runs, Joint.answers, Joint.leaving, List.filterMap_nil, List.map_nil,
    List.any_nil, List.append_nil, Bool.or_false, ServerState.ended]

theorem Contract.Kept.serve_posted (kept : contract.Kept commands terms) {turn : app.AppTurn} {accepted : Bool}
    {given : nas.Info} (first : backlog.serverFirst = [])
    (stands : contract.Stands terms.parts backlog (.posted given) exchanges client server)
    (serves : terms.serves turn server.data)
    (answers : (app.check turn server.data).verdict = some false → terms.answers commands accepted) :
    contract.Stage terms.parts
      (((Phase.posted given).joint backlog exchanges client server).step commands (.serverServe turn accepted)) := by
  obtain ⟨waits, awaits⟩ := stands.states
  rcases kept.serve_request awaits stands.holds serves with
    ⟨after, handed, effects, runs, hands, waiting⟩ | ⟨refused, after, answer, effects, runs, sent, received⟩
  · refine ⟨backlog, .waiting given handed, exchanges, client, ⟨.waitInfo, after⟩, ?_, ⟨waits, rfl⟩, waiting, stands.well⟩
    simp [Joint.step, Phase.joint, first, runs, Joint.answers, Joint.leaving, hands.answers, hands.infos, hands.alive]
  · have goes := sent.leaving (kept.carries (answers refused) answer)
    refine ⟨backlog, .answered ⟨given, none, .invalidAvpValue, after⟩ answer, exchanges, client, ⟨.rejected, after⟩, ?_,
      ⟨waits, Or.inl rfl⟩, received, stands.well⟩
    simp [Joint.step, Phase.joint, first, runs, goes, Joint.leaving, sent.infos, sent.alive, Transmission.message,
      Transmission.isOverrun]

theorem Contract.Kept.serve_signalled (kept : contract.Kept commands terms) (turn : app.AppTurn) {accepted : Bool}
    {given : nas.Info} {handed : app.Info} {signal : Signal app.Continuing app.Ending} (first : backlog.serverFirst = [])
    (stands : contract.Stands terms.parts backlog (.signalled given handed signal) exchanges client server)
    (answers : terms.answers commands accepted) :
    contract.Stage terms.parts (((Phase.signalled given handed signal).joint backlog exchanges client server).step commands
      (.serverServe turn accepted)) := by
  obtain ⟨waits, waiting⟩ := stands.states
  obtain ⟨code, after, answer, effects, runs, sent, received⟩ := kept.serve_signal turn waiting stands.holds
  have goes := sent.leaving (kept.carries answers answer)
  refine ⟨backlog, .answered ⟨given, some (handed, signal), code, after⟩ answer, exchanges, client, ⟨code.leaves, after⟩,
    ?_, ⟨waits, Or.inl rfl⟩, received, stands.well⟩
  simp [Joint.step, Phase.joint, first, runs, goes, Joint.leaving, sent.infos, sent.alive, Transmission.message,
    Transmission.isOverrun]

theorem Contract.Kept.step_serverServe (kept : contract.Kept commands terms) {turn : app.AppTurn} {accepted : Bool}
    (stands : contract.Stands terms.parts backlog phase exchanges client server)
    (meets : (phase.joint backlog exchanges client server).Meets commands terms (.serverServe turn accepted)) :
    contract.Stage terms.parts
      ((phase.joint backlog exchanges client server).step commands (.serverServe turn accepted)) := by
  obtain ⟨clientFirst, clientLast, serverFirst, serverLast⟩ := backlog
  cases serverFirst with
  | cons notice first =>
    exact stands.serve_serverNotice turn accepted ((meets _ rfl).2.2 notice notice.notice_event) first rfl
  | nil =>
    cases phase with
    | posted given =>
      obtain ⟨serves, answers, -⟩ := meets _ rfl
      exact kept.serve_posted rfl stands (serves rfl) fun refused => answers (Or.inl ⟨rfl, refused⟩)
    | signalled given handed signal =>
      exact kept.serve_signalled turn rfl stands ((meets _ rfl).2.1 (Or.inr signal.event_mem.1))
    | rest | forwarded | requested | waiting | answered | received | closed =>
      cases serverLast with
      | nil => exact ⟨_, _, exchanges, client, server, rfl, stands⟩
      | cons notice last =>
        exact stands.serve_serverNotice turn accepted ((meets _ rfl).2.2 notice notice.notice_event) [] rfl

theorem Contract.Stands.step_clientNotice (stands : contract.Stands terms.parts backlog phase exchanges client server)
    (notice : Notice) :
    contract.Stage terms.parts ((phase.joint backlog exchanges client server).step commands (.clientNotice notice)) := by
  refine ⟨⟨backlog.clientFirst, backlog.clientLast ++ [notice], backlog.serverFirst, backlog.serverLast⟩, phase, exchanges,
    client, server, ?_, ?_, stands.holds, stands.well⟩
  · simp only [Joint.step, Phase.joint, List.map_append, List.map_singleton, List.append_assoc]
  · cases phase <;> exact stands.states

theorem Contract.Stands.step_serverNotice (stands : contract.Stands terms.parts backlog phase exchanges client server)
    (notice : Notice) :
    contract.Stage terms.parts ((phase.joint backlog exchanges client server).step commands (.serverNotice notice)) := by
  refine ⟨⟨backlog.clientFirst, backlog.clientLast, backlog.serverFirst, backlog.serverLast ++ [notice]⟩, phase, exchanges,
    client, server, ?_, ?_, stands.holds, stands.well⟩
  · simp only [Joint.step, Phase.joint, List.map_append, List.map_singleton, List.append_assoc]
  · cases phase <;> exact stands.states

end Inputs

theorem Contract.Kept.step (kept : contract.Kept commands terms) {joint : Joint nas} {input : Input nas}
    (stage : contract.Stage terms.parts joint) (meets : joint.Meets commands terms input) :
    contract.Stage terms.parts (joint.step commands input) := by
  obtain ⟨backlog, phase, exchanges, client, server, rfl, stands⟩ := stage
  cases input with
  | forward info => exact kept.step_forward stands meets
  | clientNotice notice => exact stands.step_clientNotice notice
  | clientServe turn accepted => exact kept.step_clientServe stands meets
  | deliverRequest => exact stands.step_deliverRequest
  | signal signal => exact kept.step_signal stands meets
  | serverNotice notice => exact stands.step_serverNotice notice
  | serverServe turn accepted => exact kept.step_serverServe stands meets
  | deliverAnswer => exact stands.step_deliverAnswer

theorem Contract.stage_initial (contract : Contract nas) (parts : Prop) (first : nas.Data) (peer : app.Data) :
    contract.Stage parts (Joint.initial first peer) :=
  ⟨⟨[], [], [], []⟩, .rest, [], ⟨.initial, first⟩, ⟨.initial, peer⟩, rfl, .fresh, trivial, List.forall_mem_nil _⟩

theorem Contract.Kept.run (kept : contract.Kept commands terms) {first : nas.Data} {peer : app.Data}
    {inputs : List (Input nas)}
    (meets : Stepwise (Joint.step commands) (Joint.Meets commands terms) (.initial first peer) inputs) :
    contract.Stage terms.parts (inputs.foldl (Joint.step commands) (.initial first peer)) :=
  meets.invariant (fun _ _ stage meets => kept.step stage meets) (contract.stage_initial terms.parts first peer)

end Steps

end OpenDiameter.Access
