import OpenDiameter.Access.NasreqServer
import OpenDiameter.Foundation.Runs

/-! The rounds of a NASREQ server.

A client sends its next AA-Request when the last one has been answered, and the
application answers what is forwarded to it with one signal. The session may give notice
of a disconnect or of a timeout before the request is served and before the signal is.
-/

set_option autoImplicit false

namespace OpenDiameter.Access.NasreqRounds

open Foundation

section Rounds

abbrev NasreqTurn := Turn NasreqCallbacks

def AuthenticationInfo.isArap : AuthenticationInfo → Bool
  | .arap _ => true
  | .none | .pap .. | .chap .. => false

structure Authenticator where
  answer : AuthenticationInfo → Signal AuthenticationInfo Unit
  arapOnly : ∀ info next, answer info = .continue next →
    AuthenticationInfo.isArap info = true ∧ AuthenticationInfo.isArap next = true

structure Round where
  authRequestType : UInt32
  avps : Avp → Option Value
  body : NasreqBody
  turn : NasreqTurn
  later : NasreqTurn
  authenticator : Authenticator
  before : List Notice := []
  between : List Notice := []

def Round.message (round : Round) : Request NasreqBody := ⟨some round.authRequestType, round.avps, round.body⟩

abbrev NasreqMachine := Server nasreqServer

abbrev NasreqEffect := Effect nasreqServer

def noticed (turn : NasreqTurn) (server : NasreqMachine) (notices : List Notice) : NasreqMachine :=
  notices.foldl (fun server notice => (Server.event server turn notice.event).1) server

def Round.reached (round : Round) (server : NasreqMachine) : NasreqMachine :=
  let server := noticed round.turn server round.before
  { server with data := parseAaRequest server.data round.message }

/-- What the application does with what is forwarded to it. -/
def Round.signal (round : Round) (server : NasreqMachine) (info : AuthenticationInfo) :
    NasreqMachine × List NasreqEffect :=
  let signal := round.authenticator.answer info
  let server := noticed round.turn server round.between
  let signalled : NasreqMachine := { server with data := nasreqSignalled signal server.data }
  signalled.event round.later signal.event

def Round.run (round : Round) (server : NasreqMachine) : NasreqMachine × List NasreqEffect :=
  let (server, effects) := (round.reached server).event round.turn .rxRequest
  match effects.filterMap Effect.info with
  | [] => (server, effects)
  | info :: _ =>
    let (server, late) := round.signal server info
    (server, effects ++ late)

structure Conversation where
  server : NasreqMachine
  dead : Bool

def Conversation.initial (data : NasreqData) : Conversation := ⟨⟨.initial, data⟩, false⟩

def Conversation.step (conversation : Conversation) (round : Round) : Conversation :=
  if conversation.dead then conversation
  else
    let (server, effects) := round.run conversation.server
    ⟨server, effects.any Effect.isFault⟩

end Rounds

section Purpose

inductive Scheme where
  | chap | pap | arap
  deriving DecidableEq, Repr

def scheme (body : NasreqBody) : Option Scheme :=
  if body.userName.isNone then none
  else if body.chapAuth.isSome then if body.chapChallenge.isSome then some .chap else none
  else if body.userPassword.isSome then some .pap
  else if body.arapPassword.isSome then if body.arapChallengeResponse.isSome then some .arap else none
  else none

def Built (body : NasreqBody) : Scheme → AuthenticationInfo → Prop
  | .chap, .chap userName auth challenge =>
    body.userName = some userName ∧ body.chapAuth = some auth ∧ body.chapChallenge = some challenge
  | .pap, .pap userName password => body.userName = some userName ∧ body.userPassword = some password
  | .arap, .arap info =>
    body.userName = some info.userName ∧ body.arapPassword = some info.arapPassword ∧
      body.arapChallengeResponse = some info.arapChallengeResponse ∧ info.isFirst = true
  | _, _ => False

def Continued (body : NasreqBody) : AuthenticationInfo → Prop
  | .arap info =>
    info.isFirst = false ∧ body.arapSecurity = some info.arapSecurity ∧
      body.arapSecurityData = some info.arapSecurityData
  | .none | .pap .. | .chap .. => False

/-- The State AVP of a later round is the one that was sent, as the application sees it. -/
def stateHeld (callbacks : NasreqCallbacks) (answerState : Attribute Octets) (body : NasreqBody) : Bool :=
  !answerState.isSet || body.state.any fun state => callbacks.validState state answerState.value

inductive Due where
  | refused
  | authorized
  | chosen (scheme : Scheme)
  | continued
  deriving DecidableEq, Repr

def due (round : Round) (server : NasreqMachine) : Due :=
  if !round.turn.own.validAuthRequestType round.authRequestType then .refused
  else if round.authRequestType = authorizeOnly then .authorized
  else if server.state = .waitRequest then
    if stateHeld round.turn.own server.data.own.answerState round.body then .continued else .refused
  else (scheme round.body).elim .refused .chosen

def Done (body : NasreqBody) (handed : List AuthenticationInfo) (codes : List ResultCode) : Due → Prop
  | .refused => handed = []
  | .authorized => handed = [] ∧ (codes = [.success] ∨ codes = [.authorizationRejected])
  | .chosen scheme => ∃ info, handed = [info] ∧ Built body scheme info
  | .continued => ∃ info, handed = [info] ∧ Continued body info

def Open (server : NasreqMachine) : Prop := server.state ≠ .rejected ∧ server.state ≠ .terminated

instance (server : NasreqMachine) : Decidable (Open server) := inferInstanceAs (Decidable (_ ∧ _))

def Follows (conversation : Conversation) (round : Round) : Prop :=
  conversation.dead = false ∧ (Open (round.reached conversation.server) →
    ((round.run conversation.server).2.filterMap Effect.code).length = 1 ∧
      Done round.body ((round.run conversation.server).2.filterMap Effect.info)
        ((round.run conversation.server).2.filterMap Effect.code) (due round (round.reached conversation.server)))

end Purpose

section Condition

/-- Nothing of the request is to be handed to the application, and the code finds so too. -/
def Refusable (round : Round) (server : NasreqMachine) : Prop :=
  match server.data.own.info with
  | none | some .none | some (.pap ..) | some (.chap ..) => server.state ≠ .waitRequest ∧ scheme round.body = none
  | some (.arap _) =>
    arapMultiRound server.data = false ∧ stateHeld round.turn.own server.data.own.answerState round.body = false ∧
      (server.state ≠ .waitRequest → scheme round.body = none)

instance (round : Round) (server : NasreqMachine) : Decidable (Refusable round server) := by
  unfold Refusable
  split <;> infer_instance

def First (round : Round) (server : NasreqMachine) : Prop :=
  server.data.own.info = none ∧ server.state ≠ .waitRequest ∧ round.between = []

instance (round : Round) (server : NasreqMachine) : Decidable (First round server) :=
  inferInstanceAs (Decidable (_ ∧ _ ∧ _))

def Plain (conversation : Conversation) (round : Round) : Prop :=
  Open (round.reached conversation.server) → round.turn.own.validAuthRequestType round.authRequestType = false ∨
    round.authRequestType ≠ authorizeOnly ∧
      (First round (round.reached conversation.server) ∨ Refusable round (round.reached conversation.server))

instance (conversation : Conversation) (round : Round) : Decidable (Plain conversation round) :=
  inferInstanceAs (Decidable (_ → _ ∨ _ ∧ (_ ∨ _)))

end Condition

section Checks

variable {data : NasreqData} {round : Round}

/-- The code chooses as documented, from a request that has just been read. -/
theorem selectInfo_parse (callbacks : NasreqCallbacks) (data : NasreqData) (message : Request NasreqBody) :
    match scheme message.body with
    | none => selectInfo callbacks (parseAaRequest data message).own = none
    | some chosen => ∃ info, selectInfo callbacks (parseAaRequest data message).own = some info ∧
        Built message.body chosen info := by
  obtain ⟨type, avps, userName, userPassword, chapAuth, chapChallenge, arapPassword, response, security, securityData,
    state⟩ := message
  cases userName with
  | none => exact rfl
  | some name =>
    cases chapAuth with
    | some auth =>
      cases chapChallenge with
      | none => exact rfl
      | some challenge => exact ⟨_, rfl, rfl, rfl, rfl⟩
    | none =>
      cases userPassword with
      | some password => exact ⟨_, rfl, rfl, rfl⟩
      | none =>
        cases arapPassword with
        | none => exact rfl
        | some password =>
          cases response with
          | none => exact rfl
          | some answer => exact ⟨_, rfl, rfl, rfl, rfl, rfl⟩

theorem checkAaState_eq (callbacks : NasreqCallbacks) (own : NasreqOwn) :
    (checkAaState callbacks own).1 =
      (!own.answerState.isSet || own.state.carried.any fun state => callbacks.validState state own.answerState.value) := by
  unfold checkAaState Attribute.carried
  cases own.answerState.isSet with
  | false => rfl
  | true =>
    cases own.state.isSet with
    | false => rfl
    | true =>
      cases valid : callbacks.validState own.state.value own.answerState.value <;> simp [valid]

variable {turn : NasreqTurn} {data : NasreqData} {message : Request NasreqBody}

theorem check_unaccepted (unaccepted : turn.own.validAuthRequestType data.requestType.value = false) :
    checkAaRequest turn data = { data, verdict := some false } := by
  rw [checkAaRequest, unaccepted]
  rfl

section Accepted

variable (accepted : turn.own.validAuthRequestType data.requestType.value = true)
  (authenticates : data.requestType.value ≠ authorizeOnly)
include accepted authenticates

theorem check_first {info : AuthenticationInfo} (first : data.own.info = none)
    (chosen : selectInfo turn.own data.own = some info) :
    (checkAaRequest turn data).verdict = some true ∧ (checkAaRequest turn data).calls = [] ∧
      (checkAaRequest turn data).data.own.info = some info := by
  simp only [checkAaRequest, accepted, authenticates, first, chosen, Bool.not_true, Bool.false_eq_true, if_false,
    and_self]

theorem check_refused
    (refused : data.own.info = none ∧ selectInfo turn.own data.own = none ∨
      (∃ info, data.own.info = some (.arap info)) ∧ arapMultiRound data = false ∧
        (checkAaState turn.own data.own).1 = false ∨
      ∃ info, data.own.info = some info ∧ AuthenticationInfo.isArap info = false) :
    (checkAaRequest turn data).verdict = some false ∧ (checkAaRequest turn data).calls = [] := by
  rcases refused with ⟨first, unchosen⟩ | ⟨⟨info, arap⟩, once, unheld⟩ | ⟨info, other, notArap⟩
  · simp only [checkAaRequest, accepted, authenticates, first, unchosen, Bool.not_true, Bool.false_eq_true, if_false,
      and_self]
  · have same : arapMultiRound { data with answerType := .set data.requestType.value } = false := once
    simp only [checkAaRequest, accepted, authenticates, arap, same, unheld, Bool.not_true, Bool.false_eq_true, if_false,
      and_self]
  · cases info with
    | arap => cases notArap
    | none | pap | chap =>
      simp only [checkAaRequest, accepted, authenticates, other, Bool.not_true, Bool.false_eq_true, if_false, and_self]

end Accepted

end Checks

section Answers

variable {turn : NasreqTurn} {server : NasreqMachine} {info : AuthenticationInfo}

theorem sends_of_info (turn : NasreqTurn) (code : ResultCode) {data : NasreqData} (known : data.own.info = some info)
    (final : code ≠ .multiRoundAuth ∨ AuthenticationInfo.isArap info = true) :
    ∃ answer, (acSendAaAnswer turn code data).2 = .sends answer := by
  cases code with
  | authorizationRejected | invalidAvpValue => exact ⟨_, rfl⟩
  | success | authenticationRejected =>
    cases info <;> simp only [acSendAaAnswer, known] <;> exact ⟨_, rfl⟩
  | multiRoundAuth =>
    cases info with
    | arap => simp only [acSendAaAnswer, known]; exact ⟨_, rfl⟩
    | none | pap | chap => rcases final with final | final <;> first | exact absurd rfl final | cases final

structure OneAnswer (effects : List NasreqEffect) : Prop where
  codes : (effects.filterMap Effect.code).length = 1
  infos : effects.filterMap Effect.info = []
  alive : effects.any Effect.isFault = false

theorem answering_one {code : ResultCode} {answer : AaAnswer} (next : ServerState)
    (sends : (acSendAaAnswer turn code server.data).2 = .sends answer) (calls : List (Call Value × Bool)) :
    OneAnswer (nasreqServer.asking calls ++ (Server.answering server turn code next).2) ∧
      (nasreqServer.asking calls ++ (Server.answering server turn code next).2).filterMap Effect.code = [code] := by
  have same : (Server.answering server turn code next).2 = [.sent code answer] := by
    change [@Sending.effect nasreqServer code (acSendAaAnswer turn code server.data).2] = _
    rw [sends]
    rfl
  have codes : (nasreqServer.asking calls ++ (Server.answering server turn code next).2).filterMap Effect.code = [code] := by
    rw [same, List.filterMap_append, filterMap_code_asking]
    rfl
  refine ⟨⟨by rw [codes]; rfl, ?_, ?_⟩, codes⟩
  · rw [same, List.filterMap_append, filterMap_info_asking]
    rfl
  · rw [same, List.any_append, any_isFault_asking]
    rfl

/-- Where a conversation stands between two rounds. -/
def Settled (state : ServerState) : Prop := state.rests = true ∧ state ≠ .waitInfo

theorem authorizing_one (known : server.data.own.info = some info) :
    OneAnswer (Server.authorizing server turn).2 ∧ Settled (Server.authorizing server turn).1.state := by
  have final : ResultCode.success ≠ .multiRoundAuth ∨ AuthenticationInfo.isArap info = true := Or.inl nofun
  unfold Server.authorizing
  split
  · obtain ⟨answer, sends⟩ := sends_of_info turn .success known final
    exact ⟨(answering_one .accepted sends []).1, rfl, nofun⟩
  · have kept : (nasreqServer.authorize turn server.data).2.1.own.info = some info := by
      rw [← known]
      unfold Application.authorize
      split <;> rfl
    dsimp only
    split
    · obtain ⟨answer, sends⟩ := sends_of_info turn .success kept final
      exact ⟨(answering_one .accepted sends _).1, rfl, nofun⟩
    · exact ⟨(answering_one .rejected rfl _).1, rfl, nofun⟩

theorem signal_one {round : Round} (waits : server.state = .waitInfo) (known : server.data.own.info = some info)
    (uninterrupted : round.between = []) :
    OneAnswer (round.signal server info).2 ∧ Settled (round.signal server info).1.state := by
  obtain ⟨state, data⟩ := server
  obtain rfl : state = .waitInfo := waits
  unfold Round.signal
  rw [uninterrupted]
  change OneAnswer (Server.event (⟨.waitInfo, nasreqSignalled _ data⟩ : NasreqMachine) _ _).2 ∧
    Settled (Server.event (⟨.waitInfo, nasreqSignalled _ data⟩ : NasreqMachine) _ _).1.state
  cases answered : round.authenticator.answer info with
  | success argument =>
    rw [Signal.event, Server.event_success _ rfl]
    exact authorizing_one known
  | failure argument =>
    rw [Signal.event, Server.event_failure _ rfl]
    obtain ⟨answer, sends⟩ := sends_of_info round.later .authenticationRejected known (Or.inl nofun)
    exact ⟨(answering_one .rejected sends []).1, rfl, nofun⟩
  | «continue» next =>
    obtain ⟨-, arap⟩ := round.authenticator.arapOnly info next answered
    rw [Signal.event, Server.event_continue _ rfl]
    have known : (nasreqSignalled (.continue next) data).own.info = some next := by
      cases next with
      | arap => rfl
      | none | pap | chap => cases arap
    obtain ⟨answer, sends⟩ := sends_of_info round.later .multiRoundAuth known (Or.inr arap)
    exact ⟨(answering_one .waitRequest sends []).1, rfl, nofun⟩

end Answers

section Running

variable {server : NasreqMachine} {round : Round}

theorem awaits_of_open (settled : Settled server.state) (isOpen : Open server) : server.state.awaits = true := by
  obtain ⟨rests, unwaiting⟩ := settled
  obtain ⟨unrejected, unterminated⟩ := isOpen
  cases state : server.state with
  | initial | waitRequest | accepted => rfl
  | checkRequest | waitAuthorization =>
    rw [state] at rests
    cases rests
  | rejected => exact absurd state unrejected
  | waitInfo => exact absurd state unwaiting
  | terminated => exact absurd state unterminated

theorem noticed_settled (turn : NasreqTurn) (notices : List Notice) (settled : Settled server.state) :
    Settled (noticed turn server notices).state := by
  induction notices generalizing server with
  | nil => exact settled
  | cons notice rest ih =>
    apply ih
    change Settled (Server.event server turn notice.event).1.state
    rw [Server.event_notice turn settled.1]
    dsimp only
    split
    · exact ⟨rfl, nofun⟩
    · exact ⟨rfl, nofun⟩

theorem run_unhanded (unhanded : ((round.reached server).event round.turn .rxRequest).2.filterMap Effect.info = []) :
    round.run server = (round.reached server).event round.turn .rxRequest := by
  unfold Round.run
  dsimp only
  rw [unhanded]

theorem run_handed {info : AuthenticationInfo} {after : NasreqMachine} {effects : List NasreqEffect}
    (runs : (round.reached server).event round.turn .rxRequest = (after, effects))
    (handed : effects.filterMap Effect.info = [info]) :
    round.run server = ((round.signal after info).1, effects ++ (round.signal after info).2) := by
  unfold Round.run
  rw [runs]
  dsimp only
  rw [handed]

theorem run_refused (awaits : (round.reached server).state.awaits = true)
    (refused : (checkAaRequest round.turn (round.reached server).data).verdict = some false)
    (calls : (checkAaRequest round.turn (round.reached server).data).calls = []) :
    OneAnswer (round.run server).2 ∧ Settled (round.run server).1.state := by
  have runs := Server.event_request round.turn awaits
  unfold Server.checking at runs
  dsimp only at runs
  rw [refused, calls] at runs
  let checked : NasreqMachine := ⟨.checkRequest, (checkAaRequest round.turn (round.reached server).data).data⟩
  have sends : (acSendAaAnswer round.turn .invalidAvpValue checked.data).2 = .sends (renderAaAnswer checked.data) := rfl
  have one := answering_one .rejected sends []
  rw [run_unhanded (by rw [runs]; exact one.1.infos), runs]
  exact ⟨one.1, rfl, nofun⟩

theorem run_handed_one {info : AuthenticationInfo} (awaits : (round.reached server).state.awaits = true)
    (valid : (checkAaRequest round.turn (round.reached server).data).verdict = some true)
    (calls : (checkAaRequest round.turn (round.reached server).data).calls = [])
    (known : (checkAaRequest round.turn (round.reached server).data).data.own.info = some info)
    (uninterrupted : round.between = []) :
    ((round.run server).2.filterMap Effect.code).length = 1 ∧ (round.run server).2.filterMap Effect.info = [info] ∧
      (round.run server).2.any Effect.isFault = false ∧ Settled (round.run server).1.state := by
  have runs := Server.event_request round.turn awaits
  unfold Server.checking at runs
  dsimp only at runs
  rw [valid, calls] at runs
  have forwards : nasreqServer.forwarding (checkAaRequest round.turn (round.reached server).data).data =
      .forwarded info := by
    unfold Application.forwarding
    dsimp only
    rw [known]
  dsimp only at runs
  rw [forwards] at runs
  let waiting : NasreqMachine := ⟨.waitInfo, (checkAaRequest round.turn (round.reached server).data).data⟩
  have waits : waiting.state = .waitInfo := rfl
  obtain ⟨one, settled⟩ := signal_one waits known uninterrupted
  rw [run_handed runs rfl]
  refine ⟨?_, ?_, ?_, settled⟩
  · rw [List.filterMap_append]
    exact one.codes
  · rw [List.filterMap_append, one.infos]
    rfl
  · rw [List.any_append, one.alive]
    rfl

theorem run_ended (settled : Settled (round.reached server).state) (ended : ¬Open (round.reached server)) :
    (round.run server).2 = [] ∧ Settled (round.run server).1.state := by
  have unready : ¬((round.reached server).state.awaits = true ∧ ServerEvent.rxRequest = .rxRequest) := by
    intro ⟨awaits, _⟩
    apply ended
    constructor <;>
      · intro same
        rw [same] at awaits
        cases awaits
  have runs := Server.event_otherwise round.turn settled.1 unready fun ⟨waiting, _⟩ => settled.2 waiting
  rw [run_unhanded (by rw [runs]; rfl), runs]
  refine ⟨rfl, ?_⟩
  dsimp only
  split
  · exact ⟨rfl, nofun⟩
  · exact ⟨rfl, nofun⟩

end Running

section Runs

variable {conversation : Conversation} {round : Round}

structure Holds (conversation : Conversation) : Prop where
  alive : conversation.dead = false
  settled : Settled conversation.server.state

def Well (conversation : Conversation) (round : Round) : Prop :=
  Follows conversation round ∧ (round.run conversation.server).2.any Effect.isFault = false ∧
    Settled (round.run conversation.server).1.state

theorem well_of_refused (holds : Holds conversation) (awaits : (round.reached conversation.server).state.awaits = true)
    (checked : (checkAaRequest round.turn (round.reached conversation.server).data).verdict = some false ∧
      (checkAaRequest round.turn (round.reached conversation.server).data).calls = [])
    (refused : due round (round.reached conversation.server) = .refused) : Well conversation round := by
  obtain ⟨one, settled⟩ := run_refused awaits checked.1 checked.2
  exact ⟨⟨holds.alive, fun _ => ⟨one.codes, by rw [refused]; exact one.infos⟩⟩, one.alive, settled⟩

theorem due_of_scheme (accepted : round.turn.own.validAuthRequestType round.authRequestType = true)
    (authenticates : round.authRequestType ≠ authorizeOnly) {server : NasreqMachine}
    (fresh : server.state ≠ .waitRequest) : due round server = (scheme round.body).elim .refused .chosen := by
  simp only [due, accepted, authenticates, fresh, Bool.not_true, Bool.false_eq_true, if_false]

theorem well_of_first (holds : Holds conversation) (awaits : (round.reached conversation.server).state.awaits = true)
    (accepted : round.turn.own.validAuthRequestType round.authRequestType = true)
    (authenticates : round.authRequestType ≠ authorizeOnly)
    (first : First round (round.reached conversation.server)) : Well conversation round := by
  obtain ⟨unknown, fresh, uninterrupted⟩ := first
  have is := due_of_scheme accepted authenticates fresh
  have chosen := selectInfo_parse round.turn.own (noticed round.turn conversation.server round.before).data round.message
  change (match scheme round.body with | none => _ | some _ => _) at chosen
  cases which : scheme round.body with
  | none =>
    rw [which] at chosen is
    exact well_of_refused holds awaits (check_refused accepted authenticates (Or.inl ⟨unknown, chosen⟩)) is
  | some scheme =>
    rw [which] at chosen is
    obtain ⟨info, selected, built⟩ := chosen
    obtain ⟨valid, calls, known⟩ := check_first accepted authenticates unknown selected
    obtain ⟨codes, infos, alive, settled⟩ := run_handed_one awaits valid calls known uninterrupted
    exact ⟨⟨holds.alive, fun _ => ⟨codes, by rw [is]; exact ⟨info, infos, built⟩⟩⟩, alive, settled⟩

theorem well_of_refusable (holds : Holds conversation)
    (awaits : (round.reached conversation.server).state.awaits = true)
    (accepted : round.turn.own.validAuthRequestType round.authRequestType = true)
    (authenticates : round.authRequestType ≠ authorizeOnly)
    (refusable : Refusable round (round.reached conversation.server)) : Well conversation round := by
  unfold Refusable at refusable
  have chosen := selectInfo_parse round.turn.own (noticed round.turn conversation.server round.before).data round.message
  cases known : (round.reached conversation.server).data.own.info with
  | none =>
    rw [known] at refusable
    obtain ⟨fresh, unchosen⟩ := refusable
    rw [show scheme round.message.body = none from unchosen] at chosen
    refine well_of_refused holds awaits (check_refused accepted authenticates (Or.inl ⟨known, chosen⟩)) ?_
    rw [due_of_scheme accepted authenticates fresh, unchosen]
    rfl
  | some info =>
    rw [known] at refusable
    cases info with
    | none | pap | chap =>
      obtain ⟨fresh, unchosen⟩ := refusable
      refine well_of_refused holds awaits
        (check_refused accepted authenticates (Or.inr (Or.inr ⟨_, known, rfl⟩))) ?_
      rw [due_of_scheme accepted authenticates fresh, unchosen]
      rfl
    | arap info =>
      obtain ⟨once, unheld, unchosen⟩ := refusable
      have held : (checkAaState round.turn.own (round.reached conversation.server).data.own).1 = false := by
        have given : (round.reached conversation.server).data.own.state.carried = round.body.state :=
          Attribute.carried_receive _ _
        rw [checkAaState_eq, given]
        exact unheld
      refine well_of_refused holds awaits
        (check_refused accepted authenticates (Or.inr (Or.inl ⟨⟨_, known⟩, once, held⟩))) ?_
      by_cases fresh : (round.reached conversation.server).state = .waitRequest
      · simp only [due, accepted, authenticates, fresh, unheld, Bool.not_true, Bool.false_eq_true, if_false, if_true]
      · rw [due_of_scheme accepted authenticates fresh, unchosen fresh]
        rfl

theorem round_well (holds : Holds conversation) (plain : Plain conversation round) : Well conversation round := by
  have settled : Settled (round.reached conversation.server).state :=
    noticed_settled round.turn round.before holds.settled
  by_cases isOpen : Open (round.reached conversation.server)
  case neg =>
    obtain ⟨silent, ended⟩ := run_ended settled isOpen
    exact ⟨⟨holds.alive, fun reaches => absurd reaches isOpen⟩, by rw [silent]; rfl, ended⟩
  case pos =>
    have awaits := awaits_of_open settled isOpen
    cases accepted : round.turn.own.validAuthRequestType round.authRequestType with
    | false =>
      refine well_of_refused holds awaits ?_ ?_
      · rw [check_unaccepted accepted]
        exact ⟨rfl, rfl⟩
      · rw [due, accepted]
        rfl
    | true =>
      rcases plain isOpen with unaccepted | ⟨authenticates, first | refusable⟩
      · rw [accepted] at unaccepted
        cases unaccepted
      · exact well_of_first holds awaits accepted authenticates first
      · exact well_of_refusable holds awaits accepted authenticates refusable

theorem Holds.step (holds : Holds conversation) (plain : Plain conversation round) :
    Holds (conversation.step round) := by
  obtain ⟨-, alive, settled⟩ := round_well holds plain
  rw [Conversation.step, if_neg (ne_true_of_eq_false holds.alive)]
  exact ⟨alive, settled⟩

/-- In a run in which every request is the first one that is handed to the application, or one
that is to be refused, every request is answered once and handed over as documented. -/
theorem rounds_follow {data : NasreqData} {rounds : List Round}
    (plain : Stepwise Conversation.step Plain (.initial data) rounds) :
    Stepwise Conversation.step Follows (.initial data) rounds :=
  plain.imp (fun _ _ holds (_ : True) plain => (round_well holds plain).1)
    (fun _ _ holds _ plain => holds.step plain) ⟨rfl, rfl, nofun⟩ fun _ _ => trivial

section Samples

def sampleData : NasreqData :=
  let unset : Attribute Octets := ⟨[], false⟩
  { requestType := ⟨0, false⟩, request := fun _ => ⟨.octets [], false⟩, answerType := ⟨0, false⟩,
    granted := fun _ => ⟨.octets [], false⟩, authorizationDone := false
    own := ⟨unset, unset, unset, unset, unset, unset, ⟨0, false⟩, ⟨[], false⟩, unset, unset, ⟨[], false⟩, unset,
      ⟨0, false⟩, ⟨[], false⟩, ⟨0, false⟩, none⟩ }

/-- The application accepts what `ValidateAuthRequestType` accepts by default, and authorizes everything. -/
def sampleTurn : NasreqTurn where
  reply := fun _ => ⟨true, ⟨.octets [], false⟩⟩
  own := ⟨fun type => type == authenticationOnly || type == authorizeAuthenticate, fun _ _ => false, id, fun a _ => a, 0⟩

def sampleAuthenticator : Authenticator := ⟨fun _ => .success (), fun _ _ same => nomatch same⟩

def sampleRound (body : NasreqBody) : Round :=
  ⟨authorizeAuthenticate, fun _ => none, body, sampleTurn, sampleTurn, sampleAuthenticator, [], []⟩

def samplePap : Round := sampleRound { userName := some [97], userPassword := some [98] }

end Samples

/-- A user is authenticated, and a request without any authentication information comes after that. -/
theorem rounds_follow_pap :
    Stepwise Conversation.step Follows (.initial sampleData) [samplePap, sampleRound { userName := some [97] }] :=
  rounds_follow (by decide +kernel)

/-- A user who has been accepted authenticates again with the same request, and is rejected. -/
theorem rounds_diverge : ¬Stepwise Conversation.step Follows (.initial sampleData) [samplePap, samplePap] := by
  intro ⟨_, ⟨_, again⟩, _⟩
  obtain ⟨_, done⟩ := again (by decide +kernel)
  have chosen : due samplePap (samplePap.reached ((Conversation.initial sampleData).step samplePap).server) =
      .chosen .pap := by
    decide +kernel
  rw [chosen] at done
  obtain ⟨info, handed, -⟩ := done
  have nothing : ((samplePap.run ((Conversation.initial sampleData).step samplePap).server).2.filterMap
      Effect.info).length = 0 := by
    decide +kernel
  rw [handed] at nothing
  cases nothing

end Runs

end OpenDiameter.Access.NasreqRounds
