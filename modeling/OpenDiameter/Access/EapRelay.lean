import Mathlib.Data.List.Forall2
import Mathlib.Tactic.SplitIfs
import OpenDiameter.Access.Conversation
import OpenDiameter.Access.EapClient

/-! An EAP conversation that is carried in Diameter messages. -/

set_option autoImplicit false

namespace OpenDiameter.Access.EapRelay

open Foundation

section Purpose

abbrev EapJoint := Joint eapClient

def Told : ResultCode × EapData → EapCall → Prop
  | (.success, data), call => data.answerType.value = authorizeAuthenticate ∧ ∃ eapMsg, call = .success eapMsg
  | (.multiRoundAuth, _), call => ∃ eapMsg, call = .continue eapMsg
  | (.authenticationRejected, _), call | (.authorizationRejected, _), call | (.invalidAvpValue, _), call =>
    ∃ eapMsg, call = .failure eapMsg

/-- An `AAA_SUCCESS` after which the client begins a second leg, which it does not support. -/
def Limited (answer : ResultCode × EapData) : Prop :=
  answer.1 = .success ∧ answer.2.answerType.value ≠ authorizeAuthenticate

/-- What the pass-through has been told and the backend has signalled besides what was relayed. -/
inductive Late (joint : EapJoint) : List EapCall → List (Signal Octets Octets) → Prop
  | nothing : Late joint [] []
  | onItsWay (signal : Signal Octets Octets) (flies : ¬joint.Idle) : Late joint [] [signal]
  | limited (signal : Signal Octets Octets) (answer : ResultCode × EapData)
      (last : joint.history.answers.getLast? = some answer) (limited : Limited answer) : Late joint [] [signal]
  | unauthorized (eapMsg : Octets) (data : EapData)
      (last : joint.history.answers.getLast? = some (.authorizationRejected, data)) :
      Late joint [.failure []] [.success eapMsg]
  | refused (eapMsg : Octets) (data : EapData)
      (last : joint.history.answers.getLast? = some (.invalidAvpValue, data)) : Late joint [.failure eapMsg] []

def ClientState.waits : ClientState → Bool
  | .waitAnswer | .waitInfo => true
  | .initial | .checkResult | .accepted | .rejected | .waitAaAnswer | .terminated => false

def ClientState.finished : ClientState → Bool
  | .accepted | .rejected | .terminated => true
  | .initial | .waitAnswer | .checkResult | .waitInfo | .waitAaAnswer => false

def ServerState.waits : ServerState → Bool
  | .waitRequest | .waitInfo => true
  | .initial | .checkRequest | .waitAuthorization | .accepted | .rejected | .terminated => false

def ServerState.finished : ServerState → Bool
  | .accepted | .rejected | .terminated => true
  | .initial | .waitRequest | .checkRequest | .waitAuthorization | .waitInfo => false

/-- A machine that waits for another one that has finished. -/
def Stuck (state : ClientState) (peer : ServerState) : Prop :=
  ClientState.waits state = true ∧ ServerState.finished peer = true ∨
    ServerState.waits peer = true ∧ ClientState.finished state = true

instance instDecidableStuck (state : ClientState) (peer : ServerState) : Decidable (Stuck state peer) :=
  inferInstanceAs (Decidable (_ ∧ _ ∨ _ ∧ _))

structure Relays (joint : EapJoint) : Prop where
  responses : joint.history.handed <+: joint.history.given
  handed : joint.history.handed = joint.history.given ∨
    joint.history.given.length = joint.history.handed.length + 1 ∧
      (joint.Idle → ∃ data, joint.history.answers.getLast? = some (.invalidAvpValue, data))
  payloads : ∃ relayed calls signals, joint.history.told = relayed ++ calls ∧
    joint.history.signals = relayed ++ signals ∧ Late joint calls signals
  outcomes : ∃ served pending, joint.history.answers = served ++ pending ∧
    pending.length = joint.clientQueue.count .rxAnswer + joint.toClient.length ∧
    (List.Forall₂ Told served joint.history.told ∨
      ∃ before answer, served = before ++ [answer] ∧ Limited answer ∧ List.Forall₂ Told before joint.history.told)
  unstuck : joint.Idle → ¬Stuck joint.client.state joint.server.state

end Purpose

section Condition

/-- The commands are those that the parsers look up, the callbacks provide what a DER needs, and the identifier that does
not fit its entry is left out. -/
def eapTerms : Terms eapClient where
  asks := fun commands accepted callbacks client =>
    "DiameterEAPRequest" ∈ commands ∧ accepted = true ∧
      (callbacks.setDestinationRealm client.destinationRealm).isSet = true ∧
      (callbacks.setAuthRequestType client.requestType).isSet = true ∧
      (callbacks.set .framedInterfaceId (client.request .framedInterfaceId)).isSet = false
  serves := fun _ _ => True
  speaks := fun _ _ _ => True
  answers := fun commands accepted => "DiameterEAPAnswer" ∈ commands ∧ accepted = true
  parts := True

instance instDecidableMeets (commands : List String) (joint : EapJoint) (input : Input eapClient) :
    Decidable (joint.Meets commands eapTerms input) := by
  cases input <;> unfold Joint.Meets eapTerms <;> dsimp only <;> infer_instance

end Condition

section Invariant

def payload : Signal Octets Octets → Octets
  | .continue eapMsg | .success eapMsg | .failure eapMsg => eapMsg

def Received (handling : Handling eapClient) (client : EapClientData) : Prop :=
  client.resultCode = some handling.code ∧
    match handling.handled with
    | none => handling.code = .invalidAvpValue
    | some (handed, signal) => handed = handling.given ∧ signal.Leads handling.code ∧
        handling.data.answerType.value = client.requestType.value ∧
        if handling.code = .authorizationRejected then client.own.answerPayload.isSet = false
        else client.own.answerPayload = .set (payload signal)

inductive Ends (handling : Handling eapClient) : Option EapCall → Prop
  | refused (eapMsg : Octets) (unhandled : handling.handled = none) (invalid : handling.code = .invalidAvpValue) :
      Ends handling (some (.failure eapMsg))
  | rejected (eapMsg : Octets) (handled : handling.handled = some (handling.given, .failure eapMsg))
      (code : handling.code = .authenticationRejected) : Ends handling (some (.failure eapMsg))
  | unauthorized (eapMsg : Octets) (handled : handling.handled = some (handling.given, .success eapMsg))
      (code : handling.code = .authorizationRejected) : Ends handling (some (.failure []))
  | limited (eapMsg : Octets) (handled : handling.handled = some (handling.given, .success eapMsg))
      (limited : Limited (handling.code, handling.data)) : Ends handling none

def eapContract : Contract eapClient where
  taken := fun eapMsg client => client.own.eapPayload = .set eapMsg
  posted := fun eapMsg client server =>
    server.own.eapPayload = .set eapMsg ∧ server.requestType.value = client.requestType.value
  waiting := fun eapMsg handed client server =>
    handed = eapMsg ∧ server.answerType.value = client.requestType.value
  signalled := fun eapMsg handed signal client server =>
    handed = eapMsg ∧ server.own.answerPayload = .set (payload signal) ∧
      server.answerType.value = client.requestType.value
  received := Received
  well := fun exchange => exchange.handed = exchange.given ∧ exchange.call = exchange.signal ∧
    Told (exchange.code, exchange.data) exchange.call
  closes := Ends

end Invariant

section Operations

theorem acSendDER_sends {callbacks : EapClientCallbacks} {data : EapClientData}
    (realm : (callbacks.setDestinationRealm data.destinationRealm).isSet = true)
    (type : (callbacks.setAuthRequestType data.requestType).isSet = true) :
    ∃ after, acSendDER callbacks data = (after, .sends (renderDER after)) ∧
      after.requestType.carried = some after.requestType.value ∧ after.own.eapPayload = data.own.eapPayload ∧
      after.request .framedInterfaceId = callbacks.set .framedInterfaceId (data.request .framedInterfaceId) := by
  have carried : (callbacks.setAuthRequestType data.requestType).carried =
      some (callbacks.setAuthRequestType data.requestType).value := if_pos type
  simp only [acSendDER, realm, type, Bool.not_true, Bool.false_eq_true, if_false]
  exact ⟨_, rfl, carried, rfl, rfl⟩

theorem sendDER_sent {commands : List String} {accepted : Bool} {data : EapClientData}
    (known : "DiameterEAPRequest" ∈ commands) (accepts : accepted = true)
    (unset : (data.request .framedInterfaceId).isSet = false) :
    sendDER commands accepted (renderDER data) = .sent (renderDER data) := by
  have fits : ((renderDER data).avps .framedInterfaceId).isSome = false := by
    simp [renderDER, derAvps, Attribute.carried, unset]
  rw [sendDER, fits]
  exact transmit_sent known accepts _

theorem checkDER_verdict (turn : Turn EapCallbacks) (data : EapData) :
    ∃ valid, (checkDER turn data).verdict = some valid ∧
      (checkDER turn data).data.own.eapPayload = data.own.eapPayload := by
  unfold checkDER checkState
  dsimp only
  split_ifs <;> exact ⟨_, rfl, rfl⟩

theorem acSendDEA_answer (turn : Turn EapCallbacks) (code : ResultCode) (data : EapData) :
    (acSendDEA turn code data).2 = .sends (renderDEA (acSendDEA turn code data).1) ∧
      (acSendDEA turn code data).1.answerType = data.answerType ∧
      (acSendDEA turn code data).1.own.answerPayload =
        if code = .authorizationRejected then data.own.answerPayload.clear else data.own.answerPayload := by
  cases code <;> exact ⟨rfl, rfl, rfl⟩

theorem heeds_received {handling : Handling eapClient} {client : EapClientData} (received : Received handling client) :
    Heeds eapContract handling client := by
  obtain ⟨given, handled, code, data⟩ := handling
  obtain ⟨read, rest⟩ := received
  have checked {event : ClientEvent} (is : checkDEA { client with resultCode := some code } = event) :
      checkDEA client = event := by
    have same : { client with resultCode := some code } = client := by
      rw [← read]
    rwa [same] at is
  cases handled with
  | none =>
    obtain rfl : code = .invalidAvpValue := rest
    exact .rejects rfl (checked rfl) (.refused _ rfl rfl)
  | some pair =>
    obtain ⟨handed, signal⟩ := pair
    obtain ⟨rfl, leads, type, payload⟩ := rest
    cases leads with
    | «continue» eapMsg =>
      have told : client.own.answerPayload = .set eapMsg := payload
      refine .continues handed (.continue eapMsg) client _ rfl rfl (checked rfl) rfl ⟨rfl, ?_, _, rfl⟩
      rw [told]
      rfl
    | success eapMsg =>
      have told : client.own.answerPayload = .set eapMsg := payload
      have typed : data.answerType.value = client.requestType.value := type
      by_cases both : client.requestType.value = authorizeAuthenticate
      · refine .accepts handed (.success eapMsg) rfl rfl (checked (if_pos both)) ⟨rfl, ?_, typed.trans both, _, rfl⟩
        change Signal.success client.own.answerPayload.value = _
        rw [told]
        rfl
      · exact .strands rfl rfl (checked (if_neg both)) (.limited eapMsg rfl ⟨rfl, fun same => both (typed.symm.trans same)⟩)
    | unauthorized eapMsg =>
      have erased : client.own.answerPayload.carried = none := by
        have unset : client.own.answerPayload.isSet = false := payload
        rw [Attribute.carried, unset]
        rfl
      refine .rejects rfl (checked rfl) ?_
      change Ends _ (some (.failure (client.own.answerPayload.carried.getD [])))
      rw [erased]
      exact .unauthorized eapMsg rfl rfl
    | failure eapMsg =>
      have told : client.own.answerPayload = .set eapMsg := payload
      refine .rejects rfl (checked rfl) ?_
      change Ends _ (some (.failure (client.own.answerPayload.carried.getD [])))
      rw [told]
      exact .rejected eapMsg rfl rfl

theorem eapContract_kept (commands : List String) : eapContract.Kept commands eapTerms where
  forward := by
    intro info before after taken
    obtain rfl := Option.some.inj taken
    rfl
  -- `acSendDER` leaves the payload that the forwarding has set.
  request := by
    intro info turn accepted client taken asks
    obtain ⟨known, accepts, realm, type, unset⟩ := asks
    have given : client.own.eapPayload = .set info := taken
    obtain ⟨after, sends, carried, same, interface⟩ := acSendDER_sends realm type
    refine ⟨after, _, sends, sendDER_sent known accepts (interface ▸ unset), ?_⟩
    intro server
    constructor
    · change server.own.eapPayload.receive after.own.eapPayload.carried = .set info
      rw [same, given]
      rfl
    · change (server.requestType.receive after.requestType.carried).value = after.requestType.value
      rw [carried]
      rfl
  check := by
    intro info turn client server ⟨given, type⟩ _
    obtain ⟨valid, verdict, same⟩ := checkDER_verdict turn server
    cases valid with
    | true =>
      have known : (checkDER turn server).data.own.eapPayload.value = info := by
        rw [same, given]
        rfl
      exact Or.inl ⟨verdict, info, congrArg some known, rfl, (eapServer_lawful.check_type turn server verdict).trans type⟩
    | false => exact Or.inr ⟨verdict, _, _, rfl, rfl, rfl⟩
  signal := by
    intro info handed signal client server ⟨same, type⟩ _
    have kept := eapServer_lawful.signalled signal server
    refine ⟨same, ?_, (congrArg Attribute.value kept.answerType).trans type⟩
    cases signal <;> rfl
  authorize := by
    intro turn info handed ending client server ⟨same, payload, type⟩
    have kept : (eapServer.authorize turn server).2.1.answerType = server.answerType ∧
        (eapServer.authorize turn server).2.1.own = server.own := by
      unfold Application.authorize
      split <;> exact ⟨rfl, rfl⟩
    refine ⟨same, ?_, ?_⟩
    · rw [kept.2]
      exact payload
    · rw [kept.1]
      exact type
  -- A rejected authorization erases the payload; any other answer carries it.
  answer := by
    intro turn info handed signal client server code ⟨same, given, type⟩ leads
    obtain ⟨answer, answerType, answerPayload⟩ := acSendDEA_answer turn code server
    refine ⟨_, _, Prod.ext rfl answer, rfl, same, leads, ?_, ?_⟩
    · change (acSendDEA turn code server).1.answerType.value = client.requestType.value
      rw [answerType]
      exact type
    · change if code = .authorizationRejected then
        (client.own.answerPayload.receive (acSendDEA turn code server).1.own.answerPayload.carried).isSet = false
        else client.own.answerPayload.receive (acSendDEA turn code server).1.own.answerPayload.carried = _
      rw [answerPayload]
      split
      · rfl
      · rw [given]
        rfl
  carries := fun answers dea => transmit_sent answers.1 answers.2 dea
  heeds := fun received => heeds_received received

end Operations

section Runs

theorem Paired.unstuck {parts : Prop} {state : ClientState} {peer : ServerState} (paired : Paired parts state peer) :
    ¬Stuck state peer := by
  cases paired with
  | fresh | again | onward | accepted => decide
  | parted allowed first second =>
    rintro (⟨waits, -⟩ | ⟨waits, -⟩)
    · cases state <;> first | exact absurd waits (by decide) | exact absurd first (by decide)
    · cases peer <;> first | exact absurd waits (by decide) | exact absurd second (by decide)

theorem Closed.unstuck {state : ClientState} {peer : ServerState} (closed : Closed state peer) : ¬Stuck state peer := by
  cases closed with
  | rejected | terminated => decide
  | stranded done => rcases done with rfl | rfl <;> decide

variable {exchanges : List (Exchange eapClient)}

theorem told_exchanges (well : ∀ exchange ∈ exchanges, eapContract.well exchange) :
    List.Forall₂ Told (exchanges.map fun exchange => (exchange.code, exchange.data))
      (exchanges.map Exchange.call) := by
  rw [List.forall₂_map_left_iff, List.forall₂_map_right_iff, List.forall₂_same]
  exact fun exchange mem => (well exchange mem).2.2

theorem handed_exchanges (well : ∀ exchange ∈ exchanges, eapContract.well exchange) :
    exchanges.map Exchange.handed = exchanges.map Exchange.given :=
  List.map_congr_left fun exchange mem => (well exchange mem).1

theorem relayed_exchanges (well : ∀ exchange ∈ exchanges, eapContract.well exchange) :
    exchanges.map Exchange.call = exchanges.map Exchange.signal :=
  List.map_congr_left fun exchange mem => (well exchange mem).2.1

def Handed (handling : Handling eapClient) : Prop :=
  handling.handled = none ∧ handling.code = .invalidAvpValue ∨ ∃ signal, handling.handled = some (handling.given, signal)

theorem handed_of_received {handling : Handling eapClient} {client : EapClientData} (received : Received handling client) :
    Handed handling := by
  obtain ⟨given, handled, code, data⟩ := handling
  obtain ⟨-, rest⟩ := received
  cases handled with
  | none => exact Or.inl ⟨rfl, rest⟩
  | some pair =>
    obtain ⟨handed, signal⟩ := pair
    obtain ⟨rfl, -⟩ := rest
    exact Or.inr ⟨signal, rfl⟩

theorem handed_of_ends {handling : Handling eapClient} {call : Option EapCall} (ends : Ends handling call) :
    Handed handling := by
  cases ends with
  | refused eapMsg unhandled invalid => exact Or.inl ⟨unhandled, invalid⟩
  | rejected eapMsg handled | unauthorized eapMsg handled | limited eapMsg handled => exact Or.inr ⟨_, handled⟩

variable {backlog : Backlog} {phase : Phase eapClient} {client : Client eapClient} {server : Server eapServer}

theorem phase_handed (stands : eapContract.Stands eapTerms.parts backlog phase exchanges client server) :
    phase.handed = phase.given ∨ (∃ given, phase.given = [given] ∧ phase.handed = []) ∧
      ((phase.joint backlog exchanges client server).Idle → ∃ data, phase.answers = [(.invalidAvpValue, data)]) := by
  have holds := stands.holds
  cases phase with
  | rest => exact Or.inl rfl
  | forwarded given => exact Or.inr ⟨⟨given, rfl, rfl⟩, fun idle => nomatch (Phase.idle idle).1⟩
  | requested given => exact Or.inr ⟨⟨given, rfl, rfl⟩, fun idle => nomatch (Phase.idle idle).2.1⟩
  | posted given => exact Or.inr ⟨⟨given, rfl, rfl⟩, fun idle => nomatch (Phase.idle idle).2.2.1⟩
  | waiting given handed | signalled given handed signal => exact Or.inl (congrArg (fun handed => [handed]) holds.1)
  | answered handling answer =>
    rcases handed_of_received holds with ⟨unhandled, -⟩ | ⟨signal, handled⟩
    · exact Or.inr ⟨⟨handling.given, rfl, by rw [Phase.handed, unhandled]; rfl⟩, fun idle => nomatch (Phase.idle idle).2.2.2⟩
    · exact Or.inl (by rw [Phase.handed, handled]; rfl)
  | received handling =>
    rcases handed_of_received holds with ⟨unhandled, -⟩ | ⟨signal, handled⟩
    · exact Or.inr ⟨⟨handling.given, rfl, by rw [Phase.handed, unhandled]; rfl⟩, fun idle => nomatch (Phase.idle idle).1⟩
    · exact Or.inl (by rw [Phase.handed, handled]; rfl)
  | closed handling call =>
    rcases handed_of_ends holds with ⟨unhandled, invalid⟩ | ⟨signal, handled⟩
    · exact Or.inr ⟨⟨handling.given, rfl, by rw [Phase.handed, unhandled]; rfl⟩,
        fun _ => ⟨handling.data, by rw [Phase.answers, invalid]⟩⟩
    · exact Or.inl (by rw [Phase.handed, handled]; rfl)

theorem phase_payloads (stands : eapContract.Stands eapTerms.parts backlog phase exchanges client server) :
    ∃ relayed calls signals, phase.told = relayed ++ calls ∧ phase.signals = relayed ++ signals ∧
      Late (phase.joint backlog exchanges client server) calls signals := by
  have holds := stands.holds
  have last (handling : Handling eapClient) (before : List (ResultCode × EapData)) :
      (before ++ [(handling.code, handling.data)]).getLast? = some (handling.code, handling.data) :=
    List.getLast?_concat
  cases phase with
  | rest | forwarded | requested | posted | waiting => exact ⟨[], [], [], rfl, rfl, .nothing⟩
  | signalled given handed signal => exact ⟨[], [], [signal], rfl, rfl, .onItsWay signal fun idle => nomatch (Phase.idle idle).2.2.1⟩
  | answered handling answer =>
    rcases handed_of_received holds with ⟨unhandled, -⟩ | ⟨signal, handled⟩
    · exact ⟨[], [], [], rfl, by rw [Phase.signals, unhandled]; rfl, .nothing⟩
    · exact ⟨[], [], [signal], rfl, by rw [Phase.signals, handled]; rfl,
        .onItsWay signal fun idle => nomatch (Phase.idle idle).2.2.2⟩
  | received handling =>
    rcases handed_of_received holds with ⟨unhandled, -⟩ | ⟨signal, handled⟩
    · exact ⟨[], [], [], rfl, by rw [Phase.signals, unhandled]; rfl, .nothing⟩
    · exact ⟨[], [], [signal], rfl, by rw [Phase.signals, handled]; rfl, .onItsWay signal fun idle => nomatch (Phase.idle idle).1⟩
  | closed handling call =>
    cases holds with
    | refused eapMsg unhandled invalid =>
      exact ⟨[], [.failure eapMsg], [], rfl, by rw [Phase.signals, unhandled]; rfl,
        .refused eapMsg handling.data (invalid ▸ last handling _)⟩
    | rejected eapMsg handled =>
      exact ⟨[.failure eapMsg], [], [], rfl, by rw [Phase.signals, handled]; rfl, .nothing⟩
    | unauthorized eapMsg handled code =>
      exact ⟨[], [.failure []], [.success eapMsg], rfl, by rw [Phase.signals, handled]; rfl,
        .unauthorized eapMsg handling.data (code ▸ last handling _)⟩
    | limited eapMsg handled limited =>
      exact ⟨[], [], [.success eapMsg], rfl, by rw [Phase.signals, handled]; rfl,
        .limited _ _ (last handling _) limited⟩

theorem phase_outcomes (stands : eapContract.Stands eapTerms.parts backlog phase exchanges client server) :
    ∃ served pending, phase.answers = served ++ pending ∧
      pending.length = phase.clientQueue.count .rxAnswer + phase.toClient.length ∧
      (List.Forall₂ Told served phase.told ∨ ∃ answer, served = [answer] ∧ Limited answer ∧ phase.told = []) := by
  have holds := stands.holds
  cases phase with
  | rest | forwarded | requested | posted | waiting | signalled => exact ⟨[], [], rfl, rfl, Or.inl .nil⟩
  | answered handling answer => exact ⟨[], [(handling.code, handling.data)], rfl, rfl, Or.inl .nil⟩
  | received handling => exact ⟨[], [(handling.code, handling.data)], rfl, rfl, Or.inl .nil⟩
  | closed handling call =>
    refine ⟨[(handling.code, handling.data)], [], rfl, rfl, ?_⟩
    cases holds with
    | refused eapMsg unhandled invalid =>
      rw [invalid]
      exact Or.inl (.cons ⟨eapMsg, rfl⟩ .nil)
    | rejected eapMsg handled code =>
      rw [code]
      exact Or.inl (.cons ⟨eapMsg, rfl⟩ .nil)
    | unauthorized eapMsg handled code =>
      rw [code]
      exact Or.inl (.cons ⟨[], rfl⟩ .nil)
    | limited eapMsg handled limited => exact Or.inr ⟨_, rfl, limited, rfl⟩

/-- What the phases of a conversation say about what has been relayed. -/
theorem relays_of_stage {joint : EapJoint} (stage : eapContract.Stage eapTerms.parts joint) : Relays joint := by
  obtain ⟨backlog, phase, exchanges, client, server, rfl, stands⟩ := stage
  have states := stands.states
  have handed := handed_exchanges stands.well
  have relayed := relayed_exchanges stands.well
  have told := told_exchanges stands.well
  -- Each part holds of the exchanges that are over, and of the phase of the current one.
  constructor
  case responses =>
    change exchanges.map Exchange.handed ++ phase.handed <+: exchanges.map Exchange.given ++ phase.given
    rw [handed, List.prefix_append_right_inj]
    rcases phase_handed stands with same | ⟨⟨given, -, nothing⟩, -⟩
    · exact same ▸ List.prefix_rfl
    · rw [nothing]
      exact List.nil_prefix
  case handed =>
    change exchanges.map Exchange.handed ++ phase.handed = exchanges.map Exchange.given ++ phase.given ∨
      (exchanges.map Exchange.given ++ phase.given).length = (exchanges.map Exchange.handed ++ phase.handed).length + 1 ∧ _
    rw [handed]
    rcases phase_handed stands with same | ⟨⟨given, one, nothing⟩, last⟩
    · exact Or.inl (by rw [same])
    · refine Or.inr ⟨by simp only [one, nothing, List.length_append, List.length_cons, List.length_nil], ?_⟩
      intro idle
      obtain ⟨data, only⟩ := last idle
      refine ⟨data, ?_⟩
      change (exchanges.map _ ++ phase.answers).getLast? = _
      rw [only]
      exact List.getLast?_concat
  case payloads =>
    obtain ⟨more, calls, signals, toldMore, signalledMore, late⟩ := phase_payloads stands
    refine ⟨exchanges.map Exchange.call ++ more, calls, signals, ?_, ?_, late⟩
    · change exchanges.map Exchange.call ++ phase.told = _
      rw [toldMore, List.append_assoc]
    · change exchanges.map Exchange.signal ++ phase.signals = _
      rw [signalledMore, relayed, List.append_assoc]
  case outcomes =>
    obtain ⟨served, pending, answers, length, outcome⟩ := phase_outcomes stands
    refine ⟨exchanges.map (fun exchange => (exchange.code, exchange.data)) ++ served, pending, ?_, ?_, ?_⟩
    · change exchanges.map _ ++ phase.answers = _
      rw [answers, List.append_assoc]
    · rw [Phase.count_clientQueue]
      exact length
    · rcases outcome with each | ⟨answer, only, limited, nothing⟩
      · exact Or.inl (List.rel_append told each)
      · refine Or.inr ⟨_, answer, by rw [only], limited, ?_⟩
        change List.Forall₂ Told _ (exchanges.map Exchange.call ++ phase.told)
        rw [nothing, List.append_nil]
        exact told
  case unstuck =>
    intro idle
    obtain ⟨clientIdle, toServer, serverIdle, toClient⟩ := Phase.idle idle
    have states := stands.states
    -- In three of the phases nothing is left to do, and none of them is stuck.
    cases phase with
    | rest => exact Paired.unstuck states
    | forwarded | received => cases clientIdle
    | requested => cases toServer
    | posted | signalled => cases serverIdle
    | answered => cases toClient
    | waiting given handed =>
      change ¬Stuck client.state server.state
      rw [states.1, states.2]
      decide
    | closed handling call => exact Closed.unstuck states.1

section Samples

def sampleOwn : EapOwn :=
  let unset : Attribute Octets := ⟨[], false⟩
  ⟨unset, unset, unset, unset, unset, unset, unset, ⟨[], false⟩⟩

def sampleClient : EapClientData where
  destinationRealm := ⟨[], false⟩
  requestType := ⟨0, false⟩
  request := fun _ => ⟨.octets [], false⟩
  resultCode := none
  answer := fun _ => ⟨.octets [], false⟩
  own := sampleOwn

def sampleServer : EapData where
  requestType := ⟨0, false⟩
  request := fun _ => ⟨.octets [], false⟩
  answerType := ⟨0, false⟩
  granted := fun _ => ⟨.octets [], false⟩
  authorizationDone := false
  own := sampleOwn

def sampleCallbacks (type : UInt32) : EapClientCallbacks where
  setDestinationRealm := fun _ => .set [114]
  setAuthRequestType := fun _ => .set type
  setUserName := id
  setState := id
  set := fun _ own => own

/-- The application accepts every user, and authorizes everything or nothing. -/
def sampleTurn (authorizes : Bool) : Turn EapCallbacks where
  reply := fun _ => ⟨authorizes, ⟨.octets [], false⟩⟩
  own := ⟨fun _ => true, fun _ _ => true, id, fun own _ => own, id⟩

/-- A response reaches the backend. -/
def sampleAsking (type : UInt32) (eapMsg : Octets) : List (Input eapClient) :=
  [.forward eapMsg, .clientServe (sampleCallbacks type) true, .deliverRequest, .serverServe (sampleTurn true) true]

def sampleAnswering (signal : Signal Octets Octets) (authorizes : Bool) : List (Input eapClient) :=
  [.signal signal, .serverServe (sampleTurn authorizes) true, .deliverAnswer,
    .clientServe (sampleCallbacks authorizeAuthenticate) true]

def sampleRound (type : UInt32) (eapMsg : Octets) (signal : Signal Octets Octets) : List (Input eapClient) :=
  sampleAsking type eapMsg ++ sampleAnswering signal true

def sampleStart : EapJoint := .initial sampleClient sampleServer

def sampleCommands : List String := ["DiameterEAPRequest", "DiameterEAPAnswer"]

/-- Two rounds, a response that is given before the end of the lifetime has been served, and two machines that end
by themselves. -/
def sampleRun : List (Input eapClient) :=
  sampleRound authorizeAuthenticate [1] (.continue [2]) ++ sampleRound authorizeAuthenticate [3] (.success [4]) ++
    [.clientNotice .authLifetimeTimeout, .forward [5], .clientServe (sampleCallbacks authorizeAuthenticate) true,
      .clientServe (sampleCallbacks authorizeAuthenticate) true, .deliverRequest, .serverServe (sampleTurn true) true] ++
    sampleAnswering (.success [6]) true ++
    [.serverNotice .sessionTimeout, .serverServe (sampleTurn true) false, .clientNotice .sessionTimeout,
      .clientServe (sampleCallbacks authorizeAuthenticate) false]

end Samples

section Claim

/-- What is relayed when nothing is on its way, without exception. -/
def RelaysAll (joint : EapJoint) : Prop :=
  joint.Idle → joint.history.handed = joint.history.given ∧
    joint.history.told.map payload = joint.history.signals.map payload ∧
    (joint.history.told.map Signal.event = joint.history.answers.map fun answer =>
      match answer.1 with
      | .success => .rxSuccess
      | .multiRoundAuth => .rxContinue
      | .authenticationRejected | .authorizationRejected | .invalidAvpValue => .rxFailure) ∧
    ¬Stuck joint.client.state joint.server.state

instance instDecidableRelaysAll (joint : EapJoint) : Decidable (RelaysAll joint) :=
  inferInstanceAs (Decidable (_ → _ ∧ _ ∧ _ ∧ _))

def brokenRuns : List (List String × List (Input eapClient)) :=
  let serve : Input eapClient := .clientServe (sampleCallbacks authorizeAuthenticate) true
  let react : Input eapClient := .serverServe (sampleTurn true) true
  -- The first are the names that the loader makes of the command of the dictionary: nothing is sent.
  [ (["Diameter-EAP-Request", "Diameter-EAP-Answer"], [.forward [1], serve]),
    -- Nothing is sent either when `AAAMessageControl::Send` fails.
    (sampleCommands, [.forward [1], .clientServe (sampleCallbacks authorizeAuthenticate) false]),
    -- The callbacks leave out the realm, or provide the identifier that is written beyond its entry.
    (sampleCommands, [.forward [1], .clientServe { sampleCallbacks 3 with setDestinationRealm := id } true]),
    (sampleCommands, [.forward [1], .clientServe { sampleCallbacks 3 with set := fun _ _ => .set (.number 1) } true]),
    -- A DER is invalid.
    (sampleCommands, sampleAsking authorizeOnly [1] ++ [.deliverAnswer, serve]),
    -- The user is only to be authenticated: the client waits for an answer to a request that it does not send.
    (sampleCommands, sampleRound authenticationOnly [1] (.success [2])),
    -- The user is not authorized: the EAP Success is erased.
    (sampleCommands, sampleAsking authorizeAuthenticate [1] ++ sampleAnswering (.success [2]) false),
    -- One of the applications speaks twice.
    (sampleCommands, [.forward [1], .forward [2], serve, serve, .deliverRequest, react]),
    (sampleCommands, sampleAsking authorizeAuthenticate [1] ++ [.signal (.continue [2]), .signal (.continue [3]), react,
      react, .deliverAnswer, serve]),
    -- A notice ends a machine that the other one waits for.
    (sampleCommands, [.forward [1], serve, .clientNotice .timeout, serve, .deliverRequest, react,
      .signal (.continue [2]), react, .deliverAnswer, serve]),
    (sampleCommands, sampleAsking authorizeAuthenticate [1] ++ [.serverNotice .timeout, react]),
    -- A server that has ended is asked again.
    (sampleCommands, sampleRound authorizeAuthenticate [1] (.success [2]) ++ [.serverNotice .sessionTimeout, react,
      .clientNotice .authLifetimeTimeout, serve, .forward [3], serve, .deliverRequest, react])]

end Claim

end Runs

end OpenDiameter.Access.EapRelay
