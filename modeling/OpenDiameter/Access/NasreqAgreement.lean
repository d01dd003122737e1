import Mathlib.Data.List.Forall2
import Mathlib.Tactic.SplitIfs
import OpenDiameter.Access.Conversation
import OpenDiameter.Access.NasreqClient
import OpenDiameter.Access.NasreqRounds

/-! A NASREQ client and a NASREQ server come to the same outcome. -/

set_option autoImplicit false

namespace OpenDiameter.Access.NasreqAgreement

open Foundation

section Purpose

abbrev NasreqJoint := Joint nasreqClient

/-- An answer to go on tells the client the ARAP data that the server's authentication info has and, when the answer has
one, the challenge response. -/
def Told : ResultCode × NasreqData → NasreqCall → Prop
  | (.success, _), call => call = .success ()
  | (.multiRoundAuth, data), call => ∃ sent renewed, data.own.info = some (.arap sent) ∧
      call = .continue (.arap renewed) ∧ renewed.arapSecurity = sent.arapSecurity ∧
      renewed.arapSecurityData = sent.arapSecurityData ∧ renewed.passwordRetry = sent.passwordRetry ∧
      ∀ response, data.own.answerChallengeResponse.carried = some response → renewed.arapChallengeResponse = response
  | (.authenticationRejected, _), call | (.authorizationRejected, _), call | (.invalidAvpValue, _), call =>
    call = .failure ()

/-- Both machines have accepted the user, or both have come to their end without. -/
def SameOutcome (joint : NasreqJoint) : Prop :=
  joint.client.state = .accepted ∧ joint.server.state = .accepted ∨
    (joint.client.state = .rejected ∨ joint.client.state = .terminated) ∧
      (joint.server.state = .rejected ∨ joint.server.state = .terminated)

/-- The answers that the client has dealt with and the calls of its application correspond, and when nothing is left
to be done the machines have come to the same outcome. -/
structure Agrees (joint : NasreqJoint) : Prop where
  told : ∃ served pending, joint.history.answers = served ++ pending ∧
    List.Forall₂ Told served joint.history.told ∧
    pending.length = joint.clientQueue.count .rxAnswer + joint.toClient.length
  outcome : joint.Quiescent → SameOutcome joint

end Purpose

section Condition

/-- The client goes by the ARAP attributes of its own request and by the protocol that was granted before, and keeps its
own number of retries. -/
def Continuable (info : AuthenticationInfo) (client : NasreqClientData) (server : NasreqData) : Prop :=
  match (nasreqSignalled (.continue info) server).own.info, client.own.info with
  | some (.arap sent), some (.arap own) =>
    (server.answerType.value = authorizeAuthenticate ∨ server.answerType.value = authenticationOnly) ∧
      (server.granted .framedProtocol).carried = some (.number 3) ∧
      (client.request .framedProtocol).value = .number 3 ∧
      client.own.arapSecurity.isSet = true ∧ client.own.arapSecurityData.isSet = true ∧
      own.passwordRetry = sent.passwordRetry
  | _, _ => False

instance instDecidableContinuable (info : AuthenticationInfo) (client : NasreqClientData) (server : NasreqData) :
    Decidable (Continuable info client server) := by
  unfold Continuable
  split <;> infer_instance

def Servable (turn : Turn NasreqCallbacks) (server : NasreqData) : Prop :=
  turn.own.validAuthRequestType server.requestType.value = true →
    if server.requestType.value = authorizeOnly then server.own.info.isSome = true
    else server.own.info.any NasreqRounds.AuthenticationInfo.isArap = true → arapMultiRound server = false

instance instDecidableServable (turn : Turn NasreqCallbacks) (server : NasreqData) : Decidable (Servable turn server) := by
  unfold Servable
  infer_instance

def nasreqTerms : Terms nasreqClient where
  asks := fun commands accepted callbacks client =>
    "AA-Request" ∈ commands ∧ accepted = true ∧
      (callbacks.setDestinationRealm client.destinationRealm).isSet = true ∧
      (callbacks.setAuthRequestType client.requestType).isSet = true ∧
      (callbacks.set .framedInterfaceId (client.request .framedInterfaceId)).isSet = false
  serves := Servable
  speaks := fun signal client server =>
    match signal with
    | .continue info => Continuable info client server
    | .success _ => server.answerType.value = authorizeOnly ∨ server.answerType.value = authorizeAuthenticate
    | .failure _ => True
  answers := fun commands accepted => "AA-Answer" ∈ commands ∧ accepted = true
  parts := False

instance instDecidableSpeaks (signal : Signal AuthenticationInfo Unit) (client : NasreqClientData) (server : NasreqData) :
    Decidable (nasreqTerms.speaks signal client server) := by
  cases signal <;> unfold nasreqTerms <;> dsimp only <;> infer_instance

instance instDecidableMeets (commands : List String) (joint : NasreqJoint) (input : Input nasreqClient) :
    Decidable (joint.Meets commands nasreqTerms input) := by
  cases input with
  | signal signal =>
    exact @instDecidableAnd _ _ _ (instDecidableSpeaks signal joint.client.data joint.server.data)
  | forward | clientNotice | clientServe | deliverRequest | serverNotice | serverServe | deliverAnswer =>
    unfold Joint.Meets nasreqTerms
    dsimp only
    infer_instance

end Condition

section Invariant

def Received (handling : Handling nasreqClient) (client : NasreqClientData) : Prop :=
  client.resultCode = some handling.code ∧
    match handling.code with
    | .success => handling.handled.isSome = true ∧ checkAaAnswer client = .success
    | .multiRoundAuth => handling.handled.isSome = true ∧ checkAaAnswer client = .continue ∧
        client.answerType.value ≠ authorizeOnly ∧ ∃ sent own, handling.data.own.info = some (.arap sent) ∧
          client.own.info = some (.arap own) ∧ client.own.answerSecurity = .set sent.arapSecurity ∧
          client.own.answerSecurityData = .set sent.arapSecurityData ∧
          client.own.passwordRetry.isSet = false ∧ own.passwordRetry = sent.passwordRetry ∧
          ∀ response, handling.data.own.answerChallengeResponse.carried = some response →
            client.own.answerChallengeResponse = .set response
    | .authenticationRejected | .authorizationRejected | .invalidAvpValue => True

def nasreqContract : Contract nasreqClient where
  taken := fun info client => client.own.info = some info ∧ info ≠ .none
  posted := fun _ client server => server.requestType = .set client.requestType.value
  waiting := fun _ handed client server =>
    server.answerType = .set client.requestType.value ∧ server.own.info = some handed
  signalled := fun _ _ signal client server =>
    server.answerType = .set client.requestType.value ∧
      match signal with
      | .continue _ => ∃ sent own, server.own.info = some (.arap sent) ∧ client.own.info = some (.arap own) ∧
          (client.requestType.value = authorizeAuthenticate ∨ client.requestType.value = authenticationOnly) ∧
          (server.granted .framedProtocol).carried = some (.number 3) ∧
          (client.request .framedProtocol).value = .number 3 ∧
          client.own.arapSecurity.isSet = true ∧ client.own.arapSecurityData.isSet = true ∧
          own.passwordRetry = sent.passwordRetry
      | .success _ => (∃ info, server.own.info = some info) ∧
          (client.requestType.value = authorizeOnly ∨ client.requestType.value = authorizeAuthenticate)
      | .failure _ => ∃ info, server.own.info = some info
  received := Received
  well := fun exchange => Told (exchange.code, exchange.data) exchange.call
  closes := fun handling call => ∃ given, call = some given ∧ Told (handling.code, handling.data) given

end Invariant

section Operations

theorem acSendAaRequest_sends {callbacks : NasreqClientCallbacks} {data : NasreqClientData} {info : AuthenticationInfo}
    (known : data.own.info = some info) (given : info ≠ .none)
    (realm : (callbacks.setDestinationRealm data.destinationRealm).isSet = true)
    (type : (callbacks.setAuthRequestType data.requestType).isSet = true) :
    ∃ after, acSendAaRequest callbacks data = (after, .sends (renderAaRequest after)) ∧
      after.requestType.carried = some after.requestType.value ∧
      after.request .framedInterfaceId = callbacks.set .framedInterfaceId (data.request .framedInterfaceId) := by
  have carried : (callbacks.setAuthRequestType data.requestType).carried =
      some (callbacks.setAuthRequestType data.requestType).value := if_pos type
  simp only [acSendAaRequest, realm, type, known, given, Bool.not_true, Bool.false_eq_true, if_false, false_and]
  exact ⟨_, rfl, carried, rfl⟩

theorem sendAaRequest_sent {commands : List String} {accepted : Bool} {data : NasreqClientData}
    (known : "AA-Request" ∈ commands) (accepts : accepted = true)
    (unset : (data.request .framedInterfaceId).isSet = false) :
    sendAaRequest commands accepted (renderAaRequest data) = .sent (renderAaRequest data) := by
  have fits : ((renderAaRequest data).avps .framedInterfaceId).isSome = false := by
    simp [renderAaRequest, aaRequestAvps, Attribute.carried, unset]
  rw [sendAaRequest, fits]
  exact transmit_sent known accepts _

theorem checkAaState_info (callbacks : NasreqCallbacks) (own : NasreqOwn) :
    (checkAaState callbacks own).2.info = own.info := by
  unfold checkAaState
  split_ifs <;> rfl

theorem check_servable {turn : Turn NasreqCallbacks} {data : NasreqData} (servable : Servable turn data) :
    ((checkAaRequest turn data).verdict = some true ∧
        ∃ info, (checkAaRequest turn data).data.own.info = some info ∧
          (checkAaRequest turn data).data.answerType = .set data.requestType.value) ∨
      (checkAaRequest turn data).verdict = some false := by
  unfold checkAaRequest
  dsimp only
  cases accepted : turn.own.validAuthRequestType data.requestType.value with
  | false => exact Or.inr rfl
  | true =>
    have serves := servable accepted
    by_cases authorizes : data.requestType.value = authorizeOnly
    · rw [if_pos authorizes] at serves
      obtain ⟨info, known⟩ := Option.isSome_iff_exists.mp serves
      simp only [authorizes, Bool.not_true, Bool.false_eq_true, if_false, if_true]
      exact Or.inl ⟨trivial, info, known, trivial⟩
    · rw [if_neg authorizes] at serves
      simp only [authorizes, Bool.not_true, Bool.false_eq_true, if_false]
      cases known : data.own.info with
      | none =>
        cases chosen : selectInfo turn.own data.own with
        | none => exact Or.inr rfl
        | some info => exact Or.inl ⟨rfl, info, rfl, rfl⟩
      | some info =>
        cases info with
        | none | pap | chap => exact Or.inr rfl
        | arap info =>
          have once : arapMultiRound { data with answerType := .set data.requestType.value } = false :=
            serves (by rw [known]; rfl)
          simp only [once, Bool.false_eq_true, if_false]
          cases held : (checkAaState turn.own data.own).1 with
          | false => exact Or.inr rfl
          | true => exact Or.inl ⟨rfl, .arap info, (checkAaState_info turn.own data.own).trans known, trivial⟩

section Answers

variable {client : NasreqClientData} {server : NasreqData} (turn : Turn NasreqCallbacks)

theorem success_received {info : AuthenticationInfo} {given handed : AuthenticationInfo}
    {signal : Signal AuthenticationInfo Unit} (typed : server.answerType = .set client.requestType.value)
    (known : server.own.info = some info)
    (authorizes : client.requestType.value = authorizeOnly ∨ client.requestType.value = authorizeAuthenticate) :
    ∃ after answer, acSendAaAnswer turn .success server = (after, .sends answer) ∧
      Received ⟨given, some (handed, signal), .success, after⟩ (parseAaAnswer .success answer client) := by
  have sends : ∃ after, acSendAaAnswer turn .success server = (after, .sends (renderAaAnswer after)) ∧
      after.answerType = server.answerType := by
    cases info <;> simp only [acSendAaAnswer, known] <;> exact ⟨_, rfl, rfl⟩
  obtain ⟨after, sent, same⟩ := sends
  refine ⟨after, _, sent, rfl, rfl, ?_⟩
  have read : (parseAaAnswer .success (renderAaAnswer after) client).answerType = .set client.requestType.value := by
    simp only [parseAaAnswer, renderAaAnswer, same, typed, Attribute.carried_set, Attribute.receive]
  have kept : (parseAaAnswer .success (renderAaAnswer after) client).requestType = client.requestType := rfl
  have accepted : ¬(client.requestType.value ≠ authorizeAuthenticate ∧ client.requestType.value ≠ authorizeOnly) := by
    rintro ⟨first, second⟩
    rcases authorizes with same | same
    · exact second same
    · exact first same
  have code : (parseAaAnswer .success (renderAaAnswer after) client).resultCode = some .success := rfl
  simp only [checkAaAnswer, code, read, kept, Attribute.set, ne_eq, not_true_eq_false, if_false]
  exact if_neg accepted

theorem sends_multiRound {sent : ArapInfo} (known : server.own.info = some (.arap sent)) :
    ∃ after, acSendAaAnswer turn .multiRoundAuth server = (after, .sends (renderAaAnswer after)) ∧
      after.answerType = server.answerType ∧ after.granted = server.granted ∧
      after.own.info = some (.arap sent) ∧ after.own.answerSecurity = .set sent.arapSecurity ∧
      after.own.answerSecurityData = .set sent.arapSecurityData := by
  simp only [acSendAaAnswer, known, setPasswordRetry]
  refine ⟨_, rfl, rfl, rfl, ?_⟩
  split
  · exact ⟨rfl, rfl, rfl⟩
  · exact ⟨rfl, rfl, rfl⟩

theorem continue_received {sent own : ArapInfo} {given handed : AuthenticationInfo}
    {signal : Signal AuthenticationInfo Unit} (typed : server.answerType = .set client.requestType.value)
    (known : server.own.info = some (.arap sent)) (held : client.own.info = some (.arap own))
    (authenticates : client.requestType.value = authorizeAuthenticate ∨ client.requestType.value = authenticationOnly)
    (granted : (server.granted .framedProtocol).carried = some (.number 3))
    (asked : (client.request .framedProtocol).value = .number 3) (security : client.own.arapSecurity.isSet = true)
    (securityData : client.own.arapSecurityData.isSet = true) (retry : own.passwordRetry = sent.passwordRetry) :
    ∃ after answer, acSendAaAnswer turn .multiRoundAuth server = (after, .sends answer) ∧
      Received ⟨given, some (handed, signal), .multiRoundAuth, after⟩ (parseAaAnswer .multiRoundAuth answer client) := by
  obtain ⟨after, sends, sameType, sameGranted, info, sentSecurity, sentData⟩ :=
    sends_multiRound turn known
  let received := parseAaAnswer .multiRoundAuth (renderAaAnswer after) client
  have read : received.answerType = .set client.requestType.value := by
    simp only [received, parseAaAnswer, renderAaAnswer, sameType, typed, Attribute.carried_set, Attribute.receive]
  have protocol : received.answer .framedProtocol = .set (.number 3) := by
    have listed : Avp.framedProtocol ∈ aaAnswerAvps := by decide
    have cleared : ¬(Avp.framedProtocol = .loginIpHost ∨ Avp.framedProtocol = .loginIpv6Host) := by decide
    simp only [received, parseAaAnswer, renderAaAnswer, sameGranted, granted, if_neg cleared, if_pos listed, receiveValue]
  have data : received.own.answerSecurityData = .set sent.arapSecurityData := by
    simp only [received, parseAaAnswer, renderAaAnswer, sentData, Attribute.carried_set, Attribute.receiveVector]
  have continues : arapContinues received = true := by
    have kept : received.request = client.request ∧ received.own.arapSecurity = client.own.arapSecurity ∧
        received.own.arapSecurityData = client.own.arapSecurityData := ⟨rfl, rfl, rfl⟩
    simp only [arapContinues, protocol, kept, asked, security, securityData, Attribute.carried_set, and_self,
      decide_true]
  have accepted : ¬(client.requestType.value ≠ authorizeAuthenticate ∧ client.requestType.value ≠ authenticationOnly) := by
    rintro ⟨first, second⟩
    rcases authenticates with same | same
    · exact first same
    · exact second same
  refine ⟨after, _, sends, rfl, rfl, ?_, ?_, sent, own, info, held, ?_, data, rfl, retry, ?_⟩
  · have same : received.resultCode = some .multiRoundAuth ∧ received.requestType = client.requestType := ⟨rfl, rfl⟩
    change checkAaAnswer received = .continue
    simp only [checkAaAnswer, same, read, Attribute.set, ne_eq, not_true_eq_false, if_false]
    rw [if_neg accepted, if_pos continues]
  · change received.answerType.value ≠ authorizeOnly
    rw [read]
    rcases authenticates with same | same
    · exact fun other => absurd (same.symm.trans other) (by decide)
    · exact fun other => absurd (same.symm.trans other) (by decide)
  · simp only [parseAaAnswer, renderAaAnswer, sentSecurity, Attribute.carried_set, Attribute.receive]
  · intro response carried
    have known : after.own.answerChallengeResponse.carried = some response := carried
    simp only [parseAaAnswer, renderAaAnswer, known, Attribute.receive]

theorem final_received {code : ResultCode} {info : AuthenticationInfo} {given : AuthenticationInfo}
    {handled : Option (AuthenticationInfo × Signal AuthenticationInfo Unit)} (known : server.own.info = some info)
    (final : code.leaves = .rejected) :
    ∃ after answer, acSendAaAnswer turn code server = (after, .sends answer) ∧
      Received ⟨given, handled, code, after⟩ (parseAaAnswer code answer client) := by
  have sends : ∃ after, acSendAaAnswer turn code server = (after, .sends (renderAaAnswer after)) := by
    cases code with
    | multiRoundAuth | success => cases final
    | authorizationRejected | invalidAvpValue => exact ⟨_, rfl⟩
    | authenticationRejected => cases info <;> simp only [acSendAaAnswer, known] <;> exact ⟨_, rfl⟩
  obtain ⟨after, sent⟩ := sends
  refine ⟨after, _, sent, rfl, ?_⟩
  cases code with
  | multiRoundAuth | success => cases final
  | authorizationRejected | invalidAvpValue | authenticationRejected => trivial

end Answers

/-- A signal to go on leaves what it was found to need. -/
theorem continuable_signalled {info : AuthenticationInfo} {client : NasreqClientData} {server : NasreqData}
    (continuable : Continuable info client server) (typed : server.answerType = .set client.requestType.value) :
    ∃ sent own, (nasreqSignalled (.continue info) server).own.info = some (.arap sent) ∧
      client.own.info = some (.arap own) ∧
      (client.requestType.value = authorizeAuthenticate ∨ client.requestType.value = authenticationOnly) ∧
      ((nasreqSignalled (.continue info) server).granted .framedProtocol).carried = some (.number 3) ∧
      (client.request .framedProtocol).value = .number 3 ∧
      client.own.arapSecurity.isSet = true ∧ client.own.arapSecurityData.isSet = true ∧
      own.passwordRetry = sent.passwordRetry := by
  have granted : (nasreqSignalled (.continue info) server).granted = server.granted := by
    cases info <;> rfl
  have type : server.answerType.value = client.requestType.value := by rw [typed]; rfl
  unfold Continuable at continuable
  split at continuable
  case h_1 sent own known held =>
    rw [type] at continuable
    exact ⟨sent, own, known, held, continuable.1, granted ▸ continuable.2.1, continuable.2.2⟩
  case h_2 => cases continuable

theorem heeds_received {handling : Handling nasreqClient} {client : NasreqClientData}
    (received : Received handling client) : Heeds nasreqContract handling client := by
  obtain ⟨given, handled, code, data⟩ := handling
  obtain ⟨read, rest⟩ := received
  cases code with
  | success =>
    obtain ⟨handed, checked⟩ := rest
    obtain ⟨⟨info, signal⟩, same⟩ := Option.isSome_iff_exists.mp handed
    exact .accepts info signal same rfl checked rfl
  | multiRoundAuth =>
    obtain ⟨handed, checked, typed, sent, own, info, held, security, securityData, unset, retry, responds⟩ := rest
    obtain ⟨⟨first, signal⟩, same⟩ := Option.isSome_iff_exists.mp handed
    have tells : continueAuthentication client =
        ({ client with own := { client.own with info := some (.arap (updateArap client.own own)) } },
          some (.continue (.arap (updateArap client.own own)))) := by
      simp only [continueAuthentication, held, if_neg typed]
    refine .continues first signal _ _ same rfl checked tells ⟨sent, updateArap client.own own, info, rfl, ?_, ?_, ?_, ?_⟩
    · rw [updateArap, security]
      rfl
    · rw [updateArap, securityData]
      rfl
    · have kept : client.own.passwordRetry.carried = none := by rw [Attribute.carried, unset]; rfl
      rw [updateArap, kept]
      exact retry
    · intro response carried
      rw [updateArap, responds response carried]
      rfl
  | authenticationRejected | authorizationRejected | invalidAvpValue =>
    refine .rejects rfl ?_ ⟨_, rfl, rfl⟩
    change checkAaAnswer client = .failure
    simp only [checkAaAnswer, show client.resultCode = some _ from read]

theorem nasreqContract_kept (commands : List String) : nasreqContract.Kept commands nasreqTerms where
  forward := by
    intro info before after taken
    cases info with
    | none => cases taken
    | pap | chap | arap =>
      obtain rfl := Option.some.inj taken
      exact ⟨rfl, nofun⟩
  request := by
    intro info turn accepted client taken asks
    obtain ⟨known, given⟩ := taken
    obtain ⟨named, accepts, realm, type, unset⟩ := asks
    obtain ⟨after, sends, carried, interface⟩ := acSendAaRequest_sends known given realm type
    refine ⟨after, _, sends, sendAaRequest_sent named accepts (interface ▸ unset), ?_⟩
    intro server
    change server.requestType.receive after.requestType.carried = .set after.requestType.value
    rw [carried]
    rfl
  check := by
    intro info turn client server posted servable
    have same : server.requestType = .set client.requestType.value := posted
    have type : server.requestType.value = client.requestType.value := by rw [same]; rfl
    rcases check_servable servable with ⟨valid, handed, known, typed⟩ | invalid
    · exact Or.inl ⟨valid, handed, known, typed.trans (congrArg Attribute.set type), known⟩
    · exact Or.inr ⟨invalid, _, _, rfl, rfl, trivial⟩
  signal := by
    intro info handed signal client server ⟨typed, known⟩ speaks
    cases signal with
    | «continue» next =>
      exact ⟨(nasreqServer_lawful.signalled (.continue next) server).answerType.trans typed,
        continuable_signalled speaks typed⟩
    | success =>
      have type : server.answerType.value = client.requestType.value := by rw [typed]; rfl
      exact ⟨typed, ⟨handed, known⟩, type ▸ speaks⟩
    | failure => exact ⟨typed, handed, known⟩
  authorize := by
    intro turn info handed ending client server ⟨typed, known, authorizes⟩
    have same : (nasreqServer.authorize turn server).2.1.answerType = server.answerType ∧
        (nasreqServer.authorize turn server).2.1.own = server.own := by
      unfold Application.authorize
      split <;> exact ⟨rfl, rfl⟩
    exact ⟨same.1.trans typed, same.2 ▸ known, authorizes⟩
  -- The parts of the authentication that are continued are written, and read, one by one.
  answer := by
    intro turn info handed signal client server code ⟨typed, rest⟩ leads
    cases leads with
    | «continue» next =>
      obtain ⟨sent, own, known, held, authenticates, granted, asked, security, securityData, retry⟩ := rest
      exact continue_received turn typed known held authenticates granted asked security securityData retry
    | success =>
      obtain ⟨⟨info, known⟩, authorizes⟩ := rest
      exact success_received turn typed known authorizes
    | unauthorized =>
      obtain ⟨⟨info, known⟩, -⟩ := rest
      have final : ResultCode.authorizationRejected.leaves = .rejected := rfl
      exact final_received turn known final
    | failure =>
      obtain ⟨info, known⟩ := rest
      have final : ResultCode.authenticationRejected.leaves = .rejected := rfl
      exact final_received turn known final
  carries := fun answers message => transmit_sent answers.1 answers.2 message
  heeds := fun received => heeds_received received

end Operations

section Runs

theorem paired_settled {state : ClientState} {peer : ServerState} (paired : Paired False state peer)
    (begun : state ≠ .initial) (unasked : state ≠ .waitInfo) : state = .accepted ∧ peer = .accepted := by
  cases paired with
  | fresh | again => exact absurd rfl begun
  | onward => exact absurd rfl unasked
  | accepted => exact ⟨rfl, rfl⟩
  | parted allowed => exact allowed.elim

/-- What the phases of a conversation say about its outcome. -/
theorem agrees_of_stage {joint : NasreqJoint} (stage : nasreqContract.Stage nasreqTerms.parts joint) : Agrees joint := by
  obtain ⟨backlog, phase, exchanges, client, server, rfl, stands⟩ := stage
  have told : List.Forall₂ Told (exchanges.map fun exchange => (exchange.code, exchange.data))
      (exchanges.map Exchange.call) := by
    rw [List.forall₂_map_left_iff, List.forall₂_map_right_iff, List.forall₂_same]
    exact stands.well
  have states := stands.states
  constructor
  case told =>
    have toldNothing : List.Forall₂ Told (exchanges.map fun exchange => (exchange.code, exchange.data))
        (exchanges.map Exchange.call ++ []) := by
      rw [List.append_nil]
      exact told
    rw [Phase.count_clientQueue]
    cases phase with
    | rest | forwarded | requested | posted | waiting | signalled => exact ⟨_, [], rfl, toldNothing, rfl⟩
    | answered handling answer => exact ⟨_, [(handling.code, handling.data)], rfl, toldNothing, rfl⟩
    | received handling => exact ⟨_, [(handling.code, handling.data)], rfl, toldNothing, rfl⟩
    | closed handling call =>
      obtain ⟨given, same, last⟩ := stands.holds
      have all : List.Forall₂ Told
          (exchanges.map (fun exchange => (exchange.code, exchange.data)) ++ [(handling.code, handling.data)])
          (exchanges.map Exchange.call ++ [given]) := List.rel_append told (.cons last .nil)
      refine ⟨_, [], (List.append_nil _).symm, ?_, rfl⟩
      rw [same]
      exact all
  case outcome =>
    intro ⟨idle, begun, unasked, unwaiting⟩
    obtain ⟨clientIdle, toServer, serverIdle, toClient⟩ := Phase.idle idle
    cases phase with
    | rest => exact Or.inl (paired_settled states begun unasked)
    | forwarded | received => cases clientIdle
    | requested => cases toServer
    | posted | signalled => cases serverIdle
    | answered => cases toClient
    | waiting => exact absurd states.2 unwaiting
    | closed handling call =>
      obtain ⟨given, same, -⟩ := stands.holds
      have settled := states.1.settled fun stranded => nomatch same.symm.trans (states.2 stranded)
      exact Or.inr ⟨settled.1, Or.inl settled.2⟩

/-- In a run that meets the condition in every step, client and server agree. -/
theorem client_and_server_agree {commands : List String} {client : NasreqClientData} {server : NasreqData}
    {inputs : List (Input nasreqClient)}
    (meets : Stepwise (Joint.step commands) (Joint.Meets commands nasreqTerms) (.initial client server) inputs) :
    Agrees (inputs.foldl (Joint.step commands) (.initial client server)) :=
  agrees_of_stage ((nasreqContract_kept commands).run meets)

section Samples

def sampleClient : NasreqClientData where
  destinationRealm := ⟨[], false⟩
  requestType := ⟨0, false⟩
  request := fun _ => ⟨.octets [], false⟩
  resultCode := none
  answerType := ⟨0, false⟩
  answer := fun _ => ⟨.octets [], false⟩
  own := NasreqRounds.sampleData.own

/-- The user is to be authenticated and authorized; what is made of the Framed-Protocol differs. -/
def sampleCallbacks (protocol : Attribute Value → Attribute Value) : NasreqClientCallbacks where
  setDestinationRealm := fun _ => .set [114]
  setAuthRequestType := fun _ => .set authorizeAuthenticate
  setState := id
  set := fun avp own => if avp = .framedProtocol then protocol own else own

/-- The application grants ARAP. -/
def sampleTurn : NasreqRounds.NasreqTurn where
  reply := fun call => if call.avp = .framedProtocol then ⟨true, .set (.number 3)⟩ else ⟨true, ⟨.octets [], false⟩⟩
  own := NasreqRounds.sampleTurn.own

def sampleRound (protocol : Attribute Value → Attribute Value) (info : AuthenticationInfo)
    (signal : Signal AuthenticationInfo Unit) : List (Input nasreqClient) :=
  [.forward info, .clientServe (sampleCallbacks protocol) true, .deliverRequest, .serverServe sampleTurn true,
    .signal signal, .serverServe sampleTurn true, .deliverAnswer, .clientServe (sampleCallbacks protocol) true]

def sampleCommands : List String := ["AA-Request", "AA-Answer"]

def sampleStart : NasreqJoint := .initial sampleClient NasreqRounds.sampleData

def firstArap : ArapInfo := ⟨[97], [98], [99], 0, [], 0, true⟩

def laterArap : ArapInfo := { firstArap with arapSecurity := 5, arapSecurityData := [[1]], passwordRetry := 2, isFirst := false }

def serverArap : ArapInfo := { firstArap with arapSecurity := 7, arapSecurityData := [[2], [3]], passwordRetry := 2 }

/-- ARAP is granted in a first conversation, the attributes of a later round are set in a second one, and the third has
the round that the server goes on with and one more. -/
def sampleRun : List (Input nasreqClient) :=
  let lifetime : List (Input nasreqClient) := [.clientNotice .authLifetimeTimeout, .clientServe (sampleCallbacks id) true]
  sampleRound (fun _ => .set (.number 3)) (.arap firstArap) (.success ()) ++ lifetime ++
    sampleRound (fun _ => .set (.number 1)) (.arap laterArap) (.success ()) ++ lifetime ++
    sampleRound Attribute.clear (.arap laterArap) (.continue (.arap serverArap)) ++
    sampleRound Attribute.clear (.arap laterArap) (.success ())

end Samples

theorem client_and_server_agree_arap : Agrees (sampleRun.foldl (Joint.step sampleCommands) sampleStart) :=
  client_and_server_agree (by decide +kernel)

/-- The server goes on with a second round of ARAP, and the client tells its application of a failure. -/
theorem client_and_server_disagree :
    ¬Agrees ((sampleRound (fun _ => .set (.number 3)) (.arap firstArap) (.continue (.arap serverArap))).foldl
      (Joint.step sampleCommands) sampleStart) := by
  intro ⟨⟨served, pending, answers, told, length⟩, _⟩
  have none : pending = [] := List.eq_nil_of_length_eq_zero (length.trans (by decide +kernel))
  rw [none, List.append_nil] at answers
  rw [← answers] at told
  have continues : ∃ sent renewed, _ = some (AuthenticationInfo.arap sent) ∧
      (.failure () : NasreqCall) = .continue (.arap renewed) ∧ _ := (List.forall₂_cons.mp told).1
  obtain ⟨_, _, _, same, _⟩ := continues
  cases same

end Runs

end OpenDiameter.Access.NasreqAgreement
