import Mathlib.Tactic.SplitIfs
import OpenDiameter.Access.Server

/-! The server of the Diameter EAP application. -/

set_option autoImplicit false

namespace OpenDiameter.Access

section Data

/-- The AVPs of a DER besides those that are authorized. -/
structure EapBody where
  userName : Option Octets := none
  state : Option Octets := none
  eapPayload : Option Octets := none
  deriving DecidableEq, Repr

/-- The attributes of `DER_Data` and of `DEA_Data` that only this application has. -/
structure EapOwn where
  userName : Attribute Octets
  state : Attribute Octets
  eapPayload : Attribute Octets
  answerUserName : Attribute Octets
  answerState : Attribute Octets
  answerPayload : Attribute Octets
  reissuedPayload : Attribute Octets
  replyMessage : Attribute (List Octets)

/-- What `ValidateUserName`, `ValidateState`, `SetState`, `SetReplyMessage` and
`SetReissuedEapPayload` do. -/
structure EapCallbacks where
  validUserName : Octets → Bool
  validState : Octets → Octets → Bool
  setState : Attribute Octets → Attribute Octets
  setReplyMessage : Attribute (List Octets) → ResultCode → Attribute (List Octets)
  setReissuedPayload : Attribute Octets → Attribute Octets

structure Dea where
  authRequestType : Option UInt32
  userName : Option Octets
  state : Option Octets
  eapPayload : Option Octets
  reissuedPayload : Option Octets
  replyMessage : Option (List Octets)
  avps : Avp → Option Value

/-- The AVPs that `DER_Parser` reads; `FramedIpNetmask` is not among them. -/
def derAvps : List Avp :=
  [.originHost, .originRealm, .nasPort, .nasPortId, .originStateId, .nasIdentifier, .nasIpAddress, .nasIpv6Address,
    .nasPortType, .portLimit, .serviceType, .idleTimeout, .authorizationLifetime, .authGracePeriod, .authSessionState,
    .sessionTimeout, .callbackNumber, .calledStationId, .callingStationId, .cls, .originatingLineInfo, .connectInfo,
    .framedCompression, .framedInterfaceId, .framedIpAddress, .framedIpv6Prefix, .framedMtu, .framedProtocol, .tunneling]

end Data

section Functions

abbrev EapData := ServerData EapOwn

/-- `DER_Parser::parseRawToApp`. -/
def parseDER (data : EapData) (der : Request EapBody) : EapData :=
  { data with
    requestType := data.requestType.receive der.authRequestType
    request := fun avp => receiveValue (data.request avp) (if avp ∈ derAvps then der.avps avp else none)
    own := { data.own with
      userName := data.own.userName.receive der.body.userName
      state := data.own.state.receive der.body.state
      eapPayload := data.own.eapPayload.receive der.body.eapPayload } }

def refuseDER (data : EapData) : EapData :=
  { data with
    requestType := data.requestType.clear
    request := fun avp => clearValue (data.request avp)
    own := { data.own with
      userName := data.own.userName.clear
      state := data.own.state.clear
      eapPayload := data.own.eapPayload.clear } }

def checkState (callbacks : EapCallbacks) (own : EapOwn) : Bool × EapOwn :=
  if own.answerState.isSet then
    if !own.state.isSet || !callbacks.validState own.state.value own.answerState.value then (false, own)
    else (true, { own with answerState := callbacks.setState own.answerState })
  else (true, own)

def checkDER (turn : Turn EapCallbacks) (data : EapData) : Checked EapOwn :=
  if data.requestType.value ≠ authenticationOnly ∧ data.requestType.value ≠ authorizeAuthenticate then
    { data, verdict := some false }
  else
    -- The result of `AuthorizeMultiRoundTimeOut` is dropped.
    let timeOut : Call Value := ⟨.multiRoundTimeOut, none⟩
    let data :=
      { data with
        answerType := data.requestType
        granted := Function.update data.granted .multiRoundTimeOut (turn.reply timeOut).sets }
    let calls := [(timeOut, (turn.reply timeOut).accepted)]
    if !data.answerType.isSet then { data, verdict := some false, calls }
    else if ∃ cls ∈ (data.granted .cls).value.strings, cls ∉ (data.request .cls).value.strings then
      { data, verdict := some false, calls }
    else if data.own.userName.isSet && !turn.own.validUserName data.own.userName.value then
      { data, verdict := some false, calls }
    else
      let own :=
        if data.own.userName.isSet then { data.own with answerUserName := data.own.userName } else data.own
      let checked := checkState turn.own own
      { data := { data with own := checked.2 }, verdict := some checked.1, calls }

theorem checkDER_cases (turn : Turn EapCallbacks) (data : EapData) :
    (checkDER turn data = { data, verdict := some false }) ∨
      (checkDER turn data).data.answerType = data.requestType ∧
      (checkDER turn data).data.requestType = data.requestType ∧
      (checkDER turn data).data.authorizationDone = data.authorizationDone ∧
      (checkDER turn data).calls = [(⟨.multiRoundTimeOut, none⟩, (turn.reply ⟨.multiRoundTimeOut, none⟩).accepted)] := by
  unfold checkDER
  dsimp only
  split_ifs
  case pos => exact Or.inl rfl
  all_goals exact Or.inr ⟨rfl, rfl, rfl, rfl⟩

/-- `SignalContinue`, `SignalSuccess` and `SignalFailure`, all with an EAP message. -/
def eapSignalled (signal : Signal Octets Octets) (data : EapData) : EapData :=
  match signal with
  | .continue eapMsg | .success eapMsg | .failure eapMsg =>
    { data with own := { data.own with answerPayload := .set eapMsg } }

/-- `DEA_Parser::parseAppToRaw`. -/
def renderDEA (data : EapData) : Dea where
  authRequestType := data.answerType.carried
  userName := data.own.answerUserName.carried
  state := data.own.answerState.carried
  eapPayload := data.own.answerPayload.carried
  reissuedPayload := data.own.reissuedPayload.carried
  replyMessage := data.own.replyMessage.carried
  avps := fun avp => (data.granted avp).carried

/-- The actions that end with `SendDEA`. -/
def acSendDEA (turn : Turn EapCallbacks) (code : ResultCode) (data : EapData) : EapData × Sending Dea :=
  let own := data.own
  let data : EapData :=
    match code with
    | .multiRoundAuth =>
      { data with own := { own with
          replyMessage := turn.own.setReplyMessage own.replyMessage.clearVector code
          reissuedPayload := turn.own.setReissuedPayload own.reissuedPayload.clear } }
    -- The payload may be an EAP Success.
    | .authorizationRejected => { data with own := { own with answerPayload := own.answerPayload.clear } }
    | .success | .authenticationRejected | .invalidAvpValue => data
  (data, .sends (renderDEA data))

def sendDEA (commands : List String) (accepted : Bool) (dea : Dea) : Transmission Dea :=
  transmit commands "DiameterEAPAnswer" false accepted dea

/-- `DiameterEapServerStateMachine`. -/
abbrev eapServer : Application where
  Body := EapBody
  Own := EapOwn
  Callbacks := EapCallbacks
  Continuing := Octets
  Ending := Octets
  Info := Octets
  Answer := Dea
  chain := eapChain
  parse := parseDER
  refuse := refuseDER
  check := checkDER
  info := fun data => some data.own.eapPayload.value
  signalled := eapSignalled
  send := acSendDEA

theorem eapServer_lawful : eapServer.Lawful where
  settled := rfl
  parse_type := by
    intro data message value given
    change (data.requestType.receive message.authRequestType).value = value
    rw [given]
    rfl
  parse_done := fun _ _ => rfl
  refuse_done := fun _ => rfl
  signalled := by
    intro signal data
    cases signal <;> exact ⟨rfl, rfl, rfl⟩
  send := by
    intro turn code data
    cases code <;> exact ⟨rfl, rfl, rfl⟩
  check_type := by
    intro turn data valid
    rcases checkDER_cases turn data with same | ⟨answerType, -, -, -⟩
    · rw [show eapServer.check turn data = _ from same] at valid
      cases valid
    · exact congrArg Attribute.value answerType
  check_done := by
    intro turn data
    rcases checkDER_cases turn data with same | ⟨-, -, done, -⟩
    · exact congrArg (fun checked => checked.data.authorizationDone) same
    · exact done
  check_calls := by
    intro turn data call mem
    rcases checkDER_cases turn data with same | ⟨-, -, -, calls⟩
    · rw [show eapServer.check turn data = _ from same] at mem
      cases mem
    · exact List.mem_singleton.mp (calls ▸ mem)

end Functions

end OpenDiameter.Access
