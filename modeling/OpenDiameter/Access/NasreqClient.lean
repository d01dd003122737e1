import OpenDiameter.Access.Client
import OpenDiameter.Access.NasreqServer

/-! The client of the NASREQ application. -/

set_option autoImplicit false

namespace OpenDiameter.Access

section Data

/-- `AA_RequestData`, `AA_AnswerData` and `authenticationInfo` of a client. -/
structure NasreqClientData where
  destinationRealm : Attribute Octets
  requestType : Attribute UInt32
  request : Avp → Attribute Value
  resultCode : Option ResultCode
  answerType : Attribute UInt32
  answer : Avp → Attribute Value
  own : NasreqOwn

/-- The `Set*` callbacks, each of which gets the attribute as it is. -/
structure NasreqClientCallbacks where
  setDestinationRealm : Attribute Octets → Attribute Octets
  setAuthRequestType : Attribute UInt32 → Attribute UInt32
  setState : Attribute Octets → Attribute Octets
  set : Avp → Attribute Value → Attribute Value

/-- `SignalContinue`, `SignalSuccess` and `SignalFailure` of a client. -/
abbrev NasreqCall := Signal AuthenticationInfo Unit

def setBeforeInfo : List Avp :=
  [.nasIdentifier, .nasIpAddress, .nasIpv6Address, .nasPort, .nasPortId, .nasPortType, .originStateId, .portLimit,
    .serviceType, .authorizationLifetime, .authGracePeriod, .authSessionState, .callbackNumber, .calledStationId,
    .callingStationId, .originatingLineInfo, .connectInfo, .framedCompression, .framedInterfaceId, .framedIpAddress,
    .framedIpv6Prefix, .framedIpNetmask, .framedMtu, .framedProtocol]

def setAfterInfo : List Avp :=
  [.loginIpHost, .loginLatGroup, .loginLatNode, .loginLatPort, .loginLatService, .tunneling]

def aaAnswerAvps : List Avp :=
  [.originHost, .originRealm, .serviceType, .cls, .configurationToken, .acctInterimInterval, .idleTimeout,
    .authorizationLifetime, .authGracePeriod, .authSessionState, .reAuthRequestType, .sessionTimeout, .originStateId,
    .filterId, .portLimit, .callbackId, .callbackNumber, .framedCompression, .framedAppletalkLink,
    .framedAppletalkNetwork, .framedAppletalkZone, .framedInterfaceId, .framedIpAddress, .framedIpv6Prefix,
    .framedIpv6Pool, .framedIpv6Route, .framedIpNetmask, .framedRoute, .framedPool, .framedIpxNetwork, .framedMtu,
    .framedProtocol, .framedRouting, .loginIpHost, .loginIpv6Host, .loginLatGroup, .loginLatNode, .loginLatPort,
    .loginLatService, .loginTcpPort, .nasFilterRule, .tunneling]

def replacedByAnswer : List Avp :=
  [.serviceType, .portLimit, .framedCompression, .framedIpAddress, .framedIpv6Prefix, .framedIpNetmask, .framedMtu,
    .framedProtocol, .loginIpHost, .loginIpv6Host, .loginLatGroup, .loginLatNode, .loginLatPort, .loginLatService]

end Data

section Functions

def forwardAuthenticationInfo (info : AuthenticationInfo) (data : NasreqClientData) : Option NasreqClientData :=
  match info with
  | .none => none
  | .pap .. | .chap .. | .arap _ => some { data with own := { data.own with info := some info } }

def provideInfo (framedProtocol : Bool) (info : AuthenticationInfo) (own : NasreqOwn) : NasreqOwn :=
  match info with
  | .none => own
  | .pap userName userPassword => { own with userName := .set userName, userPassword := .set userPassword }
  | .chap userName chapAuth chapChallenge =>
    { own with userName := .set userName, chapAuth := .set chapAuth, chapChallenge := .set chapChallenge }
  | .arap info =>
    let own := { own with userName := .set info.userName }
    -- Without Framed-Protocol the ARAP values are not sent.
    if !framedProtocol then own
    else if info.isFirst then
      { own with
        arapPassword := .set info.arapPassword, arapChallengeResponse := .set info.arapChallengeResponse }
    else
      { own with
        arapChallengeResponse := .set info.arapChallengeResponse
        arapSecurity := .set info.arapSecurity
        arapSecurityData := .set info.arapSecurityData }

/-- `AA_RequestParser::parseAppToRaw`. -/
def renderAaRequest (data : NasreqClientData) : Request NasreqBody where
  authRequestType := data.requestType.carried
  avps := fun avp => if avp = .framedIpNetmask ∨ avp ∈ aaRequestAvps then (data.request avp).carried else none
  body :=
    { userName := data.own.userName.carried
      userPassword := data.own.userPassword.carried
      chapAuth := data.own.chapAuth.carried
      chapChallenge := data.own.chapChallenge.carried
      arapPassword := data.own.arapPassword.carried
      arapChallengeResponse := data.own.arapChallengeResponse.carried
      arapSecurity := data.own.arapSecurity.carried
      arapSecurityData := data.own.arapSecurityData.carried
      state := data.own.state.carried }

/-- `AcSendAA_Request`. -/
def acSendAaRequest (callbacks : NasreqClientCallbacks) (data : NasreqClientData) :
    NasreqClientData × Requesting (Request NasreqBody) :=
  let data := { data with destinationRealm := callbacks.setDestinationRealm data.destinationRealm }
  if !data.destinationRealm.isSet then (data, .disconnects)
  else
    let data := { data with requestType := callbacks.setAuthRequestType data.requestType }
    if !data.requestType.isSet then (data, .disconnects)
    else
      let data :=
        { data with
          request := fun avp =>
            if avp ∈ setBeforeInfo then callbacks.set avp (data.request avp) else data.request avp
          own := { data.own with state := callbacks.setState data.own.state } }
      match data.own.info with
      | none => (data, .faults)
      | some info =>
        if info = .none ∧ data.requestType.value ≠ authorizeOnly then (data, .disconnects)
        else
          let data :=
            { data with
              request := fun avp =>
                if avp ∈ setAfterInfo then callbacks.set avp (data.request avp)
                -- `SetLoginIpHost` is called for `LoginIpv6Host` too.
                else if avp = .loginIpv6Host then callbacks.set .loginIpHost (data.request .loginIpv6Host)
                else data.request avp
              own := provideInfo (data.request .framedProtocol).isSet info data.own }
          (data, .sends (renderAaRequest data))

/-- `SendAA_Request`: the 64 bits of `FramedInterfaceId` are written into an entry of 32. -/
def sendAaRequest (commands : List String) (accepted : Bool) (message : Request NasreqBody) :
    Transmission (Request NasreqBody) :=
  transmit commands "AA-Request" (message.avps .framedInterfaceId).isSome accepted message

/-- `AA_AnswerParser::parseRawToApp`. The login hosts are not cleared, and no server sends a
`Password-Retry`. -/
def parseAaAnswer (code : ResultCode) (message : AaAnswer) (data : NasreqClientData) : NasreqClientData :=
  { data with
    resultCode := some code
    answerType := data.answerType.receive message.authRequestType
    answer := fun avp =>
      if avp = .loginIpHost ∨ avp = .loginIpv6Host then receiveUncleared (data.answer avp) (message.avps avp)
      else receiveValue (data.answer avp) (if avp ∈ aaAnswerAvps then message.avps avp else none)
    own := { data.own with
      answerState := data.own.answerState.receive message.state
      replyMessage := data.own.replyMessage.receiveVector message.replyMessage
      answerChallengeResponse := data.own.answerChallengeResponse.receive message.arapChallengeResponse
      answerSecurity := data.own.answerSecurity.receive message.arapSecurity
      answerSecurityData := data.own.answerSecurityData.receiveVector message.arapSecurityData
      passwordRetry := data.own.passwordRetry.clear } }

/-- What is tested of an answer with `AAA_MULTI_ROUND_AUTH`; the ARAP attributes are those of the request. -/
def arapContinues (data : NasreqClientData) : Bool :=
  (data.answer .framedProtocol).carried = some (.number 3) ∧ (data.request .framedProtocol).value = .number 3 ∧
    data.own.arapSecurity.isSet ∧ data.own.arapSecurityData.isSet

/-- `AcCheckAA_AnswerResultCode`. -/
def checkAaAnswer (data : NasreqClientData) : ClientEvent :=
  match data.resultCode with
  | some .success =>
    if data.requestType.value ≠ data.answerType.value then .failure
    else if data.requestType.value ≠ authorizeAuthenticate ∧ data.requestType.value ≠ authorizeOnly then .failure
    else .success
  | some .multiRoundAuth =>
    if data.requestType.value ≠ data.answerType.value then .failure
    else if data.requestType.value ≠ authorizeAuthenticate ∧ data.requestType.value ≠ authenticationOnly then .failure
    else if arapContinues data then .continue
    else .failure
  | some .authenticationRejected | some .authorizationRejected | some .invalidAvpValue | none => .failure

def updateArap (own : NasreqOwn) (info : ArapInfo) : ArapInfo :=
  { info with
    arapChallengeResponse := own.answerChallengeResponse.carried.getD info.arapChallengeResponse
    arapSecurity := own.answerSecurity.carried.getD info.arapSecurity
    arapSecurityData := own.answerSecurityData.carried.getD info.arapSecurityData
    passwordRetry := own.passwordRetry.carried.getD info.passwordRetry }

/-- `AcContinueAuthentication`. -/
def continueAuthentication (data : NasreqClientData) : NasreqClientData × Option NasreqCall :=
  match data.own.info with
  | none => (data, none)
  | some (.arap info) =>
    if data.answerType.value = authorizeOnly then (data, some (.continue (.arap info)))
    else
      let info := AuthenticationInfo.arap (updateArap data.own info)
      ({ data with own := { data.own with info := some info } }, some (.continue info))
  | some info => (data, some (.continue info))

/-- `AcAccessAccept`. -/
def acceptAaAnswer (data : NasreqClientData) : NasreqClientData × NasreqCall :=
  ({ data with
      request := fun avp =>
        if avp = .tunneling then data.answer .tunneling
        else if avp ∈ replacedByAnswer ∧ (data.answer avp).isSet then data.answer avp
        else data.request avp
      own := { data.own with
        state := if data.own.answerState.isSet then .set data.own.answerState.value else data.own.state } },
    .success ())

/-- `DiameterNasreqClientStateMachine`. -/
abbrev nasreqClient : ClientApplication nasreqServer where
  Data := NasreqClientData
  Callbacks := NasreqClientCallbacks
  Info := AuthenticationInfo
  Call := NasreqCall
  secondLeg := false
  forward := forwardAuthenticationInfo
  request := acSendAaRequest
  sendRequest := sendAaRequest
  sendAnswer := sendAaAnswer
  receive := parseAaAnswer
  resultCode := fun data => data.resultCode
  check := checkAaAnswer
  continuing := continueAuthentication
  accept := acceptAaAnswer
  reject := fun _ => .failure ()

end Functions

end OpenDiameter.Access
