import OpenDiameter.Access.Client
import OpenDiameter.Access.EapServer

/-! The client of the Diameter EAP application. -/

set_option autoImplicit false

namespace OpenDiameter.Access

section Data

structure EapClientData where
  destinationRealm : Attribute Octets
  requestType : Attribute UInt32
  request : Avp → Attribute Value
  resultCode : Option ResultCode
  answer : Avp → Attribute Value
  own : EapOwn

/-- The `Set*` callbacks, each of which gets the attribute as it is. -/
structure EapClientCallbacks where
  setDestinationRealm : Attribute Octets → Attribute Octets
  setAuthRequestType : Attribute UInt32 → Attribute UInt32
  setUserName : Attribute Octets → Attribute Octets
  setState : Attribute Octets → Attribute Octets
  set : Avp → Attribute Value → Attribute Value

/-- `SignalContinue`, `SignalSuccess` and `SignalFailure` of a client, all with an EAP message. -/
abbrev EapCall := Signal Octets Octets

def derSetAvps : List Avp :=
  [.nasPort, .nasPortId, .originStateId, .nasIdentifier, .nasIpAddress, .nasIpv6Address, .serviceType, .idleTimeout,
    .authorizationLifetime, .authGracePeriod, .authSessionState, .sessionTimeout, .cls, .portLimit, .callbackNumber,
    .calledStationId, .callingStationId, .originatingLineInfo, .connectInfo, .framedCompression, .framedInterfaceId,
    .framedIpAddress, .framedIpv6Prefix, .framedIpNetmask, .framedMtu, .framedProtocol, .tunneling]

/-- The AVPs that `DEA_Parser` reads and whose attributes it does not clear before. -/
def deaUncleared : List Avp :=
  [.originHost, .originRealm, .configurationToken, .acctInterimInterval, .reAuthRequestType, .filterId, .callbackId]

def deaAvps : List Avp :=
  [.originStateId, .portLimit, .eapMasterSessionKey, .accountingEapAuthMethod, .serviceType, .multiRoundTimeOut,
    .framedAppletalkLink, .framedAppletalkNetwork, .framedAppletalkZone, .framedIpv6Route, .framedIpv6Pool, .framedPool,
    .framedIpxNetwork, .framedRoute, .framedRouting, .idleTimeout, .authorizationLifetime, .authGracePeriod,
    .authSessionState, .sessionTimeout, .callbackNumber, .cls, .framedCompression, .framedInterfaceId, .framedIpAddress,
    .framedIpv6Prefix, .framedMtu, .framedProtocol, .nasFilterRule, .tunneling]

def replacedByDEA : List Avp :=
  [.cls, .serviceType, .portLimit, .framedCompression, .framedIpAddress, .framedIpv6Prefix, .framedIpNetmask, .framedMtu,
    .framedProtocol]

end Data

section Functions

def forwardResponse (eapMsg : Octets) (data : EapClientData) : Option EapClientData :=
  some { data with own := { data.own with eapPayload := .set eapMsg } }

/-- `DER_Parser::parseAppToRaw`. -/
def renderDER (data : EapClientData) : Request EapBody where
  authRequestType := data.requestType.carried
  avps := fun avp => if avp = .framedIpNetmask ∨ avp ∈ derAvps then (data.request avp).carried else none
  body :=
    { userName := data.own.userName.carried
      state := data.own.state.carried
      eapPayload := data.own.eapPayload.carried }

/-- `AcSendDER`. -/
def acSendDER (callbacks : EapClientCallbacks) (data : EapClientData) : EapClientData × Requesting (Request EapBody) :=
  let data := { data with destinationRealm := callbacks.setDestinationRealm data.destinationRealm }
  if !data.destinationRealm.isSet then (data, .disconnects)
  else
    let data := { data with requestType := callbacks.setAuthRequestType data.requestType }
    if !data.requestType.isSet then (data, .disconnects)
    else
      let data :=
        { data with
          request := fun avp => if avp ∈ derSetAvps then callbacks.set avp (data.request avp) else data.request avp
          own := { data.own with
            userName := callbacks.setUserName data.own.userName
            state := callbacks.setState data.own.state } }
      (data, .sends (renderDER data))

/-- `SendDER`: the 64 bits of `FramedInterfaceId` are written into an entry of 32. -/
def sendDER (commands : List String) (accepted : Bool) (der : Request EapBody) : Transmission (Request EapBody) :=
  transmit commands "DiameterEAPRequest" (der.avps .framedInterfaceId).isSome accepted der

/-- `DEA_Parser::parseRawToApp`; neither the request type nor a reply message is read. -/
def parseDEA (code : ResultCode) (dea : Dea) (data : EapClientData) : EapClientData :=
  { data with
    resultCode := some code
    answer := fun avp =>
      if avp ∈ deaUncleared then receiveUncleared (data.answer avp) (dea.avps avp)
      else receiveValue (data.answer avp) (if avp ∈ deaAvps then dea.avps avp else none)
    own := { data.own with
      answerUserName := data.own.answerUserName.receive dea.userName
      answerState := data.own.answerState.receive dea.state
      answerPayload := data.own.answerPayload.receive dea.eapPayload
      reissuedPayload := data.own.reissuedPayload.receive dea.reissuedPayload } }

/-- `AcCheckDEA_ResultCode`. -/
def checkDEA (data : EapClientData) : ClientEvent :=
  match data.resultCode with
  | some .success => if data.requestType.value = authorizeAuthenticate then .success else .limitedSuccess
  | some .multiRoundAuth => .continue
  | some .authenticationRejected | some .authorizationRejected | some .invalidAvpValue | none => .failure

/-- `AcAccessAccept`. -/
def acceptDEA (data : EapClientData) : EapClientData × EapCall :=
  ({ data with
      request := fun avp =>
        if avp = .tunneling then data.answer .tunneling
        else if avp ∈ replacedByDEA ∧ (data.answer avp).isSet then data.answer avp
        else data.request avp
      own := { data.own with
        state := if data.own.answerState.isSet then .set data.own.answerState.value else data.own.state } },
    .success data.own.answerPayload.value)

/-- `DiameterEapClientStateMachine`. -/
abbrev eapClient : ClientApplication eapServer where
  Data := EapClientData
  Callbacks := EapClientCallbacks
  Info := Octets
  Call := EapCall
  secondLeg := true
  forward := forwardResponse
  request := acSendDER
  sendRequest := sendDER
  sendAnswer := sendDEA
  receive := parseDEA
  resultCode := fun data => data.resultCode
  check := checkDEA
  continuing := fun data => (data, some (.continue data.own.answerPayload.value))
  accept := acceptDEA
  reject := fun data => .failure (data.own.answerPayload.carried.getD [])

end Functions

end OpenDiameter.Access
