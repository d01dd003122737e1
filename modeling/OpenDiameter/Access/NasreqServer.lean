import OpenDiameter.Access.Server

/-! The server of the NASREQ application. -/

set_option autoImplicit false

namespace OpenDiameter.Access

section Data

structure ArapInfo where
  userName : Octets
  arapPassword : Octets
  arapChallengeResponse : Octets
  arapSecurity : UInt32
  arapSecurityData : List Octets
  passwordRetry : UInt32
  isFirst : Bool
  deriving DecidableEq, Repr

/-- `DiameterNasreqAuthenticationInfo` and the classes that derive from it. -/
inductive AuthenticationInfo where
  | none
  | pap (userName userPassword : Octets)
  | chap (userName chapAuth chapChallenge : Octets)
  | arap (info : ArapInfo)
  deriving DecidableEq, Repr

/-- The AVPs of an AA-Request besides those that are authorized. -/
structure NasreqBody where
  userName : Option Octets := none
  userPassword : Option Octets := none
  chapAuth : Option Octets := none
  chapChallenge : Option Octets := none
  arapPassword : Option Octets := none
  arapChallengeResponse : Option Octets := none
  arapSecurity : Option UInt32 := none
  arapSecurityData : Option (List Octets) := none
  state : Option Octets := none
  deriving DecidableEq, Repr

/-- The attributes of `AA_RequestData` and `AA_AnswerData` that only this application has,
and `authenticationInfo`. -/
structure NasreqOwn where
  userName : Attribute Octets
  userPassword : Attribute Octets
  chapAuth : Attribute Octets
  chapChallenge : Attribute Octets
  arapPassword : Attribute Octets
  arapChallengeResponse : Attribute Octets
  arapSecurity : Attribute UInt32
  arapSecurityData : Attribute (List Octets)
  state : Attribute Octets
  answerState : Attribute Octets
  replyMessage : Attribute (List Octets)
  answerChallengeResponse : Attribute Octets
  answerSecurity : Attribute UInt32
  answerSecurityData : Attribute (List Octets)
  /-- Which `AA_AnswerParser` does not send. -/
  passwordRetry : Attribute UInt32
  info : Option AuthenticationInfo

/-- What `ValidateAuthRequestType`, `ValidateState`, `SetState` and `SetReplyMessage` do,
and what `ARAP-Security` of a new `ARAP_Info` is, which is not initialised. -/
structure NasreqCallbacks where
  validAuthRequestType : UInt32 → Bool
  validState : Octets → Octets → Bool
  setState : Attribute Octets → Attribute Octets
  setReplyMessage : Attribute (List Octets) → ResultCode → Attribute (List Octets)
  arapSecurity : UInt32

structure AaAnswer where
  authRequestType : Option UInt32
  state : Option Octets
  replyMessage : Option (List Octets)
  arapChallengeResponse : Option Octets
  arapSecurity : Option UInt32
  arapSecurityData : Option (List Octets)
  avps : Avp → Option Value

/-- The AVPs that `AA_RequestParser` reads into the attributes of the same names. -/
def aaRequestAvps : List Avp :=
  [.originHost, .originRealm, .nasIdentifier, .nasIpAddress, .nasIpv6Address, .nasPort, .nasPortId, .nasPortType,
    .originStateId, .portLimit, .serviceType, .authorizationLifetime, .authGracePeriod, .authSessionState,
    .callbackNumber, .calledStationId, .callingStationId, .originatingLineInfo, .connectInfo, .framedCompression,
    .framedInterfaceId, .framedIpAddress, .framedIpv6Prefix, .framedMtu, .framedProtocol, .loginIpHost, .loginIpv6Host,
    .loginLatGroup, .loginLatNode, .loginLatPort, .loginLatService, .tunneling]

end Data

section Functions

abbrev NasreqData := ServerData NasreqOwn

/-- What `AA_RequestParser` reads for an attribute: `Framed-IP-Netmask` goes to `FramedIpAddress`. -/
def aaRequestAvp (avps : Avp → Option Value) (avp : Avp) : Option Value :=
  if avp = .framedIpAddress then (avps .framedIpNetmask).orElse fun _ => avps .framedIpAddress
  else if avp ∈ aaRequestAvps then avps avp
  else none

/-- `AA_RequestParser::parseRawToApp`. -/
def parseAaRequest (data : NasreqData) (message : Request NasreqBody) : NasreqData :=
  { data with
    requestType := data.requestType.receive message.authRequestType
    request := fun avp => receiveValue (data.request avp) (aaRequestAvp message.avps avp)
    own := { data.own with
      userName := data.own.userName.receive message.body.userName
      userPassword := data.own.userPassword.receive message.body.userPassword
      chapAuth := data.own.chapAuth.receive message.body.chapAuth
      chapChallenge := data.own.chapChallenge.receive message.body.chapChallenge
      arapPassword := data.own.arapPassword.receive message.body.arapPassword
      arapChallengeResponse := data.own.arapChallengeResponse.receive message.body.arapChallengeResponse
      arapSecurity := data.own.arapSecurity.receive message.body.arapSecurity
      arapSecurityData := data.own.arapSecurityData.receiveVector message.body.arapSecurityData
      state := data.own.state.receive message.body.state } }

def refuseAaRequest (data : NasreqData) : NasreqData :=
  { data with
    requestType := data.requestType.clear
    request := fun avp => clearValue (data.request avp)
    own := { data.own with
      userName := data.own.userName.clear
      userPassword := data.own.userPassword.clear
      chapAuth := data.own.chapAuth.clear
      chapChallenge := data.own.chapChallenge.clear
      arapPassword := data.own.arapPassword.clear
      arapChallengeResponse := data.own.arapChallengeResponse.clear
      arapSecurity := data.own.arapSecurity.clear
      arapSecurityData := data.own.arapSecurityData.clearVector
      state := data.own.state.clear } }

def selectInfo (callbacks : NasreqCallbacks) (own : NasreqOwn) : Option AuthenticationInfo :=
  if !own.userName.isSet then none
  else if own.chapAuth.isSet then
    if !own.chapChallenge.isSet then none
    else some (.chap own.userName.value own.chapAuth.value own.chapChallenge.value)
  else if own.userPassword.isSet then some (.pap own.userName.value own.userPassword.value)
  else if own.arapPassword.isSet then
    if !own.arapChallengeResponse.isSet then none
    else some (.arap
      { userName := own.userName.value
        arapPassword := own.arapPassword.value
        arapChallengeResponse := own.arapChallengeResponse.value
        arapSecurity := callbacks.arapSecurity
        arapSecurityData := []
        passwordRetry := 0
        isFirst := true })
  else none

def checkAaState (callbacks : NasreqCallbacks) (own : NasreqOwn) : Bool × NasreqOwn :=
  if own.answerState.isSet then
    if !own.state.isSet || !callbacks.validState own.state.value own.answerState.value then (false, own)
    else (true, { own with answerState := callbacks.setState own.answerState })
  else (true, own)

/-- The test of `arap_multi_round_check`. -/
def arapMultiRound (data : NasreqData) : Bool :=
  (data.request .framedProtocol).carried = some (.number 3) ∧
    data.own.arapSecurity.isSet ∧ data.own.arapSecurityData.isSet

def checkAaRequest (turn : Turn NasreqCallbacks) (data : NasreqData) : Checked NasreqOwn :=
  if !turn.own.validAuthRequestType data.requestType.value then { data, verdict := some false }
  else
    let data := { data with answerType := .set data.requestType.value }
    if data.requestType.value = authorizeOnly then { data, verdict := some true }
    else
      match data.own.info with
      | none =>
        match selectInfo turn.own data.own with
        | some info => { data := { data with own := { data.own with info := some info } }, verdict := some true }
        | none => { data, verdict := some false }
      | some (.arap _) =>
        -- The pointer itself is cast to an `ARAP_Info`.
        if arapMultiRound data then { data, verdict := none }
        else
          let checked := checkAaState turn.own data.own
          { data := { data with own := checked.2 }, verdict := some checked.1 }
      | some .none | some (.pap ..) | some (.chap ..) => { data, verdict := some false }

theorem checkAaRequest_cases (turn : Turn NasreqCallbacks) (data : NasreqData) :
    (checkAaRequest turn data = { data, verdict := some false }) ∨
      (checkAaRequest turn data).data.answerType = .set data.requestType.value ∧
      (checkAaRequest turn data).data.requestType = data.requestType ∧
      (checkAaRequest turn data).data.authorizationDone = data.authorizationDone ∧
      (checkAaRequest turn data).calls = [] := by
  unfold checkAaRequest
  dsimp only
  split
  · exact Or.inl rfl
  · apply Or.inr
    split
    · exact ⟨rfl, rfl, rfl, rfl⟩
    · split
      · split <;> exact ⟨rfl, rfl, rfl, rfl⟩
      · split <;> exact ⟨rfl, rfl, rfl, rfl⟩
      all_goals exact ⟨rfl, rfl, rfl, rfl⟩

def nasreqSignalled (signal : Signal AuthenticationInfo Unit) (data : NasreqData) : NasreqData :=
  match signal with
  | .continue .none | .success () | .failure () => data
  | .continue info => { data with own := { data.own with info := some info } }

/-- `AA_AnswerParser::parseAppToRaw`. -/
def renderAaAnswer (data : NasreqData) : AaAnswer where
  authRequestType := data.answerType.carried
  state := data.own.answerState.carried
  replyMessage := data.own.replyMessage.carried
  arapChallengeResponse := data.own.answerChallengeResponse.carried
  arapSecurity := data.own.answerSecurity.carried
  arapSecurityData := data.own.answerSecurityData.carried
  avps := fun avp => (data.granted avp).carried

def setPasswordRetry (info : ArapInfo) (own : NasreqOwn) : NasreqOwn :=
  if info.passwordRetry ≠ 0 then { own with passwordRetry := .set info.passwordRetry } else own

/-- The actions that end with `SendAA_Answer`. -/
def acSendAaAnswer (turn : Turn NasreqCallbacks) (code : ResultCode) (data : NasreqData) :
    NasreqData × Sending AaAnswer :=
  match code with
  | .multiRoundAuth =>
    let own := { data.own with replyMessage := turn.own.setReplyMessage data.own.replyMessage.clearVector code }
    match own.info with
    -- No information was given yet, and its pointer is followed.
    | none => ({ data with own }, .faults)
    | some (.arap info) =>
      let own := setPasswordRetry info
        { own with answerSecurity := .set info.arapSecurity, answerSecurityData := .set info.arapSecurityData }
      ({ data with own }, .sends (renderAaAnswer { data with own }))
    -- Only ARAP goes on after a first round.
    | some .none | some (.pap ..) | some (.chap ..) => ({ data with own }, .aborts)
  | .success =>
    match data.own.info with
    | none => (data, .faults)
    | some (.arap info) =>
      let data := { data with own := { data.own with answerChallengeResponse := .set info.arapChallengeResponse } }
      (data, .sends (renderAaAnswer data))
    | some .none | some (.pap ..) | some (.chap ..) => (data, .sends (renderAaAnswer data))
  | .authenticationRejected =>
    match data.own.info with
    | none => (data, .faults)
    | some (.arap info) =>
      let data := { data with own := setPasswordRetry info data.own }
      (data, .sends (renderAaAnswer data))
    | some .none | some (.pap ..) | some (.chap ..) => (data, .sends (renderAaAnswer data))
  | .authorizationRejected | .invalidAvpValue => (data, .sends (renderAaAnswer data))

theorem acSendAaAnswer_own (turn : Turn NasreqCallbacks) (code : ResultCode) (data : NasreqData) :
    ∃ own, (acSendAaAnswer turn code data).1 = { data with own } := by
  cases code with
  | multiRoundAuth | success | authenticationRejected =>
    simp only [acSendAaAnswer]
    split <;> exact ⟨_, rfl⟩
  | authorizationRejected | invalidAvpValue => exact ⟨data.own, rfl⟩

theorem acSendAaAnswer_keeps (turn : Turn NasreqCallbacks) (code : ResultCode) (data : NasreqData) :
    Keeps data (acSendAaAnswer turn code data).1 := by
  obtain ⟨own, same⟩ := acSendAaAnswer_own turn code data
  rw [same]
  exact ⟨rfl, rfl, rfl⟩

def sendAaAnswer (commands : List String) (accepted : Bool) (message : AaAnswer) : Transmission AaAnswer :=
  transmit commands "AA-Answer" false accepted message

/-- `DiameterNasreqServerStateMachine`. -/
abbrev nasreqServer : Application where
  Body := NasreqBody
  Own := NasreqOwn
  Callbacks := NasreqCallbacks
  Continuing := AuthenticationInfo
  Ending := Unit
  Info := AuthenticationInfo
  Answer := AaAnswer
  chain := nasreqChain
  parse := parseAaRequest
  refuse := refuseAaRequest
  check := checkAaRequest
  info := fun data => data.own.info
  signalled := nasreqSignalled
  send := acSendAaAnswer

theorem nasreqServer_lawful : nasreqServer.Lawful where
  settled := rfl
  parse_type := by
    intro data message value given
    change (data.requestType.receive message.authRequestType).value = value
    rw [given]
    rfl
  parse_done := fun _ _ => rfl
  refuse_done := fun _ => rfl
  signalled := by
    intro signal data
    cases signal with
    | «continue» info => cases info <;> exact ⟨rfl, rfl, rfl⟩
    | success | failure => exact ⟨rfl, rfl, rfl⟩
  send := by
    intro turn code data
    exact acSendAaAnswer_keeps turn code data
  check_type := by
    intro turn data valid
    rcases checkAaRequest_cases turn data with same | ⟨answerType, -, -, -⟩
    · rw [show nasreqServer.check turn data = _ from same] at valid
      cases valid
    · change (checkAaRequest turn data).data.answerType.value = data.requestType.value
      rw [answerType]
      rfl
  check_done := by
    intro turn data
    rcases checkAaRequest_cases turn data with same | ⟨-, -, done, -⟩
    · exact congrArg (fun checked => checked.data.authorizationDone) same
    · exact done
  check_calls := by
    intro turn data call mem
    rcases checkAaRequest_cases turn data with same | ⟨-, -, -, calls⟩
    · rw [show nasreqServer.check turn data = _ from same] at mem
      cases mem
    · rw [show (nasreqServer.check turn data).calls = [] from calls] at mem
      cases mem

end Functions

end OpenDiameter.Access
