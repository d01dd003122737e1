import OpenDiameter.Pana.Machine

/-! The session of a PANA client (PaC). -/

set_option autoImplicit false

namespace OpenDiameter.Pana

open Foundation OpenDiameter.Framework

/-- `PANA_PacEventVariable`, the bits that are used. -/
structure PacEvent where
  msgType : Option MsgEvent := none
  app : Option AppEvent := none
  eap : Option EapEvent := none
  eapPiggyback : Bool := false
  retryTimeout : Bool := false
  reTransmission : Bool := false
  fatalError : Bool := false
  sessTimeout : Bool := false
  resultCode : Option ResultCode := none
  keyId : Bool := false
  eapPayload : Bool := false
  algorithmNotSupported : Bool := false
  deriving DecidableEq, Repr

inductive PacAction where
  | null | offlineExitActionRxPSR | offlineExitActionAuthUser | waitEapMsgInExitActionTxPSA
  | waitPaaExitActionRxPAR | waitPaaExitActionRxPAN | waitPaaExitActionRxPBR | waitEapMsgExitActionTxPAN
  | waitEapMsgExitActionTxPAR | waitEapMsgExitActionTxPANTout | waitEapResultExitActionEapOpen
  | waitEapSuccessExitActionClose | waitEapFailExitActionClose | openExitActionRxPPR | openExitActionTxPPR
  | openExitActionRxPAR | openExitActionRxPTR | openExitActionTxPTR | openExitActionTxPUR
  | openExitActionRxPUR | openExitActionTxPRR | waitPRAAExitActionRxPRA | waitPPAExitActionRxPPA
  | waitPUAExitActionRxPUA | sessTermExitActionRxPTA | exitActionTimeout | exitActionRetransmission
  | exitActionTxPEA | exitActionTxPER | waitPEAExitActionRxPEA
  deriving DecidableEq, Repr

section Table

abbrev PacRow := StateTableEntry State PacEvent PacAction

def pacEntry (prev : State) (ev : PacEvent) (next : State) (ac : PacAction := .null) : PacRow :=
  ⟨prev, some ev, next, ac⟩

def pacWildcardEntry (state : State) : PacRow := ⟨state, none, state, .null⟩

def pacErrorRows (state : State) : List PacRow :=
  [ pacEntry state { msgType := some .per, fatalError := true } .closed .exitActionTxPEA,
    pacEntry state { msgType := some .per } state .exitActionTxPEA ]

def pacOfflineRows : List PacRow :=
  [ pacEntry .offline { app := some .authUser } .offline .offlineExitActionAuthUser,
    pacEntry .offline { msgType := some .psr } .waitPaa .offlineExitActionRxPSR,
    pacEntry .offline { msgType := some .psr, eapPayload := true } .offline .offlineExitActionRxPSR,
    pacEntry .offline { eap := some .response } .waitPaa .waitEapMsgInExitActionTxPSA,
    pacEntry .offline { eap := some .response, eapPiggyback := true } .waitPaa .waitEapMsgInExitActionTxPSA,
    pacEntry .offline { eap := some .invalidMsg } .offline,
    pacEntry .offline { eap := some .respTimeout } .offline .exitActionTimeout,
    pacEntry .offline { eap := some .respTimeout, eapPiggyback := true } .offline .exitActionTimeout,
    pacEntry .offline { reTransmission := true } .offline .exitActionRetransmission,
    pacEntry .offline { retryTimeout := true } .closed .exitActionTimeout ] ++
  pacErrorRows .offline ++ [pacWildcardEntry .offline]

def pacWaitPaaRows : List PacRow :=
  [ pacEntry .waitPaa { msgType := some .par } .waitEapMsg .waitPaaExitActionRxPAR,
    pacEntry .waitPaa { msgType := some .par, eapPiggyback := true } .waitEapMsg .waitPaaExitActionRxPAR,
    pacEntry .waitPaa { msgType := some .pan } .waitPaa .waitPaaExitActionRxPAN,
    pacEntry .waitPaa { msgType := some .pbr, eapPayload := true, resultCode := some .success }
      .waitEapResult .waitPaaExitActionRxPBR,
    pacEntry .waitPaa
      { msgType := some .pbr, eapPayload := true, algorithmNotSupported := true, resultCode := some .success }
      .waitEapResultClose .waitPaaExitActionRxPBR,
    pacEntry .waitPaa { msgType := some .pbr, resultCode := some .fail, eapPayload := true }
      .waitEapResultClose .waitPaaExitActionRxPBR,
    pacEntry .waitPaa { msgType := some .pbr, resultCode := some .fail }
      .waitEapResultClose .waitPaaExitActionRxPBR,
    pacEntry .waitPaa { reTransmission := true } .waitPaa .exitActionRetransmission,
    pacEntry .waitPaa { retryTimeout := true } .closed .exitActionTimeout ] ++
  pacErrorRows .waitPaa ++ [pacWildcardEntry .waitPaa]

def pacWaitEapMsgRows : List PacRow :=
  [ pacEntry .waitEapMsg { eap := some .response, eapPiggyback := true } .waitPaa .waitEapMsgExitActionTxPAN,
    pacEntry .waitEapMsg { eap := some .response } .waitPaa .waitEapMsgExitActionTxPAR,
    pacEntry .waitEapMsg { eap := some .respTimeout, eapPiggyback := true } .waitPaa
      .waitEapMsgExitActionTxPANTout,
    pacEntry .waitEapMsg { eap := some .respTimeout } .waitEapMsg,
    pacEntry .waitEapMsg { eap := some .invalidMsg } .waitPea .exitActionTxPER,
    pacEntry .waitEapMsg { eap := some .success } .waitPea .exitActionTxPER,
    pacEntry .waitEapMsg { eap := some .failure } .waitPea .exitActionTxPER ] ++
  pacErrorRows .waitEapMsg ++ [pacWildcardEntry .waitEapMsg]

def pacWaitEapResultRows : List PacRow :=
  [ pacEntry .waitEapResult { eap := some .success, keyId := true } .opened .waitEapResultExitActionEapOpen,
    pacEntry .waitEapResult { eap := some .success } .opened .waitEapResultExitActionEapOpen,
    pacEntry .waitEapResult { eap := some .failure } .closed .waitEapFailExitActionClose,
    pacEntry .waitEapResult { eap := some .invalidMsg } .waitPaa,
    pacWildcardEntry .waitEapResult ]

def pacWaitEapResultCloseRows : List PacRow :=
  [ pacEntry .waitEapResultClose { eap := some .success, keyId := true } .closed .waitEapSuccessExitActionClose,
    pacEntry .waitEapResultClose { eap := some .success } .closed .waitEapSuccessExitActionClose,
    pacEntry .waitEapResultClose { eap := some .failure } .closed .waitEapFailExitActionClose,
    pacEntry .waitEapResultClose { eap := some .invalidMsg } .waitPaa,
    pacWildcardEntry .waitEapResultClose ]

def pacOpenRows : List PacRow :=
  [ pacEntry .opened { msgType := some .ppr } .opened .openExitActionRxPPR,
    pacEntry .opened { app := some .ping } .waitPpa .openExitActionTxPPR,
    pacEntry .opened { app := some .reauth } .waitPra .openExitActionTxPRR,
    pacEntry .opened { msgType := some .par } .waitEapMsg .openExitActionRxPAR,
    pacEntry .opened { msgType := some .par, eapPiggyback := true } .waitEapMsg .openExitActionRxPAR,
    pacEntry .opened { msgType := some .ptr } .closed .openExitActionRxPTR,
    pacEntry .opened { app := some .terminate } .sessTerm .openExitActionTxPTR,
    pacEntry .opened { app := some .update } .waitPua .openExitActionTxPUR,
    pacEntry .opened { msgType := some .pur } .opened .openExitActionRxPUR,
    pacEntry .opened { sessTimeout := true } .closed .exitActionTimeout ] ++
  pacErrorRows .opened ++ [pacWildcardEntry .opened]

def pacWaitRows (state : State) (msgType : MsgEvent) (next : State) (ac : PacAction)
    (gaveUp : PacAction := .exitActionTimeout) : List PacRow :=
  [ pacEntry state { msgType := some msgType } next ac,
    pacEntry state { sessTimeout := true } .closed .exitActionTimeout,
    pacEntry state { retryTimeout := true } .closed gaveUp,
    pacEntry state { reTransmission := true } state .exitActionRetransmission ]

/-- The retransmission that gave up is tried again here, and not ended. -/
def pacWaitPraRows : List PacRow :=
  pacWaitRows .waitPra .pra .waitPaa .waitPRAAExitActionRxPRA .exitActionRetransmission ++
  pacErrorRows .waitPra ++ [pacWildcardEntry .waitPra]

def pacWaitPpaRows : List PacRow :=
  pacWaitRows .waitPpa .ppa .opened .waitPPAExitActionRxPPA ++ pacErrorRows .waitPpa ++ [pacWildcardEntry .waitPpa]

def pacWaitPuaRows : List PacRow :=
  pacWaitRows .waitPua .pua .opened .waitPUAExitActionRxPUA ++ pacErrorRows .waitPua ++ [pacWildcardEntry .waitPua]

def pacSessTermRows : List PacRow :=
  pacWaitRows .sessTerm .pta .closed .sessTermExitActionRxPTA ++ pacErrorRows .sessTerm ++
  [pacWildcardEntry .sessTerm]

def pacWaitPeaRows : List PacRow :=
  pacWaitRows .waitPea .pea .closed .waitPEAExitActionRxPEA ++ [pacWildcardEntry .waitPea]

/-- `PANA_ClientStateTable`. -/
def clientStateTable : StateTable State PacEvent PacAction :=
  pacOfflineRows ++ pacWaitPaaRows ++ pacWaitEapMsgRows ++ pacWaitEapResultRows ++ pacWaitEapResultCloseRows ++
  pacOpenRows ++ pacWaitPraRows ++ pacWaitPpaRows ++ pacWaitPuaRows ++ pacSessTermRows ++ pacWaitPeaRows ++
  [pacWildcardEntry .closed]

theorem clientStateTable_constructs : StateTable.construct clientStateTable = some clientStateTable := by
  decide +kernel

end Table

namespace Client

open Session

variable (crypto : Crypto) (config : Config) (draws : Draws) (s : Session)

section Functions

def notifyEapRestart : Session :=
  let told := s.cancelSession.tell .eapStart
  { told with sa := told.sa.reset draws.mskId }

def notifyAuthorization : Session :=
  { s.tell (.authorize
      { pacAddress := s.pacAddress
        paaAddress := s.paaAddress
        key := if s.sa.msk.isSet then some s.sa.msk.value else none
        lifetime := s.sessionLifetime }) with authorized := true }

def notifyEapRequest (payload : Octets) : Session := s.tell (.eapRequest payload)

def txPSA (eapOptimization : Bool) : SessionM := do
  let s ← get
  let answer := s.answerHeader mtypePSR
  if eapOptimization then
    let block ← dequeueEap
    modify fun s => s.sendAnsMsg { answer with avpList := { eapPayload := some block } }
  else modify fun s => s.sendAnsMsg answer

def rxPSR : SessionM := do
  let msg ← dequeueRx
  modify fun s => notifyEapRestart draws s.cancelTxRetry
  match msg.avpList.eapPayload with
  | some payload => modify fun s => (notifyEapRequest s payload).scheduleEapResponse
  | none => txPSA false

def txPCI : Session := { s with sessionId := 0 }.sendReqMsg { type := mtypePCI, seq := 0 }

def txPAN (eapPiggyBack : Bool) : SessionM := do
  let s ← get
  let answer := s.answerHeader mtypePAR
  let nonce := if s.sa.pacNonce.isSet then none else some draws.nonce
  if !s.sa.pacNonce.isSet then
    modify fun s => { s with sa := { s.sa with pacNonce := .set draws.nonce } }
  if eapPiggyBack then
    modify cancelEapResponse
    let block ← dequeueEap
    modify fun s => s.sendAnsMsg
      (s.protect crypto { answer with avpList := { nonce := nonce, eapPayload := some block } })
  else modify fun s => s.sendAnsMsg (s.protect crypto { answer with avpList := { nonce := nonce } })

def rxPAR : SessionM := do
  let msg ← dequeueRx
  modify cancelTxRetry
  modify fun s =>
    match msg.avpList.nonce with
    | some nonce => if s.sa.paaNonce.isSet then s else { s with sa := { s.sa with paaNonce := .set nonce } }
    | none => s
  if !config.eapPiggyback then txPAN crypto draws false
  match msg.avpList.eapPayload with
  | some payload => modify fun s => (notifyEapRequest s payload).scheduleEapResponse
  | none => Imperative.raise ⟨.failed, "No EAP-Payload AVP in PAR message"⟩

def rxPAN : SessionM := do
  let _ ← dequeueRx
  modify fun s => s.cancelTxRetry.cancelSession

def txPAR : SessionM := do
  modify fun s => { s with lastTxSeqNum := s.lastTxSeqNum.increment }.cancelEapResponse
  let block ← dequeueEap
  modify fun s => s.sendReqMsg (s.protect crypto
    { type := mtypePAR
      request := true
      sessionId := s.sessionId
      seq := s.lastTxSeqNum
      avpList := { eapPayload := some block } })

def rxPBR : SessionM := do
  let msg ← dequeueRx
  match msg.avpList.resultCode with
  | none => Imperative.raise ⟨.failed, "No Result-Code AVP in PBR message"⟩
  | some rcode =>
    modify fun s => { s with sessionLifetime := msg.avpList.sessionLifetime.getD s.sessionLifetime }
    modify fun s => { s with sa := { s.sa with mskId := msg.avpList.keyId.getD s.sa.mskId } }
    match msg.avpList.eapPayload with
    | some payload => modify fun s => notifyEapRequest s payload
    | none =>
      if rcode ≠ rcodeSuccess then modify fun s => (s.tell .eapAltReject).error config draws rcode
      else Imperative.raise ⟨.failed, "No EAP-Payload on PANA_SUCCESS result code"⟩

def txPBA (authSuccess : Bool) : Session :=
  let answer := s.answerHeader mtypePBR
  let s :=
    match draws.key with
    | some newKey =>
      if authSuccess then
        { s with sa := { s.sa with msk := .set newKey }.generateAuthKey crypto s.sessionId }
      else s
    | none => s
  s.sendAnsMsg
    (if s.sa.msk.isSet then
      s.sa.addAuthAvp crypto (if s.sa.mskId ≠ 0 then s.sa.addKeyIdAvp answer else answer)
    else answer)

def txPRR : Session := s.txRequest crypto mtypePRR

def rxPRA : SessionM := do
  let _ ← dequeueRx
  modify fun s => notifyEapRestart draws s.cancelTxRetry

end Functions

section Actions

def perform : PacAction → Imperative Session Exception (Option PacEvent)
  | .null => pure none
  | .offlineExitActionRxPSR => do rxPSR draws; return none
  | .offlineExitActionAuthUser => do modify txPCI; return none
  | .waitEapMsgInExitActionTxPSA => do txPSA true; return none
  | .waitPaaExitActionRxPAR => do rxPAR crypto config draws; return none
  | .waitPaaExitActionRxPAN => do rxPAN; return none
  | .waitPaaExitActionRxPBR => do rxPBR config draws; return none
  | .waitEapMsgExitActionTxPAN => do txPAN crypto draws true; return none
  | .waitEapMsgExitActionTxPAR => do txPAR crypto; return none
  | .waitEapMsgExitActionTxPANTout => do
    if config.eapPiggyback then txPAN crypto draws false
    modify cancelEapResponse
    return none
  | .waitEapResultExitActionEapOpen => do
    modify fun s => (notifyAuthorization (txPBA crypto draws s true)).notifyScheduleLifetime
    return none
  | .waitEapSuccessExitActionClose => do
    modify fun s => (txPBA crypto draws s true).disconnect config draws
    return none
  | .waitEapFailExitActionClose => do
    modify fun s => (txPBA crypto draws s false).disconnect config draws
    return none
  | .openExitActionRxPPR => do Session.rxPPR crypto; return none
  | .openExitActionTxPPR => do modify (Session.txPPR crypto); return none
  | .openExitActionRxPAR => do
    modify (notifyEapRestart draws)
    rxPAR crypto config draws
    return none
  | .openExitActionRxPTR => do Session.rxPTR crypto config draws; return none
  | .openExitActionTxPTR => do modify fun s => s.txPTR crypto termCauseLogout; return none
  | .openExitActionTxPUR => do modify (Session.txPUR crypto); return none
  | .openExitActionRxPUR => do Session.rxPUR crypto; return none
  | .openExitActionTxPRR => do modify (txPRR crypto); return none
  | .waitPRAAExitActionRxPRA => do rxPRA draws; return none
  | .waitPPAExitActionRxPPA => do Session.rxPPA; return none
  | .waitPUAExitActionRxPUA => do Session.rxPUA; return none
  | .sessTermExitActionRxPTA => do Session.rxPTA config draws; return none
  | .exitActionTimeout => do modify fun s => s.disconnect config draws termCauseSessionTimeout; return none
  | .exitActionRetransmission => do
    let sent ← Session.txLastReqMsg draws
    return if sent then none else some { retryTimeout := true }
  | .exitActionTxPEA => do modify Session.txPEA; return none
  | .exitActionTxPER => do modify fun s => s.txPER crypto errorUnableToComply; return none
  | .waitPEAExitActionRxPEA => do Session.rxPEA config draws; return none

end Actions

section Filters

/-- `PANA_CsmRxPSR`: the session id is consumed before the message is validated, and the
algorithm is verified after it is saved. -/
def csmRxPSR : RxFilter PacEvent where
  validStates := [.offline]
  first msg := do
    demand true "PSA recevied, invalid message" msg
    modify fun s => { s with sessionId := msg.sessionId }
  resolve _ msg := do
    modify fun s => (s.saveAddress msg).saveHeader msg
    if msg.avpList.algorithm.any (· ≠ authAlgorithm) then
      Imperative.raise ⟨.failed, "PSA recevied, unsupported algorithm"⟩
    modify fun s => s.enqueueRx msg
    return { msgType := some .psr, eapPayload := msg.avpList.eapPayload.isSome }

/-- `PANA_CsmRxPA`. -/
def csmRxPA : RxFilter PacEvent where
  validStates := [.waitPaa, .opened]
  resolve _ := queued fun msg =>
    if msg.request then { msgType := some .par, eapPiggyback := config.eapPiggyback } else { msgType := some .pan }

def csmRxPBR : RxFilter PacEvent where
  validStates := [.waitPaa]
  first := demand true "PBA received, invalid message"
  skipAuth := true
  resolve _ := queued fun msg =>
    let succeeded := msg.avpList.resultCode == some rcodeSuccess
    { msgType := some .pbr
      eapPayload := msg.avpList.eapPayload.isSome
      algorithmNotSupported := succeeded && msg.avpList.algorithm.any (· ≠ authAlgorithm)
      resultCode := some (if succeeded then .success else .fail) }

/-- `PANA_CsmRxPP`. -/
def csmRxPP : RxFilter PacEvent where
  validStates := [.waitPpa, .opened]
  resolve _ := queued fun msg => { msgType := some (if msg.request then .ppr else .ppa) }

/-- `PANA_CsmRxPU`. -/
def csmRxPU : RxFilter PacEvent where
  validStates := [.opened, .waitPua]
  resolve _ := queued fun msg => { msgType := some (if msg.request then .pur else .pua) }

/-- `PANA_CsmRxPT`. -/
def csmRxPT : RxFilter PacEvent where
  validStates := [.opened, .sessTerm]
  resolve _ := queued fun msg => { msgType := some (if msg.request then .ptr else .pta) }

/-- `PANA_CsmRxPRA`. -/
def csmRxPRA : RxFilter PacEvent where
  validStates := [.waitPra]
  first := demand false "PRR received, invalid message"
  resolve _ := queued fun _ => { msgType := some .pra }

/-- `PANA_CsmRxPE`: a request is told to the session at once; an answer is not queued. -/
def csmRxPE : RxFilter PacEvent where
  validStates := [.waitPaa, .opened, .waitEapMsg, .waitPra, .waitPpa, .sessTerm, .waitPua]
  resolve draws msg := do
    modify fun s => s.saveAddress msg
    if msg.request then
      let s ← get
      let fatal := s.isFatalError && msg.avpList.auth.isSome && s.sa.authKey.isSet
      modify fun s => s.enqueueRx msg
      rxPER config draws
      return { msgType := some .per, fatalError := fatal }
    else return { msgType := some .pea }

/-- `PANA_PacSession::InitializeMsgMaps`. -/
def msgHandlers (type : MType) : Option (RxFilter PacEvent) :=
  if type = mtypePSR then some csmRxPSR
  else if type = mtypePAR then some (csmRxPA config)
  else if type = mtypePBR then some csmRxPBR
  else if type = mtypePPR then some csmRxPP
  else if type = mtypePRR then some csmRxPRA
  else if type = mtypePUR then some csmRxPU
  else if type = mtypePTR then some csmRxPT
  else if type = mtypePER then some (csmRxPE config)
  else none

theorem msgHandlers_cases {config : Config} {motive : MType → RxFilter PacEvent → Prop} {type : MType}
    {filter : RxFilter PacEvent} (handles : msgHandlers config type = some filter) (psr : motive mtypePSR csmRxPSR)
    (pa : motive mtypePAR (csmRxPA config)) (pbr : motive mtypePBR csmRxPBR) (pp : motive mtypePPR csmRxPP)
    (pra : motive mtypePRR csmRxPRA) (pu : motive mtypePUR csmRxPU) (pt : motive mtypePTR csmRxPT)
    (pe : motive mtypePER (csmRxPE config)) : motive type filter := by
  rcases handler_cases handles with ⟨rfl, rfl⟩ | handles
  · exact psr
  rcases handler_cases handles with ⟨rfl, rfl⟩ | handles
  · exact pa
  rcases handler_cases handles with ⟨rfl, rfl⟩ | handles
  · exact pbr
  rcases handler_cases handles with ⟨rfl, rfl⟩ | handles
  · exact pp
  rcases handler_cases handles with ⟨rfl, rfl⟩ | handles
  · exact pra
  rcases handler_cases handles with ⟨rfl, rfl⟩ | handles
  · exact pu
  rcases handler_cases handles with ⟨rfl, rfl⟩ | handles
  · exact pt
  rcases handler_cases handles with ⟨rfl, rfl⟩ | handles
  · exact pe
  cases handles

end Filters

inductive Call where
  | start | eapSendResponse (response : Octets) | eapInvalidMessage | eapSuccess | eapTimeout | eapFailure
  | reAuthenticate | update (addr : InetAddr) | ping | stop
  deriving DecidableEq, Repr

def call (c : Call) (s : Session) : Session × PacEvent :=
  match c with
  | .start => (s, { app := some .authUser })
  | .eapSendResponse response =>
    ({ s with txEapMessageQueue := s.txEapMessageQueue ++ [response] },
      { eap := some .response, eapPiggyback := config.eapPiggyback })
  | .eapInvalidMessage => (s, { eap := some .invalidMsg })
  | .eapSuccess => (s, { eap := some .success, keyId := s.sa.mskId > 0 })
  | .eapTimeout => (s, { eap := some .timeout })
  | .eapFailure => (s, { eap := some .failure })
  | .reAuthenticate => (s, { app := some .reauth })
  | .update addr => ({ s with pacAddress := addr }, { app := some .update })
  | .ping => (s, { app := some .ping })
  | .stop => (s, { app := some .terminate })

def timeout : TimerId → PacEvent
  | .retry => { reTransmission := true }
  | .session => { sessTimeout := true }
  | .eapResp => { eapPiggyback := config.eapPiggyback, eap := some .respTimeout }

/-- `PANA_PacSession`. -/
def program : Program PacEvent PacAction Call where
  crypto := crypto
  table := clientStateTable
  msgHandlers := msgHandlers config
  perform := perform crypto config
  call := call config
  timeout := timeout config
  stop := { app := some .terminate }

end Client

end OpenDiameter.Pana
