import OpenDiameter.Pana.Machine

/-! The session of a PANA authentication agent (PAA). -/

set_option autoImplicit false

namespace OpenDiameter.Pana

open Foundation OpenDiameter.Framework

/-- `PANA_PaaEventVariable`, the bits that are used. -/
structure PaaEvent where
  msgType : Option MsgEvent := none
  eap : Option EapEvent := none
  app : Option AppEvent := none
  optimizedHandshake : Bool := false
  authorize : Bool := false
  retryTimeout : Bool := false
  reTransmission : Bool := false
  fatalError : Bool := false
  sessTimeout : Bool := false
  eapPayload : Bool := false
  deriving DecidableEq, Repr

/-- The action objects of `PANA_PaaStateTable` that the table names. -/
inductive PaaAction where
  | null | exitActionPaaEapRestart | exitActionTxPSR | exitActionRxPSA | exitActionEapTimeout | exitActionTxPAR
  | exitActionTxPBREapSuccess | exitActionTxPBREapSuccessFail | exitActionTxPBREapFail | exitActionTxPEA
  | waitPEAExitActionRxPEA | exitActionRxPBASuccess | exitActionRxPBAFail | openExitActionRxPPR
  | openExitActionRxPRR | openExitActionReAuth | openExitActionTxPPR | openExitActionTxPTR | openExitActionRxPTR
  | openExitActionTxPUR | waitPUAExitActionRxPUA | openExitActionRxPUR | waitPaaExitActionRxPPA
  | waitPANExitActionRxPAN | waitPANExitActionRxPAR | sessExitActionRxPTA | exitActionTimeout
  | exitActionRetransmission
  deriving DecidableEq, Repr

section Table

abbrev PaaRow := StateTableEntry State PaaEvent PaaAction

def paaEntry (prev : State) (ev : PaaEvent) (next : State) (ac : PaaAction := .null) : PaaRow :=
  ⟨prev, some ev, next, ac⟩

def paaWildcardEntry (state : State) : PaaRow := ⟨state, none, state, .null⟩

def paaErrorRows (state : State) : List PaaRow :=
  [ paaEntry state { msgType := some .per, fatalError := true } .closed .exitActionTxPEA,
    paaEntry state { msgType := some .per } state .exitActionTxPEA ]

/-- The rows of a request that is sent again until it is answered. -/
def paaRetryRows (state : State) : List PaaRow :=
  [ paaEntry state { retryTimeout := true } .closed .exitActionTimeout,
    paaEntry state { reTransmission := true } state .exitActionRetransmission ]

def paaOfflineRows : List PaaRow :=
  [ paaEntry .offline { app := some .pacFound, optimizedHandshake := true } .offline .exitActionPaaEapRestart,
    paaEntry .offline { eap := some .request } .offline .exitActionTxPSR,
    paaEntry .offline { eap := some .timeout } .offline .exitActionTimeout,
    paaEntry .offline { app := some .pacFound } .offline .exitActionTxPSR,
    paaEntry .offline { msgType := some .psa } .waitEapMsg .exitActionRxPSA ] ++
  paaRetryRows .offline ++ [paaWildcardEntry .offline]

def paaWaitEapMsgRows : List PaaRow :=
  [ paaEntry .waitEapMsg { eap := some .request } .waitPanOrPar .exitActionTxPAR,
    paaEntry .waitEapMsg { eap := some .failure } .waitFailPba .exitActionTxPBREapFail,
    paaEntry .waitEapMsg { eap := some .success, authorize := true } .waitSuccPba .exitActionTxPBREapSuccess,
    paaEntry .waitEapMsg { eap := some .success } .waitFailPba .exitActionTxPBREapSuccessFail,
    paaEntry .waitEapMsg { msgType := some .prr } .waitEapMsg .openExitActionRxPRR ] ++
  paaErrorRows .waitEapMsg ++ [paaWildcardEntry .waitEapMsg]

def paaWaitSuccPbaRows : List PaaRow :=
  [paaEntry .waitSuccPba { msgType := some .pba } .opened .exitActionRxPBASuccess] ++
  paaRetryRows .waitSuccPba ++ paaErrorRows .waitSuccPba ++ [paaWildcardEntry .waitSuccPba]

def paaWaitFailPbaRows : List PaaRow :=
  [paaEntry .waitFailPba { msgType := some .pba } .closed .exitActionRxPBAFail] ++
  paaRetryRows .waitFailPba ++ paaErrorRows .waitFailPba ++ [paaWildcardEntry .waitFailPba]

def paaOpenRows : List PaaRow :=
  [ paaEntry .opened { msgType := some .prr } .waitEapMsg .openExitActionRxPRR,
    paaEntry .opened { app := some .reauth } .waitEapMsg .openExitActionReAuth,
    paaEntry .opened { app := some .ping } .waitPpa .openExitActionTxPPR,
    paaEntry .opened { msgType := some .ppr } .opened .openExitActionRxPPR,
    paaEntry .opened { app := some .terminate } .sessTerm .openExitActionTxPTR,
    paaEntry .opened { msgType := some .ptr } .closed .openExitActionRxPTR,
    paaEntry .opened { app := some .update } .waitPua .openExitActionTxPUR,
    paaEntry .opened { msgType := some .pur } .opened .openExitActionRxPUR,
    paaEntry .opened { sessTimeout := true } .closed .exitActionTimeout,
    paaWildcardEntry .opened ]

def paaWaitRows (state : State) (msgType : MsgEvent) (next : State) (ac : PaaAction) : List PaaRow :=
  [ paaEntry state { msgType := some msgType } next ac,
    paaEntry state { sessTimeout := true } .closed .exitActionTimeout ] ++
  paaRetryRows state

def paaWaitPpaRows : List PaaRow :=
  paaWaitRows .waitPpa .ppa .opened .waitPaaExitActionRxPPA ++ paaErrorRows .waitPpa ++ [paaWildcardEntry .waitPpa]

def paaWaitPanOrParRows : List PaaRow :=
  [ paaEntry .waitPanOrPar { msgType := some .pan, eapPayload := true } .waitEapMsg .waitPANExitActionRxPAN,
    paaEntry .waitPanOrPar { msgType := some .pan } .waitPanOrPar .waitPANExitActionRxPAN,
    paaEntry .waitPanOrPar { msgType := some .par } .waitEapMsg .waitPANExitActionRxPAR,
    paaEntry .waitPanOrPar { eap := some .request } .waitPanOrPar .exitActionTxPAR,
    paaEntry .waitPanOrPar { eap := some .timeout } .waitPea .exitActionEapTimeout ] ++
  paaRetryRows .waitPanOrPar ++ paaErrorRows .waitPanOrPar ++ [paaWildcardEntry .waitPanOrPar]

def paaWaitPuaRows : List PaaRow :=
  paaWaitRows .waitPua .pua .opened .waitPUAExitActionRxPUA ++ paaErrorRows .waitPua ++ [paaWildcardEntry .waitPua]

def paaSessTermRows : List PaaRow :=
  paaWaitRows .sessTerm .pta .closed .sessExitActionRxPTA ++ paaErrorRows .sessTerm ++ [paaWildcardEntry .sessTerm]

def paaWaitPeaRows : List PaaRow :=
  paaWaitRows .waitPea .pea .closed .waitPEAExitActionRxPEA ++ [paaWildcardEntry .waitPea]

/-- `PANA_PaaStateTable`. -/
def paaStateTable : StateTable State PaaEvent PaaAction :=
  paaOfflineRows ++ paaWaitEapMsgRows ++ paaWaitSuccPbaRows ++ paaWaitFailPbaRows ++ paaOpenRows ++
  paaWaitPpaRows ++ paaWaitPanOrParRows ++ paaWaitPuaRows ++ paaSessTermRows ++ paaWaitPeaRows ++
  [paaWildcardEntry .closed]

theorem paaStateTable_constructs : StateTable.construct paaStateTable = some paaStateTable := by
  decide +kernel

end Table

namespace Paa

open Session

variable (crypto : Crypto) (config : Config) (draws : Draws) (s : Session)

section Functions

def notifyAuthorization : Session :=
  s.tell (.authorize
    { pacAddress := s.pacAddress
      paaAddress := s.paaAddress
      key := if s.sa.msk.isSet then some s.sa.msk.value else none
      lifetime := s.sessionLifetime })

def notifyEapRestart : Session := s.cancelSession.tell .eapStart

def notifyEapResponse (payload : Octets) : Session := s.tell (.eapResponse payload)

def notifyEapTimeout : Session := (s.txPER crypto errorUnableToComply).disconnect config draws errorUnableToComply

def notifyEapReAuth : Session := (s.tell .eapStart).cancelSession

/-- The next number is taken before the payload is looked for. -/
def txPSR : SessionM := do
  modify fun s => { s with lastTxSeqNum := s.lastTxSeqNum.increment }
  let s ← get
  let request : Message :=
    { type := mtypePSR, request := true, sessionId := s.sessionId, seq := s.lastTxSeqNum }
  if config.optimizedHandshake then
    if s.txEapMessageQueue.isEmpty then
      Imperative.raise ⟨.missingEapPayload, "No EAP payload generated on optimized handshake"⟩
    let block ← dequeueEap
    modify fun s => s.sendReqMsg { request with avpList := { eapPayload := some block } } config.retryPSR
  else modify fun s => s.sendReqMsg request config.retryPSR

def rxPSA : SessionM := do
  let msg ← dequeueRx
  if !config.optimizedHandshake && !config.retryPSR then modify notifyEapRestart
  else
    if config.retryPSR then modify cancelTxRetry
    match msg.avpList.eapPayload with
    | some payload => modify fun s => notifyEapResponse s payload
    | none => modify notifyEapRestart

def txPAR : SessionM := do
  modify fun s => { s with lastTxSeqNum := s.lastTxSeqNum.increment }
  let s ← get
  if s.txEapMessageQueue.isEmpty then
    Imperative.raise ⟨.missingEapPayload, "No EAP payload on TxPAR"⟩
  let block ← dequeueEap
  let nonce := if s.sa.paaNonce.isSet then none else some draws.nonce
  if !s.sa.paaNonce.isSet then
    modify fun s => { s with sa := { s.sa with paaNonce := .set draws.nonce } }
  modify fun s => s.sendReqMsg (s.protect crypto
    { type := mtypePAR
      request := true
      sessionId := s.sessionId
      seq := s.lastTxSeqNum
      avpList := { eapPayload := some block, nonce := nonce } })

inductive EapOutcome where
  | success | failure | timeout
  deriving DecidableEq, Repr

def bind (avpList : AvpList) : Session × AvpList :=
  let avpList :=
    if s.authorized ∧ s.sessionLifetime > 0 then { avpList with sessionLifetime := some s.sessionLifetime }
    else avpList
  match draws.key with
  | none => (s, avpList)
  | some newKey =>
    let avpList := if s.algorithmIsSet then avpList else { avpList with algorithm := some authAlgorithm }
    ({ s with
        sa := { s.sa with msk := .set newKey }.generateAuthKey crypto s.sessionId
        algorithmIsSet := true },
      { avpList with keyId := some s.sa.mskId })

def txPBR (rcode : UInt32) (ev : EapOutcome) : SessionM := do
  modify fun s => { s with lastTxSeqNum := s.lastTxSeqNum.increment }
  let block ← dequeueEap
  modify fun s =>
    let avpList : AvpList :=
      { resultCode := some rcode, eapPayload := if ev = .timeout then none else some block }
    let (bound, avpList) := if ev = .success then bind crypto draws s avpList else (s, avpList)
    bound.sendReqMsg (bound.protect crypto
      { type := mtypePBR
        request := true
        sessionId := s.sessionId
        seq := s.lastTxSeqNum
        avpList := avpList })

def rxPBA (success : Bool) : SessionM := do
  let _ ← dequeueRx
  modify cancelTxRetry
  if success then modify fun s => notifyAuthorization s.notifyScheduleLifetime
  else modify fun s => s.disconnect config draws

def txPAN : Session := s.txAnswer crypto mtypePAR

def rxPAR : SessionM := do
  let msg ← dequeueRx
  match msg.avpList.eapPayload with
  | some payload => modify fun s => notifyEapResponse s payload
  | none => pure ()
  modify fun s => txPAN crypto s.cancelTxRetry

def rxPAN : SessionM := do
  let msg ← dequeueRx
  modify cancelTxRetry
  modify fun s =>
    match msg.avpList.nonce with
    | some nonce => if s.sa.pacNonce.isSet then s else { s with sa := { s.sa with pacNonce := .set nonce } }
    | none => s
  match msg.avpList.eapPayload with
  | some payload => modify fun s => notifyEapResponse s payload
  | none => pure ()

def txPRA : Session := s.txAnswer crypto mtypePRR

def rxPRR : SessionM := do
  let _ ← dequeueRx
  modify fun s => txPRA crypto (notifyEapReAuth s)

end Functions

section Actions

def perform : PaaAction → Imperative Session Exception (Option PaaEvent)
  | .null => pure none
  | .exitActionPaaEapRestart => do modify notifyEapRestart; return none
  | .exitActionTxPSR => do txPSR config; return none
  | .exitActionRxPSA => do rxPSA config; return none
  | .exitActionEapTimeout => do modify (notifyEapTimeout crypto config draws); return none
  | .exitActionTxPAR => do txPAR crypto draws; return none
  | .exitActionTxPBREapSuccess => do txPBR crypto draws rcodeSuccess .success; return none
  | .exitActionTxPBREapSuccessFail => do txPBR crypto draws rcodeAuthenticationRejected .success; return none
  | .exitActionTxPBREapFail => do txPBR crypto draws rcodeAuthenticationRejected .failure; return none
  | .exitActionTxPEA => do modify Session.txPEA; return none
  | .waitPEAExitActionRxPEA => do Session.rxPEA config draws; return none
  | .exitActionRxPBASuccess => do rxPBA config draws true; return none
  | .exitActionRxPBAFail => do rxPBA config draws false; return none
  | .openExitActionRxPPR => do Session.rxPPR crypto; return none
  | .openExitActionRxPRR => do rxPRR crypto; return none
  | .openExitActionReAuth => do modify notifyEapReAuth; return none
  | .openExitActionTxPPR => do modify (Session.txPPR crypto); return none
  | .openExitActionTxPTR => do modify fun s => s.txPTR crypto termCauseAdministrative; return none
  | .openExitActionRxPTR => do Session.rxPTR crypto config draws; return none
  | .openExitActionTxPUR => do modify (Session.txPUR crypto); return none
  | .waitPUAExitActionRxPUA => do Session.rxPUA; return none
  | .openExitActionRxPUR => do Session.rxPUR crypto; return none
  | .waitPaaExitActionRxPPA => do Session.rxPPA; return none
  | .waitPANExitActionRxPAN => do rxPAN; return none
  | .waitPANExitActionRxPAR => do rxPAR crypto; return none
  | .sessExitActionRxPTA => do modify fun s => s.disconnect config draws; return none
  | .exitActionTimeout => do modify fun s => s.disconnect config draws termCauseSessionTimeout; return none
  | .exitActionRetransmission => do
    let sent ← Session.txLastReqMsg draws
    return if sent then none else some { retryTimeout := true }

end Actions

section Filters

/-- `PANA_PsmRxPCI`. -/
def psmRxPCI : RxFilter PaaEvent where
  validStates := [.offline]
  first := demand false "PCI message with request flag set, invalid message"
  resolve _ := queued fun _ => { msgType := some .pci }

/-- `PANA_PsmRxPSA`. -/
def psmRxPSA : RxFilter PaaEvent where
  validStates := [.offline]
  first := demand false "PSR recevied, invalid message"
  resolve _ := queued fun _ => { msgType := some .psa }

/-- `PANA_PsmRxPBA`. -/
def psmRxPBA : RxFilter PaaEvent where
  validStates := [.waitSuccPba, .waitFailPba]
  first := demand false "PBR message with request flag set, invalid message"
  resolve _ := queued fun _ => { msgType := some .pba }

/-- `PANA_PsmRxPRR`. -/
def psmRxPRR : RxFilter PaaEvent where
  validStates := [.opened, .waitEapMsg]
  first := demand true "PRA message with request flag set, invalid message"
  resolve _ := queued fun _ => { msgType := some .prr }

/-- `PANA_PsmRxPT`. -/
def psmRxPT : RxFilter PaaEvent where
  validStates := [.opened, .sessTerm]
  resolve _ := queued fun msg => { msgType := some (if msg.request then .ptr else .pta) }

/-- `PANA_PsmRxPU`. -/
def psmRxPU : RxFilter PaaEvent where
  validStates := [.opened, .waitPua]
  resolve _ := queued fun msg => { msgType := some (if msg.request then .pur else .pua) }

/-- `PANA_PsmRxPP`. -/
def psmRxPP : RxFilter PaaEvent where
  validStates := [.opened, .waitPpa]
  resolve _ := queued fun msg => { msgType := some (if msg.request then .ppr else .ppa) }

/-- `PANA_PsmRxPA`. -/
def psmRxPA : RxFilter PaaEvent where
  validStates := [.waitPanOrPar]
  resolve _ := queued fun msg =>
    if msg.request then { msgType := some .par }
    else { msgType := some .pan, eapPayload := msg.avpList.eapPayload.isSome }

/-- `PANA_PsmRxPE`: the session is told of a request and of an answer alike. -/
def psmRxPE : RxFilter PaaEvent where
  validStates :=
    [ .waitSuccPba, .waitPea, .waitPanOrPar, .waitFailPba, .waitPea, .opened, .waitEapMsg, .waitPpa, .waitPanOrPar,
      .sessTerm, .closed ]
  resolve draws msg := do
    modify fun s => (s.saveAddress msg).enqueueRx msg
    rxPER config draws
    -- `RxPER` has deleted the message whose flags are read here.
    let s ← get
    return if msg.request then { msgType := some .per, fatalError := s.isFatalError } else { msgType := some .pea }

/-- `PANA_PaaSession::InitializeMsgMaps`. -/
def msgHandlers (type : MType) : Option (RxFilter PaaEvent) :=
  if type = mtypePCI then some psmRxPCI
  else if type = mtypePSR then some psmRxPSA
  else if type = mtypePAR then some psmRxPA
  else if type = mtypePBR then some psmRxPBA
  else if type = mtypePRR then some psmRxPRR
  else if type = mtypePTR then some psmRxPT
  else if type = mtypePUR then some psmRxPU
  else if type = mtypePPR then some psmRxPP
  else if type = mtypePER then some (psmRxPE config)
  else none

theorem msgHandlers_cases {config : Config} {motive : MType → RxFilter PaaEvent → Prop} {type : MType}
    {filter : RxFilter PaaEvent} (handles : msgHandlers config type = some filter) (pci : motive mtypePCI psmRxPCI)
    (psa : motive mtypePSR psmRxPSA) (pa : motive mtypePAR psmRxPA) (pba : motive mtypePBR psmRxPBA)
    (prr : motive mtypePRR psmRxPRR) (pt : motive mtypePTR psmRxPT) (pu : motive mtypePUR psmRxPU)
    (pp : motive mtypePPR psmRxPP) (pe : motive mtypePER (psmRxPE config)) : motive type filter := by
  rcases handler_cases handles with ⟨rfl, rfl⟩ | handles
  · exact pci
  rcases handler_cases handles with ⟨rfl, rfl⟩ | handles
  · exact psa
  rcases handler_cases handles with ⟨rfl, rfl⟩ | handles
  · exact pa
  rcases handler_cases handles with ⟨rfl, rfl⟩ | handles
  · exact pba
  rcases handler_cases handles with ⟨rfl, rfl⟩ | handles
  · exact prr
  rcases handler_cases handles with ⟨rfl, rfl⟩ | handles
  · exact pt
  rcases handler_cases handles with ⟨rfl, rfl⟩ | handles
  · exact pu
  rcases handler_cases handles with ⟨rfl, rfl⟩ | handles
  · exact pp
  rcases handler_cases handles with ⟨rfl, rfl⟩ | handles
  · exact pe
  cases handles

end Filters

/-- The calls of a `PANA_PaaSession`, and the notification of the factory that found a PaC. -/
inductive Call where
  | pacFound | eapSendRequest (req : Octets) | eapInvalidMessage | eapSuccess (req : Option Octets) (authorized : Bool)
  | eapFailure (req : Option Octets) | eapTimeout | eapReAuthenticate | update (addr : InetAddr) | ping | stop
  deriving DecidableEq, Repr

def enqueueEap (req : Option Octets) : Session :=
  { s with txEapMessageQueue := s.txEapMessageQueue ++ req.toList }

def call (c : Call) (s : Session) : Session × PaaEvent :=
  match c with
  | .pacFound => (s, { app := some .pacFound, optimizedHandshake := config.optimizedHandshake })
  | .eapSendRequest req => (enqueueEap s (some req), { eap := some .request })
  | .eapInvalidMessage => (s, { eap := some .invalidMsg })
  | .eapSuccess req authorized =>
    ({ enqueueEap s req with authorized := authorized }, { eap := some .success, authorize := authorized })
  | .eapFailure req => (enqueueEap s req, { eap := some .failure })
  | .eapTimeout => (s, { eap := some .timeout })
  | .eapReAuthenticate => (s, { app := some .reauth })
  | .update addr => ({ s with pacAddress := addr }, { app := some .update })
  | .ping => (s, { app := some .ping })
  | .stop => (s, { app := some .terminate })

/-- The event of each timer in `FsmTimer`; piggybacking is a bit of clients only. -/
def timeout : TimerId → PaaEvent
  | .retry => { reTransmission := true }
  | .session => { sessTimeout := true }
  | .eapResp => { eap := some .respTimeout }

/-- `PANA_PaaSession`. -/
def program : Program PaaEvent PaaAction Call where
  crypto := crypto
  table := paaStateTable
  msgHandlers := msgHandlers config
  perform := perform crypto config
  call := call config
  timeout := timeout
  stop := { app := some .terminate }

end Paa

end OpenDiameter.Pana
