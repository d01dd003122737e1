import OpenDiameter.Foundation.Octets

/-! Base protocol messages between peers and the capabilities they carry.

Only the AVPs that the peer state machine looks at are kept: what `GetAvp` finds
for each name it asks for.
-/

set_option autoImplicit false

namespace OpenDiameter.Peer

open Foundation

section Values

/-- `DIAMETER_RELAY_APPLICATION_ID`. -/
def relayApplicationId : UInt32 := 0xffffffff

def msgCodeCapabilitiesExchg : UInt32 := 257
def msgCodeWatchdog : UInt32 := 280
def msgCodeDisconnectPeer : UInt32 := 282

def aaaSuccess : UInt32 := 2001
def aaaNoCommonApplication : UInt32 := 5010
def aaaNoCommonSecurity : UInt32 := 5017

inductive ResultClass where
  | notPresent | informational | success | protocolError | transientFailure | permanentFailure
  deriving DecidableEq, Repr

/-- `DiameterMsgResultCode::InterpretedResultCode(code)`; the subtractions wrap. -/
def interpretedResultCode (code : UInt32) : ResultClass :=
  let rec classify (code : UInt32) : List ResultClass → ResultClass
    | [] => .permanentFailure
    | c :: rest => if (code - 1000) / 1000 = 0 then c else classify (code - 1000) rest
  classify code [.informational, .success, .protocolError, .transientFailure, .permanentFailure]

end Values

section Messages

structure VendorSpecificAvp where
  vendorId : Option UInt32
  authAppId : Option UInt32
  acctAppId : Option UInt32
  deriving DecidableEq, Repr

/-- A `DiameterMsg` of the base protocol. -/
structure PeerMsg where
  code : UInt32
  request : Bool
  hh : UInt32
  ee : UInt32
  originHost : Option Octets := none
  inbandSecurityId : Option UInt32 := none
  authAppIds : List UInt32 := []
  acctAppIds : List UInt32 := []
  vendorSpecificIds : List VendorSpecificAvp := []
  resultCode : Option UInt32 := none
  errorMessage : Option String := none
  disconnectCause : Option UInt32 := none
  deriving DecidableEq, Repr

/-- `DiameterMsgQuery::IsCapabilities`. -/
def PeerMsg.isCapabilities (msg : PeerMsg) : Bool := msg.code == msgCodeCapabilitiesExchg

/-- `DiameterMsgResultCode(msg).InterpretedResultCode()`: code 0 is not present. -/
def PeerMsg.resultClass (msg : PeerMsg) : ResultClass :=
  if msg.resultCode.getD 0 = 0 then .notPresent else interpretedResultCode (msg.resultCode.getD 0)

end Messages

section Capabilities

/-- `DiameterDataVendorSpecificApplicationId`; 0 stands for no id. -/
structure VendorSpecificId where
  vendorId : UInt32
  authAppId : UInt32
  acctAppId : UInt32
  deriving DecidableEq, Repr

/-- `DiameterPeerCapabilities`, without the message ids. -/
structure PeerCapabilities where
  host : Octets
  inbandSecurityId : UInt32
  authAppIdLst : List UInt32
  acctAppIdLst : List UInt32
  vendorSpecificId : List VendorSpecificId
  deriving DecidableEq, Repr

def PeerCapabilities.blank : PeerCapabilities := ⟨[], 0, [], [], []⟩

/-- What a peer entry reads of the configuration. The two generators stand for
the values that successive calls of `Get` return. -/
structure PeerConfig where
  identity : Octets
  tls : Bool
  authAppIdLst : List UInt32
  acctAppIdLst : List UInt32
  vendorSpecificId : List VendorSpecificId
  reconnectMax : Nat
  reconnectInterval : Nat
  hopByHopGen : Nat → UInt32
  endToEndGen : Nat → UInt32

/-- One element of the loop of `DisassembleCE` over the vendor specific ids: an
Acct-Application-Id is read only where there is no Auth-Application-Id. -/
def VendorSpecificAvp.read (avp : VendorSpecificAvp) : VendorSpecificId where
  vendorId := avp.vendorId.getD 0
  authAppId := avp.authAppId.getD 0
  acctAppId := if avp.authAppId.isSome then 0 else avp.acctAppId.getD 0

def disassembleCE (msg : PeerMsg) : PeerCapabilities where
  host := msg.originHost.getD []
  inbandSecurityId := msg.inbandSecurityId.getD 0
  authAppIdLst := msg.authAppIds
  acctAppIdLst := msg.acctAppIds
  vendorSpecificId := (msg.vendorSpecificIds.map (·.read)).filter fun vsid =>
    vsid.acctAppId ≠ 0 || vsid.authAppId ≠ 0

/-- The group that `AssembleCE` writes for a configured id: no AVP for a 0. -/
def VendorSpecificId.write (vid : VendorSpecificId) : VendorSpecificAvp where
  vendorId := if 0 < vid.vendorId then some vid.vendorId else none
  authAppId := if 0 < vid.authAppId then some vid.authAppId else none
  acctAppId := if 0 < vid.acctAppId then some vid.acctAppId else none

/-- `AssembleCE`, once the message ids are drawn. -/
def assembleCE (config : PeerConfig) (request : Bool) (hh ee : UInt32) : PeerMsg where
  code := msgCodeCapabilitiesExchg
  request := request
  hh := hh
  ee := ee
  originHost := some config.identity
  inbandSecurityId := some (if config.tls then 1 else 0)
  authAppIds := config.authAppIdLst
  acctAppIds := config.acctAppIdLst
  vendorSpecificIds := config.vendorSpecificId.map (·.write)

end Capabilities

section Validation

/-- `AAA_ApplicationIdLookup::Find` over one list of ids. -/
def findId (id : UInt32) (lst : List UInt32) : Bool :=
  lst.any fun i => id == relayApplicationId || i == relayApplicationId || i == id

/-- `AAA_ApplicationIdLookup::Find` over the vendor specific ids. -/
def findVendorId (id : UInt32) (lst : List VendorSpecificId) : Bool :=
  lst.any fun i => i.authAppId == id || i.acctAppId == id || i.authAppId == relayApplicationId ||
    i.acctAppId == relayApplicationId || id == relayApplicationId

def PeerConfig.supports (config : PeerConfig) (id : UInt32) : Bool :=
  [config.authAppIdLst, config.acctAppIdLst].any (findId id) || findVendorId id config.vendorSpecificId

def commonApplication (config : PeerConfig) (cap : PeerCapabilities) : Bool :=
  [cap.authAppIdLst, cap.acctAppIdLst].any (·.any config.supports) ||
    cap.vendorSpecificId.any fun i => config.supports i.authAppId || config.supports i.acctAppId

def validatePeer (config : PeerConfig) (cap : PeerCapabilities) : Bool × UInt32 × String :=
  if !commonApplication config cap then
    (false, aaaNoCommonApplication, "No common application id")
  else if (if config.tls then 1 else 0) ≠ cap.inbandSecurityId then
    (false, aaaNoCommonSecurity, "No matching in-band security id")
  else (true, aaaSuccess, "Capabilities negotiation completed successfully")

def validates (config : PeerConfig) (cer : PeerMsg) : Bool :=
  (validatePeer config (disassembleCE cer)).1

end Validation

section MsgIds

/-- `DiameterMsgId`: the keys of two maps and two queues. -/
structure MsgIds where
  lastTxHopId : List UInt32
  lastTxEndId : List UInt32
  lastRxHopId : List UInt32
  lastRxEndId : List UInt32
  deriving DecidableEq, Repr

/-- `AAA_ProtectedMap::Add` on the keys of a map. -/
def addKey (keys : List UInt32) (key : UInt32) : List UInt32 :=
  if key ∈ keys then keys else key :: keys

def MsgIds.txRequest (ids : MsgIds) (hopId endId : UInt32) : MsgIds :=
  { ids with lastTxHopId := addKey ids.lastTxHopId hopId, lastTxEndId := addKey ids.lastTxEndId endId }

/-- `MsgIdTxMessage` for an answer: the ids it takes, 0 from an empty queue. -/
def MsgIds.txAnswer (ids : MsgIds) : MsgIds × UInt32 × UInt32 :=
  ({ ids with lastRxHopId := ids.lastRxHopId.tail, lastRxEndId := ids.lastRxEndId.tail },
    ids.lastRxHopId.headD 0, ids.lastRxEndId.headD 0)

/-- `MsgIdRxMessage`. An unknown end-to-end id is found out after the hop-by-hop
id is removed. -/
def MsgIds.rxMessage (ids : MsgIds) (msg : PeerMsg) : MsgIds × Bool :=
  if msg.request then
    ({ ids with lastRxHopId := ids.lastRxHopId ++ [msg.hh], lastRxEndId := ids.lastRxEndId ++ [msg.ee] },
      true)
  else if msg.hh ∉ ids.lastTxHopId then (ids, false)
  else
    let hopless := { ids with lastTxHopId := ids.lastTxHopId.erase msg.hh }
    if msg.ee ∉ ids.lastTxEndId then (hopless, false)
    else ({ hopless with lastTxEndId := ids.lastTxEndId.erase msg.ee }, true)

end MsgIds

end OpenDiameter.Peer
