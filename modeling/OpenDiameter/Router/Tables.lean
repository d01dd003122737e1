import OpenDiameter.Peer.PeerEntry
import OpenDiameter.Router.Message

/-! What the router consults, and the lookups of its request chain. -/

set_option autoImplicit false

namespace OpenDiameter.Router

open Foundation OpenDiameter.Parser OpenDiameter.Peer

/-- The address of a `DiameterPeerEntry`. -/
abbrev PeerRef : Type := Nat

section RouteTable

inductive RouteAction where
  | actionLocal | actionRelay | actionProxy | actionRedirect
  deriving DecidableEq, Repr

/-- `DiameterRouteApplication`, its servers by metric. The configuration format
has at least one server in each application. -/
structure RouteApplication where
  applicationId : UInt32
  vendorId : UInt32
  servers : List Octets
  declared : servers ≠ []

structure RouteEntry where
  realm : Octets
  action : RouteAction
  redirectUsage : UInt32
  applications : List RouteApplication

/-- `DiameterRouteEntry::Lookup`. -/
def RouteEntry.lookup (route : RouteEntry) (appId vendorId : UInt32) : Option RouteApplication :=
  route.applications.find? fun app => app.vendorId == vendorId && app.applicationId == appId

end RouteTable

/-- The configuration of a node, its peer table and route table, and what it asks
of the applications on it: the verdict of a proxy handler and whether a message
belongs to a local session. The generators stand for the values that successive
calls of `Get` return, `now` for the time of day. A machine in an open state runs. -/
structure Node where
  identity : Octets
  realm : Octets
  authAppIdLst : List UInt32
  acctAppIdLst : List UInt32
  vendorSpecificId : List VendorSpecificId
  retxInterval : Nat
  retxMaxCount : Nat
  peerTable : List (Octets × PeerRef)
  isOpen : PeerRef → Bool
  running : PeerRef → Bool
  openRuns : ∀ p, isOpen p = true → running p = true
  routes : List RouteEntry
  defaultRoute : Option RouteEntry
  proxyHandler : UInt32 → Option (DiameterMsg → Bool)
  localSession : DiameterMsg → Bool
  hopByHopGen : Nat → UInt32
  endToEndGen : Nat → UInt32
  now : Nat

namespace Node

variable (node : Node)

/-- `DiameterPeerTable::Lookup`. -/
def peer (peername : Octets) : Option PeerRef :=
  (node.peerTable.find? fun entry => sameName entry.1 peername).map Prod.snd

def openPeer (peername : Octets) : Option PeerRef := (node.peer peername).filter node.isOpen

/-- `DiameterRouteTable::Lookup`. -/
def route (realm : Octets) : Option RouteEntry :=
  (node.routes.find? fun entry => sameName entry.realm realm).or node.defaultRoute

/-- `RxProxyMsgHandler::Request`. -/
def proxyRequest (msg : DiameterMsg) : Int :=
  match node.proxyHandler msg.hdr.appId with
  | some accepts => if accepts msg then 0 else -1
  | none => -1

end Node

/-- What `Lookup` of a request node finds. -/
inductive RouteResult where
  | success (dest : Option PeerRef)
  | nextChain
  deriving DecidableEq, Repr

section RequestChain

variable (node : Node) (msg : DiameterMsg)

def DiameterMsg.destHost : Option Octets := getAvp asIdentity msg.acl nameDestHost 0

def DiameterMsg.destRealm : Option Octets := getAvp asIdentity msg.acl nameDestRealm 0

def Node.supportsApplication (appId : UInt32) : Bool :=
  node.authAppIdLst.contains appId || node.acctAppIdLst.contains appId ||
    node.vendorSpecificId.any fun id => id.authAppId == appId || id.acctAppId == appId

/-- `RcLocal::Lookup`. -/
def rcLocalLookup : RouteResult :=
  match msg.destHost, msg.destRealm with
  | some destHost, _ => if sameName destHost node.identity then .success none else .nextChain
  | none, some destRealm =>
    if sameName destRealm node.realm && node.supportsApplication msg.hdr.appId then .success none
    else .nextChain
  | none, none => .success none

/-- `RcForwarded::Lookup`. -/
def rcForwardedLookup : RouteResult :=
  match msg.destHost with
  | some destHost =>
    match node.openPeer destHost with
    | some dest => .success (some dest)
    | none => .nextChain
  | none => .nextChain

/-- `UserName->substr(UserName->find("@",0), UserName->length()-1)`, which throws
when there is no `@`; the `@` stays in front of the realm. -/
def realmOfUserName (userName : Octets) : Option Octets :=
  (userName.findIdx? (· == 0x40)).map fun start => (userName.drop start).take (userName.length - 1)

/-- The realm that `RcRouted::Lookup` looks up. -/
def DiameterMsg.lookupRealm : Option Octets :=
  match msg.destRealm with
  | some destRealm => some destRealm
  | none => (getAvp asUtf8 msg.acl nameUserName 0).bind realmOfUserName

inductive VendorApp where
  | unchanged
  | missingVendorId
  | application (app : Option RouteApplication)

def vendorApp (route : RouteEntry) : VendorApp :=
  match getAvp asGrouped msg.acl nameVendorAppId 0 with
  | none => .unchanged
  | some grouped =>
    match getAvp asUnsigned32 grouped nameVendorId 0 with
    | none => .missingVendorId
    | some vid =>
      match firstAppId grouped with
      | some value => .application (route.lookup value vid)
      | none => .unchanged

/-- The application of a route that `RcRouted::Lookup` settles on: by the header,
else by an application id of the base protocol, else by the vendor's. -/
def routedApplication (route : RouteEntry) : Option RouteApplication :=
  match route.lookup msg.hdr.appId 0 with
  | some app => some app
  | none =>
    match firstAppId msg.acl with
    | some id => route.lookup id 0
    | none =>
      match vendorApp msg route with
      | .application app => app
      | .unchanged | .missingVendorId => none

/-- `RcRouted::Lookup`; what it throws it also catches. -/
def rcRoutedLookup : RouteResult :=
  match msg.lookupRealm.bind node.route with
  | none => .nextChain
  | some route =>
    match routedApplication msg route with
    | none => .nextChain
    | some app =>
      if route.action = .actionRedirect then .success none
      else
        match app.servers.findSome? node.openPeer with
        | some dest => .success (some dest)
        | none => .nextChain

end RequestChain

end OpenDiameter.Router
