import Mathlib.Tactic.Linarith
import OpenDiameter.Router.Tables

/-! `DiameterMsgRouter`: the pending requests of its delivery nodes, the request
chain, the answer chain and retransmission.

A reply carries what a call did to the world outside and the router it left
behind, also when the call threw or went wrong after that.
-/

set_option autoImplicit false

namespace OpenDiameter.Router

open Foundation OpenDiameter.Parser

section State

structure PendingReq where
  origHH : UInt32
  source : Option PeerRef
  dest : Option PeerRef
  reTxExpireTime : Nat
  reTxCount : Nat
  reqMessage : Option DiameterMsg

/-- The nodes of the answer chain that keep requests; `dcReject` keeps none. -/
inductive DeliveryNode where
  | dcLocal | dcForward | dcRouted
  deriving DecidableEq, Repr

/-- The maps of the delivery nodes, keyed by `int`, and how many ids the
generators have given out. -/
structure MsgRouter where
  reqMap : DeliveryNode → Std.TreeMap Int32 PendingReq
  hopByHop : Nat
  endToEnd : Nat

namespace MsgRouter

def construct : MsgRouter := ⟨fun _ => ∅, 0, 0⟩

variable (d : DeliveryNode) (hh : UInt32) (router : MsgRouter)

/-- `LookupQueuedMessage`. -/
def pending : Option PendingReq := (router.reqMap d)[hh.toInt32]?

def setMap (map : Std.TreeMap Int32 PendingReq) : MsgRouter :=
  { router with reqMap := Function.update router.reqMap d map }

def insert (entry : PendingReq) : MsgRouter :=
  router.setMap d ((router.reqMap d).insertIfNew hh.toInt32 entry)

/-- `DeleteQueuedMessage`. -/
def delete : MsgRouter := router.setMap d ((router.reqMap d).erase hh.toInt32)

/-- `StoreRequestMessage`. -/
def store (msg : DiameterMsg) : MsgRouter :=
  router.setMap d ((router.reqMap d).modify hh.toInt32 fun r => { r with reqMessage := some msg })

end MsgRouter

theorem toInt32_inj {a b : UInt32} : a.toInt32 = b.toInt32 ↔ a = b := by
  constructor
  · intro same
    have back := congrArg Int32.toUInt32 same
    exact back
  · intro same
    rw [same]

section Pending

variable (d other : DeliveryNode) (hh id : UInt32) (router : MsgRouter)

theorem pending_setMap (map : Std.TreeMap Int32 PendingReq) :
    (router.setMap d map).pending other id =
      if other = d then map[id.toInt32]? else router.pending other id := by
  unfold MsgRouter.pending MsgRouter.setMap
  by_cases same : other = d
  · subst same
    simp
  · simp [same]

theorem pending_insert (entry : PendingReq) :
    (router.insert d hh entry).pending other id =
      if other = d ∧ id = hh ∧ router.pending d hh = none then some entry else router.pending other id := by
  rw [MsgRouter.insert, pending_setMap, Std.TreeMap.getElem?_insertIfNew]
  simp only [Std.compare_eq_iff_eq, toInt32_inj]
  by_cases same : other = d
  · subst same
    simp [MsgRouter.pending, eq_comm]
  · simp [same]

theorem pending_delete :
    (router.delete d hh).pending other id =
      if other = d ∧ id = hh then none else router.pending other id := by
  rw [MsgRouter.delete, pending_setMap, Std.TreeMap.getElem?_erase]
  simp only [Std.compare_eq_iff_eq, toInt32_inj]
  by_cases same : other = d
  · subst same
    simp [MsgRouter.pending, eq_comm]
  · simp [same]

theorem pending_store (msg : DiameterMsg) :
    (router.store d hh msg).pending other id =
      if other = d ∧ id = hh then
        (router.pending d hh).map fun r => { r with reqMessage := some msg }
      else router.pending other id := by
  rw [MsgRouter.store, pending_setMap, Std.TreeMap.getElem?_modify]
  simp only [Std.compare_eq_iff_eq, toInt32_inj]
  by_cases same : other = d
  · subst same
    simp [MsgRouter.pending, eq_comm]
  · simp [same]

end Pending

def MsgRouter.add (node : Node) (d : DeliveryNode) (localh2h : UInt32) (msg : DiameterMsg)
    (source dest : Option PeerRef) (router : MsgRouter) : MsgRouter :=
  router.insert d localh2h
    { origHH := msg.hdr.hh, source, dest, reTxExpireTime := node.now + node.retxInterval, reTxCount := 0
      reqMessage := none }

end State

section Effects

inductive HandlerType where
  | hLocal | hProxy | hError
  deriving DecidableEq, Repr

inductive Effect where
  | sent (peer : PeerRef) (msg : DiameterMsg)
  | request (handler : HandlerType) (msg : DiameterMsg)
  | answer (handler : HandlerType) (msg : DiameterMsg)

/-- How a call ended, what it did, and the router after it. -/
structure Reply where
  outcome : Outcome Unit Int
  effects : List Effect
  router : MsgRouter

/-- `peer->Send(msg)`. A machine that does not run refuses the message, one that
is not open drops it. -/
def Node.send (node : Node) (peer : Option PeerRef) (msg : DiameterMsg) (router : MsgRouter) : Reply :=
  match peer with
  | none => ⟨.fault, [], router⟩
  | some p =>
    if node.running p then ⟨.returned 0, if node.isOpen p then [.sent p msg] else [], router⟩
    else ⟨.returned (-1), [], router⟩

/-- `peer->Send(DiameterErrorMsg::Generate(*msg, rcode))`. -/
def answerError (node : Node) (msg : DiameterMsg) (rcode : UInt32) (peer : Option PeerRef)
    (router : MsgRouter) : Reply :=
  match msg.generateError node.identity node.realm rcode with
  | .returned answerMsg => node.send peer answerMsg router
  | .thrown _ | .escaped | .fault => ⟨.fault, [], router⟩

variable {node : Node} {p : PeerRef}

theorem send_open (connected : node.isOpen p = true) (msg : DiameterMsg) (router : MsgRouter) :
    node.send (some p) msg router = ⟨.returned 0, [.sent p msg], router⟩ := by
  simp only [Node.send, node.openRuns p connected, connected, ↓reduceIte]

end Effects

section Relaying

/-- `Send(msg, false)`, after which the message goes into its pending request
where the caller stores it. -/
def sendAndStore (node : Node) (d : DeliveryNode) (hh : UInt32) (stored : Bool) (msg : DiameterMsg)
    (dest : Option PeerRef) (router : MsgRouter) : Reply :=
  let reply := node.send dest msg router
  match reply.outcome with
  | .returned _ => { reply with router := if stored then router.store d hh msg else router }
  | .thrown _ | .escaped | .fault => reply

/-- `msg->hdr.flags.t && LookupQueuedMessage(msg->hdr.hh)`. -/
def resends (msg : DiameterMsg) (router : MsgRouter) (d : DeliveryNode) : Bool :=
  msg.hdr.t && (router.pending d msg.hdr.hh).isSome

/-- The branch for locally retransmitted messages. -/
def resend (node : Node) (d : DeliveryNode) (msg : DiameterMsg) (dest : Option PeerRef) (router : MsgRouter) :
    Reply :=
  sendAndStore node d msg.hdr.hh true msg dest router

/-- The identifiers of a locally generated request, filled in where they are 0. -/
def fillIds (node : Node) (msg : DiameterMsg) (router : MsgRouter) : DiameterMsg × MsgRouter :=
  let hop := if msg.hdr.hh = 0 then
      (msg.setHopByHop (node.hopByHopGen router.hopByHop), { router with hopByHop := router.hopByHop + 1 })
    else (msg, router)
  if hop.1.hdr.ee = 0 then
    (hop.1.setEndToEnd (node.endToEndGen hop.2.endToEnd), { hop.2 with endToEnd := hop.2.endToEnd + 1 })
  else hop

/-- The common end of `DcForward::RequestMsg` and `DcRouted::RequestMsg`: the
request is recorded, sent, and stored if the recorded id is above 0 as an `int`. -/
def relay (node : Node) (d : DeliveryNode) (msg : DiameterMsg) (source dest : Option PeerRef)
    (router : MsgRouter) : Reply :=
  match source with
  | some _ =>
    let localHH := node.hopByHopGen router.hopByHop
    let recorded := { router with hopByHop := router.hopByHop + 1 }.add node d localHH msg source dest
    sendAndStore node d localHH (0 < localHH.toInt32) (msg.setHopByHop localHH) dest recorded
  | none =>
    let filled := fillIds node msg router
    let h2hIndex := filled.1.hdr.hh
    sendAndStore node d h2hIndex (0 < h2hIndex.toInt32) filled.1 dest
      (filled.2.add node d h2hIndex filled.1 source dest)

variable {node : Node} {q : PeerRef}

theorem resend_open (connected : node.isOpen q = true) (d : DeliveryNode) (msg : DiameterMsg)
    (router : MsgRouter) :
    resend node d msg (some q) router =
      ⟨.returned 0, [.sent q msg], router.store d msg.hdr.hh msg⟩ := by
  simp only [resend, sendAndStore, send_open connected, ↓reduceIte]

/-- The entry that a relayed request finds or makes under its new id, and what
becomes of it once the request is sent. -/
def relayedEntry (node : Node) (d : DeliveryNode) (msg : DiameterMsg) (source dest : Option PeerRef)
    (router : MsgRouter) : PendingReq :=
  let localHH := node.hopByHopGen router.hopByHop
  let r := (router.pending d localHH).getD
    { origHH := msg.hdr.hh, source, dest, reTxExpireTime := node.now + node.retxInterval, reTxCount := 0
      reqMessage := none }
  if 0 < localHH.toInt32 then { r with reqMessage := some (msg.setHopByHop localHH) } else r

theorem relay_open (connected : node.isOpen q = true) (d : DeliveryNode) (msg : DiameterMsg) (p : PeerRef)
    (router : MsgRouter) :
    ∃ after, relay node d msg (some p) (some q) router =
        ⟨.returned 0, [.sent q (msg.setHopByHop (node.hopByHopGen router.hopByHop))], after⟩ ∧
      after.hopByHop = router.hopByHop + 1 ∧
      ∀ other id, after.pending other id =
        if other = d ∧ id = node.hopByHopGen router.hopByHop then
          some (relayedEntry node d msg (some p) (some q) router)
        else router.pending other id := by
  simp only [relay, sendAndStore, send_open connected]
  refine ⟨_, rfl, ?_, ?_⟩
  · split <;> rfl
  · intro other id
    -- the counter of the generator plays no part in the maps
    have same : ∀ d' hh, { router with hopByHop := router.hopByHop + 1 }.pending d' hh = router.pending d' hh :=
      fun _ _ => rfl
    by_cases place : other = d ∧ id = node.hopByHopGen router.hopByHop
    · obtain ⟨rfl, rfl⟩ := place
      by_cases above : 0 < (node.hopByHopGen router.hopByHop).toInt32
      · cases found : router.pending other (node.hopByHopGen router.hopByHop) <;>
          simp [relayedEntry, above, pending_store, MsgRouter.add, pending_insert, same, found]
      · cases found : router.pending other (node.hopByHopGen router.hopByHop) <;>
          simp [relayedEntry, above, MsgRouter.add, pending_insert, same, found]
    · have elsewhere : ¬ (other = d ∧ id = node.hopByHopGen router.hopByHop ∧
          router.pending d (node.hopByHopGen router.hopByHop) = none) := by
        rintro ⟨sameNode, sameId, -⟩
        exact place ⟨sameNode, sameId⟩
      by_cases above : 0 < (node.hopByHopGen router.hopByHop).toInt32
      · simp only [above, decide_true, ↓reduceIte, pending_store, MsgRouter.add, pending_insert, same, place,
          elsewhere]
      · simp only [above, decide_false, Bool.false_eq_true, ↓reduceIte, MsgRouter.add, pending_insert, same,
          place, elsewhere]

end Relaying

section Requests

variable (node : Node) (msg : DiameterMsg) (source dest : Option PeerRef) (router : MsgRouter)

/-- `DcLocal::RequestMsg`. -/
def dcLocalRequestMsg : Reply :=
  match source with
  | some _ => ⟨.returned 0, [.request .hLocal msg], router.add node .dcLocal msg.hdr.hh msg source dest⟩
  | none => ⟨.returned 0, [], router⟩

def DiameterMsg.routeRecords : List Octets :=
  match searchContainer msg.acl nameRouteRecord with
  | some c => c.entries.filterMap asIdentity
  | none => []

/-- `DcForward::LoopDetection(msg) == 0`. -/
def loopDetection : Bool := msg.routeRecords.contains node.identity

/-- `DcForward::RequestMsg`. -/
def dcForwardRequestMsg : Reply :=
  if resends msg router .dcForward then resend node .dcForward msg dest router
  else if loopDetection node msg then
    match source with
    | some _ => answerError node msg codeLoopDetected source router
    | none => ⟨.returned (-1), [.request .hError msg], router⟩
  else relay node .dcForward msg source dest router

def redirectHosts (app : RouteApplication) : List AvpContainerEntry :=
  app.servers.map fun server => .diamUri ⟨server, none, .tcp, .diameter, .aaa⟩

/-- The application `RedirectAgent::Request` settles on; a group without a
Vendor-Id ends the call. -/
def redirectedApplication (route : RouteEntry) : Option (Option RouteApplication) :=
  match route.lookup msg.hdr.appId 0, firstAppId msg.acl with
  | none, some id => some (route.lookup id 0)
  | app, _ =>
    match vendorApp msg route with
    | .unchanged => some app
    | .application vendor => some vendor
    | .missingVendorId => none

/-- `RedirectAgent::Request` for the route that the caller looked up. -/
def redirectRequest (route : RouteEntry) : Reply :=
  match msg.generateError node.identity node.realm codeRedirectIndication with
  | .returned answerMsg =>
    match redirectedApplication msg route with
    | none => ⟨.returned (-1), [], router⟩
    | some none => node.send source answerMsg router
    | some (some app) => node.send source
        ((answerMsg.add (avpWidget nameRedirectHostUsage [.enum route.redirectUsage])).add
          (avpWidget nameRedirectHost (redirectHosts app))) router
  | .thrown _ | .escaped | .fault => ⟨.fault, [], router⟩

def foreignOrigin : Bool := getAvp asIdentity msg.acl nameOriginHost 0 != some node.identity

def appendRouteRecord : DiameterMsg :=
  msg.add (avpWidget nameRouteRecord [.diamId node.identity])

/-- `DcRouted::RequestMsg` past its checks: the proxy handler, then the relay. -/
def proxyThenRelay (action : RouteAction) : Reply :=
  if action = .actionProxy then
    if node.proxyRequest msg ≠ 0 then ⟨.returned 0, [.request .hProxy msg], router⟩
    else
      let reply := relay node .dcRouted msg source dest router
      { reply with effects := .request .hProxy msg :: reply.effects }
  else relay node .dcRouted msg source dest router

/-- The last branch of `DcRouted::RequestMsg`, for relay and proxy routes. A request
whose Origin-Host is the node itself is neither checked nor marked. -/
def relayOrProxy (action : RouteAction) : Reply :=
  if foreignOrigin node msg then
    if resends msg router .dcRouted then resend node .dcRouted msg dest router
    else if loopDetection node msg then answerError node msg codeLoopDetected source router
    else proxyThenRelay node (appendRouteRecord node msg) source dest router action
  else proxyThenRelay node msg source dest router action

/-- `DcRouted::RequestMsg`. -/
def dcRoutedRequestMsg : Reply :=
  match msg.destRealm.bind node.route with
  -- `throw (0)`, for a realm that is missing and for one without a route
  | none => ⟨.escaped, [], router⟩
  | some route =>
    match route.action with
    | .actionLocal => dcLocalRequestMsg node msg source dest router
    | .actionRedirect => redirectRequest node msg source router route
    | .actionRelay => relayOrProxy node msg source dest router .actionRelay
    | .actionProxy => relayOrProxy node msg source dest router .actionProxy

/-- `DcReject::RequestMsg`. -/
def dcRejectRequestMsg : Reply :=
  match source with
  | none => ⟨.returned 0, [.request .hError msg], router⟩
  | some _ => answerError node msg codeUnableToDeliver source router

/-- `DiameterMsgRouter::RequestMsg`: the first request node whose lookup succeeds
hands the request to its delivery node. -/
def requestMsg : Reply :=
  match rcLocalLookup node msg with
  | .success dest => dcLocalRequestMsg node msg source dest router
  | .nextChain =>
    match rcForwardedLookup node msg with
    | .success dest => dcForwardRequestMsg node msg source dest router
    | .nextChain =>
      match rcRoutedLookup node msg with
      | .success dest => dcRoutedRequestMsg node msg source dest router
      | .nextChain => dcRejectRequestMsg node msg source router

end Requests

section Answers

variable (node : Node)

/-- `RedirectAgent::IsRedirected`. -/
def DiameterMsg.isRedirected (msg : DiameterMsg) : Bool :=
  !msg.hdr.r && msg.hdr.e && msg.resultCode == codeRedirectIndication

def DiameterMsg.redirectHosts (msg : DiameterMsg) : List DiameterUri :=
  match searchContainer msg.acl nameRedirectHost with
  | some c => c.entries.filterMap asUri
  | none => []

def DiameterMsg.redirectTo (msg : DiameterMsg) (fqdn : Octets) : DiameterMsg :=
  match msg.destHost with
  | some _ => { msg with acl := assignAvp msg.acl nameDestHost (.diamId fqdn) }
  | none => msg.add (avpWidget nameDestHost [.diamId fqdn])

/-- The loop of `RedirectAgent::Answer`: the stored request goes to the first host
with an open connection. -/
def redirectAnswer (p : Option DiameterMsg) (router : MsgRouter) : List DiameterUri → Reply
  | [] => ⟨.returned 0, [], router⟩
  | host :: hosts =>
    match node.openPeer host.fqdn with
    | none => redirectAnswer p router hosts
    | some peer =>
      match p with
      | none => ⟨.fault, [], router⟩
      | some msg => node.send (some peer) (msg.redirectTo host.fqdn) router

/-- `DcLocal::Process` and its `ErrorHandling`, which `DcForward::Process` calls. -/
def dcLocalProcess (msg : DiameterMsg) (p : Option DiameterMsg) (dest : Option PeerRef) (router : MsgRouter) :
    Reply :=
  if msg.isRedirected then redirectAnswer node p router msg.redirectHosts
  else
    match dest with
    | some _ => node.send dest msg router
    | none => ⟨.returned 0, [.answer (if msg.hdr.e then .hError else .hLocal) msg], router⟩

/-- `dest->Send(msg)` with a message that a handler has released: the transmitter
dereferences the pointer it is given. -/
def sendReleased (dest : PeerRef) (router : MsgRouter) : Reply :=
  if node.running dest then
    if node.isOpen dest then ⟨.fault, [], router⟩ else ⟨.returned 0, [], router⟩
  else ⟨.returned (-1), [], router⟩

/-- `DcRouted::Process`. The error handler releases a message of a local session. -/
def dcRoutedProcess (msg : DiameterMsg) (p : Option DiameterMsg) (dest : Option PeerRef) (router : MsgRouter) :
    Reply :=
  if msg.isRedirected then redirectAnswer node p router msg.redirectHosts
  else
    match dest with
    | none => ⟨.returned 0, [.answer (if msg.hdr.e then .hError else .hLocal) msg], router⟩
    | some peer =>
      let reply :=
        if msg.hdr.e && node.localSession msg then sendReleased node peer router
        else node.send dest msg router
      { reply with effects := .answer (if msg.hdr.e then .hError else .hProxy) msg :: reply.effects }

def process (d : DeliveryNode) : DiameterMsg → Option DiameterMsg → Option PeerRef → MsgRouter → Reply :=
  match d with
  | .dcLocal | .dcForward => dcLocalProcess node
  | .dcRouted => dcRoutedProcess node

/-- `Route` of the answer chain. The lookup takes the matching request out of its
map and restores its hop-by-hop id; `dcReject` ends the chain. -/
def answerChain (msg : DiameterMsg) (router : MsgRouter) : List DeliveryNode → Reply
  | [] => ⟨.returned 0, [], router⟩
  | d :: next =>
    match router.pending d msg.hdr.hh with
    | some r => process node d (msg.setHopByHop r.origHH) r.reqMessage r.source (router.delete d msg.hdr.hh)
    | none => answerChain msg router next

/-- `DiameterMsgRouter::AnswerMsg`. -/
def answerMsg (msg : DiameterMsg) (router : MsgRouter) : Reply :=
  answerChain node msg router [.dcLocal, .dcForward, .dcRouted]

end Answers

section Retransmission

variable (node : Node) (d : DeliveryNode) (matching : PendingReq → Bool)

/-- `DcRequestReTransmission`: the message moves out of its entry, and with the T
flag set through the whole request chain again. -/
def reTransmit (key : Int32) (r : PendingReq) (router : MsgRouter) : Reply :=
  match r.reqMessage with
  | none => ⟨.fault, [], router⟩
  | some msg =>
    requestMsg node msg.setRetransmitted r.source
      (router.setMap d ((router.reqMap d).modify key fun r =>
        { r with
          reTxCount := r.reTxCount + 1
          reTxExpireTime := node.now + node.retxInterval
          reqMessage := none }))

/-- `PendingReqReTxCheck`. -/
def reTxCheck (key : Int32) (r : PendingReq) (router : MsgRouter) : Reply :=
  if matching r then
    if r.reTxCount < node.retxMaxCount then reTransmit node d key r router
    else ⟨.returned 0, [], router.setMap d ((router.reqMap d).erase key)⟩
  else ⟨.returned 0, [], router⟩

def MsgRouter.next (router : MsgRouter) (after : Option Int32) : Option (Int32 × PendingReq) :=
  (router.reqMap d).toList.find? fun entry =>
    match after with
    | none => true
    | some key => decide (key < entry.1)

/-- `Iterate`, in key order over a map that the visits change. There are fewer
turns than keys, so the fuel is never used up. -/
def iterate : Nat → Option Int32 → MsgRouter → Reply
  | 0, _, router => ⟨.fault, [], router⟩
  | fuel + 1, after, router =>
    match router.next d after with
    | none => ⟨.returned 0, [], router⟩
    | some (key, r) =>
      let visit := reTxCheck node d matching key r router
      match visit.outcome with
      | .returned _ =>
        let rest := iterate fuel (some key) visit.router
        { rest with effects := visit.effects ++ rest.effects }
      | .thrown _ | .escaped | .fault => visit

def reTransmitCheck (router : MsgRouter) : Reply := iterate node d matching (2 ^ 32 + 1) none router

/-- What `ReTransmitEvent` looks for: the requests sent to a peer, or the expired ones. -/
def reTxMatch (peer : Option PeerRef) (r : PendingReq) : Bool :=
  match peer with
  | some p => r.dest == some p
  | none => decide (r.reTxExpireTime < node.now)

/-- `DiameterMsgRouter::ReTransmitEvent`. -/
def reTransmitEvent (peer : Option PeerRef) (router : MsgRouter) : Reply :=
  let forward := reTransmitCheck node .dcForward (reTxMatch node peer) router
  match forward.outcome with
  | .returned _ =>
    let routed := reTransmitCheck node .dcRouted (reTxMatch node peer) forward.router
    { routed with effects := forward.effects ++ routed.effects }
  | .thrown _ | .escaped | .fault => forward

end Retransmission

end OpenDiameter.Router
