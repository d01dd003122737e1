import OpenDiameter.Router.Delivery

/-! What `RequestMsg` can do with a request from a peer, said once: every course
that a request takes, with the tests it passed on the way.
-/

set_option autoImplicit false

namespace OpenDiameter.Router

open Foundation OpenDiameter.Parser

section Lookups

variable {node : Node} {msg : DiameterMsg}

theorem openPeer_open {peername : Octets} {q : PeerRef} (found : node.openPeer peername = some q) :
    node.isOpen q = true := (Option.filter_eq_some_iff.mp found).2

theorem rcForwardedLookup_success {dest : Option PeerRef} (found : rcForwardedLookup node msg = .success dest) :
    ∃ q, dest = some q ∧ node.isOpen q = true := by
  unfold rcForwardedLookup at found
  split at found
  · split at found
    case h_1 q opened =>
      cases found
      exact ⟨q, rfl, openPeer_open opened⟩
    case h_2 => cases found
  · cases found

theorem rcRoutedLookup_success {dest : Option PeerRef} (found : rcRoutedLookup node msg = .success dest) :
    ∃ route app, msg.lookupRealm.bind node.route = some route ∧ routedApplication msg route = some app ∧
      (route.action ≠ .actionRedirect → ∃ q, dest = some q ∧ node.isOpen q = true) := by
  unfold rcRoutedLookup at found
  split at found
  · cases found
  case h_2 route routed =>
    split at found
    · cases found
    case h_2 app settled =>
      refine ⟨route, app, routed, settled, ?_⟩
      intro other
      rw [if_neg other] at found
      split at found
      case h_1 q first =>
        cases found
        obtain ⟨server, -, opened⟩ := List.exists_of_findSome?_eq_some first
        exact ⟨q, rfl, openPeer_open opened⟩
      case h_2 => cases found

theorem route_of_destRealm {realm : Octets} (present : msg.destRealm = some realm) :
    msg.lookupRealm.bind node.route = msg.destRealm.bind node.route := by
  rw [DiameterMsg.lookupRealm, present]

end Lookups

section Tests

variable (node : Node) (msg : DiameterMsg) (router : MsgRouter)

def ByRealm : Prop :=
  rcLocalLookup node msg = .nextChain ∧ rcForwardedLookup node msg = .nextChain ∧
    ∃ dest, rcRoutedLookup node msg = .success dest

def routedDeparture (action : RouteAction) : Option (DeliveryNode × UInt32) :=
  let through (m : DiameterMsg) : Option (DeliveryNode × UInt32) :=
    if action = .actionProxy ∧ node.proxyRequest m ≠ 0 then none
    else some (.dcRouted, node.hopByHopGen router.hopByHop)
  if foreignOrigin node msg then
    if resends msg router .dcRouted then some (.dcRouted, msg.hdr.hh)
    else if loopDetection node msg then none
    else through (appendRouteRecord node msg)
  else through msg

def departure : Option (DeliveryNode × UInt32) :=
  match rcLocalLookup node msg with
  | .success _ => none
  | .nextChain =>
    match rcForwardedLookup node msg with
    | .success _ =>
      if resends msg router .dcForward then some (.dcForward, msg.hdr.hh)
      else if loopDetection node msg then none
      else some (.dcForward, node.hopByHopGen router.hopByHop)
    | .nextChain =>
      match rcRoutedLookup node msg, (msg.destRealm.bind node.route).map RouteEntry.action with
      | .success _, some .actionRelay => routedDeparture node msg router .actionRelay
      | .success _, some .actionProxy => routedDeparture node msg router .actionProxy
      | _, _ => none

end Tests

inductive Course (node : Node) (msg : DiameterMsg) (p : PeerRef) (router : MsgRouter) : Reply → Prop where
  | handled (dest : Option PeerRef) : departure node msg router = none →
      Course node msg p router
        ⟨.returned 0, [.request .hLocal msg], router.add node .dcLocal msg.hdr.hh msg (some p) dest⟩
  | resent (d : DeliveryNode) (q : PeerRef) : departure node msg router = some (d, msg.hdr.hh) →
      resends msg router d = true → d ≠ .dcLocal → node.isOpen q = true →
      Course node msg p router (resend node d msg (some q) router)
  | relayed (d : DeliveryNode) (m : DiameterMsg) (q : PeerRef) :
      departure node msg router = some (d, node.hopByHopGen router.hopByHop) →
      d ≠ .dcLocal → m.hdr = msg.hdr → node.isOpen q = true →
      Course node msg p router (relay node d m (some p) (some q) router)
  | proxied (m : DiameterMsg) (q : PeerRef) :
      departure node msg router = some (.dcRouted, node.hopByHopGen router.hopByHop) →
      node.proxyRequest m = 0 → m.hdr = msg.hdr → node.isOpen q = true →
      Course node msg p router
        { relay node .dcRouted m (some p) (some q) router with
          effects := .request .hProxy m :: (relay node .dcRouted m (some p) (some q) router).effects }
  | refused (m : DiameterMsg) : departure node msg router = none → node.proxyRequest m ≠ 0 →
      Course node msg p router ⟨.returned 0, [.request .hProxy m], router⟩
  | answered (answer : DiameterMsg) : departure node msg router = none →
      answer.hdr = { msg.hdr with e := true, r := false } →
      Course node msg p router (node.send (some p) answer router)
  | unanswerable : departure node msg router = none → ¬ msg.ProxyInfoComplete →
      Course node msg p router ⟨.fault, [], router⟩
  | escaped : departure node msg router = none → ByRealm node msg → msg.destRealm = none →
      Course node msg p router ⟨.escaped, [], router⟩
  | dropped (route : RouteEntry) : departure node msg router = none → ByRealm node msg →
      msg.destRealm.bind node.route = some route → route.action = .actionRedirect →
      redirectedApplication msg route = none →
      Course node msg p router ⟨.returned (-1), [], router⟩

section Inversion

variable {node : Node} {msg : DiameterMsg} {p : PeerRef} {router : MsgRouter}

theorem answerError_course (rcode : UInt32) (stays : departure node msg router = none) :
    Course node msg p router (answerError node msg rcode (some p) router) := by
  unfold answerError
  split
  case h_1 answer generated => exact .answered answer stays (generateError_returned generated)
  all_goals
    rename_i failed
    refine .unanswerable stays ?_
    intro complete
    obtain ⟨answer, generated, -⟩ := generateError_spec node.identity node.realm rcode complete
    rw [generated] at failed
    cases failed

theorem dcForwardRequestMsg_course {dest : Option PeerRef} (notLocal : rcLocalLookup node msg = .nextChain)
    (found : rcForwardedLookup node msg = .success dest) :
    Course node msg p router (dcForwardRequestMsg node msg (some p) dest router) := by
  obtain ⟨q, rfl, opened⟩ := rcForwardedLookup_success found
  unfold dcForwardRequestMsg
  by_cases queued : resends msg router .dcForward = true
  · rw [if_pos queued]
    refine .resent .dcForward q ?_ queued (by decide) opened
    simp only [departure, notLocal, found, queued, ↓reduceIte]
  · rw [if_neg queued]
    cases loops : loopDetection node msg with
    | true =>
      refine answerError_course codeLoopDetected ?_
      simp only [departure, notLocal, found, queued, loops, ↓reduceIte, Bool.false_eq_true]
    | false =>
      refine .relayed .dcForward msg q ?_ (by decide) rfl opened
      simp only [departure, notLocal, found, queued, loops, ↓reduceIte, Bool.false_eq_true]

theorem redirectRequest_course {route : RouteEntry} (realm : ByRealm node msg)
    (routed : msg.destRealm.bind node.route = some route) (redirect : route.action = .actionRedirect) :
    Course node msg p router (redirectRequest node msg (some p) router route) := by
  have stays : departure node msg router = none := by
    obtain ⟨notLocal, notForwarded, dest, found⟩ := realm
    simp only [departure, notLocal, notForwarded, found, routed, redirect, Option.map_some]
  unfold redirectRequest
  split
  case h_1 answer generated =>
    have header := generateError_returned generated
    split
    case h_1 dropped => exact .dropped route stays realm routed redirect dropped
    case h_2 => exact .answered answer stays header
    case h_3 => exact .answered _ stays header
  all_goals
    rename_i failed
    refine .unanswerable stays ?_
    intro complete
    obtain ⟨answer, generated, -⟩ :=
      generateError_spec node.identity node.realm codeRedirectIndication complete
    rw [generated] at failed
    cases failed

theorem proxyThenRelay_course {action : RouteAction} {m : DiameterMsg} {q : PeerRef} (header : m.hdr = msg.hdr)
    (opened : node.isOpen q = true)
    (leaves : departure node msg router =
      if action = .actionProxy ∧ node.proxyRequest m ≠ 0 then none
      else some (.dcRouted, node.hopByHopGen router.hopByHop)) :
    Course node msg p router (proxyThenRelay node m (some p) (some q) router action) := by
  unfold proxyThenRelay
  by_cases proxy : action = .actionProxy
  · rw [if_pos proxy]
    by_cases refuses : node.proxyRequest m ≠ 0
    · rw [if_pos ⟨proxy, refuses⟩] at leaves
      rw [if_pos refuses]
      exact .refused m leaves refuses
    · rw [if_neg fun both => refuses both.2] at leaves
      rw [if_neg refuses]
      exact .proxied m q leaves (not_ne_iff.mp refuses) header opened
  · rw [if_neg fun both => proxy both.1] at leaves
    rw [if_neg proxy]
    exact .relayed .dcRouted m q leaves (by decide) header opened

theorem relayOrProxy_course {action : RouteAction} {q : PeerRef} (opened : node.isOpen q = true)
    (leaves : departure node msg router = routedDeparture node msg router action) :
    Course node msg p router (relayOrProxy node msg (some p) (some q) router action) := by
  unfold relayOrProxy
  unfold routedDeparture at leaves
  by_cases foreign : foreignOrigin node msg = true
  · rw [if_pos foreign] at leaves ⊢
    by_cases queued : resends msg router .dcRouted = true
    · rw [if_pos queued] at leaves ⊢
      exact .resent .dcRouted q leaves queued (by decide) opened
    · rw [if_neg queued] at leaves ⊢
      by_cases loops : loopDetection node msg = true
      · rw [if_pos loops] at leaves ⊢
        exact answerError_course codeLoopDetected leaves
      · rw [if_neg loops] at leaves ⊢
        exact proxyThenRelay_course (add_hdr _ _) opened leaves
  · rw [if_neg foreign] at leaves ⊢
    exact proxyThenRelay_course rfl opened leaves

theorem dcRoutedRequestMsg_course {dest : Option PeerRef} (notLocal : rcLocalLookup node msg = .nextChain)
    (notForwarded : rcForwardedLookup node msg = .nextChain) (found : rcRoutedLookup node msg = .success dest) :
    Course node msg p router (dcRoutedRequestMsg node msg (some p) dest router) := by
  have realm : ByRealm node msg := ⟨notLocal, notForwarded, dest, found⟩
  obtain ⟨looked, app, byLookup, settled, opens⟩ := rcRoutedLookup_success found
  unfold dcRoutedRequestMsg
  cases routed : msg.destRealm.bind node.route with
  | none =>
    -- the realm came from the User-Name: with a Destination-Realm there would be a route
    have absent : msg.destRealm = none := by
      cases present : msg.destRealm with
      | none => rfl
      | some name =>
        rw [route_of_destRealm present, routed] at byLookup
        cases byLookup
    refine .escaped ?_ realm absent
    simp only [departure, notLocal, notForwarded, found, routed, Option.map_none]
  | some route =>
    have same : looked = route := by
      obtain ⟨name, present, -⟩ := Option.bind_eq_some_iff.mp routed
      rw [route_of_destRealm present, routed] at byLookup
      exact (Option.some.inj byLookup).symm
    subst same
    cases action : looked.action with
    | actionLocal =>
      simp only [action]
      refine .handled dest ?_
      simp only [departure, notLocal, notForwarded, found, routed, action, Option.map_some]
    | actionRedirect =>
      simp only [action]
      exact redirectRequest_course realm routed action
    | actionRelay | actionProxy =>
      obtain ⟨q, rfl, opened⟩ := opens (by rw [action]; decide)
      simp only [action]
      apply relayOrProxy_course opened
      simp only [departure, notLocal, notForwarded, found, routed, action, Option.map_some]

theorem requestMsg_course (node : Node) (msg : DiameterMsg) (p : PeerRef) (router : MsgRouter) :
    Course node msg p router (requestMsg node msg (some p) router) := by
  unfold requestMsg
  cases notLocal : rcLocalLookup node msg with
  | success dest =>
    refine .handled dest ?_
    simp only [departure, notLocal]
  | nextChain =>
    cases notForwarded : rcForwardedLookup node msg with
    | success dest => exact dcForwardRequestMsg_course notLocal notForwarded
    | nextChain =>
      cases found : rcRoutedLookup node msg with
      | success dest => exact dcRoutedRequestMsg_course notLocal notForwarded found
      | nextChain =>
        refine answerError_course codeUnableToDeliver ?_
        simp only [departure, notLocal, notForwarded, found]

end Inversion

end OpenDiameter.Router
