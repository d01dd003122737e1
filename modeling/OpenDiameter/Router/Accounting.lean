import OpenDiameter.Router.Courses

/-! What became of a request from a peer: one of four fates, unless realm routing
went by a realm that delivery does not look at, or a redirect gave up.
-/

set_option autoImplicit false

namespace OpenDiameter.Router

open Foundation OpenDiameter.Parser

inductive Fate where
  | handled | forwarded | refused | answered
  deriving DecidableEq, Repr

variable (node : Node) (msg : DiameterMsg) (p : PeerRef) (router : MsgRouter)

def Fate.Happened (reply : Reply) : Fate → Prop
  | handled => ∃ m, Effect.request .hLocal m ∈ reply.effects
  | forwarded => ∃ q m d r, Effect.sent q m ∈ reply.effects ∧ m.hdr.r = true ∧
      departure node msg router = some (d, m.hdr.hh) ∧ reply.router.pending d m.hdr.hh = some r ∧ r.source = some p ∧ r.origHH = msg.hdr.hh
  | refused => ∃ m, Effect.request .hProxy m ∈ reply.effects ∧ node.proxyRequest m ≠ 0
  | answered => ∃ m, Effect.sent p m ∈ reply.effects ∧ m.hdr.r = false ∧ m.hdr.e = true ∧
      m.hdr.hh = msg.hdr.hh

def Accounted (reply : Reply) : Prop :=
  (∃ code, reply.outcome = .returned code) ∧ ∃ fate, fate.Happened node msg p router reply ∧
    ∀ other : Fate, other.Happened node msg p router reply → other = fate

structure Deliverable : Prop where
  realm : ByRealm node msg → msg.destRealm ≠ none
  vendorId : ByRealm node msg → ∀ route, msg.destRealm.bind node.route = some route →
    route.action = .actionRedirect → redirectedApplication msg route ≠ none
  own : ∀ d id, departure node msg router = some (d, id) → ∀ r, router.pending d id = some r →
    r.source = some p ∧ r.origHH = msg.hdr.hh

section Fates

variable {node msg p router}

theorem accounted_handled (after : MsgRouter) :
    Accounted node msg p router ⟨.returned 0, [.request .hLocal msg], after⟩ := by
  refine ⟨⟨0, rfl⟩, .handled, ⟨msg, List.mem_singleton.mpr rfl⟩, ?_⟩
  intro other happened
  cases other <;> simp [Fate.Happened] at happened ⊢

theorem accounted_refused {m : DiameterMsg} (refuses : node.proxyRequest m ≠ 0) (after : MsgRouter) :
    Accounted node msg p router ⟨.returned 0, [.request .hProxy m], after⟩ := by
  refine ⟨⟨0, rfl⟩, .refused, ⟨m, List.mem_singleton.mpr rfl, refuses⟩, ?_⟩
  intro other happened
  cases other <;> simp [Fate.Happened] at happened ⊢

theorem accounted_answered {answer : DiameterMsg} (header : answer.hdr = { msg.hdr with e := true, r := false })
    (after : MsgRouter) : Accounted node msg p router ⟨.returned 0, [.sent p answer], after⟩ := by
  refine ⟨⟨0, rfl⟩, .answered, ⟨answer, List.mem_singleton.mpr rfl, ?_⟩, ?_⟩
  · rw [header]
    exact ⟨rfl, rfl, rfl⟩
  · intro other happened
    cases other with
    | answered => rfl
    | handled => simp [Fate.Happened] at happened
    | refused => simp [Fate.Happened] at happened
    | forwarded =>
      obtain ⟨q, m, d, r, sent, request, -⟩ := happened
      cases List.mem_singleton.mp sent
      rw [header] at request
      cases request

theorem accounted_forwarded_iff {q : PeerRef} {m : DiameterMsg} {before : List Effect} {d : DeliveryNode}
    {after : MsgRouter} (request : m.hdr.r = true)
    (consent : ∀ effect ∈ before, ∃ shown, effect = .request .hProxy shown ∧ node.proxyRequest shown = 0)
    (leaves : departure node msg router = some (d, m.hdr.hh)) :
    Accounted node msg p router ⟨.returned 0, before ++ [.sent q m], after⟩ ↔
      ∃ r, after.pending d m.hdr.hh = some r ∧ r.source = some p ∧ r.origHH = msg.hdr.hh := by
  -- What came before was only shown to the proxy handler, so that no other fate happened.
  have only : ∀ fate : Fate, fate.Happened node msg p router ⟨.returned 0, before ++ [.sent q m], after⟩ →
      fate = .forwarded := by
    intro fate happened
    cases fate with
    | forwarded => rfl
    | handled =>
      obtain ⟨shown, mem⟩ := happened
      rcases List.mem_append.mp mem with early | late
      · obtain ⟨_, same, -⟩ := consent _ early
        cases same
      · cases List.mem_singleton.mp late
    | refused =>
      obtain ⟨shown, mem, refuses⟩ := happened
      rcases List.mem_append.mp mem with early | late
      · obtain ⟨_, same, agrees⟩ := consent _ early
        cases same
        exact absurd agrees refuses
      · cases List.mem_singleton.mp late
    | answered =>
      obtain ⟨answer, mem, isAnswer, -⟩ := happened
      rcases List.mem_append.mp mem with early | late
      · obtain ⟨_, same, -⟩ := consent _ early
        cases same
      · cases List.mem_singleton.mp late
        rw [request] at isAnswer
        cases isAnswer
  constructor
  · rintro ⟨-, fate, happened, -⟩
    cases only fate happened
    obtain ⟨q', m', d', r, mem, -, departs, found, source, id⟩ := happened
    rcases List.mem_append.mp mem with early | late
    · obtain ⟨_, same, -⟩ := consent _ early
      cases same
    · cases List.mem_singleton.mp late
      cases Option.some.inj (leaves.symm.trans departs)
      exact ⟨r, found, source, id⟩
  · rintro ⟨r, found, source, id⟩
    exact ⟨⟨0, rfl⟩, .forwarded,
      ⟨q, m, d, r, List.mem_append_right _ (List.mem_singleton.mpr rfl), request, leaves, found, source, id⟩, only⟩

end Fates

section Forwarding

variable {node msg p router}

theorem accounted_resent_iff {d : DeliveryNode} {q : PeerRef} (request : msg.hdr.r = true)
    (leaves : departure node msg router = some (d, msg.hdr.hh)) (queued : resends msg router d = true)
    (opened : node.isOpen q = true) :
    Accounted node msg p router (resend node d msg (some q) router) ↔
      ∀ r, router.pending d msg.hdr.hh = some r → r.source = some p ∧ r.origHH = msg.hdr.hh := by
  obtain ⟨r, found⟩ := Option.isSome_iff_exists.mp (Bool.and_eq_true_iff.mp queued).2
  have step := @accounted_forwarded_iff node msg p router q msg [] d
    (router.store d msg.hdr.hh msg) request (by simp) leaves
  rw [resend_open opened, ← List.nil_append [Effect.sent q msg], step, pending_store]
  simp [found]

theorem relayedEntry_own_iff {d : DeliveryNode} {m : DiameterMsg} (dest : Option PeerRef)
    (header : m.hdr = msg.hdr) :
    ((relayedEntry node d m (some p) dest router).source = some p ∧
        (relayedEntry node d m (some p) dest router).origHH = msg.hdr.hh) ↔
      ∀ r, router.pending d (node.hopByHopGen router.hopByHop) = some r →
        r.source = some p ∧ r.origHH = msg.hdr.hh := by
  by_cases above : 0 < (node.hopByHopGen router.hopByHop).toInt32
  · cases found : router.pending d (node.hopByHopGen router.hopByHop) <;>
      simp [relayedEntry, above, found, header]
  · cases found : router.pending d (node.hopByHopGen router.hopByHop) <;>
      simp [relayedEntry, above, found, header]

theorem accounted_relayed_iff {d : DeliveryNode} {m : DiameterMsg} {q : PeerRef} (before : List Effect)
    (request : msg.hdr.r = true) (header : m.hdr = msg.hdr)
    (consent : ∀ effect ∈ before, ∃ shown, effect = .request .hProxy shown ∧ node.proxyRequest shown = 0)
    (leaves : departure node msg router = some (d, node.hopByHopGen router.hopByHop))
    (opened : node.isOpen q = true) :
    Accounted node msg p router
        { relay node d m (some p) (some q) router with
          effects := before ++ (relay node d m (some p) (some q) router).effects } ↔
      ∀ r, router.pending d (node.hopByHopGen router.hopByHop) = some r →
        r.source = some p ∧ r.origHH = msg.hdr.hh := by
  obtain ⟨after, done, -, maps⟩ := relay_open opened d m p router
  have isRequest : (m.setHopByHop (node.hopByHopGen router.hopByHop)).hdr.r = true := by
    rw [setHopByHop_r, header, request]
  rw [done, ← relayedEntry_own_iff (some q) header, accounted_forwarded_iff isRequest consent leaves,
    setHopByHop_hh, maps]
  simp

end Forwarding

section Losses

variable {node msg p router}

variable (p router) in
theorem requestMsg_byRealm (realm : ByRealm node msg) :
    ∃ dest, requestMsg node msg (some p) router = dcRoutedRequestMsg node msg (some p) dest router := by
  obtain ⟨notLocal, notForwarded, dest, found⟩ := realm
  refine ⟨dest, ?_⟩
  rw [requestMsg, notLocal]
  dsimp only
  rw [notForwarded]
  dsimp only
  rw [found]

/-- Delivery throws where only the User-Name gave a realm. -/
theorem requestMsg_escapes (realm : ByRealm node msg) (absent : msg.destRealm = none) :
    requestMsg node msg (some p) router = ⟨.escaped, [], router⟩ := by
  obtain ⟨dest, routed⟩ := requestMsg_byRealm p router realm
  rw [routed, dcRoutedRequestMsg, absent]
  rfl

/-- The redirect agent gives up on a group without a Vendor-Id. -/
theorem requestMsg_dropped (complete : msg.ProxyInfoComplete) (realm : ByRealm node msg) {route : RouteEntry}
    (routed : msg.destRealm.bind node.route = some route) (redirect : route.action = .actionRedirect)
    (unsettled : redirectedApplication msg route = none) :
    requestMsg node msg (some p) router = ⟨.returned (-1), [], router⟩ := by
  obtain ⟨dest, chain⟩ := requestMsg_byRealm p router realm
  obtain ⟨answer, generated, -⟩ := generateError_spec node.identity node.realm codeRedirectIndication complete
  rw [chain, dcRoutedRequestMsg, routed]
  simp only [redirect]
  rw [redirectRequest, generated]
  simp only [unsettled]

end Losses

/-- A request from a connected peer has exactly one fate, and no exception
escapes, if and only if it is deliverable. -/
theorem request_accounted_iff (node : Node) (msg : DiameterMsg) (p : PeerRef) (router : MsgRouter)
    (request : msg.hdr.r = true) (complete : msg.ProxyInfoComplete) (connected : node.isOpen p = true) :
    Accounted node msg p router (requestMsg node msg (some p) router) ↔ Deliverable node msg p router := by
  constructor
  · intro accounted
    constructor
    -- Without a realm the exception leaves the router, and nothing is returned.
    case realm =>
      intro realm absent
      rw [requestMsg_escapes realm absent] at accounted
      obtain ⟨⟨code, returned⟩, -⟩ := accounted
      cases returned
    case vendorId =>
      intro realm route routed redirect unsettled
      rw [requestMsg_dropped complete realm routed redirect unsettled] at accounted
      obtain ⟨-, fate, happened, -⟩ := accounted
      cases fate <;> simp [Fate.Happened] at happened
    -- The message leaves to one peer, whichever course it takes.
    case own =>
      intro d id leaves
      have course := requestMsg_course node msg p router
      generalize requestMsg node msg (some p) router = reply at accounted course
      cases course with
      | resent d' q departs queued other opened =>
        cases Option.some.inj (departs.symm.trans leaves)
        exact (accounted_resent_iff request leaves queued opened).mp accounted
      | relayed d' m q departs other header opened =>
        cases Option.some.inj (departs.symm.trans leaves)
        exact (accounted_relayed_iff [] request header (by simp) leaves opened).mp accounted
      | proxied m q departs agrees header opened =>
        cases Option.some.inj (departs.symm.trans leaves)
        exact (accounted_relayed_iff [.request .hProxy m] request header (by simp [agrees]) leaves
          opened).mp accounted
      | handled _ stays => cases stays.symm.trans leaves
      | refused _ stays => cases stays.symm.trans leaves
      | answered _ stays => cases stays.symm.trans leaves
      | unanswerable stays => cases stays.symm.trans leaves
      | escaped stays => cases stays.symm.trans leaves
      | dropped _ stays => cases stays.symm.trans leaves
  -- Every course is accounted for, given the conditions.
  · intro deliverable
    have course := requestMsg_course node msg p router
    generalize requestMsg node msg (some p) router = reply at course
    cases course with
    | handled dest stays => exact accounted_handled _
    | resent d q leaves queued other opened =>
      exact (accounted_resent_iff request leaves queued opened).mpr (deliverable.own _ _ leaves)
    | relayed d m q leaves other header opened =>
      exact (accounted_relayed_iff [] request header (by simp) leaves opened).mpr
        (deliverable.own _ _ leaves)
    | proxied m q leaves agrees header opened =>
      exact (accounted_relayed_iff [.request .hProxy m] request header (by simp [agrees]) leaves
        opened).mpr (deliverable.own _ _ leaves)
    | refused m stays refuses => exact accounted_refused refuses _
    | answered answer stays header =>
      rw [send_open connected]
      exact accounted_answered header _
    | unanswerable stays incomplete => exact absurd complete incomplete
    | escaped stays realm absent => exact absurd absent (deliverable.realm realm)
    | dropped route stays realm routed redirect unsettled =>
      exact absurd unsettled (deliverable.vendorId realm route routed redirect)

section Sample

/-- A relay `n` with a default route for application 7 and four open peers, of
which peer 1 is the server `b`. -/
def sampleRelay : Node where
  identity := [0x6e]
  realm := [0x72]
  authAppIdLst := []
  acctAppIdLst := []
  vendorSpecificId := []
  retxInterval := 8
  retxMaxCount := 10
  peerTable := [([0x61], 0), ([0x62], 1), ([0x63], 2), ([0x64], 3)]
  isOpen p := decide (p < 4)
  running p := decide (p < 4)
  openRuns _ opened := opened
  routes := []
  defaultRoute := some ⟨[0x2a], .actionRelay, 0, [⟨7, 0, [[0x62]], by decide⟩]⟩
  proxyHandler _ := none
  localSession _ := false
  hopByHopGen n := UInt32.ofNat (n + 100)
  endToEndGen n := UInt32.ofNat (n + 200)
  now := 0

/-- A request for application 7 with hop-by-hop id `hh` and these AVPs. -/
def sampleRequest (hh : UInt32) (acl : AvpContainerList) : DiameterMsg :=
  { hdr := { MsgHeader.blank with r := true, p := true, code := 300, appId := 7, hh := hh }, acl := acl }

def strayRequest : DiameterMsg :=
  sampleRequest 5 [avpWidget nameDestHost [.diamId [0x78]], avpWidget nameUserName [.utf8String [0x75, 0x40, 0x72]]]

def realmRequest : DiameterMsg :=
  sampleRequest 5 [avpWidget nameDestHost [.diamId [0x78]], avpWidget nameDestRealm [.diamId [0x7a]]]

end Sample

theorem request_accounted_iff_realm :
    Accounted sampleRelay realmRequest 0 .construct
      (requestMsg sampleRelay realmRequest (some 0) .construct) := by
  refine (request_accounted_iff sampleRelay realmRequest 0 .construct rfl ?_ rfl).mpr ⟨?_, ?_, ?_⟩
  · intro proxyInfo present
    cases present
  · intro _ absent
    cases absent
  · intro _ route routed redirect
    cases routed
    cases redirect
  · intro d id leaves r found
    cases leaves
    cases found

/-- The realm of the User-Name gets the request as far as delivery, which throws. -/
theorem stray_request_lost :
    sampleRelay.isOpen 0 = true ∧ strayRequest.hdr.r = true ∧ strayRequest.ProxyInfoComplete ∧
      requestMsg sampleRelay strayRequest (some 0) .construct = ⟨.escaped, [], .construct⟩ ∧
      ¬ Accounted sampleRelay strayRequest 0 .construct
        (requestMsg sampleRelay strayRequest (some 0) .construct) := by
  have escapes : requestMsg sampleRelay strayRequest (some 0) .construct = ⟨.escaped, [], .construct⟩ := rfl
  refine ⟨rfl, rfl, ?_, escapes, ?_⟩
  · intro proxyInfo present
    cases present
  · rw [escapes]
    rintro ⟨⟨code, returned⟩, -⟩
    cases returned

end OpenDiameter.Router
