import OpenDiameter.Router.Accounting

/-! Redirect indications: the request that one answers is never pending afterwards,
and its originator is not answered either.
-/

set_option autoImplicit false

namespace OpenDiameter.Router

open Foundation OpenDiameter.Parser

section Agent

variable (node : Node) (p : Option DiameterMsg) (router : MsgRouter)

/-- The redirect agent sends at most the stored request, and leaves the maps as
they are. -/
theorem redirectAnswer_spec (hosts : List DiameterUri) :
    (redirectAnswer node p router hosts).router = router ∧
      ∀ effect ∈ (redirectAnswer node p router hosts).effects,
        ∃ q msg host, effect = .sent q (msg.redirectTo host) ∧ p = some msg := by
  induction hosts with
  | nil => simp [redirectAnswer]
  | cons host hosts ih =>
    unfold redirectAnswer
    cases opened : node.openPeer host.fqdn with
    | none => exact ih
    | some q =>
      cases p with
      | none => simp
      | some msg =>
        dsimp only
        rw [send_open (openPeer_open opened)]
        refine ⟨rfl, ?_⟩
        intro effect sent
        cases List.mem_singleton.mp sent
        exact ⟨q, msg, host.fqdn, rfl, rfl⟩

theorem redirectTo_r (msg : DiameterMsg) (fqdn : Octets) : (msg.redirectTo fqdn).hdr.r = msg.hdr.r := by
  unfold DiameterMsg.redirectTo
  split <;> rfl

end Agent

structure Meets (router : MsgRouter) (msg : DiameterMsg) (d : DeliveryNode) (r : PendingReq) : Prop where
  found : router.pending d msg.hdr.hh = some r
  afterLocal : d ≠ .dcLocal → router.pending .dcLocal msg.hdr.hh = none
  afterForward : d = .dcRouted → router.pending .dcForward msg.hdr.hh = none

theorem answerMsg_meets (node : Node) {router : MsgRouter} {msg : DiameterMsg} {d : DeliveryNode}
    {r : PendingReq} (meets : Meets router msg d r) :
    answerMsg node msg router =
      process node d (msg.setHopByHop r.origHH) r.reqMessage r.source (router.delete d msg.hdr.hh) := by
  unfold answerMsg
  cases d with
  | dcLocal => simp only [answerChain, meets.found]
  | dcForward => simp only [answerChain, meets.found, meets.afterLocal (by decide)]
  | dcRouted => simp only [answerChain, meets.found, meets.afterLocal (by decide), meets.afterForward rfl]

section Preservation

variable (router : MsgRouter) (msg : DiameterMsg) (d : DeliveryNode) (r : PendingReq) (reply : Reply)

def StillPending : Prop :=
  (reply.router.pending d msg.hdr.hh).isSome = true ∨
    ∃ d' id r', reply.router.pending d' id = some r' ∧ router.pending d' id = none ∧
      r'.source = r.source ∧ r'.origHH = r.origHH

def ErrorAnswered : Prop :=
  match r.source with
  | some p => ∃ a, Effect.sent p a ∈ reply.effects ∧ a.hdr.r = false ∧ a.hdr.e = true ∧ a.hdr.hh = r.origHH
  | none => ∃ a, Effect.answer .hError a ∈ reply.effects

def Preserved (node : Node) : Prop :=
  (∃ host q m, host ∈ msg.redirectHosts ∧ node.peer host.fqdn = some q ∧ Effect.sent q m ∈ reply.effects ∧
    StillPending router msg d r reply) ∨ ErrorAnswered r reply

end Preservation

theorem redirectAnswer_not_preserved (node : Node) {router : MsgRouter} {msg : DiameterMsg} {d : DeliveryNode}
    {r : PendingReq} (stored : ∀ m, r.reqMessage = some m → m.hdr.r = true) (hosts : List DiameterUri) :
    ¬ Preserved router msg d r
      (redirectAnswer node r.reqMessage (router.delete d msg.hdr.hh) hosts) node := by
  obtain ⟨maps, sends⟩ := redirectAnswer_spec node r.reqMessage (router.delete d msg.hdr.hh) hosts
  rintro (⟨-, -, -, -, -, -, pending⟩ | answered)
  · -- the entry is gone, and the maps have no entry that they did not have before
    rcases pending with kept | ⟨d', id, r', found, fresh, -⟩
    · rw [maps, pending_delete] at kept
      simp at kept
    · rw [maps, pending_delete, fresh] at found
      simp at found
  · unfold ErrorAnswered at answered
    cases source : r.source with
    | none =>
      rw [source] at answered
      obtain ⟨a, given⟩ := answered
      obtain ⟨_, _, _, same, -⟩ := sends _ given
      cases same
    | some p =>
      rw [source] at answered
      obtain ⟨a, given, isAnswer, -⟩ := answered
      obtain ⟨_, m, _, same, own⟩ := sends _ given
      cases same
      rw [redirectTo_r, stored m own] at isAnswer
      cases isAnswer

theorem answerMsg_redirected (node : Node) {router : MsgRouter} {msg : DiameterMsg} {d : DeliveryNode}
    {r : PendingReq} (meets : Meets router msg d r) (redirected : msg.isRedirected = true) :
    answerMsg node msg router =
      redirectAnswer node r.reqMessage (router.delete d msg.hdr.hh) msg.redirectHosts := by
  have kept : (msg.setHopByHop r.origHH).isRedirected = true := redirected
  rw [answerMsg_meets node meets]
  cases d <;> simp only [process, dcLocalProcess, dcRoutedProcess, kept, ↓reduceIte] <;> rfl

/-- No pending request survives a redirect indication. -/
theorem redirect_loses_transaction (node : Node) (router : MsgRouter) (msg : DiameterMsg) (d : DeliveryNode)
    (r : PendingReq) (meets : Meets router msg d r) (redirected : msg.isRedirected = true)
    (stored : ∀ m, r.reqMessage = some m → m.hdr.r = true) :
    ¬ Preserved router msg d r (answerMsg node msg router) node := by
  rw [answerMsg_redirected node meets redirected]
  exact redirectAnswer_not_preserved node stored msg.redirectHosts

section Sample

def relayingRouter : MsgRouter :=
  (requestMsg sampleRelay realmRequest (some 0) .construct).router

def relayedRequest : PendingReq :=
  { origHH := 5, source := some 0, dest := some 1, reTxExpireTime := 8, reTxCount := 0
    reqMessage := some ((appendRouteRecord sampleRelay realmRequest).setHopByHop 100) }

def redirectIndication : DiameterMsg :=
  { hdr := { MsgHeader.blank with e := true, p := true, code := 300, appId := 7, hh := 100 }
    acl := [ avpWidget nameResultCode [.uinteger32 codeRedirectIndication],
             avpWidget nameRedirectHost [.diamUri ⟨[0x63], none, .tcp, .diameter, .aaa⟩] ] }

theorem redirectIndication_meets : Meets relayingRouter redirectIndication .dcRouted relayedRequest where
  found := rfl
  afterLocal _ := rfl
  afterForward _ := rfl

theorem redirect_loses_transaction_sample :
    ¬ Preserved relayingRouter redirectIndication .dcRouted relayedRequest
      (answerMsg sampleRelay redirectIndication relayingRouter) sampleRelay :=
  redirect_loses_transaction sampleRelay relayingRouter redirectIndication .dcRouted relayedRequest
    redirectIndication_meets rfl (fun _ own => by cases own; rfl)

/-- The request goes to peer 2, and the answer from there is rejected: peer 0 never
hears of it. -/
theorem redirected_request_forgotten :
    Meets relayingRouter redirectIndication .dcRouted relayedRequest ∧
      redirectIndication.isRedirected = true ∧
      answerMsg sampleRelay { redirectIndication with acl := [] }
          (answerMsg sampleRelay redirectIndication relayingRouter).router =
        ⟨.returned 0, [], (answerMsg sampleRelay redirectIndication relayingRouter).router⟩ ∧
      ¬ Preserved relayingRouter redirectIndication .dcRouted relayedRequest
        (answerMsg sampleRelay redirectIndication relayingRouter) sampleRelay := by
  refine ⟨redirectIndication_meets, rfl, rfl, ?_⟩
  rw [answerMsg_redirected sampleRelay redirectIndication_meets rfl]
  apply redirectAnswer_not_preserved
  intro m own
  cases own
  rfl

end Sample

end OpenDiameter.Router
