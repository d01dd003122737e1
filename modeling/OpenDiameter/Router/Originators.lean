import OpenDiameter.Foundation.Obligations
import OpenDiameter.Router.Redirection

/-! Whom the router answers: over a whole run, and for one transaction in it.

Requests arrive from peers with any hop-by-hop ids, the node makes requests of its
own, answers arrive, and connections open and close in between. Retransmission is
left out: it sends a stored request through the chain again under another id.
-/

set_option autoImplicit false

namespace OpenDiameter.Router

open Foundation OpenDiameter.Parser

inductive Arrival where
  | request (peer : PeerRef) (msg : DiameterMsg)
  | own (msg : DiameterMsg)
  | answer (msg : DiameterMsg)

namespace Arrival

def Proper : Arrival → Prop
  | request _ msg => msg.hdr.r = true
  | own msg => msg.hdr.r = true
  | answer msg => msg.hdr.r = false

def reply (node : Node) (router : MsgRouter) : Arrival → Reply
  | request p msg => requestMsg node msg (some p) router
  | own msg => requestMsg node msg none router
  | answer msg => answerMsg node msg router

def asked : Arrival → List (PeerRef × UInt32)
  | request p msg => [(p, msg.hdr.hh)]
  | own _ => []
  | answer _ => []

end Arrival

def Effect.answered : Effect → List (PeerRef × UInt32)
  | .sent p msg => if msg.hdr.r then [] else [(p, msg.hdr.hh)]
  | .request _ _ => []
  | .answer _ _ => []

def route : List (Node × Arrival) → MsgRouter → List Effect × MsgRouter
  | [], router => ([], router)
  | (node, arrival) :: calls, router =>
    let reply := arrival.reply node router
    let (effects, last) := route calls reply.router
    (reply.effects ++ effects, last)

def Owes (router : MsgRouter) (key : DeliveryNode × UInt32) (item : PeerRef × UInt32) : Prop :=
  ∃ r, router.pending key.1 key.2 = some r ∧ r.source = some item.1 ∧ r.origHH = item.2

def Stored (router : MsgRouter) : Prop :=
  ∀ d id r msg, router.pending d id = some r → r.reqMessage = some msg → msg.hdr.r = true

section Steps

variable {node : Node} {msg : DiameterMsg} {router after : MsgRouter}

theorem owes_store (d : DeliveryNode) (hh : UInt32) {key : DeliveryNode × UInt32} {item : PeerRef × UInt32}
    (owed : Owes (router.store d hh msg) key item) : Owes router key item := by
  obtain ⟨r, found, source, origHH⟩ := owed
  rw [pending_store] at found
  split at found
  case isTrue place =>
    obtain ⟨r', found', rfl⟩ := Option.map_eq_some_iff.mp found
    refine ⟨r', ?_, source, origHH⟩
    rw [place.1, place.2]
    exact found'
  case isFalse => exact ⟨r, found, source, origHH⟩

theorem stored_store (d : DeliveryNode) (hh : UInt32) (request : msg.hdr.r = true) (stored : Stored router) :
    Stored (router.store d hh msg) := by
  intro d' id r m found kept
  rw [pending_store] at found
  split at found
  case isTrue place =>
    obtain ⟨r', found', rfl⟩ := Option.map_eq_some_iff.mp found
    cases kept
    exact request
  case isFalse => exact stored d' id r m found kept

theorem owes_add {d : DeliveryNode} {id : UInt32} {source dest : Option PeerRef} {key : DeliveryNode × UInt32}
    {item : PeerRef × UInt32} (owed : Owes (router.add node d id msg source dest) key item) :
    Owes router key item ∨ key = (d, id) ∧ source = some item.1 ∧ msg.hdr.hh = item.2 := by
  obtain ⟨r, found, from_peer, origHH⟩ := owed
  rw [MsgRouter.add, pending_insert] at found
  split at found
  case isTrue place =>
    cases found
    exact .inr ⟨Prod.ext place.1 place.2.1, from_peer, origHH⟩
  case isFalse => exact .inl ⟨r, found, from_peer, origHH⟩

theorem stored_add {d : DeliveryNode} {id : UInt32} {source dest : Option PeerRef} (stored : Stored router) :
    Stored (router.add node d id msg source dest) := by
  intro d' id' r m found kept
  rw [MsgRouter.add, pending_insert] at found
  split at found
  case isTrue =>
    cases found
    cases kept
  case isFalse => exact stored d' id' r m found kept

theorem owes_delete {d : DeliveryNode} {id : UInt32} {key : DeliveryNode × UInt32} {item : PeerRef × UInt32}
    (owed : Owes (router.delete d id) key item) : Owes router key item ∧ key ≠ (d, id) := by
  obtain ⟨r, found, source, origHH⟩ := owed
  rw [pending_delete] at found
  split at found
  case isTrue => cases found
  case isFalse other => exact ⟨⟨r, found, source, origHH⟩, fun same => other (Prod.ext_iff.mp same)⟩

theorem stored_delete {d : DeliveryNode} {id : UInt32} (stored : Stored router) : Stored (router.delete d id) := by
  intro d' id' r m found kept
  rw [pending_delete] at found
  split at found
  case isTrue => cases found
  case isFalse => exact stored d' id' r m found kept

def answeredBy (effects : List Effect) : List (PeerRef × UInt32) := effects.flatMap Effect.answered

/-- A call that answers nobody and enters nothing. -/
structure Quiet (router : MsgRouter) (reply : Reply) : Prop where
  stored : Stored reply.router
  kept : ∀ key item, Owes reply.router key item → Owes router key item
  silent : answeredBy reply.effects = []

theorem quiet_none (stored : Stored router) (outcome : Outcome Unit Int) : Quiet router ⟨outcome, [], router⟩ :=
  ⟨stored, fun _ _ owed => owed, rfl⟩

theorem send_router (dest : Option PeerRef) (msg : DiameterMsg) (router : MsgRouter) :
    (node.send dest msg router).router = router := by
  unfold Node.send
  split
  · rfl
  · split <;> rfl

theorem answeredBy_send (dest : Option PeerRef) (msg : DiameterMsg) (router : MsgRouter) :
    answeredBy (node.send dest msg router).effects = [] ∨ msg.hdr.r = false ∧
      ∃ q, dest = some q ∧ answeredBy (node.send dest msg router).effects = [(q, msg.hdr.hh)] := by
  unfold Node.send
  cases dest with
  | none => exact .inl rfl
  | some q =>
    dsimp only
    split
    · split
      · cases request : msg.hdr.r with
        | true => exact .inl (by simp [answeredBy, Effect.answered, request])
        | false => exact .inr ⟨rfl, q, rfl, by simp [answeredBy, Effect.answered, request]⟩
      · exact .inl rfl
    · exact .inl rfl

theorem quiet_send (request : msg.hdr.r = true) (dest : Option PeerRef) (stored : Stored router) :
    Quiet router (node.send dest msg router) := by
  refine ⟨by rw [send_router]; exact stored, fun key item owed => by rw [send_router] at owed; exact owed, ?_⟩
  rcases @answeredBy_send node dest msg router with silent | ⟨answer, -⟩
  · exact silent
  · rw [request] at answer
    cases answer

theorem quiet_sendAndStore (request : msg.hdr.r = true) (d : DeliveryNode) (hh : UInt32) (keep : Bool) (dest : Option PeerRef)
    (stored : Stored router) : Quiet router (sendAndStore node d hh keep msg dest router) := by
  have sent := @quiet_send node msg router request dest stored
  unfold sendAndStore
  dsimp only
  split
  · cases keep with
    | true => exact ⟨stored_store d hh request stored, fun key item owed => owes_store d hh owed, sent.silent⟩
    | false => exact ⟨stored, fun key item owed => owed, sent.silent⟩
  all_goals exact sent

theorem fillIds_spec : (fillIds node msg router).1.hdr.r = msg.hdr.r ∧ (fillIds node msg router).2.reqMap = router.reqMap := by
  unfold fillIds
  dsimp only
  split <;> split <;> exact ⟨rfl, rfl⟩

theorem relay_enters (request : msg.hdr.r = true) (d : DeliveryNode) (source dest : Option PeerRef) (stored : Stored router) :
    Stored (relay node d msg source dest router).router ∧ answeredBy (relay node d msg source dest router).effects = [] ∧
      ∃ id, ∀ key item, Owes (relay node d msg source dest router).router key item →
        Owes router key item ∨ key = (d, id) ∧ source = some item.1 ∧ msg.hdr.hh = item.2 := by
  unfold relay
  cases source with
  | some p =>
    have sent := @quiet_sendAndStore node (msg.setHopByHop (node.hopByHopGen router.hopByHop))
      ({ router with hopByHop := router.hopByHop + 1 }.add node d (node.hopByHopGen router.hopByHop) msg (some p) dest)
      request d (node.hopByHopGen router.hopByHop) (0 < (node.hopByHopGen router.hopByHop).toInt32) dest (stored_add stored)
    exact ⟨sent.stored, sent.silent, node.hopByHopGen router.hopByHop, fun key item owed => owes_add (sent.kept key item owed)⟩
  | none =>
    obtain ⟨bit, same⟩ := @fillIds_spec node msg router
    have stored' : Stored (fillIds node msg router).2 := by
      intro d' id r m found
      rw [MsgRouter.pending, same] at found
      exact stored d' id r m found
    have sent := @quiet_sendAndStore node (fillIds node msg router).1
      ((fillIds node msg router).2.add node d (fillIds node msg router).1.hdr.hh (fillIds node msg router).1 none dest)
      (bit.trans request) d (fillIds node msg router).1.hdr.hh (0 < (fillIds node msg router).1.hdr.hh.toInt32) dest
      (stored_add stored')
    refine ⟨sent.stored, sent.silent, (fillIds node msg router).1.hdr.hh, fun key item owed => .inl ?_⟩
    rcases owes_add (sent.kept key item owed) with ⟨r, found, old⟩ | ⟨-, none, -⟩
    · rw [MsgRouter.pending, same] at found
      exact ⟨r, found, old⟩
    · cases none

theorem request_booking (request : msg.hdr.r = true) (p : PeerRef) (stored : Stored router) :
    Stored (requestMsg node msg (some p) router).router ∧
      Booking (Owes router) (Owes (requestMsg node msg (some p) router).router) [(p, msg.hdr.hh)]
        (answeredBy (requestMsg node msg (some p) router).effects) := by
  have course := requestMsg_course node msg p router
  generalize requestMsg node msg (some p) router = reply at course
  have entered {key : DeliveryNode × UInt32} {after : MsgRouter}
      (grows : ∀ k t, Owes after k t → Owes router k t ∨ k = key ∧ some p = some t.1 ∧ msg.hdr.hh = t.2) :
      Booking (Owes router) (Owes after) [(p, msg.hdr.hh)] [] := by
    refine .entered key (p, msg.hdr.hh) fun k t owed => ?_
    rcases grows k t owed with old | ⟨place, peer, id⟩
    · exact .inl old
    · exact .inr ⟨place, Prod.ext (Option.some.inj peer).symm id.symm⟩
  cases course with
  | handled dest stays => exact ⟨stored_add stored, entered fun k t owed => owes_add owed⟩
  | resent d q leaves queued node_kind opened =>
    have sent := @quiet_sendAndStore node msg router request d msg.hdr.hh true (some q) stored
    refine ⟨sent.stored, ?_⟩
    rw [show answeredBy (resend node d msg (some q) router).effects = [] from sent.silent]
    exact .ignored _ (d, msg.hdr.hh) sent.kept
  | relayed d m q leaves node_kind header opened =>
    have request' : m.hdr.r = true := by rw [header]; exact request
    obtain ⟨stored', silent, id, grows⟩ := relay_enters request' d (some p) (some q) stored
    rw [header] at grows
    rw [silent]
    exact ⟨stored', entered grows⟩
  | proxied m q leaves accepts header opened =>
    have request' : m.hdr.r = true := by rw [header]; exact request
    obtain ⟨stored', silent, id, grows⟩ := relay_enters request' .dcRouted (some p) (some q) stored
    rw [header] at grows
    refine ⟨stored', ?_⟩
    rw [answeredBy, List.flatMap_cons, Effect.answered, List.nil_append, ← answeredBy, silent]
    exact entered grows
  | refused m stays refuses => exact ⟨stored, .ignored _ (.dcLocal, 0) fun _ _ owed => owed⟩
  | answered answer stays header =>
    rw [send_router]
    refine ⟨stored, ?_⟩
    rcases @answeredBy_send node (some p) answer router with silent | ⟨-, q, same, sent⟩
    · rw [silent]
      exact .ignored _ (.dcLocal, 0) fun _ _ owed => owed
    · cases same
      rw [sent, header]
      exact .answered _ fun _ _ owed => owed
  | unanswerable => exact ⟨stored, .ignored _ (.dcLocal, 0) fun _ _ owed => owed⟩
  | escaped => exact ⟨stored, .ignored _ (.dcLocal, 0) fun _ _ owed => owed⟩
  | dropped => exact ⟨stored, .ignored _ (.dcLocal, 0) fun _ _ owed => owed⟩

theorem Quiet.request {reply : Reply} (quiet : Quiet router reply) (handler : HandlerType) (msg : DiameterMsg) :
    Quiet router { reply with effects := .request handler msg :: reply.effects } := by
  refine ⟨quiet.stored, quiet.kept, ?_⟩
  have silent := quiet.silent
  rw [answeredBy] at silent ⊢
  rw [List.flatMap_cons, silent]
  rfl

theorem quiet_relay (request : msg.hdr.r = true) (d : DeliveryNode) (dest : Option PeerRef) (stored : Stored router) :
    Quiet router (relay node d msg none dest router) := by
  obtain ⟨stored', silent, id, grows⟩ := @relay_enters node msg router request d none dest stored
  refine ⟨stored', fun key item owed => ?_, silent⟩
  rcases grows key item owed with old | ⟨-, none, -⟩
  · exact old
  · cases none

theorem quiet_answerError (rcode : UInt32) (stored : Stored router) : Quiet router (answerError node msg rcode none router) := by
  unfold answerError
  split
  all_goals exact quiet_none stored _

theorem quiet_relayOrProxy (request : msg.hdr.r = true) (dest : Option PeerRef) (action : RouteAction) (stored : Stored router) :
    Quiet router (relayOrProxy node msg none dest router action) := by
  have through {m : DiameterMsg} (request : m.hdr.r = true) : Quiet router (proxyThenRelay node m none dest router action) := by
    have relayed := @quiet_relay node m router request .dcRouted dest stored
    unfold proxyThenRelay
    split
    · split
      · exact (quiet_none stored _).request _ m
      · exact relayed.request _ m
    · exact relayed
  unfold relayOrProxy
  split
  · split
    · exact quiet_sendAndStore request _ _ _ _ stored
    · split
      · exact quiet_answerError _ stored
      · exact through request
  · exact through request

theorem quiet_redirectRequest (route : RouteEntry) (stored : Stored router) :
    Quiet router (redirectRequest node msg none router route) := by
  unfold redirectRequest
  split
  · split
    all_goals exact quiet_none stored _
  all_goals exact quiet_none stored _

theorem quiet_own (request : msg.hdr.r = true) (stored : Stored router) : Quiet router (requestMsg node msg none router) := by
  have handled (dest : Option PeerRef) : Quiet router (dcLocalRequestMsg node msg none dest router) := quiet_none stored _
  unfold requestMsg
  cases rcLocalLookup node msg with
  | success dest => exact handled dest
  | nextChain =>
    cases rcForwardedLookup node msg with
    | success dest =>
      dsimp only
      unfold dcForwardRequestMsg
      split
      · exact quiet_sendAndStore request _ _ _ _ stored
      · split
        · exact (quiet_none stored _).request _ msg
        · exact quiet_relay request _ _ stored
    | nextChain =>
      cases rcRoutedLookup node msg with
      | nextChain => exact (quiet_none stored _).request _ msg
      | success dest =>
        dsimp only
        unfold dcRoutedRequestMsg
        cases msg.destRealm.bind node.route with
        | none => exact quiet_none stored _
        | some r =>
          dsimp only
          cases r.action with
          | actionLocal => exact handled dest
          | actionRedirect => exact quiet_redirectRequest r stored
          | actionRelay => exact quiet_relayOrProxy request dest _ stored
          | actionProxy => exact quiet_relayOrProxy request dest _ stored

theorem silent_redirectAnswer {p : Option DiameterMsg} (requests : ∀ m, p = some m → m.hdr.r = true) (hosts : List DiameterUri) :
    answeredBy (redirectAnswer node p router hosts).effects = [] := by
  obtain ⟨-, sent⟩ := redirectAnswer_spec node p router hosts
  refine List.flatMap_eq_nil_iff.mpr fun effect member => ?_
  obtain ⟨q, m, host, rfl, stored⟩ := sent effect member
  rw [Effect.answered, redirectTo_r, requests m stored]
  rfl

theorem process_router (d : DeliveryNode) (p : Option DiameterMsg) (dest : Option PeerRef) :
    (process node d msg p dest router).router = router := by
  have local_process : (dcLocalProcess node msg p dest router).router = router := by
    unfold dcLocalProcess
    split
    · exact (redirectAnswer_spec node p router _).1
    · cases dest with
      | none => rfl
      | some q => exact send_router _ _ _
  cases d with
  | dcLocal => exact local_process
  | dcForward => exact local_process
  | dcRouted =>
    unfold process dcRoutedProcess
    dsimp only
    split
    · exact (redirectAnswer_spec node p router _).1
    · cases dest with
      | none => rfl
      | some q =>
        dsimp only
        split
        · unfold sendReleased
          split
          · split <;> rfl
          · rfl
        · exact send_router _ _ _

theorem process_answers {d : DeliveryNode} {p : Option DiameterMsg} (requests : ∀ m, p = some m → m.hdr.r = true)
    (dest : Option PeerRef) :
    answeredBy (process node d msg p dest router).effects = [] ∨
      ∃ q, dest = some q ∧ answeredBy (process node d msg p dest router).effects = [(q, msg.hdr.hh)] := by
  have local_process : answeredBy (dcLocalProcess node msg p dest router).effects = [] ∨
      ∃ q, dest = some q ∧ answeredBy (dcLocalProcess node msg p dest router).effects = [(q, msg.hdr.hh)] := by
    unfold dcLocalProcess
    split
    · exact .inl (silent_redirectAnswer requests _)
    · cases dest with
      | none => exact .inl rfl
      | some q => exact (@answeredBy_send node (some q) msg router).imp id And.right
  cases d with
  | dcLocal => exact local_process
  | dcForward => exact local_process
  | dcRouted =>
    unfold process dcRoutedProcess
    dsimp only
    split
    · exact .inl (silent_redirectAnswer requests _)
    · cases dest with
      | none => exact .inl rfl
      | some q =>
        have told (handler : HandlerType) (effects : List Effect) :
            answeredBy (.answer handler msg :: effects) = answeredBy effects := rfl
        dsimp only
        rw [told]
        split
        · unfold sendReleased
          split
          · split <;> exact .inl rfl
          · exact .inl rfl
        · exact (@answeredBy_send node (some q) msg router).imp id And.right

theorem answerChain_found (msg : DiameterMsg) (router : MsgRouter) (nodes : List DeliveryNode) :
    answerChain node msg router nodes = ⟨.returned 0, [], router⟩ ∨
      ∃ d r, router.pending d msg.hdr.hh = some r ∧ answerChain node msg router nodes =
        process node d (msg.setHopByHop r.origHH) r.reqMessage r.source (router.delete d msg.hdr.hh) := by
  induction nodes with
  | nil => exact .inl rfl
  | cons d nodes ih =>
    cases found : router.pending d msg.hdr.hh with
    | none =>
      rw [answerChain, found]
      exact ih
    | some r => exact .inr ⟨d, r, found, by rw [answerChain, found]⟩

theorem answer_booking (stored : Stored router) :
    Stored (answerMsg node msg router).router ∧
      Booking (Owes router) (Owes (answerMsg node msg router).router) [] (answeredBy (answerMsg node msg router).effects) := by
  rcases @answerChain_found node msg router [.dcLocal, .dcForward, .dcRouted] with unknown | ⟨d, r, found, processed⟩
  · rw [answerMsg, unknown]
    exact ⟨stored, .idle fun _ _ owed => owed⟩
  · have answered := @process_answers node (msg.setHopByHop r.origHH) (router.delete d msg.hdr.hh) d r.reqMessage
      (fun m kept => stored d _ r m found kept) r.source
    rw [answerMsg, processed, process_router]
    refine ⟨stored_delete stored, ?_⟩
    rcases answered with silent | ⟨q, source, sent⟩
    · rw [silent]
      exact .idle fun k t owed => (owes_delete owed).1
    · rw [sent]
      exact .settled (d, msg.hdr.hh) (q, r.origHH) ⟨r, found, source, rfl⟩ fun k t owed => owes_delete owed

theorem arrival_booking {arrival : Arrival} (proper : arrival.Proper) (stored : Stored router) :
    Stored (arrival.reply node router).router ∧
      Booking (Owes router) (Owes (arrival.reply node router).router) arrival.asked
        (answeredBy (arrival.reply node router).effects) := by
  cases arrival with
  | request p msg => exact request_booking proper p stored
  | own msg =>
    have quiet := @quiet_own node msg router proper stored
    refine ⟨quiet.stored, ?_⟩
    rw [show answeredBy ((Arrival.own msg).reply node router).effects = [] from quiet.silent]
    exact .idle quiet.kept
  | answer msg => exact answer_booking stored

end Steps

section Runs

theorem route_backed {calls : List (Node × Arrival)} (proper : ∀ call ∈ calls, call.2.Proper) {router : MsgRouter}
    (stored : Stored router) {received settled : List (PeerRef × UInt32)} (backed : Backed (Owes router) received settled) :
    Backed (Owes (route calls router).2) (received ++ calls.flatMap fun call => call.2.asked)
      (settled ++ answeredBy (route calls router).1) := by
  induction calls generalizing router received settled with
  | nil =>
    rw [route, answeredBy, List.flatMap_nil, List.flatMap_nil, List.append_nil, List.append_nil]
    exact backed
  | cons call calls ih =>
    obtain ⟨node, arrival⟩ := call
    obtain ⟨stored', booking⟩ := @arrival_booking node router arrival (proper (node, arrival) List.mem_cons_self) stored
    have later := ih (fun call member => proper call (List.mem_cons_of_mem _ member)) stored' (backed.step booking)
    rw [route, List.flatMap_cons, answeredBy, List.flatMap_append, ← List.append_assoc, ← List.append_assoc]
    exact later

/-- In every run the answers that peers get, each with the id it carries, are among
the requests they made: nobody is answered who did not ask, and no request twice. -/
theorem answers_asked {calls : List (Node × Arrival)} (proper : ∀ call ∈ calls, call.2.Proper) :
    (answeredBy (route calls .construct).1).Subperm (calls.flatMap fun call => call.2.asked) := by
  have empty : ∀ key item, ¬Owes .construct key item := by
    rintro key item ⟨r, found, -⟩
    simp [MsgRouter.pending, MsgRouter.construct] at found
  have none_stored : Stored .construct := by
    intro d id r msg found
    simp [MsgRouter.pending, MsgRouter.construct] at found
  exact (route_backed proper none_stored (backed_empty empty)).subperm

def sampleAnswer (hh : UInt32) : DiameterMsg := { hdr := { MsgHeader.blank with code := 300, hh }, acl := [] }

def sampleCalls : List (Node × Arrival) :=
  [(sampleRelay, .request 0 realmRequest), (sampleRelay, .request 2 realmRequest), (sampleRelay, .own realmRequest),
    (sampleRelay, .answer (sampleAnswer 101)), (sampleRelay, .answer (sampleAnswer 7))]

theorem answers_asked_sample :
    (answeredBy (route sampleCalls .construct).1).Subperm (sampleCalls.flatMap fun call => call.2.asked) := by
  refine answers_asked fun call member => ?_
  simp only [sampleCalls, List.mem_cons, List.not_mem_nil, or_false] at member
  rcases member with rfl | rfl | rfl | rfl | rfl <;> rfl

/-- The peer to which the request was sent has closed. -/
def cutRelay : Node :=
  { sampleRelay with
    isOpen := fun p => decide (p = 0)
    openRuns := by
      intro p opened
      rw [of_decide_eq_true opened]
      rfl }

/-- A stored request that is handed back keeps the id under which it was sent on, so that its answer reaches
the peer under an id that the peer has not used. -/
theorem reTransmitEvent_unasked :
    [(sampleRelay, Arrival.request 0 realmRequest)].flatMap (fun call => call.2.asked) = [(0, 5)] ∧
      answeredBy (reTransmitEvent cutRelay (some 1)
        (route [(sampleRelay, .request 0 realmRequest)] .construct).2).effects = [(0, 100)] :=
  ⟨rfl, by decide +kernel⟩

end Runs

section Transactions

variable {node : Node} {msg : DiameterMsg} {router : MsgRouter} {g : UInt32}

def Arrival.hopByHop : Arrival → UInt32
  | request _ msg => msg.hdr.hh
  | own msg => msg.hdr.hh
  | answer msg => msg.hdr.hh

/-- Nothing that is pending under the id is touched, and at most so many ids are generated. -/
structure Leaves (g : UInt32) (count : Nat) (router after : MsgRouter) : Prop where
  same : ∀ d, after.pending d g = router.pending d g
  counted : router.hopByHop ≤ after.hopByHop
  few : after.hopByHop ≤ router.hopByHop + count

theorem leaves_refl (g : UInt32) (count : Nat) (router : MsgRouter) : Leaves g count router router :=
  ⟨fun _ => rfl, Nat.le_refl _, Nat.le_add_right _ _⟩

theorem Leaves.trans {middle last : MsgRouter} {count more : Nat} (first : Leaves g count router middle)
    (second : Leaves g more middle last) : Leaves g (count + more) router last := by
  have few := first.few
  have more := second.few
  exact ⟨fun d => (second.same d).trans (first.same d), Nat.le_trans first.counted second.counted, by omega⟩

theorem Leaves.one {after : MsgRouter} (leaves : Leaves g 0 router after) : Leaves g 1 router after :=
  ⟨leaves.same, leaves.counted, Nat.le_succ_of_le leaves.few⟩

theorem leaves_store {hh : UInt32} (other : hh ≠ g) (d : DeliveryNode) : Leaves g 0 router (router.store d hh msg) := by
  refine ⟨fun d' => ?_, Nat.le_refl _, Nat.le_refl _⟩
  rw [pending_store, if_neg fun place => other place.2.symm]

theorem leaves_add {hh : UInt32} (other : hh ≠ g) (d : DeliveryNode) (source dest : Option PeerRef) :
    Leaves g 0 router (router.add node d hh msg source dest) := by
  refine ⟨fun d' => ?_, Nat.le_refl _, Nat.le_refl _⟩
  rw [MsgRouter.add, pending_insert, if_neg fun place => other place.2.1.symm]

theorem leaves_delete {hh : UInt32} (other : hh ≠ g) (d : DeliveryNode) : Leaves g 0 router (router.delete d hh) := by
  refine ⟨fun d' => ?_, Nat.le_refl _, Nat.le_refl _⟩
  rw [pending_delete, if_neg fun place => other place.2.symm]

theorem leaves_sendAndStore {hh : UInt32} (other : hh ≠ g) (d : DeliveryNode) (keep : Bool) (dest : Option PeerRef) :
    Leaves g 0 router (sendAndStore node d hh keep msg dest router).router := by
  unfold sendAndStore
  dsimp only
  split
  · cases keep with
    | true => exact leaves_store other d
    | false => exact leaves_refl g _ router
  all_goals
    rw [send_router]
    exact leaves_refl g _ router

/-- A request goes out under its own id or the next one generated. -/
theorem leaves_relay (given : msg.hdr.hh ≠ g) (generated : node.hopByHopGen router.hopByHop ≠ g) (d : DeliveryNode)
    (source dest : Option PeerRef) : Leaves g 1 router (relay node d msg source dest router).router := by
  have counted : Leaves g 1 router { router with hopByHop := router.hopByHop + 1 } := ⟨fun _ => rfl, Nat.le_succ _, Nat.le_refl _⟩
  unfold relay
  cases source with
  | some p => exact counted.trans ((leaves_add generated d _ _).trans (leaves_sendAndStore generated d _ dest))
  | none =>
    have filled : (fillIds node msg router).1.hdr.hh ≠ g ∧ Leaves g 1 router (fillIds node msg router).2 := by
      unfold fillIds
      dsimp only
      split <;> split
      · exact ⟨generated, ⟨fun _ => rfl, Nat.le_succ _, Nat.le_refl _⟩⟩
      · exact ⟨generated, counted⟩
      · exact ⟨given, ⟨fun _ => rfl, Nat.le_refl _, Nat.le_succ _⟩⟩
      · exact ⟨given, leaves_refl g _ router⟩
    exact filled.2.trans ((leaves_add filled.1 d _ _).trans (leaves_sendAndStore filled.1 d _ dest))

theorem leaves_answerError (rcode : UInt32) (source : Option PeerRef) :
    Leaves g 1 router (answerError node msg rcode source router).router := by
  unfold answerError
  split
  · rw [send_router]
    exact leaves_refl g _ router
  all_goals exact leaves_refl g _ router

theorem leaves_relayOrProxy (given : msg.hdr.hh ≠ g) (generated : node.hopByHopGen router.hopByHop ≠ g)
    (source dest : Option PeerRef) (action : RouteAction) :
    Leaves g 1 router (relayOrProxy node msg source dest router action).router := by
  have through {m : DiameterMsg} (given : m.hdr.hh ≠ g) : Leaves g 1 router (proxyThenRelay node m source dest router action).router := by
    unfold proxyThenRelay
    split
    · split
      · exact leaves_refl g _ router
      · exact leaves_relay given generated .dcRouted source dest
    · exact leaves_relay given generated .dcRouted source dest
  unfold relayOrProxy
  split
  · split
    · exact (leaves_sendAndStore given .dcRouted true dest).one
    · split
      · exact leaves_answerError _ source
      · exact through given
  · exact through given

theorem leaves_redirectRequest (source : Option PeerRef) (r : RouteEntry) :
    Leaves g 1 router (redirectRequest node msg source router r).router := by
  unfold redirectRequest
  split
  · split
    · exact leaves_refl g _ router
    all_goals
      rw [send_router]
      exact leaves_refl g _ router
  all_goals exact leaves_refl g _ router

theorem leaves_request (given : msg.hdr.hh ≠ g) (generated : node.hopByHopGen router.hopByHop ≠ g) (source : Option PeerRef) :
    Leaves g 1 router (requestMsg node msg source router).router := by
  have handled (dest : Option PeerRef) : Leaves g 1 router (dcLocalRequestMsg node msg source dest router).router := by
    unfold dcLocalRequestMsg
    cases source with
    | some p => exact (leaves_add given .dcLocal _ _).one
    | none => exact leaves_refl g _ router
  unfold requestMsg
  cases rcLocalLookup node msg with
  | success dest => exact handled dest
  | nextChain =>
    cases rcForwardedLookup node msg with
    | success dest =>
      dsimp only
      unfold dcForwardRequestMsg
      split
      · exact (leaves_sendAndStore given .dcForward true dest).one
      · split
        · cases source with
          | some p => exact leaves_answerError _ _
          | none => exact leaves_refl g _ router
        · exact leaves_relay given generated .dcForward source dest
    | nextChain =>
      cases rcRoutedLookup node msg with
      | nextChain =>
        dsimp only
        unfold dcRejectRequestMsg
        cases source with
        | some p => exact leaves_answerError _ _
        | none => exact leaves_refl g _ router
      | success dest =>
        dsimp only
        unfold dcRoutedRequestMsg
        cases msg.destRealm.bind node.route with
        | none => exact leaves_refl g _ router
        | some r =>
          dsimp only
          cases r.action with
          | actionLocal => exact handled dest
          | actionRedirect => exact leaves_redirectRequest source r
          | actionRelay => exact leaves_relayOrProxy given generated source dest _
          | actionProxy => exact leaves_relayOrProxy given generated source dest _

theorem leaves_answer (given : msg.hdr.hh ≠ g) : Leaves g 1 router (answerMsg node msg router).router := by
  rcases @answerChain_found node msg router [.dcLocal, .dcForward, .dcRouted] with unknown | ⟨d, r, -, processed⟩
  · rw [answerMsg, unknown]
    exact leaves_refl g _ router
  · rw [answerMsg, processed, process_router]
    exact (leaves_delete given d).one

theorem leaves_arrival {arrival : Arrival} (given : arrival.hopByHop ≠ g) (generated : node.hopByHopGen router.hopByHop ≠ g) :
    Leaves g 1 router (arrival.reply node router).router := by
  cases arrival with
  | request p msg => exact leaves_request given generated (some p)
  | own msg => exact leaves_request given generated none
  | answer msg => exact leaves_answer given

theorem leaves_route {calls : List (Node × Arrival)} {generator : Nat → UInt32}
    (given : ∀ call ∈ calls, call.1.hopByHopGen = generator ∧ call.2.hopByHop ≠ g)
    (generated : ∀ n, router.hopByHop ≤ n → n < router.hopByHop + calls.length → generator n ≠ g) :
    Leaves g calls.length router (route calls router).2 := by
  induction calls generalizing router with
  | nil => exact leaves_refl g _ router
  | cons call calls ih =>
    obtain ⟨node, arrival⟩ := call
    rw [List.length_cons] at generated ⊢
    obtain ⟨same, other⟩ := given (node, arrival) List.mem_cons_self
    have here : node.hopByHopGen router.hopByHop ≠ g := by
      rw [same]
      exact generated _ (Nat.le_refl _) (by omega)
    have step := @leaves_arrival node router g arrival other here
    have counted := step.counted
    have few := step.few
    rw [Nat.add_comm]
    exact step.trans (ih (fun call member => given call (List.mem_cons_of_mem _ member))
      fun n later below => generated n (by omega) (by omega))

theorem request_entered {p : PeerRef} {d : DeliveryNode}
    (departs : departure node msg router = some (d, node.hopByHopGen router.hopByHop)) (first : resends msg router d = false)
    (fresh : ∀ other, router.pending other (node.hopByHopGen router.hopByHop) = none) :
    d ≠ .dcLocal ∧ (requestMsg node msg (some p) router).router.hopByHop = router.hopByHop + 1 ∧
      ∀ other, ((requestMsg node msg (some p) router).router.pending other (node.hopByHopGen router.hopByHop)).map
          (fun r => (r.origHH, r.source)) = if other = d then some (msg.hdr.hh, some p) else none := by
  have course := requestMsg_course node msg p router
  generalize requestMsg node msg (some p) router = reply at course
  have entered {m : DiameterMsg} {q : PeerRef} (header : m.hdr = msg.hdr) (opened : node.isOpen q = true) :
      (relay node d m (some p) (some q) router).router.hopByHop = router.hopByHop + 1 ∧
        ∀ other, ((relay node d m (some p) (some q) router).router.pending other (node.hopByHopGen router.hopByHop)).map
          (fun r => (r.origHH, r.source)) = if other = d then some (msg.hdr.hh, some p) else none := by
    obtain ⟨after, relayed, counted, pending⟩ := relay_open opened d m p router
    rw [relayed]
    refine ⟨counted, fun other => ?_⟩
    rw [pending, fresh]
    by_cases same : other = d
    · rw [if_pos ⟨same, rfl⟩, if_pos same, Option.map_some, relayedEntry, fresh]
      split <;> rw [← header] <;> rfl
    · rw [if_neg fun place => same place.1, if_neg same]
      rfl
  cases course with
  | resent d' q leaves queued =>
    rw [departs] at leaves
    rw [← (Prod.mk.inj (Option.some.inj leaves)).1, first] at queued
    cases queued
  | relayed d' m q leaves node_kind header opened =>
    rw [departs] at leaves
    cases leaves
    exact ⟨node_kind, entered header opened⟩
  | proxied m q leaves accepts header opened =>
    rw [departs] at leaves
    cases leaves
    exact ⟨by decide, entered header opened⟩
  | handled dest stays => rw [departs] at stays; cases stays
  | refused m stays => rw [departs] at stays; cases stays
  | answered answer stays => rw [departs] at stays; cases stays
  | unanswerable stays => rw [departs] at stays; cases stays
  | escaped stays => rw [departs] at stays; cases stays
  | dropped route stays => rw [departs] at stays; cases stays

theorem process_sends {d : DeliveryNode} (node_kind : d ≠ .dcLocal) {answer : DiameterMsg} {hh : UInt32} {p : PeerRef}
    {stored : Option DiameterMsg} (plain : answer.isRedirected = false) (connected : node.isOpen p = true)
    (foreign : answer.hdr.e = true → node.localSession (answer.setHopByHop hh) = false) :
    Effect.sent p (answer.setHopByHop hh) ∈
      (process node d (answer.setHopByHop hh) stored (some p) router).effects := by
  have plain' : (answer.setHopByHop hh).isRedirected = false := plain
  cases d with
  | dcLocal => exact absurd rfl node_kind
  | dcForward =>
    unfold process dcLocalProcess
    dsimp only
    rw [plain', if_neg Bool.false_ne_true, send_open connected]
    exact List.mem_cons_self
  | dcRouted =>
    have released : ((answer.setHopByHop hh).hdr.e && node.localSession (answer.setHopByHop hh)) = false := by
      cases error : answer.hdr.e with
      | false => rw [setHopByHop_e, error, Bool.false_and]
      | true => rw [foreign error, Bool.and_false]
    unfold process dcRoutedProcess
    dsimp only
    rw [plain', if_neg Bool.false_ne_true, released, if_neg Bool.false_ne_true, send_open connected]
    exact List.mem_cons_of_mem _ List.mem_cons_self

/-- The answer to a request that was sent on finds its way back: whatever happens in
between, while the id is not used again, the peer gets it under the id of its request. -/
theorem transaction_returned {p : PeerRef} {d : DeliveryNode} {answer : DiameterMsg} {last : Node}
    (departs : departure node msg router = some (d, node.hopByHopGen router.hopByHop)) (first : resends msg router d = false)
    (fresh : ∀ other, router.pending other (node.hopByHopGen router.hopByHop) = none)
    {calls : List (Node × Arrival)}
    (between : ∀ call ∈ calls, call.1.hopByHopGen = node.hopByHopGen ∧ call.2.hopByHop ≠ node.hopByHopGen router.hopByHop)
    (unique : ∀ n, router.hopByHop < n → n ≤ router.hopByHop + calls.length →
      node.hopByHopGen n ≠ node.hopByHopGen router.hopByHop)
    (matching : answer.hdr.hh = node.hopByHopGen router.hopByHop) (plain : answer.isRedirected = false)
    (connected : last.isOpen p = true) (foreign : answer.hdr.e = true → last.localSession (answer.setHopByHop msg.hdr.hh) = false) :
    Effect.sent p (answer.setHopByHop msg.hdr.hh) ∈
        (answerMsg last answer (route calls (requestMsg node msg (some p) router).router).2).effects ∧
      ∀ other, (answerMsg last answer (route calls (requestMsg node msg (some p) router).router).2).router.pending other
        (node.hopByHopGen router.hopByHop) = none := by
  obtain ⟨node_kind, counted, pending⟩ := @request_entered node msg router p d departs first fresh
  have leaves := @leaves_route (requestMsg node msg (some p) router).router (node.hopByHopGen router.hopByHop) calls
    node.hopByHopGen between (fun n later below => unique n (by omega) (by omega))
  generalize (route calls (requestMsg node msg (some p) router).router).2 = reached at leaves
  have known (other : DeliveryNode) : (reached.pending other answer.hdr.hh).map (fun r => (r.origHH, r.source)) =
      if other = d then some (msg.hdr.hh, some p) else none := by
    rw [matching, leaves.same]
    exact pending other
  have unknown (other : DeliveryNode) (different : other ≠ d) : reached.pending other answer.hdr.hh = none := by
    have none := known other
    rw [if_neg different] at none
    exact Option.map_eq_none_iff.mp none
  obtain ⟨r, found, origin⟩ : ∃ r, reached.pending d answer.hdr.hh = some r ∧ (r.origHH, r.source) = (msg.hdr.hh, some p) := by
    have some := known d
    rw [if_pos rfl] at some
    exact Option.map_eq_some_iff.mp some
  have answered : answerMsg last answer reached =
      process last d (answer.setHopByHop msg.hdr.hh) r.reqMessage (some p) (reached.delete d answer.hdr.hh) := by
    rw [← (Prod.mk.inj origin).1, ← (Prod.mk.inj origin).2]
    cases d with
    | dcLocal => exact absurd rfl node_kind
    | dcForward =>
      rw [answerMsg, answerChain, unknown .dcLocal (by decide)]
      dsimp only
      rw [answerChain, found]
    | dcRouted =>
      rw [answerMsg, answerChain, unknown .dcLocal (by decide)]
      dsimp only
      rw [answerChain, unknown .dcForward (by decide)]
      dsimp only
      rw [answerChain, found]
  rw [answered]
  refine ⟨process_sends node_kind plain connected foreign, fun other => ?_⟩
  rw [process_router, pending_delete, matching]
  by_cases same : other = d
  · rw [if_pos ⟨same, rfl⟩]
  · rw [if_neg fun place => same place.1, ← matching]
    exact unknown other same

theorem transaction_returned_sample :
    Effect.sent 0 ((sampleAnswer 100).setHopByHop 5) ∈
        (answerMsg sampleRelay (sampleAnswer 100)
          (route [(sampleRelay, .request 2 realmRequest)] (requestMsg sampleRelay realmRequest (some 0) .construct).router).2).effects ∧
      ∀ other, (answerMsg sampleRelay (sampleAnswer 100)
          (route [(sampleRelay, .request 2 realmRequest)] (requestMsg sampleRelay realmRequest (some 0) .construct).router).2).router.pending
        other 100 = none := by
  have fresh : ∀ other, MsgRouter.construct.pending other (sampleRelay.hopByHopGen MsgRouter.construct.hopByHop) = none := by
    intro other
    simp [MsgRouter.pending, MsgRouter.construct]
  exact @transaction_returned sampleRelay realmRequest .construct 0 .dcRouted (sampleAnswer 100) sampleRelay rfl rfl fresh
    [(sampleRelay, .request 2 realmRequest)] (by simp [Arrival.hopByHop, realmRequest, sampleRequest]; decide)
    (fun n later below => by
      have one : n = 1 := by simp [MsgRouter.construct] at later below; omega
      rw [one]
      decide)
    rfl rfl rfl (fun _ => rfl)

end Transactions

end OpenDiameter.Router
