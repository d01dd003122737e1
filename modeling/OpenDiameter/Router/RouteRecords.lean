import OpenDiameter.Parser.RoundTrip
import OpenDiameter.Router.Accounting

/-! Route-Records along a path of relays, and what loop detection sees of them.

A relay adds its record as a container of its own, and the encoder sends the first
container of a name.
-/

set_option autoImplicit false

namespace OpenDiameter.Router

open Foundation Foundation.Script OpenDiameter.Parser

section Sent

variable {node : Node} {msg : DiameterMsg} {router : MsgRouter} {acl : AvpContainerList}

def SendsOn (acl : AvpContainerList) (effects : List Effect) : Prop :=
  ∀ q m, Effect.sent q m ∈ effects → m.hdr.r = true → m.acl = acl

theorem sendsOn_nil : SendsOn acl [] := by
  intro q m member
  cases member

theorem SendsOn.handled {effects : List Effect} (sends : SendsOn acl effects) (handler : HandlerType) (m : DiameterMsg) :
    SendsOn acl (.request handler m :: effects) := by
  intro q m' member
  rcases List.mem_cons.mp member with other | later
  · cases other
  · exact sends q m' later

theorem mem_send {dest : Option PeerRef} {q : PeerRef} {m : DiameterMsg}
    (member : Effect.sent q m ∈ (node.send dest msg router).effects) : m = msg := by
  unfold Node.send at member
  cases dest with
  | none => cases member
  | some p =>
    dsimp only at member
    split at member
    · split at member
      · rw [List.mem_singleton] at member
        cases member
        rfl
      · cases member
    · cases member

theorem sendsOn_send (dest : Option PeerRef) : SendsOn msg.acl (node.send dest msg router).effects := by
  intro q m member request
  rw [mem_send member]

theorem sendsOn_answerError (rcode : UInt32) (peer : Option PeerRef) :
    SendsOn acl (answerError node msg rcode peer router).effects := by
  unfold answerError
  split
  case h_1 answer generated =>
    intro q m member request
    rw [mem_send member, generateError_returned generated] at request
    cases request
  all_goals exact sendsOn_nil

theorem sendsOn_redirectRequest (source : Option PeerRef) (route : RouteEntry) :
    SendsOn acl (redirectRequest node msg source router route).effects := by
  unfold redirectRequest
  split
  case h_1 answer generated =>
    have header := generateError_returned generated
    split
    · exact sendsOn_nil
    · intro q m member request
      rw [mem_send member, header] at request
      cases request
    · intro q m member request
      rw [mem_send member, add_hdr, add_hdr, header] at request
      cases request
  all_goals exact sendsOn_nil

theorem sendsOn_sendAndStore (d : DeliveryNode) (hh : UInt32) (keep : Bool) (dest : Option PeerRef) :
    SendsOn msg.acl (sendAndStore node d hh keep msg dest router).effects := by
  unfold sendAndStore
  dsimp only
  split
  all_goals exact sendsOn_send dest

theorem fillIds_acl : (fillIds node msg router).1.acl = msg.acl := by
  unfold fillIds
  dsimp only
  split <;> split <;> rfl

theorem sendsOn_relay (d : DeliveryNode) (source dest : Option PeerRef) :
    SendsOn msg.acl (relay node d msg source dest router).effects := by
  unfold relay
  cases source with
  | some p => exact sendsOn_sendAndStore _ _ _ _
  | none =>
    rw [← @fillIds_acl node msg router]
    exact sendsOn_sendAndStore _ _ _ _

theorem sendsOn_proxyThenRelay {action : RouteAction} (source dest : Option PeerRef)
    (same : ¬(action = .actionProxy ∧ node.proxyRequest msg ≠ 0) → msg.acl = acl) :
    SendsOn acl (proxyThenRelay node msg source dest router action).effects := by
  unfold proxyThenRelay
  by_cases proxy : action = .actionProxy
  · rw [if_pos proxy]
    by_cases refuses : node.proxyRequest msg ≠ 0
    · rw [if_pos refuses]
      exact sendsOn_nil.handled _ _
    · rw [if_neg refuses, ← same fun both => refuses both.2]
      exact (sendsOn_relay _ _ _).handled _ _
  · rw [if_neg proxy, ← same fun both => proxy both.1]
    exact sendsOn_relay _ _ _

end Sent

section Recording

variable (node : Node) (msg : DiameterMsg) (router : MsgRouter)

def routeRecord (identity : Octets) : AvpContainer AvpContainerEntry := avpWidget nameRouteRecord [.diamId identity]

def recorded : List Octets :=
  if (departure node msg router).map Prod.fst = some .dcRouted ∧ foreignOrigin node msg = true ∧
    resends msg router .dcRouted = false then [node.identity] else []

variable {node msg router} {acl : AvpContainerList}

theorem recorded_eq_nil (stays : (departure node msg router).map Prod.fst ≠ some .dcRouted) :
    recorded node msg router = [] := if_neg fun all => stays all.1

theorem sendsOn_relayOrProxy {action : RouteAction} (source dest : Option PeerRef)
    (leaves : departure node msg router = routedDeparture node msg router action) :
    SendsOn (msg.acl ++ (recorded node msg router).map routeRecord)
      (relayOrProxy node msg source dest router action).effects := by
  unfold relayOrProxy
  unfold routedDeparture at leaves
  by_cases foreign : foreignOrigin node msg = true
  · rw [if_pos foreign] at leaves ⊢
    by_cases queued : resends msg router .dcRouted = true
    · have none : recorded node msg router = [] := if_neg fun all => by simp [queued] at all
      rw [if_pos queued, none, List.map_nil, List.append_nil]
      exact sendsOn_sendAndStore _ _ _ _
    · rw [if_neg queued] at leaves ⊢
      by_cases loops : loopDetection node msg = true
      · rw [if_pos loops]
        exact sendsOn_answerError _ _
      · rw [if_neg loops] at leaves ⊢
        refine sendsOn_proxyThenRelay _ _ fun passes => ?_
        dsimp only at leaves
        rw [if_neg passes] at leaves
        have one : recorded node msg router = [node.identity] :=
          if_pos ⟨by rw [leaves]; rfl, foreign, Bool.eq_false_iff.mpr queued⟩
        rw [one]
        rfl
  · have none : recorded node msg router = [] := if_neg fun all => foreign all.2.1
    rw [if_neg foreign, none, List.map_nil, List.append_nil]
    exact sendsOn_proxyThenRelay _ _ fun _ => rfl

theorem sendsOn_dcForwardRequestMsg (source dest : Option PeerRef) :
    SendsOn msg.acl (dcForwardRequestMsg node msg source dest router).effects := by
  unfold dcForwardRequestMsg
  split
  · exact sendsOn_sendAndStore _ _ _ _
  · split
    · cases source with
      | some p => exact sendsOn_answerError _ _
      | none => exact sendsOn_nil.handled _ _
    · exact sendsOn_relay _ _ _

theorem sendsOn_dcLocalRequestMsg (source dest : Option PeerRef) :
    SendsOn acl (dcLocalRequestMsg node msg source dest router).effects := by
  unfold dcLocalRequestMsg
  cases source with
  | some p => exact sendsOn_nil.handled _ _
  | none => exact sendsOn_nil

theorem sendsOn_requestMsg (source : Option PeerRef) :
    SendsOn (msg.acl ++ (recorded node msg router).map routeRecord) (requestMsg node msg source router).effects := by
  unfold requestMsg
  cases notLocal : rcLocalLookup node msg with
  | success dest => exact sendsOn_dcLocalRequestMsg _ _
  | nextChain =>
    cases notForwarded : rcForwardedLookup node msg with
    | success dest =>
      have none : recorded node msg router = [] := by
        refine recorded_eq_nil ?_
        simp only [departure, notLocal, notForwarded]
        split
        · simp
        · split <;> simp
      rw [none, List.map_nil, List.append_nil]
      exact sendsOn_dcForwardRequestMsg _ _
    | nextChain =>
      cases found : rcRoutedLookup node msg with
      | nextChain =>
        unfold dcRejectRequestMsg
        cases source with
        | some p => exact sendsOn_answerError _ _
        | none => exact sendsOn_nil.handled _ _
      | success dest =>
        dsimp only
        unfold dcRoutedRequestMsg
        cases routed : msg.destRealm.bind node.route with
        | none => exact sendsOn_nil
        | some route =>
          dsimp only
          cases action : route.action with
          | actionLocal => exact sendsOn_dcLocalRequestMsg _ _
          | actionRedirect => exact sendsOn_redirectRequest _ _
          | actionRelay | actionProxy =>
            refine sendsOn_relayOrProxy _ _ ?_
            simp only [departure, notLocal, notForwarded, found, routed, action, Option.map_some]

end Recording

section Paths

variable (env : ParserEnv) (dict : DiameterDictionary)

/-- What one node writes into a message and the next one reads there. -/
def Carried (sent got : AvpContainerList) : Prop :=
  ∃ b after, Level b ∧ b.wr % 4 = 0 ∧ parseAppToRawWithDict env sent dict b = .returned after ∧ after.wr - b.wr < 2 ^ 24 ∧
    parseRawToAppWithDict env (payloadBlock (after.memory.take after.wr) b.wr) dict = .returned got

inductive Path (msg : DiameterMsg) : List Octets → DiameterMsg → Prop where
  | start : Path msg [] msg
  | hop {records : List Octets} {arrived sent : DiameterMsg} {got : AvpContainerList} {node : Node} {router : MsgRouter}
      {source : Option PeerRef} {q : PeerRef} (path : Path msg records arrived)
      (leaves : Effect.sent q sent ∈ (requestMsg node arrived source router).effects) (request : sent.hdr.r = true)
      (carried : Carried env dict sent.acl got) : Path msg (records ++ recorded node arrived router) { sent with acl := got }

def Names (name : String) : Prop := ∃ rule ∈ dict.rules, rule.2.avp.avpName = name

instance instDecidableNames (name : String) : Decidable (Names dict name) :=
  inferInstanceAs (Decidable (∃ rule ∈ dict.rules, rule.2.avp.avpName = name))

variable {env dict}

theorem carried_received (groups : ∀ gavp ∈ env.groupedAvpList, Regular env gavp.dict) (regular : Regular env dict)
    {sent got : AvpContainerList} (carried : Carried env dict sent got) : got = received env sent dict := by
  obtain ⟨b, after, level, aligned, encoded, small, decoded⟩ := carried
  rw [written_received groups regular level aligned encoded small] at decoded
  cases decoded
  rfl

def firstEntries (acl : AvpContainerList) (name : String) : Option (List AvpContainerEntry) :=
  (searchContainer acl name).map AvpContainer.entries

theorem firstEntries_append (acl more : AvpContainerList) (name : String) :
    firstEntries (acl ++ more) name = (firstEntries acl name).or (firstEntries more name) := by
  unfold firstEntries searchContainer
  rw [List.find?_append]
  cases List.find? _ acl <;> rfl

section Received

variable {name : String} {acl : AvpContainerList} {held : Option Octets}

theorem receivedEntries_held {receive : AvpContainerList → DiameterDictionary → AvpContainerList}
    (first : firstEntries acl name = held.map fun e => [.diamId e]) {rule : AvpParseType × QualifiedAvp}
    (named : rule.2.avp.avpName = name) (typed : rule.2.avp.avpType = .diamId) :
    receivedEntries env receive acl rule = (held.map AvpContainerEntry.diamId).toList := by
  unfold receivedEntries sentEntries
  rw [named]
  unfold firstEntries at first
  cases found : searchContainer acl name with
  | none =>
    rw [found] at first
    cases held with
    | none => rfl
    | some e => cases first
  | some c =>
    rw [found] at first
    cases held with
    | none => cases first
    | some e =>
      have entry : receivedEntry env receive rule.2.avp (.diamId e) = .diamId e := by
        unfold receivedEntry
        rw [typed]
      dsimp only
      rw [Option.some.inj first, List.map_singleton, entry]
      rfl

theorem firstEntries_rules {receive : AvpContainerList → DiameterDictionary → AvpContainerList}
    (first : firstEntries acl name = held.map fun e => [.diamId e]) {rules : List (AvpParseType × QualifiedAvp)}
    (typed : ∀ rule ∈ rules, rule.2.avp.avpName = name → rule.2.avp.avpType = .diamId) :
    firstEntries (rules.filterMap fun rule => ruleContainer rule (receivedEntries env receive acl rule)) name =
      if ∃ rule ∈ rules, rule.2.avp.avpName = name then held.map fun e => [.diamId e] else none := by
  induction rules with
  | nil => simp [firstEntries, searchContainer]
  | cons rule rules ih =>
    have rest := ih fun r member => typed r (List.mem_cons_of_mem _ member)
    by_cases named : rule.2.avp.avpName = name
    · have sent := @receivedEntries_held env name acl held receive first rule named (typed rule List.mem_cons_self named)
      rw [if_pos ⟨rule, List.mem_cons_self, named⟩]
      cases held with
      | none =>
        rw [List.filterMap_cons_none (by rw [sent]; rfl), rest]
        exact ite_self _
      | some e =>
        rw [List.filterMap_cons_some (by rw [sent]; rfl)]
        simp [firstEntries, searchContainer, named]
    · have other : (∃ r ∈ rule :: rules, r.2.avp.avpName = name) ↔ ∃ r ∈ rules, r.2.avp.avpName = name := by
        simp [named]
      rw [if_congr other rfl rfl, ← rest]
      by_cases empty : receivedEntries env receive acl rule = []
      · rw [List.filterMap_cons_none (by rw [ruleContainer, if_pos empty])]
      · rw [List.filterMap_cons_some (by rw [ruleContainer, if_neg empty])]
        simp [firstEntries, searchContainer, named]

theorem firstEntries_received (first : firstEntries acl name = held.map fun e => [.diamId e])
    (typed : ∀ rule ∈ dict.rules, rule.2.avp.avpName = name → rule.2.avp.avpType = .diamId) :
    firstEntries (received env acl dict) name =
      if Names dict name then held.map fun e => [.diamId e] else none :=
  firstEntries_rules first typed

end Received

variable {msg last : DiameterMsg} {records : List Octets}

theorem routeRecords_eq : msg.routeRecords = ((firstEntries msg.acl nameRouteRecord).getD []).filterMap asIdentity := by
  unfold DiameterMsg.routeRecords firstEntries
  cases searchContainer msg.acl nameRouteRecord <;> rfl

theorem path_holds (groups : ∀ gavp ∈ env.groupedAvpList, Regular env gavp.dict) (regular : Regular env dict)
    (typed : ∀ rule ∈ dict.rules, rule.2.avp.avpName = nameRouteRecord → rule.2.avp.avpType = .diamId)
    (unmarked : searchContainer msg.acl nameRouteRecord = none) (path : Path env dict msg records last) :
    firstEntries last.acl nameRouteRecord =
      (if Names dict nameRouteRecord then records.head? else none).map fun e => [.diamId e] := by
  induction path with
  | start =>
    rw [firstEntries, unmarked]
    split <;> rfl
  | @hop records arrived sent got node router source q path leaves request carried ih =>
    have marked := sendsOn_requestMsg source q sent leaves request
    have held : firstEntries sent.acl nameRouteRecord =
        ((if Names dict nameRouteRecord then records.head? else none).or (recorded node arrived router).head?).map fun e => [.diamId e] := by
      rw [marked, firstEntries_append, ih, Option.map_or]
      congr 1
      unfold recorded
      split <;> rfl
    rw [carried_received groups regular carried, firstEntries_received held typed]
    by_cases names : Names dict nameRouteRecord
    · rw [if_pos names, if_pos names, if_pos names, List.head?_append]
    · rw [if_neg names, if_neg names, Option.map_none]

/-- A node finds its own identity in a request if and only if the dictionary has
Route-Records and the node is the first that recorded itself on the way: a loop
that does not lead through the first relay is never seen. -/
theorem loop_seen_iff (groups : ∀ gavp ∈ env.groupedAvpList, Regular env gavp.dict) (regular : Regular env dict)
    (typed : ∀ rule ∈ dict.rules, rule.2.avp.avpName = nameRouteRecord → rule.2.avp.avpType = .diamId)
    (unmarked : searchContainer msg.acl nameRouteRecord = none) (path : Path env dict msg records last) (node : Node) :
    loopDetection node last = true ↔ Names dict nameRouteRecord ∧ records.head? = some node.identity := by
  rw [loopDetection, routeRecords_eq, path_holds groups regular typed unmarked path]
  by_cases names : Names dict nameRouteRecord
  · rw [if_pos names]
    cases records.head? with
    | none => simp
    | some e => simp [asIdentity, names, eq_comm]
  · rw [if_neg names]
    simp [names]

def destRealmEntry : DictionaryEntry :=
  ⟨"DestinationRealm", 283, .diamId, 0, flagMandatory, mandatory_unvendored, by decide⟩

def destHostEntry : DictionaryEntry :=
  ⟨"DestinationHost", 293, .diamId, 0, flagMandatory, mandatory_unvendored, by decide⟩

def routeRecordEntry : DictionaryEntry :=
  ⟨"RouteRecord", 282, .diamId, 0, flagMandatory, mandatory_unvendored, by decide⟩

/-- Where a request goes, and through which relays. -/
def tracedDictionary : DiameterDictionary :=
  ⟨[], [⟨destRealmEntry, 1, 1⟩], [⟨destHostEntry, 0, 1⟩, ⟨routeRecordEntry, 0, 9⟩]⟩

theorem regular_traced : Regular relayEnv tracedDictionary :=
  ⟨by decide, by decide, by decide, by decide, by decide +kernel⟩

def secondRelay : Node := { sampleRelay with identity := [0x6f] }

theorem carried_traced {sent : AvpContainerList} {size : Nat}
    (fits : (parseAppToRawWithDict relayEnv sent tracedDictionary ⟨List.replicate 96 0, 96, 20⟩).value?.map Buffer.wr = some size)
    (small : size - 20 < 2 ^ 24) : Carried relayEnv tracedDictionary sent (received relayEnv sent tracedDictionary) := by
  have level : Level ⟨List.replicate 96 0, 96, 20⟩ := ⟨rfl, rfl, by decide, by decide⟩
  obtain ⟨after, encoded, rfl⟩ := Outcome.exists_of_view fits
  exact ⟨_, after, level, rfl, encoded, small, written_received regular_relay_groups regular_traced level rfl encoded small⟩

def throughFirst : DiameterMsg := (appendRouteRecord sampleRelay realmRequest).setHopByHop 100

def behindFirst : DiameterMsg := { throughFirst with acl := received relayEnv throughFirst.acl tracedDictionary }

def throughSecond : DiameterMsg := (appendRouteRecord secondRelay behindFirst).setHopByHop 100

def behindSecond : DiameterMsg := { throughSecond with acl := received relayEnv throughSecond.acl tracedDictionary }

theorem path_traced : Path relayEnv tracedDictionary realmRequest [[0x6e], [0x6f]] behindSecond := by
  have first : Path relayEnv tracedDictionary realmRequest [[0x6e]] behindFirst :=
    @Path.hop relayEnv tracedDictionary realmRequest [] realmRequest throughFirst _ sampleRelay .construct (some 0) 1 .start
      List.mem_cons_self rfl (@carried_traced throughFirst.acl 56 (by decide +kernel) (by decide))
  exact @Path.hop relayEnv tracedDictionary realmRequest [[0x6e]] behindFirst throughSecond _ secondRelay .construct (some 0) 1
    first List.mem_cons_self rfl (@carried_traced throughSecond.acl 56 (by decide +kernel) (by decide))

/-- Two relays are on the path, and the second would not see a loop. -/
theorem loop_seen_iff_traced :
    Path relayEnv tracedDictionary realmRequest [[0x6e], [0x6f]] behindSecond ∧
      loopDetection sampleRelay behindSecond = true ∧ loopDetection secondRelay behindSecond ≠ true := by
  have seen := loop_seen_iff regular_relay_groups regular_traced (by decide) rfl path_traced
  exact ⟨path_traced, (seen sampleRelay).mpr (by decide), fun found => absurd ((seen secondRelay).mp found) (by decide)⟩

end Paths

end OpenDiameter.Router
