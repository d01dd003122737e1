import OpenDiameter.Pana.Conversation
import OpenDiameter.Pana.Errors
import OpenDiameter.Pana.Protection

/-! When a session is authorized.

Events are handled in the order they were notified, so that a conversation can be decided
by an event of an earlier one that still waits.
-/

set_option autoImplicit false

namespace OpenDiameter.Pana

open Foundation OpenDiameter.Framework

section Requests

/-- A bind request that a client may be authorized by. -/
def Message.Grants (pbr : Message) : Prop :=
  pbr.avpList.resultCode = some rcodeSuccess ∧ pbr.avpList.eapPayload.isSome = true ∧
    ∀ algorithm ∈ pbr.avpList.algorithm, algorithm = authAlgorithm

/-- A bind request after which a client tells an error. -/
def Message.Refuses (pbr : Message) : Prop :=
  (∃ rcode ∈ pbr.avpList.resultCode, rcode ≠ rcodeSuccess) ∧ pbr.avpList.eapPayload = none

instance (pbr : Message) : Decidable pbr.Grants := inferInstanceAs (Decidable (_ ∧ _ ∧ _))

instance (pbr : Message) : Decidable pbr.Refuses := inferInstanceAs (Decidable (_ ∧ _))

end Requests

namespace Client

open Session

section Definitions

def customs : Customs PacAction Call where
  states := [.waitPaa, .waitEapMsg, .waitEapResult, .waitEapResultClose, .waitPea]
  succeeds c := c = .eapSuccess
  binds _ := false
  restarts _ := false

def Justified (log : List Happening) : Prop :=
  ∃ pbr : Message, pbr.Grants ∧ List.Sublist [.bindReceived pbr, .succeeded] log

def grants (event : PacEvent) : Bool :=
  event.msgType == some .pbr && event.resultCode == some .success && event.eapPayload && !event.algorithmNotSupported

variable (crypto : Crypto) (config : Config)

def Fails (machine : Machine PacEvent) (per : Message) : Prop :=
  per.type = mtypePER ∧ per.request = true ∧ machine.state ∈ (csmRxPE config).validStates ∧
    machine.session.Acceptable crypto per false ∧ (machine.session.nextRx per).avpList.resultCode ≠ none

instance (machine : Machine PacEvent) (per : Message) : Decidable (Fails crypto config machine per) :=
  inferInstanceAs (Decidable (_ ∧ _ ∧ _ ∧ _ ∧ _))

structure InTurn (c : Course PacEvent) (filtering : Draws) : Prop where
  error : ∀ per ∈ c.machine.rxMsgQueue.head?, Fails crypto config c.machine per → c.machine.state ≠ .sessTerm →
    c.machine.eventQueue = [] ∧ (c.machine.state ∈ customs.states →
      per.avpList.auth.isSome = true ∧ c.machine.session.sa.authKey.isSet = true)
  fresh : ∀ handled ∈ (program crypto config).handles c.machine filtering, customs.starts handled.2 = true →
    ∀ notice ∈ ((program crypto config).serveMessage c.machine filtering).eventQueue.tail, grants notice.event = false
  same : ∀ handled ∈ (program crypto config).handles c.machine filtering,
    handled.2.action = .waitPaaExitActionRxPBR → handled.2.nextState = .waitEapResult →
      ∀ msg ∈ ((program crypto config).serveMessage c.machine filtering).session.rxMsgQueue.head?, ¬msg.Refuses
  answered : ∀ handled ∈ (program crypto config).handles c.machine filtering,
    c.machine.state = .waitEapResultClose → handled.1.event.eap = some .invalidMsg →
      .ended ∉ (c.filter (program crypto config) filtering).log
  /-- The answer to an error is still queued when it is taken. -/
  kept : ∀ handled ∈ (program crypto config).handles c.machine filtering,
    handled.2.action = .waitPEAExitActionRxPEA →
      ((program crypto config).serveMessage c.machine filtering).session.rxMsgQueue ≠ []

set_option synthInstance.maxSize 512 in
instance (c : Course PacEvent) (filtering : Draws) : Decidable (InTurn crypto config c filtering) :=
  decidable_of_iff (_ ∧ _ ∧ _ ∧ _ ∧ _)
    ⟨fun ⟨error, fresh, same, answered, kept⟩ => ⟨error, fresh, same, answered, kept⟩,
      fun turns => ⟨turns.error, turns.fresh, turns.same, turns.answered, turns.kept⟩⟩

def TakesTurns (c : Course PacEvent) : Input Call → Prop
  | .serve filtering _ => InTurn crypto config c filtering
  | _ => True

instance (c : Course PacEvent) (input : Input Call) : Decidable (TakesTurns crypto config c input) :=
  match input with
  | .serve _ _ => by
    unfold TakesTurns
    infer_instance
  | .receive _ | .call _ | .timeout _ => isTrue trivial

end Definitions

section Tables

structure Lawful (entry : PacRow) : Prop where
  finals : entry.prevState ∈ Course.finals → entry.nextState ∈ Course.finals
  awaits : entry.nextState = .waitEapResult → entry.prevState = .waitEapResult ∨
    entry.prevState = .waitPaa ∧ ∃ event ∈ entry.event, grants event = true
  authorizes : entry.action = .waitEapResultExitActionEapOpen →
    entry.prevState = .waitEapResult ∧ entry.nextState = .opened ∧ ∃ event ∈ entry.event, event.eap = some .success
  leaves : entry.prevState ∈ customs.states → entry.nextState ∉ customs.states →
    entry.nextState = .opened ∧ entry.action = .waitEapResultExitActionEapOpen ∨ entry.nextState = .closed
  closes : entry.prevState ∈ customs.states → entry.nextState = .closed →
    entry.prevState ∉ Course.finals ∧ (∃ event ∈ entry.event, event.msgType = some .per) ∨
      entry.action = .exitActionTimeout ∨ entry.action = .waitEapSuccessExitActionClose ∨
        entry.action = .waitEapFailExitActionClose ∨ entry.action = .waitPEAExitActionRxPEA
  stays : entry.prevState ∈ customs.states → entry.nextState ∈ customs.states → decides entry.action = false ∨
    entry.action = .waitPaaExitActionRxPBR ∧ entry.prevState = .waitPaa ∧
      (entry.nextState = .waitEapResult ∨ entry.nextState = .waitEapResultClose)
  refused : entry.prevState = .waitEapResultClose → entry.nextState ∈ customs.states →
    entry.nextState = .waitEapResultClose ∨ ∃ event ∈ entry.event, event.eap = some .invalidMsg

set_option synthInstance.maxSize 512 in
instance (entry : PacRow) : Decidable (Lawful entry) :=
  decidable_of_iff (_ ∧ _ ∧ _ ∧ _ ∧ _ ∧ _ ∧ _)
    ⟨fun ⟨finals, awaits, authorizes, leaves, closes, stays, refused⟩ =>
        ⟨finals, awaits, authorizes, leaves, closes, stays, refused⟩,
      fun row => ⟨row.finals, row.awaits, row.authorizes, row.leaves, row.closes, row.stays, row.refused⟩⟩

theorem clientStateTable_lawful : ∀ entry ∈ clientStateTable, Lawful entry := by
  decide +kernel

theorem clientStateTable_error : ∀ state ∈ [State.waitPaa, .opened, .waitEapMsg, .waitPra, .waitPpa, .waitPua],
    ∀ fatal, clientStateTable.findStateTableEntry state { msgType := some .per, fatalError := fatal } =
      some (pacEntry state { msgType := some .per, fatalError := fatal } (if fatal then .closed else state)
        .exitActionTxPEA) := by
  decide +kernel

end Tables

section Filters

variable (crypto : Crypto) (config : Config) (draws : Draws) {s : Session} {msg : Message}

theorem csmRxPE_fails (request : msg.request = true) (acceptable : s.Acceptable crypto msg false) {rcode : UInt32}
    (coded : (s.nextRx msg).avpList.resultCode = some rcode) :
    (csmRxPE config).handleMessage crypto draws msg s = .ok
      { msgType := some .per, fatalError := msg.avpList.auth.isSome && s.sa.authKey.isSet }
      ({ (s.count msg).saveAddress msg with rxMsgQueue := (s.rxMsgQueue ++ [msg]).tail }.error config draws rcode) := by
  have next : ((s.count msg).saveAddress msg).nextRx msg = s.nextRx msg := by
    unfold nextRx
    rw [rxMsgQueue_saveAddress, rxMsgQueue_count]
  rw [handleMessage_of_acceptable rfl acceptable]
  unfold csmRxPE
  simp only [Imperative.bind_run, Imperative.modify_run, Imperative.get_run, Imperative.pure_run, request, if_true]
  rw [rxPER_run, next, coded]
  dsimp only
  rw [rxMsgQueue_saveAddress, rxMsgQueue_count, sa_saveAddress, sa_count]
  rfl

theorem csmRxPE_spares (spared : ¬(msg.request = true ∧ s.Acceptable crypto msg false ∧
      (s.nextRx msg).avpList.resultCode ≠ none)) :
    (((csmRxPE config).handleMessage crypto draws msg).after s).verdicts = s.verdicts ∧
      ∀ event t, (csmRxPE config).handleMessage crypto draws msg s = .ok event t → event.msgType ≠ some .per := by
  unfold Imperative.after
  by_cases acceptable : s.Acceptable crypto msg false
  · rw [handleMessage_of_acceptable rfl acceptable]
    have kept : ((s.count msg).saveAddress msg).verdicts = s.verdicts := by
      unfold verdicts
      rw [told_saveAddress, told_count]
    unfold csmRxPE
    cases request : msg.request with
    | false =>
      simp only [Imperative.bind_run, Imperative.modify_run, Imperative.pure_run, request, Bool.false_eq_true, if_false]
      refine ⟨kept, ?_⟩
      rintro event t ⟨⟩
      simp
    | true =>
      have uncoded : (s.nextRx msg).avpList.resultCode = none := by
        by_contra coded
        exact spared ⟨request, acceptable, coded⟩
      have next : ((s.count msg).saveAddress msg).nextRx msg = s.nextRx msg := by
        unfold nextRx
        rw [rxMsgQueue_saveAddress, rxMsgQueue_count]
      simp only [Imperative.bind_run, Imperative.modify_run, Imperative.get_run, request, if_true]
      rw [rxPER_run, next, uncoded]
      refine ⟨kept, ?_⟩
      rintro event t ⟨⟩
  · have quiet := quiet_rxValidateMsg crypto msg false s
    have refused (t : Session) : rxValidateMsg crypto msg false s ≠ .ok () t :=
      fun accepted => acceptable (rxValidateMsg_ok_iff.mp accepted).1
    unfold RxFilter.handleMessage
    unfold Imperative.after at quiet
    rw [Imperative.bind_run]
    simp only [csmRxPE, Imperative.pure_run, Imperative.bind_run]
    cases validated : rxValidateMsg crypto msg false s with
    | ok value t => exact absurd validated (refused t)
    | error failure t =>
      rw [validated] at quiet
      refine ⟨quiet, ?_⟩
      rintro event u ⟨⟩

end Filters

section Invariant

/-- What every run keeps whose events are handled in turn. -/
structure Orderly (c : Course PacEvent) : Prop where
  received : ∀ notice ∈ c.machine.eventQueue, grants notice.event = true →
    ∃ pbr : Message, pbr.Grants ∧ .bindReceived pbr ∈ c.log
  awaits : c.machine.state = .waitEapResult → ∃ pbr : Message, pbr.Grants ∧ .bindReceived pbr ∈ c.log
  later : c.machine.eventQueue.Pairwise fun first second =>
    grants first.event = true → second.event.eap = some .success → Justified c.log
  awaited : c.machine.state = .waitEapResult → ∀ notice ∈ c.machine.eventQueue,
    notice.event.eap = some .success → Justified c.log
  lasts : c.machine.state ∈ customs.states → .ended ∈ c.log → c.machine.state = .waitEapResultClose
  calm : c.machine.state ∉ Course.finals → ∀ notice ∈ c.machine.eventQueue, notice.event.msgType ≠ some .per

theorem Justified.mono {first second : List Happening} (justified : Justified first) (sub : first.Sublist second) :
    Justified second := by
  obtain ⟨pbr, granted, ordered⟩ := justified
  exact ⟨pbr, granted, ordered.trans sub⟩

theorem justified_append {first second : List Happening}
    (received : ∃ pbr : Message, pbr.Grants ∧ .bindReceived pbr ∈ first) (succeeded : .succeeded ∈ second) :
    Justified (first ++ second) := by
  obtain ⟨pbr, granted, mem⟩ := received
  exact ⟨pbr, granted, (List.singleton_sublist.mpr mem).append (List.singleton_sublist.mpr succeeded)⟩

variable {c : Course PacEvent}

theorem Orderly.note (orderly : Orderly c) (added : Option (Notice PacEvent)) {machine : Machine PacEvent}
    {happenings : List Happening} (state : machine.state = c.machine.state)
    (queue : machine.eventQueue = c.machine.eventQueue ++ added.toList)
    (granted : ∀ notice ∈ added, grants notice.event = true →
      ∃ pbr : Message, pbr.Grants ∧ .bindReceived pbr ∈ happenings)
    (reported : ∀ notice ∈ added, notice.event.eap = some .success → .succeeded ∈ happenings)
    (spared : machine.session.ends = c.machine.session.ends ∧ .ended ∉ happenings ∧
        (∀ notice ∈ added, notice.event.msgType ≠ some .per) ∨ c.machine.state = .sessTerm) :
    Orderly (c.note machine happenings) := by
  have kept : c.log.Sublist (c.note machine happenings).log := Course.log_note machine happenings
  have more : (c.log ++ happenings).Sublist (c.note machine happenings).log := List.sublist_append_left _ _
  have split {notice : Notice PacEvent} (mem : notice ∈ machine.eventQueue) :
      notice ∈ c.machine.eventQueue ∨ notice ∈ added := by
    rw [queue] at mem
    exact (List.mem_append.mp mem).imp_right Option.mem_toList.mp
  constructor
  case received =>
    intro notice mem grant
    rcases split mem with old | new
    · obtain ⟨pbr, grants, here⟩ := orderly.received notice old grant
      exact ⟨pbr, grants, kept.mem here⟩
    · obtain ⟨pbr, grants, here⟩ := granted notice new grant
      exact ⟨pbr, grants, more.mem (List.mem_append_right _ here)⟩
  case awaits =>
    intro waits
    obtain ⟨pbr, grants, here⟩ := orderly.awaits (state ▸ waits)
    exact ⟨pbr, grants, kept.mem here⟩
  case later =>
    show machine.eventQueue.Pairwise _
    rw [queue, List.pairwise_append]
    refine ⟨?_, ?_, ?_⟩
    · exact orderly.later.imp fun ordered grant success => (ordered grant success).mono kept
    · cases added <;> simp
    · intro first old second new grant success
      have succeeded := reported second (Option.mem_toList.mp new) success
      exact (justified_append (orderly.received first old grant) succeeded).mono more
  case awaited =>
    intro waits notice mem success
    rcases split mem with old | new
    · exact (orderly.awaited (state ▸ waits) notice old success).mono kept
    · exact (justified_append (orderly.awaits (state ▸ waits)) (reported notice new success)).mono more
  case lasts =>
    intro conversing ended
    have here : c.machine.state ∈ customs.states := state ▸ conversing
    show machine.state = .waitEapResultClose
    rw [state]
    rcases spared with ⟨same, fresh, _⟩ | terminating
    · rw [Course.note_of_same same] at ended
      rcases List.mem_append.mp ended with before | now
      · exact orderly.lasts here before
      · exact absurd now fresh
    · rw [terminating] at here
      exact absurd here (by decide)
  case calm =>
    intro active notice mem
    have here : c.machine.state ∉ Course.finals := state ▸ active
    rcases split mem with old | new
    · exact orderly.calm here notice old
    · rcases spared with ⟨_, _, other⟩ | terminating
      · exact other notice new
      · rw [terminating] at here
        exact absurd (by decide) here

variable (crypto : Crypto) (config : Config)

theorem spares_serveMessage {machine : Machine PacEvent} (filtering : Draws)
    (spared : ∀ per ∈ machine.rxMsgQueue.head?, ¬Fails crypto config machine per) :
    ((program crypto config).serveMessage machine filtering).session.verdicts = machine.session.verdicts ∧
      ∀ filter msg event s, (program crypto config).filters machine = some (filter, msg) →
        filter.handleMessage crypto filtering msg machine.session = .ok event s → event.msgType ≠ some .per := by
  rw [Program.session_serveMessage]
  cases meets : (program crypto config).filters machine with
  | none => exact ⟨rfl, by simp⟩
  | some pair =>
    obtain ⟨filter, msg⟩ := pair
    obtain ⟨head, handled, valid⟩ := Program.filters_mem meets
    by_cases error : msg.type = mtypePER
    · have found : filter = csmRxPE config := by
        rw [error] at handled
        exact (Option.some.inj handled).symm
      subst found
      have effect := csmRxPE_spares crypto config filtering fun fails =>
        spared msg head ⟨error, fails.1, valid, fails.2.1, fails.2.2⟩
      refine ⟨effect.1, ?_⟩
      rintro _ _ event s ⟨⟩ valid
      exact effect.2 event s valid
    · refine ⟨quiet_handleMessage crypto config filtering handled error msg machine.session, ?_⟩
      rintro _ _ event s ⟨⟩ valid per
      exact error ((resolved crypto config filtering handled msg _ _ _ valid).error per).1

theorem grants_of_event {msg : Message} (granted : grants (bindEvent msg) = true) : msg.Grants := by
  unfold grants bindEvent at granted
  simp only [BEq.rfl, Bool.true_and, Bool.and_eq_true, beq_iff_eq, Option.some.injEq, Bool.not_eq_true'] at granted
  obtain ⟨⟨code, payload⟩, supported⟩ := granted
  have succeeded : msg.avpList.resultCode = some rcodeSuccess := by
    by_contra failed
    rw [if_neg failed] at code
    cases code
  rw [succeeded, BEq.rfl, Bool.true_and] at supported
  refine ⟨succeeded, payload, ?_⟩
  intro algorithm here
  rw [Option.mem_def] at here
  rw [here] at supported
  simpa using supported

theorem Orderly.filter (orderly : Orderly c) (filtering : Draws)
    (spared : (∀ per ∈ c.machine.rxMsgQueue.head?, ¬Fails crypto config c.machine per) ∨
      c.machine.state = .sessTerm) : Orderly (c.filter (program crypto config) filtering) := by
  have state := (program crypto config).state_serveMessage c.machine filtering
  unfold Course.filter Course.admitted
  rcases (program crypto config).serveMessage_cases c.machine filtering with
    ⟨filter, msg, event, s, meets, valid, same⟩ | ⟨refused, queue⟩
  · have admitted : (program crypto config).admits c.machine filtering = some msg := by
      unfold Program.admits
      rw [meets, Option.bind_some]
      dsimp only
      rw [valid]
    have how := resolved crypto config filtering (Program.filters_mem meets).2.1 msg _ _ _ valid
    apply orderly.note (some ⟨event, some msg⟩) state
    · rw [same]
      rfl
    · rintro _ ⟨⟩ granted
      have pbr : event.msgType = some .pbr := by
        unfold grants at granted
        simp only [Bool.and_eq_true, beq_iff_eq] at granted
        exact granted.1.1.1
      obtain ⟨type, is⟩ := how.bind pbr
      refine ⟨msg, grants_of_event (is ▸ granted), ?_⟩
      rw [admitted, Option.filter_some, if_pos (decide_eq_true type)]
      exact List.mem_cons_self
    · rintro _ ⟨⟩ success
      rw [how.message.1] at success
      cases success
    · rcases spared with spared | terminating
      · have effect := spares_serveMessage crypto config filtering spared
        refine Or.inl ⟨ends_of_verdicts effect.1, by simp, ?_⟩
        rintro _ ⟨⟩
        exact effect.2 filter msg event s meets valid
      · exact Or.inr terminating
  · apply orderly.note none state
    · rw [queue]
      exact (List.append_nil _).symm
    · rintro _ ⟨⟩
    · rintro _ ⟨⟩
    · rcases spared with spared | terminating
      · have effect := spares_serveMessage crypto config filtering spared
        refine Or.inl ⟨ends_of_verdicts effect.1, by simp, ?_⟩
        rintro _ ⟨⟩
      · exact Or.inr terminating

theorem Orderly.drop (orderly : Orderly c) {rest : List (Notice PacEvent)} (sub : rest <:+ c.machine.eventQueue) :
    Orderly { c with machine := { c.machine with eventQueue := rest } } where
  received notice mem := orderly.received notice (sub.mem mem)
  awaits := orderly.awaits
  later := orderly.later.sublist sub.sublist
  awaited waits notice mem := orderly.awaited waits notice (sub.mem mem)
  lasts := orderly.lasts
  calm active notice mem := orderly.calm active notice (sub.mem mem)

/-- `RxPBR` tells no end unless it takes a request that refuses. -/
theorem ends_rxPBR (draws : Draws) {s : Session} (spared : ∀ msg ∈ s.rxMsgQueue.head?, ¬msg.Refuses) :
    ((perform crypto config draws .waitPaaExitActionRxPBR).after s).ends = s.ends := by
  have same : (perform crypto config draws .waitPaaExitActionRxPBR).after s = (rxPBR config draws).after s :=
    Imperative.after_bind_pure _ _ s
  rw [same]
  unfold rxPBR
  rw [after_dequeueRx_bind]
  cases queue : s.rxMsgQueue with
  | nil => rfl
  | cons msg rest =>
    rw [queue] at spared
    have accepted := spared msg rfl
    dsimp only
    cases coded : msg.avpList.resultCode with
    | none => rfl
    | some rcode =>
      dsimp only
      simp only [Imperative.after_modify_bind]
      cases payload : msg.avpList.eapPayload with
      | some block =>
        rw [Imperative.after_modify]
        exact ends_of_verdicts (verdicts_notifyEapRequest _ block)
      | none =>
        by_cases failed : rcode ≠ rcodeSuccess
        · exact absurd ⟨⟨rcode, coded, failed⟩, payload⟩ accepted
        · rw [if_neg failed, Imperative.after_raise]
          rfl

/-- The end of the retransmissions, or of the session. -/
theorem added_act (machine : Machine PacEvent) (acting : Draws) (entry : PacRow) :
    ∃ added, ((program crypto config).act machine acting entry).eventQueue = machine.eventQueue ++ added ∧
      ∀ notice ∈ added, grants notice.event = false ∧ notice.event.eap = none ∧ notice.event.msgType = none := by
  obtain ⟨added, queue, each⟩ := (program crypto config).eventQueue_act machine acting entry
  refine ⟨added, queue, ?_⟩
  intro notice mem
  rcases (each notice mem).2 with stopped | ⟨s, t, performs⟩
  · rw [stopped]
    exact ⟨rfl, rfl, rfl⟩
  · rw [notified_perform crypto config acting entry.action s _ t performs notice.event rfl]
    exact ⟨rfl, rfl, rfl⟩

theorem Orderly.act (orderly : Orderly c) (acting : Draws)
    (fresh : ∀ handled ∈ (program crypto config).next c.machine, customs.starts handled.2 = true →
      ∀ notice ∈ c.machine.eventQueue.tail, grants notice.event = false)
    (same : ∀ handled ∈ (program crypto config).next c.machine, handled.2.action = .waitPaaExitActionRxPBR →
      handled.2.nextState = .waitEapResult → ∀ msg ∈ c.machine.session.rxMsgQueue.head?, ¬msg.Refuses)
    (answered : ∀ handled ∈ (program crypto config).next c.machine, c.machine.state = .waitEapResultClose →
      handled.1.event.eap = some .invalidMsg → .ended ∉ c.log) :
    Orderly (c.act (program crypto config) customs acting) := by
  rcases c.act_cases acting with ⟨_, rest, sub, is⟩ | ⟨notice, entry, rest, next, queue, found, is⟩
  -- The event has no row: it leaves the queue, and nothing is said of it.
  · rw [is]
    have dropped := orderly.drop sub
    exact dropped.note none rfl (List.append_nil _).symm (by simp) (by simp) (Or.inl ⟨rfl, by simp, by simp⟩)
  · obtain ⟨inTable, prev, _⟩ := StateTable.findStateTableEntry_mem found
    have handled : (notice, entry) ∈ (program crypto config).next c.machine := next
    obtain ⟨added, grown, harmless⟩ := added_act crypto config { c.machine with eventQueue := rest } acting entry
    have state : ((program crypto config).act { c.machine with eventQueue := rest } acting entry).state =
        entry.nextState := Program.state_act ..
    have session : ((program crypto config).act { c.machine with eventQueue := rest } acting entry).session =
        (perform crypto config acting entry.action).after c.machine.session := Program.session_act ..
    generalize (program crypto config).act { c.machine with eventQueue := rest } acting entry = machine
      at is grown state session
    -- What waits after the step waited before it, or was raised by the action.
    have older {other : Notice PacEvent} (mem : other ∈ rest) : other ∈ c.machine.eventQueue :=
      queue ▸ List.mem_cons_of_mem notice mem
    have calm : machine.state ∉ Course.finals → ∀ other ∈ machine.eventQueue, other.event.msgType ≠ some .per := by
      intro active other mem
      have before : c.machine.state ∉ Course.finals := by
        intro final
        exact active (state ▸ (clientStateTable_lawful entry inTable).finals (prev ▸ final))
      rw [grown] at mem
      rcases List.mem_append.mp mem with old | new
      · exact orderly.calm before other (older old)
      · rw [(harmless other new).2.2]
        simp
    -- A new conversation begins with an empty log, so that no grant may be waiting.
    cases starts : customs.starts entry with
    | true =>
      rw [is, if_pos starts]
      have entered : entry.prevState ∉ customs.states ∧ entry.nextState ∈ customs.states := by
        simpa [Customs.starts, customs] using starts
      have ungranted : ∀ other ∈ machine.eventQueue, grants other.event = false := by
        intro other mem
        rw [grown] at mem
        rcases List.mem_append.mp mem with old | new
        · exact fresh _ handled starts other (by rw [queue]; exact old)
        · exact (harmless other new).1
      -- The result is awaited only after a PBR, and a PBR does not begin a conversation.
      have elsewhere : machine.state ≠ .waitEapResult := by
        intro waits
        have known := (clientStateTable_lawful entry inTable).awaits (state ▸ waits)
        rcases known with before | ⟨before, _⟩
        · exact entered.1 (before ▸ by decide)
        · exact entered.1 (before ▸ by decide)
      constructor
      case received =>
        intro other mem granted
        rw [ungranted other mem] at granted
        cases granted
      case awaits => exact fun waits => absurd waits elsewhere
      case later =>
        apply List.pairwise_of_forall_mem_list
        intro first mem second _ granted
        rw [ungranted first mem] at granted
        cases granted
      case awaited => exact fun waits => absurd waits elsewhere
      case lasts => exact fun _ ended => absurd ended List.not_mem_nil
      case calm => exact calm
    | false =>
      rw [is, if_neg (Bool.eq_false_iff.mp starts)]
      have kept : c.log.Sublist (c.note machine (Course.bound customs entry.action machine)).log :=
        Course.log_note machine _
      constructor
      case received =>
        intro other mem granted
        change other ∈ machine.eventQueue at mem
        rw [grown] at mem
        rcases List.mem_append.mp mem with old | new
        · obtain ⟨pbr, grants, here⟩ := orderly.received other (older old) granted
          exact ⟨pbr, grants, kept.mem here⟩
        · rw [(harmless other new).1] at granted
          cases granted
      case awaits =>
        intro waits
        have received : ∃ pbr : Message, pbr.Grants ∧ .bindReceived pbr ∈ c.log := by
          rcases (clientStateTable_lawful entry inTable).awaits (state ▸ waits) with before | ⟨_, event, here, granted⟩
          · exact orderly.awaits (prev ▸ before)
          · apply orderly.received notice (queue ▸ List.mem_cons_self)
            rwa [← StateTable.event_eq_of_found found here]
        obtain ⟨pbr, grants, here⟩ := received
        exact ⟨pbr, grants, kept.mem here⟩
      -- The order of the old events is kept, and the new ones grant nothing.
      case later =>
        change machine.eventQueue.Pairwise _
        rw [grown, List.pairwise_append]
        have ordered := orderly.later
        rw [queue] at ordered
        refine ⟨?_, ?_, ?_⟩
        · exact ordered.of_cons.imp fun justified granted success => (justified granted success).mono kept
        · apply List.pairwise_of_forall_mem_list
          intro first mem second _ granted
          rw [(harmless first mem).1] at granted
          cases granted
        · intro first _ second new _ success
          rw [(harmless second new).2.1] at success
          cases success
      case awaited =>
        intro waits other mem success
        change other ∈ machine.eventQueue at mem
        rw [grown] at mem
        rcases List.mem_append.mp mem with old | new
        · rcases (clientStateTable_lawful entry inTable).awaits (state ▸ waits) with before | ⟨_, event, here, granted⟩
          · exact (orderly.awaited (prev ▸ before) other (older old) success).mono kept
          · have ordered := orderly.later
            rw [queue] at ordered
            have first : grants notice.event = true := by rwa [← StateTable.event_eq_of_found found here]
            exact (List.rel_of_pairwise_cons ordered old first success).mono kept
        · rw [(harmless other new).2.1] at success
          cases success
      case lasts =>
        intro conversing ended
        change machine.state ∈ customs.states at conversing
        change machine.state = .waitEapResultClose
        rw [state] at conversing ⊢
        -- A state of a conversation that is not entered was one before.
        have before : entry.prevState ∈ customs.states := by
          by_contra outside
          have entered : customs.starts entry = true := by simp [Customs.starts, outside, conversing]
          rw [starts] at entered
          cases entered
        have unbound : Course.bound customs entry.action machine = [] := rfl
        rw [unbound] at ended
        -- The end is in the log already, or the action is what puts it there.
        by_cases told : machine.session.ends = c.machine.session.ends
        · rw [Course.note_of_same told, List.append_nil] at ended
          have refused : entry.prevState = .waitEapResultClose := by
            rw [prev]
            exact orderly.lasts (prev ▸ before) ended
          rcases (clientStateTable_lawful entry inTable).refused refused conversing with stays | ⟨event, here, invalid⟩
          · exact stays
          · rw [StateTable.event_eq_of_found found here] at invalid
            exact absurd ended (answered _ handled (prev ▸ refused) invalid)
        · rw [session] at told
          rcases (clientStateTable_lawful entry inTable).stays before conversing with quiet | ⟨binds, _, awaits | refused⟩
          · exact absurd (ends_of_verdicts (quiet_perform crypto config acting quiet _)) told
          · rw [binds] at told
            exact absurd (ends_rxPBR crypto config acting (same _ handled binds awaits)) told
          · exact refused
      case calm => exact calm

end Invariant

section Steps

variable (crypto : Crypto) (config : Config) {c : Course PacEvent}

theorem ends_closes (draws : Draws) {action : PacAction} (s : Session)
    (closes : action = .exitActionTimeout ∨ action = .waitEapSuccessExitActionClose ∨
      action = .waitEapFailExitActionClose ∨ action = .waitPEAExitActionRxPEA)
    (kept : action = .waitPEAExitActionRxPEA → s.rxMsgQueue ≠ []) :
    ((perform crypto config draws action).after s).ends ≠ s.ends := by
  have tells (t : Session) (cause : UInt32) (same : t.ends = s.ends) : (t.disconnect config draws cause).ends ≠ s.ends := by
    have told : (t.disconnect config draws cause).ends = t.ends ++ [.disconnect cause] := ends_finish config draws rfl t
    rw [told, same]
    simp
  rcases closes with rfl | rfl | rfl | rfl
  · exact tells s _ rfl
  · exact tells _ 0 (ends_of_verdicts (verdicts_txPBA crypto draws true s))
  · exact tells _ 0 (ends_of_verdicts (verdicts_txPBA crypto draws false s))
  · obtain ⟨msg, rest, queue⟩ := List.exists_cons_of_ne_nil (kept rfl)
    have same : (perform crypto config draws .waitPEAExitActionRxPEA).after s =
        (Session.rxPEA config draws).after s := Imperative.after_bind_pure _ _ s
    rw [same]
    unfold Session.rxPEA
    rw [after_dequeueRx_bind, queue]
    exact tells _ 0 rfl

/-- An error of which the session is told while no other event waits. -/
theorem step_fails (running : c.machine.faulted = false) {per : Message} (head : c.machine.rxMsgQueue.head? = some per)
    (fails : Fails crypto config c.machine per) (other : c.machine.state ≠ .sessTerm)
    (quiet : c.machine.eventQueue = []) (filtering acting : Draws) :
    ∃ machine happenings, c.step (program crypto config) customs (.serve filtering acting) = c.note machine happenings ∧
      machine.eventQueue = [] ∧ machine.session.ends ≠ c.machine.session.ends ∧
      machine.session.authorizations = c.machine.session.authorizations ∧
      machine.state = if per.avpList.auth.isSome && c.machine.session.sa.authKey.isSet then .closed
        else c.machine.state := by
  obtain ⟨type, request, valid, acceptable, coded⟩ := fails
  obtain ⟨rcode, coded⟩ := Option.ne_none_iff_exists'.mp coded
  have handled : (program crypto config).msgHandlers per.type = some (csmRxPE config) := by
    rw [type]
    rfl
  have meets : (program crypto config).filters c.machine = some (csmRxPE config, per) := by
    unfold Program.filters
    rw [head, Option.bind_some, handled, Option.filter_some, if_pos (decide_eq_true valid)]
    rfl
  have resolves := csmRxPE_fails crypto config filtering request acceptable coded
  generalize fatal : (per.avpList.auth.isSome && c.machine.session.sa.authKey.isSet) = dies at resolves ⊢
  generalize told_is : { (c.machine.session.count per).saveAddress per with
    rxMsgQueue := (c.machine.session.rxMsgQueue ++ [per]).tail }.error config filtering rcode = t at resolves
  have told : t.ends ≠ c.machine.session.ends := by
    have ends : t.ends = c.machine.session.ends ++ [.error rcode] := by
      rw [← told_is, ends_error]
      unfold ends
      rw [told_saveAddress, told_count]
    rw [ends]
    simp
  have authorizations : t.authorizations = c.machine.session.authorizations := by
    rw [← told_is]
    refine (authorizations_finish config filtering rfl _).trans ?_
    unfold authorizations
    rw [told_saveAddress, told_count]
  have found := clientStateTable_error c.machine.state (by simpa [csmRxPE, other] using valid) dies
  have stays : customs.starts (pacEntry c.machine.state { msgType := some .per, fatalError := dies }
      (if dies then .closed else c.machine.state) .exitActionTxPEA) = false := by
    cases dies <;> simp [Customs.starts, customs, pacEntry]
  exact ⟨_, _, Course.step_alone running quiet meets resolves found stays rfl rfl rfl, rfl, told, authorizations, rfl⟩

theorem Orderly.sound_act (orderly : Orderly c) (acting : Draws) {notice : Notice PacEvent} {entry : PacRow}
    {rest : List (Notice PacEvent)} (queue : c.machine.eventQueue = notice :: rest)
    (found : clientStateTable.findStateTableEntry c.machine.state notice.event = some entry)
    (kept : entry.action = .waitPEAExitActionRxPEA → c.machine.session.rxMsgQueue ≠ [])
    (machine : Machine PacEvent) (state : machine.state = entry.nextState)
    (session : machine.session = (perform crypto config acting entry.action).after c.machine.session) :
    (machine.session.authorizations ≠ c.machine.session.authorizations →
      c.machine.state ∈ customs.states ∧ machine.state = .opened ∧ Justified c.log) ∧
    (c.machine.state ∈ customs.states → machine.state ∉ customs.states →
      (machine.state = .opened ∧ .ended ∉ (c.note machine []).log ∧
        machine.session.authorizations = c.machine.session.authorizations + 1) ∨
      (machine.state = .closed ∧ .ended ∈ (c.note machine []).log ∧
        machine.session.authorizations = c.machine.session.authorizations)) := by
  obtain ⟨inTable, prev, _⟩ := StateTable.findStateTableEntry_mem found
  rw [state]
  by_cases opens : entry.action = .waitEapResultExitActionEapOpen
  · obtain ⟨before, after, event, here, success⟩ := (clientStateTable_lawful entry inTable).authorizes opens
    have grows : machine.session.authorizations = c.machine.session.authorizations + 1 := by
      rw [session, opens, Binding.open_run]
      exact Binding.authorizations_open crypto acting _
    have waits : c.machine.state = .waitEapResult := prev ▸ before
    constructor
    · intro _
      refine ⟨waits ▸ by decide, after, ?_⟩
      apply orderly.awaited waits notice (queue ▸ List.mem_cons_self)
      rwa [← StateTable.event_eq_of_found found here]
    · intro conversing _
      refine Or.inl ⟨after, ?_, grows⟩
      have told : machine.session.ends = c.machine.session.ends := by
        rw [session, opens, Binding.open_run]
        have tells (s : Session) : (notifyAuthorization s).ends = s.ends := by
          unfold ends notifyAuthorization
          exact (List.filter_append _ _).trans (List.append_nil _)
        exact (tells _).trans (ends_of_verdicts (verdicts_txPBA crypto acting true _))
      rw [Course.note_of_same told, List.append_nil]
      intro ended
      have refused := orderly.lasts conversing ended
      rw [waits] at refused
      cases refused
  · have same : machine.session.authorizations = c.machine.session.authorizations := by
      rw [session]
      exact silent_perform crypto config acting opens _
    constructor
    · exact fun other => absurd same other
    · intro conversing gone
      have here : entry.prevState ∈ customs.states := prev.symm ▸ conversing
      rcases (clientStateTable_lawful entry inTable).leaves here gone with ⟨_, opened⟩ | closed
      · exact absurd opened opens
      · refine Or.inr ⟨closed, ?_, same⟩
        rcases (clientStateTable_lawful entry inTable).closes here closed with ⟨active, event, named, per⟩ | closes
        · have calm := orderly.calm (prev ▸ active) notice (queue ▸ List.mem_cons_self)
          rw [StateTable.event_eq_of_found found named] at per
          exact absurd per calm
        · apply Course.ended_note
          rw [session]
          exact ends_closes crypto config acting _ closes kept

theorem Orderly.sound_of_act {f : Course PacEvent} (orderly : Orderly f) {input : Input Call} {acting : Draws}
    (step : c.step (program crypto config) customs input = f.act (program crypto config) customs acting)
    (state : f.machine.state = c.machine.state)
    (authorizations : f.machine.session.authorizations = c.machine.session.authorizations)
    (kept : ∀ handled ∈ (program crypto config).next f.machine, handled.2.action = .waitPEAExitActionRxPEA →
      f.machine.session.rxMsgQueue ≠ [])
    (after : Orderly (f.act (program crypto config) customs acting)) :
    c.Sound (program crypto config) customs Justified input := by
  rcases f.act_cases acting with ⟨_, rest, _, is⟩ | ⟨notice, entry, rest, next, queue, found, is⟩
  · apply Course.sound_of_still
    · rw [step, is]
      exact state
    · rw [step, is]
      exact authorizations
    · rw [step]
      exact after.lasts
  · obtain ⟨_, prev, _⟩ := StateTable.findStateTableEntry_mem found
    obtain ⟨authorizes, leaves⟩ := orderly.sound_act crypto config acting queue found (kept _ next)
      ((program crypto config).act { f.machine with eventQueue := rest } acting entry)
      (Program.state_act ..) (Program.session_act ..)
    rw [state, authorizations] at authorizes leaves
    have lasts := after.lasts
    rw [← step] at is lasts
    cases starts : customs.starts entry with
    | true =>
      rw [if_pos starts] at is
      have entered : c.machine.state ∉ customs.states := by
        have outside : entry.prevState ∉ customs.states ∧ entry.nextState ∈ customs.states := by
          simpa [Customs.starts, customs] using starts
        exact state ▸ prev ▸ outside.1
      constructor
      case authorizes =>
        rw [is]
        exact fun changed => absurd (authorizes changed).1 entered
      case leaves => exact fun conversing => absurd conversing entered
      case lasts => exact lasts
    | false =>
      rw [if_neg (Bool.eq_false_iff.mp starts)] at is
      constructor
      case authorizes =>
        rw [is]
        intro changed
        obtain ⟨conversing, opened, justified⟩ := authorizes changed
        exact ⟨conversing, opened, justified.mono (Course.log_note _ _)⟩
      case leaves =>
        rw [is]
        exact leaves
      case lasts => exact lasts

theorem step_of_fails (running : c.machine.faulted = false) {per : Message}
    (head : c.machine.rxMsgQueue.head? = some per) (fails : Fails crypto config c.machine per)
    (other : c.machine.state ≠ .sessTerm) (quiet : c.machine.eventQueue = [])
    (fatal : c.machine.state ∈ customs.states →
      per.avpList.auth.isSome = true ∧ c.machine.session.sa.authKey.isSet = true) (filtering acting : Draws) :
    c.Sound (program crypto config) customs Justified (.serve filtering acting) ∧
      Orderly (c.step (program crypto config) customs (.serve filtering acting)) := by
  obtain ⟨machine, happenings, is, empty, told, authorizations, state⟩ :=
    step_fails crypto config running head fails other quiet filtering acting
  have closes (conversing : c.machine.state ∈ customs.states) : machine.state = .closed := by
    rw [state, (fatal conversing).1, (fatal conversing).2]
    rfl
  have decided : machine.state = .closed ∨ machine.state = c.machine.state := by
    rw [state]
    split
    · exact Or.inl rfl
    · exact Or.inr rfl
  have outside : machine.state ∉ customs.states := by
    intro conversing
    rcases decided with closed | same
    · rw [closed] at conversing
      exact absurd conversing (by decide)
    · rw [closes (same ▸ conversing)] at conversing
      exact absurd conversing (by decide)
  constructor
  · constructor
    case authorizes =>
      rw [is]
      exact fun changed => absurd authorizations changed
    case leaves =>
      rw [is]
      intro conversing _
      exact Or.inr ⟨closes conversing, Course.ended_note told happenings, authorizations⟩
    case lasts =>
      rw [is]
      exact fun conversing => absurd conversing outside
  · rw [is]
    have empties (notice : Notice PacEvent) : notice ∉ (c.note machine happenings).machine.eventQueue := by
      show notice ∉ machine.eventQueue
      rw [empty]
      exact List.not_mem_nil
    constructor
    case received => exact fun notice mem => absurd mem (empties notice)
    case awaits =>
      intro waits
      have here : machine.state = .waitEapResult := waits
      exact absurd (here ▸ by decide) outside
    case later =>
      show machine.eventQueue.Pairwise _
      rw [empty]
      exact List.Pairwise.nil
    case awaited => exact fun _ notice mem => absurd mem (empties notice)
    case lasts => exact fun conversing => absurd conversing outside
    case calm => exact fun _ notice mem => absurd mem (empties notice)

theorem Orderly.step (orderly : Orderly c) (input : Input Call) (turns : TakesTurns crypto config c input) :
    c.Sound (program crypto config) customs Justified input ∧
      Orderly (c.step (program crypto config) customs input) := by
  cases faulted : c.machine.faulted with
  | true =>
    have same : c.step (program crypto config) customs input = c := if_pos faulted
    refine ⟨Course.sound_of_still (by rw [same]) (by rw [same]) ?_, same.symm ▸ orderly⟩
    rw [same]
    exact orderly.lasts
  | false =>
    have still {next : Course PacEvent} (is : c.step (program crypto config) customs input = next)
        (state : next.machine.state = c.machine.state)
        (authorizations : next.machine.session.authorizations = c.machine.session.authorizations)
        (after : Orderly next) : c.Sound (program crypto config) customs Justified input ∧
          Orderly (c.step (program crypto config) customs input) := by
      subst is
      exact ⟨Course.sound_of_still state authorizations after.lasts, after⟩
    cases input with
    | receive msg =>
      apply still (Course.step_receive faulted msg) rfl rfl
      exact orderly.note none rfl (List.append_nil _).symm (by simp) (by simp) (Or.inl ⟨rfl, by simp, by simp⟩)
    | call call =>
      have told : (Client.call config call c.machine.session).1.told = c.machine.session.told := by
        cases call <;> rfl
      apply still (Course.step_call faulted call) rfl (congrArg (List.countP _) told)
      refine orderly.note (some { event := (Client.call config call c.machine.session).2 }) rfl rfl ?_ ?_ ?_
      · rintro _ ⟨⟩ granted
        cases call <;> cases granted
      · rintro _ ⟨⟩ success
        cases call
        case eapSuccess => exact List.mem_cons_self
        all_goals cases success
      · refine Or.inl ⟨congrArg (List.filter _) told, ?_, ?_⟩
        · cases call <;> simp [customs]
        · rintro _ ⟨⟩
          cases call <;> simp [Client.call]
    | timeout tid =>
      have step : c.step (program crypto config) customs (.timeout tid) = _ := Course.step_timeout faulted tid
      cases scheduled : c.machine.session.timers.scheduled tid with
      | false =>
        rw [scheduled, if_neg Bool.false_ne_true] at step
        apply still step rfl rfl
        exact orderly.note none rfl (List.append_nil _).symm (by simp) (by simp) (Or.inl ⟨rfl, by simp, by simp⟩)
      | true =>
        rw [scheduled, if_pos rfl] at step
        apply still step rfl rfl
        refine orderly.note (some { event := timeout config tid }) rfl rfl ?_ ?_ ?_
        · rintro _ ⟨⟩ granted
          cases tid <;> cases granted
        · rintro _ ⟨⟩ success
          cases tid <;> cases success
        · refine Or.inl ⟨rfl, by simp, ?_⟩
          rintro _ ⟨⟩
          cases tid <;> simp [timeout]
    | serve filtering acting =>
      by_cases fails : ∃ per ∈ c.machine.rxMsgQueue.head?,
          Fails crypto config c.machine per ∧ c.machine.state ≠ .sessTerm
      · obtain ⟨per, head, fails, other⟩ := fails
        obtain ⟨quiet, fatal⟩ := turns.error per head fails other
        exact step_of_fails crypto config faulted head fails other quiet fatal filtering acting
      · have spared : (∀ per ∈ c.machine.rxMsgQueue.head?, ¬Fails crypto config c.machine per) ∨
            c.machine.state = .sessTerm := by
          by_cases terminating : c.machine.state = .sessTerm
          · exact Or.inr terminating
          · exact Or.inl fun per head failing => fails ⟨per, head, failing, terminating⟩
        have filtered := orderly.filter crypto config filtering spared
        have state : (c.filter (program crypto config) filtering).machine.state = c.machine.state :=
          (program crypto config).state_serveMessage c.machine filtering
        have authorizations : (c.filter (program crypto config) filtering).machine.session.authorizations =
            c.machine.session.authorizations := Binding.authorizations_serveMessage crypto config c.machine filtering
        have step : c.step (program crypto config) customs (.serve filtering acting) = _ :=
          Course.step_serve faulted filtering acting
        by_cases stops : (c.filter (program crypto config) filtering).machine.faulted = true
        · rw [if_pos stops] at step
          exact still step state authorizations filtered
        · rw [if_neg stops] at step
          have handles : (program crypto config).handles c.machine filtering =
              (program crypto config).next (c.filter (program crypto config) filtering).machine := if_neg stops
          have after := filtered.act crypto config acting
            (fun handled here => turns.fresh handled (handles ▸ here))
            (fun handled here => turns.same handled (handles ▸ here))
            (fun handled here waits => turns.answered handled (handles ▸ here) (state ▸ waits))
          have kept := turns.kept
          rw [handles] at kept
          exact ⟨filtered.sound_of_act crypto config step state authorizations kept after, step.symm ▸ after⟩

end Steps

end Client

end OpenDiameter.Pana
