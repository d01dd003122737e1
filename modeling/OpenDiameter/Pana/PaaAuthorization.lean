import OpenDiameter.Pana.ClientAuthorization

/-! When an authentication agent authorizes its client. -/

set_option autoImplicit false

namespace OpenDiameter.Pana

open Foundation OpenDiameter.Framework

namespace Paa

open Session

section Definitions

def customs : Customs PaaAction Call where
  states := [.waitEapMsg, .waitPanOrPar, .waitSuccPba, .waitFailPba]
  succeeds c := match c with
    | .eapSuccess _ authorized => authorized
    | _ => false
  binds action := action = .exitActionTxPBREapSuccess
  restarts action := action = .openExitActionRxPRR

def Justified (log : List Happening) : Prop :=
  ∃ pbr pba : Message, pbr.avpList.resultCode = some rcodeSuccess ∧ pba.request = false ∧ pba.seq = pbr.seq ∧
    pba.sessionId = pbr.sessionId ∧ List.Sublist [.succeeded, .bindSent pbr, .bindReceived pba] log

def confirms (event : PaaEvent) : Bool := event.eap == some .success && event.authorize

variable (crypto : Crypto) (config : Config)

def Fails (machine : Machine PaaEvent) (per : Message) : Prop :=
  per.type = mtypePER ∧ machine.state ∈ (psmRxPE config).validStates ∧
    machine.session.Acceptable crypto per false ∧ (machine.session.nextRx per).avpList.resultCode ≠ none

instance (machine : Machine PaaEvent) (per : Message) : Decidable (Fails crypto config machine per) :=
  inferInstanceAs (Decidable (_ ∧ _ ∧ _ ∧ _))

structure InTurn (c : Course PaaEvent) (filtering : Draws) : Prop where
  error : ∀ per ∈ c.machine.rxMsgQueue.head?, Fails crypto config c.machine per →
    (c.machine.state ∈ customs.states → per.request = true) ∧
      (per.request = true → c.machine.state ∉ Course.finals → c.machine.eventQueue = [])
  fresh : ∀ handled ∈ (program crypto config).handles c.machine filtering, customs.starts handled.2 = true →
    ∀ notice ∈ ((program crypto config).serveMessage c.machine filtering).eventQueue.tail,
      confirms notice.event = false
  timely : ∀ handled ∈ (program crypto config).handles c.machine filtering,
    handled.2.action ≠ .exitActionEapTimeout
  /-- The answer is still queued when it is taken. -/
  kept : ∀ handled ∈ (program crypto config).handles c.machine filtering,
    handled.2.action = .exitActionRxPBASuccess ∨ handled.2.action = .exitActionRxPBAFail →
      ((program crypto config).serveMessage c.machine filtering).session.rxMsgQueue ≠ []

instance (c : Course PaaEvent) (filtering : Draws) : Decidable (InTurn crypto config c filtering) :=
  decidable_of_iff (_ ∧ _ ∧ _ ∧ _)
    ⟨fun ⟨error, fresh, timely, kept⟩ => ⟨error, fresh, timely, kept⟩,
      fun turns => ⟨turns.error, turns.fresh, turns.timely, turns.kept⟩⟩

def TakesTurns (c : Course PaaEvent) : Input Call → Prop
  | .serve filtering _ => InTurn crypto config c filtering
  | _ => True

instance (c : Course PaaEvent) (input : Input Call) : Decidable (TakesTurns crypto config c input) :=
  match input with
  | .serve _ _ => by
    unfold TakesTurns
    infer_instance
  | .receive _ | .call _ | .timeout _ => isTrue trivial

end Definitions

section Tables

/-- What an entry of the table may do to a conversation. -/
structure Lawful (entry : PaaRow) : Prop where
  finals : entry.prevState ∈ Course.finals → entry.nextState ∈ Course.finals
  awaits : entry.nextState = .waitSuccPba →
    entry.prevState = .waitSuccPba ∧
        (entry.action = .null ∨ entry.action = .exitActionTxPEA ∨ entry.action = .exitActionRetransmission) ∨
      entry.prevState = .waitEapMsg ∧ entry.action = .exitActionTxPBREapSuccess
  binds : entry.action = .exitActionTxPBREapSuccess → entry.prevState = .waitEapMsg ∧ entry.nextState = .waitSuccPba ∧
    ∃ event ∈ entry.event, confirms event = true
  authorizes : entry.action = .exitActionRxPBASuccess → entry.prevState = .waitSuccPba ∧ entry.nextState = .opened ∧
    ∃ event ∈ entry.event, event.msgType = some .pba
  /-- A bind request was not sent yet. -/
  early : entry.nextState = .waitEapMsg ∨ entry.nextState = .waitPanOrPar → entry.prevState ≠ .waitEapMsg →
    entry.prevState ≠ .waitPanOrPar → customs.starts entry = true
  restarts : entry.action = .openExitActionRxPRR → entry.nextState ∈ customs.states
  leaves : entry.prevState ∈ customs.states → entry.nextState ∉ customs.states →
    entry.nextState = .opened ∧ entry.action = .exitActionRxPBASuccess ∨
      entry.nextState = .closed ∨ entry.action = .exitActionEapTimeout
  closes : entry.prevState ∈ customs.states → entry.nextState = .closed →
    (∃ event ∈ entry.event, event.msgType = some .per) ∨
      entry.action = .exitActionTimeout ∨ entry.action = .exitActionRxPBAFail
  stays : entry.prevState ∈ customs.states → entry.nextState ∈ customs.states → decides entry.action = false

set_option synthInstance.maxSize 512 in
instance (entry : PaaRow) : Decidable (Lawful entry) :=
  decidable_of_iff (_ ∧ _ ∧ _ ∧ _ ∧ _ ∧ _ ∧ _ ∧ _ ∧ _)
    ⟨fun ⟨finals, awaits, binds, authorizes, early, restarts, leaves, closes, stays⟩ =>
        ⟨finals, awaits, binds, authorizes, early, restarts, leaves, closes, stays⟩,
      fun row => ⟨row.finals, row.awaits, row.binds, row.authorizes, row.early, row.restarts, row.leaves, row.closes, row.stays⟩⟩

theorem paaStateTable_lawful : ∀ entry ∈ paaStateTable, Lawful entry := by
  decide +kernel

/-- An error request, where it ends the session at once, and in the open state. -/
theorem paaStateTable_error :
    (∀ state ∈ [State.waitSuccPba, .waitPanOrPar, .waitFailPba, .waitEapMsg, .waitPpa],
      paaStateTable.findStateTableEntry state { msgType := some .per, fatalError := true } =
        some (paaEntry state { msgType := some .per, fatalError := true } .closed .exitActionTxPEA)) ∧
      paaStateTable.findStateTableEntry .opened { msgType := some .per, fatalError := true } =
        some (paaWildcardEntry .opened) := by
  decide +kernel

end Tables

section Filters

variable (crypto : Crypto) (config : Config) (draws : Draws) {s : Session} {msg : Message}

def Steady (s t : Session) : Prop := t.lastTxSeqNum = s.lastTxSeqNum ∧ t.sessionId = s.sessionId

theorem steady_rxValidateMsg (msg : Message) (skipAuth : Bool) :
    Imperative.Relates Steady (rxValidateMsg crypto msg skipAuth) := by
  intro s
  have how := s.validates crypto msg skipAuth
  unfold Imperative.after
  generalize rxValidateMsg crypto msg skipAuth s = result at how
  cases how with
  | accepted acceptable => exact ⟨lastTxSeqNum_count s msg, sessionId_count s msg⟩
  | unanswered => exact ⟨rfl, rfl⟩
  | resent => exact ⟨rfl, rfl⟩
  | unexpected => exact ⟨rfl, rfl⟩
  | misnumbered => exact ⟨rfl, rfl⟩
  | refusedFirst => exact ⟨rfl, rfl⟩
  | refused => exact ⟨rfl, rfl⟩

theorem psmRxPE_fails (acceptable : s.Acceptable crypto msg false) {rcode : UInt32}
    (coded : (s.nextRx msg).avpList.resultCode = some rcode) :
    (psmRxPE config).handleMessage crypto draws msg s = .ok
      (if msg.request then { msgType := some .per, fatalError := true } else { msgType := some .pea })
      ({ (s.count msg).saveAddress msg with rxMsgQueue := (s.rxMsgQueue ++ [msg]).tail }.error config draws rcode) := by
  have next : ((s.count msg).saveAddress msg).nextRx msg = s.nextRx msg := by
    unfold nextRx
    rw [rxMsgQueue_saveAddress, rxMsgQueue_count]
  rw [handleMessage_of_acceptable rfl acceptable]
  unfold psmRxPE
  simp only [Imperative.bind_run, Imperative.modify_run, Imperative.get_run, Imperative.pure_run]
  rw [rxPER_run, next, coded]
  dsimp only
  rw [rxMsgQueue_saveAddress, rxMsgQueue_count]
  rfl

theorem psmRxPE_spares (spared : ¬(s.Acceptable crypto msg false ∧ (s.nextRx msg).avpList.resultCode ≠ none)) :
    (((psmRxPE config).handleMessage crypto draws msg).after s).verdicts = s.verdicts ∧
      Steady s (((psmRxPE config).handleMessage crypto draws msg).after s) ∧
      ∀ event t, (psmRxPE config).handleMessage crypto draws msg s ≠ .ok event t := by
  unfold Imperative.after
  by_cases acceptable : s.Acceptable crypto msg false
  · have uncoded : (s.nextRx msg).avpList.resultCode = none := by
      by_contra coded
      exact spared ⟨acceptable, coded⟩
    have next : ((s.count msg).saveAddress msg).nextRx msg = s.nextRx msg := by
      unfold nextRx
      rw [rxMsgQueue_saveAddress, rxMsgQueue_count]
    have kept : ((s.count msg).saveAddress msg).verdicts = s.verdicts := by
      unfold verdicts
      rw [told_saveAddress, told_count]
    have steady : Steady s ((s.count msg).saveAddress msg) := by
      unfold Steady
      rw [lastTxSeqNum_saveAddress, lastTxSeqNum_count, sessionId_saveAddress, sessionId_count]
      exact ⟨rfl, rfl⟩
    rw [handleMessage_of_acceptable rfl acceptable]
    unfold psmRxPE
    simp only [Imperative.bind_run, Imperative.modify_run]
    rw [rxPER_run, next, uncoded]
    refine ⟨kept, steady, ?_⟩
    rintro event t ⟨⟩
  · have quiet := quiet_rxValidateMsg crypto msg false s
    have steady := steady_rxValidateMsg crypto msg false s
    have refused (t : Session) : rxValidateMsg crypto msg false s ≠ .ok () t :=
      fun accepted => acceptable (rxValidateMsg_ok_iff.mp accepted).1
    unfold RxFilter.handleMessage
    unfold Imperative.after at quiet steady
    rw [Imperative.bind_run]
    simp only [psmRxPE, Imperative.pure_run, Imperative.bind_run]
    cases validated : rxValidateMsg crypto msg false s with
    | ok value t => exact absurd validated (refused t)
    | error failure t =>
      rw [validated] at quiet steady
      refine ⟨quiet, steady, ?_⟩
      rintro event u ⟨⟩

theorem psmRxPBA_valid (type : msg.type = mtypePBR) {event : PaaEvent} {t : Session}
    (valid : psmRxPBA.handleMessage crypto draws msg s = .ok event t) :
    msg.request = false ∧ msg.seq = s.lastTxSeqNum ∧ msg.sessionId = s.sessionId := by
  obtain ⟨_, u, first, rest⟩ := Imperative.bind_ok_iff.mp valid
  obtain ⟨_, v, validated, _⟩ := Imperative.bind_ok_iff.mp rest
  have answer : msg.request = false ∧ u = s := by
    cases request : msg.request with
    | true =>
      have refused : ∃ e, psmRxPBA.first msg s = .error (.thrown e) s := demand_of_ne _ (by simp [request])
      obtain ⟨e, refused⟩ := refused
      cases first.symm.trans refused
    | false =>
      have passed : psmRxPBA.first msg s = .ok () s := demand_of_eq _ request
      cases first.symm.trans passed
      exact ⟨rfl, rfl⟩
  obtain ⟨request, rfl⟩ := answer
  obtain ⟨acceptable, _⟩ := rxValidateMsg_ok_iff.mp validated
  have numbered := acceptable.numbered
  unfold Session.Numbered at numbered
  rw [request] at numbered
  refine ⟨request, by simpa using numbered, ?_⟩
  rcases acceptable.addressed with other | same
  · rw [type] at other
    cases other
  · exact same

theorem steady_psmRxPBA : Imperative.Relates Steady (psmRxPBA.handleMessage crypto draws msg) := by
  have trans : ∀ s t u : Session, Steady s t → Steady t u → Steady s u :=
    fun _ _ _ one two => ⟨two.1.trans one.1, two.2.trans one.2⟩
  have refl : ∀ s : Session, Steady s s := fun _ => ⟨rfl, rfl⟩
  apply Imperative.Relates.bind trans
  · exact Imperative.Relates.ite (Imperative.relates_raise refl _) (Imperative.relates_pure refl _)
  · intro _
    apply Imperative.Relates.bind trans (steady_rxValidateMsg crypto msg _)
    intro _
    apply Imperative.Relates.bind trans
    · apply Imperative.relates_modify
      intro s
      exact ⟨lastTxSeqNum_saveAddress s msg, sessionId_saveAddress s msg⟩
    · exact fun _ => Imperative.relates_pure refl _

end Filters

section Invariant

/-- What every run keeps whose events are handled in turn. -/
structure Orderly (c : Course PaaEvent) : Prop where
  reported : ∀ notice ∈ c.machine.eventQueue, confirms notice.event = true → .succeeded ∈ c.log
  bound : c.machine.faulted = false → c.machine.state = .waitSuccPba →
    ∃ pbr : Message, pbr.avpList.resultCode = some rcodeSuccess ∧
      List.Sublist [.succeeded, .bindSent pbr] c.log ∧
      pbr.seq = c.machine.session.lastTxSeqNum ∧ pbr.sessionId = c.machine.session.sessionId
  answered : c.machine.faulted = false → c.machine.state = .waitSuccPba →
    ∀ notice ∈ c.machine.eventQueue, notice.event.msgType = some .pba → Justified c.log
  /-- No answer to a bind request waits behind a success for which none was sent. -/
  unanswered : c.machine.state = .waitEapMsg ∨ c.machine.state = .waitPanOrPar →
    c.machine.eventQueue.Pairwise fun first second =>
      confirms first.event = true → second.event.msgType ≠ some .pba
  lasts : c.machine.state ∈ customs.states → .ended ∉ c.log
  calm : c.machine.state ∉ Course.finals → ∀ notice ∈ c.machine.eventQueue, notice.event.msgType ≠ some .per

theorem Justified.mono {first second : List Happening} (justified : Justified first) (sub : first.Sublist second) :
    Justified second := by
  obtain ⟨pbr, pba, success, request, seq, sessionId, ordered⟩ := justified
  exact ⟨pbr, pba, success, request, seq, sessionId, ordered.trans sub⟩

variable {c : Course PaaEvent}

theorem Orderly.note (orderly : Orderly c) (added : Option (Notice PaaEvent)) {machine : Machine PaaEvent}
    {happenings : List Happening} (state : machine.state = c.machine.state)
    (queue : machine.eventQueue = c.machine.eventQueue ++ added.toList)
    (running : machine.faulted = false → c.machine.faulted = false)
    (reported : ∀ notice ∈ added, confirms notice.event = true → .succeeded ∈ happenings)
    (steady : c.machine.state = .waitSuccPba → Steady c.machine.session machine.session)
    (answered : c.machine.state = .waitSuccPba → ∀ notice ∈ added, notice.event.msgType = some .pba →
      ∃ pba : Message, pba.request = false ∧ pba.seq = c.machine.session.lastTxSeqNum ∧
        pba.sessionId = c.machine.session.sessionId ∧ .bindReceived pba ∈ happenings)
    (unanswered : c.machine.state = .waitEapMsg ∨ c.machine.state = .waitPanOrPar →
      ∀ notice ∈ added, notice.event.msgType ≠ some .pba)
    (spared : machine.session.ends = c.machine.session.ends ∧ .ended ∉ happenings ∨
      c.machine.state ∉ customs.states)
    (calm : c.machine.state ∈ Course.finals ∨ ∀ notice ∈ added, notice.event.msgType ≠ some .per) :
    Orderly (c.note machine happenings) := by
  have kept : c.log.Sublist (c.note machine happenings).log := Course.log_note machine happenings
  have more : (c.log ++ happenings).Sublist (c.note machine happenings).log := List.sublist_append_left _ _
  have split {notice : Notice PaaEvent} (mem : notice ∈ machine.eventQueue) :
      notice ∈ c.machine.eventQueue ∨ notice ∈ added := by
    rw [queue] at mem
    exact (List.mem_append.mp mem).imp_right Option.mem_toList.mp
  constructor
  case reported =>
    intro notice mem confirmed
    rcases split mem with old | new
    · exact kept.mem (orderly.reported notice old confirmed)
    · exact more.mem (List.mem_append_right _ (reported notice new confirmed))
  case bound =>
    intro runs waits
    have here : c.machine.state = .waitSuccPba := state ▸ waits
    obtain ⟨pbr, success, ordered, seq, sessionId⟩ := orderly.bound (running runs) here
    obtain ⟨sameSeq, sameId⟩ := steady here
    exact ⟨pbr, success, ordered.trans kept, seq.trans sameSeq.symm, sessionId.trans sameId.symm⟩
  case answered =>
    intro runs waits notice mem pba
    have here : c.machine.state = .waitSuccPba := state ▸ waits
    rcases split mem with old | new
    · exact (orderly.answered (running runs) here notice old pba).mono kept
    · obtain ⟨pbr, success, ordered, seq, sessionId⟩ := orderly.bound (running runs) here
      obtain ⟨answer, request, sameSeq, sameId, received⟩ := answered here notice new pba
      refine ⟨pbr, answer, success, request, sameSeq.trans seq.symm, sameId.trans sessionId.symm, ?_⟩
      exact (ordered.append (List.singleton_sublist.mpr received)).trans more
  case unanswered =>
    intro early
    change machine.state = _ ∨ machine.state = _ at early
    rw [state] at early
    show machine.eventQueue.Pairwise _
    rw [queue, List.pairwise_append]
    refine ⟨orderly.unanswered early, ?_, ?_⟩
    · cases added <;> simp
    · exact fun _ _ second new _ => unanswered early second (Option.mem_toList.mp new)
  case lasts =>
    intro conversing ended
    have here : c.machine.state ∈ customs.states := state ▸ conversing
    rcases spared with ⟨same, fresh⟩ | outside
    · rw [Course.note_of_same same] at ended
      rcases List.mem_append.mp ended with before | now
      · exact orderly.lasts here before
      · exact fresh now
    · exact outside here
  case calm =>
    intro active notice mem
    have here : c.machine.state ∉ Course.finals := state ▸ active
    rcases split mem with old | new
    · exact orderly.calm here notice old
    · exact (calm.resolve_left here) notice new

variable (crypto : Crypto) (config : Config)

theorem spares_serveMessage {machine : Machine PaaEvent} (filtering : Draws)
    (spared : ∀ per ∈ machine.rxMsgQueue.head?, ¬Fails crypto config machine per) :
    ((program crypto config).serveMessage machine filtering).session.verdicts = machine.session.verdicts ∧
      ∀ filter msg event s, (program crypto config).filters machine = some (filter, msg) →
        filter.handleMessage crypto filtering msg machine.session = .ok event s → event.msgType ≠ some .per := by
  rw [Program.session_serveMessage]
  cases meets : (program crypto config).filters machine with
  | none => exact ⟨rfl, by simp⟩
  | some pair =>
    obtain ⟨filter, msg⟩ := pair
    obtain ⟨head, handled, valid⟩ := Program.filters_mem meets
    by_cases error : msg.type = mtypePER
    · have found : filter = psmRxPE config := by
        rw [error] at handled
        exact (Option.some.inj handled).symm
      subst found
      have effect := psmRxPE_spares crypto config filtering fun fails =>
        spared msg head ⟨error, valid, fails.1, fails.2⟩
      refine ⟨effect.1, ?_⟩
      rintro _ _ event s ⟨⟩ valid
      exact absurd valid (effect.2.2 event s)
    · refine ⟨quiet_handleMessage crypto config filtering handled error msg machine.session, ?_⟩
      rintro _ _ event s ⟨⟩ valid per
      exact error ((resolved crypto config filtering handled msg _ _ _ valid).error per).1

/-- While an agent waits for the answer to a bind request, only this answer and errors are filtered. -/
theorem filters_waitSuccPba {machine : Machine PaaEvent} {filter : RxFilter PaaEvent} {msg : Message}
    (waits : machine.state = .waitSuccPba)
    (meets : (program crypto config).filters machine = some (filter, msg)) :
    msg.type = mtypePBR ∧ filter = psmRxPBA ∨ msg.type = mtypePER ∧ filter = psmRxPE config := by
  obtain ⟨_, handled, valid⟩ := Program.filters_mem meets
  rw [waits] at valid
  revert valid
  apply msgHandlers_cases (motive := fun type filter => .waitSuccPba ∈ filter.validStates →
    type = mtypePBR ∧ filter = psmRxPBA ∨ type = mtypePER ∧ filter = psmRxPE config) handled
  case pba => exact fun _ => Or.inl ⟨rfl, rfl⟩
  case pe => exact fun _ => Or.inr ⟨rfl, rfl⟩
  all_goals exact fun valid => absurd valid (by decide)

theorem steady_serveMessage {machine : Machine PaaEvent} (filtering : Draws) (waits : machine.state = .waitSuccPba)
    (spared : ∀ per ∈ machine.rxMsgQueue.head?, ¬Fails crypto config machine per) :
    Steady machine.session ((program crypto config).serveMessage machine filtering).session := by
  rw [Program.session_serveMessage]
  cases meets : (program crypto config).filters machine with
  | none => exact ⟨rfl, rfl⟩
  | some pair =>
    obtain ⟨filter, msg⟩ := pair
    obtain ⟨head, handled, valid⟩ := Program.filters_mem meets
    rcases filters_waitSuccPba crypto config waits meets with ⟨_, rfl⟩ | ⟨type, rfl⟩
    · exact steady_psmRxPBA crypto filtering machine.session
    · exact (psmRxPE_spares crypto config filtering fun fails =>
        spared msg head ⟨type, valid, fails.1, fails.2⟩).2.1

theorem Orderly.filter (orderly : Orderly c) (running : c.machine.faulted = false) (filtering : Draws)
    (spared : ∀ per ∈ c.machine.rxMsgQueue.head?, Fails crypto config c.machine per →
      c.machine.state ∉ customs.states ∧ (per.request = true → c.machine.state ∈ Course.finals)) :
    Orderly (c.filter (program crypto config) filtering) := by
  have state := (program crypto config).state_serveMessage c.machine filtering
  have here (conversing : c.machine.state ∈ customs.states) :
      ∀ per ∈ c.machine.rxMsgQueue.head?, ¬Fails crypto config c.machine per :=
    fun per head fails => (spared per head fails).1 conversing
  have steady (waits : c.machine.state = .waitSuccPba) :=
    steady_serveMessage crypto config filtering waits (here (waits ▸ by decide))
  have told : ((program crypto config).serveMessage c.machine filtering).session.ends = c.machine.session.ends ∧
      .ended ∉ c.admitted (program crypto config) filtering ∨ c.machine.state ∉ customs.states := by
    by_cases conversing : c.machine.state ∈ customs.states
    · have effect := spares_serveMessage crypto config filtering (here conversing)
      exact Or.inl ⟨ends_of_verdicts effect.1, by simp [Course.admitted]⟩
    · exact Or.inr conversing
  unfold Course.filter
  rcases (program crypto config).serveMessage_cases c.machine filtering with
    ⟨filter, msg, event, s, meets, valid, same⟩ | ⟨refused, queue⟩
  -- A message that the filter accepts raises its event.
  · obtain ⟨head, handled, valid_state⟩ := Program.filters_mem meets
    have how := resolved crypto config filtering handled msg _ _ _ valid
    have queue : ((program crypto config).serveMessage c.machine filtering).eventQueue =
        c.machine.eventQueue ++ (some (Notice.mk event (some msg))).toList := by
      rw [same]
      rfl
    apply orderly.note (some ⟨event, some msg⟩) state queue
    case running => exact fun _ => running
    case steady => exact steady
    case spared => exact told
    case reported =>
      rintro _ ⟨⟩ confirmed
      unfold confirms at confirmed
      rw [how.message.1] at confirmed
      cases confirmed
    case answered =>
      rintro waits _ ⟨⟩ pba
      have type := how.bind pba
      -- The bind is answered by the PBA of the request that is outstanding.
      rcases filters_waitSuccPba crypto config waits meets with ⟨_, rfl⟩ | ⟨other, _⟩
      · obtain ⟨request, seq, sessionId⟩ := psmRxPBA_valid crypto filtering type valid
        refine ⟨msg, request, seq, sessionId, ?_⟩
        have admitted : (program crypto config).admits c.machine filtering = some msg := by
          unfold Program.admits
          rw [meets, Option.bind_some]
          dsimp only
          rw [show psmRxPBA.handleMessage (program crypto config).crypto filtering msg c.machine.session =
            .ok event s from valid]
        unfold Course.admitted
        rw [admitted, Option.filter_some, if_pos (decide_eq_true type)]
        exact List.mem_cons_self
      · rw [type] at other
        cases other
    case unanswered =>
      rintro early _ ⟨⟩ pba
      rw [how.bind pba] at handled
      cases Option.some.inj handled
      rcases early with early | early
      · rw [early] at valid_state
        exact absurd valid_state (by decide)
      · rw [early] at valid_state
        exact absurd valid_state (by decide)
    case calm =>
      by_cases final : c.machine.state ∈ Course.finals
      · exact Or.inl final
      · refine Or.inr ?_
        rintro _ ⟨⟩ per
        have spares : ∀ other ∈ c.machine.rxMsgQueue.head?, ¬Fails crypto config c.machine other := by
          intro other there fails
          cases Option.mem_unique there head
          exact final ((spared msg head fails).2 (how.error per).2)
        exact (spares_serveMessage crypto config filtering spares).2 filter msg event s meets valid per
  -- What is refused leaves the events as they were.
  · apply orderly.note none state
    case queue =>
      rw [queue]
      exact (List.append_nil _).symm
    case running => exact fun _ => running
    case steady => exact steady
    case spared => exact told
    all_goals simp

theorem Orderly.drop (orderly : Orderly c) {rest : List (Notice PaaEvent)} (sub : rest <:+ c.machine.eventQueue) :
    Orderly { c with machine := { c.machine with eventQueue := rest } } where
  reported notice mem := orderly.reported notice (sub.mem mem)
  bound := orderly.bound
  answered runs waits notice mem := orderly.answered runs waits notice (sub.mem mem)
  unanswered early := (orderly.unanswered early).sublist sub.sublist
  lasts := orderly.lasts
  calm active notice mem := orderly.calm active notice (sub.mem mem)

/-- The end of the retransmissions, or of the session. -/
theorem added_act (machine : Machine PaaEvent) (acting : Draws) (entry : PaaRow) :
    ∃ added, ((program crypto config).act machine acting entry).eventQueue = machine.eventQueue ++ added ∧
      ∀ notice ∈ added, confirms notice.event = false ∧ notice.event.msgType = none := by
  obtain ⟨added, queue, each⟩ := (program crypto config).eventQueue_act machine acting entry
  refine ⟨added, queue, ?_⟩
  intro notice mem
  rcases (each notice mem).2 with stopped | ⟨s, t, performs⟩
  · rw [stopped]
    exact ⟨rfl, rfl⟩
  · rw [notified_perform crypto config acting entry.action s _ t performs notice.event rfl]
    exact ⟨rfl, rfl⟩

theorem exists_sendReqMsg (s : Session) (msg : Message) (retry : Bool) :
    ∃ sent, (s.sendReqMsg (s.protect crypto msg) retry).lastTxReqMsg = some sent ∧
      sent.avpList.resultCode = msg.avpList.resultCode ∧ sent.seq = msg.seq ∧ sent.sessionId = msg.sessionId ∧
      Steady s (s.sendReqMsg (s.protect crypto msg) retry) := by
  refine ⟨s.txPrepareMessage (s.protect crypto msg), rfl, ?_, ?_, ?_, ?_⟩
  · rw [avpList_txPrepareMessage]
    unfold protect
    cases s.sa.authKey.isSet <;> rfl
  · have same := (s.toMsgHeader_txPrepareMessage (s.protect crypto msg)).trans (s.toMsgHeader_protect crypto msg)
    exact congrArg MsgHeader.seq same
  · have same := (s.toMsgHeader_txPrepareMessage (s.protect crypto msg)).trans (s.toMsgHeader_protect crypto msg)
    exact congrArg MsgHeader.sessionId same
  · unfold sendReqMsg
    cases retry <;> exact ⟨rfl, rfl⟩

theorem bind_keeps (acting : Draws) (s : Session) (avpList : AvpList) :
    (bind crypto acting s avpList).2.resultCode = avpList.resultCode ∧
      Steady s (bind crypto acting s avpList).1 := by
  unfold bind
  by_cases limited : s.authorized = true ∧ s.sessionLifetime > 0
  · rw [if_pos limited]
    cases acting.key with
    | none => exact ⟨rfl, rfl, rfl⟩
    | some newKey => cases s.algorithmIsSet <;> exact ⟨rfl, rfl, rfl⟩
  · rw [if_neg limited]
    cases acting.key with
    | none => exact ⟨rfl, rfl, rfl⟩
    | some newKey => cases s.algorithmIsSet <;> exact ⟨rfl, rfl, rfl⟩

/-- A bind request is never refused; it may miss its EAP message. -/
theorem txPBR_not_thrown (acting : Draws) {s t : Session} {e : Exception} :
    perform crypto config acting .exitActionTxPBREapSuccess s ≠ .error (.thrown e) t := by
  unfold perform txPBR
  simp only [Imperative.bind_run, Imperative.modify_run]
  unfold dequeueEap
  cases s.txEapMessageQueue with
  | nil =>
    rintro ⟨⟩
  | cons block rest =>
    rintro ⟨⟩

theorem txPBR_binds (acting : Draws) {s t : Session} {event : Option PaaEvent}
    (performs : perform crypto config acting .exitActionTxPBREapSuccess s = .ok event t) :
    ∃ pbr, t.lastTxReqMsg = some pbr ∧ pbr.avpList.resultCode = some rcodeSuccess ∧ pbr.seq = t.lastTxSeqNum ∧
      pbr.sessionId = t.sessionId := by
  obtain ⟨_, u, sends, returns⟩ := Imperative.bind_ok_iff.mp performs
  cases returns
  obtain ⟨_, v, counts, sends⟩ := Imperative.bind_ok_iff.mp sends
  obtain ⟨block, w, _, sends⟩ := Imperative.bind_ok_iff.mp sends
  obtain ⟨code, steady⟩ := bind_keeps crypto acting w { resultCode := some rcodeSuccess, eapPayload := some block }
  have is : t = (bind crypto acting w { resultCode := some rcodeSuccess, eapPayload := some block }).1.sendReqMsg
      (protect crypto (bind crypto acting w { resultCode := some rcodeSuccess, eapPayload := some block }).1
        { type := mtypePBR
          request := true
          sessionId := w.sessionId
          seq := w.lastTxSeqNum
          avpList := (bind crypto acting w { resultCode := some rcodeSuccess, eapPayload := some block }).2 }) := by
    cases sends
    rfl
  generalize bind crypto acting w { resultCode := some rcodeSuccess, eapPayload := some block } = bound at code steady is
  obtain ⟨pbr, kept, same, seq, sessionId, unchanged⟩ := exists_sendReqMsg crypto bound.1
    { type := mtypePBR, request := true, sessionId := w.sessionId, seq := w.lastTxSeqNum, avpList := bound.2 } true
  rw [is]
  exact ⟨pbr, kept, same.trans code, seq.trans (steady.1.symm.trans unchanged.1.symm),
    sessionId.trans (steady.2.symm.trans unchanged.2.symm)⟩

/-- The actions while an agent waits for the answer to a bind request. -/
theorem steady_perform (acting : Draws) {action : PaaAction}
    (waits : action = .null ∨ action = .exitActionTxPEA ∨ action = .exitActionRetransmission) (s : Session) :
    Steady s ((perform crypto config acting action).after s) := by
  rcases waits with rfl | rfl | rfl
  · exact ⟨rfl, rfl⟩
  · exact ⟨rfl, rfl⟩
  · have same : (perform crypto config acting .exitActionRetransmission).after s =
        (Session.txLastReqMsg acting).after s := Imperative.after_bind_pure _ _ s
    rw [same]
    unfold Imperative.after Session.txLastReqMsg
    cases acting.reScheduled with
    | false => exact ⟨rfl, rfl⟩
    | true =>
      simp only [if_true]
      cases s.lastTxReqMsg <;> exact ⟨rfl, rfl⟩

theorem Orderly.act (orderly : Orderly c) (running : c.machine.faulted = false) (acting : Draws)
    (fresh : ∀ handled ∈ (program crypto config).next c.machine, customs.starts handled.2 = true →
      ∀ notice ∈ c.machine.eventQueue.tail, confirms notice.event = false) :
    Orderly (c.act (program crypto config) customs acting) := by
  rcases c.act_cases acting with ⟨_, rest, sub, is⟩ | ⟨notice, entry, rest, next, queue, found, is⟩
  · rw [is]
    have dropped := orderly.drop sub
    apply dropped.note none rfl
    case queue => exact (List.append_nil _).symm
    case steady => exact fun _ => ⟨rfl, rfl⟩
    case running => exact fun runs => runs
    case spared => exact Or.inl ⟨rfl, by simp⟩
    all_goals simp
  · obtain ⟨inTable, prev, _⟩ := StateTable.findStateTableEntry_mem found
    have handled : (notice, entry) ∈ (program crypto config).next c.machine := next
    obtain ⟨added, grown, harmless⟩ := added_act crypto config { c.machine with eventQueue := rest } acting entry
    have state : ((program crypto config).act { c.machine with eventQueue := rest } acting entry).state =
        entry.nextState := Program.state_act ..
    have session : ((program crypto config).act { c.machine with eventQueue := rest } acting entry).session =
        (perform crypto config acting entry.action).after c.machine.session := Program.session_act ..
    have completes : ((program crypto config).act { c.machine with eventQueue := rest } acting entry).faulted = false →
        ∀ t, perform crypto config acting entry.action c.machine.session ≠ .error .fault t := by
      intro runs t faults
      unfold Program.act at runs
      rw [show (program crypto config).perform acting entry.action c.machine.session = .error .fault t from faults]
        at runs
      cases runs
    generalize (program crypto config).act { c.machine with eventQueue := rest } acting entry = machine
      at is grown state session completes
    have older {other : Notice PaaEvent} (mem : other ∈ rest) : other ∈ c.machine.eventQueue :=
      queue ▸ List.mem_cons_of_mem notice mem
    have split {other : Notice PaaEvent} (mem : other ∈ machine.eventQueue) : other ∈ rest ∨ other ∈ added := by
      rw [grown] at mem
      exact List.mem_append.mp mem
    have calm : machine.state ∉ Course.finals → ∀ other ∈ machine.eventQueue, other.event.msgType ≠ some .per := by
      intro active other mem
      have before : c.machine.state ∉ Course.finals := by
        intro final
        exact active (state ▸ (paaStateTable_lawful entry inTable).finals (prev ▸ final))
      rcases split mem with old | new
      · exact orderly.calm before other (older old)
      · rw [(harmless other new).2]
        simp
    cases starts : customs.starts entry with
    | true =>
      rw [is, if_pos starts]
      have elsewhere : machine.state ≠ .waitSuccPba := by
        intro waits
        -- A conversation does not start there, and EAP is not started again there.
        have known := (paaStateTable_lawful entry inTable).awaits (state ▸ waits)
        unfold Customs.starts at starts
        rcases known with ⟨before, action⟩ | ⟨before, action⟩
        · rcases action with action | action | action <;> simp [customs, before, action] at starts
        · simp [customs, before, action] at starts
      constructor
      case reported =>
        intro other mem confirmed
        rcases split mem with old | new
        · rw [fresh _ handled starts other (by rw [queue]; exact old)] at confirmed
          cases confirmed
        · rw [(harmless other new).1] at confirmed
          cases confirmed
      case bound => exact fun _ waits => absurd waits elsewhere
      case answered => exact fun _ waits => absurd waits elsewhere
      case unanswered =>
        intro _
        apply List.pairwise_of_forall_mem_list
        intro first mem second _ confirmed
        rcases split mem with old | new
        · rw [fresh _ handled starts first (by rw [queue]; exact old)] at confirmed
          cases confirmed
        · rw [(harmless first new).1] at confirmed
          cases confirmed
      case lasts => exact fun _ => List.not_mem_nil
      case calm => exact calm
    | false =>
      rw [is, if_neg (Bool.eq_false_iff.mp starts)]
      have kept : c.log.Sublist (c.note machine (Course.bound customs entry.action machine)).log :=
        Course.log_note machine _
      constructor
      case reported =>
        intro other mem confirmed
        rcases split mem with old | new
        · exact kept.mem (orderly.reported other (older old) confirmed)
        · rw [(harmless other new).1] at confirmed
          cases confirmed
      case bound =>
        intro runs waits
        change machine.faulted = false at runs
        show ∃ pbr : Message, _ ∧ _ ∧ pbr.seq = machine.session.lastTxSeqNum ∧
          pbr.sessionId = machine.session.sessionId
        rcases (paaStateTable_lawful entry inTable).awaits (state ▸ waits) with ⟨before, action⟩ | ⟨before, action⟩
        · obtain ⟨pbr, success, ordered, seq, sessionId⟩ := orderly.bound running (prev ▸ before)
          obtain ⟨sameSeq, sameId⟩ := steady_perform crypto config acting action c.machine.session
          rw [session, sameSeq, sameId]
          exact ⟨pbr, success, ordered.trans kept, seq, sessionId⟩
        · -- The bind request is sent.
          have succeeded : .succeeded ∈ c.log := by
            obtain ⟨_, _, event, here, confirmed⟩ := (paaStateTable_lawful entry inTable).binds action
            apply orderly.reported notice (queue ▸ List.mem_cons_self)
            rwa [← StateTable.event_eq_of_found found here]
          have ends := completes runs
          rw [action] at ends session
          cases performs : perform crypto config acting .exitActionTxPBREapSuccess c.machine.session with
          | error failure t =>
            cases failure with
            | fault => exact absurd performs (ends t)
            | thrown e => exact absurd performs (txPBR_not_thrown crypto config acting)
          | ok event t =>
            obtain ⟨pbr, remembered, success, seq, sessionId⟩ := txPBR_binds crypto config acting performs
            have left : machine.session = t := by
              rw [session, Imperative.after_of_ok performs]
            rw [left]
            refine ⟨pbr, success, ?_, seq, sessionId⟩
            have sent : Course.bound customs entry.action machine = [.bindSent pbr] := by
              unfold Course.bound
              rw [action, left, remembered, runs]
              rfl
            rw [sent]
            have sub : List.Sublist (c.log ++ [.bindSent pbr]) (c.note machine [.bindSent pbr]).log :=
              List.sublist_append_left _ _
            exact ((List.singleton_sublist.mpr succeeded).append (List.Sublist.refl [.bindSent pbr])).trans sub
      case answered =>
        intro _ waits other mem pba
        rcases split mem with old | new
        · rcases (paaStateTable_lawful entry inTable).awaits (state ▸ waits) with ⟨before, _⟩ | ⟨_, action⟩
          · exact (orderly.answered running (prev ▸ before) other (older old) pba).mono kept
          · obtain ⟨before, _, event, here, confirmed⟩ := (paaStateTable_lawful entry inTable).binds action
            have ordered := orderly.unanswered (Or.inl (prev ▸ before))
            rw [queue] at ordered
            have first : confirms notice.event = true := by rwa [← StateTable.event_eq_of_found found here]
            exact absurd pba (List.rel_of_pairwise_cons ordered old first)
        · rw [(harmless other new).2] at pba
          cases pba
      case unanswered =>
        intro early
        change machine.state = _ ∨ machine.state = _ at early
        rw [state] at early
        have before : c.machine.state = .waitEapMsg ∨ c.machine.state = .waitPanOrPar := by
          rw [← prev]
          by_contra late
          simp only [not_or] at late
          exact absurd ((paaStateTable_lawful entry inTable).early early late.1 late.2) (Bool.eq_false_iff.mp starts)
        have ordered := orderly.unanswered before
        rw [queue] at ordered
        show machine.eventQueue.Pairwise _
        rw [grown, List.pairwise_append]
        refine ⟨ordered.of_cons, ?_, ?_⟩
        · apply List.pairwise_of_forall_mem_list
          intro first mem second _ confirmed
          rw [(harmless first mem).1] at confirmed
          cases confirmed
        · intro first _ second new _
          rw [(harmless second new).2]
          simp
      case lasts =>
        intro conversing ended
        change machine.state ∈ customs.states at conversing
        rw [state] at conversing
        have before : entry.prevState ∈ customs.states := by
          by_contra outside
          have entered : customs.starts entry = true := by simp [Customs.starts, outside, conversing]
          rw [starts] at entered
          cases entered
        have told : machine.session.ends = c.machine.session.ends := by
          rw [session]
          exact ends_of_verdicts
            (quiet_perform crypto config acting ((paaStateTable_lawful entry inTable).stays before conversing) _)
        rw [Course.note_of_same told] at ended
        rcases List.mem_append.mp ended with old | new
        · exact orderly.lasts (prev ▸ before) old
        · revert new
          unfold Course.bound
          split <;> simp
      case calm => exact calm

end Invariant

section Steps

variable (crypto : Crypto) (config : Config) {c : Course PaaEvent}

theorem silent_perform (draws : Draws) {action : PaaAction} (other : action ≠ .exitActionRxPBASuccess) :
    Silent (perform crypto config draws action) := by
  cases decisive : decides action with
  | false => exact (quiet_perform crypto config draws decisive).silent
  | true =>
    have returns {x : SessionM} (silent : Silent x) : Silent (do x; return (none : Option PaaEvent)) :=
      silent.bind fun _ => (quiet_pure none).silent
    cases action
    case exitActionRxPBASuccess => exact absurd rfl other
    case exitActionRxPBAFail =>
      apply returns
      apply quiet_dequeueRx.silent.bind
      intro msg
      exact Silent.bind (quiet_modify fun s => rfl).silent fun _ => silent_disconnect config draws 0
    case exitActionEapTimeout =>
      apply returns
      apply Imperative.relates_modify
      intro s
      exact (authorizations_finish config draws rfl _).trans rfl
    case waitPEAExitActionRxPEA =>
      apply returns
      apply quiet_dequeueRx.silent.bind
      intro msg
      exact Silent.bind (quiet_modify fun s => rfl).silent fun _ => silent_disconnect config draws 0
    case openExitActionRxPTR =>
      apply returns
      apply quiet_dequeueRx.silent.bind
      intro msg
      exact Silent.bind (quiet_modify fun s => rfl).silent fun _ => silent_disconnect config draws _
    case sessExitActionRxPTA => exact returns (silent_disconnect config draws 0)
    case exitActionTimeout => exact returns (silent_disconnect config draws _)
    all_goals cases decisive

/-- The receive filters of an agent never call `Authorize`. -/
theorem silent_handleMessage (draws : Draws) {filter : RxFilter PaaEvent} {type : MType}
    (handles : msgHandlers config type = some filter) (msg : Message) :
    Silent (filter.handleMessage crypto draws msg) := by
  by_cases error : type = mtypePER
  · subst error
    cases Option.some.inj handles
    refine Silent.bind (quiet_pure _).silent fun _ => (quiet_rxValidateMsg crypto msg _).silent.bind fun _ => ?_
    refine Silent.bind (quiet_modify fun s => verdicts_saveAddress s msg).silent fun _ => ?_
    apply (silent_rxPER config draws).bind
    intro _
    exact quiet_get.silent.bind fun s => (quiet_pure _).silent
  · exact (quiet_handleMessage crypto config draws handles error msg).silent

theorem authorizations_serveMessage (machine : Machine PaaEvent) (filtering : Draws) :
    ((program crypto config).serveMessage machine filtering).session.authorizations =
      machine.session.authorizations := by
  rw [Program.session_serveMessage]
  cases meets : (program crypto config).filters machine with
  | none => rfl
  | some pair =>
    exact silent_handleMessage crypto config filtering (Program.filters_mem meets).2.1 pair.2 machine.session

/-- What the answer to a bind request does, if it is still queued. -/
theorem rxPBA_run (draws : Draws) (success : Bool) {s : Session} {msg : Message} {rest : List Message}
    (queue : s.rxMsgQueue = msg :: rest) :
    (rxPBA config draws success).after s =
      if success then notifyAuthorization { s with rxMsgQueue := rest }.cancelTxRetry.notifyScheduleLifetime
      else { s with rxMsgQueue := rest }.cancelTxRetry.disconnect config draws := by
  unfold rxPBA
  rw [after_dequeueRx_bind, queue]
  dsimp only
  rw [Imperative.after_modify_bind]
  cases success <;> rfl

theorem ends_closes (draws : Draws) {action : PaaAction} (s : Session)
    (closes : action = .exitActionTimeout ∨ action = .exitActionRxPBAFail)
    (kept : action = .exitActionRxPBAFail → s.rxMsgQueue ≠ []) :
    ((perform crypto config draws action).after s).ends ≠ s.ends := by
  have tells (t : Session) (cause : UInt32) (same : t.ends = s.ends) : (t.disconnect config draws cause).ends ≠ s.ends := by
    have told : (t.disconnect config draws cause).ends = t.ends ++ [.disconnect cause] := ends_finish config draws rfl t
    rw [told, same]
    simp
  rcases closes with rfl | rfl
  · exact tells s _ rfl
  · obtain ⟨msg, rest, queue⟩ := List.exists_cons_of_ne_nil (kept rfl)
    have same : (perform crypto config draws .exitActionRxPBAFail).after s = (rxPBA config draws false).after s :=
      Imperative.after_bind_pure _ _ s
    rw [same, rxPBA_run config draws false queue]
    exact tells _ 0 rfl

theorem Orderly.sound_act (orderly : Orderly c) (running : c.machine.faulted = false) (acting : Draws)
    {notice : Notice PaaEvent} {entry : PaaRow}
    {rest : List (Notice PaaEvent)} (queue : c.machine.eventQueue = notice :: rest)
    (found : paaStateTable.findStateTableEntry c.machine.state notice.event = some entry)
    (timely : entry.action ≠ .exitActionEapTimeout)
    (kept : entry.action = .exitActionRxPBASuccess ∨ entry.action = .exitActionRxPBAFail →
      c.machine.session.rxMsgQueue ≠ [])
    (machine : Machine PaaEvent) (state : machine.state = entry.nextState)
    (session : machine.session = (perform crypto config acting entry.action).after c.machine.session)
    {happenings : List Happening} (unended : .ended ∉ happenings) :
    (machine.session.authorizations ≠ c.machine.session.authorizations →
      c.machine.state ∈ customs.states ∧ machine.state = .opened ∧ Justified c.log) ∧
    (c.machine.state ∈ customs.states → machine.state ∉ customs.states →
      (machine.state = .opened ∧ .ended ∉ (c.note machine happenings).log ∧
        machine.session.authorizations = c.machine.session.authorizations + 1) ∨
      (machine.state = .closed ∧ .ended ∈ (c.note machine happenings).log ∧
        machine.session.authorizations = c.machine.session.authorizations)) := by
  obtain ⟨inTable, prev, _⟩ := StateTable.findStateTableEntry_mem found
  rw [state]
  by_cases opens : entry.action = .exitActionRxPBASuccess
  · obtain ⟨before, after, event, here, pba⟩ := (paaStateTable_lawful entry inTable).authorizes opens
    obtain ⟨msg, others, messages⟩ := List.exists_cons_of_ne_nil (kept (Or.inl opens))
    have left : machine.session = notifyAuthorization
        { c.machine.session with rxMsgQueue := others }.cancelTxRetry.notifyScheduleLifetime := by
      have same : (perform crypto config acting .exitActionRxPBASuccess).after c.machine.session =
          (rxPBA config acting true).after c.machine.session := Imperative.after_bind_pure _ _ _
      rw [session, opens, same, rxPBA_run config acting true messages]
      rfl
    have grows : machine.session.authorizations = c.machine.session.authorizations + 1 := by
      rw [left]
      exact List.countP_append
    have waits : c.machine.state = .waitSuccPba := prev ▸ before
    constructor
    · intro _
      refine ⟨waits ▸ by decide, after, ?_⟩
      apply orderly.answered running waits notice (queue ▸ List.mem_cons_self)
      rwa [← StateTable.event_eq_of_found found here]
    · intro conversing _
      refine Or.inl ⟨after, ?_, grows⟩
      have told : machine.session.ends = c.machine.session.ends := by
        rw [left]
        exact (List.filter_append _ _).trans (List.append_nil _)
      rw [Course.note_of_same told]
      intro ended
      rcases List.mem_append.mp ended with old | new
      · exact orderly.lasts conversing old
      · exact unended new
  · have same : machine.session.authorizations = c.machine.session.authorizations := by
      rw [session]
      exact silent_perform crypto config acting opens _
    constructor
    · exact fun other => absurd same other
    · intro conversing gone
      have here : entry.prevState ∈ customs.states := prev.symm ▸ conversing
      rcases (paaStateTable_lawful entry inTable).leaves here gone with ⟨_, opened⟩ | closed | timedOut
      · exact absurd opened opens
      · refine Or.inr ⟨closed, ?_, same⟩
        rcases (paaStateTable_lawful entry inTable).closes here closed with ⟨event, named, per⟩ | closes
        · have active : c.machine.state ∉ Course.finals := by
            intro final
            revert conversing
            revert final
            generalize c.machine.state = st
            revert st
            decide
          have calm := orderly.calm active notice (queue ▸ List.mem_cons_self)
          rw [StateTable.event_eq_of_found found named] at per
          exact absurd per calm
        · apply Course.ended_note
          rw [session]
          exact ends_closes crypto config acting _ closes fun fails => kept (Or.inr fails)
      · exact absurd timedOut timely

theorem Orderly.sound_of_act {f : Course PaaEvent} (orderly : Orderly f) (running : f.machine.faulted = false)
    {input : Input Call} {acting : Draws}
    (step : c.step (program crypto config) customs input = f.act (program crypto config) customs acting)
    (state : f.machine.state = c.machine.state)
    (authorizations : f.machine.session.authorizations = c.machine.session.authorizations)
    (timely : ∀ handled ∈ (program crypto config).next f.machine, handled.2.action ≠ .exitActionEapTimeout)
    (kept : ∀ handled ∈ (program crypto config).next f.machine,
      handled.2.action = .exitActionRxPBASuccess ∨ handled.2.action = .exitActionRxPBAFail →
        f.machine.session.rxMsgQueue ≠ [])
    (after : Orderly (f.act (program crypto config) customs acting)) :
    c.Sound (program crypto config) customs Justified input := by
  have lasts : (f.act (program crypto config) customs acting).machine.state ∈ customs.states →
      .ended ∈ (f.act (program crypto config) customs acting).log →
        (f.act (program crypto config) customs acting).machine.state = .waitEapResultClose :=
    fun conversing ended => absurd ended (after.lasts conversing)
  rcases f.act_cases acting with ⟨_, rest, _, is⟩ | ⟨notice, entry, rest, next, queue, found, is⟩
  · apply Course.sound_of_still
    · rw [step, is]
      exact state
    · rw [step, is]
      exact authorizations
    · rw [step]
      exact lasts
  · obtain ⟨_, prev, _⟩ := StateTable.findStateTableEntry_mem found
    have unended (machine : Machine PaaEvent) : .ended ∉ Course.bound customs entry.action machine := by
      unfold Course.bound
      split <;> simp
    obtain ⟨authorizes, leaves⟩ := orderly.sound_act crypto config running acting queue found (timely _ next)
      (kept _ next) ((program crypto config).act { f.machine with eventQueue := rest } acting entry)
      (Program.state_act ..) (Program.session_act ..) (unended _)
    rw [state, authorizations] at authorizes leaves
    rw [← step] at is lasts
    cases starts : customs.starts entry with
    | true =>
      rw [if_pos starts] at is
      have opens : entry.action ≠ .exitActionRxPBASuccess := by
        intro opens
        obtain ⟨before, _⟩ := (paaStateTable_lawful entry (StateTable.findStateTableEntry_mem found).1).authorizes opens
        simp [Customs.starts, customs, before, opens] at starts
      have same : ((program crypto config).act { f.machine with eventQueue := rest } acting entry).session.authorizations =
          c.machine.session.authorizations := by
        rw [Program.session_act, ← authorizations]
        exact silent_perform crypto config acting opens _
      have enters : entry.nextState ∈ customs.states := by
        unfold Customs.starts at starts
        rcases Bool.or_eq_true_iff.mp starts with entered | restarts
        · exact (of_decide_eq_true entered).2
        · exact (paaStateTable_lawful entry (StateTable.findStateTableEntry_mem found).1).restarts (of_decide_eq_true restarts)
      constructor
      case authorizes =>
        rw [is]
        exact fun changed => absurd same changed
      case leaves =>
        rw [is]
        intro _ gone
        rw [Program.state_act] at gone
        exact absurd enters gone
      case lasts => exact lasts
    | false =>
      rw [if_neg (Bool.eq_false_iff.mp starts)] at is
      constructor
      case authorizes =>
        rw [is]
        intro changed
        obtain ⟨conversing, opened, justified⟩ := authorizes changed
        exact ⟨conversing, opened, justified.mono (Course.log_note _ _)⟩
      case leaves =>
        rw [is]
        exact leaves
      case lasts => exact lasts

theorem step_of_fails (running : c.machine.faulted = false) {per : Message}
    (head : c.machine.rxMsgQueue.head? = some per) (fails : Fails crypto config c.machine per)
    (request : per.request = true) (active : c.machine.state ∉ Course.finals) (quiet : c.machine.eventQueue = [])
    (filtering acting : Draws) :
    c.Sound (program crypto config) customs Justified (.serve filtering acting) ∧
      Orderly (c.step (program crypto config) customs (.serve filtering acting)) := by
  obtain ⟨type, valid, acceptable, coded⟩ := fails
  obtain ⟨rcode, coded⟩ := Option.ne_none_iff_exists'.mp coded
  have handled : (program crypto config).msgHandlers per.type = some (psmRxPE config) := by
    rw [type]
    rfl
  have meets : (program crypto config).filters c.machine = some (psmRxPE config, per) := by
    unfold Program.filters
    rw [head, Option.bind_some, handled, Option.filter_some, if_pos (decide_eq_true valid)]
    rfl
  have resolves := psmRxPE_fails crypto config filtering acceptable coded
  rw [if_pos request] at resolves
  generalize told_is : { (c.machine.session.count per).saveAddress per with
    rxMsgQueue := (c.machine.session.rxMsgQueue ++ [per]).tail }.error config filtering rcode = t at resolves
  have told : t.ends ≠ c.machine.session.ends := by
    have ends : t.ends = c.machine.session.ends ++ [.error rcode] := by
      rw [← told_is, ends_error]
      unfold ends
      rw [told_saveAddress, told_count]
    rw [ends]
    simp
  have authorizations : t.authorizations = c.machine.session.authorizations := by
    rw [← told_is]
    refine (authorizations_finish config filtering rfl _).trans ?_
    unfold authorizations
    rw [told_saveAddress, told_count]
  have effect : ∃ machine happenings, c.step (program crypto config) customs (.serve filtering acting) =
      c.note machine happenings ∧ machine.eventQueue = [] ∧ machine.session.ends ≠ c.machine.session.ends ∧
      machine.session.authorizations = c.machine.session.authorizations ∧
      (machine.state = .closed ∨ machine.state = .opened ∧ c.machine.state = .opened) := by
    -- An open session stays open after its error; any other is closed.
    by_cases opened : c.machine.state = .opened
    · have found := paaStateTable_error.2
      rw [← opened] at found
      exact ⟨_, _, Course.step_alone running quiet meets resolves found (by simp [Customs.starts, customs, paaWildcardEntry])
        rfl rfl rfl, rfl, told, authorizations, Or.inr ⟨opened, opened⟩⟩
    · have states : ∀ state ∈ (psmRxPE config).validStates, state ∉ Course.finals → state ≠ .opened →
          state ∈ [State.waitSuccPba, .waitPanOrPar, .waitFailPba, .waitEapMsg, .waitPpa] := by
        dsimp only [psmRxPE]
        decide
      have found := paaStateTable_error.1 c.machine.state (states _ valid active opened)
      exact ⟨_, _, Course.step_alone running quiet meets resolves found (by simp [Customs.starts, customs, paaEntry])
        rfl rfl rfl, rfl, told, authorizations, Or.inl rfl⟩
  obtain ⟨machine, happenings, is, empty, told, authorizations, decided⟩ := effect
  -- Either way the conversation is over.
  have outside : machine.state ∉ customs.states := by
    rcases decided with closed | ⟨opened, _⟩
    · rw [closed]
      decide
    · rw [opened]
      decide
  constructor
  · constructor
    case authorizes =>
      rw [is]
      exact fun changed => absurd authorizations changed
    case leaves =>
      rw [is]
      intro conversing _
      rcases decided with closed | ⟨_, opened⟩
      · exact Or.inr ⟨closed, Course.ended_note told happenings, authorizations⟩
      · rw [opened] at conversing
        exact absurd conversing (by decide)
    case lasts =>
      rw [is]
      exact fun conversing => absurd conversing outside
  · rw [is]
    have empties (notice : Notice PaaEvent) : notice ∉ (c.note machine happenings).machine.eventQueue := by
      show notice ∉ machine.eventQueue
      rw [empty]
      exact List.not_mem_nil
    have elsewhere : machine.state ≠ .waitSuccPba := by
      intro waits
      exact absurd (waits ▸ by decide) outside
    constructor
    case reported => exact fun notice mem => absurd mem (empties notice)
    case bound => exact fun _ waits => absurd waits elsewhere
    case answered => exact fun _ waits => absurd waits elsewhere
    case unanswered =>
      intro _
      show machine.eventQueue.Pairwise _
      rw [empty]
      exact List.Pairwise.nil
    case lasts => exact fun conversing => absurd conversing outside
    case calm => exact fun _ notice mem => absurd mem (empties notice)

theorem Orderly.step (orderly : Orderly c) (input : Input Call) (turns : TakesTurns crypto config c input) :
    c.Sound (program crypto config) customs Justified input ∧
      Orderly (c.step (program crypto config) customs input) := by
  -- Of most inputs it is enough that the state and the authorizations stay.
  have sound {next : Course PaaEvent} (is : c.step (program crypto config) customs input = next)
      (state : next.machine.state = c.machine.state)
      (authorizations : next.machine.session.authorizations = c.machine.session.authorizations)
      (after : Orderly next) : c.Sound (program crypto config) customs Justified input ∧
        Orderly (c.step (program crypto config) customs input) := by
    subst is
    exact ⟨Course.sound_of_still state authorizations fun here ended => absurd ended (after.lasts here), after⟩
  cases faulted : c.machine.faulted with
  | true => exact sound (if_pos faulted) rfl rfl orderly
  | false =>
    cases input with
    -- A message that arrives only waits.
    | receive msg =>
      apply sound (Course.step_receive faulted msg) rfl rfl
      apply orderly.note none
      case state => rfl
      case queue => exact (List.append_nil _).symm
      case running => exact fun runs => runs
      case steady => exact fun _ => ⟨rfl, rfl⟩
      case spared => exact Or.inl ⟨rfl, by simp⟩
      all_goals simp
    | call call =>
      -- A call of the application raises one event and tells nothing.
      have told : (Paa.call config call c.machine.session).1.told = c.machine.session.told := by
        cases call <;> rfl
      apply sound (Course.step_call faulted call) rfl (congrArg (List.countP _) told)
      apply orderly.note (some { event := (Paa.call config call c.machine.session).2 })
      case state => rfl
      case queue => rfl
      case running => exact fun runs => runs
      case steady =>
        intro _
        cases call <;> exact ⟨rfl, rfl⟩
      case spared =>
        refine Or.inl ⟨congrArg (List.filter _) told, ?_⟩
        split <;> simp
      case reported =>
        rintro _ ⟨⟩ confirmed
        cases call
        case eapSuccess req authorized =>
          have granted : customs.succeeds (.eapSuccess req authorized) = true := confirmed
          rw [if_pos granted]
          exact List.mem_cons_self
        all_goals cases confirmed
      case answered =>
        rintro _ _ ⟨⟩ pba
        cases call <;> cases pba
      case unanswered =>
        rintro _ _ ⟨⟩ pba
        cases call <;> cases pba
      case calm =>
        refine Or.inr ?_
        rintro _ ⟨⟩
        cases call <;> simp [Paa.call]
    | timeout tid =>
      have step : c.step (program crypto config) customs (.timeout tid) = _ := Course.step_timeout faulted tid
      -- A timer that is not scheduled does not expire.
      cases scheduled : c.machine.session.timers.scheduled tid with
      | false =>
        rw [scheduled, if_neg Bool.false_ne_true] at step
        apply sound step rfl rfl
        apply orderly.note none
        case state => rfl
        case queue => exact (List.append_nil _).symm
        case running => exact fun runs => runs
        case steady => exact fun _ => ⟨rfl, rfl⟩
        case spared => exact Or.inl ⟨rfl, by simp⟩
        all_goals simp
      | true =>
        rw [scheduled, if_pos rfl] at step
        apply sound step rfl rfl
        apply orderly.note (some { event := timeout tid })
        case state => rfl
        case queue => rfl
        case running => exact fun runs => runs
        case steady => exact fun _ => ⟨rfl, rfl⟩
        case spared => exact Or.inl ⟨rfl, by simp⟩
        case reported =>
          rintro _ ⟨⟩ confirmed
          cases tid <;> cases confirmed
        case answered =>
          rintro _ _ ⟨⟩ pba
          cases tid <;> cases pba
        case unanswered =>
          rintro _ _ ⟨⟩ pba
          cases tid <;> cases pba
        case calm =>
          refine Or.inr ?_
          rintro _ ⟨⟩
          cases tid <;> simp [timeout]
    | serve filtering acting =>
      -- A request that fails the filter sends a PER, which is the step of its own.
      by_cases fails : ∃ per ∈ c.machine.rxMsgQueue.head?, Fails crypto config c.machine per ∧
          per.request = true ∧ c.machine.state ∉ Course.finals
      · obtain ⟨per, head, fails, request, active⟩ := fails
        exact step_of_fails crypto config faulted head fails request active
          ((turns.error per head fails).2 request active) filtering acting
      -- What else fails is no request, or comes when the machine has ended.
      · have spared : ∀ per ∈ c.machine.rxMsgQueue.head?, Fails crypto config c.machine per →
            c.machine.state ∉ customs.states ∧ (per.request = true → c.machine.state ∈ Course.finals) := by
          intro per head failing
          have finals (request : per.request = true) : c.machine.state ∈ Course.finals := by
            by_contra active
            exact fails ⟨per, head, failing, request, active⟩
          refine ⟨?_, finals⟩
          intro conversing
          have final := finals ((turns.error per head failing).1 conversing)
          revert final conversing
          generalize c.machine.state = st
          revert st
          decide
        have filtered := orderly.filter crypto config faulted filtering spared
        have state : (c.filter (program crypto config) filtering).machine.state = c.machine.state :=
          (program crypto config).state_serveMessage c.machine filtering
        have authorizations : (c.filter (program crypto config) filtering).machine.session.authorizations =
            c.machine.session.authorizations := authorizations_serveMessage crypto config c.machine filtering
        have step : c.step (program crypto config) customs (.serve filtering acting) = _ :=
          Course.step_serve faulted filtering acting
        -- The filter may end the process; otherwise the machine handles one event.
        by_cases stops : (c.filter (program crypto config) filtering).machine.faulted = true
        · rw [if_pos stops] at step
          exact sound step state authorizations filtered
        · rw [if_neg stops] at step
          have running := Bool.eq_false_iff.mpr stops
          have handles : (program crypto config).handles c.machine filtering =
              (program crypto config).next (c.filter (program crypto config) filtering).machine := if_neg stops
          have after := filtered.act crypto config running acting
            (fun handled here => turns.fresh handled (handles ▸ here))
          have timely := turns.timely
          have kept := turns.kept
          rw [handles] at timely kept
          exact ⟨filtered.sound_of_act crypto config running step state authorizations timely kept after,
            step.symm ▸ after⟩

end Steps

end Paa

section Runs

/-- Authorization is sound in the runs in which every event is handled in turn. -/
theorem run_authorizes (crypto : Crypto) (config : Config) (s : Session) :
    (∀ inputs : List (Input Client.Call),
      Stepwise (Course.step (Client.program crypto config) Client.customs) (Client.TakesTurns crypto config)
          { machine := .opening s } inputs →
        Stepwise (Course.step (Client.program crypto config) Client.customs)
          (Course.Sound (Client.program crypto config) Client.customs · Client.Justified)
          { machine := .opening s } inputs) ∧
    ∀ inputs : List (Input Paa.Call),
      Stepwise (Course.step (Paa.program crypto config) Paa.customs) (Paa.TakesTurns crypto config)
          { machine := .opening s } inputs →
        Stepwise (Course.step (Paa.program crypto config) Paa.customs)
          (Course.Sound (Paa.program crypto config) Paa.customs · Paa.Justified)
          { machine := .opening s } inputs := by
  constructor
  · intro inputs turns
    have implies (c : Course PacEvent) (input : Input Client.Call) (orderly : Client.Orderly c) (_ : True)
        (meets : Client.TakesTurns crypto config c input) :
        c.Sound (Client.program crypto config) Client.customs Client.Justified input :=
      (orderly.step crypto config input meets).1
    have keeps (c : Course PacEvent) (input : Input Client.Call) (orderly : Client.Orderly c) (_ : True)
        (meets : Client.TakesTurns crypto config c input) :
        Client.Orderly (c.step (Client.program crypto config) Client.customs input) :=
      (orderly.step crypto config input meets).2
    apply turns.imp implies keeps ?_ fun _ _ => trivial
    constructor <;> simp [Machine.opening]
  · intro inputs turns
    have implies (c : Course PaaEvent) (input : Input Paa.Call) (orderly : Paa.Orderly c) (_ : True)
        (meets : Paa.TakesTurns crypto config c input) :
        c.Sound (Paa.program crypto config) Paa.customs Paa.Justified input :=
      (orderly.step crypto config input meets).1
    have keeps (c : Course PaaEvent) (input : Input Paa.Call) (orderly : Paa.Orderly c) (_ : True)
        (meets : Paa.TakesTurns crypto config c input) :
        Paa.Orderly (c.step (Paa.program crypto config) Paa.customs input) :=
      (orderly.step crypto config input meets).2
    apply turns.imp implies keeps ?_ fun _ _ => trivial
    constructor <;> simp [Machine.opening]

def exchanged {Call : Type} (request : Bool) (type : MType) (seq : UInt32) (avpList : AvpList) : List (Input Call) :=
  [.receive { type := type, request := request, sessionId := 7, seq := seq, avpList := avpList },
    .serve keyedDraws keyedDraws]

def called {Call : Type} (call : Call) : List (Input Call) := [.call call, .serve keyedDraws keyedDraws]

def clientConversation : List (Input Client.Call) :=
  @exchanged Client.Call true mtypePSR 41 {} ++ @exchanged Client.Call true mtypePAR 42 { eapPayload := some [1] } ++
    @called Client.Call (.eapSendResponse [2]) ++
    @exchanged Client.Call true mtypePBR 43 { eapPayload := some [3], resultCode := some rcodeSuccess } ++
    @called Client.Call .eapSuccess

def paaConversation : List (Input Paa.Call) :=
  @called Paa.Call .pacFound ++ @exchanged Paa.Call false mtypePSR 6 {} ++ @called Paa.Call (.eapSendRequest [1]) ++
    @exchanged Paa.Call false mtypePAR 7 { eapPayload := some [2] } ++ @called Paa.Call (.eapSuccess (some [3]) true) ++
    @exchanged Paa.Call false mtypePBR 8 {}

/-- Both are sound, since their events are handled in turn. -/
theorem run_authorizes_conversation :
    Stepwise (Course.step (Client.program Traffic.plainCrypto ⟨false, false, true, 3600⟩) Client.customs)
        (Course.Sound (Client.program Traffic.plainCrypto ⟨false, false, true, 3600⟩) Client.customs · Client.Justified)
        { machine := .opening (Traffic.numberedFrom 5 .pac) } clientConversation ∧
      Stepwise (Course.step (Paa.program Traffic.plainCrypto ⟨false, false, true, 3600⟩) Paa.customs)
        (Course.Sound (Paa.program Traffic.plainCrypto ⟨false, false, true, 3600⟩) Paa.customs · Paa.Justified)
        { machine := .opening (Traffic.numberedFrom 5 .paa) } paaConversation :=
  ⟨(run_authorizes Traffic.plainCrypto ⟨false, false, true, 3600⟩ (Traffic.numberedFrom 5 .pac)).1 clientConversation
      (by decide +kernel),
    (run_authorizes Traffic.plainCrypto ⟨false, false, true, 3600⟩ (Traffic.numberedFrom 5 .paa)).2 paaConversation
      (by decide +kernel)⟩

/-- A client is asked for two conversations before it handles the first request, and handles
the grant of the first one in the second. -/
def staleGrant : List (Input Client.Call) :=
  @exchanged Client.Call true mtypePSR 41 {} ++
    [Input.call Client.Call.ping, Input.call Client.Call.ping, Input.call Client.Call.ping] ++
    @exchanged Client.Call true mtypePBR 42 { eapPayload := some [3], resultCode := some rcodeSuccess } ++
    [Input.call Client.Call.eapSuccess] ++
    @exchanged Client.Call true mtypePAR 43 { eapPayload := some [1] } ++ [Input.call (Client.Call.eapSendResponse [2])] ++
    @exchanged Client.Call true mtypePBR 44 { eapPayload := some [3], resultCode := some rcodeSuccess } ++
    [Input.call Client.Call.eapSuccess] ++ List.replicate 5 (@Input.serve Client.Call keyedDraws keyedDraws)

def staleSuccess : List (Input Paa.Call) :=
  @called Paa.Call .pacFound ++ @exchanged Paa.Call false mtypePSR 6 {} ++ @called Paa.Call (.eapSendRequest [1]) ++
    @exchanged Paa.Call false mtypePAR 7 { eapPayload := some [2] } ++ @called Paa.Call (.eapSuccess (some [3]) true) ++
    [Input.call Paa.Call.ping] ++ @exchanged Paa.Call false mtypePBR 8 {} ++
    [Input.call Paa.Call.eapReAuthenticate, Input.call (Paa.Call.eapSuccess (some [4]) true)] ++
    List.replicate 3 (@Input.serve Paa.Call keyedDraws keyedDraws) ++
    [@Input.receive Paa.Call { type := mtypePBR, sessionId := 7, seq := 9 }]

/-- Events of an earlier conversation authorize a client and an agent. -/
theorem stale_event_authorizes :
    (¬∀ (crypto : Crypto) (config : Config) (s : Session) (inputs : List (Input Client.Call)),
        Stepwise (Course.step (Client.program crypto config) Client.customs)
          (Course.Sound (Client.program crypto config) Client.customs · Client.Justified)
          { machine := .opening s } inputs) ∧
      ¬∀ (crypto : Crypto) (config : Config) (s : Session) (inputs : List (Input Paa.Call)),
        Stepwise (Course.step (Paa.program crypto config) Paa.customs)
          (Course.Sound (Paa.program crypto config) Paa.customs · Paa.Justified)
          { machine := .opening s } inputs := by
  constructor
  · intro always
    have sound := always Traffic.plainCrypto ⟨false, false, true, 3600⟩ (Traffic.numberedFrom 5 .pac)
      (staleGrant ++ [.serve keyedDraws keyedDraws])
    obtain ⟨_, last, _⟩ := stepwise_append.mp sound
    obtain ⟨pbr, _, ordered⟩ := (last.authorizes (by decide +kernel)).2.2
    have unreceived : ∀ happening ∈ (Course.step (Client.program Traffic.plainCrypto ⟨false, false, true, 3600⟩)
        Client.customs (staleGrant.foldl (Course.step (Client.program Traffic.plainCrypto ⟨false, false, true, 3600⟩)
          Client.customs) { machine := .opening (Traffic.numberedFrom 5 .pac) })
        (.serve keyedDraws keyedDraws)).log, happening = .ended := by
      decide +kernel
    cases unreceived _ (ordered.mem List.mem_cons_self)
  · intro always
    have sound := always Traffic.plainCrypto ⟨false, false, true, 3600⟩ (Traffic.numberedFrom 5 .paa)
      (staleSuccess ++ [.serve keyedDraws keyedDraws])
    obtain ⟨_, last, _⟩ := stepwise_append.mp sound
    obtain ⟨pbr, pba, _, _, _, _, ordered⟩ := (last.authorizes (by decide +kernel)).2.2
    have unreported : .succeeded ∉ (Course.step (Paa.program Traffic.plainCrypto ⟨false, false, true, 3600⟩)
        Paa.customs (staleSuccess.foldl (Course.step (Paa.program Traffic.plainCrypto ⟨false, false, true, 3600⟩)
          Paa.customs) { machine := .opening (Traffic.numberedFrom 5 .paa) })
        (.serve keyedDraws keyedDraws)).log := by
      decide +kernel
    exact unreported (ordered.mem List.mem_cons_self)

end Runs

end OpenDiameter.Pana
