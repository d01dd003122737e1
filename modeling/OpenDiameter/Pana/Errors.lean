import OpenDiameter.Pana.Rejection
import OpenDiameter.Pana.Verdicts

/-! What an error message does to a session.

The tables tell fatal errors from others, but the filters end the session before the
table is asked, and no filter lets the answer to an error through to its entry.
-/

set_option autoImplicit false

namespace OpenDiameter.Pana

open Foundation OpenDiameter.Framework

section Purposes

structure Session.Tolerates (s : Session) (per : Message) (t : Session) : Prop where
  sessionId : t.sessionId = s.sessionId
  lastTxSeqNum : t.lastTxSeqNum = s.lastTxSeqNum
  lastRxSeqNum : t.lastRxSeqNum = (s.count per).lastRxSeqNum
  sa : t.sa = s.sa
  rxMsgQueue : t.rxMsgQueue = s.rxMsgQueue
  txEapMessageQueue : t.txEapMessageQueue = s.txEapMessageQueue
  timers : t.timers = s.timers
  ends : t.ends = s.ends
  answered : ∃ pea, t.sent = s.sent ++ [pea] ∧ pea.type = mtypePER ∧ pea.request = false ∧ pea.seq = per.seq ∧
    pea.sessionId = per.sessionId

structure Machine.Concludes {Event : Type} (before after : Machine Event) : Prop where
  state : after.state = .closed
  running : after.faulted = false
  told : ∃ cause, after.session.ends = before.session.ends ++ [.disconnect cause]

structure Machine.Meets {Event : Type} (machine : Machine Event) (msg : Message) : Prop where
  running : machine.faulted = false
  next : machine.rxMsgQueue.head? = some msg

def Machine.alone {Event : Type} (machine : Machine Event) : Machine Event := { machine with eventQueue := [] }

end Purposes

section Requests

variable {Event Action Call : Type} [DecidableEq Event] {program : Program Event Action Call}
  {machine : Machine Event} {msg : Message} {filter : RxFilter Event} {filtering acting : Draws}

theorem Machine.Meets.step_alone (meets : machine.Meets msg) (handled : program.msgHandlers msg.type = some filter)
    (valid : machine.state ∈ filter.validStates) :
    program.step machine.alone (.serve filtering acting) =
      match filter.handleMessage program.crypto filtering msg machine.session with
      | .error (.thrown _) s => { machine.alone with rxMsgQueue := machine.rxMsgQueue.tail, session := s }
      | .error .fault s => { machine.alone with rxMsgQueue := machine.rxMsgQueue.tail, session := s, faulted := true }
      | .ok event s =>
        match program.table.findStateTableEntry machine.state event with
        | none => { machine.alone with rxMsgQueue := machine.rxMsgQueue.tail, session := s }
        | some entry =>
          program.act { machine.alone with rxMsgQueue := machine.rxMsgQueue.tail, session := s } acting entry := by
  obtain ⟨rest, next⟩ := List.head?_eq_some_iff.mp meets.next
  have running : machine.alone.faulted = false := meets.running
  have same := program.serve_alone machine.alone next rfl handled valid filtering acting
  rw [Program.step_serve _ running, same, next]
  simp only [running, Bool.false_eq_true, if_false, List.tail_cons]
  rfl

/-- An error request whose filter throws is not answered, and one whose filter tells the
application of it is not tolerated, whatever its action is. -/
theorem Machine.Meets.not_tolerates (meets : machine.Meets msg)
    (handled : program.msgHandlers msg.type = some filter) (valid : machine.state ∈ filter.validStates)
    (effect : (∃ e t, filter.handleMessage program.crypto filtering msg machine.session = .error (.thrown e) t ∧
        t.sent = machine.session.sent) ∨
      ∃ event t rcode, filter.handleMessage program.crypto filtering msg machine.session = .ok event t ∧
        t.ends = machine.session.ends ++ [.error rcode] ∧
        ∀ entry, program.table.findStateTableEntry machine.state event = some entry →
          ((program.perform acting entry.action).after t).ends = t.ends) :
    ¬machine.session.Tolerates msg (program.step machine.alone (.serve filtering acting)).session := by
  rw [meets.step_alone handled valid]
  intro tolerates
  have told (t : Session) (rcode : UInt32) (same : t.ends = machine.session.ends ++ [.error rcode])
      (kept : t.ends = machine.session.ends) : False := by
    have longer := congrArg List.length (same.symm.trans kept)
    rw [List.length_append, List.length_singleton] at longer
    omega
  rcases effect with ⟨e, t, throws, sent⟩ | ⟨event, t, rcode, resolves, ends, performs⟩
  · rw [throws] at tolerates
    obtain ⟨pea, answered, _⟩ := tolerates.answered
    have longer := congrArg List.length (sent.symm.trans answered)
    rw [List.length_append, List.length_singleton] at longer
    omega
  · rw [resolves] at tolerates
    dsimp only at tolerates
    cases found : program.table.findStateTableEntry machine.state event with
    | none =>
      rw [found] at tolerates
      exact told t rcode ends tolerates.ends
    | some entry =>
      rw [found] at tolerates
      have kept := tolerates.ends
      rw [Program.session_act] at kept
      exact told _ rcode ((performs entry found).trans ends) kept

end Requests

section Effects

open Session

variable {crypto : Crypto} {config : Config} {draws : Draws} {s : Session} {msg : Message}

theorem ends_error (rcode : UInt32) : (s.error config draws rcode).ends = s.ends ++ [.error rcode] :=
  ends_finish config draws rfl s

theorem rxPER_saved (config : Config) (draws : Draws) (msg : Message) {s : Session} (u : Session) (sent : u.sent = s.sent) (told : u.told = s.told) :
    (∃ e t, rxPER config draws (u.enqueueRx msg) = .error (.thrown e) t ∧ t.sent = s.sent) ∨
      ∃ t rcode, rxPER config draws (u.enqueueRx msg) = .ok () t ∧ t.ends = s.ends ++ [.error rcode] ∧
        t.rxMsgQueue = [] := by
  rw [rxPER_run]
  cases (u.nextRx msg).avpList.resultCode with
  | none => exact Or.inl ⟨_, _, rfl, sent⟩
  | some rcode =>
    refine Or.inr ⟨_, rcode, rfl, ?_, rfl⟩
    rw [ends_error]
    show u.told.filter Callback.isEnd ++ _ = s.told.filter Callback.isEnd ++ _
    rw [told]

/-- The entries of an error request send its answer or do nothing. -/
theorem clientStateTable_per : ∀ entry ∈ clientStateTable,
    (∀ event ∈ entry.event, event.msgType = some .per) → entry.action = .exitActionTxPEA ∨ entry.action = .null := by
  decide +kernel

theorem paaStateTable_per : ∀ entry ∈ paaStateTable,
    (∀ event ∈ entry.event, event.msgType = some .per) → entry.action = .exitActionTxPEA ∨ entry.action = .null := by
  decide +kernel

theorem paaStateTable_pea : paaStateTable.findStateTableEntry .waitPea { msgType := some .pea } =
    some (paaEntry .waitPea { msgType := some .pea } .closed .waitPEAExitActionRxPEA) := by
  decide +kernel

end Effects

section Runs

open Session

variable {crypto : Crypto} {config : Config} {filtering acting : Draws} {msg : Message}

theorem handleMessage_of_acceptable {Event : Type} {filter : RxFilter Event} {draws : Draws} {s : Session}
    (first : filter.first msg s = .ok () s) (acceptable : s.Acceptable crypto msg filter.skipAuth) :
    filter.handleMessage crypto draws msg s = filter.resolve draws msg (s.count msg) := by
  unfold RxFilter.handleMessage
  rw [Imperative.bind_run, first]
  dsimp only
  rw [Imperative.bind_run, rxValidateMsg_ok_iff.mpr ⟨acceptable, rfl⟩]

theorem client_not_tolerates {machine : Machine PacEvent} (meets : machine.Meets msg) (type : msg.type = mtypePER)
    (request : msg.request = true) (valid : machine.state ∈ (Client.csmRxPE config).validStates)
    (acceptable : machine.session.Acceptable crypto msg false) :
    ¬machine.session.Tolerates msg
      ((Client.program crypto config).step machine.alone (.serve filtering acting)).session := by
  have handled : (Client.program crypto config).msgHandlers msg.type = some (Client.csmRxPE config) := by
    rw [type]
    rfl
  apply meets.not_tolerates handled valid
  rw [handleMessage_of_acceptable rfl acceptable]
  unfold Client.csmRxPE
  simp only [Imperative.bind_run, Imperative.modify_run, Imperative.get_run, Imperative.pure_run,
    request, if_true]
  have saved := rxPER_saved config filtering msg
    ((machine.session.count msg).saveAddress msg) (by simp : _ = machine.session.sent) (by simp)
  rcases saved with ⟨e, t, throws, sent⟩ | ⟨t, rcode, tells, ends, _⟩
  · exact Or.inl ⟨e, t, by rw [throws], sent⟩
  · refine Or.inr ⟨_, t, rcode, by rw [tells], ends, ?_⟩
    intro entry found
    obtain ⟨inTable, _⟩ := StateTable.findStateTableEntry_mem found
    have ofError (event : PacEvent) (here : event ∈ entry.event) : event.msgType = some .per := by
      rw [StateTable.event_eq_of_found found here]
    rcases clientStateTable_per entry inTable ofError with action | action
    · rw [action]
      rfl
    · rw [action]
      rfl

theorem paa_not_tolerates {machine : Machine PaaEvent} (meets : machine.Meets msg) (type : msg.type = mtypePER)
    (request : msg.request = true) (valid : machine.state ∈ (Paa.psmRxPE config).validStates)
    (acceptable : machine.session.Acceptable crypto msg false) :
    ¬machine.session.Tolerates msg
      ((Paa.program crypto config).step machine.alone (.serve filtering acting)).session := by
  have handled : (Paa.program crypto config).msgHandlers msg.type = some (Paa.psmRxPE config) := by
    rw [type]
    rfl
  apply meets.not_tolerates handled valid
  rw [handleMessage_of_acceptable rfl acceptable]
  unfold Paa.psmRxPE
  simp only [Imperative.bind_run, Imperative.modify_run, Imperative.get_run, Imperative.pure_run, request, if_true]
  have saved := rxPER_saved config filtering msg
    ((machine.session.count msg).saveAddress msg) (by simp : _ = machine.session.sent) (by simp)
  rcases saved with ⟨e, t, throws, sent⟩ | ⟨t, rcode, tells, ends, _⟩
  · exact Or.inl ⟨e, t, by rw [throws], sent⟩
  · refine Or.inr ⟨_, t, rcode, by rw [tells], ends, ?_⟩
    intro entry found
    obtain ⟨inTable, _⟩ := StateTable.findStateTableEntry_mem found
    have ofError (event : PaaEvent) (here : event ∈ entry.event) : event.msgType = some .per := by
      rw [StateTable.event_eq_of_found found here]
    rcases paaStateTable_per entry inTable ofError with action | action
    · rw [action]
      rfl
    · rw [action]
      rfl

theorem client_not_concludes {machine : Machine PacEvent} (type : msg.type = mtypePER)
    (waits : machine.state = .waitPea) (meets : machine.Meets msg) :
    ¬machine.Concludes ((Client.program crypto config).step machine.alone (.serve filtering acting)) := by
  intro concludes
  have closed := concludes.state
  rw [Program.state_step] at closed
  cases handled : (Client.program crypto config).handling machine.alone (.serve filtering acting) with
  | none =>
    rw [handled] at closed
    change machine.state = .closed at closed
    rw [waits] at closed
    cases closed
  | some pair =>
    obtain ⟨_, _, same, mem, _⟩ := Program.handling_mem _ _ handled
    rcases Program.mem_eventQueue_serveMessage _ _ _ mem with old | ⟨filter, other, _, filters, _⟩
    · cases old
    · obtain ⟨next, handles, valid⟩ := Program.filters_mem filters
      cases meets.next.symm.trans next
      rw [type] at handles
      cases Option.some.inj (handles.symm.trans rfl : some filter = some (Client.csmRxPE config))
      rw [show machine.alone.state = .waitPea from waits] at valid
      simp [Client.csmRxPE] at valid

/-- An agent takes the answer to its own error for an error. -/
theorem paa_not_concludes {machine : Machine PaaEvent} (meets : machine.Meets msg) (type : msg.type = mtypePER)
    (answer : msg.request = false) (waits : machine.state = .waitPea)
    (acceptable : machine.session.Acceptable crypto msg false) :
    ¬machine.Concludes ((Paa.program crypto config).step machine.alone (.serve filtering acting)) := by
  have handled : (Paa.program crypto config).msgHandlers msg.type = some (Paa.psmRxPE config) := by
    rw [type]
    rfl
  have valid : machine.state ∈ (Paa.psmRxPE config).validStates := by
    rw [waits]
    simp [Paa.psmRxPE]
  rw [meets.step_alone handled valid, handleMessage_of_acceptable rfl acceptable]
  unfold Paa.psmRxPE
  simp only [Imperative.bind_run, Imperative.modify_run, Imperative.get_run, Imperative.pure_run, answer,
    Bool.false_eq_true, if_false]
  intro concludes
  have saved := rxPER_saved config filtering msg
    ((machine.session.count msg).saveAddress msg) (by simp : _ = machine.session.sent) (by simp)
  rcases saved with ⟨e, t, throws, sent⟩ | ⟨t, rcode, tells, ends, empty⟩
  · rw [throws] at concludes
    have closed := concludes.state
    change machine.state = .closed at closed
    rw [waits] at closed
    cases closed
  · -- The queue was emptied with the session, and the action takes a message from it.
    rw [tells, waits, show (Paa.program crypto config).table = paaStateTable from rfl] at concludes
    dsimp only at concludes
    rw [paaStateTable_pea] at concludes
    have dequeues : dequeueRx t = .error .fault t := by
      unfold dequeueRx
      rw [empty]
    have faults : (Paa.program crypto config).perform acting .waitPEAExitActionRxPEA t = .error .fault t := by
      show (Session.rxPEA config acting >>= fun _ => pure none) t = _
      unfold Session.rxPEA
      rw [Imperative.bind_run, Imperative.bind_run, dequeues]
    have running := concludes.running
    dsimp only at running
    unfold Program.act at running
    simp only [paaEntry, Machine.alone, faults] at running
    cases running

/-- No error is tolerated and no answer to an error concludes, in any state of either
side and for any message that is accepted. -/
theorem errors_never_tolerated (crypto : Crypto) (config : Config) (filtering acting : Draws) (msg : Message)
    (type : msg.type = mtypePER) :
    (∀ machine : Machine PacEvent, machine.Meets msg → machine.session.Acceptable crypto msg false →
      (msg.request = true → machine.state ∈ (Client.csmRxPE config).validStates →
        ¬machine.session.Tolerates msg
          ((Client.program crypto config).step machine.alone (.serve filtering acting)).session) ∧
      (msg.request = false → machine.state = .waitPea →
        ¬machine.Concludes ((Client.program crypto config).step machine.alone (.serve filtering acting)))) ∧
    ∀ machine : Machine PaaEvent, machine.Meets msg → machine.session.Acceptable crypto msg false →
      (msg.request = true → machine.state ∈ (Paa.psmRxPE config).validStates →
        ¬machine.session.Tolerates msg
          ((Paa.program crypto config).step machine.alone (.serve filtering acting)).session) ∧
      (msg.request = false → machine.state = .waitPea →
        ¬machine.Concludes ((Paa.program crypto config).step machine.alone (.serve filtering acting))) := by
  constructor
  · intro machine meets acceptable
    constructor
    · intro request valid
      exact client_not_tolerates meets type request valid acceptable
    · intro _ waits
      exact client_not_concludes type waits meets
  · intro machine meets acceptable
    constructor
    · intro request valid
      exact paa_not_tolerates meets type request valid acceptable
    · intro answer waits
      exact paa_not_concludes meets type answer waits acceptable

def keyedOpen (seq : UInt32) : Machine PacEvent where
  state := .opened
  rxMsgQueue := [{ type := mtypePER, request := true, sessionId := 7, seq := seq, avpList := { resultCode := some 1 } }]
  eventQueue := []
  session := { receivedSession .pac 41 with sa := { authKey := .set [1], mskId := 1 } }

theorem errors_never_tolerated_keyedOpen :
    ¬(keyedOpen 42).session.Tolerates
      { type := mtypePER, request := true, sessionId := 7, seq := 42, avpList := { resultCode := some 1 } }
      ((Client.program Traffic.plainCrypto ⟨false, false, true, 3600⟩).step (keyedOpen 42).alone
        (.serve ⟨5, 1, [9], none, false⟩ ⟨5, 1, [9], none, false⟩)).session := by
  have never := errors_never_tolerated Traffic.plainCrypto ⟨false, false, true, 3600⟩ ⟨5, 1, [9], none, false⟩
    ⟨5, 1, [9], none, false⟩
    { type := mtypePER, request := true, sessionId := 7, seq := 42, avpList := { resultCode := some 1 } } rfl
  exact (never.1 (keyedOpen 42) ⟨rfl, rfl⟩ (by decide +kernel)).1 rfl (by simp [Client.csmRxPE, keyedOpen])

/-- An error that nothing protects ends a session with a key. -/
theorem unprotected_error_ends :
    ¬∀ (crypto : Crypto) (config : Config) (filtering acting : Draws) (msg : Message) (machine : Machine PacEvent),
      machine.Meets msg → msg.type = mtypePER → msg.request = true → msg.avpList.auth = none →
      machine.state ∈ (Client.csmRxPE config).validStates → machine.session.Acceptable crypto msg false →
      machine.session.Tolerates msg
        ((Client.program crypto config).step machine.alone (.serve filtering acting)).session := by
  intro always
  have tolerates := always Traffic.plainCrypto ⟨false, false, true, 3600⟩ ⟨5, 1, [9], none, false⟩
    ⟨5, 1, [9], none, false⟩
    { type := mtypePER, request := true, sessionId := 7, seq := 42, avpList := { resultCode := some 1 } } (keyedOpen 42)
    ⟨rfl, rfl⟩ rfl rfl rfl (by simp [Client.csmRxPE, keyedOpen]) (by decide +kernel)
  have kept := tolerates.ends
  revert kept
  decide +kernel

end Runs

end OpenDiameter.Pana
