import OpenDiameter.Pana.Client
import OpenDiameter.Pana.Paa
import OpenDiameter.Pana.Sequence

/-! What a message leaves of a session that refuses it.

A filter works on the session while it validates: the number of a first request is taken
before the rest of the message is looked at, the id of a start request even before its
number, and what is saved after the validation stays when the filter throws later.
-/

set_option autoImplicit false

namespace OpenDiameter.Pana

open Foundation OpenDiameter.Framework

namespace Session

variable (crypto : Crypto) (s : Session) (msg : Message) (skipAuth : Bool)

section Traces

def Untouched (t : Session) : Prop := t = s ∨ ∃ cached ∈ s.cachedAnsMsg, t = s.sendAnsMsg cached

instance (t : Session) : Decidable (s.Untouched t) := by
  unfold Untouched
  infer_instance

def Traceless {α : Type} (x : Imperative Session Exception α) : Prop :=
  ∀ e t, x s = .error (.thrown e) t → s.Untouched t

def peerAddress : InetAddr :=
  match s.role with
  | .pac => s.paaAddress
  | .paa => s.pacAddress

def Harmless : Prop := s.First msg → ¬(s.Authentic crypto msg skipAuth ∧ s.Addressed msg) → msg.seq = 0

/-- Neither the number nor the address of a message is new. -/
def Familiar : Prop := (msg.request = true → s.lastRxSeqNum = 0 ∧ msg.seq = 0) ∧ msg.srcAddress = s.peerAddress

instance : Decidable (s.Harmless crypto msg skipAuth) := by
  unfold Harmless
  infer_instance

instance : Decidable (s.Familiar msg) := inferInstanceAs (Decidable (_ ∧ _))

end Traces

variable {crypto s msg skipAuth}

theorem untouched_iff_eq {t : Session} (sent : t.sent = s.sent) : s.Untouched t ↔ t = s := by
  constructor
  · rintro (same | ⟨cached, _, same⟩)
    · exact same
    · -- An answer that is sent again is one more message sent.
      rw [same] at sent
      have longer := congrArg List.length sent
      change (s.sent ++ [s.txPrepareMessage cached]).length = s.sent.length at longer
      rw [List.length_append, List.length_singleton] at longer
      omega
  · exact Or.inl

theorem increment_ne_self (serial : SerialNumber) : serial.increment ≠ serial := by
  intro same
  have small := SerialNumber.toNat_increment_lt serial
  have counted := congrArg UInt32.toNat same
  rw [SerialNumber.toNat_increment] at counted
  omega

theorem counted_eq_iff {serial seq : SerialNumber} :
    (if serial = 0 then seq else serial.increment) = serial ↔ serial = 0 ∧ seq = 0 := by
  by_cases zero : serial = 0
  · rw [if_pos zero, zero]
    simp
  · rw [if_neg zero]
    exact iff_of_false (increment_ne_self serial) (fun both => zero both.1)

theorem traceless_rxValidateMsg_iff :
    s.Traceless (rxValidateMsg crypto msg skipAuth) ↔ s.Harmless crypto msg skipAuth := by
  unfold Traceless
  have how := s.validates crypto msg skipAuth
  generalize rxValidateMsg crypto msg skipAuth s = result at how
  have harmless (later : ¬(s.First msg ∧ ¬(s.Authentic crypto msg skipAuth ∧ s.Addressed msg))) :
      s.Harmless crypto msg skipAuth := fun first refused => absurd ⟨first, refused⟩ later
  have fresh (repeats : s.Repeats msg) : s.Harmless crypto msg skipAuth :=
    harmless fun first => repeats.2.1 first.1.2
  cases how with
  | accepted acceptable =>
    refine iff_of_true (fun e t same => by cases same) (harmless fun first => ?_)
    exact first.2 ⟨acceptable.authentic, acceptable.addressed⟩
  | unanswered repeats => exact iff_of_true (fun e t same => by cases same) (fresh repeats)
  | resent repeats cached kept same e =>
    apply iff_of_true _ (fresh repeats)
    intro e t same
    cases same
    exact Or.inr ⟨cached, kept, rfl⟩
  | unexpected repeats cached kept other e =>
    apply iff_of_true _ (fresh repeats)
    intro e t same
    cases same
    exact Or.inl rfl
  | misnumbered misnumbered fresh e =>
    apply iff_of_true
    · intro e t same
      cases same
      exact Or.inl rfl
    · apply harmless
      rintro ⟨⟨request, zero⟩, _⟩
      apply misnumbered
      unfold Numbered
      rw [if_pos request]
      exact Or.inl zero
  | refused later numbered refused e =>
    apply iff_of_true _ (harmless fun first => later first.1)
    intro e t same
    cases same
    exact Or.inl rfl
  | refusedFirst first refused e =>
    constructor
    · intro traceless _ _
      have same := (untouched_iff_eq (by rfl)).mp (traceless e _ rfl)
      exact (congrArg lastRxSeqNum same).trans first.2
    · intro harmless e t same
      cases same
      apply (untouched_iff_eq (by rfl)).mpr
      rw [harmless first refused, ← first.2]

section Filters

variable {Event : Type} {filter : RxFilter Event} {draws : Draws}

/-- A filter that throws does so where it validates or where it resolves the event, once
its first level has left a session `u`. -/
theorem traceless_handleMessage_iff {u : Session} (first : filter.first msg s = .ok () u) :
    s.Traceless (filter.handleMessage crypto draws msg) ↔
      (∀ e t, rxValidateMsg crypto msg filter.skipAuth u = .error (.thrown e) t → s.Untouched t) ∧
      (u.Acceptable crypto msg filter.skipAuth →
        ∀ e t, filter.resolve draws msg (u.count msg) = .error (.thrown e) t → s.Untouched t) := by
  unfold Traceless RxFilter.handleMessage
  rw [Imperative.bind_run, first]
  dsimp only
  rw [Imperative.bind_run]
  have accepted (t : Session) : rxValidateMsg crypto msg filter.skipAuth u = .ok () t ↔
      u.Acceptable crypto msg filter.skipAuth ∧ t = u.count msg := rxValidateMsg_ok_iff
  cases validated : rxValidateMsg crypto msg filter.skipAuth u with
  | ok value t =>
    obtain ⟨acceptable, rfl⟩ := (accepted t).mp validated
    simp [acceptable]
  | error failure t =>
    have refused : ¬u.Acceptable crypto msg filter.skipAuth := by
      intro acceptable
      rw [(accepted _).mpr ⟨acceptable, rfl⟩] at validated
      cases validated
    simp [refused]

theorem traceless_of_first {e : Exception} (first : filter.first msg s = .error (.thrown e) s) :
    s.Traceless (filter.handleMessage crypto draws msg) := by
  unfold Traceless RxFilter.handleMessage
  rw [Imperative.bind_run, first]
  intro e t same
  cases same
  exact Or.inl rfl

theorem demand_of_eq {request : Bool} (description : String) (same : msg.request = request) :
    demand request description msg s = .ok () s := by
  unfold demand
  rw [if_neg (not_not.mpr same)]
  rfl

theorem demand_of_ne {request : Bool} (description : String) (other : msg.request ≠ request) :
    ∃ e, demand request description msg s = .error (.thrown e) s := by
  refine ⟨⟨.invalidMessage, description⟩, ?_⟩
  unfold demand
  rw [if_pos other]
  rfl

theorem traceless_queued_iff {event : Message → Event} (resolve : filter.resolve draws = queued event)
    (first : filter.first msg s = .ok () s) :
    s.Traceless (filter.handleMessage crypto draws msg) ↔ s.Harmless crypto msg filter.skipAuth := by
  rw [traceless_handleMessage_iff first, ← traceless_rxValidateMsg_iff, resolve]
  apply and_iff_left_of_imp
  intro _ _ e t same
  cases same

theorem traceless_request_iff {event : Message → Event} {description : String}
    (resolve : filter.resolve draws = queued event) (first : filter.first = demand true description) :
    s.Traceless (filter.handleMessage crypto draws msg) ↔ s.Harmless crypto msg filter.skipAuth := by
  by_cases request : msg.request = true
  · exact traceless_queued_iff resolve (first ▸ demand_of_eq description request)
  · obtain ⟨e, throws⟩ := demand_of_ne (s := s) description request
    apply iff_of_true (traceless_of_first (first ▸ throws))
    exact fun first => absurd first.1 request

theorem traceless_answer {event : Message → Event} {description : String}
    (resolve : filter.resolve draws = queued event) (first : filter.first = demand false description) :
    s.Traceless (filter.handleMessage crypto draws msg) := by
  by_cases request : msg.request = false
  · apply (traceless_queued_iff resolve (first ▸ demand_of_eq description request)).mpr
    intro first
    rw [First, request] at first
    cases first.1
  · obtain ⟨e, throws⟩ := demand_of_ne (s := s) description request
    exact traceless_of_first (first ▸ throws)

end Filters

section Errors

variable (config : Config) (draws : Draws)

def nextRx (s : Session) (msg : Message) : Message := s.rxMsgQueue.headD msg

def FamiliarError (s : Session) (msg : Message) : Prop :=
  (s.nextRx msg).avpList.resultCode = none → s.Familiar msg ∧ (s.rxMsgQueue ++ [msg]).tail = s.rxMsgQueue

instance : Decidable (s.FamiliarError msg) := by
  unfold FamiliarError
  infer_instance

theorem rxPER_run : rxPER config draws (s.enqueueRx msg) =
    match (s.nextRx msg).avpList.resultCode with
    | none => .error (.thrown ⟨.failed, "No Result-Code AVP in PER message"⟩)
        { s with rxMsgQueue := (s.rxMsgQueue ++ [msg]).tail }
    | some rcode => .ok () ({ s with rxMsgQueue := (s.rxMsgQueue ++ [msg]).tail }.error config draws rcode) := by
  have dequeues : dequeueRx (s.enqueueRx msg) =
      .ok (s.nextRx msg) { s with rxMsgQueue := (s.rxMsgQueue ++ [msg]).tail } := by
    unfold dequeueRx enqueueRx nextRx
    cases s.rxMsgQueue <;> rfl
  unfold rxPER
  rw [Imperative.bind_run, dequeues]
  dsimp only
  cases (s.nextRx msg).avpList.resultCode <;> rfl

/-- What an error leaves when it is saved and its Result-Code is missing. -/
theorem saved_eq_self_iff {queue : List Message} :
    { (s.count msg).saveAddress msg with rxMsgQueue := queue } = s ↔ s.Familiar msg ∧ queue = s.rxMsgQueue := by
  unfold Familiar count saveAddress peerAddress
  cases s with
  | mk role =>
    cases role <;> cases request : msg.request <;> simp [counted_eq_iff, and_assoc, and_left_comm]

theorem throws_rxPER_iff :
    (∀ e t, rxPER config draws (((s.count msg).saveAddress msg).enqueueRx msg) = .error (.thrown e) t →
      s.Untouched t) ↔ s.FamiliarError msg := by
  have next : ((s.count msg).saveAddress msg).nextRx msg = s.nextRx msg := by
    unfold nextRx
    rw [rxMsgQueue_saveAddress, rxMsgQueue_count]
  unfold FamiliarError
  rw [rxPER_run, next, rxMsgQueue_saveAddress, rxMsgQueue_count]
  cases (s.nextRx msg).avpList.resultCode with
  | some rcode => simp
  | none =>
    rw [← saved_eq_self_iff, ← untouched_iff_eq (by simp)]
    constructor
    · intro each _
      exact each _ _ rfl
    · intro untouched e t same
      cases same
      exact untouched rfl

end Errors

section Starts

def claim (s : Session) (msg : Message) : Session := { s with sessionId := msg.sessionId }

def FamiliarStart (crypto : Crypto) (s : Session) (msg : Message) : Prop :=
  ((s.claim msg).Acceptable crypto msg false → msg.avpList.algorithm.any (· ≠ authAlgorithm) = true →
    msg.sessionId = s.sessionId ∧ s.Familiar msg ∧ msg.toMsgHeader = s.lastRxHeader) ∧
  (¬(s.claim msg).Acceptable crypto msg false → (s.Repeats msg → s.cachedAnsMsg ≠ none) →
    msg.sessionId = s.sessionId ∧ (s.First msg → msg.seq = 0))

instance : Decidable (s.FamiliarStart crypto msg) := inferInstanceAs (Decidable (_ ∧ _))

theorem claim_eq_self_iff : s.claim msg = s ↔ msg.sessionId = s.sessionId := by
  constructor
  · exact congrArg sessionId
  · intro same
    unfold claim
    rw [same]

theorem untouched_resent_iff {t : Session} {cached : Message} (kept : s.cachedAnsMsg = some cached)
    (sent : t.sent = s.sent) : s.Untouched (t.sendAnsMsg cached) ↔ t.sendAnsMsg cached = s.sendAnsMsg cached := by
  constructor
  · rintro (same | ⟨other, here, same⟩)
    · have longer := congrArg (fun u : Session => u.sent.length) same
      change (t.sent ++ [t.txPrepareMessage cached]).length = s.sent.length at longer
      rw [sent, List.length_append, List.length_singleton] at longer
      omega
    · cases Option.mem_unique kept here
      exact same
  · intro same
    exact Or.inr ⟨cached, kept, same⟩

theorem throws_claim_iff :
    (∀ e t, rxValidateMsg crypto msg false (s.claim msg) = .error (.thrown e) t → s.Untouched t) ↔
      (¬(s.claim msg).Acceptable crypto msg false → (s.Repeats msg → s.cachedAnsMsg ≠ none) →
        msg.sessionId = s.sessionId ∧ (s.First msg → msg.seq = 0)) := by
  have how := (s.claim msg).validates crypto msg false
  generalize rxValidateMsg crypto msg false (s.claim msg) = result at how
  -- Where the message is thrown away after its id was taken, and there is no number to take.
  have taken (e : Exception) (refused : ¬(s.claim msg).Acceptable crypto msg false)
      (answered : s.Repeats msg → s.cachedAnsMsg ≠ none) (later : ¬s.First msg) :
      (∀ e' t, (EStateM.Result.error (.thrown e) (s.claim msg) :
          EStateM.Result (Failure Exception) Session Unit) = .error (.thrown e') t → s.Untouched t) ↔
        (¬(s.claim msg).Acceptable crypto msg false → (s.Repeats msg → s.cachedAnsMsg ≠ none) →
          msg.sessionId = s.sessionId ∧ (s.First msg → msg.seq = 0)) := by
    have untouched : s.Untouched (s.claim msg) ↔ msg.sessionId = s.sessionId := by
      rw [untouched_iff_eq (by rfl), claim_eq_self_iff]
    constructor
    · intro each _ _
      exact ⟨untouched.mp (each e _ rfl), fun first => absurd first later⟩
    · intro familiar e' t same
      cases same
      exact untouched.mpr (familiar refused answered).1
  cases how with
  | accepted acceptable =>
    apply iff_of_true
    · intro e t same
      cases same
    · intro refused
      exact absurd acceptable refused
  | unanswered repeats empty =>
    apply iff_of_true
    · intro e t same
      cases same
    · intro _ answered
      exact absurd empty (answered repeats)
  | resent repeats cached cache type e =>
    have kept : s.cachedAnsMsg = some cached := cache
    have refused : ¬(s.claim msg).Acceptable crypto msg false := fun acceptable =>
      repeats.not_numbered acceptable.numbered
    have later : ¬s.First msg := fun first => repeats.2.1 first.2
    have untouched : s.Untouched ((s.claim msg).sendAnsMsg cached) ↔ msg.sessionId = s.sessionId := by
      rw [untouched_resent_iff kept (by rfl)]
      constructor
      · intro same
        exact congrArg sessionId same
      · intro same
        rw [claim_eq_self_iff.mpr same]
    constructor
    · intro each _ _
      exact ⟨untouched.mp (each e _ rfl), fun first => absurd first later⟩
    · intro familiar e' t same
      cases same
      have answered (_ : s.Repeats msg) : s.cachedAnsMsg ≠ none := by
        rw [kept]
        exact Option.some_ne_none cached
      exact untouched.mpr (familiar refused answered).1
  | unexpected repeats cached kept other e =>
    apply taken e
    · exact fun acceptable => repeats.not_numbered acceptable.numbered
    · intro _
      rw [show s.cachedAnsMsg = some cached from kept]
      exact Option.some_ne_none cached
    · exact fun first => repeats.2.1 first.2
  | misnumbered misnumbered fresh e =>
    apply taken e
    · exact fun acceptable => misnumbered acceptable.numbered
    · exact fun repeats => absurd repeats fresh
    · rintro ⟨request, zero⟩
      apply misnumbered
      unfold Numbered
      rw [if_pos request]
      exact Or.inl zero
  | refused later numbered refused e =>
    apply taken e
    · exact fun acceptable => refused ⟨acceptable.authentic, acceptable.addressed⟩
    · exact fun repeats => absurd numbered repeats.not_numbered
    · exact later
  | refusedFirst first refused e =>
    have unacceptable : ¬(s.claim msg).Acceptable crypto msg false := fun acceptable =>
      refused ⟨acceptable.authentic, acceptable.addressed⟩
    have answered (repeats : s.Repeats msg) : s.cachedAnsMsg ≠ none := absurd first.2 repeats.2.1
    have untouched : s.Untouched { s.claim msg with lastRxSeqNum := msg.seq } ↔
        msg.sessionId = s.sessionId ∧ msg.seq = 0 := by
      rw [untouched_iff_eq (by rfl)]
      constructor
      · intro same
        exact ⟨congrArg sessionId same, (congrArg lastRxSeqNum same).trans first.2⟩
      · rintro ⟨same, zero⟩
        rw [claim_eq_self_iff.mpr same, zero, ← show s.lastRxSeqNum = 0 from first.2]
    constructor
    · intro each _ _
      obtain ⟨same, zero⟩ := untouched.mp (each e _ rfl)
      exact ⟨same, fun _ => zero⟩
    · intro familiar e' t same
      cases same
      obtain ⟨same, zero⟩ := familiar unacceptable answered
      exact untouched.mpr ⟨same, zero first⟩

theorem started_eq_self_iff : (((s.claim msg).count msg).saveAddress msg).saveHeader msg = s ↔
    msg.sessionId = s.sessionId ∧ s.Familiar msg ∧ msg.toMsgHeader = s.lastRxHeader := by
  unfold Familiar saveHeader count saveAddress peerAddress claim
  cases s with
  | mk role =>
    cases role <;> cases request : msg.request <;> simp [counted_eq_iff, and_assoc, and_left_comm]

theorem traceless_csmRxPSR_iff (draws : Draws) :
    s.Traceless (Client.csmRxPSR.handleMessage crypto draws msg) ↔
      (msg.request = true → s.FamiliarStart crypto msg) := by
  have first : Client.csmRxPSR.first msg s =
      (demand true "PSA recevied, invalid message" msg >>= fun _ =>
        modify fun s => { s with sessionId := msg.sessionId }) s := rfl
  by_cases request : msg.request = true
  · rw [Imperative.bind_run, demand_of_eq _ request] at first
    rw [traceless_handleMessage_iff (u := s.claim msg) first, imp_iff_right request, and_comm, FamiliarStart]
    refine and_congr ?_ throws_claim_iff
    apply imp_congr_right
    intro _
    have resolves (u : Session) : Client.csmRxPSR.resolve draws msg u =
        if msg.avpList.algorithm.any (· ≠ authAlgorithm) then
          .error (.thrown ⟨.failed, "PSA recevied, unsupported algorithm"⟩) ((u.saveAddress msg).saveHeader msg)
        else .ok { msgType := some .psr, eapPayload := msg.avpList.eapPayload.isSome }
          (((u.saveAddress msg).saveHeader msg).enqueueRx msg) := by
      unfold Client.csmRxPSR
      simp only [Imperative.bind_run, Imperative.modify_run, Imperative.ite_run, Imperative.raise_run,
        Imperative.pure_run]
    rw [resolves, ← started_eq_self_iff]
    by_cases unsupported : msg.avpList.algorithm.any (· ≠ authAlgorithm) = true
    · rw [if_pos unsupported, imp_iff_right unsupported, ← untouched_iff_eq (by simp [saveHeader, claim])]
      constructor
      · intro each
        exact each _ _ rfl
      · intro untouched e t same
        cases same
        exact untouched
    · rw [if_neg unsupported]
      apply iff_of_true
      · intro e t same
        cases same
      · exact fun other => absurd other unsupported
  · obtain ⟨e, throws⟩ := demand_of_ne (s := s) "PSA recevied, invalid message" request
    rw [Imperative.bind_run, throws] at first
    exact iff_of_true (traceless_of_first first) (fun same => absurd same request)

end Starts

end Session

namespace Program

variable {Event Action Call : Type} (program : Program Event Action Call) (machine : Machine Event) (draws : Draws)
  (msg : Message)

def LeavesNoTrace (filter : RxFilter Event) : Prop :=
  (machine.state ∉ filter.validStates ∨
      ∃ e t, filter.handleMessage program.crypto draws msg machine.session = .error (.thrown e) t) →
    ∃ t, machine.session.Untouched t ∧
      program.handleMessage machine draws filter msg = { machine with session := t }

theorem leavesNoTrace_iff (filter : RxFilter Event) :
    program.LeavesNoTrace machine draws msg filter ↔ (machine.state ∈ filter.validStates →
      machine.session.Traceless (filter.handleMessage program.crypto draws msg)) := by
  unfold LeavesNoTrace handleMessage
  by_cases valid : machine.state ∈ filter.validStates
  · simp only [valid, not_true_eq_false, false_or, forall_const, if_true]
    constructor
    · intro untouched e t throws
      obtain ⟨u, kept, same⟩ := untouched ⟨e, t, throws⟩
      rw [throws] at same
      cases congrArg Machine.session same
      exact kept
    · rintro traceless ⟨e, t, throws⟩
      refine ⟨t, traceless e t throws, ?_⟩
      rw [throws]
  · simp only [valid, not_false_eq_true, true_or, if_false, forall_const, false_implies, iff_true]
    exact ⟨machine.session, Or.inl rfl, rfl⟩

end Program

section Errors

variable {crypto : Crypto} {s : Session} {msg : Message}

namespace Session

theorem traceless_csmRxPE_iff (config : Config) (draws : Draws) :
    s.Traceless ((Client.csmRxPE config).handleMessage crypto draws msg) ↔ s.Harmless crypto msg false ∧
      (s.Acceptable crypto msg false → msg.request = true → s.FamiliarError msg) := by
  have first : (Client.csmRxPE config).first msg s = .ok () s := rfl
  rw [traceless_handleMessage_iff first, ← traceless_rxValidateMsg_iff]
  apply and_congr Iff.rfl
  apply imp_congr_right
  intro _
  unfold Client.csmRxPE
  simp only [Imperative.bind_run, Imperative.modify_run, Imperative.ite_run, Imperative.get_run, Imperative.pure_run]
  by_cases request : msg.request = true
  · simp only [if_pos request]
    rw [imp_iff_right request, ← throws_rxPER_iff config draws]
    cases rxPER config draws (((s.count msg).saveAddress msg).enqueueRx msg) with
    | ok value t => simp
    | error failure t => simp
  · simp only [if_neg request]
    apply iff_of_true
    · intro e t same
      cases same
    · exact fun same => absurd same request

theorem traceless_psmRxPE_iff (config : Config) (draws : Draws) :
    s.Traceless ((Paa.psmRxPE config).handleMessage crypto draws msg) ↔ s.Harmless crypto msg false ∧
      (s.Acceptable crypto msg false → s.FamiliarError msg) := by
  have first : (Paa.psmRxPE config).first msg s = .ok () s := rfl
  rw [traceless_handleMessage_iff first, ← traceless_rxValidateMsg_iff]
  apply and_congr Iff.rfl
  apply imp_congr_right
  intro _
  rw [← throws_rxPER_iff config draws]
  unfold Paa.psmRxPE
  simp only [Imperative.bind_run, Imperative.modify_run, Imperative.get_run, Imperative.pure_run]
  cases rxPER config draws (((s.count msg).saveAddress msg).enqueueRx msg) with
  | ok value t => simp
  | error failure t => simp

end Session

end Errors

section Refusals

open Session

variable (crypto : Crypto) (s : Session) (msg : Message)

def Client.Traceless : Prop :=
  if msg.type = mtypePSR then msg.request = true → s.FamiliarStart crypto msg
  else if msg.type = mtypePBR then s.Harmless crypto msg true
  else if msg.type = mtypePRR then True
  else s.Harmless crypto msg false ∧
    (msg.type = mtypePER → s.Acceptable crypto msg false → msg.request = true → s.FamiliarError msg)

/-- What an agent meets in the messages it refuses. -/
def Paa.Traceless : Prop :=
  if msg.type = mtypePCI ∨ msg.type = mtypePSR ∨ msg.type = mtypePBR then True
  else s.Harmless crypto msg false ∧ (msg.type = mtypePER → s.Acceptable crypto msg false → s.FamiliarError msg)

instance : Decidable (Client.Traceless crypto s msg) := by
  unfold Client.Traceless
  infer_instance

instance : Decidable (Paa.Traceless crypto s msg) := by
  unfold Paa.Traceless
  infer_instance

variable {crypto s msg}

theorem Client.traceless_iff {config : Config} {draws : Draws} {type : MType} {filter : RxFilter PacEvent}
    (handles : Client.msgHandlers config type = some filter) (same : msg.type = type) :
    s.Traceless (filter.handleMessage crypto draws msg) ↔ Client.Traceless crypto s msg := by
  unfold Client.Traceless
  rw [same]
  have plain {type : MType} {filter : RxFilter PacEvent} {event : Message → PacEvent}
      (resolve : filter.resolve draws = queued event) (first : filter.first msg s = .ok () s)
      (checked : filter.skipAuth = false) (other : type ≠ mtypePER) :
      s.Traceless (filter.handleMessage crypto draws msg) ↔ s.Harmless crypto msg false ∧
        (type = mtypePER → s.Acceptable crypto msg false → msg.request = true → s.FamiliarError msg) := by
    rw [traceless_queued_iff resolve first, checked]
    exact (and_iff_left fun error => absurd error other).symm
  apply Client.msgHandlers_cases (motive := fun type filter =>
    s.Traceless (filter.handleMessage crypto draws msg) ↔
      if type = mtypePSR then msg.request = true → s.FamiliarStart crypto msg
      else if type = mtypePBR then s.Harmless crypto msg true
      else if type = mtypePRR then True
      else s.Harmless crypto msg false ∧
        (type = mtypePER → s.Acceptable crypto msg false → msg.request = true → s.FamiliarError msg)) handles
  case psr => exact traceless_csmRxPSR_iff draws
  case pbr => exact traceless_request_iff rfl rfl
  case pra => exact iff_of_true (traceless_answer rfl rfl) trivial
  case pe =>
    rw [traceless_csmRxPE_iff, if_neg (by decide), if_neg (by decide), if_neg (by decide), imp_iff_right rfl]
  all_goals exact plain rfl rfl rfl (by decide)

theorem Paa.traceless_iff {config : Config} {draws : Draws} {type : MType} {filter : RxFilter PaaEvent}
    (handles : Paa.msgHandlers config type = some filter) (same : msg.type = type) :
    s.Traceless (filter.handleMessage crypto draws msg) ↔ Paa.Traceless crypto s msg := by
  unfold Paa.Traceless
  rw [same]
  have plain {type : MType} {filter : RxFilter PaaEvent} (harmless : s.Traceless (filter.handleMessage crypto draws msg) ↔
      s.Harmless crypto msg false) (other : type ≠ mtypePER) :
      s.Traceless (filter.handleMessage crypto draws msg) ↔ s.Harmless crypto msg false ∧
        (type = mtypePER → s.Acceptable crypto msg false → s.FamiliarError msg) := by
    rw [harmless]
    exact (and_iff_left fun error => absurd error other).symm
  apply Paa.msgHandlers_cases (motive := fun type filter =>
    s.Traceless (filter.handleMessage crypto draws msg) ↔
      if type = mtypePCI ∨ type = mtypePSR ∨ type = mtypePBR then True
      else s.Harmless crypto msg false ∧ (type = mtypePER → s.Acceptable crypto msg false → s.FamiliarError msg))
    handles
  case pci => exact iff_of_true (traceless_answer rfl rfl) trivial
  case psa => exact iff_of_true (traceless_answer rfl rfl) trivial
  case pba => exact iff_of_true (traceless_answer rfl rfl) trivial
  case prr => exact plain (traceless_request_iff rfl rfl) (by decide)
  case pe => rw [traceless_psmRxPE_iff, if_neg (by decide), imp_iff_right rfl]
  all_goals exact plain (traceless_queued_iff rfl rfl) (by decide)

/-- Which refusals leave no trace, for every receive filter of both sides. -/
theorem refusals_traceless_iff (crypto : Crypto) (config : Config) (draws : Draws) (msg : Message) :
    (∀ (machine : Machine PacEvent) (filter : RxFilter PacEvent), Client.msgHandlers config msg.type = some filter →
      ((Client.program crypto config).LeavesNoTrace machine draws msg filter ↔
        (machine.state ∈ filter.validStates → Client.Traceless crypto machine.session msg))) ∧
    ∀ (machine : Machine PaaEvent) (filter : RxFilter PaaEvent), Paa.msgHandlers config msg.type = some filter →
      ((Paa.program crypto config).LeavesNoTrace machine draws msg filter ↔
        (machine.state ∈ filter.validStates → Paa.Traceless crypto machine.session msg)) := by
  constructor
  · intro machine filter handles
    rw [Program.leavesNoTrace_iff]
    exact imp_congr_right fun _ => Client.traceless_iff handles rfl
  · intro machine filter handles
    rw [Program.leavesNoTrace_iff]
    exact imp_congr_right fun _ => Paa.traceless_iff handles rfl

def receivedSession (role : Role) (seq : UInt32) : Session := { Traffic.numberedFrom 5 role with lastRxSeqNum := seq }

/-- A start request is refused for its number, and its id stays; a request of an open
session is refused for its id, and its number stays. -/
theorem refused_leaves_trace :
    ¬(∀ (crypto : Crypto) (config : Config) (draws : Draws) (msg : Message) (machine : Machine PacEvent)
        (filter : RxFilter PacEvent), Client.msgHandlers config msg.type = some filter →
        (Client.program crypto config).LeavesNoTrace machine draws msg filter) ∧
      ¬∀ (crypto : Crypto) (config : Config) (draws : Draws) (msg : Message) (machine : Machine PaaEvent)
        (filter : RxFilter PaaEvent), Paa.msgHandlers config msg.type = some filter →
        (Paa.program crypto config).LeavesNoTrace machine draws msg filter := by
  constructor
  · intro always
    have untouched := always Traffic.plainCrypto ⟨false, false, true, 3600⟩ ⟨5, 1, [9], none, false⟩
      { type := mtypePSR, request := true, sessionId := 9, seq := 50 } (.opening (receivedSession .pac 41))
      Client.csmRxPSR rfl
    rw [Program.leavesNoTrace_iff] at untouched
    have handles : Client.msgHandlers ⟨false, false, true, 3600⟩ mtypePSR = some Client.csmRxPSR := rfl
    have traceless := (Client.traceless_iff handles rfl).mp (untouched (by decide))
    revert traceless
    decide +kernel
  · intro always
    have untouched := always Traffic.plainCrypto ⟨false, false, true, 3600⟩ ⟨5, 1, [9], none, false⟩
      { type := mtypePPR, request := true, sessionId := 9, seq := 50 }
      { Machine.opening (receivedSession .paa 0) with state := .opened } Paa.psmRxPP rfl
    rw [Program.leavesNoTrace_iff] at untouched
    have handles : Paa.msgHandlers ⟨false, false, true, 3600⟩ mtypePPR = some Paa.psmRxPP := rfl
    have traceless := (Paa.traceless_iff handles rfl).mp (untouched (by decide))
    revert traceless
    decide +kernel

end Refusals

end OpenDiameter.Pana
