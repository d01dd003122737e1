import OpenDiameter.Pana.Session

/-! What `RxValidateMsg` accepts, and what it leaves of a session.

Every later proof about the receive filters goes through `Validates`, which lists the
ways a validation can end.
-/

set_option autoImplicit false

namespace OpenDiameter.Pana

open Foundation

namespace Session

variable (crypto : Crypto) (s : Session) (msg : Message) (skipAuth : Bool)

section Conditions

def First : Prop := msg.request = true ∧ s.lastRxSeqNum = 0

def Repeats : Prop := msg.request = true ∧ s.lastRxSeqNum ≠ 0 ∧ s.lastRxSeqNum = msg.seq

def Numbered : Prop :=
  if msg.request then s.lastRxSeqNum = 0 ∨ msg.seq = s.lastRxSeqNum + 1 else msg.seq = s.lastTxSeqNum

def Authentic : Prop :=
  skipAuth = true ∨ msg.avpList.auth = none ∨ s.sa.authKey.isSet = false ∨ s.sa.validateAuthAvp crypto msg = true

def Addressed : Prop := msg.type = mtypePCI ∨ msg.sessionId = s.sessionId

instance : Decidable (s.First msg) := inferInstanceAs (Decidable (_ ∧ _))

instance : Decidable (s.Repeats msg) := inferInstanceAs (Decidable (_ ∧ _))

instance : Decidable (s.Numbered msg) := by unfold Numbered; infer_instance

instance : Decidable (s.Authentic crypto msg skipAuth) := inferInstanceAs (Decidable (_ ∨ _))

instance : Decidable (s.Addressed msg) := inferInstanceAs (Decidable (_ ∨ _))

/-- What `RxValidateMsg` accepts. -/
structure Acceptable : Prop where
  numbered : s.Numbered msg
  authentic : s.Authentic crypto msg skipAuth
  addressed : s.Addressed msg

instance : Decidable (s.Acceptable crypto msg skipAuth) :=
  decidable_of_iff (s.Numbered msg ∧ s.Authentic crypto msg skipAuth ∧ s.Addressed msg)
    ⟨fun ⟨numbered, authentic, addressed⟩ => ⟨numbered, authentic, addressed⟩,
      fun ⟨numbered, authentic, addressed⟩ => ⟨numbered, authentic, addressed⟩⟩

def count : Session :=
  if msg.request then
    { s with lastRxSeqNum := if s.lastRxSeqNum = 0 then msg.seq else s.lastRxSeqNum.increment }
  else s

@[simp] theorem role_count : (s.count msg).role = s.role := by
  unfold count
  cases msg.request <;> rfl

@[simp] theorem sessionId_count : (s.count msg).sessionId = s.sessionId := by
  unfold count
  cases msg.request <;> rfl

@[simp] theorem lastTxSeqNum_count : (s.count msg).lastTxSeqNum = s.lastTxSeqNum := by
  unfold count
  cases msg.request <;> rfl

@[simp] theorem lastTxReqMsg_count : (s.count msg).lastTxReqMsg = s.lastTxReqMsg := by
  unfold count
  cases msg.request <;> rfl

@[simp] theorem cachedAnsMsg_count : (s.count msg).cachedAnsMsg = s.cachedAnsMsg := by
  unfold count
  cases msg.request <;> rfl

@[simp] theorem sa_count : (s.count msg).sa = s.sa := by
  unfold count
  cases msg.request <;> rfl

@[simp] theorem rxMsgQueue_count : (s.count msg).rxMsgQueue = s.rxMsgQueue := by
  unfold count
  cases msg.request <;> rfl

@[simp] theorem sent_count : (s.count msg).sent = s.sent := by
  unfold count
  cases msg.request <;> rfl

@[simp] theorem told_count : (s.count msg).told = s.told := by
  unfold count
  cases msg.request <;> rfl

end Conditions

variable {crypto s}

theorem authentic_protect {r : Session} (same : s.sa.authKey = r.sa.authKey) (q : Session) (msg : Message) :
    r.Authentic crypto (q.txPrepareMessage (s.protect crypto msg)) false := by
  cases set : s.sa.authKey.isSet with
  | false => exact Or.inr (Or.inr (Or.inl (same ▸ set)))
  | true =>
    refine Or.inr (Or.inr (Or.inr (SecurityAssociation.validateAuthAvp_iff.mpr ?_)))
    rw [avpList_txPrepareMessage, SecurityAssociation.authValue, toMsgHeader_txPrepareMessage,
      avpList_txPrepareMessage, toMsgHeader_protect, protect, if_pos set, ← same]
    rfl

variable (crypto s)

theorem Repeats.not_numbered {s : Session} {msg : Message} (repeats : s.Repeats msg) : ¬s.Numbered msg := by
  obtain ⟨request, received, same⟩ := repeats
  unfold Numbered
  rw [if_pos request, ← same]
  rintro (zero | next)
  · exact received zero
  · have wraps := congrArg UInt32.toNat next
    rw [SerialNumber.toNat_succ] at wraps
    have bound := s.lastRxSeqNum.toNat_lt
    omega

section Parts

theorem validateAuth_run :
    validateAuth crypto msg skipAuth s = if s.Authentic crypto msg skipAuth then .ok () s
      else .error (.thrown ⟨.invalidMessage, "PANA session received msg with invalid AUTH value"⟩) s := by
  have same : (!skipAuth && msg.avpList.auth.isSome && s.sa.authKey.isSet && !s.sa.validateAuthAvp crypto msg) = true ↔
      ¬s.Authentic crypto msg skipAuth := by
    unfold Authentic
    cases skipAuth <;> cases msg.avpList.auth <;> cases s.sa.authKey.isSet <;>
      cases s.sa.validateAuthAvp crypto msg <;> simp
  simp only [validateAuth, Imperative.bind_run, Imperative.get_run, Imperative.ite_run, invalid,
    Imperative.raise_run, Imperative.pure_run, same]
  by_cases authentic : s.Authentic crypto msg skipAuth
  · simp [authentic]
  · simp [authentic]

theorem validateSessionId_run :
    validateSessionId msg s = if s.Addressed msg then .ok () s
      else .error (.thrown ⟨.invalidMessage, "Received invalid session id"⟩) s := by
  simp only [validateSessionId, Imperative.bind_run, Imperative.get_run, Imperative.ite_run, invalid,
    Imperative.raise_run, Imperative.pure_run, Addressed]
  by_cases pci : msg.type = mtypePCI <;> by_cases same : msg.sessionId = s.sessionId <;> simp [pci, same]

/-- What follows the number, in a session `t` in which the number may have been taken. -/
theorem validateRest_run (doUpdate : Bool) {t : Session} (sa : t.sa = s.sa) (sessionId : t.sessionId = s.sessionId) :
    (s.Authentic crypto msg skipAuth ∧ s.Addressed msg ∧ validateRest crypto msg skipAuth doUpdate t =
        .ok () (if msg.request && doUpdate then { t with lastRxSeqNum := t.lastRxSeqNum.increment } else t)) ∨
      ¬(s.Authentic crypto msg skipAuth ∧ s.Addressed msg) ∧
        ∃ e, validateRest crypto msg skipAuth doUpdate t = .error (.thrown e) t := by
  have authentic : t.Authentic crypto msg skipAuth ↔ s.Authentic crypto msg skipAuth := by
    unfold Authentic
    rw [sa]
  have addressed : t.Addressed msg ↔ s.Addressed msg := by
    unfold Addressed
    rw [sessionId]
  unfold validateRest
  rw [Imperative.bind_run, validateAuth_run]
  by_cases right : s.Authentic crypto msg skipAuth
  · rw [if_pos (authentic.mpr right)]
    dsimp only
    rw [Imperative.bind_run, validateSessionId_run]
    by_cases here : s.Addressed msg
    · rw [if_pos (addressed.mpr here)]
      refine Or.inl ⟨right, here, ?_⟩
      dsimp only
      rw [Imperative.ite_run, Imperative.modify_run, Imperative.pure_run]
      cases msg.request <;> cases doUpdate <;> rfl
    · rw [if_neg (mt addressed.mp here)]
      exact Or.inr ⟨fun both => here both.2, _, rfl⟩
  · rw [if_neg (mt authentic.mp right)]
    exact Or.inr ⟨fun both => right both.1, _, rfl⟩

end Parts

/-- The ways `RxValidateMsg` can end. -/
inductive Validates : EStateM.Result (Failure Exception) Session Unit → Prop
  | accepted (acceptable : s.Acceptable crypto msg skipAuth) : Validates (.ok () (s.count msg))
  | unanswered (repeats : s.Repeats msg) (empty : s.cachedAnsMsg = none) : Validates (.error .fault s)
  | resent (repeats : s.Repeats msg) (cached : Message) (kept : s.cachedAnsMsg = some cached)
      (same : msg.type = cached.type) (e : Exception) : Validates (.error (.thrown e) (s.sendAnsMsg cached))
  | unexpected (repeats : s.Repeats msg) (cached : Message) (kept : s.cachedAnsMsg = some cached)
      (other : msg.type ≠ cached.type) (e : Exception) : Validates (.error (.thrown e) s)
  | misnumbered (misnumbered : ¬s.Numbered msg) (fresh : ¬s.Repeats msg) (e : Exception) :
      Validates (.error (.thrown e) s)
  | refusedFirst (first : s.First msg) (refused : ¬(s.Authentic crypto msg skipAuth ∧ s.Addressed msg))
      (e : Exception) : Validates (.error (.thrown e) { s with lastRxSeqNum := msg.seq })
  | refused (later : ¬s.First msg) (numbered : s.Numbered msg)
      (refused : ¬(s.Authentic crypto msg skipAuth ∧ s.Addressed msg)) (e : Exception) :
      Validates (.error (.thrown e) s)

theorem validates : s.Validates crypto msg skipAuth (rxValidateMsg crypto msg skipAuth s) := by
  unfold rxValidateMsg validateSeq
  rw [Imperative.bind_run, Imperative.bind_run, Imperative.get_run]
  dsimp only
  cases request : msg.request with
  | false =>
    by_cases expected : msg.seq = s.lastTxSeqNum
    · have numbered : s.Numbered msg := by simp [Numbered, request, expected]
      have later : ¬s.First msg := by simp [First, request]
      simp only [Bool.false_eq_true, if_false, ne_eq, expected, not_true_eq_false, Imperative.pure_run]
      rcases s.validateRest_run crypto msg skipAuth true rfl rfl with ⟨right, here, same⟩ | ⟨wrong, e, same⟩
      · have accepted : s.Validates crypto msg skipAuth (.ok () (s.count msg)) := .accepted ⟨numbered, right, here⟩
        rw [same]
        simpa [request, count] using accepted
      · rw [same]
        exact .refused later numbered wrong e
    · have misnumbered : ¬s.Numbered msg := by simp [Numbered, request, expected]
      have fresh : ¬s.Repeats msg := by simp [Repeats, request]
      simp only [Bool.false_eq_true, if_false, ne_eq, expected, not_false_eq_true, if_true, invalid,
        Imperative.raise_run]
      exact .misnumbered misnumbered fresh _
  | true =>
    by_cases zero : s.lastRxSeqNum = 0
    · -- The number is taken at once.
      have numbered : s.Numbered msg := by simp [Numbered, request, zero]
      simp only [if_true, zero, Imperative.bind_run, Imperative.modify_run, Imperative.pure_run]
      have rest := s.validateRest_run crypto msg skipAuth false (t := { s with lastRxSeqNum := msg.seq }) rfl rfl
      rcases rest with ⟨right, here, same⟩ | ⟨wrong, e, same⟩
      · have accepted : s.Validates crypto msg skipAuth (.ok () (s.count msg)) := .accepted ⟨numbered, right, here⟩
        rw [same]
        simpa [request, count, zero] using accepted
      · rw [same]
        exact .refusedFirst ⟨request, zero⟩ wrong e
    · have later : ¬s.First msg := fun first => zero first.2
      rw [if_pos rfl, if_neg zero]
      by_cases repeated : s.lastRxSeqNum = msg.seq
      · have repeats : s.Repeats msg := ⟨request, zero, repeated⟩
        rw [if_pos repeated]
        cases kept : s.cachedAnsMsg with
        | none => exact .unanswered repeats kept
        | some cached =>
          dsimp only
          by_cases same : msg.type = cached.type
          · simp only [if_pos same, Imperative.bind_run, txLastAnsMsg, kept, invalid, Imperative.raise_run]
            exact .resent repeats cached kept same _
          · rw [if_neg same]
            exact .unexpected repeats cached kept same _
      · have fresh : ¬s.Repeats msg := fun repeats => repeated repeats.2.2
        rw [if_neg repeated]
        by_cases next : msg.seq = s.lastRxSeqNum + 1
        · have numbered : s.Numbered msg := by simp [Numbered, request, next]
          rw [if_neg (not_not.mpr next), Imperative.pure_run]
          dsimp only
          rcases s.validateRest_run crypto msg skipAuth true rfl rfl with ⟨right, here, same⟩ | ⟨wrong, e, same⟩
          · have accepted : s.Validates crypto msg skipAuth (.ok () (s.count msg)) := .accepted ⟨numbered, right, here⟩
            rw [same]
            simpa [request, count, zero] using accepted
          · rw [same]
            exact .refused later numbered wrong e
        · have misnumbered : ¬s.Numbered msg := by simp [Numbered, request, next, zero]
          rw [if_pos next]
          exact .misnumbered misnumbered fresh _

theorem rxValidateMsg_ok_iff {crypto : Crypto} {s t : Session} {msg : Message} {skipAuth : Bool} :
    rxValidateMsg crypto msg skipAuth s = .ok () t ↔ s.Acceptable crypto msg skipAuth ∧ t = s.count msg := by
  constructor
  · intro accepts
    have how := s.validates crypto msg skipAuth
    rw [accepts] at how
    cases how with
    | accepted acceptable => exact ⟨acceptable, rfl⟩
  · rintro ⟨acceptable, rfl⟩
    have how := s.validates crypto msg skipAuth
    have expected := acceptable.numbered
    generalize rxValidateMsg crypto msg skipAuth s = result at how
    cases how with
    | accepted => rfl
    | misnumbered misnumbered => exact absurd expected misnumbered
    | refusedFirst first refused => exact absurd ⟨acceptable.authentic, acceptable.addressed⟩ refused
    | refused later numbered refused => exact absurd ⟨acceptable.authentic, acceptable.addressed⟩ refused
    | unanswered repeats => exact absurd expected repeats.not_numbered
    | resent repeats => exact absurd expected repeats.not_numbered
    | unexpected repeats => exact absurd expected repeats.not_numbered

/-- Whether `RxValidateMsg` returns. -/
def accepts : Bool :=
  match rxValidateMsg crypto msg skipAuth s with
  | .ok _ _ => true
  | .error _ _ => false

theorem accepts_iff : s.accepts crypto msg skipAuth = true ↔ s.Acceptable crypto msg skipAuth := by
  unfold accepts
  cases validated : rxValidateMsg crypto msg skipAuth s with
  | ok value t => exact iff_of_true rfl (rxValidateMsg_ok_iff.mp validated).1
  | error failure t =>
    apply iff_of_false Bool.false_ne_true
    intro acceptable
    rw [rxValidateMsg_ok_iff.mpr ⟨acceptable, rfl⟩] at validated
    cases validated

end Session

end OpenDiameter.Pana
