import OpenDiameter.Session.AuthNegotiation

/-! What a server session of authorization tells of its lifetimes, and what it keeps.

The two lifetimes are put in order when a request is received. When the answer is sent, the
application may still lower the session timeout, and the other is left as it was.
-/

set_option autoImplicit false

namespace OpenDiameter.Session.AuthNegotiation

open AcctServer (Negotiated)

section Purpose

inductive ServerSession (cfg : Config) : Lifetimes → Prop where
  | initial : ServerSession cfg (.initial cfg)
  | rxRequest {session : Lifetimes} (avps set : Settings) :
      ServerSession cfg session → ServerSession cfg (session.rxRequest cfg avps set)
  | txDelivery {session : Lifetimes} (avps : Settings) :
      ServerSession cfg session → ServerSession cfg (session.txDelivery avps).1

def Told (avp : Option UInt32) (own : Negotiated) : Prop := ∀ value ∈ avp, value = own.value

def Heeds (own : Negotiated) (hint : Option UInt32) : Prop := ∀ value ∈ hint, own.value ≤ value

structure Consistent (cfg : Config) (session : Lifetimes) (request set out : Settings) : Prop where
  sessionTimeout : Told ((session.rxRequest cfg request set).txDelivery out).2.sessionTimeout
    ((session.rxRequest cfg request set).txDelivery out).1.sessionTimeout
  lifetime : Told ((session.rxRequest cfg request set).txDelivery out).2.lifetime
    ((session.rxRequest cfg request set).txDelivery out).1.lifetime
  grace : Told ((session.rxRequest cfg request set).txDelivery out).2.grace
    ((session.rxRequest cfg request set).txDelivery out).1.grace
  ordered : ((session.rxRequest cfg request set).txDelivery out).1.lifetime.value ≤
    ((session.rxRequest cfg request set).txDelivery out).1.sessionTimeout.value
  timeoutHint : Heeds ((session.rxRequest cfg request set).txDelivery out).1.sessionTimeout request.sessionTimeout
  lifetimeHint : Heeds ((session.rxRequest cfg request set).txDelivery out).1.lifetime request.lifetime

end Purpose

section Condition

/-- The value of the callback, or else the one that stands, but not above the hint. -/
def limit (own : Negotiated) (callback hint : Option UInt32) : UInt32 := lowered (assign own callback) hint

def InOrder (session : Lifetimes) (request set out : Settings) : Prop :=
  ∀ value ∈ out.sessionTimeout, value < limit session.sessionTimeout set.sessionTimeout request.sessionTimeout →
    limit session.lifetime set.lifetime request.lifetime ≤ value ∨ (∃ lower ∈ out.lifetime, lower ≤ value) ∨
      (limit session.sessionTimeout set.sessionTimeout request.sessionTimeout <
          limit session.lifetime set.lifetime request.lifetime ∧
        underTimeout (limit session.sessionTimeout set.sessionTimeout request.sessionTimeout) ≤ value)

/-- An application and a client that ask for nothing else once the values stand. -/
structure Standing (session : Lifetimes) (request out : Settings) : Prop where
  sessionTimeout : Told out.sessionTimeout session.sessionTimeout
  lifetime : Told out.lifetime session.lifetime
  grace : Told out.grace session.grace
  ordered : session.lifetime.value ≤ session.sessionTimeout.value
  timeoutHint : Heeds session.sessionTimeout request.sessionTimeout
  lifetimeHint : Heeds session.lifetime request.lifetime

end Condition

section Steps

variable {cfg : Config} {session : Lifetimes}

theorem lowered_le (own : Negotiated) (avp : Option UInt32) : lowered own avp ≤ own.value := by
  unfold lowered
  cases avp with
  | none => exact UInt32.le_refl _
  | some value =>
    dsimp only
    split
    · exact UInt32.le_refl _
    · next notLess => exact UInt32.not_lt.mp notLess

theorem lowered_le_avp (own : Negotiated) {avp : Option UInt32} {value : UInt32} (given : value ∈ avp) :
    lowered own avp ≤ value := by
  rw [Option.mem_def.mp given, lowered]
  split
  · next less => exact UInt32.le_of_lt less
  · exact UInt32.le_refl _

theorem le_lowered_iff (own : Negotiated) (avp : Option UInt32) (bound : UInt32) :
    lowered own avp ≤ bound ↔ own.value ≤ bound ∨ ∃ value ∈ avp, value ≤ bound := by
  cases avp with
  | none => simp [lowered]
  | some value =>
    unfold lowered
    dsimp only
    split
    · next less =>
      refine ⟨.inl, ?_⟩
      rintro (own' | ⟨value', given, below⟩)
      · exact own'
      · cases given
        exact UInt32.le_trans (UInt32.le_of_lt less) below
    · next notLess =>
      refine ⟨fun below => .inr ⟨value, rfl, below⟩, ?_⟩
      rintro (own' | ⟨value', given, below⟩)
      · exact UInt32.le_trans (UInt32.not_lt.mp notLess) own'
      · cases given
        exact below

theorem rxRequest_first (request set : Settings) (timeout : session.sessionTimeout.isNegotiated = false)
    (lifetime : session.lifetime.isNegotiated = false) (grace : session.grace.isNegotiated = false) :
    session.rxRequest cfg request set =
      { Lifetimes.sane ⟨session.rxState cfg request set,
          ⟨limit session.sessionTimeout set.sessionTimeout request.sessionTimeout, false⟩,
          ⟨limit session.lifetime set.lifetime request.lifetime, false⟩, session.grace⟩ with
        grace := assign session.grace set.grace } := by
  obtain ⟨state, ⟨timeoutValue, timeoutSet⟩, ⟨lifetimeValue, lifetimeSet⟩, ⟨graceValue, graceSet⟩⟩ := session
  dsimp only at timeout lifetime grace
  subst timeout lifetime grace
  simp only [Lifetimes.rxRequest, Lifetimes.rxHint, limit, Bool.false_eq_true, if_false]
  obtain ⟨keptState, keptTimeout, keptGrace, keptLifetime⟩ := sane_keeps
    ⟨Lifetimes.rxState ⟨state, ⟨timeoutValue, false⟩, ⟨lifetimeValue, false⟩, ⟨graceValue, false⟩⟩ cfg request set,
      ⟨lowered (assign ⟨timeoutValue, false⟩ set.sessionTimeout) request.sessionTimeout, false⟩,
      ⟨lowered (assign ⟨lifetimeValue, false⟩ set.lifetime) request.lifetime, false⟩, ⟨graceValue, false⟩⟩
  rw [keptGrace]
  rfl

/-- A session whose values stand changes at most its state. -/
theorem rxRequest_later (request set : Settings) (timeout : session.sessionTimeout.isNegotiated = true)
    (lifetime : session.lifetime.isNegotiated = true) (grace : session.grace.isNegotiated = true) :
    session.rxRequest cfg request set = { session with state := session.rxState cfg request set } := by
  simp only [Lifetimes.rxRequest, timeout, lifetime, grace, if_true]

theorem ServerSession.together (reached : ServerSession cfg session) :
    session.lifetime.isNegotiated = session.sessionTimeout.isNegotiated ∧
      session.grace.isNegotiated = session.sessionTimeout.isNegotiated := by
  induction reached with
  | initial => exact ⟨rfl, rfl⟩
  | @rxRequest session avps set reached ih =>
    obtain ⟨lifetime, grace⟩ := ih
    cases standing : session.sessionTimeout.isNegotiated with
    | true =>
      rw [rxRequest_later avps set standing (lifetime.trans standing) (grace.trans standing)]
      exact ⟨lifetime, grace⟩
    | false =>
      rw [rxRequest_first avps set standing (lifetime.trans standing) (grace.trans standing)]
      obtain ⟨-, keptTimeout, -, keptLifetime⟩ := sane_keeps ⟨session.rxState cfg avps set,
        ⟨limit session.sessionTimeout set.sessionTimeout avps.sessionTimeout, false⟩,
        ⟨limit session.lifetime set.lifetime avps.lifetime, false⟩, session.grace⟩
      dsimp only
      rw [keptTimeout, keptLifetime]
      exact ⟨rfl, grace.trans standing⟩
  | @txDelivery session avps reached ih =>
    obtain ⟨lifetime, grace⟩ := ih
    cases standing : session.sessionTimeout.isNegotiated with
    | true =>
      simp only [Lifetimes.txDelivery, tx_negotiated standing, tx_negotiated (lifetime.trans standing),
        tx_negotiated (grace.trans standing)]
      exact ⟨lifetime, grace⟩
    | false =>
      simp only [Lifetimes.txDelivery, tx_first standing, tx_first (lifetime.trans standing),
        tx_first (grace.trans standing), and_self]

end Steps

section Result

variable {cfg : Config} {session : Lifetimes}

theorem lowered_ordered_iff {timeout lifetime : Negotiated} (ordered : lifetime.value ≤ timeout.value)
    (timeoutAvp lifetimeAvp : Option UInt32) :
    lowered lifetime lifetimeAvp ≤ lowered timeout timeoutAvp ↔
      ∀ value ∈ timeoutAvp, value < timeout.value → lifetime.value ≤ value ∨ ∃ lower ∈ lifetimeAvp, lower ≤ value := by
  have below := UInt32.le_trans (lowered_le lifetime lifetimeAvp) ordered
  cases timeoutAvp with
  | none => exact iff_of_true below (by simp)
  | some value =>
    have only : (∀ value' ∈ some value, value' < timeout.value →
        lifetime.value ≤ value' ∨ ∃ lower ∈ lifetimeAvp, lower ≤ value') ↔
          (value < timeout.value → lowered lifetime lifetimeAvp ≤ value) := by
      simp only [Option.mem_some_iff, forall_eq', le_lowered_iff]
    rw [only]
    by_cases less : value < timeout.value
    · have sent : lowered timeout (some value) = value := if_neg (UInt32.not_lt.mpr (UInt32.le_of_lt less))
      rw [sent]
      exact ⟨fun within _ => within, fun within => within less⟩
    · refine iff_of_true ?_ fun less' => absurd less' less
      have sent : lowered timeout (some value) = timeout.value :=
        lowered_notBelow fun value' given => by
          cases given
          exact UInt32.not_lt.mp less
      rw [sent]
      exact below

theorem sane_lifetime_le_iff {state grace : Negotiated} {timeout lifetime value : UInt32} (less : value < timeout) :
    (Lifetimes.sane ⟨state, ⟨timeout, false⟩, ⟨lifetime, false⟩, grace⟩).lifetime.value ≤ value ↔
      lifetime ≤ value ∨ (timeout < lifetime ∧ underTimeout timeout ≤ value) := by
  unfold Lifetimes.sane
  dsimp only
  by_cases above : timeout < lifetime
  · rw [if_pos above]
    have notBelow : ¬lifetime ≤ value := UInt32.not_le.mpr (UInt32.lt_trans less above)
    simp [above, notBelow]
  · rw [if_neg above]
    simp [above]

theorem consistent_of_answer {request set out sent : Settings} {after : Lifetimes}
    (answered : (session.rxRequest cfg request set).txDelivery out = (after, sent)) :
    Consistent cfg session request set out ↔
      (Told sent.sessionTimeout after.sessionTimeout ∧ Told sent.lifetime after.lifetime ∧ Told sent.grace after.grace) ∧
        after.lifetime.value ≤ after.sessionTimeout.value ∧
        Heeds after.sessionTimeout request.sessionTimeout ∧ Heeds after.lifetime request.lifetime := by
  constructor
  · rintro ⟨timeoutTold, lifetimeTold, graceTold, ordered, timeoutHint, lifetimeHint⟩
    rw [answered] at timeoutTold lifetimeTold graceTold ordered timeoutHint lifetimeHint
    exact ⟨⟨timeoutTold, lifetimeTold, graceTold⟩, ordered, timeoutHint, lifetimeHint⟩
  · rintro ⟨⟨timeoutTold, lifetimeTold, graceTold⟩, ordered, timeoutHint, lifetimeHint⟩
    constructor <;> rw [answered] <;> assumption

theorem told_some (value : UInt32) (isNegotiated : Bool) : Told (some value) ⟨value, isNegotiated⟩ := by
  intro value' given
  cases given
  rfl

theorem heeds_of_le {own : Negotiated} {hint : Option UInt32} {bound : UInt32} (below : own.value ≤ bound)
    (heeded : ∀ value ∈ hint, bound ≤ value) : Heeds own hint :=
  fun value given => UInt32.le_trans below (heeded value given)

theorem sane_lifetime_le (session : Lifetimes) : session.sane.lifetime.value ≤ session.lifetime.value := by
  unfold Lifetimes.sane
  split
  · next above => exact UInt32.le_trans (underTimeout_le _) (UInt32.le_of_lt above)
  · exact UInt32.le_refl _

/-- An answer is consistent exactly when its session timeout leaves room for the lifetime, while
the values are open, and when nothing else is asked for, once they stand. -/
theorem consistent_iff (reached : ServerSession cfg session) (request set out : Settings) :
    Consistent cfg session request set out ↔
      if session.sessionTimeout.isNegotiated then Standing session request out else InOrder session request set out := by
  obtain ⟨lifetime, grace⟩ := reached.together
  cases standing : session.sessionTimeout.isNegotiated with
  | true =>
    have answered : (session.rxRequest cfg request set).txDelivery out =
        ({ session with state := session.rxState cfg request set }, { out with state := some (session.rxState cfg request set).value }) := by
      rw [rxRequest_later request set standing (lifetime.trans standing) (grace.trans standing)]
      simp only [Lifetimes.txDelivery, tx_negotiated standing, tx_negotiated (lifetime.trans standing),
        tx_negotiated (grace.trans standing)]
    rw [consistent_of_answer answered, if_pos rfl]
    constructor
    · rintro ⟨⟨timeoutTold, lifetimeTold, graceTold⟩, ordered, timeoutHint, lifetimeHint⟩
      exact ⟨timeoutTold, lifetimeTold, graceTold, ordered, timeoutHint, lifetimeHint⟩
    · rintro ⟨timeoutTold, lifetimeTold, graceTold, ordered, timeoutHint, lifetimeHint⟩
      exact ⟨⟨timeoutTold, lifetimeTold, graceTold⟩, ordered, timeoutHint, lifetimeHint⟩
  | false =>
    let base : Lifetimes := ⟨session.rxState cfg request set,
      ⟨limit session.sessionTimeout set.sessionTimeout request.sessionTimeout, false⟩,
      ⟨limit session.lifetime set.lifetime request.lifetime, false⟩, session.grace⟩
    have received : session.rxRequest cfg request set = { base.sane with grace := assign session.grace set.grace } :=
      rxRequest_first request set standing (lifetime.trans standing) (grace.trans standing)
    obtain ⟨-, keptTimeout, -, keptLifetime⟩ := sane_keeps base
    have ordered := sane_ordered base
    have open' : base.sane.lifetime.isNegotiated = false := keptLifetime
    have asked : (assign session.grace set.grace).isNegotiated = false := grace.trans standing
    have answered : (session.rxRequest cfg request set).txDelivery out =
        (⟨base.sane.state, ⟨lowered base.sessionTimeout out.sessionTimeout, true⟩, ⟨lowered base.sane.lifetime out.lifetime, true⟩,
            ⟨lowered (assign session.grace set.grace) out.grace, true⟩⟩,
          ⟨some base.sane.state.value, some (lowered base.sessionTimeout out.sessionTimeout),
            some (lowered base.sane.lifetime out.lifetime), some (lowered (assign session.grace set.grace) out.grace)⟩) := by
      rw [received]
      simp only [Lifetimes.txDelivery, keptTimeout, tx_first open', tx_first asked]
      rfl
    rw [keptTimeout] at ordered
    rw [consistent_of_answer answered, if_neg Bool.false_ne_true, and_iff_right ⟨told_some _ _, told_some _ _, told_some _ _⟩]
    have timeoutHint : Heeds ⟨lowered base.sessionTimeout out.sessionTimeout, true⟩ request.sessionTimeout :=
      heeds_of_le (lowered_le _ _) fun value given => lowered_le_avp _ given
    have lifetimeHint : Heeds ⟨lowered base.sane.lifetime out.lifetime, true⟩ request.lifetime :=
      heeds_of_le (UInt32.le_trans (lowered_le _ _) (sane_lifetime_le base)) fun value given => lowered_le_avp _ given
    rw [and_iff_left ⟨timeoutHint, lifetimeHint⟩, lowered_ordered_iff ordered]
    refine forall₂_congr fun value _ => forall_congr' fun less => ?_
    rw [sane_lifetime_le_iff less, or_assoc, or_congr_right or_comm]

section Samples

def sampleLimits : Config := ⟨0, 100, 50, 10⟩

def sampleHints : Settings := { sessionTimeout := some 80, lifetime := some 90 }

def sampleSession : Lifetimes :=
  (((Lifetimes.initial sampleLimits).rxRequest sampleLimits sampleHints { sessionTimeout := some 60 }).txDelivery
    { sessionTimeout := some 40, lifetime := some 30 }).1

end Samples

/-- The application allows 60 seconds when it is asked. That it lowers the session timeout once more
is consistent when it lowers the lifetime too; later the client may ask for more, and not for less. -/
theorem consistent_iff_sample :
    Consistent sampleLimits (.initial sampleLimits) sampleHints { sessionTimeout := some 60 }
        { sessionTimeout := some 40, lifetime := some 30 } ∧
      ¬Consistent sampleLimits (.initial sampleLimits) sampleHints { sessionTimeout := some 60 }
        { sessionTimeout := some 40 } ∧
      Consistent sampleLimits sampleSession sampleHints { lifetime := some 5 } {} ∧
      ¬Consistent sampleLimits sampleSession { sessionTimeout := some 20 } {} {} := by
  have reached : ServerSession sampleLimits sampleSession := .txDelivery _ (.rxRequest _ _ .initial)
  refine ⟨?_, ?_, ?_, ?_⟩
  · refine (consistent_iff .initial _ _ _).mpr fun value given _ => ?_
    cases given
    exact .inr (.inl ⟨30, rfl, by decide⟩)
  · intro consistent
    rcases (consistent_iff .initial _ _ _).mp consistent 40 rfl (by decide) with before | ⟨lower, given, -⟩ | ⟨above, -⟩
    · exact absurd before (by decide)
    · cases given
    · exact absurd above (by decide)
  · refine (consistent_iff reached _ _ _).mpr ⟨?_, ?_, ?_, by decide, ?_, ?_⟩
    · exact fun value given => by cases given
    · exact fun value given => by cases given
    · exact fun value given => by cases given
    · intro value given
      cases given
      decide
    · intro value given
      cases given
      decide
  · intro consistent
    have standing : Standing sampleSession { sessionTimeout := some 20 } {} := (consistent_iff reached _ _ _).mp consistent
    exact absurd (standing.timeoutHint 20 rfl) (by decide)

/-- The application grants 30 seconds, and the authorization goes on for 50. -/
theorem lifetime_outlives_session :
    ¬∀ (cfg : Config) (session : Lifetimes), ServerSession cfg session → session.sessionTimeout.isNegotiated = false →
      ∀ request set out : Settings, Consistent cfg session request set out := by
  intro claim
  have ordered := (claim ⟨0, 100, 50, 10⟩ _ .initial rfl {} {} { sessionTimeout := some 30 }).ordered
  exact absurd ordered (by decide)

end Result

end OpenDiameter.Session.AuthNegotiation
