import OpenDiameter.Foundation.Runs
import Mathlib.Data.List.Basic
import Mathlib.Algebra.Group.Int.Defs
import Mathlib.Algebra.GroupWithZero.Nat

/-! The retransmission timer: how long a request waits for its answer, and how often it is sent again.

The rules of the comments are stated on integers, and the timer computes in
32-bit words. A maximum of 0 means that there is none, but the word is compared
with it all the same.
-/

set_option autoImplicit false

namespace OpenDiameter.Pana.Retransmission

open Foundation

/-- A draw of `RAND`, as the term `int(RAND()*float(base))` that is added. -/
structure Rand where
  term : UInt32 → Int
  bounded : ∀ base, 10 * (term base).natAbs ≤ base.toNat

structure Draws where
  first : Rand
  second : Rand

/-- `m_RT` of the configuration. -/
structure Config where
  m_IRT : UInt32
  m_MRC : UInt32
  m_MRT : UInt32
  m_MRD : UInt32
  deriving DecidableEq, Repr

structure Timer where
  m_Timeout : UInt32
  m_Duration : UInt32
  m_Count : UInt32
  deriving DecidableEq, Repr

section Words

variable (cfg : Config) (draws : Draws)

/-- What both computations of `newRt` end with. -/
def boundRt (newRt : UInt32) : UInt32 :=
  if newRt > cfg.m_MRT then cfg.m_MRT + UInt32.ofInt (draws.second.term cfg.m_MRT) else newRt

def firstRt : UInt32 := boundRt cfg draws (cfg.m_IRT + UInt32.ofInt (draws.first.term cfg.m_IRT))

def nextRt (t : Timer) : UInt32 :=
  boundRt cfg draws (2 * t.m_Timeout + UInt32.ofInt (draws.first.term t.m_Timeout))

def scheduleTxRetry : Timer :=
  let newRt := firstRt cfg draws
  ⟨newRt, newRt, 1⟩

/-- `ReScheduleTxRetry`; the timer is left as it is when it gives up. -/
def reScheduleTxRetry (t : Timer) : Option Timer :=
  let newRt := nextRt cfg draws t
  if cfg.m_MRC > 0 ∧ t.m_Count ≥ cfg.m_MRC then none
  else if cfg.m_MRD > 0 ∧ t.m_Duration + newRt > cfg.m_MRD then none
  else some ⟨newRt, t.m_Duration + newRt, t.m_Count + 1⟩

structure Sending where
  timer : Timer
  scheduled : List UInt32
  transmissions : Nat
  gaveUp : Bool
  deriving DecidableEq, Repr

def sendReqMsg : Sending :=
  let timer := scheduleTxRetry cfg draws
  ⟨timer, [timer.m_Timeout], 1, false⟩

def txLastReqMsg (s : Sending) (draws : Draws) : Sending :=
  match reScheduleTxRetry cfg draws s.timer with
  | some timer => ⟨timer, s.scheduled ++ [timer.m_Timeout], s.transmissions + 1, s.gaveUp⟩
  | none => { s with gaveUp := true }

end Words

section Rules

variable (cfg : Config) (draws : Draws)

/-- `RT = IRT + RAND*IRT`. -/
def firstRaw : Int := cfg.m_IRT.toNat + draws.first.term cfg.m_IRT

/-- `RT = 2*RTprev + RAND*RTprev`. -/
def nextRaw (t : Timer) : Int := 2 * t.m_Timeout.toNat + draws.first.term t.m_Timeout

/-- `if (RT > MRT) RT = MRT + RAND*MRT`, unless `MRT` is 0. -/
def limited (raw : Int) : Int :=
  if cfg.m_MRT ≠ 0 ∧ cfg.m_MRT.toNat < raw then cfg.m_MRT.toNat + draws.second.term cfg.m_MRT else raw

/-- `newRt` is what the rules say for `raw`, and no word was too small on the way. -/
structure Computes (raw : Int) (newRt : UInt32) : Prop where
  raw_fits : raw < 2 ^ 32
  limited_fits : limited cfg draws raw < 2 ^ 32
  exact : (newRt.toNat : Int) = limited cfg draws raw
  positive : 0 < newRt

def Sending.total (s : Sending) : Nat := (s.scheduled.map UInt32.toNat).sum

/-- The request was sent as often as it may be. -/
def Exhausted (t : Timer) : Prop := cfg.m_MRC > 0 ∧ t.m_Count ≥ cfg.m_MRC

instance (t : Timer) : Decidable (Exhausted cfg t) := inferInstanceAs (Decidable (_ ∧ _))

structure Follows (s : Sending) (draws : Draws) : Prop where
  computes : Computes cfg draws (nextRaw draws s.timer) (nextRt cfg draws s.timer)
  duration_fits : ¬Exhausted cfg s.timer →
    (s.timer.m_Duration.toNat : Int) + limited cfg draws (nextRaw draws s.timer) < 2 ^ 32
  count_fits : reScheduleTxRetry cfg draws s.timer ≠ none → s.timer.m_Count.toNat + 1 < 2 ^ 32

structure Obeys (s : Sending) : Prop where
  current : s.scheduled.getLast? = some s.timer.m_Timeout
  positive : ∀ rt ∈ s.scheduled, 0 < rt
  transmitted : cfg.m_MRC ≠ 0 → s.transmissions ≤ cfg.m_MRC.toNat
  elapsed : cfg.m_MRD ≠ 0 → s.total ≤ cfg.m_MRD.toNat
  persistent : s.gaveUp = true → cfg.m_MRC ≠ 0 ∨ cfg.m_MRD ≠ 0

/-- A request and its retransmissions follow the rules. -/
structure Timely (later : List Draws) : Prop where
  starts : Computes cfg draws (firstRaw cfg draws) (firstRt cfg draws)
  follows : Stepwise (txLastReqMsg cfg) (Follows cfg) (sendReqMsg cfg draws) later
  obeys : ∀ before, before <+: later → Obeys cfg (before.foldl (txLastReqMsg cfg) (sendReqMsg cfg draws))

/-- The rules stay within 32 bits on a retransmission. -/
structure Fits (s : Sending) (draws : Draws) : Prop where
  raw : nextRaw draws s.timer < 2 ^ 32
  limited : limited cfg draws (nextRaw draws s.timer) < 2 ^ 32
  duration : ¬Exhausted cfg s.timer →
    (s.timer.m_Duration.toNat : Int) + Retransmission.limited cfg draws (nextRaw draws s.timer) < 2 ^ 32

structure Bounded (later : List Draws) : Prop where
  maximum : cfg.m_MRT ≠ 0
  raw : firstRaw cfg draws < 2 ^ 32
  limited : limited cfg draws (firstRaw cfg draws) < 2 ^ 32
  duration : cfg.m_MRD ≠ 0 → Retransmission.limited cfg draws (firstRaw cfg draws) ≤ cfg.m_MRD.toNat
  fits : Stepwise (txLastReqMsg cfg) (Fits cfg) (sendReqMsg cfg draws) later

end Rules

section Arithmetic

variable {cfg : Config} {draws : Draws}

theorem toNat_add_ofInt (base : UInt32) (r : Int) :
    ((base + UInt32.ofInt r).toNat : Int) = (base.toNat + r) % 2 ^ 32 := by
  rw [UInt32.toNat_add, UInt32.ofInt, UInt32.toNat_ofNat']
  omega

theorem toNat_double_add_ofInt (base : UInt32) (r : Int) :
    ((2 * base + UInt32.ofInt r).toNat : Int) = (2 * base.toNat + r) % 2 ^ 32 := by
  have doubled : (2 * base).toNat = 2 * base.toNat % 2 ^ 32 := UInt32.toNat_mul _ _
  rw [toNat_add_ofInt, doubled]
  omega

theorem toNat_ne_zero {n : UInt32} : n ≠ 0 ↔ n.toNat ≠ 0 := by
  rw [Ne, ← UInt32.toNat_inj]
  rfl

theorem pos_iff_toNat {n : UInt32} : 0 < n ↔ 0 < n.toNat := UInt32.lt_iff_toNat_lt

theorem Rand.near (r : Rand) (base : UInt32) :
    10 * r.term base ≤ base.toNat ∧ -(base.toNat : Int) ≤ 10 * r.term base := by
  have bound := r.bounded base
  omega

theorem boundRt_of_zero (none_set : cfg.m_MRT = 0) (newRt : UInt32) : boundRt cfg draws newRt = 0 := by
  have term : draws.second.term 0 = 0 := by
    have bound := draws.second.bounded 0
    have zero : (0 : UInt32).toNat = 0 := rfl
    omega
  unfold boundRt
  rw [none_set, term]
  split
  case isTrue above => rfl
  case isFalse below =>
    have least : newRt.toNat ≤ 0 := UInt32.le_iff_toNat_le.mp (UInt32.not_lt.mp below)
    exact UInt32.toNat_inj.mp (Nat.le_zero.mp least)

theorem computes_iff {raw : Int} {word : UInt32} (positive : 0 < raw)
    (stands : (word.toNat : Int) = raw % 2 ^ 32) :
    Computes cfg draws raw (boundRt cfg draws word) ↔
      cfg.m_MRT ≠ 0 ∧ raw < 2 ^ 32 ∧ limited cfg draws raw < 2 ^ 32 := by
  constructor
  · intro computes
    refine ⟨fun none_set => ?_, computes.raw_fits, computes.limited_fits⟩
    have timeout := computes.positive
    rw [boundRt_of_zero none_set] at timeout
    exact absurd timeout (by decide)
  · intro bounded
    obtain ⟨maximum, raw_fits, limited_fits⟩ := bounded
    have word_eq : (word.toNat : Int) = raw := by omega
    have above_iff : word > cfg.m_MRT ↔ (cfg.m_MRT.toNat : Int) < raw := by
      rw [GT.gt, UInt32.lt_iff_toNat_lt]
      omega
    have maximum_pos := toNat_ne_zero.mp maximum
    have near := draws.second.near cfg.m_MRT
    have exact : ((boundRt cfg draws word).toNat : Int) = limited cfg draws raw := by
      by_cases above : (cfg.m_MRT.toNat : Int) < raw
      · have sum : limited cfg draws raw = cfg.m_MRT.toNat + draws.second.term cfg.m_MRT :=
          if_pos ⟨maximum, above⟩
        rw [sum] at limited_fits ⊢
        rw [boundRt, if_pos (above_iff.mpr above), toNat_add_ofInt]
        omega
      · have same : limited cfg draws raw = raw := if_neg fun both => above both.2
        rw [boundRt, if_neg fun word_above => above (above_iff.mp word_above), word_eq, same]
    refine ⟨raw_fits, limited_fits, exact, pos_iff_toNat.mpr ?_⟩
    unfold limited at exact
    split at exact
    case isTrue => omega
    case isFalse => omega

theorem starts_iff (draws : Draws) (used : 0 < cfg.m_IRT) :
    Computes cfg draws (firstRaw cfg draws) (firstRt cfg draws) ↔
      cfg.m_MRT ≠ 0 ∧ firstRaw cfg draws < 2 ^ 32 ∧ limited cfg draws (firstRaw cfg draws) < 2 ^ 32 := by
  have near := draws.first.near cfg.m_IRT
  have base := pos_iff_toNat.mp used
  exact computes_iff (by unfold firstRaw; omega) (toNat_add_ofInt _ _)

theorem computes_next_iff (draws : Draws) {t : Timer} (running : 0 < t.m_Timeout) :
    Computes cfg draws (nextRaw draws t) (nextRt cfg draws t) ↔
      cfg.m_MRT ≠ 0 ∧ nextRaw draws t < 2 ^ 32 ∧ limited cfg draws (nextRaw draws t) < 2 ^ 32 := by
  have near := draws.first.near t.m_Timeout
  have base := pos_iff_toNat.mp running
  exact computes_iff (by unfold nextRaw; omega) (toNat_double_add_ofInt _ _)

end Arithmetic

section Steps

variable {cfg : Config} {draws : Draws} {s : Sending}

/-- What `ReScheduleTxRetry` does: it gives up for one of two reasons, or goes on. -/
theorem reScheduleTxRetry_cases (cfg : Config) (draws : Draws) (t : Timer) :
    (Exhausted cfg t ∧ reScheduleTxRetry cfg draws t = none) ∨
    (¬Exhausted cfg t ∧ cfg.m_MRD ≠ 0 ∧ reScheduleTxRetry cfg draws t = none) ∨
    (¬Exhausted cfg t ∧ (cfg.m_MRD ≠ 0 → t.m_Duration + nextRt cfg draws t ≤ cfg.m_MRD) ∧
      reScheduleTxRetry cfg draws t =
        some ⟨nextRt cfg draws t, t.m_Duration + nextRt cfg draws t, t.m_Count + 1⟩) := by
  have positive : cfg.m_MRD > 0 ↔ cfg.m_MRD ≠ 0 := by
    rw [GT.gt, pos_iff_toNat, toNat_ne_zero]
    omega
  by_cases exhausted : Exhausted cfg t
  · exact .inl ⟨exhausted, if_pos exhausted⟩
  · by_cases late : cfg.m_MRD > 0 ∧ t.m_Duration + nextRt cfg draws t > cfg.m_MRD
    · exact .inr (.inl ⟨exhausted, positive.mp late.1, (if_neg exhausted).trans (if_pos late)⟩)
    · have within (limited : cfg.m_MRD ≠ 0) : t.m_Duration + nextRt cfg draws t ≤ cfg.m_MRD :=
        UInt32.not_lt.mp fun above => late ⟨positive.mpr limited, above⟩
      exact .inr (.inr ⟨exhausted, within, (if_neg exhausted).trans (if_neg late)⟩)

structure Holds (cfg : Config) (s : Sending) : Prop where
  obeys : Obeys cfg s
  duration : s.timer.m_Duration.toNat = s.total
  count : s.timer.m_Count.toNat = s.transmissions
  counted : s.transmissions ≤ s.total

theorem Holds.running (holds : Holds cfg s) : 0 < s.timer.m_Timeout :=
  holds.obeys.positive _ (List.mem_of_getLast? holds.obeys.current)

/-- Without a word that is too small, the duration and the count go on as they should. -/
theorem Holds.follows_iff (holds : Holds cfg s) (maximum : cfg.m_MRT ≠ 0) :
    Follows cfg s draws ↔ Fits cfg s draws := by
  constructor
  · intro follows
    exact ⟨follows.computes.raw_fits, follows.computes.limited_fits, follows.duration_fits⟩
  · intro fits
    have computes := (computes_next_iff draws holds.running).mpr ⟨maximum, fits.raw, fits.limited⟩
    refine ⟨computes, fits.duration, fun accepted => ?_⟩
    have going : ¬Exhausted cfg s.timer := by
      intro exhausted
      exact accepted (if_pos exhausted)
    have sum := fits.duration going
    have exact := computes.exact
    have positive := pos_iff_toNat.mp computes.positive
    have counted := holds.counted
    rw [← holds.count, ← holds.duration] at counted
    omega

theorem Holds.step (holds : Holds cfg s) (maximum : cfg.m_MRT ≠ 0) (fits : Fits cfg s draws) :
    Holds cfg (txLastReqMsg cfg s draws) := by
  have computes := (computes_next_iff draws holds.running).mpr ⟨maximum, fits.raw, fits.limited⟩
  have gives_up (tried : reScheduleTxRetry cfg draws s.timer = none)
      (reason : cfg.m_MRC ≠ 0 ∨ cfg.m_MRD ≠ 0) : Holds cfg (txLastReqMsg cfg s draws) := by
    unfold txLastReqMsg
    rw [tried]
    exact ⟨{ holds.obeys with persistent := fun _ => reason }, holds.duration, holds.count, holds.counted⟩
  -- The machine gives up by the count or by the duration, or sends once more.
  rcases reScheduleTxRetry_cases cfg draws s.timer with
    ⟨exhausted, tried⟩ | ⟨-, limited, tried⟩ | ⟨going, within, tried⟩
  · refine gives_up tried (.inl (toNat_ne_zero.mpr ?_))
    have some_count := pos_iff_toNat.mp exhausted.1
    omega
  · exact gives_up tried (.inr limited)
  · have sent : txLastReqMsg cfg s draws = ⟨⟨nextRt cfg draws s.timer,
        s.timer.m_Duration + nextRt cfg draws s.timer, s.timer.m_Count + 1⟩,
        s.scheduled ++ [nextRt cfg draws s.timer], s.transmissions + 1, s.gaveUp⟩ := by
      unfold txLastReqMsg
      rw [tried]
    have sum := fits.duration going
    have exact := computes.exact
    have positive := pos_iff_toNat.mp computes.positive
    have counted := holds.counted
    have duration := holds.duration
    have count := holds.count
    -- Neither sum wraps, since the configuration fits.
    have longer : (s.timer.m_Duration + nextRt cfg draws s.timer).toNat =
        s.timer.m_Duration.toNat + (nextRt cfg draws s.timer).toNat := by
      rw [UInt32.toNat_add, Nat.mod_eq_of_lt]
      omega
    have more : (s.timer.m_Count + 1).toNat = s.timer.m_Count.toNat + 1 := by
      rw [UInt32.toNat_add, Nat.mod_eq_of_lt]
      · rfl
      · have one : (1 : UInt32).toNat = 1 := rfl
        omega
    have total : (txLastReqMsg cfg s draws).total = s.total + (nextRt cfg draws s.timer).toNat := by
      rw [sent]
      simp [Sending.total]
    rw [sent] at total ⊢
    refine ⟨⟨List.getLast?_concat, ?_, ?_, ?_, holds.obeys.persistent⟩, ?_, ?_, ?_⟩
    · intro rt mem
      rcases List.mem_append.mp mem with earlier | new
      · exact holds.obeys.positive rt earlier
      · rw [List.mem_singleton.mp new]
        exact computes.positive
    · intro limited
      have fewer : s.timer.m_Count < cfg.m_MRC := by
        have some_count : cfg.m_MRC > 0 := by
          rw [GT.gt, pos_iff_toNat]
          exact Nat.pos_of_ne_zero (toNat_ne_zero.mp limited)
        exact UInt32.not_le.mp fun all => going ⟨some_count, all⟩
      have below := UInt32.lt_iff_toNat_lt.mp fewer
      dsimp only
      omega
    · intro limited
      have below := UInt32.le_iff_toNat_le.mp (within limited)
      rw [total]
      omega
    · rw [total]
      dsimp only
      omega
    · dsimp only
      omega
    · rw [total]
      dsimp only
      omega

theorem holds_sendReqMsg (computes : Computes cfg draws (firstRaw cfg draws) (firstRt cfg draws))
    (within : cfg.m_MRD ≠ 0 → limited cfg draws (firstRaw cfg draws) ≤ cfg.m_MRD.toNat) :
    Holds cfg (sendReqMsg cfg draws) := by
  have exact := computes.exact
  have positive := pos_iff_toNat.mp computes.positive
  have total : (sendReqMsg cfg draws).total = (firstRt cfg draws).toNat := by
    simp [Sending.total, sendReqMsg, scheduleTxRetry]
  refine ⟨⟨rfl, ?_, ?_, ?_, fun gaveUp => nomatch gaveUp⟩, total.symm, rfl, ?_⟩
  · intro rt mem
    rw [List.mem_singleton.mp mem]
    exact computes.positive
  · intro limited
    have some_count := toNat_ne_zero.mp limited
    have one : (sendReqMsg cfg draws).transmissions = 1 := rfl
    omega
  · intro limited
    have first := within limited
    omega
  · have one : (sendReqMsg cfg draws).transmissions = 1 := rfl
    omega

theorem Holds.stepwise_iff (holds : Holds cfg s) (maximum : cfg.m_MRT ≠ 0) (later : List Draws) :
    Stepwise (txLastReqMsg cfg) (Follows cfg) s later ↔ Stepwise (txLastReqMsg cfg) (Fits cfg) s later := by
  have agree (s : Sending) (input : Draws) (holds : Holds cfg s) (_ : True) :
      Follows cfg s input ↔ Fits cfg s input := holds.follows_iff maximum
  have keeps (s : Sending) (input : Draws) (holds : Holds cfg s) (_ : True) (fits : Fits cfg s input) :
      Holds cfg (txLastReqMsg cfg s input) := holds.step maximum fits
  exact Foundation.stepwise_iff agree keeps holds fun _ _ => trivial

/-- A request and its retransmissions follow the rules when there is a maximum, the first
timeout is within the whole duration, and nothing exceeds 32 bits. -/
theorem timely_iff {cfg : Config} (used : 0 < cfg.m_IRT) (draws : Draws) (later : List Draws) :
    Timely cfg draws later ↔ Bounded cfg draws later := by
  constructor
  · intro timely
    obtain ⟨maximum, raw, limited_fits⟩ := (starts_iff _ used).mp timely.starts
    have within (limited_total : cfg.m_MRD ≠ 0) :
        limited cfg draws (firstRaw cfg draws) ≤ cfg.m_MRD.toNat := by
      have total := (timely.obeys [] List.nil_prefix).elapsed limited_total
      have exact := timely.starts.exact
      simp only [List.foldl_nil, Sending.total, sendReqMsg, scheduleTxRetry, List.map_cons, List.map_nil,
        List.sum_cons, List.sum_nil] at total
      omega
    have initially := holds_sendReqMsg timely.starts within
    exact ⟨maximum, raw, limited_fits, within, (initially.stepwise_iff maximum later).mp timely.follows⟩
  · intro bounded
    have starts := (starts_iff _ used).mpr ⟨bounded.maximum, bounded.raw, bounded.limited⟩
    have initially := holds_sendReqMsg starts bounded.duration
    refine ⟨starts, (initially.stepwise_iff bounded.maximum later).mpr bounded.fits, fun before inside => ?_⟩
    obtain ⟨after, rfl⟩ := inside
    have fits := (stepwise_append.mp bounded.fits).1
    exact (fits.invariant (fun s input holds fits => holds.step bounded.maximum fits) initially).obeys

end Steps

section Configurations

variable {cfg : Config} {draws : Draws}

theorem limited_le (draws : Draws) (maximum : cfg.m_MRT ≠ 0) (raw : Int) : 10 * limited cfg draws raw ≤ 11 * cfg.m_MRT.toNat := by
  have near := draws.second.near cfg.m_MRT
  unfold limited
  by_cases above : (cfg.m_MRT.toNat : Int) < raw
  · rw [if_pos ⟨maximum, above⟩]
    omega
  · rw [if_neg fun both => above both.2]
    omega

theorem timely_of_config (used : 0 < cfg.m_IRT) (maximum : cfg.m_MRT ≠ 0)
    (first : 11 * cfg.m_IRT.toNat < 10 * 2 ^ 32) (room : 231 * cfg.m_MRT.toNat < 100 * 2 ^ 32)
    (longer : 11 * cfg.m_MRT.toNat ≤ 10 * cfg.m_MRD.toNat)
    (sum : 10 * cfg.m_MRD.toNat + 11 * cfg.m_MRT.toNat < 10 * 2 ^ 32) (draws : Draws) (later : List Draws) :
    Timely cfg draws later := by
  have some_maximum := toNat_ne_zero.mp maximum
  have limited_duration : cfg.m_MRD ≠ 0 := toNat_ne_zero.mpr (by omega)
  have raw : firstRaw cfg draws < 2 ^ 32 := by
    have near := draws.first.near cfg.m_IRT
    unfold firstRaw
    omega
  have below := limited_le draws maximum (firstRaw cfg draws)
  have starts := (starts_iff draws used).mpr ⟨maximum, raw, by omega⟩
  have fits (s : Sending) (input : Draws) (holds : Holds cfg s)
      (short : 10 * s.timer.m_Timeout.toNat ≤ 11 * cfg.m_MRT.toNat) : Fits cfg s input := by
    have near := input.first.near s.timer.m_Timeout
    have limited := limited_le input maximum (nextRaw input s.timer)
    have elapsed := holds.obeys.elapsed limited_duration
    rw [← holds.duration] at elapsed
    refine ⟨?_, by omega, fun _ => by omega⟩
    unfold nextRaw
    omega
  have keeps (s : Sending) (input : Draws)
      (both : Holds cfg s ∧ 10 * s.timer.m_Timeout.toNat ≤ 11 * cfg.m_MRT.toNat) (_ : True) (_ : True) :
      Holds cfg (txLastReqMsg cfg s input) ∧
        10 * (txLastReqMsg cfg s input).timer.m_Timeout.toNat ≤ 11 * cfg.m_MRT.toNat := by
    obtain ⟨holds, short⟩ := both
    have stays := fits s input holds short
    refine ⟨holds.step maximum stays, ?_⟩
    have exact := ((computes_next_iff input holds.running).mpr ⟨maximum, stays.raw, stays.limited⟩).exact
    have limited := limited_le input maximum (nextRaw input s.timer)
    unfold txLastReqMsg
    rcases reScheduleTxRetry_cases cfg input s.timer with
      ⟨-, tried⟩ | ⟨-, -, tried⟩ | ⟨-, -, tried⟩
    · rw [tried]
      exact short
    · rw [tried]
      exact short
    · rw [tried]
      dsimp only
      omega
  have initially := holds_sendReqMsg starts fun _ => by omega
  have short : 10 * (sendReqMsg cfg draws).timer.m_Timeout.toNat ≤ 11 * cfg.m_MRT.toNat := by
    have exact := starts.exact
    simp only [sendReqMsg, scheduleTxRetry]
    omega
  have every : Stepwise (txLastReqMsg cfg) (fun _ _ => True) (sendReqMsg cfg draws) later :=
    stepwise_of_forall_mem fun _ _ => trivial
  have stays := every.imp (fun s input both _ _ => fits s input both.1 both.2) keeps ⟨initially, short⟩
    fun _ _ => trivial
  have follows := (initially.stepwise_iff maximum later).mpr stays
  refine ⟨starts, follows, fun before inside => ?_⟩
  obtain ⟨after, rfl⟩ := inside
  have earlier := (stepwise_append.mp stays).1
  exact (earlier.invariant (fun s input holds fits => holds.step maximum fits) initially).obeys

end Configurations

section Samples

def still : Draws := ⟨⟨fun _ => 0, fun _ => Nat.zero_le _⟩, ⟨fun _ => 0, fun _ => Nat.zero_le _⟩⟩

/-- The values of the authentication agent's configuration file. -/
def sample : Config := ⟨10, 3, 120, 120⟩

theorem timely_iff_sample : Timely sample still [still, still, still] :=
  (timely_iff (by decide) still [still, still, still]).mpr
    ⟨by decide, by decide, by decide, by decide,
      ⟨by decide, by decide, by decide⟩, ⟨by decide, by decide, by decide⟩,
      ⟨by decide, by decide, by decide⟩, trivial⟩

/-- Without a maximum the first timeout is 0. -/
theorem not_timely_without_maximum : ¬Timely ⟨10, 3, 0, 0⟩ still [] := by
  intro timely
  have positive := timely.starts.positive
  revert positive
  decide

end Samples

end OpenDiameter.Pana.Retransmission
