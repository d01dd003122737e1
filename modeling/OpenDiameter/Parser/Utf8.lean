import Mathlib.Tactic.IntervalCases
import OpenDiameter.Parser.Values

/-! The UTF-8 check against the table of octet sequences.

`check` is the check as the code runs it, over the octets that the caller owns: a
read behind them faults.
-/

set_option autoImplicit false

namespace OpenDiameter.Parser.Utf8

open Foundation

section Table

/-- The lead octet of a sequence of `n` octets: its `n` high-order bits are 1 and the
next bit is 0. -/
def Lead (n : Nat) (b : UInt8) : Prop := 2 ≤ n ∧ n ≤ 6 ∧ b.toNat / 2 ^ (7 - n) = 2 ^ (n + 1) - 2

def Continuation (b : UInt8) : Prop := b.toNat / 2 ^ 6 = 2

instance (b : UInt8) : Decidable (Continuation b) := inferInstanceAs (Decidable (_ = _))

inductive Sequence : Octets → Prop where
  | one {b : UInt8} : b.toNat < 2 ^ 7 → Sequence [b]
  | many {n : Nat} {lead : UInt8} {rest : Octets} :
      Lead n lead → rest.length = n - 1 → (∀ b ∈ rest, Continuation b) → Sequence (lead :: rest)

def WellFormed (data : Octets) : Prop :=
  ∃ sequences : List Octets, (∀ s ∈ sequences, Sequence s) ∧ data = sequences.flatten

/-- The ways in which a string leaves the table. -/
inductive Faulty : Octets → Prop where
  | stray {before : Octets} (after : Octets) {b : UInt8} :
      WellFormed before → Continuation b → Faulty (before ++ b :: after)
  | truncated {before rest after : Octets} {n : Nat} {lead : UInt8} :
      WellFormed before → Lead n lead → rest.length < n - 1 → (∀ b ∈ rest, Continuation b) →
      (∀ b ∈ after.head?, ¬ Continuation b) → Faulty (before ++ lead :: (rest ++ after))
  | outOfRange (before after : Octets) {b : UInt8} : 0xFE ≤ b.toNat → Faulty (before ++ b :: after)

end Table

section Check

variable (data : Octets) (length : UInt32)

/-- `data[i]`. -/
def octetAt (i : Nat) : Outcome Unit UInt8 :=
  match data[i]? with
  | some b => .returned b
  | none => .fault

/-- The loop over the octets that remain of a character: the cursor behind them, or
none for `return -1`. -/
def checkRemaining : Nat → Nat → Outcome Unit (Option Nat)
  | 0, i => .returned (some i)
  | left + 1, i =>
    if length.toNat ≤ i then .returned none
    else do
      let b ← octetAt data i
      if b >>> 6 ≠ 2 then .returned none
      else checkRemaining left (i + 1)

/-- The loop `while (i < length)`, which takes at most `turns` turns. -/
def checkFrom : Nat → Nat → Outcome Unit Int
  | 0, i => if i < length.toNat then .fault else .returned 0
  | turns + 1, i =>
    if i < length.toNat then do
      let b ← octetAt data i
      let count := leadingOnes 7 b
      if count = 0 then checkFrom turns (i + 1)
      else if 6 < count ∨ count = 1 then .returned (-1)
      else do
        match ← checkRemaining data length (count - 1) (i + 1) with
        | none => .returned (-1)
        | some j => checkFrom turns j
    else .returned 0

/-- `UTF8Checker::check`. -/
def check : Outcome Unit Int := checkFrom data length length.toNat 0

end Check

section Octet

/-- What the count of the leading bits says about an octet. -/
theorem leadingOnes_spec (b : UInt8) :
    (leadingOnes 7 b = 0 ↔ b.toNat < 2 ^ 7) ∧
      ∀ n < 7, 2 ≤ n → (leadingOnes 7 b = n ↔ b.toNat / 2 ^ (7 - n) = 2 ^ (n + 1) - 2) := by
  have each : ∀ m < 256, (leadingOnes 7 (UInt8.ofNat m) = 0 ↔ (UInt8.ofNat m).toNat < 2 ^ 7) ∧
      ∀ n < 7, 2 ≤ n →
        (leadingOnes 7 (UInt8.ofNat m) = n ↔ (UInt8.ofNat m).toNat / 2 ^ (7 - n) = 2 ^ (n + 1) - 2) := by
    decide +kernel
  have here := each b.toNat b.toNat_lt
  rwa [UInt8.ofNat_toNat] at here

theorem leadingOnes_eq_zero_iff {b : UInt8} : leadingOnes 7 b = 0 ↔ b.toNat < 2 ^ 7 := (leadingOnes_spec b).1

theorem lead_iff {n : Nat} {b : UInt8} : Lead n b ↔ 2 ≤ n ∧ n ≤ 6 ∧ leadingOnes 7 b = n := by
  constructor
  · rintro ⟨low, high, bits⟩
    exact ⟨low, high, ((leadingOnes_spec b).2 n (by omega) low).mpr bits⟩
  · rintro ⟨low, high, count⟩
    exact ⟨low, high, ((leadingOnes_spec b).2 n (by omega) low).mp count⟩

theorem continuation_iff {b : UInt8} : Continuation b ↔ b >>> 6 = 2 := by
  have shifted : (b >>> 6).toNat = b.toNat / 2 ^ 6 := by
    rw [UInt8.toNat_shiftRight, Nat.shiftRight_eq_div_pow]
    rfl
  rw [Continuation, ← shifted]
  constructor
  · intro same
    exact UInt8.toNat_inj.mp same
  · intro same
    rw [same]
    rfl

end Octet

section WellFormed

theorem wellFormed_nil : WellFormed [] := ⟨[], nofun, rfl⟩

theorem WellFormed.cons {s data : Octets} (sequence : Sequence s) (rest : WellFormed data) : WellFormed (s ++ data) := by
  obtain ⟨sequences, each, rfl⟩ := rest
  exact ⟨s :: sequences, List.forall_mem_cons.mpr ⟨sequence, each⟩, rfl⟩

theorem wellFormed_cons_iff {b : UInt8} {data : Octets} :
    WellFormed (b :: data) ↔ b.toNat < 2 ^ 7 ∧ WellFormed data ∨
      ∃ n, Lead n b ∧ n - 1 ≤ data.length ∧ (∀ c ∈ data.take (n - 1), Continuation c) ∧
        WellFormed (data.drop (n - 1)) := by
  constructor
  · rintro ⟨sequences, each, same⟩
    cases sequences with
    | nil => cases same
    | cons s sequences =>
      obtain ⟨first, others⟩ := List.forall_mem_cons.mp each
      rw [List.flatten_cons] at same
      cases first with
      | one small =>
        cases same
        exact .inl ⟨small, sequences, others, rfl⟩
      | @many n lead rest announced size continued =>
        obtain ⟨rfl, rfl⟩ : b = lead ∧ data = rest ++ sequences.flatten := List.cons.inj same
        refine .inr ⟨n, announced, ?_, ?_, ?_⟩
        · rw [List.length_append]
          omega
        · rw [List.take_left' size]
          exact continued
        · rw [List.drop_left' size]
          exact ⟨sequences, others, rfl⟩
  · rintro (⟨small, rest⟩ | ⟨n, announced, enough, continued, rest⟩)
    · exact WellFormed.cons (.one small) rest
    · have parts : b :: data = (b :: data.take (n - 1)) ++ data.drop (n - 1) := by
        rw [List.cons_append, List.take_append_drop]
      rw [parts]
      exact WellFormed.cons (.many announced (List.length_take_of_le enough) continued) rest

theorem Lead.bounds {n : Nat} {b : UInt8} (announced : Lead n b) : 0xC0 ≤ b.toNat ∧ b.toNat < 0xFE := by
  obtain ⟨low, high, bits⟩ := announced
  interval_cases n
  all_goals
    norm_num at bits
    omega

theorem Lead.unique {n m : Nat} {b : UInt8} (announced : Lead n b) (also : Lead m b) : n = m := by
  obtain ⟨-, -, count⟩ := lead_iff.mp announced
  obtain ⟨-, -, again⟩ := lead_iff.mp also
  omega

theorem wellFormed_append_iff {before data : Octets} (well : WellFormed before) :
    WellFormed (before ++ data) ↔ WellFormed data := by
  obtain ⟨sequences, each, rfl⟩ := well
  induction sequences with
  | nil => rfl
  | cons s sequences ih =>
    obtain ⟨first, others⟩ := List.forall_mem_cons.mp each
    rw [List.flatten_cons, List.append_assoc, ← ih others]
    cases first with
    | one small =>
      rw [List.singleton_append, wellFormed_cons_iff]
      constructor
      · rintro (⟨-, rest⟩ | ⟨n, announced, -⟩)
        · exact rest
        · have large := announced.bounds
          omega
      · intro rest
        exact .inl ⟨small, rest⟩
    | @many n lead rest announced size continued =>
      rw [List.cons_append, wellFormed_cons_iff]
      constructor
      · rintro (⟨small, -⟩ | ⟨m, also, -, -, later⟩)
        · have large := announced.bounds
          omega
        · obtain rfl := announced.unique also
          rwa [List.drop_left' size] at later
      · intro later
        refine .inr ⟨n, announced, ?_, ?_, ?_⟩
        · rw [List.length_append]
          omega
        · rw [List.take_left' size]
          exact continued
        · rw [List.drop_left' size]
          exact later

theorem WellFormed.lt_of_mem {data : Octets} (well : WellFormed data) {b : UInt8} (member : b ∈ data) :
    b.toNat < 0xFE := by
  obtain ⟨sequences, each, rfl⟩ := well
  obtain ⟨s, inside, here⟩ := List.mem_flatten.mp member
  cases each s inside with
  | one small =>
    obtain rfl := List.mem_singleton.mp here
    omega
  | @many n lead rest announced size continued =>
    rcases List.mem_cons.mp here with rfl | later
    · exact announced.bounds.2
    · have form := continued b later
      unfold Continuation at form
      omega

theorem Faulty.not_wellFormed {data : Octets} (faulty : Faulty data) : ¬ WellFormed data := by
  intro well
  cases faulty with
  | @stray before after b clean stray =>
    rw [wellFormed_append_iff clean, wellFormed_cons_iff] at well
    unfold Continuation at stray
    rcases well with ⟨small, -⟩ | ⟨n, announced, -⟩
    · omega
    · have large := announced.bounds
      omega
  | @truncated before rest after n lead clean announced short continued ends =>
    rw [wellFormed_append_iff clean, wellFormed_cons_iff] at well
    rcases well with ⟨small, -⟩ | ⟨m, also, enough, all, -⟩
    · have large := announced.bounds
      omega
    · obtain rfl := announced.unique also
      rw [List.length_append] at enough
      cases after with
      | nil =>
        rw [List.length_nil] at enough
        omega
      | cons c after =>
        apply ends c rfl
        apply all c
        have long : n - 1 = rest.length + 1 + (n - 1 - rest.length - 1) := by omega
        rw [long, List.take_append, List.take_of_length_le (by omega)]
        have one : rest.length + 1 + (n - 1 - rest.length - 1) - rest.length = n - 1 - rest.length - 1 + 1 := by omega
        rw [one, List.take_succ_cons]
        exact List.mem_append_right _ List.mem_cons_self
  | @outOfRange before after b large =>
    have small := well.lt_of_mem (List.mem_append_right before List.mem_cons_self)
    omega

end WellFormed

section Correctness

theorem continuation_eq_some_iff {k : Nat} {data rest : Octets} :
    continuation k data = some rest ↔
      k ≤ data.length ∧ (∀ c ∈ data.take k, Continuation c) ∧ rest = data.drop k := by
  induction k generalizing data with
  | zero => simp [continuation, eq_comm]
  | succ k ih =>
    cases data with
    | nil => simp [continuation]
    | cons b data =>
      rw [continuation, List.take_succ_cons, List.drop_succ_cons, List.forall_mem_cons, List.length_cons,
        Nat.add_le_add_iff_right, continuation_iff]
      by_cases form : b >>> 6 = 2
      · rw [if_pos form, ih]
        tauto
      · rw [if_neg form]
        tauto

theorem utf8Check_cons (b : UInt8) (data : Octets) :
    utf8Check (b :: data) =
      if leadingOnes 7 b = 0 then utf8Check data
      else if 6 < leadingOnes 7 b ∨ leadingOnes 7 b = 1 then -1
      else match continuation (leadingOnes 7 b - 1) data with
        | none => -1
        | some rest => utf8Check rest := by
  rw [utf8Check]
  split
  · rfl
  · split
    · rfl
    · split <;> simp_all

theorem utf8Check_spec (data : Octets) :
    utf8Check data = 0 ∧ WellFormed data ∨ utf8Check data = -1 ∧ ¬ WellFormed data := by
  induction size : data.length using Nat.strong_induction_on generalizing data with
  | _ size ih =>
    cases data with
    | nil =>
      rw [utf8Check]
      exact .inl ⟨rfl, wellFormed_nil⟩
    | cons b data =>
      rw [List.length_cons] at size
      rw [utf8Check_cons, wellFormed_cons_iff, ← leadingOnes_eq_zero_iff]
      simp only [lead_iff]
      by_cases zero : leadingOnes 7 b = 0
      · rw [if_pos zero]
        rcases ih data.length (by omega) data rfl with ⟨accepts, well⟩ | ⟨rejects, bad⟩
        · exact .inl ⟨accepts, .inl ⟨zero, well⟩⟩
        · refine .inr ⟨rejects, ?_⟩
          rintro (⟨-, well⟩ | ⟨n, ⟨low, -, count⟩, -⟩)
          · exact bad well
          · omega
      · rw [if_neg zero]
        by_cases outside : 6 < leadingOnes 7 b ∨ leadingOnes 7 b = 1
        · rw [if_pos outside]
          refine .inr ⟨rfl, ?_⟩
          rintro (⟨small, -⟩ | ⟨n, ⟨low, high, count⟩, -⟩)
          · exact zero small
          · omega
        · rw [if_neg outside]
          cases read : continuation (leadingOnes 7 b - 1) data with
          | none =>
            refine .inr ⟨rfl, ?_⟩
            rintro (⟨small, -⟩ | ⟨n, ⟨-, -, rfl⟩, enough, continued, -⟩)
            · exact zero small
            · rw [continuation_eq_some_iff.mpr ⟨enough, continued, rfl⟩] at read
              cases read
          | some rest =>
            obtain ⟨enough, continued, rfl⟩ := continuation_eq_some_iff.mp read
            have shorter := continuation_length read
            rcases ih _ (by omega) (data.drop (leadingOnes 7 b - 1)) rfl with ⟨accepts, well⟩ | ⟨rejects, bad⟩
            · exact .inl ⟨accepts, .inr ⟨_, ⟨by omega, by omega, rfl⟩, enough, continued, well⟩⟩
            · refine .inr ⟨rejects, ?_⟩
              rintro (⟨small, -⟩ | ⟨n, ⟨-, -, rfl⟩, -, -, well⟩)
              · exact zero small
              · exact bad well

variable {data : Octets} {length : UInt32}

/-- The cursor form of the loop over the remaining octets. -/
theorem checkRemaining_eq (available : length.toNat ≤ data.length) (left i : Nat) :
    checkRemaining data length left i =
      .returned ((continuation left ((data.take length.toNat).drop i)).map fun _ => i + left) := by
  induction left generalizing i with
  | zero => rfl
  | succ left ih =>
    rw [checkRemaining]
    by_cases past : length.toNat ≤ i
    · rw [if_pos past, List.drop_eq_nil_of_le (by rw [List.length_take]; omega)]
      rfl
    · have inside : i < (data.take length.toNat).length := by
        rw [List.length_take]
        omega
      have read : data[i]? = some (data.take length.toNat)[i] := by
        rw [List.getElem_take, List.getElem?_eq_getElem]
      rw [if_neg past, octetAt, read, List.drop_eq_getElem_cons inside, continuation]
      dsimp only [Outcome.returned_bind]
      by_cases form : (data.take length.toNat)[i] >>> 6 = 2
      · rw [if_neg (not_not_intro form), if_pos form, ih]
        simp only [Nat.add_right_comm, Nat.add_assoc]
      · rw [if_pos form, if_neg form]
        rfl

theorem checkFrom_eq (available : length.toNat ≤ data.length) (turns i : Nat) (enough : length.toNat ≤ i + turns) :
    checkFrom data length turns i = .returned (utf8Check ((data.take length.toNat).drop i)) := by
  induction turns generalizing i with
  | zero =>
    rw [checkFrom, if_neg (by omega), List.drop_eq_nil_of_le (by rw [List.length_take]; omega), utf8Check]
  | succ turns ih =>
    rw [checkFrom]
    by_cases more : i < length.toNat
    · have inside : i < (data.take length.toNat).length := by
        rw [List.length_take]
        omega
      have read : data[i]? = some (data.take length.toNat)[i] := by
        rw [List.getElem_take, List.getElem?_eq_getElem]
      rw [if_pos more, octetAt, read, List.drop_eq_getElem_cons inside, utf8Check_cons]
      dsimp only [Outcome.returned_bind]
      by_cases zero : leadingOnes 7 (data.take length.toNat)[i] = 0
      · rw [if_pos zero, if_pos zero, ih (i + 1) (by omega)]
      · rw [if_neg zero, if_neg zero]
        split
        · rfl
        · rw [checkRemaining_eq available]
          cases rest : continuation (leadingOnes 7 (data.take length.toNat)[i] - 1)
              ((data.take length.toNat).drop (i + 1)) with
          | none => rfl
          | some later =>
            obtain ⟨-, -, rfl⟩ := continuation_eq_some_iff.mp rest
            dsimp only [Option.map_some, Outcome.returned_bind]
            rw [ih _ (by omega), List.drop_drop]
    · rw [if_neg more, List.drop_eq_nil_of_le (by rw [List.length_take]; omega), utf8Check]

theorem check_eq (available : length.toNat ≤ data.length) :
    check data length = .returned (utf8Check (data.take length.toNat)) := by
  rw [check, checkFrom_eq available _ _ (by omega), List.drop_zero]

end Correctness

section Verdict

/-- The check accepts exactly the concatenations of sequences of the table. It looks at
the first `length` octets only: where no others may be read, it still returns. -/
theorem check_accepts_iff (data : Octets) (length : UInt32) (available : length.toNat ≤ data.length) :
    ∃ verdict, check data length = .returned verdict ∧ check (data.take length.toNat) length = .returned verdict ∧
      (verdict = 0 ↔ WellFormed (data.take length.toNat)) ∧ (verdict = 0 ∨ verdict = -1) ∧
      (Faulty (data.take length.toNat) → verdict = -1) := by
  have exact' : length.toNat ≤ (data.take length.toNat).length := by
    rw [List.length_take]
    omega
  refine ⟨utf8Check (data.take length.toNat), check_eq available, ?_, ?_⟩
  · rw [check_eq exact', List.take_take, Nat.min_self]
  · rcases utf8Check_spec (data.take length.toNat) with ⟨accepts, well⟩ | ⟨rejects, bad⟩
    · rw [accepts]
      exact ⟨iff_of_true rfl well, .inl rfl, fun faulty => absurd well faulty.not_wellFormed⟩
    · rw [rejects]
      exact ⟨iff_of_false (by decide) bad, .inr rfl, fun _ => rfl⟩

/-- The two octets of `é`, with one more behind the given length. -/
theorem check_accepts_two :
    ∃ verdict, check [0xC3, 0xA9, 0xFF] 2 = .returned verdict ∧ check [0xC3, 0xA9] 2 = .returned verdict ∧
      (verdict = 0 ↔ WellFormed [0xC3, 0xA9]) ∧ (verdict = 0 ∨ verdict = -1) ∧ (Faulty [0xC3, 0xA9] → verdict = -1) :=
  check_accepts_iff [0xC3, 0xA9, 0xFF] 2 (by decide)

end Verdict

end OpenDiameter.Parser.Utf8
