import OpenDiameter.Foundation.Cells
import OpenDiameter.Foundation.Machine

/-! Key expansion: the blocks of prf+ one after another.

Every block is the digest of the block before it, the seed and the block's
number. The number is an octet, and the loop asks whether it is at most the
count, which for a count of 255 is always so: after the last block the number
wraps to 0, and the next copy would go in front of the result.
-/

set_option autoImplicit false

namespace OpenDiameter.Pana

open Foundation

/-- A pseudo-random function with the size of its output (`prf_size`). -/
structure Prf where
  prf_size : Nat
  digest : Octets → Octets → Octets
  length_digest : ∀ key text, (digest key text).length = prf_size

namespace Prf

/-- `PRF`: the length it is given is a 16-bit number. -/
def call (prf : Prf) (key : Octets) (sequence : Cells) (sequence_length : Nat) : Option Octets :=
  (sequence.load (sequence_length % 2 ^ 16)).map (prf.digest key)

/-- What `PRF_plus` works with; `temp` holds the last block. -/
structure Expanding where
  current_iter : UInt8
  temp : Octets
  new_sequence : Cells
  result : Cells
  deriving DecidableEq, Repr

variable (prf : Prf) (key sequence : Octets)

def refill (s : Expanding) : Option Cells := do
  let scratch ← s.new_sequence.store 0 s.temp
  let scratch ← scratch.store prf.prf_size sequence
  scratch.store (prf.prf_size + sequence.length) [s.current_iter]

def turn (iter : UInt8) (s : Expanding) : Option (Turn Expanding Cells) :=
  if s.current_iter ≤ iter then do
    let scratch ← prf.refill sequence s
    let temp ← prf.call key scratch (sequence.length + prf.prf_size + 1)
    let result ← s.result.store (((s.current_iter.toNat : Int) - 1) * prf.prf_size) temp
    some (.again ⟨s.current_iter + 1, temp, scratch, result⟩)
  else some (.done s.result)

/-- `PRF_plus` for at most so many turns of its loop; `result` is the caller's memory. -/
def PRF_plus (iter : UInt8) (result : Cells) (fuel : Nat) : Option Cells := do
  let scratch ← (Cells.fresh (prf.prf_size + sequence.length + 1)).store 0 sequence
  let scratch ← scratch.store sequence.length [1]
  let temp ← prf.call key scratch (sequence.length + 1)
  let result ← result.store 0 temp
  turns (prf.turn key sequence iter) fuel ⟨2, temp, scratch, result⟩

/-- The block after `k` others. -/
def block : Nat → Octets
  | 0 => prf.digest key (sequence ++ [1])
  | k + 1 => prf.digest key (block k ++ sequence ++ [UInt8.ofNat (k + 2)])

def blocks (count : Nat) : Octets := (List.range count).flatMap (prf.block key sequence)

@[simp] theorem length_block (k : Nat) : (prf.block key sequence k).length = prf.prf_size := by
  cases k with
  | zero => exact prf.length_digest _ _
  | succ k => exact prf.length_digest _ _

theorem blocks_succ (count : Nat) :
    prf.blocks key sequence (count + 1) = prf.blocks key sequence count ++ prf.block key sequence count := by
  simp [blocks, List.range_succ]

@[simp] theorem length_blocks (count : Nat) :
    (prf.blocks key sequence count).length = count * prf.prf_size := by
  induction count with
  | zero => simp [blocks]
  | succ count ih => rw [blocks_succ, List.length_append, ih, length_block, Nat.succ_mul]

/-- The loop is about to write the block after `k + 1` others. -/
structure Progress (iter : UInt8) (k : Nat) (s : Expanding) : Prop where
  number : s.current_iter.toNat = k + 2
  last : s.temp = prf.block key sequence k
  scratch : s.new_sequence.length = prf.prf_size + sequence.length + 1
  filled : ∃ rest : Cells, s.result = Cells.written (prf.blocks key sequence (k + 1)) ++ rest ∧
    (k + 1) * prf.prf_size + rest.length = iter.toNat * prf.prf_size

variable {prf key sequence}

theorem refill_eq {s : Expanding} (size : s.new_sequence.length = prf.prf_size + sequence.length + 1)
    (last : s.temp.length = prf.prf_size) :
    prf.refill sequence s = some (Cells.written (s.temp ++ sequence ++ [s.current_iter])) := by
  have first := Cells.store_front s.new_sequence s.temp (by omega)
  have position : (prf.prf_size : Int) = s.temp.length := by omega
  have second := Cells.store_written s.temp sequence (s.new_sequence.drop s.temp.length) position
    (by rw [List.length_drop]; omega)
  have after : (prf.prf_size : Int) + sequence.length = (s.temp ++ sequence).length := by
    rw [List.length_append]
    omega
  have third := Cells.store_written (s.temp ++ sequence) [s.current_iter]
    ((s.new_sequence.drop s.temp.length).drop sequence.length) after
    (by rw [List.length_drop, List.length_drop, List.length_singleton]; omega)
  have full : ((s.new_sequence.drop s.temp.length).drop sequence.length).drop [s.current_iter].length = [] := by
    rw [List.drop_drop, List.drop_drop]
    exact List.drop_eq_nil_of_le (by rw [List.length_singleton]; omega)
  rw [full, List.append_nil] at third
  simp only [refill, first, second, third, Option.bind_eq_bind, Option.bind_some]

theorem call_written (prf : Prf) (key : Octets) {text : Octets} (rest : Cells) {count : Nat} (size : count = text.length)
    (short : count < 2 ^ 16) :
    prf.call key (Cells.written text ++ rest) count = some (prf.digest key text) := by
  rw [call, Nat.mod_eq_of_lt short, Cells.load_written size, Option.map_some]

/-- A turn whose block belongs to the result writes it there. -/
theorem turn_of_progress {iter : UInt8} {k : Nat} {s : Expanding}
    (short : sequence.length + prf.prf_size + 1 < 2 ^ 16)
    (progress : Progress prf key sequence iter k s) (more : k + 2 ≤ iter.toNat) :
    ∃ next, prf.turn key sequence iter s = some (.again next) ∧
      next.current_iter = s.current_iter + 1 ∧
      (k + 2 < 255 → Progress prf key sequence iter (k + 1) next) := by
  obtain ⟨rest, filled, size⟩ := progress.filled
  have below : s.current_iter ≤ iter := by
    rw [UInt8.le_iff_toNat_le, progress.number]
    exact more
  have number : s.current_iter = UInt8.ofNat (k + 2) := by
    rw [← progress.number, UInt8.ofNat_toNat]
  have last : s.temp.length = prf.prf_size := by rw [progress.last, length_block]
  have called : prf.call key (Cells.written (s.temp ++ sequence ++ [s.current_iter]))
      (sequence.length + prf.prf_size + 1) = some (prf.block key sequence (k + 1)) := by
    have size : sequence.length + prf.prf_size + 1 = (s.temp ++ sequence ++ [s.current_iter]).length := by
      simp only [List.length_append, List.length_singleton]
      omega
    have text := call_written prf key [] size short
    rw [List.append_nil] at text
    rw [text, progress.last, number, block]
  have room : (prf.block key sequence (k + 1)).length ≤ rest.length := by
    have fits : (k + 2) * prf.prf_size ≤ iter.toNat * prf.prf_size := Nat.mul_le_mul_right _ more
    have split : (k + 2) * prf.prf_size = (k + 1) * prf.prf_size + prf.prf_size := Nat.succ_mul _ _
    rw [length_block]
    omega
  have position : ((s.current_iter.toNat : Int) - 1) * prf.prf_size =
      ((prf.blocks key sequence (k + 1)).length : Int) := by
    rw [progress.number, length_blocks]
    push_cast
    congr 1
    omega
  have stored := Cells.store_written (prf.blocks key sequence (k + 1)) (prf.block key sequence (k + 1)) rest position room
  rw [← filled, ← blocks_succ] at stored
  have turned : prf.turn key sequence iter s = some (.again ⟨s.current_iter + 1,
      prf.block key sequence (k + 1), Cells.written (s.temp ++ sequence ++ [s.current_iter]),
      Cells.written (prf.blocks key sequence (k + 2)) ++
        rest.drop (prf.block key sequence (k + 1)).length⟩) := by
    simp only [turn, if_pos below, refill_eq progress.scratch last, called, stored,
      Option.bind_eq_bind, Option.bind_some]
  refine ⟨_, turned, rfl, fun inside => ⟨?_, rfl, ?_, _, rfl, ?_⟩⟩
  · have small : (s.current_iter + 1).toNat = (s.current_iter.toNat + 1) % 256 := UInt8.toNat_add _ _
    rw [small, progress.number]
    omega
  · rw [Cells.length_written, List.length_append, List.length_append, List.length_singleton]
    omega
  · have split : (k + 1 + 1) * prf.prf_size = (k + 1) * prf.prf_size + prf.prf_size := Nat.succ_mul _ _
    rw [List.length_drop]
    rw [length_block] at room ⊢
    omega

theorem PRF_plus_eq (key : Octets) {iter : UInt8} {result : Cells}
    (short : sequence.length + prf.prf_size + 1 < 2 ^ 16) (asked : 1 ≤ iter)
    (size : result.length = iter.toNat * prf.prf_size) :
    ∃ s, Progress prf key sequence iter 0 s ∧
      ∀ fuel, prf.PRF_plus key sequence iter result fuel = turns (prf.turn key sequence iter) fuel s := by
  have some_block : 1 ≤ iter.toNat := UInt8.le_iff_toNat_le.mp asked
  have fits : 1 * prf.prf_size ≤ iter.toNat * prf.prf_size := Nat.mul_le_mul_right _ some_block
  have first := Cells.store_front (Cells.fresh (prf.prf_size + sequence.length + 1)) sequence
    (by rw [Cells.length_fresh]; omega)
  have second := Cells.store_written sequence [1]
    ((Cells.fresh (prf.prf_size + sequence.length + 1)).drop sequence.length) rfl
    (by rw [List.length_drop, Cells.length_fresh, List.length_singleton]; omega)
  have called (rest : Cells) : prf.call key (Cells.written (sequence ++ [1]) ++ rest) (sequence.length + 1) =
      some (prf.block key sequence 0) :=
    call_written prf key rest (by rw [List.length_append, List.length_singleton]) (by omega)
  have stored := Cells.store_front result (prf.block key sequence 0)
    (by rw [length_block]; omega)
  refine ⟨⟨2, prf.block key sequence 0, Cells.written (sequence ++ [1]) ++
      ((Cells.fresh (prf.prf_size + sequence.length + 1)).drop sequence.length).drop 1,
      Cells.written (prf.block key sequence 0) ++ result.drop (prf.block key sequence 0).length⟩,
    ⟨rfl, rfl, ?_, result.drop prf.prf_size, ?_, ?_⟩, fun fuel => ?_⟩
  · simp only [List.length_append, Cells.length_written, List.length_drop, Cells.length_fresh,
      List.length_singleton]
    omega
  · rw [length_block, blocks_succ]
    rfl
  · rw [List.length_drop]
    omega
  · simp only [PRF_plus, first, second, called, stored, Option.bind_eq_bind, Option.bind_some,
      List.length_singleton]

def Expands (prf : Prf) (key sequence : Octets) (iter : UInt8) (result : Cells) : Prop :=
  ∃ fuel, prf.PRF_plus key sequence iter result fuel =
    some (Cells.written (prf.blocks key sequence iter.toNat))

theorem expands_of_progress {iter : UInt8} {s : Expanding}
    (short : sequence.length + prf.prf_size + 1 < 2 ^ 16) (asked : 1 ≤ iter.toNat)
    (few : iter.toNat < 255) (progress : Progress prf key sequence iter 0 s) :
    ∃ result, turns (prf.turn key sequence iter) 255 s = some result ∧
      result = Cells.written (prf.blocks key sequence iter.toNat) := by
  -- The variant counts the blocks that are still to be written.
  let holds (missing : Nat) (s : Expanding) : Prop :=
    ∃ k, k + 1 + missing = iter.toNat ∧ Progress prf key sequence iter k s
  have held : holds (iter.toNat - 1) s := ⟨0, by omega, progress⟩
  refine turns_of_variant ?_ held (by omega)
  intro missing s held
  obtain ⟨k, count, progress⟩ := held
  cases missing with
  | zero =>
    right
    obtain ⟨rest, filled, size⟩ := progress.filled
    have all : k + 1 = iter.toNat := count
    have none_left : rest = [] := by
      rw [all] at size
      exact List.eq_nil_of_length_eq_zero (by omega)
    have past : ¬s.current_iter ≤ iter := by
      rw [UInt8.le_iff_toNat_le, progress.number]
      omega
    refine ⟨s.result, by rw [turn, if_neg past], ?_⟩
    rw [filled, none_left, List.append_nil, all]
  | succ missing =>
    left
    obtain ⟨next, turned, -, progress'⟩ := turn_of_progress short progress (by omega)
    exact ⟨missing, next, Nat.lt_succ_self _, turned, k + 1, by omega, progress' (by omega)⟩

/-- With a count of 255 every number passes the loop's test. -/
theorem turn_ne_done (s : Expanding) (result : Cells) :
    prf.turn key sequence 255 s ≠ some (.done result) := by
  have below : s.current_iter ≤ 255 := by
    rw [UInt8.le_iff_toNat_le]
    exact Nat.le_of_lt_succ s.current_iter.toNat_lt
  rw [turn, if_pos below]
  cases prf.refill sequence s with
  | none => simp
  | some scratch =>
    cases called : prf.call key scratch (sequence.length + prf.prf_size + 1) with
    | none => simp [called]
    | some temp =>
      cases stored : s.result.store (((s.current_iter.toNat : Int) - 1) * prf.prf_size) temp with
      | none => simp [called, stored]
      | some result => simp [called, stored]

/-- After the number has wrapped the copy would go in front of the result. -/
theorem turn_of_wrapped {iter : UInt8} {s : Expanding} (nonempty : 0 < prf.prf_size)
    (wrapped : s.current_iter = 0) : prf.turn key sequence iter s = none := by
  have below : s.current_iter ≤ iter := by
    rw [wrapped, UInt8.le_iff_toNat_le]
    exact Nat.zero_le _
  have negative : (((s.current_iter.toNat : Int) - 1) * prf.prf_size) < 0 := by
    rw [wrapped]
    simp only [UInt8.toNat_zero]
    omega
  rw [turn, if_pos below]
  cases prf.refill sequence s with
  | none => rfl
  | some scratch =>
    cases called : prf.call key scratch (sequence.length + prf.prf_size + 1) with
    | none => simp [called]
    | some temp => simp [Cells.store_negative negative]

theorem not_expands_full {result : Cells} (short : sequence.length + prf.prf_size + 1 < 2 ^ 16)
    (size : result.length = 255 * prf.prf_size) : ¬Expands prf key sequence 255 result := by
  have asked : (1 : UInt8) ≤ 255 := by decide
  obtain ⟨s, -, started⟩ := PRF_plus_eq key short asked size
  intro expands
  obtain ⟨fuel, ended⟩ := expands
  rw [started, turns_eq_none fun s result => turn_ne_done s result] at ended
  cases ended

theorem PRF_plus_iff (prf : Prf) (key sequence : Octets) (iter : UInt8) (result : Cells)
    (short : sequence.length + prf.prf_size + 1 < 2 ^ 16) (asked : 1 ≤ iter)
    (size : result.length = iter.toNat * prf.prf_size) :
    Expands prf key sequence iter result ↔ iter ≠ 255 := by
  constructor
  · intro expands full
    subst full
    exact not_expands_full short size expands
  · intro few
    obtain ⟨s, progress, started⟩ := PRF_plus_eq key short asked size
    have fewer : iter.toNat < 255 := by
      have bound := iter.toNat_lt
      have other : iter.toNat ≠ 255 := fun same => few (UInt8.toNat_inj.mp same)
      omega
    obtain ⟨result', ended, rfl⟩ :=
      expands_of_progress short (UInt8.le_iff_toNat_le.mp asked) fewer progress
    exact ⟨255, (started 255).trans ended⟩

/-- A function of two octets, for runs on fixed inputs. -/
def sample : Prf where
  prf_size := 2
  digest key text := [UInt8.ofNat (key.length + text.length), text.getLastD 0]
  length_digest _ _ := rfl

theorem PRF_plus_iff_three : Expands sample [7] [1, 2, 3] 3 (Cells.fresh 6) :=
  (PRF_plus_iff sample [7] [1, 2, 3] 3 (Cells.fresh 6) (by decide) (by decide) (by decide)).mpr (by decide)

theorem PRF_plus_runs_over : ¬Expands sample [7] [1, 2, 3] 255 (Cells.fresh 510) :=
  not_expands_full (by decide) (Cells.length_fresh 510)

end Prf

end OpenDiameter.Pana
