import Mathlib.Algebra.GroupWithZero.Nat
import Mathlib.Data.List.TakeDrop
import Mathlib.Data.Nat.Init

/-! Octet strings and numbers in network byte order. -/

set_option autoImplicit false

namespace Foundation

abbrev Octets := List UInt8

/-- The last `k` base-256 digits of `n`, most significant first. -/
def bigEndian : Nat → Nat → Octets
  | 0, _ => []
  | k + 1, n => UInt8.ofNat (n / 256 ^ k) :: bigEndian k n

/-- The number an octet string denotes in network byte order. -/
def bigEndianValue : Octets → Nat
  | [] => 0
  | b :: rest => b.toNat * 256 ^ rest.length + bigEndianValue rest

@[simp] theorem length_bigEndian (k n : Nat) : (bigEndian k n).length = k := by
  induction k with
  | zero => rfl
  | succ k ih => rw [bigEndian, List.length_cons, ih]

theorem bigEndianValue_bigEndian (k n : Nat) : bigEndianValue (bigEndian k n) = n % 256 ^ k := by
  induction k with
  | zero => rw [bigEndian, bigEndianValue, Nat.pow_zero, Nat.mod_one]
  | succ k ih =>
    have digit : (UInt8.ofNat (n / 256 ^ k)).toNat = n / 256 ^ k % 256 := UInt8.toNat_ofNat'
    rw [bigEndian, bigEndianValue, length_bigEndian, ih, digit, Nat.pow_succ, Nat.mod_mul,
      Nat.mul_comm, Nat.add_comm]

theorem bigEndianValue_bigEndian_of_lt {k n : Nat} (small : n < 256 ^ k) :
    bigEndianValue (bigEndian k n) = n := by
  rw [bigEndianValue_bigEndian, Nat.mod_eq_of_lt small]

theorem bigEndianValue_lt (octets : Octets) : bigEndianValue octets < 256 ^ octets.length := by
  induction octets with
  | nil => exact Nat.one_pos
  | cons b rest ih =>
    have digit : b.toNat + 1 ≤ 256 := b.toNat_lt
    calc bigEndianValue (b :: rest)
        < b.toNat * 256 ^ rest.length + 256 ^ rest.length := Nat.add_lt_add_left ih _
      _ = (b.toNat + 1) * 256 ^ rest.length := by rw [Nat.succ_mul]
      _ ≤ 256 * 256 ^ rest.length := Nat.mul_le_mul_right _ digit
      _ = 256 ^ (b :: rest).length := by rw [List.length_cons, Nat.pow_succ, Nat.mul_comm]

theorem bigEndian_mul_add (k a n : Nat) : bigEndian k (a * 256 ^ k + n) = bigEndian k n := by
  induction k generalizing a with
  | zero => rfl
  | succ k ih =>
    have shifted : a * 256 ^ (k + 1) = a * 256 * 256 ^ k := by rw [Nat.pow_succ, Nat.mul_comm (256 ^ k), Nat.mul_assoc]
    have digit : (a * 256 * 256 ^ k + n) / 256 ^ k = a * 256 + n / 256 ^ k := by
      rw [Nat.add_comm, Nat.add_mul_div_right _ _ (Nat.pow_pos (by decide)), Nat.add_comm]
    have low : UInt8.ofNat (a * 256 + n / 256 ^ k) = UInt8.ofNat (n / 256 ^ k) := by
      apply UInt8.toNat_inj.mp
      rw [UInt8.toNat_ofNat', UInt8.toNat_ofNat']
      exact Nat.mul_add_mod_self_right a 256 _
    rw [shifted, bigEndian, bigEndian, digit, low, ih]

theorem bigEndian_bigEndianValue (octets : Octets) : bigEndian octets.length (bigEndianValue octets) = octets := by
  induction octets with
  | nil => rfl
  | cons b rest ih =>
    have first : (b.toNat * 256 ^ rest.length + bigEndianValue rest) / 256 ^ rest.length = b.toNat := by
      rw [Nat.add_comm, Nat.add_mul_div_right _ _ (Nat.pow_pos (by decide)), Nat.div_eq_of_lt (bigEndianValue_lt rest), Nat.zero_add]
    rw [bigEndianValue, List.length_cons, bigEndian, first, UInt8.ofNat_toNat, bigEndian_mul_add, ih]

end Foundation
