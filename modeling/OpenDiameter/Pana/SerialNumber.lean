import Mathlib.Algebra.GroupWithZero.Nat
import Mathlib.Data.Nat.Init
import Mathlib.Tactic.TypeStar

/-! Serial numbers of PANA sessions.

The header describes numbers modulo `2 ^ SERIAL_BITS`, with `SERIAL_BITS = 32`. What
`operator+` adds is reduced modulo `SERIAL_VALUE_LESS_ONE`, which is half of that.
-/

set_option autoImplicit false

namespace OpenDiameter.Pana

/-- The value of a `PANA_SerialNumber`. -/
abbrev SerialNumber := UInt32

namespace SerialNumber

/-- `2 ^ (SERIAL_BITS - 1)`. -/
def serialValueLessOne : UInt32 := 0x80000000

/-- `operator+`, which is also assigned to the number. -/
def add (serial : SerialNumber) (num : UInt32) : SerialNumber := (serial + num) % serialValueLessOne

/-- `operator++`. -/
def increment (serial : SerialNumber) : SerialNumber := serial.add 1

theorem toNat_increment (serial : SerialNumber) : serial.increment.toNat = (serial.toNat + 1) % 2 ^ 31 := by
  show ((serial + 1) % serialValueLessOne).toNat = _
  rw [UInt32.toNat_mod, UInt32.toNat_add]
  show (serial.toNat + 1) % 2 ^ 32 % 2 ^ 31 = _
  omega

theorem toNat_increment_lt (serial : SerialNumber) : serial.increment.toNat < 2 ^ 31 := by
  rw [toNat_increment]
  exact Nat.mod_lt _ (by decide)

theorem toNat_succ (serial : SerialNumber) : (serial + 1).toNat = (serial.toNat + 1) % 2 ^ 32 := by
  rw [UInt32.toNat_add]
  rfl

/-- Both ways of counting agree below the place where `operator++` wraps. -/
theorem increment_eq_succ {serial : SerialNumber} :
    serial.increment = serial + 1 ↔ serial.toNat + 1 < 2 ^ 31 ∨ serial.toNat + 1 = 2 ^ 32 := by
  have bound := serial.toNat_lt
  rw [← UInt32.toNat_inj, toNat_increment, toNat_succ]
  omega

theorem increment_eq_zero {serial : SerialNumber} : serial.increment = 0 ↔ (serial.toNat + 1) % 2 ^ 31 = 0 := by
  rw [← UInt32.toNat_inj, toNat_increment]
  rfl

end SerialNumber

end OpenDiameter.Pana
