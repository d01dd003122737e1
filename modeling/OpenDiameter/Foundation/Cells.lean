import OpenDiameter.Foundation.Octets

/-! Memory whose octets may not have been written yet. -/

set_option autoImplicit false

namespace Foundation

/-- `none` is an octet that nothing has been written to. -/
abbrev Cells : Type := List (Option UInt8)

namespace Cells

def fresh (size : Nat) : Cells := List.replicate size none

def written (octets : Octets) : Cells := octets.map some

/-- A copy into the memory; it faults when it leaves the memory on either side. -/
def store (cells : Cells) (start : Int) (octets : Octets) : Option Cells :=
  if 0 ≤ start ∧ start + octets.length ≤ cells.length then
    some (cells.take start.toNat ++ written octets ++ cells.drop (start.toNat + octets.length))
  else none

/-- The first octets of the memory; it faults past the end and on what is not written. -/
def load (cells : Cells) (count : Nat) : Option Octets :=
  if count ≤ cells.length then (cells.take count).mapM id else none

@[simp] theorem length_fresh (size : Nat) : (fresh size).length = size := List.length_replicate

@[simp] theorem length_written (octets : Octets) : (written octets).length = octets.length :=
  List.length_map _

@[simp] theorem written_append (first second : Octets) :
    written (first ++ second) = written first ++ written second := List.map_append

theorem mapM_written (octets : Octets) : (written octets).mapM id = some octets := by
  induction octets with
  | nil => rfl
  | cons octet rest ih =>
    have tail : (rest.map some).mapM id = some rest := ih
    simp [written, List.mapM_cons, tail]

theorem store_written (before octets : Octets) (rest : Cells) {start : Int}
    (position : start = before.length) (room : octets.length ≤ rest.length) :
    store (written before ++ rest) start octets =
      some (written (before ++ octets) ++ rest.drop octets.length) := by
  subst position
  have inside : (0 : Int) ≤ before.length ∧
      (before.length : Int) + octets.length ≤ (written before ++ rest).length := by
    simp only [List.length_append, length_written]
    omega
  have taken : (written before ++ rest).take before.length = written before := by
    rw [← length_written before, List.take_left]
  have dropped : (written before ++ rest).drop (before.length + octets.length) =
      rest.drop octets.length := by
    rw [← length_written before, ← List.drop_drop, List.drop_left]
  rw [store, if_pos inside, Int.toNat_natCast, taken, dropped, written_append]

theorem store_front (cells : Cells) (octets : Octets) (room : octets.length ≤ cells.length) :
    store cells 0 octets = some (written octets ++ cells.drop octets.length) :=
  store_written [] octets cells rfl room

theorem store_negative {cells : Cells} {start : Int} {octets : Octets} (before : start < 0) :
    store cells start octets = none := by
  rw [store, if_neg]
  omega

theorem load_written {octets : Octets} {rest : Cells} {count : Nat} (size : count = octets.length) :
    load (written octets ++ rest) count = some octets := by
  subst size
  have inside : octets.length ≤ (written octets ++ rest).length := by
    simp only [List.length_append, length_written]
    omega
  have taken : (written octets ++ rest).take octets.length = written octets := by
    rw [← length_written octets, List.take_left]
  rw [load, if_pos inside, taken, mapM_written]

end Cells

end Foundation
