import OpenDiameter.Foundation.Octets
import OpenDiameter.Foundation.Outcome

/-! Writing buffers and write scripts.

A buffer owns memory and announces a size; its writers compare the space they
need with the announced size in 64-bit arithmetic, which wraps once the write
pointer has passed the end. A script lists what a writer does to a buffer, so
that layouts can be computed without one.
-/

set_option autoImplicit false

namespace Foundation

/-- `octets` written over `memory` from position `at` on. -/
def splice (memory : Octets) (start : Nat) (octets : Octets) : Octets :=
  memory.take start ++ octets ++ memory.drop (start + octets.length)

section Splice

theorem length_splice {memory octets : Octets} {start : Nat}
    (inside : start + octets.length ≤ memory.length) :
    (splice memory start octets).length = memory.length := by
  simp only [splice, List.length_append, List.length_take, List.length_drop]
  omega

theorem splice_append (before old after octets : Octets) (same : old.length = octets.length) :
    splice (before ++ old ++ after) before.length octets = before ++ octets ++ after := by
  have taken : (before ++ old ++ after).take before.length = before := by
    rw [List.append_assoc, List.take_left]
  have dropped : (before ++ old ++ after).drop (before.length + octets.length) = after := by
    rw [← same, ← List.length_append, List.drop_left]
  rw [splice, taken, dropped]

theorem exists_splice {memory octets : Octets} {start : Nat}
    (inside : start + octets.length ≤ memory.length) :
    ∃ before old after, memory = before ++ old ++ after ∧ before.length = start ∧
      old.length = octets.length ∧ splice memory start octets = before ++ octets ++ after := by
  refine ⟨memory.take start, (memory.drop start).take octets.length,
    memory.drop (start + octets.length), ?_, ?_, ?_, rfl⟩
  · rw [List.append_assoc, ← List.drop_drop, List.take_append_drop, List.take_append_drop]
  · rw [List.length_take]
    omega
  · rw [List.length_take, List.length_drop]
    omega

theorem splice_splice {memory first second : Octets} {start : Nat}
    (same : first.length = second.length) (inside : start + first.length ≤ memory.length) :
    splice (splice memory start first) start second = splice memory start second := by
  obtain ⟨before, old, after, rfl, rfl, size, spliced⟩ := exists_splice inside
  rw [spliced, splice_append _ _ _ _ same, splice_append _ _ _ _ (size.trans same)]

theorem splice_comm {memory first second : Octets} {start next : Nat}
    (apart : start + first.length ≤ next) (inside : next + second.length ≤ memory.length) :
    splice (splice memory start first) next second =
      splice (splice memory next second) start first := by
  obtain ⟨before, old, after, rfl, rfl, size, spliced⟩ := exists_splice inside
  obtain ⟨low, lowOld, high, rfl, rfl, lowSize, -⟩ := exists_splice apart
  have shift : ∀ tail : Octets, low ++ lowOld ++ high ++ tail = low ++ lowOld ++ (high ++ tail) :=
    fun tail => List.append_assoc _ _ _
  rw [spliced, List.append_assoc, shift, splice_append _ _ _ _ lowSize, List.append_assoc _ second after,
    shift, splice_append _ _ _ _ lowSize]
  have moved : low ++ first ++ (high ++ (old ++ after)) = (low ++ first ++ high) ++ old ++ after := by
    simp only [List.append_assoc]
  have position : (low ++ lowOld ++ high).length = (low ++ first ++ high).length := by
    simp only [List.length_append, lowSize]
  rw [moved, position, splice_append _ _ _ _ size]
  simp only [List.append_assoc]

end Splice

/-- The announced `size` may differ from the memory the buffer owns. -/
structure Buffer where
  memory : Octets
  size : Nat
  wr : Nat
  deriving DecidableEq, Repr

namespace Buffer

variable {ε : Type}

/-- `size - wr` in 64-bit arithmetic. -/
def remaining (b : Buffer) : Nat := (2 ^ 64 + b.size - b.wr) % 2 ^ 64

def write (b : Buffer) (octets : Octets) : Outcome ε Buffer :=
  if b.wr + octets.length ≤ b.memory.length then
    .returned { b with memory := splice b.memory b.wr octets, wr := b.wr + octets.length }
  else .fault

theorem remaining_eq {b : Buffer} (inside : b.wr ≤ b.size) (small : b.size < 2 ^ 64) :
    b.remaining = b.size - b.wr := by
  unfold remaining
  omega

theorem write_memory {b after : Buffer} {octets : Octets}
    (written : (b.write octets : Outcome ε Buffer) = .returned after) :
    after = { b with memory := splice b.memory b.wr octets, wr := b.wr + octets.length } ∧
      b.wr + octets.length ≤ b.memory.length := by
  unfold write at written
  split at written
  case isTrue inside =>
    cases written
    exact ⟨rfl, inside⟩
  case isFalse outside => cases written

end Buffer

inductive Piece (ε : Type) where
  | octets (content : Octets) (full : ε)
  | gap (count : Nat)
  | checkedGap (count : Nat) (full : ε)
  deriving DecidableEq, Repr

namespace Piece

variable {ε : Type}

def length : Piece ε → Nat
  | octets content _ => content.length
  | gap count => count
  | checkedGap count _ => count

def exec : Piece ε → Buffer → Outcome ε Buffer
  | octets content full, b => if b.remaining < content.length then .thrown full else b.write content
  | gap count, b => .returned { b with wr := b.wr + count }
  | checkedGap count full, b =>
    if b.size < b.wr + count then .thrown full else .returned { b with wr := b.wr + count }

end Piece

structure Script (ε : Type) where
  pieces : List (Piece ε)
  ending : Outcome ε Unit
  deriving DecidableEq, Repr

namespace Script

variable {ε : Type}

def total (pieces : List (Piece ε)) : Nat := (pieces.map Piece.length).sum

def run : List (Piece ε) → Buffer → Outcome ε Buffer
  | [], b => .returned b
  | piece :: pieces, b => piece.exec b >>= run pieces

def exec (script : Script ε) (b : Buffer) : Outcome ε Buffer := do
  let after ← run script.pieces b
  let _ ← script.ending
  return after

def andThen (first second : Script ε) : Script ε :=
  match first.ending with
  | .returned _ => ⟨first.pieces ++ second.pieces, second.ending⟩
  | _ => first

def single (piece : Piece ε) : Script ε := ⟨[piece], .returned ()⟩

def done : Script ε := ⟨[], .returned ()⟩

def stop (ending : Outcome ε Unit) : Script ε := ⟨[], ending⟩

@[simp] theorem total_nil : total ([] : List (Piece ε)) = 0 := rfl

@[simp] theorem total_cons (piece : Piece ε) (pieces : List (Piece ε)) :
    total (piece :: pieces) = piece.length + total pieces := by
  simp [total]

@[simp] theorem total_append (first second : List (Piece ε)) :
    total (first ++ second) = total first + total second := by
  simp [total]

theorem run_append (first second : List (Piece ε)) (b : Buffer) :
    run (first ++ second) b = (run first b >>= run second) := by
  induction first generalizing b with
  | nil => rfl
  | cons piece pieces ih =>
    simp only [List.cons_append, run]
    cases piece.exec b with
    | returned after => exact ih after
    | thrown error => rfl
    | escaped => rfl
    | fault => rfl

theorem exec_andThen (first second : Script ε) (b : Buffer) :
    (first.andThen second).exec b = (first.exec b >>= second.exec) := by
  unfold andThen exec
  cases ending : first.ending with
  | returned value =>
    simp only [run_append]
    cases run first.pieces b <;> rfl
  | thrown error | escaped | fault =>
    simp only [ending]
    cases run first.pieces b <;> rfl

theorem exec_single (piece : Piece ε) (b : Buffer) : (single piece).exec b = piece.exec b := by
  simp only [single, exec, run]
  cases piece.exec b <;> rfl

theorem andThen_ending {first second : Script ε} (ok : first.ending = .returned ()) :
    first.andThen second = ⟨first.pieces ++ second.pieces, second.ending⟩ := by
  unfold andThen
  rw [ok]

theorem run_cursor {pieces : List (Piece ε)} {b after : Buffer}
    (ran : run pieces b = .returned after) :
    after.wr = b.wr + total pieces ∧ after.size = b.size ∧
      after.memory.length = b.memory.length := by
  induction pieces generalizing b with
  | nil =>
    cases ran
    exact ⟨rfl, rfl, rfl⟩
  | cons piece pieces ih =>
    obtain ⟨middle, stepped, rest⟩ := Outcome.bind_eq_returned.mp ran
    obtain ⟨wr, size, length⟩ := ih rest
    rw [wr, size, length, total_cons]
    cases piece with
    | octets content full =>
      simp only [Piece.exec] at stepped
      split at stepped
      · cases stepped
      · obtain ⟨rfl, inside⟩ := Buffer.write_memory stepped
        exact ⟨Nat.add_assoc _ _ _, rfl, length_splice inside⟩
    | gap count =>
      cases stepped
      exact ⟨Nat.add_assoc _ _ _, rfl, rfl⟩
    | checkedGap count full =>
      simp only [Piece.exec] at stepped
      split at stepped
      · cases stepped
      · cases stepped
        exact ⟨Nat.add_assoc _ _ _, rfl, rfl⟩

theorem run_splice (pieces : List (Piece ε)) (b : Buffer) {start : Nat} {octets : Octets}
    (before : start + octets.length ≤ b.wr) (inside : start + octets.length ≤ b.memory.length) :
    run pieces { b with memory := splice b.memory start octets } =
      (run pieces b >>= fun after =>
        .returned { after with memory := splice after.memory start octets }) := by
  induction pieces generalizing b with
  | nil => rfl
  | cons piece pieces ih =>
    unfold run
    cases piece with
    | octets content full =>
      have unchanged :
          Buffer.remaining { b with memory := splice b.memory start octets } = b.remaining := rfl
      by_cases short : b.remaining < content.length
      · simp only [Piece.exec, unchanged, short, ↓reduceIte, Outcome.thrown_bind]
      · by_cases room : b.wr + content.length ≤ b.memory.length
        · simp only [Piece.exec, unchanged, short, ↓reduceIte, Buffer.write, length_splice inside, room,
            Outcome.returned_bind]
          rw [splice_comm before room]
          exact ih { b with memory := splice b.memory b.wr content, wr := b.wr + content.length }
            (Nat.le_add_right_of_le before) (by rw [length_splice room]; exact inside)
        · simp only [Piece.exec, unchanged, short, ↓reduceIte, Buffer.write, length_splice inside, room,
            Outcome.fault_bind]
    | gap count =>
      exact ih { b with wr := b.wr + count } (Nat.le_add_right_of_le before) inside
    | checkedGap count full =>
      simp only [Piece.exec]
      split
      · rfl
      · exact ih { b with wr := b.wr + count } (Nat.le_add_right_of_le before) inside

def Renders : List (Piece ε) → Octets → Prop
  | [], image => image = []
  | .octets content _ :: pieces, image => ∃ rest, image = content ++ rest ∧ Renders pieces rest
  | .gap count :: pieces, image =>
    ∃ pad rest, pad.length = count ∧ image = pad ++ rest ∧ Renders pieces rest
  | .checkedGap count _ :: pieces, image =>
    ∃ pad rest, pad.length = count ∧ image = pad ++ rest ∧ Renders pieces rest

theorem renders_append {first second : List (Piece ε)} {image : Octets} :
    Renders (first ++ second) image ↔
      ∃ left right, image = left ++ right ∧ Renders first left ∧ Renders second right := by
  induction first generalizing image with
  | nil =>
    constructor
    · intro rendered
      exact ⟨[], image, rfl, rfl, rendered⟩
    · rintro ⟨left, right, rfl, rfl, rendered⟩
      exact rendered
  | cons piece pieces ih =>
    cases piece with
    | octets content full =>
      simp only [List.cons_append, Renders, ih]
      constructor
      · rintro ⟨_, rfl, left, right, rfl, low, high⟩
        exact ⟨content ++ left, right, (List.append_assoc _ _ _).symm, ⟨left, rfl, low⟩, high⟩
      · rintro ⟨_, right, rfl, ⟨left, rfl, low⟩, high⟩
        exact ⟨left ++ right, List.append_assoc _ _ _, left, right, rfl, low, high⟩
    | gap count | checkedGap count full =>
      simp only [List.cons_append, Renders, ih]
      constructor
      · rintro ⟨pad, _, size, rfl, left, right, rfl, low, high⟩
        exact ⟨pad ++ left, right, (List.append_assoc _ _ _).symm, ⟨pad, left, size, rfl, low⟩, high⟩
      · rintro ⟨_, right, rfl, ⟨pad, left, size, rfl, low⟩, high⟩
        exact ⟨pad, left ++ right, size, List.append_assoc _ _ _, left, right, rfl, low, high⟩

theorem renders_length {pieces : List (Piece ε)} {image : Octets} (rendered : Renders pieces image) :
    image.length = total pieces := by
  induction pieces generalizing image with
  | nil => rw [rendered]; rfl
  | cons piece pieces ih =>
    rw [total_cons]
    cases piece with
    | octets content full =>
      obtain ⟨rest, rfl, low⟩ := rendered
      rw [List.length_append, ih low]
      rfl
    | gap count | checkedGap count full =>
      obtain ⟨pad, rest, rfl, rfl, low⟩ := rendered
      rw [List.length_append, ih low]
      rfl

theorem run_fits (pieces : List (Piece ε)) {b : Buffer} {before old after : Octets}
    (memory : b.memory = before ++ old ++ after) (position : b.wr = before.length)
    (room : old.length = total pieces) (fits : b.wr + total pieces ≤ b.size)
    (small : b.size < 2 ^ 64) :
    ∃ image, Renders pieces image ∧
      run pieces b = .returned
        { b with memory := before ++ image ++ after, wr := b.wr + total pieces } := by
  induction pieces generalizing b before old with
  | nil =>
    have empty : old = [] := List.eq_nil_of_length_eq_zero room
    refine ⟨[], rfl, ?_⟩
    rw [run, total_nil, Nat.add_zero, ← empty, ← memory]
  | cons piece pieces ih =>
    rw [total_cons] at room fits
    have split : old = old.take piece.length ++ old.drop piece.length :=
      (List.take_append_drop _ _).symm
    have first : (old.take piece.length).length = piece.length := by
      rw [List.length_take]
      omega
    have second : (old.drop piece.length).length = total pieces := by
      rw [List.length_drop]
      omega
    -- What is behind a piece is written by the others, whatever the piece leaves in its place.
    have step : ∀ image : Octets, image.length = piece.length →
        ∃ rest, Renders pieces rest ∧
          run pieces { b with memory := before ++ image ++ (old.drop piece.length ++ after),
                              wr := b.wr + piece.length } = .returned
            { b with memory := before ++ (image ++ rest) ++ after,
                     wr := b.wr + total (piece :: pieces) } := by
      intro image size
      obtain ⟨rest, rendered, ran⟩ := @ih
        { b with memory := before ++ image ++ (old.drop piece.length ++ after),
                 wr := b.wr + piece.length }
        (before ++ image) (old.drop piece.length)
        (by simp only [List.append_assoc])
        (by simp only [List.length_append, position, size])
        second (by dsimp only; omega) small
      refine ⟨rest, rendered, ?_⟩
      rw [ran, total_cons, Nat.add_assoc, List.append_assoc before image rest]
    have whole : b.memory = before ++ old.take piece.length ++ (old.drop piece.length ++ after) := by
      rw [memory]
      calc before ++ old ++ after
          = before ++ (old.take piece.length ++ old.drop piece.length) ++ after := by rw [← split]
        _ = before ++ old.take piece.length ++ (old.drop piece.length ++ after) := by
          simp only [List.append_assoc]
    cases piece with
    | octets content full =>
      obtain ⟨rest, rendered, ran⟩ := step content rfl
      refine ⟨content ++ rest, ⟨rest, rfl, rendered⟩, ?_⟩
      have enough : ¬ b.remaining < content.length := by
        rw [Buffer.remaining_eq (by omega) small]
        simp only [Piece.length] at fits
        omega
      have inside : b.wr + content.length ≤ b.memory.length := by
        rw [whole, position]
        simp only [List.length_append, first]
        simp only [Piece.length]
        omega
      have written : splice b.memory b.wr content =
          before ++ content ++ (old.drop content.length ++ after) := by
        rw [whole, position]
        exact splice_append _ _ _ _ first
      simp only [run, Piece.exec, enough, ↓reduceIte, Buffer.write, inside, written,
        Outcome.returned_bind]
      exact ran
    -- A gap leaves the old octets.
    | gap count =>
      obtain ⟨rest, rendered, ran⟩ := step (old.take (Piece.gap count).length) first
      rw [← whole] at ran
      exact ⟨old.take count ++ rest, ⟨_, rest, first, rfl, rendered⟩, ran⟩
    | checkedGap count full =>
      obtain ⟨rest, rendered, ran⟩ := step (old.take (Piece.checkedGap count full).length) first
      rw [← whole] at ran
      refine ⟨old.take count ++ rest, ⟨_, rest, first, rfl, rendered⟩, ?_⟩
      have enough : ¬ b.size < b.wr + count := by
        simp only [Piece.length] at fits
        omega
      simp only [run, Piece.exec, enough, ↓reduceIte, Outcome.returned_bind]
      exact ran

end Script

end Foundation
