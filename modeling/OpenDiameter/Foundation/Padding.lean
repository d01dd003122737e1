import OpenDiameter.Foundation.Buffer

/-! Scripts whose gaps end on word boundaries.

In a buffer of whole words such a script never passes the end unnoticed: it is
written in full when it fits, and else stops at the first piece without room.
-/

set_option autoImplicit false

namespace Foundation.Script

variable {ε α : Type}

section Exec

theorem exec_eq_returned {script : Script ε} {b after : Buffer} :
    script.exec b = .returned after ↔ run script.pieces b = .returned after ∧ script.ending = .returned () := by
  constructor
  · intro executed
    obtain ⟨reached, ran, ended⟩ := Outcome.bind_eq_returned.mp executed
    obtain ⟨_, ending, same⟩ := Outcome.bind_eq_returned.mp ended
    cases same
    exact ⟨ran, ending⟩
  · rintro ⟨ran, ending⟩
    rw [exec, ran, ending]
    rfl

theorem total_single (piece : Piece ε) : total (single piece).pieces = piece.length := Nat.add_zero _

def given (value : Outcome ε α) (script : α → Script ε) : Script ε :=
  match value with
  | .returned a => script a
  | .thrown error => stop (.thrown error)
  | .escaped => stop .escaped
  | .fault => stop .fault

theorem exec_splice (script : Script ε) (b : Buffer) {start : Nat} {octets : Octets}
    (before : start + octets.length ≤ b.wr) (inside : start + octets.length ≤ b.memory.length) :
    script.exec { b with memory := splice b.memory start octets } =
      (script.exec b >>= fun after => .returned { after with memory := splice after.memory start octets }) := by
  unfold exec
  rw [run_splice script.pieces b before inside]
  cases run script.pieces b with
  | returned after => cases script.ending <;> rfl
  | thrown error => rfl
  | escaped => rfl
  | fault => rfl

theorem given_ending {value : Outcome ε α} {script : α → Script ε} (ok : (given value script).ending = .returned ()) :
    ∃ a, value = .returned a := by
  cases value with
  | returned a => exact ⟨a, rfl⟩
  | thrown error => cases ok
  | escaped => cases ok
  | fault => cases ok

end Exec

/-- Gaps without a check are shorter than a word and end on a word boundary. -/
def Snug : Nat → List (Piece ε) → Prop
  | _, [] => True
  | start, .octets content _ :: pieces => Snug (start + content.length) pieces
  | start, .gap count :: pieces => count < 4 ∧ (start + count) % 4 = 0 ∧ Snug (start + count) pieces
  | start, .checkedGap count _ :: pieces => Snug (start + count) pieces

theorem snug_append {first second : List (Piece ε)} {start : Nat} :
    Snug start (first ++ second) ↔ Snug start first ∧ Snug (start + total first) second := by
  induction first generalizing start with
  | nil => simp [Snug]
  | cons piece pieces ih =>
    cases piece with
    | octets content full => simp only [List.cons_append, Snug, ih, total_cons, Piece.length, Nat.add_assoc]
    | gap count => simp only [List.cons_append, Snug, ih, total_cons, Piece.length, Nat.add_assoc, and_assoc]
    | checkedGap count full => simp only [List.cons_append, Snug, ih, total_cons, Piece.length, Nat.add_assoc]

theorem Snug.shift {pieces : List (Piece ε)} {start other : Nat} (snug : Snug start pieces)
    (same : start % 4 = other % 4) : Snug other pieces := by
  induction pieces generalizing start other with
  | nil => trivial
  | cons piece pieces ih =>
    cases piece with
    | octets content full => exact ih snug (by omega)
    | gap count =>
      obtain ⟨short, boundary, rest⟩ := snug
      exact ⟨short, by omega, ih rest (by omega)⟩
    | checkedGap count full => exact ih snug (by omega)

theorem snug_andThen {first second : Script ε} {start : Nat} (left : Snug start first.pieces)
    (right : first.ending = .returned () → Snug (start + total first.pieces) second.pieces) :
    Snug start (first.andThen second).pieces := by
  unfold andThen
  split
  case h_1 ok => exact snug_append.mpr ⟨left, right ok⟩
  case h_2 => exact left

/-- The error of the first piece that does not fit into `space` octets. -/
def overflow : Nat → List (Piece ε) → Option ε
  | _, [] => none
  | space, .octets content full :: pieces =>
    if space < content.length then some full else overflow (space - content.length) pieces
  | space, .gap count :: pieces => overflow (space - count) pieces
  | space, .checkedGap count full :: pieces =>
    if space < count then some full else overflow (space - count) pieces

structure Level (b : Buffer) : Prop where
  sized : b.size = b.memory.length
  words : b.size % 4 = 0
  small : b.size < 2 ^ 32
  inside : b.wr ≤ b.size

theorem run_octets {b : Buffer} (level : Level b) (content : Octets) (full : ε) (pieces : List (Piece ε)) :
    run (.octets content full :: pieces) b =
      if b.size - b.wr < content.length then .thrown full
      else run pieces { b with memory := splice b.memory b.wr content, wr := b.wr + content.length } := by
  obtain ⟨sized, -, small, inside⟩ := level
  have space : b.remaining = b.size - b.wr := Buffer.remaining_eq inside (by omega)
  rw [run, Piece.exec, space]
  split
  · rfl
  · rw [Buffer.write, if_pos (by omega)]
    rfl

theorem Level.octets {b : Buffer} (level : Level b) {content : Octets} (room : ¬b.size - b.wr < content.length) :
    Level { b with memory := splice b.memory b.wr content, wr := b.wr + content.length } := by
  obtain ⟨sized, words, small, inside⟩ := level
  have fits : b.wr + content.length ≤ b.memory.length := by omega
  exact ⟨by rw [length_splice fits, sized], words, small, by dsimp only; omega⟩

theorem Level.move {b : Buffer} (level : Level b) {count : Nat} (room : b.wr + count ≤ b.size) :
    Level { b with wr := b.wr + count } :=
  ⟨level.sized, level.words, level.small, room⟩

theorem Level.gap {b : Buffer} (level : Level b) {count : Nat} (short : count < 4) (boundary : (b.wr + count) % 4 = 0) :
    Level { b with wr := b.wr + count } := by
  have words := level.words
  have inside := level.inside
  exact level.move (by omega)

theorem run_overflow (pieces : List (Piece ε)) {b : Buffer} (level : Level b) (snug : Snug b.wr pieces) :
    (overflow (b.size - b.wr) pieces = none ∧ b.wr + total pieces ≤ b.size ∧ ∃ after, run pieces b = .returned after) ∨
      ∃ full, overflow (b.size - b.wr) pieces = some full ∧ run pieces b = .thrown full := by
  induction pieces generalizing b with
  | nil => exact .inl ⟨rfl, level.inside, b, rfl⟩
  | cons piece pieces ih =>
    rw [total_cons, ← Nat.add_assoc]
    cases piece with
    | octets content full =>
      rw [run_octets level, overflow, ← Nat.sub_add_eq]
      by_cases short : b.size - b.wr < content.length
      · rw [if_pos short, if_pos short]
        exact .inr ⟨full, rfl, rfl⟩
      · rw [if_neg short, if_neg short]
        exact ih (level.octets short) snug
    | gap count =>
      obtain ⟨few, boundary, rest⟩ := snug
      rw [overflow, ← Nat.sub_add_eq]
      exact ih (level.gap few boundary) rest
    | checkedGap count full =>
      have inside := level.inside
      have same : b.size - b.wr < count ↔ b.size < b.wr + count := by omega
      rw [run, Piece.exec, overflow, ← Nat.sub_add_eq]
      by_cases short : b.size < b.wr + count
      · rw [if_pos short, if_pos (same.mpr short)]
        exact .inr ⟨full, rfl, rfl⟩
      · rw [if_neg short, if_neg (mt same.mp short)]
        exact ih (level.move (Nat.not_lt.mp short)) snug

theorem overflow_none {pieces : List (Piece ε)} {space : Nat} (fits : total pieces ≤ space) :
    overflow space pieces = none := by
  induction pieces generalizing space with
  | nil => rfl
  | cons piece pieces ih =>
    rw [total_cons] at fits
    cases piece with
    | octets content full =>
      have room : content.length + total pieces ≤ space := fits
      rw [overflow, if_neg (by omega)]
      exact ih (by omega)
    | gap count =>
      have room : count + total pieces ≤ space := fits
      rw [overflow]
      exact ih (by omega)
    | checkedGap count full =>
      have room : count + total pieces ≤ space := fits
      rw [overflow, if_neg (by omega)]
      exact ih (by omega)

theorem run_level (pieces : List (Piece ε)) {b : Buffer} (level : Level b) (snug : Snug b.wr pieces) :
    run pieces b ≠ .fault ∧ ∀ after, run pieces b = .returned after → Level after ∧ b.wr + total pieces ≤ b.size := by
  rcases run_overflow pieces level snug with ⟨-, room, reached, ran⟩ | ⟨full, -, ran⟩
  · obtain ⟨wr, size, length⟩ := run_cursor ran
    rw [ran]
    refine ⟨by simp, fun after same => ?_⟩
    cases same
    exact ⟨⟨by rw [size, length, level.sized], by rw [size]; exact level.words, by rw [size]; exact level.small,
      by rw [wr, size]; exact room⟩, room⟩
  · rw [ran]
    exact ⟨by simp, fun after returned => by cases returned⟩

/-- The octets a finished run leaves behind the start. -/
theorem run_image {pieces : List (Piece ε)} {b after : Buffer} (level : Level b) (snug : Snug b.wr pieces)
    (ran : run pieces b = .returned after) :
    ∃ image, Renders pieces image ∧ after.wr = b.wr + image.length ∧
      after.memory = b.memory.take b.wr ++ image ++ b.memory.drop (b.wr + image.length) := by
  obtain ⟨-, returned⟩ := run_level pieces level snug
  obtain ⟨-, room⟩ := returned after ran
  have inside := level.sized
  have small := level.small
  have parts : b.memory =
      b.memory.take b.wr ++ (b.memory.drop b.wr).take (total pieces) ++ b.memory.drop (b.wr + total pieces) := by
    rw [List.append_assoc, ← List.drop_drop, List.take_append_drop, List.take_append_drop]
  obtain ⟨image, rendered, written⟩ := run_fits pieces parts (by rw [List.length_take]; omega)
    (by rw [List.length_take, List.length_drop]; omega) room (by omega)
  rw [ran] at written
  cases written
  have size := renders_length rendered
  exact ⟨image, rendered, by rw [size], by rw [size]⟩

end Foundation.Script
