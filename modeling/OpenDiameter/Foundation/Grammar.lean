import Mathlib.Data.List.Basic
import Mathlib.Data.List.DropRight
import OpenDiameter.Foundation.Octets

/-! Grammars of ordered choices over octets, with blanks skipped before every token.

A rule tells what it leaves of its input. The actions change a state, which is not put
back when the rule that contains them fails; the input is put back by choices, options
and repetitions.
-/

set_option autoImplicit false

namespace Foundation

/-- The rest of the input if the rule matches, and the state after its actions. -/
structure Rule (σ : Type) where
  parse : Octets → σ → Option Octets × σ

section Rules

variable {σ ν : Type}

def isBlank (b : UInt8) : Bool := b == 32 || (9 ≤ b && b ≤ 13)

def isDigit (b : UInt8) : Bool := 48 ≤ b && b ≤ 57

def isAlpha (b : UInt8) : Bool := (65 ≤ b && b ≤ 90) || (97 ≤ b && b ≤ 122)

def skip (input : Octets) : Octets := input.dropWhile isBlank

namespace Rule

def one (test : UInt8 → Bool) : Rule σ where
  parse input s :=
    match skip input with
    | [] => (none, s)
    | b :: rest => if test b then (some rest, s) else (none, s)

def ch (b : UInt8) : Rule σ := one (· == b)

def str (text : Octets) : Rule σ where
  parse input s := if text <+: skip input then (some ((skip input).drop text.length), s) else (none, s)

def token (read : Octets → Option (ν × Octets)) (within : ν → Bool) (action : ν → σ → σ) : Rule σ where
  parse input s :=
    match read (skip input) with
    | none => (none, s)
    | some (value, rest) => (if within value then some rest else none, action value s)

def andThen (p q : Rule σ) : Rule σ where
  parse input s :=
    match p.parse input s with
    | (some rest, s') => q.parse rest s'
    | (none, s') => (none, s')

def orElse (p q : Rule σ) : Rule σ where
  parse input s :=
    match p.parse input s with
    | (some rest, s') => (some rest, s')
    | (none, s') => q.parse input s'

instance : AndThen (Rule σ) := ⟨fun p q => p.andThen (q ())⟩

instance : OrElse (Rule σ) := ⟨fun p q => p.orElse (q ())⟩

def maybe (p : Rule σ) : Rule σ where
  parse input s :=
    match p.parse input s with
    | (some rest, s') => (some rest, s')
    | (none, s') => (some input, s')

def turns (p : Rule σ) : Nat → Octets → σ → Option Octets × σ
  | 0, _, s => (none, s)
  | k + 1, input, s =>
    match p.parse input s with
    | (some rest, s') => turns p k rest s'
    | (none, s') => (some input, s')

def many (p : Rule σ) : Rule σ where
  parse input s := p.turns (input.length + 1) input s

def many1 (p : Rule σ) : Rule σ := p >> p.many

def sepBy (p q : Rule σ) : Rule σ := p >> (q >> p).many

instance : Mod (Rule σ) := ⟨sepBy⟩

/-- The action sees the text of the match, without the blanks before it. -/
def act (p : Rule σ) (action : Octets → σ → σ) : Rule σ where
  parse input s :=
    match p.parse (skip input) s with
    | (some rest, s') =>
      (some rest, action ((skip input).take ((skip input).length - rest.length)) s')
    | (none, s') => (none, s')

def full (p : Rule σ) (input : Octets) (s : σ) : Option σ :=
  match p.parse input s with
  | (some rest, s') => if skip rest = [] then some s' else none
  | (none, _) => none

section Parse

variable {p q : Rule σ} {input rest : Octets} {s s' : σ}

theorem parse_andThen : (p >> q).parse input s =
    match p.parse input s with
    | (some rest, s') => q.parse rest s'
    | (none, s') => (none, s') := rfl

theorem parse_orElse : (p <|> q).parse input s =
    match p.parse input s with
    | (some rest, s') => (some rest, s')
    | (none, s') => q.parse input s' := rfl

theorem parse_maybe : p.maybe.parse input s =
    match p.parse input s with
    | (some rest, s') => (some rest, s')
    | (none, s') => (some input, s') := rfl

theorem parse_act {action : Octets → σ → σ} : (p.act action).parse input s =
    match p.parse (skip input) s with
    | (some rest, s') => (some rest, action ((skip input).take ((skip input).length - rest.length)) s')
    | (none, s') => (none, s') := rfl

theorem andThen_match (first : p.parse input s = (some rest, s')) : (p >> q).parse input s = q.parse rest s' := by
  rw [parse_andThen, first]

theorem andThen_fail (first : p.parse input s = (none, s')) : (p >> q).parse input s = (none, s') := by
  rw [parse_andThen, first]

theorem orElse_match (first : p.parse input s = (some rest, s')) : (p <|> q).parse input s = (some rest, s') := by
  rw [parse_orElse, first]

theorem orElse_fail (first : p.parse input s = (none, s')) : (p <|> q).parse input s = q.parse input s' := by
  rw [parse_orElse, first]

theorem maybe_match (inside : p.parse input s = (some rest, s')) : p.maybe.parse input s = (some rest, s') := by
  rw [parse_maybe, inside]

theorem maybe_fail (inside : p.parse input s = (none, s')) : p.maybe.parse input s = (some input, s') := by
  rw [parse_maybe, inside]

theorem act_text {action : Octets → σ → σ} {text after : Octets} (skipped : skip input = text ++ after)
    (inside : p.parse (text ++ after) s = (some after, s')) : (p.act action).parse input s = (some after, action text s') := by
  have length : (text ++ after).length - after.length = text.length := by simp
  rw [parse_act, skipped, inside]
  dsimp only
  rw [length, List.take_left]

theorem act_match {action : Octets → σ → σ} (inside : p.parse (skip input) s = (some rest, s')) :
    (p.act action).parse input s = (some rest, action ((skip input).take ((skip input).length - rest.length)) s') := by
  rw [parse_act, inside]

theorem act_fail {action : Octets → σ → σ} (inside : p.parse (skip input) s = (none, s')) :
    (p.act action).parse input s = (none, s') := by
  rw [parse_act, inside]

theorem str_mismatch {b c : UInt8} {text : Octets} (skipped : skip input = b :: rest) (differ : c ≠ b) :
    (str (c :: text)).parse input s = (none, s) := by
  unfold str
  dsimp only
  rw [skipped, if_neg]
  rintro ⟨after, same⟩
  exact differ (List.cons.inj same).1

theorem turns_succ {k : Nat} : p.turns (k + 1) input s =
    match p.parse input s with
    | (some rest, s') => p.turns k rest s'
    | (none, s') => (some input, s') := rfl

theorem many_fail (inside : p.parse input s = (none, s')) : p.many.parse input s = (some input, s') := by
  change p.turns (input.length + 1) input s = _
  rw [turns_succ, inside]

end Parse

end Rule

section Solid

def Taken (input rest : Octets) : Prop :=
  ∃ used b, input = used ++ b :: rest ∧ isBlank b = false ∧ b < 128 ∧ ∀ c ∈ used, c < 128

theorem Taken.length_lt {input rest : Octets} (taken : Taken input rest) : rest.length < input.length := by
  obtain ⟨used, b, rfl, -⟩ := taken
  simp
  omega

theorem Taken.trans {input middle rest : Octets} (first : Taken input middle) (second : Taken middle rest) :
    Taken input rest := by
  obtain ⟨used, b, rfl, -, small, early⟩ := first
  obtain ⟨used', b', rfl, solid, small', late⟩ := second
  refine ⟨used ++ b :: used', b', by simp, solid, small', ?_⟩
  intro c member
  rcases List.mem_append.mp member with inFirst | inSecond
  · exact early c inFirst
  · rcases List.mem_cons.mp inSecond with rfl | later
    · exact small
    · exact late c later

theorem isBlank_lt {b : UInt8} (blank : isBlank b = true) : b < 128 := by
  simp only [isBlank, Bool.or_eq_true, beq_iff_eq, Bool.and_eq_true, decide_eq_true_eq] at blank
  rcases blank with rfl | ⟨-, small⟩
  · decide
  · exact Nat.lt_of_le_of_lt small (by decide)

theorem skip_cons_blank {b : UInt8} (blank : isBlank b = true) (input : Octets) : skip (b :: input) = skip input := by
  rw [skip, List.dropWhile_cons, if_pos blank]
  rfl

theorem skip_cons {b : UInt8} (solid : isBlank b = false) (input : Octets) : skip (b :: input) = b :: input := by
  rw [skip, List.dropWhile_cons, if_neg (by rw [solid]; decide)]

theorem skip_skip (input : Octets) : skip (skip input) = skip input := List.dropWhile_idempotent _ _

theorem Taken.of_skip {input rest : Octets} (taken : Taken (skip input) rest) : Taken input rest := by
  induction input with
  | nil => exact taken
  | cons b input ih =>
    cases blank : isBlank b with
    | true =>
      rw [skip_cons_blank blank] at taken
      obtain ⟨used, b', rfl, solid, small, early⟩ := ih taken
      refine ⟨b :: used, b', rfl, solid, small, ?_⟩
      intro c member
      rcases List.mem_cons.mp member with rfl | later
      · exact isBlank_lt blank
      · exact early c later
    | false => rwa [skip_cons blank] at taken

namespace Rule

def Solid (p : Rule σ) : Prop := ∀ input s rest, (p.parse input s).1 = some rest → Taken input rest

def Loose (p : Rule σ) : Prop := ∀ input s rest, (p.parse input s).1 = some rest → rest = input ∨ Taken input rest

variable {p q : Rule σ}

theorem Solid.loose (solid : p.Solid) : p.Loose := fun input s rest matched => .inr (solid input s rest matched)

theorem Solid.one {test : UInt8 → Bool} (only : ∀ b, test b = true → isBlank b = false ∧ b < 128) :
    (one test : Rule σ).Solid := by
  intro input s rest matched
  apply Taken.of_skip
  unfold Rule.one at matched
  dsimp only at matched
  cases skipped : skip input with
  | nil =>
    rw [skipped] at matched
    cases matched
  | cons b after =>
    rw [skipped] at matched
    dsimp only at matched
    cases accepted : test b with
    | true =>
      rw [accepted, if_pos rfl] at matched
      cases matched
      exact ⟨[], b, rfl, (only b accepted).1, (only b accepted).2, by simp⟩
    | false =>
      rw [accepted] at matched
      cases matched

theorem Solid.str {text : Octets} {last : UInt8} (solid : isBlank last = false) (ascii : ∀ b ∈ text ++ [last], b < 128) :
    (str (text ++ [last]) : Rule σ).Solid := by
  intro input s rest matched
  apply Taken.of_skip
  unfold Rule.str at matched
  dsimp only at matched
  by_cases begins : text ++ [last] <+: skip input
  · rw [if_pos begins] at matched
    cases matched
    obtain ⟨after, parts⟩ := begins
    rw [← parts, List.drop_left]
    refine ⟨text, last, by simp, solid, ascii last (by simp), ?_⟩
    intro c member
    exact ascii c (List.mem_append_left _ member)
  · rw [if_neg begins] at matched
    cases matched

theorem Solid.andThen (first : p.Solid) (second : q.Loose) : (p >> q).Solid := by
  intro input s rest matched
  rw [parse_andThen] at matched
  cases inside : p.parse input s with
  | mk left s' =>
    rw [inside] at matched
    cases left with
    | none => cases matched
    | some middle =>
      have early := first input s middle (by rw [inside])
      rcases second middle s' rest matched with rfl | late
      · exact early
      · exact early.trans late

theorem Solid.after (first : p.Loose) (second : q.Solid) : (p >> q).Solid := by
  intro input s rest matched
  rw [parse_andThen] at matched
  cases inside : p.parse input s with
  | mk left s' =>
    rw [inside] at matched
    cases left with
    | none => cases matched
    | some middle =>
      have late := second middle s' rest matched
      rcases first input s middle (by rw [inside]) with rfl | early
      · exact late
      · exact early.trans late

theorem Solid.orElse (first : p.Solid) (second : q.Solid) : (p <|> q).Solid := by
  intro input s rest matched
  rw [parse_orElse] at matched
  cases inside : p.parse input s with
  | mk left s' =>
    rw [inside] at matched
    cases left with
    | none => exact second input s' rest matched
    | some middle =>
      cases matched
      exact first input s rest (by rw [inside])

theorem Solid.act {action : Octets → σ → σ} (solid : p.Solid) : (p.act action).Solid := by
  intro input s rest matched
  rw [parse_act] at matched
  cases inside : p.parse (skip input) s with
  | mk left s' =>
    rw [inside] at matched
    cases left with
    | none => cases matched
    | some middle =>
      cases matched
      exact (solid (skip input) s rest (by rw [inside])).of_skip

theorem turns_enough (solid : p.Solid) {k k' : Nat} {input : Octets} (enough : input.length < k)
    (enough' : input.length < k') (s : σ) : p.turns k input s = p.turns k' input s := by
  induction k generalizing k' input s with
  | zero => omega
  | succ k ih =>
    cases k' with
    | zero => omega
    | succ k' =>
      rw [turns_succ, turns_succ]
      cases inside : p.parse input s with
      | mk left s' =>
        cases left with
        | none => rfl
        | some rest =>
          have shorter := (solid input s rest (by rw [inside])).length_lt
          exact ih (by omega) (by omega) s'

theorem many_match (solid : p.Solid) {input rest : Octets} {s s' : σ} (inside : p.parse input s = (some rest, s')) :
    p.many.parse input s = p.many.parse rest s' := by
  have shorter := (solid input s rest (by rw [inside])).length_lt
  change p.turns (input.length + 1) input s = p.turns (rest.length + 1) rest s'
  rw [turns_succ, inside]
  exact turns_enough solid shorter (by omega) s'

theorem Loose.maybe (solid : p.Solid) : p.maybe.Loose := by
  intro input s rest matched
  rw [parse_maybe] at matched
  cases inside : p.parse input s with
  | mk left s' =>
    rw [inside] at matched
    cases left with
    | none =>
      cases matched
      exact .inl rfl
    | some middle =>
      cases matched
      exact .inr (solid input s rest (by rw [inside]))

theorem Loose.many (solid : p.Solid) : p.many.Loose := by
  intro input
  induction size : input.length using Nat.strong_induction_on generalizing input with
  | _ size ih =>
    intro s rest matched
    cases inside : p.parse input s with
    | mk left s' =>
      cases left with
      | none =>
        rw [many_fail inside] at matched
        cases matched
        exact .inl rfl
      | some middle =>
        have early := solid input s middle (by rw [inside])
        have shorter := early.length_lt
        rw [many_match solid inside] at matched
        rcases ih middle.length (by omega) middle rfl s' rest matched with rfl | late
        · exact .inr early
        · exact .inr (early.trans late)

theorem Solid.sepBy (item : p.Solid) (separator : q.Solid) : (p % q).Solid :=
  .andThen item (.many (.andThen separator item.loose))

theorem Solid.full_lt (solid : p.Solid) {input : Octets} {s s' : σ} (accepted : p.full input s = some s') :
    ∀ b ∈ input, b < 128 := by
  unfold full at accepted
  cases inside : p.parse input s with
  | mk left s'' =>
    rw [inside] at accepted
    cases left with
    | none => cases accepted
    | some rest =>
      dsimp only at accepted
      split at accepted
      case isFalse => cases accepted
      case isTrue ending =>
        obtain ⟨used, b, rfl, -, small, early⟩ := solid input s rest (by rw [inside])
        intro c member
        rcases List.mem_append.mp member with inUsed | behind
        · exact early c inUsed
        · rcases List.mem_cons.mp behind with rfl | inRest
          · exact small
          · exact isBlank_lt (List.dropWhile_eq_nil_iff.mp ending c inRest)

end Rule

end Solid

section Within

namespace Rule

def Within (p : Rule σ) (allowed : UInt8 → Bool) : Prop :=
  ∀ input s rest, (p.parse input s).1 = some rest → ∃ used, input = used ++ rest ∧ ∀ b ∈ used, allowed b = true

variable {p q : Rule σ} {allowed : UInt8 → Bool}

theorem Within.one {test : UInt8 → Bool} (blanks : ∀ b, isBlank b = true → allowed b = true)
    (only : ∀ b, test b = true → allowed b = true) : (one test : Rule σ).Within allowed := by
  intro input s rest matched
  have parts : input.takeWhile isBlank ++ skip input = input := List.takeWhile_append_dropWhile
  unfold Rule.one at matched
  dsimp only at matched
  cases skipped : skip input with
  | nil =>
    rw [skipped] at matched
    cases matched
  | cons b after =>
    rw [skipped] at matched
    dsimp only at matched
    cases accepted : test b with
    | true =>
      rw [accepted, if_pos rfl] at matched
      cases matched
      refine ⟨input.takeWhile isBlank ++ [b], by rw [List.append_assoc, List.singleton_append, ← skipped, parts], ?_⟩
      intro c member
      rcases List.mem_append.mp member with inBlanks | last
      · exact blanks c (List.mem_takeWhile_imp inBlanks)
      · rw [List.mem_singleton.mp last]
        exact only b accepted
    | false =>
      rw [accepted] at matched
      cases matched

theorem Within.andThen (first : p.Within allowed) (second : q.Within allowed) : (p >> q).Within allowed := by
  intro input s rest matched
  rw [parse_andThen] at matched
  cases inside : p.parse input s with
  | mk left s' =>
    rw [inside] at matched
    cases left with
    | none => cases matched
    | some middle =>
      obtain ⟨used, rfl, early⟩ := first input s middle (by rw [inside])
      obtain ⟨used', rfl, late⟩ := second middle s' rest matched
      refine ⟨used ++ used', (List.append_assoc _ _ _).symm, ?_⟩
      intro b member
      rcases List.mem_append.mp member with inFirst | inSecond
      · exact early b inFirst
      · exact late b inSecond

theorem Within.orElse (first : p.Within allowed) (second : q.Within allowed) : (p <|> q).Within allowed := by
  intro input s rest matched
  rw [parse_orElse] at matched
  cases inside : p.parse input s with
  | mk left s' =>
    rw [inside] at matched
    cases left with
    | none => exact second input s' rest matched
    | some middle =>
      cases matched
      exact first input s rest (by rw [inside])

theorem Within.many (within : p.Within allowed) : p.many.Within allowed := by
  suffices all : ∀ k input s rest, (p.turns k input s).1 = some rest →
      ∃ used, input = used ++ rest ∧ ∀ b ∈ used, allowed b = true from fun input s => all _ input s
  intro k
  induction k with
  | zero =>
    intro input s rest matched
    cases matched
  | succ k ih =>
    intro input s rest matched
    rw [turns_succ] at matched
    cases inside : p.parse input s with
    | mk left s' =>
      rw [inside] at matched
      cases left with
      | none =>
        cases matched
        exact ⟨[], rfl, by simp⟩
      | some middle =>
        obtain ⟨used, rfl, early⟩ := within input s middle (by rw [inside])
        obtain ⟨used', rfl, late⟩ := ih middle s' rest matched
        refine ⟨used ++ used', (List.append_assoc _ _ _).symm, ?_⟩
        intro b member
        rcases List.mem_append.mp member with inFirst | inSecond
        · exact early b inFirst
        · exact late b inSecond

theorem Within.full (within : p.Within allowed) (blanks : ∀ b, isBlank b = true → allowed b = true) {input : Octets}
    {s s' : σ} (accepted : p.full input s = some s') : ∀ b ∈ input, allowed b = true := by
  unfold Rule.full at accepted
  cases inside : p.parse input s with
  | mk left s'' =>
    rw [inside] at accepted
    cases left with
    | none => cases accepted
    | some rest =>
      dsimp only at accepted
      split at accepted
      case isFalse => cases accepted
      case isTrue ending =>
        obtain ⟨used, rfl, early⟩ := within input s rest (by rw [inside])
        intro b member
        rcases List.mem_append.mp member with inUsed | behind
        · exact early b inUsed
        · exact blanks b (List.dropWhile_eq_nil_iff.mp ending b behind)

end Rule

end Within

section Silent

namespace Rule

def Silent (p : Rule σ) : Prop := ∀ input s, (p.parse input s).2 = s

variable {p q : Rule σ}

theorem Silent.one (test : UInt8 → Bool) : (one test : Rule σ).Silent := by
  intro input s
  unfold Rule.one
  dsimp only
  split
  · rfl
  · split <;> rfl

theorem Silent.andThen (first : p.Silent) (second : q.Silent) : (p >> q).Silent := by
  intro input s
  rw [parse_andThen]
  have early := first input s
  cases inside : p.parse input s with
  | mk left s' =>
    rw [inside] at early
    cases left with
    | none => exact early
    | some rest => exact (second rest s').trans early

theorem Silent.orElse (first : p.Silent) (second : q.Silent) : (p <|> q).Silent := by
  intro input s
  rw [parse_orElse]
  have early := first input s
  cases inside : p.parse input s with
  | mk left s' =>
    rw [inside] at early
    cases left with
    | none => exact (second input s').trans early
    | some rest => exact early

theorem Silent.many (silent : p.Silent) : p.many.Silent := by
  intro input
  suffices all : ∀ k input s, (p.turns k input s).2 = s from all _ _
  intro k
  induction k with
  | zero => exact fun _ _ => rfl
  | succ k ih =>
    intro input s
    rw [turns_succ]
    have early := silent input s
    cases inside : p.parse input s with
    | mk left s' =>
      rw [inside] at early
      cases left with
      | none => exact early
      | some rest => exact (ih rest s').trans early

end Rule

end Silent

section Stops

theorem skip_append {stop : UInt8} (solid : isBlank stop = false) (input tail : Octets) :
    skip (input ++ stop :: tail) = skip input ++ stop :: tail := by
  induction input with
  | nil => exact skip_cons solid tail
  | cons b input ih =>
    cases blank : isBlank b with
    | true => rw [List.cons_append, skip_cons_blank blank, skip_cons_blank blank, ih]
    | false => rw [List.cons_append, skip_cons blank, skip_cons blank, List.cons_append]

namespace Rule

def Stops (stop : UInt8) (p : Rule σ) : Prop :=
  ∀ input tail s, p.parse (input ++ stop :: tail) s = ((p.parse input s).1.map (· ++ stop :: tail), (p.parse input s).2)

variable {stop : UInt8} {p q : Rule σ}

theorem Stops.one (solid : isBlank stop = false) {test : UInt8 → Bool} (other : test stop = false) :
    (one test : Rule σ).Stops stop := by
  intro input tail s
  unfold Rule.one
  dsimp only
  rw [skip_append solid]
  cases skip input with
  | nil => simp [other]
  | cons b rest =>
    cases accepted : test b with
    | true => simp [accepted]
    | false => simp [accepted]

theorem Stops.andThen (first : p.Stops stop) (second : q.Stops stop) : (p >> q).Stops stop := by
  intro input tail s
  rw [parse_andThen, parse_andThen, first]
  cases p.parse input s with
  | mk left s' =>
    cases left with
    | none => rfl
    | some rest => exact second rest tail s'

theorem Stops.orElse (first : p.Stops stop) (second : q.Stops stop) : (p <|> q).Stops stop := by
  intro input tail s
  rw [parse_orElse, parse_orElse, first]
  cases p.parse input s with
  | mk left s' =>
    cases left with
    | none => exact second input tail s'
    | some rest => rfl

theorem Stops.many (solid : p.Solid) (stops : p.Stops stop) : p.many.Stops stop := by
  intro input tail
  induction size : input.length using Nat.strong_induction_on generalizing input with
  | _ size ih =>
    intro s
    have extended := stops input tail s
    cases inside : p.parse input s with
    | mk left s' =>
      rw [inside] at extended
      cases left with
      | none =>
        rw [many_fail inside, many_fail extended]
        rfl
      | some rest =>
        have shorter := (solid input s rest (by rw [inside])).length_lt
        rw [many_match solid inside, many_match solid extended]
        exact ih rest.length (by omega) rest rfl s'

end Rule

end Stops

end Rules

section Numerals

def digitOf (radix : Nat) (b : UInt8) : Option Nat :=
  let digit :=
    if isDigit b then b.toNat - 48
    else if 97 ≤ b && b ≤ 102 then b.toNat - 87
    else if 65 ≤ b && b ≤ 70 then b.toNat - 55
    else radix
  if digit < radix then some digit else none

def takeDigits (radix : Nat) : Nat → Octets → List Nat × Octets
  | 0, input => ([], input)
  | _ + 1, [] => ([], [])
  | k + 1, b :: input =>
    match digitOf radix b with
    | none => ([], b :: input)
    | some digit => let (digits, rest) := takeDigits radix k input; (digit :: digits, rest)

def numeral (radix limit max : Nat) (input : Octets) : Option (Nat × Octets) :=
  match takeDigits radix limit input with
  | ([], _) => none
  | (digits, rest) =>
    let value := digits.foldl (fun n digit => radix * n + digit) 0
    if value ≤ max then some (value, rest) else none

def digitsValue (digits : Octets) : Nat := digits.foldl (fun n b => 10 * n + (b.toNat - 48)) 0

theorem digitOf_digit {b : UInt8} (digit : isDigit b = true) : digitOf 10 b = some (b.toNat - 48) := by
  have bounds := digit
  simp only [isDigit, Bool.and_eq_true, decide_eq_true_eq, UInt8.le_iff_toNat_le] at bounds
  obtain ⟨low, high⟩ := bounds
  have top : (57 : UInt8).toNat = 57 := rfl
  unfold digitOf
  rw [if_pos digit]
  dsimp only
  rw [if_pos (by omega)]

theorem digitOf_other {b : UInt8} (other : isDigit b = false) : digitOf 10 b = none := by
  unfold digitOf
  rw [other]
  dsimp only
  rw [if_neg Bool.false_ne_true]
  split
  case isTrue lower =>
    simp only [Bool.and_eq_true, decide_eq_true_eq, UInt8.le_iff_toNat_le] at lower
    have low : (97 : UInt8).toNat = 97 := rfl
    rw [if_neg (by omega)]
  case isFalse =>
    split
    case isTrue upper =>
      simp only [Bool.and_eq_true, decide_eq_true_eq, UInt8.le_iff_toNat_le] at upper
      have low : (65 : UInt8).toNat = 65 := rfl
      rw [if_neg (by omega)]
    case isFalse => rfl

def NoDigit (after : Octets) : Prop := ∀ b, after.head? = some b → isDigit b = false

theorem takeDigits_append {digits after : Octets} (all : ∀ b ∈ digits, isDigit b = true) (stop : NoDigit after)
    {limit : Nat} (fits : digits.length ≤ limit) :
    takeDigits 10 limit (digits ++ after) = (digits.map fun b => b.toNat - 48, after) := by
  induction digits generalizing limit with
  | nil =>
    cases limit with
    | zero => rfl
    | succ limit =>
      cases after with
      | nil => rfl
      | cons b after => rw [List.nil_append, takeDigits, digitOf_other (stop b rfl), List.map_nil]
  | cons b digits ih =>
    cases limit with
    | zero => cases fits
    | succ limit =>
      rw [List.cons_append, takeDigits, digitOf_digit (all b List.mem_cons_self),
        ih (fun c member => all c (List.mem_cons_of_mem _ member)) (Nat.le_of_succ_le_succ fits)]
      rfl

theorem numeral_append {digits after : Octets} (some' : digits ≠ []) (all : ∀ b ∈ digits, isDigit b = true)
    (stop : NoDigit after) {limit max : Nat} (fits : digits.length ≤ limit) (small : digitsValue digits ≤ max) :
    numeral 10 limit max (digits ++ after) = some (digitsValue digits, after) := by
  have value : (digits.map fun b => b.toNat - 48).foldl (fun n digit => 10 * n + digit) 0 = digitsValue digits := by
    rw [List.foldl_map]
    rfl
  unfold numeral
  rw [takeDigits_append all stop fits]
  cases digits with
  | nil => exact absurd rfl some'
  | cons b digits =>
    rw [List.map_cons] at value ⊢
    dsimp only
    rw [value, if_pos small]

theorem isDigit_solid {b : UInt8} (digit : isDigit b = true) : isBlank b = false ∧ b < 128 := by
  simp only [isDigit, isBlank, Bool.and_eq_true, decide_eq_true_eq, Bool.or_eq_false_iff,
    Bool.and_eq_false_iff, beq_eq_false_iff_ne, decide_eq_false_iff_not, UInt8.le_iff_toNat_le, UInt8.lt_iff_toNat_lt,
    ne_eq, ← UInt8.toNat_inj, UInt8.reduceToNat] at digit ⊢
  omega

theorem digitOf_solid {radix digit : Nat} {b : UInt8} (found : digitOf radix b = some digit) :
    isBlank b = false ∧ b < 128 := by
  by_cases decimal : isDigit b = true
  · exact isDigit_solid decimal
  · unfold digitOf at found
    rw [if_neg decimal] at found
    simp only [isBlank, Bool.or_eq_false_iff, Bool.and_eq_false_iff, beq_eq_false_iff_ne, decide_eq_false_iff_not,
      UInt8.le_iff_toNat_le, UInt8.lt_iff_toNat_lt, ne_eq, ← UInt8.toNat_inj, UInt8.reduceToNat, Bool.and_eq_true,
      decide_eq_true_eq] at found ⊢
    split at found
    · omega
    · split at found
      · omega
      · simp at found

theorem takeDigits_parts (radix limit : Nat) (input : Octets) :
    ∃ used, input = used ++ (takeDigits radix limit input).2 ∧ used.length = (takeDigits radix limit input).1.length ∧
      ∀ b ∈ used, isBlank b = false ∧ b < 128 := by
  induction limit generalizing input with
  | zero => exact ⟨[], rfl, rfl, by simp⟩
  | succ limit ih =>
    cases input with
    | nil => exact ⟨[], rfl, rfl, by simp⟩
    | cons b input =>
      cases found : digitOf radix b with
      | none =>
        rw [takeDigits, found]
        exact ⟨[], rfl, rfl, by simp⟩
      | some digit =>
        rw [takeDigits, found]
        obtain ⟨used, parts, length, all⟩ := ih input
        refine ⟨b :: used, congrArg (b :: ·) parts, congrArg (· + 1) length, ?_⟩
        intro c member
        rcases List.mem_cons.mp member with rfl | later
        · exact digitOf_solid found
        · exact all c later

theorem numeral_taken {radix limit max value : Nat} {input rest : Octets}
    (read : numeral radix limit max input = some (value, rest)) : Taken input rest := by
  obtain ⟨used, parts, length, all⟩ := takeDigits_parts radix limit input
  unfold numeral at read
  cases taken : takeDigits radix limit input with
  | mk digits after =>
    rw [taken] at read parts length
    dsimp only at parts length
    cases digits with
    | nil => cases read
    | cons digit digits =>
      dsimp only at read
      split at read
      · cases read
        have some' : used ≠ [] := by
          rintro rfl
          cases length
        obtain ⟨before, last, rfl⟩ := (List.eq_nil_or_concat' used).resolve_left some'
        have solid := all last (by simp)
        refine ⟨before, last, by rw [parts]; simp, solid.1, solid.2, ?_⟩
        intro c member
        exact (all c (List.mem_append_left _ member)).2
      · cases read

theorem Rule.Solid.token {σ ν : Type} {read : Octets → Option (ν × Octets)} {within : ν → Bool} {action : ν → σ → σ}
    (takes : ∀ input value rest, read input = some (value, rest) → Taken input rest) :
    (Rule.token read within action).Solid := by
  intro input s rest matched
  apply Taken.of_skip
  unfold Rule.token at matched
  dsimp only at matched
  cases found : read (skip input) with
  | none =>
    rw [found] at matched
    cases matched
  | some pair =>
    obtain ⟨value, after⟩ := pair
    rw [found] at matched
    dsimp only at matched
    split at matched
    · cases matched
      exact takes _ value rest found
    · cases matched

theorem numeral_none {input : Octets} (stop : NoDigit input) (limit max : Nat) : numeral 10 limit max input = none := by
  have nothing : (takeDigits 10 limit input).1 = [] := by
    cases limit with
    | zero => rfl
    | succ limit =>
      cases input with
      | nil => rfl
      | cons b input => rw [takeDigits, digitOf_other (stop b rfl)]
  unfold numeral
  cases taken : takeDigits 10 limit input with
  | mk digits rest =>
    rw [taken] at nothing
    cases nothing
    rfl

end Numerals

end Foundation
