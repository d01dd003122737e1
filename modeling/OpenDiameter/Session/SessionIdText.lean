import OpenDiameter.Foundation.Outcome
import OpenDiameter.Parser.Text
import OpenDiameter.Session.Database

/-! The text of a session id.

The positions of the separators are kept in 32 bits, also where the "not found" of a
string has 64; the optional value is assigned only if there is a third separator.
-/

set_option autoImplicit false

namespace OpenDiameter.Session

open Foundation OpenDiameter.Parser

section Numbers

/-- What differs between machines: the width of `size_t`, the largest `unsigned long`, and what
`atoi` makes of a number that is no `int`. -/
structure Platform where
  wide : Bool
  ulongMax : Nat
  beyond : Octets → UInt32
  enough : 2 ^ 32 - 1 ≤ ulongMax

def readNumber (text : Octets) : Bool × Nat :=
  match skip (text.takeWhile (· ≠ 0)) with
  | [] => (false, 0)
  | b :: rest =>
    if b = 45 then (true, digitsValue (rest.takeWhile isDigit))
    else if b = 43 then (false, digitsValue (rest.takeWhile isDigit))
    else (false, digitsValue ((b :: rest).takeWhile isDigit))

namespace Platform

variable (p : Platform)

/-- `strtoul` to the base 10, assigned to 32 bits. -/
def strtoul (text : Octets) : UInt32 :=
  let (negative, n) := readNumber text
  if p.ulongMax < n then .ofNat p.ulongMax
  else if negative then .ofNat ((p.ulongMax + 1 - n) % (p.ulongMax + 1))
  else .ofNat n

def atoi (text : Octets) : UInt32 :=
  let (negative, n) := readNumber text
  if negative then (if n ≤ 2 ^ 31 then 0 - .ofNat n else p.beyond text)
  else if n < 2 ^ 31 then .ofNat n
  else p.beyond text

/-- `std::string::npos`. -/
def npos : Nat := if p.wide then 2 ^ 64 - 1 else 2 ^ 32 - 1

/-- `find(";", start)`, as it is kept. -/
def find (sid : Octets) (start : UInt32) : UInt32 :=
  match (sid.drop start.toNat).findIdx? (· == 59) with
  | some k => .ofNat (start.toNat + k)
  | none => .ofNat p.npos

end Platform

/-- `substr`; beyond the end it throws `std::out_of_range`. -/
def substr (sid : Octets) (start : UInt32) (count : Nat) : Outcome Empty Octets :=
  if sid.length < start.toNat then .escaped else .returned ((sid.drop start.toNat).take count)

end Numbers

section Texts

inductive SessionIdResult where
  | success | parsingFailed
  deriving DecidableEq, Repr

def SessionId.text (id : SessionId) : Octets :=
  id.diameterId ++ 59 :: (decimal id.high.toNat ++ 59 ::
    (decimal id.low.toNat ++ if id.optionalValue = [] then [] else 59 :: id.optionalValue))

/-- `Get`, into an id that holds other values; they are assigned as they are read. -/
def SessionId.get (p : Platform) (id : SessionId) (avp : Option Octets) : Outcome Empty (SessionId × SessionIdResult) :=
  match avp with
  | none => .returned (id, .parsingFailed)
  | some sid => do
    let where1 := p.find sid 0
    -- `where1` and `where2` are unsigned int, so that on a wide machine no search is seen to fail.
    if where1.toNat = p.npos then return (id, .parsingFailed)
    let diameterId ← substr sid 0 where1.toNat
    let id := { id with diameterId }
    let where1 := where1 + 1
    let where2 := p.find sid where1
    if where2.toNat = p.npos then return (id, .parsingFailed)
    let stringHigh ← substr sid where1 (where2 - where1).toNat
    let id := { id with high := p.strtoul stringHigh }
    let where2 := where2 + 1
    let where1 := p.find sid where2
    if where1.toNat = p.npos then
      let stringLow ← substr sid where2 p.npos
      return ({ id with low := p.atoi stringLow }, .success)
    let stringLow ← substr sid where2 (where1 - where2).toNat
    let id := { id with low := p.atoi stringLow }
    let optionalValue ← substr sid (where1 + 1) p.npos
    return ({ id with optionalValue }, .success)

/-- An id is read back as it was written, whatever the object held before. -/
def SessionId.RoundTrips (p : Platform) (id previous : SessionId) : Prop :=
  previous.get p (some id.text) = .returned (id, .success)

def Refused (p : Platform) (previous : SessionId) (sid : Octets) : Prop :=
  ∃ id, previous.get p (some sid) = .returned (id, .parsingFailed)

end Texts

section Reading

variable {p : Platform}

theorem readNumber_decimal (n : Nat) : readNumber (decimal n) = (false, n) := by
  have digits := decimal_digits n
  have octets : (decimal n).takeWhile (· ≠ 0) = decimal n := by
    rw [List.takeWhile_eq_self_iff]
    intro b member
    have digit := digits b member
    rw [decide_eq_true_eq]
    rintro rfl
    cases digit
  have all : (decimal n).takeWhile isDigit = decimal n := List.takeWhile_eq_self_iff.mpr digits
  unfold readNumber
  rw [octets]
  cases text : decimal n with
  | nil => exact absurd text (decimal_ne_nil n)
  | cons b rest =>
    have digit : isDigit b = true := digits b (by rw [text]; exact List.mem_cons_self)
    have minus : b ≠ 45 := by
      rintro rfl
      cases digit
    have plus : b ≠ 43 := by
      rintro rfl
      cases digit
    rw [skip_cons (isDigit_solid digit).1]
    dsimp only
    rw [if_neg minus, if_neg plus, ← text, all, digitsValue_decimal]

theorem strtoul_decimal (n : UInt32) : p.strtoul (decimal n.toNat) = n := by
  have fits : ¬p.ulongMax < n.toNat := by
    have enough := p.enough
    have small := n.toNat_lt
    omega
  rw [Platform.strtoul, readNumber_decimal]
  dsimp only
  rw [if_neg fits, if_neg Bool.false_ne_true, UInt32.ofNat_toNat]

theorem atoi_decimal (n : UInt32) : p.atoi (decimal n.toNat) = if n.toNat < 2 ^ 31 then n else p.beyond (decimal n.toNat) := by
  rw [Platform.atoi, readNumber_decimal]
  dsimp only
  rw [if_neg Bool.false_ne_true, UInt32.ofNat_toNat]

end Reading

section Positions

variable {p : Platform}

theorem toNat_position {n : Nat} (short : n < 2 ^ 32) : (UInt32.ofNat n).toNat = n := UInt32.toNat_ofNat_of_lt' short

theorem findIdx_append {middle after : Octets} (clean : (59 : UInt8) ∉ middle) :
    (middle ++ 59 :: after).findIdx? (· == 59) = some middle.length := by
  induction middle with
  | nil => rfl
  | cons b middle ih =>
    have other : (b == 59) = false := by
      rw [beq_eq_false_iff_ne]
      rintro rfl
      exact clean List.mem_cons_self
    rw [List.cons_append, List.findIdx?_cons, other]
    simp [ih fun member => clean (List.mem_cons_of_mem _ member)]

theorem find_append (before middle after : Octets) (clean : (59 : UInt8) ∉ middle) (short : before.length < 2 ^ 32) :
    p.find (before ++ (middle ++ 59 :: after)) (.ofNat before.length) = .ofNat (before.length + middle.length) := by
  rw [Platform.find, toNat_position short, List.drop_left, findIdx_append clean]

theorem find_missing (before rest : Octets) (clean : (59 : UInt8) ∉ rest) (short : before.length < 2 ^ 32) :
    p.find (before ++ rest) (.ofNat before.length) = .ofNat p.npos := by
  have missing : rest.findIdx? (· == 59) = none := by
    rw [List.findIdx?_eq_none_iff]
    intro b member
    rw [beq_eq_false_iff_ne]
    rintro rfl
    exact clean member
  rw [Platform.find, toNat_position short, List.drop_left, missing]

theorem substr_append (before middle after : Octets) (short : before.length < 2 ^ 32) :
    substr (before ++ (middle ++ after)) (.ofNat before.length) middle.length = .returned middle := by
  have inside : ¬(before ++ (middle ++ after)).length < before.length := by
    rw [List.length_append]
    omega
  rw [substr, toNat_position short, if_neg inside, List.drop_left, List.take_left]

theorem substr_rest (before rest : Octets) {count : Nat} (short : before.length < 2 ^ 32) (enough : rest.length ≤ count) :
    substr (before ++ rest) (.ofNat before.length) count = .returned rest := by
  have inside : ¬(before ++ rest).length < before.length := by
    rw [List.length_append]
    omega
  rw [substr, toNat_position short, if_neg inside, List.drop_left, List.take_of_length_le enough]

theorem ofNat_npos : UInt32.ofNat p.npos = 0xffffffff := by
  unfold Platform.npos
  cases p.wide <;> rfl

/-- Only on a narrow machine is "not found" what it is compared with. -/
theorem npos_iff : (UInt32.ofNat p.npos).toNat = p.npos ↔ p.wide = false := by
  rw [ofNat_npos]
  unfold Platform.npos
  cases p.wide <;> simp

theorem position_ne_npos {n : Nat} (short : n < 2 ^ 32 - 1) : (UInt32.ofNat n).toNat ≠ p.npos := by
  rw [toNat_position (by omega)]
  unfold Platform.npos
  cases p.wide
  · exact Nat.ne_of_lt short
  · exact Nat.ne_of_lt (Nat.lt_trans short (by decide))

theorem short_le_npos {n : Nat} (short : n < 2 ^ 32 - 1) : n ≤ p.npos := by
  unfold Platform.npos
  cases p.wide
  · exact Nat.le_of_lt short
  · exact Nat.le_of_lt (Nat.lt_trans short (by decide))

theorem ofNat_succ (n : Nat) : UInt32.ofNat n + 1 = .ofNat (n + 1) := (UInt32.ofNat_add n 1).symm

theorem distance {start stop : Nat} (ordered : start ≤ stop) (short : stop < 2 ^ 32) :
    (UInt32.ofNat stop - UInt32.ofNat start).toNat = stop - start := by
  have first : (UInt32.ofNat start).toNat = start := toNat_position (Nat.lt_of_le_of_lt ordered short)
  have last : (UInt32.ofNat stop).toNat = stop := toNat_position short
  rw [UInt32.toNat_sub_of_le _ _ (by rw [UInt32.le_iff_toNat_le, first, last]; exact ordered), first, last]

end Positions

section Results

variable {p : Platform} {previous : SessionId}

theorem get_parts (diameterId high rest : Octets) (cleanId : (59 : UInt8) ∉ diameterId) (cleanHigh : (59 : UInt8) ∉ high)
    (short : (diameterId ++ 59 :: (high ++ 59 :: rest)).length < 2 ^ 32 - 1) :
    previous.get p (some (diameterId ++ 59 :: (high ++ 59 :: rest))) =
      (let sid := diameterId ++ 59 :: (high ++ 59 :: rest)
       let where2 : UInt32 := .ofNat (diameterId.length + 1 + high.length + 1)
       let id : SessionId := { previous with diameterId, high := p.strtoul high }
       if (p.find sid where2).toNat = p.npos then
         substr sid where2 p.npos >>= fun low => .returned ({ id with low := p.atoi low }, .success)
       else
         substr sid where2 (p.find sid where2 - where2).toNat >>= fun low =>
           substr sid (p.find sid where2 + 1) p.npos >>= fun optionalValue =>
             .returned ({ id with low := p.atoi low, optionalValue }, .success)) := by
  rw [List.length_append, List.length_cons, List.length_append, List.length_cons] at short
  have first : p.find (diameterId ++ 59 :: (high ++ 59 :: rest)) 0 = .ofNat diameterId.length := by
    have found := @find_append p [] diameterId (high ++ 59 :: rest) cleanId (by decide)
    rwa [List.nil_append, List.length_nil, Nat.zero_add] at found
  have start : (diameterId ++ [59]).length = diameterId.length + 1 := by simp
  have second : p.find (diameterId ++ 59 :: (high ++ 59 :: rest)) (.ofNat (diameterId.length + 1)) =
      .ofNat (diameterId.length + 1 + high.length) := by
    have found := @find_append p (diameterId ++ [59]) high rest cleanHigh (by omega)
    rwa [start, List.append_assoc, List.singleton_append] at found
  have name : substr (diameterId ++ 59 :: (high ++ 59 :: rest)) 0 diameterId.length = .returned diameterId :=
    substr_append [] diameterId (59 :: (high ++ 59 :: rest)) (by decide)
  have number : substr (diameterId ++ 59 :: (high ++ 59 :: rest)) (.ofNat (diameterId.length + 1)) high.length = .returned high := by
    have part := substr_append (diameterId ++ [59]) high (59 :: rest) (by omega)
    rwa [start, List.append_assoc, List.singleton_append] at part
  have width : (UInt32.ofNat (diameterId.length + 1 + high.length) - UInt32.ofNat (diameterId.length + 1)).toNat = high.length := by
    rw [distance (by omega) (by omega)]
    omega
  rw [SessionId.get]
  dsimp only
  rw [first, if_neg (position_ne_npos (by omega)), toNat_position (by omega), name, Outcome.returned_bind, ofNat_succ, second,
    if_neg (position_ne_npos (by omega)), width, number, Outcome.returned_bind, ofNat_succ]
  rfl

theorem get_optional (diameterId high low optionalValue : Octets) (cleanId : (59 : UInt8) ∉ diameterId)
    (cleanHigh : (59 : UInt8) ∉ high) (cleanLow : (59 : UInt8) ∉ low)
    (short : (diameterId ++ 59 :: (high ++ 59 :: (low ++ 59 :: optionalValue))).length < 2 ^ 32 - 1) :
    previous.get p (some (diameterId ++ 59 :: (high ++ 59 :: (low ++ 59 :: optionalValue)))) =
      .returned (⟨⟨p.strtoul high, p.atoi low⟩, diameterId, optionalValue⟩, .success) := by
  rw [get_parts diameterId high _ cleanId cleanHigh short]
  simp only [List.length_append, List.length_cons] at short
  let before : Octets := diameterId ++ 59 :: (high ++ [59])
  have shape : diameterId ++ 59 :: (high ++ 59 :: (low ++ 59 :: optionalValue)) = before ++ (low ++ 59 :: optionalValue) := by simp [before]
  have start : before.length = diameterId.length + 1 + high.length + 1 := by
    simp [before]
    omega
  have shape' : before ++ (low ++ 59 :: optionalValue) = (before ++ (low ++ [59])) ++ optionalValue := by simp
  have start' : (before ++ (low ++ [59])).length = before.length + low.length + 1 := by
    simp
    omega
  have third : p.find (before ++ (low ++ 59 :: optionalValue)) (.ofNat before.length) = .ofNat (before.length + low.length) :=
    find_append before low optionalValue cleanLow (by omega)
  have number : substr (before ++ (low ++ 59 :: optionalValue)) (.ofNat before.length) low.length = .returned low :=
    substr_append before low (59 :: optionalValue) (by omega)
  have width : (UInt32.ofNat (before.length + low.length) - UInt32.ofNat before.length).toNat = low.length := by
    rw [distance (by omega) (by omega)]
    omega
  have tail : substr (before ++ (low ++ 59 :: optionalValue)) (.ofNat (before.length + low.length + 1)) p.npos =
      .returned optionalValue := by
    rw [shape', ← start']
    exact substr_rest _ _ (by omega) (short_le_npos (by omega))
  dsimp only
  rw [← start, shape, third, if_neg (position_ne_npos (by omega)), width, number, Outcome.returned_bind, ofNat_succ, tail,
    Outcome.returned_bind]

theorem get_plain (diameterId high low : Octets) (cleanId : (59 : UInt8) ∉ diameterId)
    (cleanHigh : (59 : UInt8) ∉ high) (cleanLow : (59 : UInt8) ∉ low)
    (short : (diameterId ++ 59 :: (high ++ 59 :: low)).length < 2 ^ 32 - 1) :
    previous.get p (some (diameterId ++ 59 :: (high ++ 59 :: low))) =
      .returned (⟨⟨p.strtoul high, p.atoi low⟩, diameterId,
        if p.wide then diameterId ++ 59 :: (high ++ 59 :: low) else previous.optionalValue⟩, .success) := by
  rw [get_parts diameterId high _ cleanId cleanHigh short]
  have whole := short
  simp only [List.length_append, List.length_cons] at short
  let before : Octets := diameterId ++ 59 :: (high ++ [59])
  have shape : diameterId ++ 59 :: (high ++ 59 :: low) = before ++ low := by simp [before]
  have start : before.length = diameterId.length + 1 + high.length + 1 := by
    simp [before]
    omega
  have missing : p.find (before ++ low) (.ofNat before.length) = .ofNat p.npos := find_missing before low cleanLow (by omega)
  rw [shape] at whole
  dsimp only
  rw [← start, shape, missing]
  by_cases wide : p.wide = true
  · have other : (UInt32.ofNat p.npos).toNat ≠ p.npos := by
      rw [Ne, npos_iff, wide]
      decide
    have width : (UInt32.ofNat p.npos - UInt32.ofNat before.length).toNat = 2 ^ 32 - 1 - before.length := by
      have last : (0xffffffff : UInt32) = .ofNat (2 ^ 32 - 1) := rfl
      rw [ofNat_npos, last]
      exact distance (by omega) (by decide)
    have wraps : UInt32.ofNat p.npos + 1 = .ofNat ([] : Octets).length := by
      rw [ofNat_npos]
      rfl
    have all : substr (before ++ low) (.ofNat ([] : Octets).length) p.npos = .returned (before ++ low) :=
      substr_rest [] (before ++ low) (by decide) (short_le_npos whole)
    rw [if_neg other, if_pos wide, width, substr_rest before low (by omega) (by omega), Outcome.returned_bind, wraps, all,
      Outcome.returned_bind]
  · have narrow : p.wide = false := Bool.eq_false_iff.mpr wide
    rw [if_pos (npos_iff.mpr narrow), if_neg wide, substr_rest before low (by omega) (short_le_npos (by omega)), Outcome.returned_bind]

theorem separator_not_mem_decimal (n : Nat) : (59 : UInt8) ∉ decimal n := fun member => by
  cases decimal_digits n 59 member

theorem refused_none (sid : Octets) (clean : (59 : UInt8) ∉ sid) (short : sid.length < 2 ^ 32 - 1) :
    Refused p previous sid ↔ p.wide = false := by
  have missing : p.find sid 0 = .ofNat p.npos := find_missing [] sid clean (by decide)
  rw [← @npos_iff p]
  by_cases narrow : (UInt32.ofNat p.npos).toNat = p.npos
  · refine iff_of_true ⟨previous, ?_⟩ narrow
    rw [SessionId.get]
    dsimp only
    rw [missing, if_pos narrow]
    rfl
  · refine iff_of_false ?_ narrow
    have wraps : UInt32.ofNat p.npos + 1 = 0 := by rw [ofNat_npos]; rfl
    have width : (UInt32.ofNat p.npos).toNat = 2 ^ 32 - 1 := by rw [ofNat_npos]; rfl
    have whole {count : Nat} (enough : sid.length ≤ count) : substr sid 0 count = .returned sid :=
      substr_rest [] sid (by decide) enough
    have all := whole (@short_le_npos p _ short)
    rintro ⟨id, refused⟩
    rw [SessionId.get] at refused
    dsimp only at refused
    rw [missing, if_neg narrow, width, whole (by omega), Outcome.returned_bind, wraps, missing, if_neg narrow, UInt32.sub_zero,
      width, whole (by omega), Outcome.returned_bind, wraps, missing, if_neg narrow, UInt32.sub_zero, width, whole (by omega),
      Outcome.returned_bind, wraps, all, Outcome.returned_bind] at refused
    cases refused

theorem refused_one (first second : Octets) (cleanFirst : (59 : UInt8) ∉ first) (cleanSecond : (59 : UInt8) ∉ second)
    (short : (first ++ 59 :: second).length < 2 ^ 32 - 1) : Refused p previous (first ++ 59 :: second) ↔ p.wide = false := by
  have whole := short
  rw [List.length_append, List.length_cons] at short
  have shape : first ++ 59 :: second = (first ++ [59]) ++ second := by simp
  have start : (first ++ [59]).length = first.length + 1 := by simp
  have found : p.find (first ++ 59 :: second) 0 = .ofNat first.length := by
    have begins := @find_append p [] first second cleanFirst (by decide)
    rwa [List.nil_append, List.length_nil, Nat.zero_add] at begins
  have name : substr (first ++ 59 :: second) 0 first.length = .returned first :=
    substr_append [] first (59 :: second) (by decide)
  have missing : p.find (first ++ 59 :: second) (.ofNat (first.length + 1)) = .ofNat p.npos := by
    rw [shape, ← start]
    exact find_missing _ second cleanSecond (by omega)
  have rest {count : Nat} (enough : second.length ≤ count) :
      substr (first ++ 59 :: second) (.ofNat (first.length + 1)) count = .returned second := by
    rw [shape, ← start]
    exact substr_rest _ second (by omega) enough
  rw [← @npos_iff p]
  by_cases narrow : (UInt32.ofNat p.npos).toNat = p.npos
  · refine iff_of_true ⟨{ previous with diameterId := first }, ?_⟩ narrow
    rw [SessionId.get]
    dsimp only
    rw [found, if_neg (position_ne_npos (by omega)), toNat_position (by omega), name, Outcome.returned_bind, ofNat_succ, missing,
      if_pos narrow]
    rfl
  · refine iff_of_false ?_ narrow
    have wraps : UInt32.ofNat p.npos + 1 = 0 := by rw [ofNat_npos]; rfl
    have width : (UInt32.ofNat p.npos - UInt32.ofNat (first.length + 1)).toNat = 2 ^ 32 - 1 - (first.length + 1) := by
      have last : (0xffffffff : UInt32) = .ofNat (2 ^ 32 - 1) := rfl
      rw [ofNat_npos, last]
      exact distance (by omega) (by decide)
    have all := rest (@short_le_npos p _ (by omega))
    rintro ⟨id, refused⟩
    rw [SessionId.get] at refused
    dsimp only at refused
    rw [found, if_neg (position_ne_npos (by omega)), toNat_position (by omega), name, Outcome.returned_bind, ofNat_succ, missing,
      if_neg narrow, width, rest (by omega), Outcome.returned_bind, wraps, found, if_neg (position_ne_npos (by omega)),
      UInt32.sub_zero, toNat_position (by omega), name, Outcome.returned_bind, ofNat_succ, all, Outcome.returned_bind] at refused
    cases refused

/-- A text with fewer than two separators is refused exactly where "not found" is recognised. -/
theorem refused_iff (sid : Octets) (few : sid.count 59 < 2) (short : sid.length < 2 ^ 32 - 1) :
    Refused p previous sid ↔ p.wide = false := by
  by_cases member : (59 : UInt8) ∈ sid
  · obtain ⟨first, second, rfl, cleanFirst⟩ := List.eq_append_cons_of_mem member
    have cleanSecond : (59 : UInt8) ∉ second := by
      intro again
      have one := List.count_pos_iff.mpr again
      rw [List.count_append, List.count_cons_self] at few
      omega
    exact refused_one first second cleanFirst cleanSecond short
  · exact refused_none sid member short

theorem roundTrips_iff (id : SessionId) (clean : (59 : UInt8) ∉ id.diameterId) (short : id.text.length < 2 ^ 32 - 1) :
    id.RoundTrips p previous ↔
      (id.low.toNat < 2 ^ 31 ∨ p.beyond (decimal id.low.toNat) = id.low) ∧
        (id.optionalValue ≠ [] ∨ (p.wide = false ∧ previous.optionalValue = [])) := by
  obtain ⟨⟨high, low⟩, diameterId, optionalValue⟩ := id
  have read : p.atoi (decimal low.toNat) = low ↔ low.toNat < 2 ^ 31 ∨ p.beyond (decimal low.toNat) = low := by
    rw [atoi_decimal]
    by_cases small : low.toNat < 2 ^ 31
    · rw [if_pos small]
      exact iff_of_true rfl (.inl small)
    · rw [if_neg small]
      exact (or_iff_right small).symm
  have cleanHigh := separator_not_mem_decimal high.toNat
  have cleanLow := separator_not_mem_decimal low.toNat
  unfold SessionId.RoundTrips
  unfold SessionId.text at short ⊢
  dsimp only at clean short ⊢
  rw [← read]
  -- Without an optional value the low part is the last, and the search behind it has to fail.
  by_cases none : optionalValue = []
  · subst none
    rw [if_pos rfl, List.append_nil] at short ⊢
    rw [get_plain diameterId _ _ clean cleanHigh cleanLow short, strtoul_decimal]
    cases p.wide <;> simp
  · rw [if_neg none] at short ⊢
    rw [get_optional diameterId _ _ optionalValue clean cleanHigh cleanLow short, strtoul_decimal]
    simp [none]

/-- What the text of an id says is read, and a text without its separators is refused. -/
theorem sessionIdText_iff (p : Platform) (previous : SessionId) :
    (∀ id : SessionId, (59 : UInt8) ∉ id.diameterId → id.text.length < 2 ^ 32 - 1 →
      (id.RoundTrips p previous ↔
        (id.low.toNat < 2 ^ 31 ∨ p.beyond (decimal id.low.toNat) = id.low) ∧
          (id.optionalValue ≠ [] ∨ (p.wide = false ∧ previous.optionalValue = [])))) ∧
    ∀ sid : Octets, sid.count 59 < 2 → sid.length < 2 ^ 32 - 1 → (Refused p previous sid ↔ p.wide = false) :=
  ⟨roundTrips_iff, refused_iff⟩

/-- With 32 bits, "a;1;2;c" is read over another id, and "a" is refused. -/
theorem sessionIdText_iff_narrow :
    SessionId.RoundTrips ⟨false, 2 ^ 32 - 1, fun _ => 0, by decide⟩ ⟨⟨1, 2⟩, [97], [99]⟩ ⟨.null, [], [98]⟩ ∧
      Refused ⟨false, 2 ^ 32 - 1, fun _ => 0, by decide⟩ ⟨.null, [], [98]⟩ [97] := by
  have both := sessionIdText_iff ⟨false, 2 ^ 32 - 1, fun _ => 0, by decide⟩ ⟨.null, [], [98]⟩
  have roundTrips := both.1 ⟨⟨1, 2⟩, [97], [99]⟩ (by decide) (by decide)
  have refused := both.2 [97] (by decide) (by decide)
  exact ⟨roundTrips.mpr ⟨.inl (by decide), .inl (by decide)⟩, refused.mpr rfl⟩

/-- With 64 bits, the whole of "a;1;2" becomes an optional value, and an empty text is an id; with 32,
"a;1;2" leaves the optional value that was there. -/
theorem sessionIdText_fails :
    ¬SessionId.RoundTrips ⟨true, 2 ^ 64 - 1, fun _ => 0, by decide⟩ ⟨⟨1, 2⟩, [97], []⟩ ⟨.null, [], []⟩ ∧
      ¬Refused ⟨true, 2 ^ 64 - 1, fun _ => 0, by decide⟩ ⟨.null, [], []⟩ [] ∧
      ¬SessionId.RoundTrips ⟨false, 2 ^ 32 - 1, fun _ => 0, by decide⟩ ⟨⟨1, 2⟩, [97], []⟩ ⟨.null, [], [98]⟩ := by
  refine ⟨fun returns => ?_, fun refused => ?_, fun returns => ?_⟩
  · obtain present | ⟨narrow, -⟩ := ((roundTrips_iff _ (by decide) (by decide)).mp returns).2
    · exact present rfl
    · cases narrow
  · cases (refused_iff [] (by decide) (by decide)).mp refused
  · obtain present | ⟨-, empty⟩ := ((roundTrips_iff _ (by decide) (by decide)).mp returns).2
    · exact present rfl
    · cases empty

end Results

end OpenDiameter.Session
