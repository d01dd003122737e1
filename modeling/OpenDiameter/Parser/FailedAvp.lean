import Mathlib.Algebra.GroupWithZero.Nat
import Mathlib.Algebra.Order.BigOperators.Group.List
import Mathlib.Algebra.Order.Group.Nat
import OpenDiameter.Foundation.Depth
import OpenDiameter.Parser.AvpHeader

/-! The example of an offending AVP that a `DiameterErrorCode` carries, against the
smallest AVP that the dictionary admits.
-/

set_option autoImplicit false

namespace OpenDiameter.Parser

open Foundation

section Smallest

variable (groups : List DiameterGroupedAvp)

def wireHeaderLen (avp : DictionaryEntry) : Nat := if avp.vendorId = 0 then 8 else 12

def DiameterGroupedAvp.members (group : DiameterGroupedAvp) : List QualifiedAvp := group.dict.avpF ++ group.dict.avpR

/-- The size of the smallest instance of an AVP: its header and the least value, which
for a group holds `min` of each fixed and required member. A derivation is as deep as
the groups are nested. -/
inductive Smallest : DictionaryEntry → Nat → Prop where
  | plain {avp : DictionaryEntry} {size : Nat} :
      avp.avpType ≠ .grouped → avp.avpType.minSize = some size → Smallest avp (wireHeaderLen avp + size)
  | group {avp : DictionaryEntry} {group : DiameterGroupedAvp} (sizes : QualifiedAvp → Nat) :
      avp.avpType = .grouped → searchGroup groups avp = some group →
      (∀ rule ∈ group.members, Smallest rule.avp (sizes rule)) →
      Smallest avp (wireHeaderLen avp + (group.members.map fun rule => sizes rule * rule.min).sum)

inductive RequiredOnly : DictionaryEntry → Prop where
  | plain {avp : DictionaryEntry} : avp.avpType ≠ .grouped → RequiredOnly avp
  | group {avp : DictionaryEntry} {group : DiameterGroupedAvp} :
      avp.avpType = .grouped → searchGroup groups avp = some group →
      (∀ rule ∈ group.dict.avpF, rule.min = 0) →
      (∀ rule ∈ group.dict.avpR, rule.min ≠ 0 → RequiredOnly rule.avp) → RequiredOnly avp

end Smallest

section MinSize

variable {groups : List DiameterGroupedAvp}

theorem listMinSize_returned_iff {size : DictionaryEntry → Parse Nat} {rules : List QualifiedAvp} :
    (∃ k, listMinSize size rules = .returned k) ↔ ∀ rule ∈ rules, ∃ k, size rule.avp = .returned k := by
  induction rules with
  | nil => simp [listMinSize]
  | cons rule rules ih =>
    rw [List.forall_mem_cons, ← ih, listMinSize]
    constructor
    · rintro ⟨k, whole⟩
      obtain ⟨one, first, rest⟩ := Outcome.bind_eq_returned.mp whole
      obtain ⟨sum, later, -⟩ := Outcome.bind_eq_returned.mp rest
      exact ⟨⟨one, first⟩, sum, later⟩
    · rintro ⟨⟨one, first⟩, sum, later⟩
      exact ⟨_, Outcome.bind_eq_returned.mpr ⟨one, first, Outcome.bind_eq_returned.mpr ⟨sum, later, rfl⟩⟩⟩

theorem listMinSize_congr {size size' : DictionaryEntry → Parse Nat} {rules : List QualifiedAvp}
    (agree : ∀ rule ∈ rules, ∀ k, size rule.avp = .returned k → size' rule.avp = .returned k) {k : Nat}
    (sum : listMinSize size rules = .returned k) : listMinSize size' rules = .returned k := by
  induction rules generalizing k with
  | nil => exact sum
  | cons rule rules ih =>
    obtain ⟨first, others⟩ := List.forall_mem_cons.mp agree
    obtain ⟨one, here, rest⟩ := Outcome.bind_eq_returned.mp sum
    obtain ⟨more, later, last⟩ := Outcome.bind_eq_returned.mp rest
    exact Outcome.bind_eq_returned.mpr
      ⟨one, first one here, Outcome.bind_eq_returned.mpr ⟨more, ih others later, last⟩⟩

def Measured (groups : List DiameterGroupedAvp) (fuel : Nat) (group : DiameterGroupedAvp) : Prop :=
  (∃ k, listMinSize (minSizeWithin groups fuel) group.dict.avpF = .returned k) ∧
    ∃ k, listMinSize (minSizeWithin groups fuel) group.dict.avpR = .returned k

theorem measured_iff {fuel : Nat} {group : DiameterGroupedAvp} :
    Measured groups fuel group ↔ ∀ rule ∈ group.members, ∃ k, minSizeWithin groups fuel rule.avp = .returned k := by
  rw [Measured, listMinSize_returned_iff, listMinSize_returned_iff, DiameterGroupedAvp.members,
    List.forall_mem_append]

theorem minSizeWithin_plain {fuel : Nat} {avp : DictionaryEntry} (plain : avp.avpType ≠ .grouped) {size : Nat}
    (known : avp.avpType.minSize = some size) :
    minSizeWithin groups (fuel + 1) avp = .returned ((size + wireHeaderLen avp) % 2 ^ 32) := by
  rw [minSizeWithin, known]
  simp only [plain, ↓reduceIte, Outcome.returned_bind, Outcome.pure_eq, wireHeaderLen]
  split <;> simp_all

theorem minSizeWithin_group {fuel : Nat} {avp : DictionaryEntry} {group : DiameterGroupedAvp} {fixed required : Nat}
    (grouped : avp.avpType = .grouped) (found : searchGroup groups avp = some group)
    (first : listMinSize (minSizeWithin groups fuel) group.dict.avpF = .returned fixed)
    (second : listMinSize (minSizeWithin groups fuel) group.dict.avpR = .returned required) :
    minSizeWithin groups (fuel + 1) avp = .returned ((required + wireHeaderLen avp) % 2 ^ 32) := by
  rw [minSizeWithin, grouped]
  simp only [AvpDataType.minSize, ↓reduceIte, found, first, second, Outcome.returned_bind, Outcome.pure_eq,
    wireHeaderLen]
  split <;> simp_all

theorem minSizeWithin_returned_iff {fuel : Nat} {avp : DictionaryEntry} :
    (∃ k, minSizeWithin groups (fuel + 1) avp = .returned k) ↔
      avp.avpType.minSize ≠ none ∧
        (avp.avpType = .grouped → ∃ group, searchGroup groups avp = some group ∧ Measured groups fuel group) := by
  constructor
  · rintro ⟨k, sized⟩
    rw [minSizeWithin] at sized
    cases known : avp.avpType.minSize with
    | none =>
      rw [known] at sized
      cases sized
    | some size =>
      refine ⟨Option.some_ne_none size, fun grouped => ?_⟩
      rw [known] at sized
      dsimp only at sized
      rw [if_pos grouped] at sized
      split at sized
      · cases sized
      case h_2 group found =>
        obtain ⟨fixed, first, rest⟩ := Outcome.bind_eq_returned.mp sized
        obtain ⟨required, second, -⟩ := Outcome.bind_eq_returned.mp rest
        exact ⟨group, found, ⟨fixed, first⟩, required, second⟩
  · rintro ⟨known, groups'⟩
    by_cases grouped : avp.avpType = .grouped
    · obtain ⟨group, found, ⟨fixed, first⟩, required, second⟩ := groups' grouped
      exact ⟨_, minSizeWithin_group grouped found first second⟩
    · obtain ⟨size, same⟩ := Option.ne_none_iff_exists'.mp known
      exact ⟨_, minSizeWithin_plain grouped same⟩

theorem minSizeWithin_succ {fuel : Nat} {avp : DictionaryEntry} {k : Nat}
    (sized : minSizeWithin groups fuel avp = .returned k) : minSizeWithin groups (fuel + 1) avp = .returned k := by
  induction fuel generalizing avp k with
  | zero => cases sized
  | succ fuel ih =>
    obtain ⟨known, nested⟩ := minSizeWithin_returned_iff.mp ⟨k, sized⟩
    by_cases grouped : avp.avpType = .grouped
    · obtain ⟨group, found, ⟨fixed, first⟩, required, second⟩ := nested grouped
      rw [minSizeWithin_group grouped found first second] at sized
      rw [← sized]
      exact minSizeWithin_group grouped found (listMinSize_congr (fun rule _ k => ih) first)
        (listMinSize_congr (fun rule _ k => ih) second)
    · obtain ⟨size, same⟩ := Option.ne_none_iff_exists'.mp known
      rw [minSizeWithin_plain grouped same] at sized
      rw [← sized]
      exact minSizeWithin_plain grouped same

theorem minSizeWithin_le {fuel more : Nat} (le : fuel ≤ more) {avp : DictionaryEntry} {k : Nat}
    (sized : minSizeWithin groups fuel avp = .returned k) : minSizeWithin groups more avp = .returned k := by
  induction more, le using Nat.le_induction with
  | base => exact sized
  | succ more _ ih => exact minSizeWithin_succ ih

theorem mem_of_searchGroup {avp : DictionaryEntry} {group : DiameterGroupedAvp}
    (found : searchGroup groups avp = some group) : group ∈ groups := List.mem_of_find?_eq_some found

theorem getMinSize_of_within {fuel : Nat} {avp : DictionaryEntry} {k : Nat}
    (sized : minSizeWithin groups fuel avp = .returned k) : getMinSize groups avp = .returned k := by
  cases fuel with
  | zero => cases sized
  | succ fuel =>
    have enough : ∃ k, getMinSize groups avp = .returned k := by
      obtain ⟨known, nested⟩ := minSizeWithin_returned_iff.mp ⟨k, sized⟩
      refine minSizeWithin_returned_iff.mpr ⟨known, fun grouped => ?_⟩
      obtain ⟨group, found, measured⟩ := nested grouped
      refine ⟨group, found, ?_⟩
      refine done_of_length ?_ ?_ (mem_of_searchGroup found) measured
      · intro n group _ measured
        rw [measured_iff] at measured ⊢
        intro rule member
        obtain ⟨k, one⟩ := measured rule member
        exact ⟨k, minSizeWithin_succ one⟩
      · intro n still group _ measured
        rw [measured_iff] at measured ⊢
        intro rule member
        obtain ⟨known, nested⟩ := minSizeWithin_returned_iff.mp (measured rule member)
        refine minSizeWithin_returned_iff.mpr ⟨known, fun grouped => ?_⟩
        obtain ⟨group', found', measured'⟩ := nested grouped
        exact ⟨group', found', still group' (mem_of_searchGroup found') measured'⟩
    obtain ⟨k', whole⟩ := enough
    have left := minSizeWithin_le (Nat.le_max_left (fuel + 1) (groups.length + 1)) sized
    have right := minSizeWithin_le (Nat.le_max_right (fuel + 1) (groups.length + 1)) whole
    rw [left] at right
    cases right
    exact whole

end MinSize

section Sums

variable {α : Type} {xs : List α} {f g : α → Nat}

theorem sum_map_le (le : ∀ x ∈ xs, f x ≤ g x) : (xs.map f).sum ≤ (xs.map g).sum := by
  induction xs with
  | nil => exact Nat.le_refl 0
  | cons x xs ih =>
    obtain ⟨first, others⟩ := List.forall_mem_cons.mp le
    have rest := ih others
    simp only [List.map_cons, List.sum_cons]
    omega

/-- A sum is as large as a bound for each part allows only if each part is. -/
theorem sum_map_eq_iff (le : ∀ x ∈ xs, f x ≤ g x) : (xs.map f).sum = (xs.map g).sum ↔ ∀ x ∈ xs, f x = g x := by
  induction xs with
  | nil => simp
  | cons x xs ih =>
    obtain ⟨first, others⟩ := List.forall_mem_cons.mp le
    have rest := sum_map_le others
    rw [List.forall_mem_cons, ← ih others]
    simp only [List.map_cons, List.sum_cons]
    omega

end Sums

section Measure

variable {groups : List DiameterGroupedAvp} {avp : DictionaryEntry} {n : Nat}

theorem Smallest.le (smallest : Smallest groups avp n) : 8 ≤ n := by
  have header : 8 ≤ wireHeaderLen avp := by
    unfold wireHeaderLen
    split <;> decide
  cases smallest with
  | plain plain known => omega
  | group sizes grouped found each => omega

theorem listMinSize_sum {size : DictionaryEntry → Parse Nat} {rules : List QualifiedAvp} {r : QualifiedAvp → Nat}
    (each : ∀ rule ∈ rules, size rule.avp = .returned (r rule % 2 ^ 32)) :
    listMinSize size rules = .returned ((rules.map fun rule => r rule * rule.min).sum % 2 ^ 32) := by
  induction rules with
  | nil => rfl
  | cons rule rules ih =>
    obtain ⟨first, others⟩ := List.forall_mem_cons.mp each
    rw [listMinSize, first, Outcome.returned_bind, ih others, Outcome.returned_bind, Outcome.pure_eq,
      List.map_cons, List.sum_cons, Nat.add_mod_mod, Nat.add_mod, Nat.mod_mul_mod, ← Nat.add_mod]

theorem Smallest.measured (smallest : Smallest groups avp n) :
    ∃ fuel r, minSizeWithin groups fuel avp = .returned (r % 2 ^ 32) ∧ r ≤ n ∧ (r = n ↔ RequiredOnly groups avp) := by
  induction smallest with
  | @plain avp size plain known =>
    refine ⟨1, size + wireHeaderLen avp, minSizeWithin_plain plain known, by omega, ?_⟩
    exact iff_of_true (Nat.add_comm _ _) (.plain plain)
  | @group avp group sizes grouped found each ih =>
    choose! fuels r sized le exact' using ih
    have common : ∀ rule ∈ group.members, minSizeWithin groups ((group.members.map fuels).sum) rule.avp =
        .returned (r rule % 2 ^ 32) := by
      intro rule member
      exact minSizeWithin_le (List.le_sum_of_mem (List.mem_map_of_mem member)) (sized rule member)
    have fixed : ∀ rule ∈ group.dict.avpF, rule ∈ group.members := fun rule => List.mem_append_left _
    have required : ∀ rule ∈ group.dict.avpR, rule ∈ group.members := fun rule => List.mem_append_right _
    have parts : (group.members.map fun rule => sizes rule * rule.min).sum =
        (group.dict.avpF.map fun rule => sizes rule * rule.min).sum +
          (group.dict.avpR.map fun rule => sizes rule * rule.min).sum := by
      rw [DiameterGroupedAvp.members, List.map_append, List.sum_append]
    have bound : ∀ rule ∈ group.dict.avpR, r rule * rule.min ≤ sizes rule * rule.min :=
      fun rule member => Nat.mul_le_mul_right _ (le rule (required rule member))
    have below := sum_map_le bound
    refine ⟨(group.members.map fuels).sum + 1,
      (group.dict.avpR.map fun rule => r rule * rule.min).sum + wireHeaderLen avp, ?_, by omega, ?_⟩
    · have first := listMinSize_sum fun rule member => common rule (fixed rule member)
      have second := listMinSize_sum fun rule member => common rule (required rule member)
      rw [minSizeWithin_group grouped found first second, Nat.mod_add_mod]
    -- The sum is exact if no fixed rule counts and every required one is exact.
    · have whole : (group.dict.avpR.map fun rule => r rule * rule.min).sum + wireHeaderLen avp =
          wireHeaderLen avp + (group.members.map fun rule => sizes rule * rule.min).sum ↔
          (∀ rule ∈ group.dict.avpF, rule.min = 0) ∧
            ∀ rule ∈ group.dict.avpR, rule.min ≠ 0 → RequiredOnly groups rule.avp := by
        have none : (group.dict.avpF.map fun rule => sizes rule * rule.min).sum = 0 ↔
            ∀ rule ∈ group.dict.avpF, rule.min = 0 := by
          rw [List.sum_eq_zero_iff, List.forall_mem_map]
          refine forall₂_congr fun rule member => ?_
          have positive := (each rule (fixed rule member)).le
          rw [Nat.mul_eq_zero]
          omega
        have same : (∀ rule ∈ group.dict.avpR, r rule * rule.min = sizes rule * rule.min) ↔
            ∀ rule ∈ group.dict.avpR, rule.min ≠ 0 → RequiredOnly groups rule.avp := by
          refine forall₂_congr fun rule member => ?_
          rw [← exact' rule (required rule member)]
          constructor
          · intro product nonzero
            exact Nat.eq_of_mul_eq_mul_right (Nat.pos_of_ne_zero nonzero) product
          · intro equal
            by_cases zero : rule.min = 0
            · rw [zero, Nat.mul_zero, Nat.mul_zero]
            · rw [equal zero]
        rw [← none, ← same, ← sum_map_eq_iff bound]
        omega
      rw [whole]
      constructor
      · rintro ⟨free, inner⟩
        exact .group grouped found free inner
      · intro only
        cases only with
        | plain plain => exact absurd grouped plain
        | group grouped' found' free inner =>
          cases found.symm.trans found'
          exact ⟨free, inner⟩

end Measure

section OffendingAvp

variable {groups : List DiameterGroupedAvp} {avp : DictionaryEntry} {n : Nat}

def ExampleOf (avp : DictionaryEntry) (n : Nat) (octets : Octets) : Prop :=
  ∃ h, create ⟨octets, octets.length, 0⟩ = .returned [h] ∧ h.code = avp.avpCode ∧ h.v = avp.vendorSpecific ∧
    h.vendor = avp.vendorId ∧ h.length = n ∧ octets.length = n

/-- The header that `DiameterErrorCode::set` writes: only the length is filled in. -/
def exampleHeader (length : Nat) : AvpHeader := ⟨0, false, false, false, length, 0, 0⟩

def exampleOctets (length : Nat) : Octets := (exampleHeader length).octets ++ List.replicate (length - 8) 0

theorem length_exampleOctets {length : Nat} (enough : 8 ≤ length) : (exampleOctets length).length = length := by
  rw [exampleOctets, List.length_append, AvpHeader.length_octets, List.length_replicate]
  exact Nat.add_sub_of_le enough

theorem failedAvp_eq {size : Nat} (measured : getMinSize groups avp = .returned size) (enough : 8 ≤ size % 2 ^ 24) :
    failedAvp groups avp = .returned (exampleOctets (size % 2 ^ 24)) := by
  have small : size % 2 ^ 24 < 2 ^ 24 := Nat.mod_lt _ (by decide)
  have header := headerLen_le avp
  have written : (splice (List.replicate (size % 2 ^ 24 + 4) 0) 0 (exampleHeader (size % 2 ^ 24)).octets).take
      (size % 2 ^ 24) = exampleOctets (size % 2 ^ 24) := by
    have length : (exampleHeader (size % 2 ^ 24)).octets.length = 8 := AvpHeader.length_octets _
    rw [splice, List.take_zero, List.nil_append, Nat.zero_add, length, List.drop_replicate, List.take_append, length,
      List.take_of_length_le (by omega), List.take_replicate, exampleOctets]
    congr 2
    omega
  unfold failedAvp writeAvpHeader
  rw [measured, Outcome.returned_bind]
  dsimp only
  rw [Buffer.remaining_eq (Nat.zero_le _) (by dsimp only; omega)]
  dsimp only
  rw [if_neg (by omega)]
  simp only [Buffer.write, AvpHeader.length_octets, List.length_replicate, Bool.false_eq_true, ↓reduceIte, Nat.zero_add]
  rw [if_pos (by omega)]
  exact congrArg Outcome.returned written

theorem length_failedAvp {size : Nat} (measured : getMinSize groups avp = .returned size) {octets : Octets}
    (stored : failedAvp groups avp = .returned octets) : octets.length = size % 2 ^ 24 := by
  unfold failedAvp at stored
  rw [measured, Outcome.returned_bind] at stored
  obtain ⟨after, wrote, last⟩ := Outcome.bind_eq_returned.mp stored
  cases last
  unfold writeAvpHeader at wrote
  split at wrote
  · cases wrote
  · obtain ⟨rfl, inside⟩ := Buffer.write_memory wrote
    dsimp only at inside ⊢
    rw [List.length_take, length_splice inside, List.length_replicate]
    omega

theorem create_exampleOctets {length : Nat} (enough : 8 ≤ length) (small : length < 2 ^ 24) :
    create ⟨exampleOctets length, (exampleOctets length).length, 0⟩ = .returned [exampleHeader length] := by
  have header : (exampleHeader length).octets.length = 8 := AvpHeader.length_octets _
  have front : readOctets (exampleOctets length) 0 8 = .returned (exampleHeader length).octets := by
    rw [readOctets, if_pos (by rw [length_exampleOctets enough]; exact enough), List.drop_zero, exampleOctets,
      List.take_left' header]
  have value : bigEndianValue ((exampleHeader length).octets.drop 5) = length := by
    have dropped : (exampleHeader length).octets.drop 5 = bigEndian 3 length := rfl
    rw [dropped, bigEndianValue_bigEndian_of_lt small]
  have flags : (exampleHeader length).octets.getD 4 0 = 0 := by simp [exampleHeader, AvpHeader.octets, bigEndian, flagOctet]
  have code : (exampleHeader length).octets.take 4 = [0, 0, 0, 0] := by simp [exampleHeader, AvpHeader.octets, bigEndian]
  rw [create, length_exampleOctets enough, createFrom_step _ (by dsimp only; omega)]
  have read : readAvpHeader ⟨exampleOctets length, length, 0⟩ 0 = .returned (exampleHeader length) := by
    simp only [readAvpHeader, front, value, flags, code]
    rw [if_neg (by omega)]
    rfl
  have advance := le_adjustWordBoundary small
  rw [read, Outcome.returned_bind, createFrom_end _ (by dsimp only [exampleHeader]; omega)]
  rfl

/-- The octets that `DiameterErrorCode::set` stores are an example of the offending AVP
only for an AVP without a code and a vendor, whose groups have no fixed members. -/
theorem failed_avp_iff (smallest : Smallest groups avp n) :
    (∃ octets, failedAvp groups avp = .returned octets ∧ ExampleOf avp n octets) ↔
      avp.avpCode = 0 ∧ avp.vendorId = 0 ∧ n < 2 ^ 24 ∧ RequiredOnly groups avp := by
  obtain ⟨fuel, r, within, le, exact'⟩ := smallest.measured
  have measured := getMinSize_of_within within
  have least := smallest.le
  constructor
  · rintro ⟨octets, stored, h, parsed, code, -, vendor, -, size⟩
    have length := length_failedAvp measured stored
    have small : n < 2 ^ 24 := by omega
    have exactly : r = n := by omega
    have same : r % 2 ^ 32 % 2 ^ 24 = n := by omega
    rw [failedAvp_eq measured (by rwa [same]), same] at stored
    cases stored
    rw [create_exampleOctets least small] at parsed
    cases parsed
    exact ⟨code.symm, vendor.symm, small, exact'.mp exactly⟩
  · rintro ⟨code, vendor, small, only⟩
    obtain rfl := exact'.mpr only
    have same : r % 2 ^ 32 % 2 ^ 24 = r := by omega
    have stored := failedAvp_eq measured (by rwa [same])
    rw [same] at stored
    refine ⟨exampleOctets r, stored, exampleHeader r, create_exampleOctets least small, code.symm, ?_, vendor.symm, rfl,
      length_exampleOctets least⟩
    rw [DictionaryEntry.vendorSpecific, avp.vendorFlag, vendor]
    rfl

end OffendingAvp

section Samples

def sampleEntry (avpCode : UInt32) (avpType : AvpDataType) : DictionaryEntry where
  avpName := "Sample"
  avpCode := avpCode
  avpType := avpType
  vendorId := 0
  flags := 0
  vendorFlag := by decide
  wildcardOnly := fun named => absurd named (by decide)

/-- A group without a code, in which two groups of one number and one number more are required. -/
def codelessGroups : List DiameterGroupedAvp :=
  [⟨0, 0, ⟨[⟨sampleEntry 2 .uinteger64, 0, 1⟩], [⟨sampleEntry 1 .grouped, 2, 2⟩, ⟨sampleEntry 3 .uinteger32, 1, 1⟩], []⟩⟩,
    ⟨1, 0, ⟨[], [⟨sampleEntry 3 .uinteger32, 1, 3⟩], []⟩⟩]

theorem failed_avp_codeless : ∃ octets, failedAvp codelessGroups (sampleEntry 0 .grouped) = .returned octets ∧
    ExampleOf (sampleEntry 0 .grouped) 60 octets := by
  have word : Smallest codelessGroups (sampleEntry 3 .uinteger32) 12 :=
    @Smallest.plain codelessGroups (sampleEntry 3 .uinteger32) 4 (by decide) rfl
  have long : Smallest codelessGroups (sampleEntry 2 .uinteger64) 16 :=
    @Smallest.plain codelessGroups (sampleEntry 2 .uinteger64) 8 (by decide) rfl
  have inner : Smallest codelessGroups (sampleEntry 1 .grouped) 20 := by
    refine @Smallest.group codelessGroups (sampleEntry 1 .grouped) _ (fun _ => 12) rfl rfl ?_
    intro rule member
    rw [List.mem_singleton.mp member]
    exact word
  have outer : Smallest codelessGroups (sampleEntry 0 .grouped) 60 := by
    let sizes (rule : QualifiedAvp) : Nat :=
      if rule.avp.avpCode = 1 then 20 else if rule.avp.avpCode = 2 then 16 else 12
    refine @Smallest.group codelessGroups (sampleEntry 0 .grouped) _ sizes rfl rfl ?_
    intro rule member
    rcases List.mem_cons.mp member with rfl | member
    · exact long
    · rcases List.mem_cons.mp member with rfl | member
      · exact inner
      · rw [List.mem_singleton.mp member]
        exact word
  refine (failed_avp_iff outer).mpr ⟨rfl, rfl, by decide, ?_⟩
  refine .group rfl rfl (by decide) ?_
  intro rule member positive
  rcases List.mem_cons.mp member with rfl | member
  · refine .group rfl rfl (by decide) ?_
    intro rule member positive
    rw [List.mem_singleton.mp member]
    exact .plain (by decide)
  · rw [List.mem_singleton.mp member]
    exact .plain (by decide)

/-- `Origin-Host`. -/
def originHostAvp : DictionaryEntry where
  avpName := "OriginHost"
  avpCode := 264
  avpType := .diamId
  vendorId := 0
  flags := flagMandatory
  vendorFlag := mandatory_unvendored
  wildcardOnly := by decide

/-- A group of the code 279 with one fixed `Origin-Host`. -/
def failedAvpGroup : DiameterGroupedAvp := ⟨279, 0, ⟨[⟨originHostAvp, 1, 1⟩], [], []⟩⟩

def failedAvpAvp : DictionaryEntry where
  avpName := "FailedAVP"
  avpCode := 279
  avpType := .grouped
  vendorId := 0
  flags := flagMandatory
  vendorFlag := mandatory_unvendored
  wildcardOnly := by decide

/-- What is stored for `Origin-Host` says that its code is 0, and what is stored for the
group has no room for the member. -/
theorem failed_avp_without_code :
    Smallest [failedAvpGroup] originHostAvp 8 ∧
      failedAvp [failedAvpGroup] originHostAvp = .returned [0, 0, 0, 0, 0, 0, 0, 8] ∧
      (¬ ∃ octets, failedAvp [failedAvpGroup] originHostAvp = .returned octets ∧ ExampleOf originHostAvp 8 octets) ∧
      Smallest [failedAvpGroup] failedAvpAvp 16 ∧
      failedAvp [failedAvpGroup] failedAvpAvp = .returned [0, 0, 0, 0, 0, 0, 0, 8] := by
  have host : Smallest [failedAvpGroup] originHostAvp 8 := @Smallest.plain _ originHostAvp 0 (by decide) rfl
  have stored : failedAvp [failedAvpGroup] originHostAvp = .returned [0, 0, 0, 0, 0, 0, 0, 8] := by decide +kernel
  refine ⟨host, stored, ?_, ?_, by decide +kernel⟩
  · rintro ⟨octets, same, h, parsed, code, -⟩
    rw [stored] at same
    cases same
    have cut : create ⟨[0, 0, 0, 0, 0, 0, 0, 8], 8, 0⟩ = .returned [exampleHeader 8] := by
      have octets : exampleOctets 8 = [0, 0, 0, 0, 0, 0, 0, 8] := by decide +kernel
      have whole := @create_exampleOctets 8 (by decide) (by decide)
      rwa [octets] at whole
    rw [show ([0, 0, 0, 0, 0, 0, 0, 8] : Octets).length = 8 from rfl, cut] at parsed
    cases parsed
    exact absurd code (by decide)
  · apply @Smallest.group _ failedAvpAvp failedAvpGroup (fun _ => 8) rfl rfl
    intro rule member
    cases List.mem_singleton.mp member
    exact host

end Samples

end OpenDiameter.Parser
