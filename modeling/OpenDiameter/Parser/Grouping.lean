import OpenDiameter.Parser.Boundary

/-! The payload parser without its fuel.

A grouped value lies strictly behind the header of its AVP, so the fuel that
`parseBounds` gives never runs out, and the parser satisfies the recursive
equation of the source.
-/

set_option autoImplicit false

namespace OpenDiameter.Parser

open Foundation

section Taking

variable {env : ParserEnv} {pt : AvpParseType} {avp : DictionaryEntry} {ahl : List AvpHeader}

theorem takeFirst_perm {α : Type} {test : α → Bool} {xs : List α} {taken : α × List α}
    (found : takeFirst test xs = some taken) : List.Perm xs (taken.1 :: taken.2) := by
  induction xs generalizing taken with
  | nil => cases found
  | cons x xs ih =>
    unfold takeFirst at found
    split at found
    · cases found
      exact List.Perm.refl _
    · obtain ⟨later, inRest, rfl⟩ := Option.map_eq_some_iff.mp found
      exact ((ih inRest).cons x).trans (List.Perm.swap _ _ _)

theorem takeFirst_test {α : Type} {test : α → Bool} {xs : List α} {taken : α × List α}
    (found : takeFirst test xs = some taken) : test taken.1 = true := by
  induction xs generalizing taken with
  | nil => cases found
  | cons x xs ih =>
    unfold takeFirst at found
    split at found
    case isTrue holds =>
      cases found
      exact holds
    · obtain ⟨later, inRest, rfl⟩ := Option.map_eq_some_iff.mp found
      exact @ih later inRest

theorem parseAvpHeader_perm {taken : AvpHeader × List AvpHeader}
    (parsed : parseAvpHeader env pt avp ahl = .returned taken) :
    List.Perm ahl (taken.1 :: taken.2) := by
  unfold parseAvpHeader at parsed
  split at parsed
  · exact absurd parsed raiseWith_ne_returned
  · split at parsed
    · split at parsed
      · cases parsed
      · split at parsed
        · cases parsed
          exact List.Perm.refl _
        · exact absurd parsed raiseWith_ne_returned
    · split at parsed
      case h_1 found =>
        cases parsed
        exact takeFirst_perm found
      · exact absurd parsed raiseWith_ne_returned

theorem parseAvpHeader_selects {taken : AvpHeader × List AvpHeader}
    (parsed : parseAvpHeader env pt avp ahl = .returned taken) :
    selects pt avp taken.1 = true := by
  unfold parseAvpHeader at parsed
  unfold selects
  split at parsed
  · exact absurd parsed raiseWith_ne_returned
  · split at parsed
    case isTrue fixed =>
      rw [if_pos fixed]
      split at parsed
      · cases parsed
      case isFalse code =>
        split at parsed
        case isTrue same =>
          cases parsed
          simp only [Bool.and_eq_true, bne_iff_ne, ne_eq, beq_iff_eq]
          exact ⟨code, same⟩
        · exact absurd parsed raiseWith_ne_returned
    case isFalse free =>
      rw [if_neg free]
      split at parsed
      case h_1 found =>
        cases parsed
        exact takeFirst_test found
      · exact absurd parsed raiseWith_ne_returned

end Taking

section Steps

variable {env : ParserEnv} {value : DictionaryEntry → MessageBlock → Parse AvpContainerEntry}
  {base : Octets} {pt : AvpParseType} {avp : DictionaryEntry} {ahl : List AvpHeader} {i : Nat}

theorem parseAvps_step :
    parseAvps env value base pt avp i ahl =
      match parseAvpHeader env pt avp ahl with
      | .returned (h, rest) =>
        match value avp (valueBlock base avp h) with
        | .returned e =>
          ((parseAvps env value base pt avp (i + 1) rest).1,
            (parseAvps env value base pt avp (i + 1) rest).2 >>= fun taken =>
              .returned ((h, e) :: taken))
        | .thrown st => (rest, .thrown st)
        | .escaped => (rest, .escaped)
        | .fault => (rest, .fault)
      | .thrown st =>
        (ahl, if 0 < i ∧ st.error = .normal .missingAvp then .returned [] else .thrown st)
      | .escaped => (ahl, .escaped)
      | .fault => (ahl, .fault) := by
  rw [parseAvps]
  split
  case h_1 h rest parsed =>
    cases decoded : value avp (valueBlock base avp h) <;> simp only [parsed, decoded]
  case h_2 st parsed => rw [parsed]
  case h_3 parsed => rw [parsed]
  case h_4 parsed => rw [parsed]

end Steps

section Congruence

variable {env : ParserEnv} {value other : DictionaryEntry → MessageBlock → Parse AvpContainerEntry}
  {base : Octets}

theorem parseAvps_subset (pt : AvpParseType) (avp : DictionaryEntry) (i : Nat)
    (ahl : List AvpHeader) : (parseAvps env value base pt avp i ahl).1 ⊆ ahl := by
  induction size : ahl.length using Nat.strong_induction_on generalizing ahl i with
  | _ size ih =>
    rw [parseAvps_step]
    cases parsed : parseAvpHeader env pt avp ahl with
    | returned taken =>
      obtain ⟨h, rest⟩ := taken
      have shorter := parseAvpHeader_length env parsed
      have kept : rest ⊆ ahl := fun x member =>
        (parseAvpHeader_perm parsed).mem_iff.mpr (List.mem_cons_of_mem _ member)
      dsimp only at shorter ⊢
      cases value avp (valueBlock base avp h) with
      | returned e => exact List.Subset.trans (ih rest.length (by omega) (i + 1) rest rfl) kept
      | thrown st => exact kept
      | escaped => exact kept
      | fault => exact kept
    | thrown st => exact List.Subset.refl _
    | escaped => exact List.Subset.refl _
    | fault => exact List.Subset.refl _

theorem parseAvps_congr (pt : AvpParseType) (avp : DictionaryEntry) (i : Nat) (ahl : List AvpHeader)
    (same : ∀ h ∈ ahl, value avp (valueBlock base avp h) = other avp (valueBlock base avp h)) :
    parseAvps env value base pt avp i ahl = parseAvps env other base pt avp i ahl := by
  induction size : ahl.length using Nat.strong_induction_on generalizing ahl i with
  | _ size ih =>
    rw [parseAvps_step, parseAvps_step]
    cases parsed : parseAvpHeader env pt avp ahl with
    | returned taken =>
      obtain ⟨h, rest⟩ := taken
      have shorter := parseAvpHeader_length env parsed
      have whole := parseAvpHeader_perm parsed
      dsimp only at shorter whole ⊢
      rw [same h (whole.mem_iff.mpr List.mem_cons_self),
        ih rest.length (by omega) (i + 1) rest
          (fun x member => same x (whole.mem_iff.mpr (List.mem_cons_of_mem _ member))) rfl]
    | thrown st => rfl
    | escaped => rfl
    | fault => rfl

theorem parseRules_congr (rules : List (AvpParseType × QualifiedAvp)) (ahl : List AvpHeader)
    (same : ∀ rule ∈ rules, ∀ h ∈ ahl, value rule.2.avp (valueBlock base rule.2.avp h) =
      other rule.2.avp (valueBlock base rule.2.avp h)) :
    parseRules env value base rules ahl = parseRules env other base rules ahl := by
  induction rules generalizing ahl with
  | nil => rfl
  | cons rule rules ih =>
    obtain ⟨pt, qavp⟩ := rule
    have first := @parseAvps_congr env value other base pt qavp.avp 0 ahl (same _ List.mem_cons_self)
    have subset := @parseAvps_subset env other base pt qavp.avp 0 ahl
    have rest := ih (parseAvps env other base pt qavp.avp 0 ahl).1
      fun rule member h inLeft => same rule (List.mem_cons_of_mem _ member) h (subset inLeft)
    unfold parseRules
    rw [first]
    generalize parseAvps env other base pt qavp.avp 0 ahl = result at rest
    obtain ⟨left, outcome⟩ := result
    cases outcome with
    | returned avps => simp only [rest]
    | thrown st => simp only [rest]
    | escaped => rfl
    | fault => rfl

end Congruence

section Unfolding

variable {env : ParserEnv}

theorem headerLen_of_grouped {avp : DictionaryEntry} (grouped : avp.avpType = .grouped) :
    8 ≤ avp.headerLen :=
  le_headerLen (strict_of_type grouped (by decide))

theorem parseValue_congr {group other : MessageBlock → DiameterDictionary → Parse AvpContainerList}
    {avp : DictionaryEntry} {block : MessageBlock}
    (same : avp.avpType = .grouped → ∀ dict, group block dict = other block dict) :
    parseValue env group avp block = parseValue env other avp block := by
  unfold parseValue
  cases kind : avp.avpType with
  | grouped =>
    dsimp only
    cases searchGroup env.groupedAvpList avp with
    | none => rfl
    | some gavp =>
      dsimp only
      rw [same kind]
  | _ => rfl

theorem base_length_of_mem {block : MessageBlock} {ahl : List AvpHeader}
    (made : create block = .returned ahl) {h : AvpHeader} (member : h ∈ ahl) :
    8 ≤ block.base.length := by
  obtain ⟨place, start, inside, -, -⟩ := createFrom_starts .first made member
  obtain ⟨tail, later, -⟩ := create_member made start
  have enough := (createFrom_returned inside later).2.1
  omega

theorem valueBlock_shorter {block : MessageBlock} {ahl : List AvpHeader}
    (made : create block = .returned ahl) {h : AvpHeader} (member : h ∈ ahl) {avp : DictionaryEntry}
    (grouped : avp.avpType = .grouped) :
    (valueBlock block.base avp h).base.length < block.base.length := by
  have octets := base_length_of_mem made member
  have header := headerLen_of_grouped grouped
  simp only [valueBlock, List.length_drop]
  omega

/-- More fuel than the memory has octets changes nothing. -/
theorem parseWithin_fuel (block : MessageBlock) (dict : DiameterDictionary) {fuel : Nat}
    (enough : block.base.length < fuel) :
    parseWithin env fuel block dict = parseBounds env block dict := by
  induction size : block.base.length using Nat.strong_induction_on generalizing block dict fuel with
  | _ size ih =>
    subst size
    obtain ⟨fuel, rfl⟩ : ∃ less, fuel = less + 1 := ⟨fuel - 1, by omega⟩
    unfold parseBounds parseWithin
    cases made : create block with
    | returned ahl =>
      simp only [Outcome.returned_bind]
      apply parseRules_congr
      intro rule _ h member
      apply parseValue_congr
      intro grouped dict
      have shorter := valueBlock_shorter made member grouped
      rw [ih _ shorter _ dict (by omega) rfl, ih _ shorter _ dict shorter rfl]
    | thrown st => rfl
    | escaped => rfl
    | fault => rfl

def parseAvpValue (env : ParserEnv) : DictionaryEntry → MessageBlock → Parse AvpContainerEntry :=
  parseValue env (parseRawToAppWithDict env)

theorem parseBounds_eq (block : MessageBlock) (dict : DiameterDictionary) :
    parseBounds env block dict = (create block >>= fun ahl =>
      parseRules env (parseAvpValue env) block.base dict.rules ahl) := by
  rw [← parseWithin_fuel block dict (Nat.lt_succ_of_lt (Nat.lt_succ_self _)), parseWithin]
  cases made : create block with
  | returned ahl =>
    simp only [Outcome.returned_bind]
    apply parseRules_congr
    intro rule _ h member
    apply parseValue_congr
    intro grouped dict
    have shorter := valueBlock_shorter made member grouped
    rw [parseWithin_fuel _ dict (Nat.lt_succ_of_lt shorter), parseRawToAppWithDict]
  | thrown st => simp only [Outcome.thrown_bind]
  | escaped => simp only [Outcome.escaped_bind]
  | fault => simp only [Outcome.fault_bind]

end Unfolding

end OpenDiameter.Parser
