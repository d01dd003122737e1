import OpenDiameter.Parser.Locality

/-! Which AVPs the rules of a dictionary take.

A fixed rule takes the AVPs with its code from the front of the header list, a
required or optional rule all AVPs that match. Either stops at an AVP whose value
is not decoded: a rule that tolerates absence then goes on without a container when
what was missing is a member, and what it took is gone.
-/

set_option autoImplicit false

namespace OpenDiameter.Parser

open Foundation

section Runs

/-- What a rule takes out of the header list. `stopped` is the AVP at which it
stopped, the last of those that it took. -/
structure Run where
  taken : List AvpHeader
  stopped : Option AvpHeader
  rest : List AvpHeader
  deriving DecidableEq, Repr

variable (stops test : AvpHeader → Bool)

def frontRun : List AvpHeader → Run
  | [] => ⟨[], none, []⟩
  | h :: hs =>
    if test h then
      if stops h then ⟨[h], some h, hs⟩
      else
        let run := frontRun hs
        ⟨h :: run.taken, run.stopped, run.rest⟩
    else ⟨[], none, h :: hs⟩

def freeRun : List AvpHeader → Run
  | [] => ⟨[], none, []⟩
  | h :: hs =>
    if test h then
      if stops h then ⟨[h], some h, hs⟩
      else
        let run := freeRun hs
        ⟨h :: run.taken, run.stopped, run.rest⟩
    else
      let run := freeRun hs
      ⟨run.taken, run.stopped, h :: run.rest⟩

def ruleRun (pt : AvpParseType) (avp : DictionaryEntry) (ahl : List AvpHeader) : Run :=
  if pt = .fixedHead then frontRun stops (selects pt avp) ahl else freeRun stops (selects pt avp) ahl

variable {stops test} {ahl rest : List AvpHeader} {h : AvpHeader}

theorem frontRun_append : (frontRun stops test ahl).taken ++ (frontRun stops test ahl).rest = ahl := by
  induction ahl with
  | nil => rfl
  | cons h hs ih =>
    unfold frontRun
    split
    · split
      · rfl
      · exact congrArg (h :: ·) ih
    · rfl

theorem frontRun_stopped (stopped : (frontRun stops test ahl).stopped.isSome = true) :
    (frontRun stops test ahl).taken ≠ [] := by
  cases ahl with
  | nil => cases stopped
  | cons h hs =>
    unfold frontRun at stopped ⊢
    split at stopped
    case isTrue same =>
      rw [if_pos same]
      split <;> exact List.cons_ne_nil _ _
    case isFalse other => cases stopped

theorem freeRun_found (found : takeFirst test ahl = some (h, rest)) :
    freeRun stops test ahl = if stops h then ⟨[h], some h, rest⟩
      else ⟨h :: (freeRun stops test rest).taken, (freeRun stops test rest).stopped, (freeRun stops test rest).rest⟩ := by
  induction ahl generalizing rest with
  | nil => cases found
  | cons x xs ih =>
    unfold takeFirst at found
    split at found
    case isTrue holds =>
      cases found
      rw [freeRun, if_pos holds]
    case isFalse fails =>
      obtain ⟨⟨y, ys⟩, later, same⟩ := Option.map_eq_some_iff.mp found
      cases same
      rw [freeRun, if_neg fails, ih later, freeRun, if_neg fails]
      split <;> rfl

theorem freeRun_none (none : takeFirst test ahl = none) : freeRun stops test ahl = ⟨[], .none, ahl⟩ := by
  induction ahl with
  | nil => rfl
  | cons x xs ih =>
    unfold takeFirst at none
    split at none
    · cases none
    case isFalse fails => rw [freeRun, if_neg fails, ih (Option.map_eq_none_iff.mp none)]

structure FixedStep where
  rule : QualifiedAvp
  run : Run
  deriving DecidableEq, Repr

def FixedStep.taken (step : FixedStep) : List AvpHeader := step.run.taken

def FixedStep.dropped (step : FixedStep) : Bool := step.run.stopped.isSome

/-- The rule gets a container with the AVPs that it took. -/
def FixedStep.kept (step : FixedStep) : Bool := !step.dropped && !step.taken.isEmpty

def fixedSteps (lacks : DictionaryEntry → AvpHeader → Bool) :
    List QualifiedAvp → List AvpHeader → List FixedStep × List AvpHeader
  | [], ahl => ([], ahl)
  | rule :: rules, ahl =>
    let run := ruleRun (lacks rule.avp) .fixedHead rule.avp ahl
    let later := fixedSteps lacks rules run.rest
    (⟨rule, run⟩ :: later.1, later.2)

variable {lacks : DictionaryEntry → AvpHeader → Bool} {rules : List QualifiedAvp}

theorem fixedSteps_append :
    (fixedSteps lacks rules ahl).1.flatMap FixedStep.taken ++ (fixedSteps lacks rules ahl).2 = ahl := by
  induction rules generalizing ahl with
  | nil => rfl
  | cons rule rules ih =>
    unfold fixedSteps
    dsimp only
    rw [List.flatMap_cons, List.append_assoc, ih, FixedStep.taken, ruleRun, if_pos rfl, frontRun_append]

theorem fixedSteps_dropped {step : FixedStep} (member : step ∈ (fixedSteps lacks rules ahl).1)
    (dropped : step.dropped = true) : step.taken ≠ [] := by
  induction rules generalizing ahl with
  | nil => cases member
  | cons rule rules ih =>
    unfold fixedSteps at member
    rcases List.mem_cons.mp member with rfl | later
    · rw [FixedStep.dropped, ruleRun, if_pos rfl] at dropped
      rw [FixedStep.taken, ruleRun, if_pos rfl]
      exact frontRun_stopped dropped
    · exact ih later

end Runs

section Search

variable {env : ParserEnv} {pt : AvpParseType} {avp : DictionaryEntry} {ahl : List AvpHeader}

theorem parseAvpHeader_missing {st : DiameterErrorCode}
    (failed : parseAvpHeader env pt avp ahl = .thrown st) (missing : st.error = .normal .missingAvp) :
    ∀ h rest, ahl = h :: rest →
      (pt = .fixedHead → h.code ≠ avp.avpCode) ∧
        (pt ≠ .fixedHead → takeFirst avp.matches ahl = none) := by
  rintro h rest rfl
  unfold parseAvpHeader at failed
  dsimp only at failed
  constructor
  · intro fixed
    rw [if_pos fixed] at failed
    split at failed
    · cases failed
      cases missing
    · split at failed
      · cases failed
      case isFalse other => exact other
  · intro free
    rw [if_neg free] at failed
    split at failed
    · cases failed
    case h_2 none => exact none

theorem parseAvpHeader_front {taken : AvpHeader × List AvpHeader}
    (parsed : parseAvpHeader env .fixedHead avp ahl = .returned taken) :
    ahl = taken.1 :: taken.2 ∧ taken.1.code = avp.avpCode := by
  unfold parseAvpHeader at parsed
  split at parsed
  · exact absurd parsed raiseWith_ne_returned
  · rw [if_pos rfl] at parsed
    split at parsed
    · cases parsed
    · split at parsed
      case isTrue same =>
        cases parsed
        exact ⟨rfl, same⟩
      · exact absurd parsed raiseWith_ne_returned

theorem parseAvpHeader_free (free : pt ≠ .fixedHead) {taken : AvpHeader × List AvpHeader}
    (parsed : parseAvpHeader env pt avp ahl = .returned taken) :
    takeFirst avp.matches ahl = some taken := by
  unfold parseAvpHeader at parsed
  split at parsed
  · exact absurd parsed raiseWith_ne_returned
  · rw [if_neg free] at parsed
    split at parsed
    case h_1 found =>
      cases parsed
      exact found
    · exact absurd parsed raiseWith_ne_returned

theorem takeFirst_sublist {α : Type} {test : α → Bool} {xs : List α} {taken : α × List α}
    (found : takeFirst test xs = some taken) : taken.2.Sublist xs := by
  induction xs generalizing taken with
  | nil => cases found
  | cons x xs ih =>
    unfold takeFirst at found
    split at found
    · cases found
      exact List.sublist_cons_self _ _
    · obtain ⟨later, inRest, rfl⟩ := Option.map_eq_some_iff.mp found
      exact (ih inRest).cons_cons x

theorem takeFirst_filter {α : Type} {test : α → Bool} {xs : List α} {taken : α × List α}
    (found : takeFirst test xs = some taken) :
    xs.filter test = taken.1 :: taken.2.filter test ∧
      xs.filter (fun x => !test x) = taken.2.filter (fun x => !test x) := by
  induction xs generalizing taken with
  | nil => cases found
  | cons x xs ih =>
    unfold takeFirst at found
    split at found
    case isTrue holds =>
      cases found
      simp [holds]
    case isFalse fails =>
      obtain ⟨later, inRest, rfl⟩ := Option.map_eq_some_iff.mp found
      obtain ⟨kept, others⟩ := ih inRest
      simp [fails, kept, others]

theorem takeFirst_none {α : Type} {test : α → Bool} {xs : List α} (none : takeFirst test xs = none) :
    xs.filter test = [] := by
  induction xs with
  | nil => rfl
  | cons x xs ih =>
    unfold takeFirst at none
    split at none
    · cases none
    case isFalse fails =>
      simp only [fails, Bool.false_eq_true, not_false_eq_true, List.filter_cons_of_neg]
      exact ih (Option.map_eq_none_iff.mp none)

theorem parseAvpHeader_sublist {taken : AvpHeader × List AvpHeader}
    (parsed : parseAvpHeader env pt avp ahl = .returned taken) : taken.2.Sublist ahl := by
  by_cases fixed : pt = .fixedHead
  · subst fixed
    rw [(parseAvpHeader_front parsed).1]
    exact List.sublist_cons_self _ _
  · exact takeFirst_sublist (parseAvpHeader_free fixed parsed)

theorem ruleRun_found {stops : AvpHeader → Bool} {h : AvpHeader} {rest : List AvpHeader}
    (parsed : parseAvpHeader env pt avp ahl = .returned (h, rest)) :
    ruleRun stops pt avp ahl = if stops h then ⟨[h], some h, rest⟩
      else ⟨h :: (ruleRun stops pt avp rest).taken, (ruleRun stops pt avp rest).stopped,
        (ruleRun stops pt avp rest).rest⟩ := by
  unfold ruleRun
  by_cases fixed : pt = .fixedHead
  · subst fixed
    have selected := parseAvpHeader_selects parsed
    rw [(parseAvpHeader_front parsed).1, if_pos rfl, if_pos rfl, frontRun, if_pos selected]
  · have test : selects pt avp = avp.matches := by
      funext h
      rw [selects, if_neg fixed]
    rw [if_neg fixed, if_neg fixed, test]
    exact freeRun_found (parseAvpHeader_free fixed parsed)

theorem ruleRun_none {stops : AvpHeader → Bool}
    (none : ∀ taken, parseAvpHeader env pt avp ahl ≠ .returned taken) : ruleRun stops pt avp ahl = ⟨[], .none, ahl⟩ := by
  unfold ruleRun
  by_cases fixed : pt = .fixedHead
  · subst fixed
    rw [if_pos rfl]
    cases ahl with
    | nil => rfl
    | cons h hs =>
      rw [frontRun, if_neg]
      intro selected
      rw [selects, if_pos rfl, Bool.and_eq_true, bne_iff_ne, beq_iff_eq] at selected
      exact none (h, hs) (by rw [parseAvpHeader, if_pos rfl, if_neg selected.1, if_pos selected.2])
  · have test : selects pt avp = avp.matches := by
      funext h
      rw [selects, if_neg fixed]
    rw [if_neg fixed, test]
    cases ahl with
    | nil => rfl
    | cons h hs =>
      apply freeRun_none
      cases found : takeFirst avp.matches (h :: hs) with
      | none => rfl
      | some taken => exact absurd (by rw [parseAvpHeader, if_neg fixed, found]) (none taken)

end Search

section Loops

variable {env : ParserEnv} {value : DictionaryEntry → MessageBlock → Parse AvpContainerEntry}
  {base : Octets} {pt : AvpParseType} {avp : DictionaryEntry} {i : Nat} {ahl : List AvpHeader}

theorem parseAvps_sublist : (parseAvps env value base pt avp i ahl).1.Sublist ahl := by
  induction size : ahl.length using Nat.strong_induction_on generalizing ahl i with
  | _ size ih =>
    rw [parseAvps_step]
    cases parsed : parseAvpHeader env pt avp ahl with
    | returned taken =>
      obtain ⟨h, rest⟩ := taken
      have shorter := parseAvpHeader_length env parsed
      have kept := parseAvpHeader_sublist parsed
      dsimp only at shorter kept ⊢
      cases value avp (valueBlock base avp h) with
      | returned e => exact (ih rest.length (by omega) rfl).trans kept
      | thrown st => exact kept
      | escaped => exact kept
      | fault => exact kept
    | thrown st => exact List.Sublist.refl _
    | escaped => exact List.Sublist.refl _
    | fault => exact List.Sublist.refl _

theorem parseAvps_returned {avps : List (AvpHeader × AvpContainerEntry)}
    (parsed : (parseAvps env value base pt avp i ahl).2 = .returned avps) :
    (∃ h rest e more, parseAvpHeader env pt avp ahl = .returned (h, rest) ∧
        value avp (valueBlock base avp h) = .returned e ∧ avps = (h, e) :: more ∧
        (parseAvps env value base pt avp (i + 1) rest).2 = .returned more ∧
        (parseAvps env value base pt avp i ahl).1 =
          (parseAvps env value base pt avp (i + 1) rest).1) ∨
      ∃ st, parseAvpHeader env pt avp ahl = .thrown st ∧ st.error = .normal .missingAvp ∧ 0 < i ∧
        avps = [] ∧ (parseAvps env value base pt avp i ahl).1 = ahl := by
  rw [parseAvps_step] at parsed ⊢
  cases searched : parseAvpHeader env pt avp ahl with
  | returned taken =>
    obtain ⟨h, rest⟩ := taken
    rw [searched] at parsed
    dsimp only at parsed ⊢
    cases decoded : value avp (valueBlock base avp h) with
    | returned e =>
      rw [decoded] at parsed
      obtain ⟨more, later, same⟩ := Outcome.bind_eq_returned.mp parsed
      cases same
      exact .inl ⟨h, rest, e, more, rfl, decoded, rfl, later, rfl⟩
    | thrown st => rw [decoded] at parsed; cases parsed
    | escaped => rw [decoded] at parsed; cases parsed
    | fault => rw [decoded] at parsed; cases parsed
  | thrown st =>
    rw [searched] at parsed
    dsimp only at parsed ⊢
    split at parsed
    case isTrue missing =>
      cases parsed
      exact .inr ⟨st, rfl, missing.2, missing.1, rfl, rfl⟩
    · cases parsed
  | escaped => rw [searched] at parsed; cases parsed
  | fault => rw [searched] at parsed; cases parsed

theorem parseAvps_missing {st : DiameterErrorCode}
    (failed : (parseAvps env value base pt avp i ahl).2 = .thrown st)
    (missing : st.error = .normal .missingAvp) :
    (∃ h rest, parseAvpHeader env pt avp ahl = .returned (h, rest) ∧
        value avp (valueBlock base avp h) = .thrown st ∧ (parseAvps env value base pt avp i ahl).1 = rest) ∨
      (∃ h rest e, parseAvpHeader env pt avp ahl = .returned (h, rest) ∧
        value avp (valueBlock base avp h) = .returned e ∧
        (parseAvps env value base pt avp (i + 1) rest).2 = .thrown st ∧
        (parseAvps env value base pt avp i ahl).1 =
          (parseAvps env value base pt avp (i + 1) rest).1) ∨
      parseAvpHeader env pt avp ahl = .thrown st ∧ i = 0 ∧
        (parseAvps env value base pt avp i ahl).1 = ahl := by
  rw [parseAvps_step] at failed ⊢
  cases searched : parseAvpHeader env pt avp ahl with
  | returned taken =>
    obtain ⟨h, rest⟩ := taken
    rw [searched] at failed
    dsimp only at failed ⊢
    cases decoded : value avp (valueBlock base avp h) with
    | returned e =>
      right
      left
      rw [decoded] at failed
      dsimp only at failed
      refine ⟨h, rest, e, rfl, decoded, ?_, rfl⟩
      cases later : (parseAvps env value base pt avp (i + 1) rest).2 with
      | returned more => rw [later] at failed; cases failed
      | thrown st' => rw [later] at failed; exact failed
      | escaped => rw [later] at failed; cases failed
      | fault => rw [later] at failed; cases failed
    | thrown st' =>
      left
      rw [decoded] at failed
      cases failed
      exact ⟨h, rest, rfl, decoded, rfl⟩
    | escaped => rw [decoded] at failed; cases failed
    | fault => rw [decoded] at failed; cases failed
  | thrown st' =>
    right
    right
    rw [searched] at failed
    dsimp only at failed ⊢
    split at failed
    · cases failed
    case isFalse fresh =>
      cases failed
      refine ⟨rfl, ?_, rfl⟩
      by_contra later
      exact fresh ⟨Nat.pos_of_ne_zero later, missing⟩
  | escaped => rw [searched] at failed; cases failed
  | fault => rw [searched] at failed; cases failed

theorem parseAvps_entries {avps : List (AvpHeader × AvpContainerEntry)}
    (parsed : (parseAvps env value base pt avp i ahl).2 = .returned avps) :
    ∀ taken ∈ avps, taken.1 ∈ ahl ∧ selects pt avp taken.1 = true ∧
      value avp (valueBlock base avp taken.1) = .returned taken.2 := by
  induction avps generalizing ahl i with
  | nil => exact fun taken member => nomatch member
  | cons first avps ih =>
    rcases parseAvps_returned parsed with
      ⟨h, rest, e, more, searched, decoded, same, later, -⟩ | ⟨st, -, -, -, same, -⟩
    · cases same
      intro taken member
      rcases List.mem_cons.mp member with rfl | inMore
      · exact ⟨(parseAvpHeader_perm searched).mem_iff.mpr List.mem_cons_self,
          parseAvpHeader_selects searched, decoded⟩
      · obtain ⟨inRest, selected, value⟩ := ih later taken inMore
        exact ⟨(parseAvpHeader_sublist searched).subset inRest, selected, value⟩
    · cases same

theorem parseAvps_perm {avps : List (AvpHeader × AvpContainerEntry)}
    (parsed : (parseAvps env value base pt avp i ahl).2 = .returned avps) :
    List.Perm ahl (avps.map Prod.fst ++ (parseAvps env value base pt avp i ahl).1) := by
  induction avps generalizing ahl i with
  | nil =>
    rcases parseAvps_returned parsed with
      ⟨h, rest, e, more, -, -, same, -⟩ | ⟨st, -, -, -, -, kept⟩
    · cases same
    · rw [kept]
      exact List.Perm.refl _
  | cons first avps ih =>
    rcases parseAvps_returned parsed with
      ⟨h, rest, e, more, searched, -, same, later, kept⟩ | ⟨st, -, -, -, same, -⟩
    · cases same
      rw [kept]
      exact (parseAvpHeader_perm searched).trans ((ih later).cons h)
    · cases same

/-- `lacks` tells the AVPs whose value misses a member from those that are decoded. -/
structure Tells (value : DictionaryEntry → MessageBlock → Parse AvpContainerEntry) (base : Octets)
    (avp : DictionaryEntry) (lacks : AvpHeader → Bool) : Prop where
  decoded : ∀ h e, value avp (valueBlock base avp h) = .returned e → lacks h = false
  missing : ∀ h st, value avp (valueBlock base avp h) = .thrown st → st.error = .normal .missingAvp → lacks h = true

variable {lacks : AvpHeader → Bool}

theorem parseAvps_run_returned (tells : Tells value base avp lacks) {avps : List (AvpHeader × AvpContainerEntry)}
    (parsed : (parseAvps env value base pt avp i ahl).2 = .returned avps) :
    ruleRun lacks pt avp ahl = ⟨avps.map Prod.fst, none, (parseAvps env value base pt avp i ahl).1⟩ := by
  induction avps generalizing ahl i with
  | nil =>
    rcases parseAvps_returned parsed with
      ⟨h, rest, e, more, -, -, same, -⟩ | ⟨st, searched, -, -, -, kept⟩
    · cases same
    · rw [kept]
      exact @ruleRun_none env _ _ _ _ fun taken found => by
        rw [searched] at found
        cases found
  | cons first avps ih =>
    rcases parseAvps_returned parsed with
      ⟨h, rest, e, more, searched, decoded, same, later, kept⟩ | ⟨st, -, -, -, same, -⟩
    · cases same
      rw [kept, ruleRun_found searched, tells.decoded h e decoded, if_neg Bool.false_ne_true, ih later]
      rfl
    · cases same

theorem parseAvps_run_missing (tells : Tells value base avp lacks) {st : DiameterErrorCode}
    (failed : (parseAvps env value base pt avp i ahl).2 = .thrown st) (missing : st.error = .normal .missingAvp) :
    (ruleRun lacks pt avp ahl).rest = (parseAvps env value base pt avp i ahl).1 ∧
      ((ruleRun lacks pt avp ahl).stopped.isSome = true ∨ i = 0 ∧ ruleRun lacks pt avp ahl = ⟨[], none, ahl⟩) := by
  induction size : ahl.length using Nat.strong_induction_on generalizing ahl i with
  | _ size ih =>
    -- The value lacks a member, a later turn throws, or nothing was found at all.
    rcases parseAvps_missing failed missing with
      ⟨h, rest, searched, lacking, kept⟩ | ⟨h, rest, e, searched, decoded, later, kept⟩ | ⟨searched, first, kept⟩
    · rw [kept, ruleRun_found searched, tells.missing h st lacking missing, if_pos rfl]
      exact ⟨rfl, .inl rfl⟩
    · have shorter := parseAvpHeader_length env searched
      obtain ⟨left, ended⟩ := ih rest.length (by simp only at shorter; omega) later rfl
      rw [kept, ruleRun_found searched, tells.decoded h e decoded, if_neg Bool.false_ne_true]
      refine ⟨left, .inl ?_⟩
      rcases ended with stopped | ⟨impossible, -⟩
      · exact stopped
      · exact absurd impossible (Nat.succ_ne_zero i)
    · rw [kept, @ruleRun_none env _ _ _ _ fun taken found => by rw [searched] at found; cases found]
      exact ⟨rfl, .inr ⟨first, rfl⟩⟩

theorem parseAvps_free_returned (free : pt ≠ .fixedHead)
    {avps : List (AvpHeader × AvpContainerEntry)}
    (parsed : (parseAvps env value base pt avp i ahl).2 = .returned avps) :
    avps.map Prod.fst = ahl.filter avp.matches ∧
      (parseAvps env value base pt avp i ahl).1.filter (fun h => !avp.matches h) =
        ahl.filter (fun h => !avp.matches h) ∧
      (parseAvps env value base pt avp i ahl).1.filter avp.matches = [] := by
  induction avps generalizing ahl i with
  | nil =>
    rcases parseAvps_returned parsed with
      ⟨h, rest, e, more, -, -, same, -⟩ | ⟨st, searched, missing, -, -, kept⟩
    · cases same
    · rw [kept]
      have none : ahl.filter avp.matches = [] := by
        cases ahl with
        | nil => rfl
        | cons h hs => exact takeFirst_none ((parseAvpHeader_missing searched missing h hs rfl).2 free)
      exact ⟨none.symm, rfl, none⟩
  | cons first avps ih =>
    rcases parseAvps_returned parsed with
      ⟨h, rest, e, more, searched, decoded, same, later, kept⟩ | ⟨st, -, -, -, same, -⟩
    · cases same
      obtain ⟨matching, others⟩ := takeFirst_filter (parseAvpHeader_free free searched)
      obtain ⟨taken, left, done⟩ := ih later
      rw [kept, matching, others]
      exact ⟨congrArg (h :: ·) taken, left, done⟩
    · cases same

theorem parseAvps_free_missing (free : pt ≠ .fixedHead) (distinct : ahl.Nodup) {st : DiameterErrorCode}
    (failed : (parseAvps env value base pt avp i ahl).2 = .thrown st)
    (missing : st.error = .normal .missingAvp) :
    (∃ h ∈ ahl, avp.matches h = true ∧ value avp (valueBlock base avp h) = .thrown st ∧
        h ∉ (parseAvps env value base pt avp i ahl).1) ∨
      i = 0 ∧ ahl.filter avp.matches = [] ∧ (parseAvps env value base pt avp i ahl).1 = ahl := by
  induction size : ahl.length using Nat.strong_induction_on generalizing ahl i with
  | _ size ih =>
    rcases parseAvps_missing failed missing with
      ⟨h, rest, searched, lacking, kept⟩ | ⟨h, rest, e, searched, -, later, kept⟩ |
      ⟨searched, first, kept⟩
    · left
      have perm := parseAvpHeader_perm searched
      have found := takeFirst_test (parseAvpHeader_free free searched)
      refine ⟨h, perm.mem_iff.mpr List.mem_cons_self, found, lacking, ?_⟩
      rw [kept]
      exact (List.nodup_cons.mp (perm.nodup_iff.mp distinct)).1
    · left
      have perm := parseAvpHeader_perm searched
      have shorter := parseAvpHeader_length env searched
      have inner := (List.nodup_cons.mp (perm.nodup_iff.mp distinct)).2
      rw [kept]
      rcases ih rest.length (by simp only at shorter; omega) inner later rfl with
        ⟨h', member, found, lacking, gone⟩ | ⟨impossible, -⟩
      · exact ⟨h', perm.mem_iff.mpr (List.mem_cons_of_mem _ member), found, lacking, gone⟩
      · exact absurd impossible (Nat.succ_ne_zero i)
    · right
      refine ⟨first, ?_, kept⟩
      cases ahl with
      | nil => rfl
      | cons h hs => exact takeFirst_none ((parseAvpHeader_missing searched missing h hs rfl).2 free)

end Loops

end OpenDiameter.Parser
