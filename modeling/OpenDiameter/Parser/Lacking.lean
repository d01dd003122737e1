import OpenDiameter.Parser.Taking

/-! Which AVPs lack a member.

This is a matter of headers and of the dictionary: a rule that insists on an AVP finds
none where it looks, gets fewer than it asks for, or meets one that lacks a member itself.
-/

set_option autoImplicit false

namespace OpenDiameter.Parser

open Foundation

section Members

def Tolerates (rule : AvpParseType × QualifiedAvp) : Prop := rule.1 = .optional ∨ rule.2.min = 0

instance instDecidableTolerates (rule : AvpParseType × QualifiedAvp) : Decidable (Tolerates rule) :=
  inferInstanceAs (Decidable (_ ∨ _))

def unmet (rule : AvpParseType × QualifiedAvp) (run : Run) : Bool :=
  if run.stopped.isSome ∨ run.taken = [] then decide ¬Tolerates rule else run.taken.length < rule.2.min

def rulesLack (lacks : DictionaryEntry → AvpHeader → Bool) :
    List (AvpParseType × QualifiedAvp) → List AvpHeader → Bool
  | [], _ => false
  | rule :: rules, ahl =>
    let run := ruleRun (lacks rule.2.avp) rule.1 rule.2.avp ahl
    unmet rule run || rulesLack lacks rules run.rest

def lacksWithin (groups : List DiameterGroupedAvp) : Nat → DictionaryEntry → MessageBlock → Bool
  | 0, _, _ => false
  | fuel + 1, avp, block =>
    match avp.avpType, searchGroup groups avp, create block with
    | .grouped, some gavp, .returned ahl =>
      rulesLack (fun member h => lacksWithin groups fuel member (valueBlock block.base member h)) gavp.dict.rules ahl
    | _, _, _ => false

/-- The AVP, taken for `avp`, is a group whose members leave a rule of the group unmet. -/
def lacksMember (groups : List DiameterGroupedAvp) (base : Octets) (avp : DictionaryEntry) (h : AvpHeader) : Bool :=
  lacksWithin groups ((valueBlock base avp h).base.length + 1) avp (valueBlock base avp h)

end Members

section Errors

variable {groups : List DiameterGroupedAvp} {avp : DictionaryEntry}

def IsBug (st : DiameterErrorCode) : Prop := ∃ code, st.error = .bug code

theorem throwsOnly_bug {α : Type} (code : BugCode) : (raise (.bug code) : Parse α).ThrowsOnly IsBug :=
  Outcome.throwsOnly_thrown ⟨code, rfl⟩

theorem listMinSize_bugs {size : DictionaryEntry → Parse Nat} (bugs : ∀ avp, (size avp).ThrowsOnly IsBug)
    (rules : List QualifiedAvp) : (listMinSize size rules).ThrowsOnly IsBug := by
  induction rules with
  | nil => exact Outcome.throwsOnly_returned 0
  | cons rule rules ih => exact (bugs rule.avp).bind fun _ _ => ih.bind fun _ _ => Outcome.throwsOnly_returned _

theorem minSizeWithin_bugs (fuel : Nat) (avp : DictionaryEntry) : (minSizeWithin groups fuel avp).ThrowsOnly IsBug := by
  induction fuel generalizing avp with
  | zero => exact fun _ same => by cases same
  | succ fuel ih =>
    unfold minSizeWithin
    split
    · exact throwsOnly_bug _
    · dsimp only
      split
      · split
        · exact (throwsOnly_bug _).bind fun _ _ => Outcome.throwsOnly_returned _
        · exact (listMinSize_bugs ih _).bind fun _ _ =>
            (listMinSize_bugs ih _).bind fun _ _ => Outcome.throwsOnly_returned _
      · exact (Outcome.throwsOnly_returned 0).bind fun _ _ => Outcome.throwsOnly_returned _

theorem failedAvp_bugs (avp : DictionaryEntry) : (failedAvp groups avp).ThrowsOnly IsBug := by
  refine Outcome.ThrowsOnly.bind (minSizeWithin_bugs _ avp) fun size _ => ?_
  refine Outcome.ThrowsOnly.bind ?_ fun _ _ => Outcome.throwsOnly_returned _
  unfold writeAvpHeader
  split
  · exact throwsOnly_bug _
  · unfold Buffer.write
    split
    · exact Outcome.throwsOnly_returned _
    · exact fun _ same => by cases same

theorem raiseWith_throws {α : Type} (error : ParseError) (avp : DictionaryEntry) :
    (raiseWith groups error avp : Parse α).ThrowsOnly fun st => st.error = error ∨ IsBug st :=
  Outcome.ThrowsOnly.bind (fun st thrown => .inr (failedAvp_bugs avp st thrown)) fun _ _ =>
    Outcome.throwsOnly_thrown (.inl rfl)

theorem not_missing_of_bug {st : DiameterErrorCode} (bug : IsBug st) : st.error ≠ .normal .missingAvp := by
  obtain ⟨code, same⟩ := bug
  rw [same]
  exact fun other => by cases other

theorem raiseWith_not_missing {α : Type} {code : ResultCode} (other : code ≠ .missingAvp) (avp : DictionaryEntry) :
    (raiseWith groups (.normal code) avp : Parse α).ThrowsOnly fun st => st.error ≠ .normal .missingAvp := by
  intro st thrown
  rcases raiseWith_throws _ avp st thrown with same | bug
  · rw [same]
    intro missing
    injection missing with codes
    exact other codes
  · exact not_missing_of_bug bug

end Errors

section Decoding

variable {env : ParserEnv}

theorem readOctets_quiet {allowed : DiameterErrorCode → Prop} (memory : Octets) (start count : Nat) :
    (readOctets memory start count : Parse Octets).ThrowsOnly allowed := by
  unfold readOctets
  split
  · exact Outcome.throwsOnly_returned _
  · exact fun _ same => by cases same

theorem create_not_missing (block : MessageBlock) : (create block).ThrowsOnly fun st => st.error ≠ .normal .missingAvp := by
  have header (cavp : Nat) : (readAvpHeader block cavp).ThrowsOnly fun st => st.error ≠ .normal .missingAvp := by
    unfold readAvpHeader
    split
    · dsimp only
      split
      · exact Outcome.throwsOnly_thrown (by decide)
      · refine Outcome.ThrowsOnly.bind ?_ fun _ _ => Outcome.throwsOnly_returned _
        unfold readVendor
        split
        · exact readOctets_quiet _ _ _
        · exact Outcome.throwsOnly_returned _
    case h_2 st read => exact fun other _ => absurd read (fun thrown => @readOctets_quiet (fun _ => False) _ _ _ st thrown)
    · exact fun _ same => by cases same
    · exact fun _ same => by cases same
  have all (cavp : Nat) : (createFrom block cavp).ThrowsOnly fun st => st.error ≠ .normal .missingAvp := by
    induction remaining : block.size - cavp using Nat.strong_induction_on generalizing cavp with
    | _ distance ih =>
      rcases Nat.lt_or_ge cavp block.size with inside | past
      · rw [createFrom_step block inside]
        refine (header cavp).bind fun h read => ?_
        obtain ⟨-, positive, -, small⟩ := readAvpHeader_returned read
        have advance := le_adjustWordBoundary small
        clear small
        exact (ih _ (by omega) _ rfl).bind fun _ _ => Outcome.throwsOnly_returned _
      · rw [createFrom_end block past]
        exact Outcome.throwsOnly_returned _
  exact all block.rd

theorem parseValue_plain_throws {group : MessageBlock → DiameterDictionary → Parse AvpContainerList}
    {avp : DictionaryEntry} (plain : avp.avpType ≠ .grouped) (block : MessageBlock) :
    (parseValue env group avp block).ThrowsOnly fun st => st.error ≠ .normal .missingAvp := by
  have refused {α : Type} : (raiseWith env.groupedAvpList (.normal .invalidAvpValue) avp : Parse α).ThrowsOnly
      fun st => st.error ≠ .normal .missingAvp := raiseWith_not_missing (by decide) avp
  have word (count : Nat) : (readWord count block).ThrowsOnly fun st => st.error ≠ .normal .missingAvp :=
    (readOctets_quiet _ _ _).bind fun _ _ => Outcome.throwsOnly_returned _
  have text : (readString block).ThrowsOnly fun st => st.error ≠ .normal .missingAvp := readOctets_quiet _ _ _
  have utf8 : (readUtf8 env avp block).ThrowsOnly fun st => st.error ≠ .normal .missingAvp := by
    refine text.bind fun str _ => ?_
    split
    · exact Outcome.throwsOnly_returned _
    · exact refused
  unfold parseValue
  cases kind : avp.avpType with
  | data => exact text.bind fun _ _ => Outcome.throwsOnly_returned _
  | string => exact text.bind fun _ _ => Outcome.throwsOnly_returned _
  | integer32 => exact (word 4).bind fun _ _ => Outcome.throwsOnly_returned _
  | uinteger32 => exact (word 4).bind fun _ _ => Outcome.throwsOnly_returned _
  | enum => exact (word 4).bind fun _ _ => Outcome.throwsOnly_returned _
  | time => exact (word 4).bind fun _ _ => Outcome.throwsOnly_returned _
  | integer64 => exact (word 8).bind fun _ _ => Outcome.throwsOnly_returned _
  | uinteger64 => exact (word 8).bind fun _ _ => Outcome.throwsOnly_returned _
  | utf8String => exact utf8.bind fun _ _ => Outcome.throwsOnly_returned _
  | ipAddress =>
    refine text.bind fun str _ => ?_
    split
    · exact fun _ same => by cases same
    · exact Outcome.throwsOnly_returned _
  | diamId | diamUri | ipFilterRule =>
    refine utf8.bind fun str _ => ?_
    split
    · exact Outcome.throwsOnly_returned _
    · exact refused
  | grouped => exact absurd kind plain
  | custom => exact fun _ same => by cases same

end Decoding

section Rules

variable {env : ParserEnv} {value : DictionaryEntry → MessageBlock → Parse AvpContainerEntry}
  {base : Octets} {rules : List (AvpParseType × QualifiedAvp)} {ahl left : List AvpHeader}
  {bounds : List Bound} {lacks : DictionaryEntry → AvpHeader → Bool}

theorem parseRules_cons {pt : AvpParseType} {qavp : QualifiedAvp}
    (parsed : parseRules env value base ((pt, qavp) :: rules) ahl = .returned (bounds, left)) :
    (∃ avps more, (parseAvps env value base pt qavp.avp 0 ahl).2 = .returned avps ∧
        qavp.min ≤ avps.length ∧ avps.length ≤ qavp.max ∧ bounds = ⟨pt, qavp, avps⟩ :: more ∧
        parseRules env value base rules (parseAvps env value base pt qavp.avp 0 ahl).1 =
          .returned (more, left)) ∨
      ∃ st, (parseAvps env value base pt qavp.avp 0 ahl).2 = .thrown st ∧
        st.error = .normal .missingAvp ∧ (pt = .optional ∨ qavp.min = 0) ∧
        parseRules env value base rules (parseAvps env value base pt qavp.avp 0 ahl).1 =
          .returned (bounds, left) := by
  rw [parseRules] at parsed
  generalize parseAvps env value base pt qavp.avp 0 ahl = result at parsed ⊢
  obtain ⟨rest, outcome⟩ := result
  cases outcome with
  | returned avps =>
    left
    dsimp only at parsed
    split at parsed
    · exact absurd parsed raiseWith_ne_returned
    split at parsed
    · exact absurd parsed raiseWith_ne_returned
    case isFalse enough bounded =>
      obtain ⟨⟨more, after⟩, later, same⟩ := Outcome.bind_eq_returned.mp parsed
      cases same
      exact ⟨avps, more, rfl, Nat.le_of_not_lt enough, Nat.le_of_not_lt bounded, rfl, later⟩
  | thrown st =>
    right
    dsimp only at parsed
    split at parsed
    case isTrue tolerated => exact ⟨st, rfl, tolerated.1, tolerated.2, parsed⟩
    · cases parsed
  | escaped => cases parsed
  | fault => cases parsed

theorem parseRules_missing {pt : AvpParseType} {qavp : QualifiedAvp} {st : DiameterErrorCode}
    (failed : parseRules env value base ((pt, qavp) :: rules) ahl = .thrown st) (missing : st.error = .normal .missingAvp) :
    (∃ avps, (parseAvps env value base pt qavp.avp 0 ahl).2 = .returned avps ∧ avps.length < qavp.min) ∨
      (∃ avps, (parseAvps env value base pt qavp.avp 0 ahl).2 = .returned avps ∧
        parseRules env value base rules (parseAvps env value base pt qavp.avp 0 ahl).1 = .thrown st) ∨
      ∃ st', (parseAvps env value base pt qavp.avp 0 ahl).2 = .thrown st' ∧ st'.error = .normal .missingAvp ∧
        (¬Tolerates (pt, qavp) ∨
          parseRules env value base rules (parseAvps env value base pt qavp.avp 0 ahl).1 = .thrown st) := by
  rw [parseRules] at failed
  generalize parseAvps env value base pt qavp.avp 0 ahl = result at failed ⊢
  obtain ⟨rest, outcome⟩ := result
  cases outcome with
  | returned avps =>
    dsimp only at failed
    split at failed
    case isTrue few => exact .inl ⟨avps, rfl, few⟩
    split at failed
    · exact absurd missing (raiseWith_not_missing (by decide) _ st failed)
    · right
      left
      refine ⟨avps, rfl, ?_⟩
      cases later : parseRules env value base rules rest with
      | returned more => rw [later] at failed; cases failed
      | thrown st' => rw [later] at failed; exact failed
      | escaped => rw [later] at failed; cases failed
      | fault => rw [later] at failed; cases failed
  | thrown st' =>
    right
    right
    dsimp only at failed
    split at failed
    case isTrue tolerated => exact ⟨st', rfl, tolerated.1, .inr failed⟩
    case isFalse insists =>
      cases failed
      exact ⟨st, rfl, missing, .inl fun tolerated => insists ⟨missing, tolerated⟩⟩
  | escaped => cases failed
  | fault => cases failed

theorem parseRules_lack (tells : ∀ avp, Tells value base avp (lacks avp)) :
    (∀ result, parseRules env value base rules ahl = .returned result → rulesLack lacks rules ahl = false) ∧
      ∀ st, parseRules env value base rules ahl = .thrown st → st.error = .normal .missingAvp →
        rulesLack lacks rules ahl = true := by
  induction rules generalizing ahl with
  | nil => exact ⟨fun _ _ => rfl, fun st failed => (by cases failed)⟩
  | cons rule rules ih =>
    obtain ⟨pt, qavp⟩ := rule
    have found {avps : List (AvpHeader × AvpContainerEntry)}
        (done : (parseAvps env value base pt qavp.avp 0 ahl).2 = .returned avps) : avps.map Prod.fst ≠ [] := by
      rcases parseAvps_returned done with ⟨h, -, e, -, -, -, rfl, -⟩ | ⟨-, -, -, impossible, -⟩
      · exact List.cons_ne_nil _ _
      · exact absurd impossible (Nat.lt_irrefl 0)
    have stops {st : DiameterErrorCode} (failed : (parseAvps env value base pt qavp.avp 0 ahl).2 = .thrown st)
        (missing : st.error = .normal .missingAvp) :
        (ruleRun (lacks qavp.avp) pt qavp.avp ahl).rest = (parseAvps env value base pt qavp.avp 0 ahl).1 ∧
          ((ruleRun (lacks qavp.avp) pt qavp.avp ahl).stopped.isSome = true ∨
            (ruleRun (lacks qavp.avp) pt qavp.avp ahl).taken = []) := by
      obtain ⟨rest, ended⟩ := parseAvps_run_missing (tells qavp.avp) failed missing
      exact ⟨rest, ended.imp_right fun none => by rw [none.2]⟩
    rw [rulesLack]
    dsimp only
    constructor
    · rintro ⟨bounds, left⟩ parsed
      rcases parseRules_cons parsed with
        ⟨avps, more, done, enough, -, rfl, later⟩ | ⟨st, failed, missing, tolerated, later⟩
      · have run := parseAvps_run_returned (tells qavp.avp) done
        rw [run, ih.1 _ later, Bool.or_false, unmet, if_neg, List.length_map]
        · exact decide_eq_false (Nat.not_lt_of_le enough)
        · exact fun none => none.elim (fun stopped => by cases stopped) (found done)
      · obtain ⟨rest, none⟩ := stops failed missing
        rw [rest, ih.1 _ later, Bool.or_false, unmet, if_pos none]
        exact decide_eq_false fun insists => insists tolerated
    · intro st failed missing
      rw [Bool.or_eq_true]
      -- The rule itself is short of AVPs, or a later one is, or the loop threw.
      rcases parseRules_missing failed missing with ⟨avps, done, few⟩ | ⟨avps, done, later⟩ | ⟨st', failed', missing', ended⟩
      · left
        rw [parseAvps_run_returned (tells qavp.avp) done, unmet, if_neg, List.length_map]
        · exact decide_eq_true few
        · exact fun none => none.elim (fun stopped => by cases stopped) (found done)
      · right
        rw [parseAvps_run_returned (tells qavp.avp) done]
        exact ih.2 st later missing
      · obtain ⟨rest, none⟩ := stops failed' missing'
        rcases ended with insists | later
        · left
          rw [unmet, if_pos none]
          exact decide_eq_true insists
        · right
          rw [rest]
          exact ih.2 st later missing

end Rules

section Groups

variable {env : ParserEnv}

def valueWithin (env : ParserEnv) (fuel : Nat) : DictionaryEntry → MessageBlock → Parse AvpContainerEntry :=
  parseValue env fun block dict =>
    parseWithin env fuel block dict >>= fun (bounds, _) => .returned (bounds.map Bound.container)

theorem valueWithin_group {avp : DictionaryEntry} {gavp : DiameterGroupedAvp} (kind : avp.avpType = .grouped)
    (defined : searchGroup env.groupedAvpList avp = some gavp) (fuel : Nat) (block : MessageBlock) :
    valueWithin env (fuel + 1) avp block = (create block >>= fun ahl =>
      parseRules env (valueWithin env fuel) block.base gavp.dict.rules ahl >>= fun result =>
        .returned (.grouped (result.1.map Bound.container))) := by
  have values : (parseValue env fun block dict =>
      parseWithin env fuel block dict >>= fun (bounds, _) => .returned (bounds.map Bound.container)) =
      valueWithin env fuel := rfl
  rw [valueWithin, parseValue, kind]
  dsimp only
  rw [defined]
  dsimp only
  rw [parseWithin, values]
  cases create block with
  | returned ahl =>
    simp only [Outcome.returned_bind]
    cases parseRules env (valueWithin env fuel) block.base gavp.dict.rules ahl <;> rfl
  | thrown st => rfl
  | escaped => rfl
  | fault => rfl

theorem lacksWithin_tells (fuel : Nat) (avp : DictionaryEntry) (block : MessageBlock) :
    (∀ e, valueWithin env fuel avp block = .returned e → lacksWithin env.groupedAvpList fuel avp block = false) ∧
      ∀ st, valueWithin env fuel avp block = .thrown st → st.error = .normal .missingAvp →
        lacksWithin env.groupedAvpList fuel avp block = true := by
  induction fuel generalizing avp block with
  -- Without fuel a group is not decoded, and nothing lacks.
  | zero =>
    refine ⟨fun _ _ => rfl, fun st failed missing => ?_⟩
    by_cases kind : avp.avpType = .grouped
    · unfold valueWithin parseValue at failed
      simp only [kind] at failed
      cases defined : searchGroup env.groupedAvpList avp with
      | none =>
        rw [defined] at failed
        exact absurd missing (raiseWith_not_missing (by decide) avp st failed)
      | some gavp => rw [defined] at failed; cases failed
    · exact absurd missing (parseValue_plain_throws kind block st failed)
  -- Inside of a group the members are told by induction, and the rules by `parseRules_lack`.
  | succ fuel ih =>
    unfold lacksWithin
    by_cases kind : avp.avpType = .grouped
    · cases defined : searchGroup env.groupedAvpList avp with
      | none =>
        rw [kind]
        dsimp only
        refine ⟨fun _ _ => rfl, fun st failed missing => ?_⟩
        unfold valueWithin parseValue at failed
        simp only [kind, defined] at failed
        exact absurd missing (raiseWith_not_missing (by decide) avp st failed)
      | some gavp =>
        cases made : create block with
        | returned ahl =>
          have tells (member : DictionaryEntry) : Tells (valueWithin env fuel) block.base member
              fun h => lacksWithin env.groupedAvpList fuel member (valueBlock block.base member h) :=
            ⟨fun h => (ih member _).1, fun h => (ih member _).2⟩
          have rules := @parseRules_lack env (valueWithin env fuel) block.base gavp.dict.rules ahl _ tells
          rw [valueWithin_group kind defined, made, Outcome.returned_bind, kind]
          cases parsed : parseRules env (valueWithin env fuel) block.base gavp.dict.rules ahl with
          | returned result => exact ⟨fun _ _ => rules.1 result parsed, fun _ failed => by cases failed⟩
          | thrown st =>
            refine ⟨fun _ returned => (by cases returned), fun st' failed missing => ?_⟩
            cases failed
            exact rules.2 st parsed missing
          | escaped => exact ⟨fun _ returned => (by cases returned), fun _ failed => by cases failed⟩
          | fault => exact ⟨fun _ returned => (by cases returned), fun _ failed => by cases failed⟩
        | thrown st =>
          rw [valueWithin_group kind defined, made]
          refine ⟨fun _ returned => (by cases returned), fun st' failed missing => ?_⟩
          cases failed
          exact absurd missing (create_not_missing block st made)
        | escaped | fault =>
          rw [valueWithin_group kind defined, made]
          exact ⟨fun _ returned => (by cases returned), fun _ failed => by cases failed⟩
    · refine ⟨fun e _ => ?_, fun st failed missing => absurd missing (parseValue_plain_throws kind block st failed)⟩
      split
      case h_1 grouped _ _ => exact absurd grouped kind
      case h_2 => rfl

theorem parseAvpValue_tells (base : Octets) (avp : DictionaryEntry) :
    Tells (parseAvpValue env) base avp (lacksMember env.groupedAvpList base avp) := by
  have same (h : AvpHeader) : parseAvpValue env avp (valueBlock base avp h) =
      valueWithin env ((valueBlock base avp h).base.length + 1) avp (valueBlock base avp h) :=
    parseValue_congr fun _ _ => rfl
  constructor
  · intro h e decoded
    rw [same] at decoded
    exact (lacksWithin_tells _ avp _).1 e decoded
  · intro h st failed missing
    rw [same] at failed
    exact (lacksWithin_tells _ avp _).2 st failed missing

end Groups

end OpenDiameter.Parser
