import OpenDiameter.Parser.Lacking

/-! Which AVPs are decoded from their own octets alone.

The value parsers return or throw a `DiameterErrorCode` exactly when the octets
they read are there. For a grouped AVP that is a matter of the AVPs its rules
come to and of the example AVPs that an error needs, and the octets are those of
the AVP and nothing behind it.
-/

set_option autoImplicit false

namespace OpenDiameter.Parser

open Foundation

section ExampleAvp

variable {groups : List DiameterGroupedAvp} {avp : DictionaryEntry}

theorem getMinSize_wildcard (wildcard : avp.isWildcard = true) : getMinSize groups avp = .returned 8 := by
  simp only [DictionaryEntry.isWildcard, Bool.and_eq_true, beq_iff_eq] at wildcard
  obtain ⟨-, kind, vendor⟩ := avp.wildcardOnly wildcard.2
  simp [getMinSize, minSizeWithin, kind, vendor, AvpDataType.minSize]

theorem failedAvp_declared (sized : (getMinSize groups avp).Declared) :
    (failedAvp groups avp).Declared := by
  unfold failedAvp
  rw [Outcome.declared_bind]
  refine ⟨sized, fun size measured => ?_⟩
  rw [Outcome.declared_bind]
  refine ⟨?_, fun _ _ => trivial⟩
  have small : size % 2 ^ 24 < 2 ^ 24 := Nat.mod_lt _ (by decide)
  unfold writeAvpHeader
  rw [Buffer.remaining_eq (Nat.zero_le _) (by dsimp only; omega)]
  split
  · trivial
  case isFalse enough =>
    dsimp only at enough
    have room : 8 ≤ size % 2 ^ 24 + 4 := by
      cases wildcard : avp.isWildcard with
      | true =>
        rw [getMinSize_wildcard wildcard] at measured
        cases measured
        decide
      | false =>
        have header := le_headerLen wildcard
        omega
    simp only [Buffer.write, AvpHeader.length_octets, List.length_replicate, Bool.false_eq_true,
      ↓reduceIte, Nat.zero_add, room]
    trivial

theorem getMinSize_plain (plain : avp.avpType ≠ .grouped) : (getMinSize groups avp).Declared := by
  unfold getMinSize minSizeWithin
  cases kind : avp.avpType.minSize with
  | none => trivial
  | some size =>
    simp only [plain, ↓reduceIte]
    trivial

theorem getMinSize_undefined (kind : avp.avpType = .grouped) (undefined : searchGroup groups avp = none) :
    (getMinSize groups avp).Declared := by
  unfold getMinSize minSizeWithin
  simp only [kind, AvpDataType.minSize, undefined, ↓reduceIte]
  trivial

theorem raiseWith_declared {α : Type} {error : ParseError} :
    (raiseWith groups error avp : Parse α).Declared ↔ (failedAvp groups avp).Declared := by
  unfold raiseWith
  rw [Outcome.declared_bind]
  exact ⟨And.left, fun declared => ⟨declared, fun _ _ => trivial⟩⟩

end ExampleAvp

section Verdicts

inductive Verdict where
  | whole
  | lacking
  | refused
  /-- It needs octets or an example AVP that there are not. -/
  | beyond
  deriving DecidableEq, Repr

def verdict {α : Type} : Parse α → Verdict
  | .returned _ => .whole
  | .thrown st => if st.error = .normal .missingAvp then .lacking else .refused
  | .escaped => .beyond
  | .fault => .beyond

theorem verdict_thrown {α : Type} (st : DiameterErrorCode) :
    verdict (.thrown st : Parse α) = .lacking ∨ verdict (.thrown st : Parse α) = .refused := by
  by_cases missing : st.error = .normal .missingAvp
  · exact .inl (if_pos missing)
  · exact .inr (if_neg missing)

theorem verdict_thrown_ne_whole {α : Type} (st : DiameterErrorCode) : verdict (.thrown st : Parse α) ≠ .whole := by
  rcases @verdict_thrown α st with same | same <;> rw [same] <;> decide

theorem declared_iff_verdict {α : Type} {outcome : Parse α} : outcome.Declared ↔ verdict outcome ≠ .beyond := by
  cases outcome with
  | returned value => exact ⟨fun _ => Verdict.noConfusion, fun _ => trivial⟩
  | thrown st =>
    refine ⟨fun _ => ?_, fun _ => trivial⟩
    rcases @verdict_thrown α st with same | same <;> rw [same] <;> decide
  | escaped => exact ⟨False.elim, fun other => other rfl⟩
  | fault => exact ⟨False.elim, fun other => other rfl⟩

theorem verdict_thrown_other {α : Type} {st : DiameterErrorCode} (other : st.error ≠ .normal .missingAvp) :
    verdict (.thrown st : Parse α) = .refused :=
  if_neg other

theorem verdict_bind {α β : Type} {first : Parse α} {next : α → Parse β} (failed : verdict first ≠ .whole) :
    verdict (first >>= next) = verdict first := by
  cases first with
  | returned value => exact absurd rfl failed
  | thrown st => rfl
  | escaped => rfl
  | fault => rfl

theorem verdict_bind_returned {α β : Type} {first : Parse α} {result : α → β} :
    verdict (first >>= fun value => .returned (result value)) = verdict first := by
  cases first <;> rfl

variable (groups : List DiameterGroupedAvp)

def raised (avp : DictionaryEntry) (error : Verdict) : Verdict :=
  match failedAvp groups avp with
  | .returned _ => error
  | .thrown _ => .refused
  | .escaped => .beyond
  | .fault => .beyond

variable (member : DictionaryEntry → AvpHeader → Verdict)

def runEnd (pt : AvpParseType) (avp : DictionaryEntry) (run : Run) : Verdict :=
  match run.stopped with
  | some h => member avp h
  | none => if pt = .fixedHead ∧ avp.avpCode = 0 ∧ run.rest ≠ [] then .refused else raised groups avp .lacking

def rulesVerdict : List (AvpParseType × QualifiedAvp) → List AvpHeader → Verdict
  | [], _ => .whole
  | rule :: rules, ahl =>
    let run := ruleRun (fun h => decide (member rule.2.avp h ≠ .whole)) rule.1 rule.2.avp ahl
    let ended := runEnd groups member rule.1 rule.2.avp run
    if ended ≠ .lacking then ended
    else if run.stopped.isSome ∨ run.taken = [] then
      if Tolerates rule then rulesVerdict rules run.rest else .lacking
    else if run.taken.length < rule.2.min then .lacking
    else if rule.2.max < run.taken.length then .refused
    else rulesVerdict rules run.rest

end Verdicts

section Rules

variable {env : ParserEnv} {value : DictionaryEntry → MessageBlock → Parse AvpContainerEntry}
  {base : Octets} {member : DictionaryEntry → AvpHeader → Verdict}

theorem verdict_raiseWith {α : Type} {error : ParseError} (avp : DictionaryEntry) :
    verdict (raiseWith env.groupedAvpList error avp : Parse α) =
      raised env.groupedAvpList avp (if error = .normal .missingAvp then .lacking else .refused) := by
  have bugs := @failedAvp_bugs env.groupedAvpList avp
  unfold raiseWith raised
  cases built : failedAvp env.groupedAvpList avp with
  | returned failed => rfl
  | thrown st => exact verdict_thrown_other (not_missing_of_bug (bugs st built))
  | escaped => rfl
  | fault => rfl

theorem verdict_search {pt : AvpParseType} {avp : DictionaryEntry} {ahl : List AvpHeader}
    (none : ∀ taken, parseAvpHeader env pt avp ahl ≠ .returned taken) :
    verdict (parseAvpHeader env pt avp ahl) = runEnd env.groupedAvpList member pt avp ⟨[], .none, ahl⟩ := by
  have missing {α : Type} : verdict (raiseWith env.groupedAvpList (.normal .missingAvp) avp : Parse α) =
      raised env.groupedAvpList avp .lacking := verdict_raiseWith avp
  unfold parseAvpHeader at none ⊢
  unfold runEnd
  cases ahl with
  | nil => exact missing.trans (if_neg fun fixed => fixed.2.2 rfl).symm
  | cons h rest =>
    dsimp only at none ⊢
    by_cases fixed : pt = .fixedHead
    · rw [if_pos fixed] at none ⊢
      by_cases unnumbered : avp.avpCode = 0
      · rw [if_pos unnumbered, if_pos ⟨fixed, unnumbered, List.cons_ne_nil h rest⟩]
        rfl
      · rw [if_neg unnumbered] at none ⊢
        rw [@if_neg (_ ∧ _) _ fun fails => unnumbered fails.2.1]
        by_cases same : h.code = avp.avpCode
        · exact absurd (if_pos same) (none (h, rest))
        · rw [if_neg same]
          exact missing
    · rw [if_neg fixed] at none ⊢
      rw [@if_neg (_ ∧ _) _ fun fails => fixed fails.1]
      cases found : takeFirst avp.matches (h :: rest) with
      | none => exact missing
      | some taken =>
        rw [found] at none
        exact absurd rfl (none taken)

theorem parseAvps_verdict {pt : AvpParseType} {avp : DictionaryEntry} {run : Run}
    (values : ∀ h, verdict (value avp (valueBlock base avp h)) = member avp h) (i : Nat) (ahl : List AvpHeader)
    (same : ruleRun (fun h => decide (member avp h ≠ .whole)) pt avp ahl = run) :
    (parseAvps env value base pt avp i ahl).1 = run.rest ∧
      (verdict (parseAvps env value base pt avp i ahl).2 = runEnd env.groupedAvpList member pt avp run ∧
          verdict (parseAvps env value base pt avp i ahl).2 ≠ .whole ∧
          (run.stopped.isSome = true ∨ run.taken = [] ∧ i = 0 ∨
            runEnd env.groupedAvpList member pt avp run ≠ .lacking) ∨
        ∃ avps, (parseAvps env value base pt avp i ahl).2 = .returned avps ∧ avps.map Prod.fst = run.taken ∧
          run.stopped = none ∧ runEnd env.groupedAvpList member pt avp run = .lacking ∧ (run.taken = [] → 0 < i)) := by
  -- Each turn takes a header out of the list, so that the induction is on its length.
  induction size : ahl.length using Nat.strong_induction_on generalizing ahl i run with
  | _ size ih =>
    cases searched : parseAvpHeader env pt avp ahl with
    | returned taken =>
      obtain ⟨h, rest⟩ := taken
      have shorter := parseAvpHeader_length env searched
      dsimp only at shorter
      have own := values h
      rw [ruleRun_found searched] at same
      rw [parseAvps_step, searched]
      dsimp only
      -- The value is whole and the loop goes on, or its verdict ends the run.
      by_cases decoded : member avp h = .whole
      · rw [decide_eq_false (not_not_intro decoded), if_neg Bool.false_ne_true] at same
        subst same
        cases outcome : value avp (valueBlock base avp h) with
        | returned e =>
          dsimp only
          obtain ⟨left, ended⟩ := ih rest.length (by omega) (i + 1) rest rfl rfl
          refine ⟨left, ?_⟩
          rcases ended with ⟨ends, fails, how⟩ | ⟨avps, done, headers, through, ends, -⟩
          · left
            rw [verdict_bind fails]
            refine ⟨ends, fails, how.imp_right fun later => .inr ?_⟩
            exact later.elim (fun first => absurd first.2 (Nat.succ_ne_zero i)) id
          · right
            rw [done]
            exact ⟨(h, e) :: avps, rfl, congrArg (h :: ·) headers, through, ends, fun none => by cases none⟩
        -- A header that is missing ends the loop without an error if one was found before.
        | thrown st =>
          rw [outcome, decoded] at own
          exact absurd own (verdict_thrown_ne_whole st)
        | escaped | fault =>
          rw [outcome, decoded] at own
          cases own
      · rw [decide_eq_true decoded, if_pos rfl] at same
        subst same
        cases outcome : value avp (valueBlock base avp h) with
        | returned e =>
          rw [outcome] at own
          exact absurd own.symm decoded
        | thrown st | escaped | fault =>
          rw [outcome] at own
          exact ⟨rfl, .inl ⟨own, fun whole => decoded (own.symm.trans whole), .inl rfl⟩⟩
    | thrown st =>
      -- No header is found, and the verdict is that of the search.
      have none : ∀ taken, parseAvpHeader env pt avp ahl ≠ .returned taken := fun _ found => by
        rw [searched] at found
        cases found
      have ends := @verdict_search env member pt avp ahl none
      rw [ruleRun_none none] at same
      subst same
      rw [parseAvps_step]
      rw [searched] at ends ⊢
      refine ⟨rfl, ?_⟩
      dsimp only
      split
      case isTrue later =>
        have lacking : verdict (.thrown st : Parse (AvpHeader × List AvpHeader)) = .lacking := if_pos later.2
        exact .inr ⟨[], rfl, rfl, rfl, ends.symm.trans lacking, fun _ => later.1⟩
      case isFalse fresh =>
        left
        refine ⟨ends, verdict_thrown_ne_whole st, .inr ?_⟩
        rcases Nat.eq_zero_or_pos i with first | later
        · exact .inl ⟨rfl, first⟩
        · right
          rw [← ends, verdict_thrown_other fun missing => fresh ⟨later, missing⟩]
          decide
    | escaped | fault =>
      have none : ∀ taken, parseAvpHeader env pt avp ahl ≠ .returned taken := fun _ found => by
        rw [searched] at found
        cases found
      have ends := @verdict_search env member pt avp ahl none
      rw [ruleRun_none none] at same
      subst same
      rw [parseAvps_step]
      rw [searched] at ends ⊢
      refine ⟨rfl, .inl ⟨ends, Verdict.noConfusion, .inr (.inr ?_)⟩⟩
      rw [← ends]
      decide

theorem raised_of_runEnd {pt : AvpParseType} {avp : DictionaryEntry} {run : Run} (through : run.stopped = none)
    (ended : runEnd env.groupedAvpList member pt avp run = .lacking) (error : Verdict) :
    raised env.groupedAvpList avp error = error := by
  unfold runEnd at ended
  rw [through] at ended
  dsimp only at ended
  split at ended
  · cases ended
  · unfold raised at ended ⊢
    cases built : failedAvp env.groupedAvpList avp with
    | returned failed => rfl
    | thrown st => rw [built] at ended; cases ended
    | escaped => rw [built] at ended; cases ended
    | fault => rw [built] at ended; cases ended

theorem parseRules_verdict (values : ∀ avp h, verdict (value avp (valueBlock base avp h)) = member avp h)
    (rules : List (AvpParseType × QualifiedAvp)) (ahl : List AvpHeader) :
    verdict (parseRules env value base rules ahl) = rulesVerdict env.groupedAvpList member rules ahl := by
  induction rules generalizing ahl with
  | nil => rfl
  | cons rule rules ih =>
    obtain ⟨pt, qavp⟩ := rule
    have loop := @parseAvps_verdict env value base member pt qavp.avp _ (values qavp.avp) 0 ahl
      (@rfl _ (ruleRun (fun h => decide (member qavp.avp h ≠ .whole)) pt qavp.avp ahl))
    rw [parseRules, rulesVerdict]
    dsimp only
    generalize ruleRun (fun h => decide (member qavp.avp h ≠ .whole)) pt qavp.avp ahl = run at loop ⊢
    generalize parseAvps env value base pt qavp.avp 0 ahl = result at loop ⊢
    obtain ⟨left, outcome⟩ := result
    obtain ⟨rest, ended⟩ := loop
    dsimp only at rest
    subst rest
    -- The loop failed, or returned what it found.
    rcases ended with ⟨ends, fails, how⟩ | ⟨avps, done, headers, through, ends, found⟩
    · rw [← ends]
      cases outcome with
      | returned avps => exact absurd rfl fails
      | thrown st =>
        dsimp only
        by_cases missing : st.error = .normal .missingAvp
        · have lacking : verdict (.thrown st : Parse (List (AvpHeader × AvpContainerEntry))) = .lacking := if_pos missing
          dsimp only at ends
          have empty : run.stopped.isSome = true ∨ run.taken = [] := by
            rcases how with stopped | ⟨none, -⟩ | other
            · exact .inl stopped
            · exact .inr none
            · exact absurd (ends.symm.trans lacking) other
          rw [lacking, if_neg (not_not_intro rfl), if_pos empty]
          -- A missing AVP is tolerated where the rule is optional, and the next rule goes on.
          by_cases tolerated : Tolerates (pt, qavp)
          · rw [if_pos tolerated, if_pos ⟨missing, tolerated⟩]
            exact ih _
          · rw [if_neg tolerated, if_neg fun both => tolerated both.2]
            exact if_pos missing
        · have refused {α : Type} : verdict (.thrown st : Parse α) = .refused := verdict_thrown_other missing
          rw [if_neg fun both => missing both.1, refused, refused, if_pos (by decide)]
      | escaped => rfl
      | fault => rfl
    · dsimp only at done
      subst done
      dsimp only
      have count : avps.length = run.taken.length := by rw [← headers, List.length_map]
      -- Something was found, so that the bounds decide.
      have full : ¬(run.stopped.isSome = true ∨ run.taken = []) := by
        rintro (stopped | none)
        · rw [through] at stopped
          cases stopped
        · exact absurd (found none) (Nat.lt_irrefl 0)
      have built := raised_of_runEnd through ends
      rw [ends, if_neg (not_not_intro rfl), if_neg full, count]
      split
      · exact (verdict_raiseWith _).trans (built _)
      split
      · exact (verdict_raiseWith _).trans (built _)
      · exact verdict_bind_returned.trans (ih _)

end Rules

section Values

variable {env : ParserEnv} {avp : DictionaryEntry} {block : MessageBlock}

/-- The octets that a value parser reads are in the memory, and an address has
its family. -/
def PlainCovered (kind : AvpDataType) (block : MessageBlock) : Prop :=
  match kind with
  | .integer32 | .uinteger32 | .enum | .time => 4 ≤ block.base.length
  | .integer64 | .uinteger64 => 8 ≤ block.base.length
  | .ipAddress => 2 ≤ block.size ∧ block.size ≤ block.base.length
  | .custom => False
  | _ => block.size ≤ block.base.length

instance instDecidablePlainCovered (kind : AvpDataType) (block : MessageBlock) : Decidable (PlainCovered kind block) :=
  match kind with
  | .integer32 | .uinteger32 | .enum | .time | .integer64 | .uinteger64 => inferInstanceAs (Decidable (_ ≤ _))
  | .ipAddress => inferInstanceAs (Decidable (_ ∧ _))
  | .custom => inferInstanceAs (Decidable False)
  | .data | .string | .utf8String | .diamId | .diamUri | .ipFilterRule | .grouped => inferInstanceAs (Decidable (_ ≤ _))

def accepts (grammars : Grammars) (kind : AvpDataType) (text : Octets) : Bool :=
  match kind with
  | .utf8String => utf8Check text = 0
  | .diamId => utf8Check text = 0 && grammars.diamident text
  | .diamUri => utf8Check text = 0 && (grammars.diamuri text).isSome
  | .ipFilterRule => utf8Check text = 0 && (grammars.ipFilterRule text).isSome
  | _ => true

def plainVerdict (grammars : Grammars) (kind : AvpDataType) (block : MessageBlock) : Verdict :=
  if ¬PlainCovered kind block then .beyond
  else if accepts grammars kind (block.base.take block.size) then .whole
  else .refused

/-- The verdict on a value; `group` is that on the members of a grouped AVP. -/
def valueVerdict (env : ParserEnv) (group : MessageBlock → DiameterDictionary → Verdict) (avp : DictionaryEntry)
    (block : MessageBlock) : Verdict :=
  if avp.avpType = .grouped then
    match searchGroup env.groupedAvpList avp with
    | none => .refused
    | some gavp => group block gavp.dict
  else plainVerdict env.grammars avp.avpType block

def membersVerdict (env : ParserEnv) : Nat → MessageBlock → DiameterDictionary → Verdict
  | 0, _, _ => .beyond
  | fuel + 1, block, dict =>
    match create block with
    | .returned ahl =>
      rulesVerdict env.groupedAvpList
        (fun avp h => valueVerdict env (membersVerdict env fuel) avp (valueBlock block.base avp h)) dict.rules ahl
    | .thrown _ => .refused
    | .escaped => .beyond
    | .fault => .beyond

theorem readOctets_declared_iff {memory : Octets} {start count : Nat} :
    (readOctets memory start count).Declared ↔ start + count ≤ memory.length := by
  unfold readOctets
  split
  case isTrue inside => exact ⟨fun _ => inside, fun _ => trivial⟩
  case isFalse outside => exact ⟨fun declared => declared.elim, outside⟩

theorem readWord_declared_iff {count : Nat} :
    (readWord count block).Declared ↔ count ≤ block.base.length := by
  unfold readWord
  rw [Outcome.declared_bind, readOctets_declared_iff, Nat.zero_add]
  exact ⟨And.left, fun inside => ⟨inside, fun _ _ => trivial⟩⟩

theorem readString_declared_iff :
    (readString block).Declared ↔ block.size ≤ block.base.length := by
  unfold readString
  rw [readOctets_declared_iff, Nat.zero_add]

theorem raiseWith_plain {α : Type} {error : ParseError} (plain : avp.avpType ≠ .grouped) :
    (raiseWith env.groupedAvpList error avp : Parse α).Declared :=
  raiseWith_declared.mpr (failedAvp_declared (getMinSize_plain plain))

theorem readUtf8_declared_iff (plain : avp.avpType ≠ .grouped) :
    (readUtf8 env avp block).Declared ↔ block.size ≤ block.base.length := by
  unfold readUtf8
  rw [Outcome.declared_bind, readString_declared_iff]
  refine ⟨And.left, fun inside => ⟨inside, fun text _ => ?_⟩⟩
  split
  · trivial
  · exact raiseWith_plain plain

/-- A bind whose continuation always returns or throws. -/
theorem declared_bind_of {α β : Type} {first : Parse α} {next : α → Parse β}
    (total : ∀ value, (next value).Declared) : (first >>= next).Declared ↔ first.Declared := by
  rw [Outcome.declared_bind]
  exact ⟨And.left, fun declared => ⟨declared, fun value _ => total value⟩⟩

theorem declared_bind_returned {α β : Type} {first : Parse α} {result : α → β} :
    (first >>= fun value => .returned (result value)).Declared ↔ first.Declared :=
  declared_bind_of fun _ => trivial

theorem parseValue_plain_declared_iff
    {group : MessageBlock → DiameterDictionary → Parse AvpContainerList}
    (plain : avp.avpType ≠ .grouped) :
    (parseValue env group avp block).Declared ↔ PlainCovered avp.avpType block := by
  have raises := @raiseWith_plain env avp AvpContainerEntry (.normal .invalidAvpValue) plain
  unfold parseValue PlainCovered
  cases kind : avp.avpType with
  | data => exact declared_bind_returned.trans readString_declared_iff
  | string => exact declared_bind_returned.trans readString_declared_iff
  | integer32 => exact declared_bind_returned.trans readWord_declared_iff
  | uinteger32 => exact declared_bind_returned.trans readWord_declared_iff
  | enum => exact declared_bind_returned.trans readWord_declared_iff
  | time => exact declared_bind_returned.trans readWord_declared_iff
  | integer64 => exact declared_bind_returned.trans readWord_declared_iff
  | uinteger64 => exact declared_bind_returned.trans readWord_declared_iff
  | utf8String => exact declared_bind_returned.trans (readUtf8_declared_iff plain)
  | ipAddress =>
    dsimp only
    rw [Outcome.declared_bind, readString_declared_iff]
    have total : ∀ text, readString block = .returned text → text.length = block.size :=
      fun text read => length_readOctets read
    constructor
    · rintro ⟨inside, later⟩
      obtain ⟨text, read⟩ : ∃ text, readString block = .returned text := by
        unfold readString readOctets
        rw [if_pos (by omega)]
        exact ⟨_, rfl⟩
      have typed := later text read
      rw [total text read] at typed
      refine ⟨?_, inside⟩
      by_contra short
      rw [if_pos (Nat.lt_of_not_le short)] at typed
      exact typed
    · rintro ⟨typed, inside⟩
      refine ⟨inside, fun text read => ?_⟩
      rw [total text read, if_neg (Nat.not_lt_of_le typed)]
      trivial
  | diamId | diamUri | ipFilterRule =>
    refine (declared_bind_of fun text => ?_).trans (readUtf8_declared_iff plain)
    split
    · trivial
    · exact raises
  | grouped => exact absurd kind plain
  | custom => exact Iff.rfl

theorem readString_covered (covered : block.size ≤ block.base.length) :
    readString block = .returned (block.base.take block.size) := by
  unfold readString readOctets
  rw [Nat.zero_add, if_pos covered, List.drop_zero]

theorem readUtf8_covered (covered : block.size ≤ block.base.length) :
    readUtf8 env avp block = if utf8Check (block.base.take block.size) = 0
      then .returned (block.base.take block.size)
      else raiseWith env.groupedAvpList (.normal .invalidAvpValue) avp := by
  rw [readUtf8, readString_covered covered]
  rfl

theorem verdict_refused {α : Type} (plain : avp.avpType ≠ .grouped) :
    verdict (raiseWith env.groupedAvpList (.normal .invalidAvpValue) avp : Parse α) = .refused := by
  have declared := declared_iff_verdict.mp (@raiseWith_plain env avp α (.normal .invalidAvpValue) plain)
  cases outcome : (raiseWith env.groupedAvpList (.normal .invalidAvpValue) avp : Parse α) with
  | returned value => exact absurd outcome raiseWith_ne_returned
  | thrown st => exact verdict_thrown_other (raiseWith_not_missing (by decide) avp st outcome)
  | escaped => rw [outcome] at declared; exact absurd rfl declared
  | fault => rw [outcome] at declared; exact absurd rfl declared

theorem readUtf8_verdict (plain : avp.avpType ≠ .grouped) (covered : block.size ≤ block.base.length)
    {next : Octets → Parse AvpContainerEntry} {fits : Bool}
    (fitting : verdict (next (block.base.take block.size)) = if fits then .whole else .refused) :
    verdict (readUtf8 env avp block >>= next) =
      if utf8Check (block.base.take block.size) = 0 && fits then .whole else .refused := by
  have refused := @verdict_refused env avp Octets plain
  rw [readUtf8_covered covered]
  by_cases wellFormed : utf8Check (block.base.take block.size) = 0
  · simp only [wellFormed, ↓reduceIte, decide_true, Bool.true_and, Outcome.returned_bind, fitting]
  · simp only [wellFormed, ↓reduceIte, decide_false, Bool.false_and, Bool.false_eq_true]
    exact (verdict_bind (by rw [refused]; exact Verdict.noConfusion)).trans refused

theorem verdict_whole_of_declared {first : Parse AvpContainerEntry} (declared : first.Declared)
    (quiet : ∀ st, first ≠ .thrown st) : verdict first = .whole := by
  cases first with
  | returned value => rfl
  | thrown st => exact absurd rfl (quiet st)
  | escaped => exact declared.elim
  | fault => exact declared.elim

theorem readWord_quiet {allowed : DiameterErrorCode → Prop} (count : Nat) : (readWord count block).ThrowsOnly allowed :=
  (readOctets_quiet _ _ _).bind fun _ _ => Outcome.throwsOnly_returned _

theorem parseValue_plain_verdict {group : MessageBlock → DiameterDictionary → Parse AvpContainerList}
    (plain : avp.avpType ≠ .grouped) :
    verdict (parseValue env group avp block) = plainVerdict env.grammars avp.avpType block := by
  have declared := @parseValue_plain_declared_iff env avp block group plain
  by_cases covered : PlainCovered avp.avpType block
  · rw [plainVerdict, if_neg (not_not_intro covered)]
    have refused := @verdict_refused env avp AvpContainerEntry plain
    have quiet {first : Parse AvpContainerEntry} (same : parseValue env group avp block = first)
        (silent : first.ThrowsOnly fun _ => False) : verdict first = .whole :=
      verdict_whole_of_declared (same ▸ declared.mpr covered) silent
    unfold parseValue at quiet ⊢
    unfold PlainCovered at covered
    cases kind : avp.avpType with
    | data => rw [kind] at covered quiet; exact quiet rfl ((readOctets_quiet _ _ _).bind fun _ _ => Outcome.throwsOnly_returned _)
    | string => rw [kind] at covered quiet; exact quiet rfl ((readOctets_quiet _ _ _).bind fun _ _ => Outcome.throwsOnly_returned _)
    | integer32 => rw [kind] at quiet; exact quiet rfl ((readWord_quiet _).bind fun _ _ => Outcome.throwsOnly_returned _)
    | uinteger32 => rw [kind] at quiet; exact quiet rfl ((readWord_quiet _).bind fun _ _ => Outcome.throwsOnly_returned _)
    | enum => rw [kind] at quiet; exact quiet rfl ((readWord_quiet _).bind fun _ _ => Outcome.throwsOnly_returned _)
    | time => rw [kind] at quiet; exact quiet rfl ((readWord_quiet _).bind fun _ _ => Outcome.throwsOnly_returned _)
    | integer64 => rw [kind] at quiet; exact quiet rfl ((readWord_quiet _).bind fun _ _ => Outcome.throwsOnly_returned _)
    | uinteger64 => rw [kind] at quiet; exact quiet rfl ((readWord_quiet _).bind fun _ _ => Outcome.throwsOnly_returned _)
    | ipAddress =>
      rw [kind] at quiet
      refine quiet rfl ((readOctets_quiet _ _ _).bind fun text _ => ?_)
      split
      · exact fun _ same => by cases same
      · exact Outcome.throwsOnly_returned _
    | utf8String =>
      rw [kind] at covered
      have decoded := @readUtf8_verdict env avp block plain covered (fun str => .returned (.utf8String str)) true rfl
      rw [Bool.and_true] at decoded
      exact decoded
    | diamId =>
      rw [kind] at covered
      apply readUtf8_verdict plain covered
      cases env.grammars.diamident (block.base.take block.size) with
      | true => rfl
      | false => exact refused
    | diamUri =>
      rw [kind] at covered
      apply readUtf8_verdict plain covered
      cases env.grammars.diamuri (block.base.take block.size) with
      | some uri => rfl
      | none => exact refused
    | ipFilterRule =>
      rw [kind] at covered
      apply readUtf8_verdict plain covered
      cases env.grammars.ipFilterRule (block.base.take block.size) with
      | some rule => rfl
      | none => exact refused
    | grouped => exact absurd kind plain
    | custom => rw [kind] at covered; exact covered.elim
  · rw [plainVerdict, if_pos covered]
    by_contra other
    exact covered (declared.mp (declared_iff_verdict.mpr other))

theorem parseValue_verdict {members : MessageBlock → DiameterDictionary → Parse AvpContainerList}
    {group : MessageBlock → DiameterDictionary → Verdict}
    (same : ∀ dict, verdict (members block dict) = group block dict) :
    verdict (parseValue env members avp block) = valueVerdict env group avp block := by
  unfold valueVerdict
  by_cases grouped : avp.avpType = .grouped
  · rw [if_pos grouped]
    unfold parseValue
    rw [grouped]
    dsimp only
    cases defined : searchGroup env.groupedAvpList avp with
    | none =>
      have declared : (raiseWith env.groupedAvpList (.normal .avpUnsupported) avp : Parse AvpContainerEntry).Declared :=
        raiseWith_declared.mpr (failedAvp_declared (getMinSize_undefined grouped defined))
      dsimp only
      cases outcome : (raiseWith env.groupedAvpList (.normal .avpUnsupported) avp : Parse AvpContainerEntry) with
      | returned value => exact absurd outcome raiseWith_ne_returned
      | thrown st => exact verdict_thrown_other (raiseWith_not_missing (by decide) avp st outcome)
      | escaped => rw [outcome] at declared; exact declared.elim
      | fault => rw [outcome] at declared; exact declared.elim
    | some gavp => exact verdict_bind_returned.trans (same gavp.dict)
  · rw [if_neg grouped]
    exact parseValue_plain_verdict grouped

theorem parseWithin_verdict (fuel : Nat) (block : MessageBlock) (dict : DiameterDictionary) :
    verdict (parseWithin env fuel block dict) = membersVerdict env fuel block dict := by
  induction fuel generalizing block dict with
  | zero => rfl
  | succ fuel ih =>
    rw [parseWithin, membersVerdict]
    have quiet := create_not_missing block
    cases made : create block with
    | returned ahl =>
      refine parseRules_verdict (fun avp h => parseValue_verdict fun dict => ?_) dict.rules ahl
      exact verdict_bind_returned.trans (ih _ dict)
    | thrown st => exact verdict_thrown_other (quiet st made)
    | escaped => rfl
    | fault => rfl

def avpVerdict (env : ParserEnv) (avp : DictionaryEntry) (block : MessageBlock) : Verdict :=
  valueVerdict env (membersVerdict env (block.base.length + 1)) avp block

theorem parseAvpValue_verdict (avp : DictionaryEntry) (block : MessageBlock) :
    verdict (parseAvpValue env avp block) = avpVerdict env avp block :=
  parseValue_verdict fun dict => verdict_bind_returned.trans (parseWithin_verdict _ block dict)

end Values

section OwnOctets

structure WireAvp where
  octets : Octets
  header : 8 ≤ octets.length
  whole : lengthAt octets 0 = octets.length

def decodeAt (env : ParserEnv) (avp : DictionaryEntry) (before : Octets) (own : WireAvp)
    (after : Octets) : Parse AvpContainerEntry :=
  let payload := before ++ own.octets ++ after
  parseAvpValue env avp (valueBlock payload avp (headerAt payload before.length))

/-- Decoding gives the same value or the same `DiameterErrorCode` whatever stands
around the AVP, and no field of the value is left unassigned. -/
structure LocalDecode (env : ParserEnv) (avp : DictionaryEntry) (own : WireAvp) : Prop where
  same : ∀ before after before' after',
    decodeAt env avp before own after = decodeAt env avp before' own after'
  declared : ∀ before after, (decodeAt env avp before own after).Declared
  assigned : ∀ before after uri,
    decodeAt env avp before own after = .returned (.diamUri uri) → uri.port ≠ none

/-- The octets that the parser of a type reads whatever the size of the value. -/
def AvpDataType.needs : AvpDataType → Nat
  | .integer32 | .uinteger32 | .enum | .time => 4
  | .integer64 | .uinteger64 => 8
  | .ipAddress => 2
  | _ => 0

def ownBlock (avp : DictionaryEntry) (own : WireAvp) : MessageBlock :=
  valueBlock own.octets avp (headerAt own.octets 0)

def AvpCovered (env : ParserEnv) (avp : DictionaryEntry) (own : WireAvp) : Prop :=
  match avp.avpType with
  | .custom => False
  | .grouped => avpVerdict env avp (ownBlock avp own) ≠ .beyond
  | .diamUri => avp.headerLen ≤ own.octets.length ∧
      ∀ uri, utf8Check (own.octets.drop avp.headerLen) = 0 →
        env.grammars.diamuri (own.octets.drop avp.headerLen) = some uri → uri.port ≠ none
  | kind => avp.headerLen + kind.needs ≤ own.octets.length

variable {env : ParserEnv} {avp : DictionaryEntry}

theorem lengthAt_append (before after : Octets) (own : WireAvp) :
    lengthAt (before ++ own.octets ++ after) before.length = own.octets.length := by
  have fixed : fixedAt (before ++ own.octets ++ after) before.length = fixedAt own.octets 0 := by
    unfold fixedAt
    rw [List.append_assoc, List.drop_left, List.drop_zero,
      List.take_append_of_le_length own.header]
  rw [lengthAt, fixed]
  exact own.whole

theorem WireAvp.length_lt (own : WireAvp) : own.octets.length < 2 ^ 24 :=
  own.whole ▸ lengthAt_lt own.octets 0

theorem valueBlock_own (avp : DictionaryEntry) (before : Octets) (own : WireAvp) (after : Octets) :
    ∃ more, valueBlock (before ++ own.octets ++ after) avp
      (headerAt (before ++ own.octets ++ after) before.length) = (ownBlock avp own).extend more := by
  refine ⟨after.drop (0 + avp.headerLen - own.octets.length), ?_⟩
  unfold ownBlock valueBlock MessageBlock.extend headerAt
  dsimp only
  rw [lengthAt_append, own.whole, List.append_assoc, List.drop_append, List.drop_append,
    List.drop_eq_nil_of_le (Nat.le_add_right _ _), List.nil_append, Nat.add_sub_cancel_left,
    Nat.zero_add]

theorem decodeAt_below (env : ParserEnv) (avp : DictionaryEntry) (before : Octets) (own : WireAvp)
    (after : Octets) :
    Outcome.Below (parseAvpValue env avp (ownBlock avp own)) (decodeAt env avp before own after) := by
  obtain ⟨more, placed⟩ := valueBlock_own avp before own after
  unfold decodeAt
  dsimp only
  rw [placed]
  exact parseAvpValue_below _ _ _

theorem decodeAt_alone (env : ParserEnv) (avp : DictionaryEntry) (own : WireAvp) :
    decodeAt env avp [] own [] = parseAvpValue env avp (ownBlock avp own) := by
  simp only [decodeAt, ownBlock, List.nil_append, List.append_nil, List.length_nil]

theorem ownBlock_size (own : WireAvp) :
    (ownBlock avp own).size ≤ (ownBlock avp own).base.length ↔
      avp.headerLen ≤ own.octets.length := by
  have short := own.length_lt
  have header := headerLen_le avp
  unfold ownBlock valueBlock headerAt
  dsimp only
  rw [own.whole, List.length_drop]
  omega

theorem ownBlock_base (own : WireAvp) :
    (ownBlock avp own).base = own.octets.drop avp.headerLen := by
  simp only [ownBlock, valueBlock, headerAt, Nat.zero_add]

theorem plainCovered_own (own : WireAvp) (plain : avp.avpType ≠ .grouped) :
    PlainCovered avp.avpType (ownBlock avp own) ↔
      avp.avpType ≠ .custom ∧ avp.headerLen + avp.avpType.needs ≤ own.octets.length := by
  have sized := @ownBlock_size avp own
  have base := congrArg List.length (@ownBlock_base avp own)
  rw [List.length_drop] at base
  have typed : (ownBlock avp own).size ≤ (ownBlock avp own).base.length →
      (ownBlock avp own).size = (ownBlock avp own).base.length := by
    have short := own.length_lt
    have header := headerLen_le avp
    unfold ownBlock valueBlock headerAt
    dsimp only
    rw [own.whole, List.length_drop]
    omega
  unfold PlainCovered AvpDataType.needs
  cases kind : avp.avpType <;> first | exact absurd kind plain | simp <;> omega

theorem readString_own (own : WireAvp) (header : avp.headerLen ≤ own.octets.length) :
    readString (ownBlock avp own) = .returned (own.octets.drop avp.headerLen) := by
  have short := own.length_lt
  have size : (ownBlock avp own).size = (own.octets.drop avp.headerLen).length := by
    unfold ownBlock valueBlock headerAt
    dsimp only
    rw [own.whole, List.length_drop]
    omega
  unfold readString readOctets
  rw [ownBlock_base, size, Nat.zero_add, if_pos (Nat.le_refl _), List.drop_zero, List.take_length]

theorem decoded_uri {own : WireAvp} (kind : avp.avpType = .diamUri)
    (header : avp.headerLen ≤ own.octets.length) {uri : DiameterUri} :
    parseAvpValue env avp (ownBlock avp own) = .returned (.diamUri uri) ↔
      utf8Check (own.octets.drop avp.headerLen) = 0 ∧
        env.grammars.diamuri (own.octets.drop avp.headerLen) = some uri := by
  simp only [parseAvpValue, parseValue, kind, readUtf8, readString_own own header,
    Outcome.returned_bind]
  by_cases wellFormed : utf8Check (own.octets.drop avp.headerLen) = 0
  · rw [if_pos wellFormed, Outcome.returned_bind]
    cases env.grammars.diamuri (own.octets.drop avp.headerLen) with
    | none => simp [wellFormed, raiseWith_ne_returned]
    | some parsed => simp [wellFormed]
  · rw [if_neg wellFormed]
    constructor
    · intro decoded
      obtain ⟨text, raised, -⟩ := Outcome.bind_eq_returned.mp decoded
      exact absurd raised raiseWith_ne_returned
    · exact fun parsed => absurd parsed.1 wellFormed

theorem kind_of_uri {block : MessageBlock} {uri : DiameterUri}
    (decoded : parseAvpValue env avp block = .returned (.diamUri uri)) : avp.avpType = .diamUri := by
  unfold parseAvpValue parseValue at decoded
  cases kind : avp.avpType with
  | diamUri => rfl
  | custom => rw [kind] at decoded; cases decoded
  | ipAddress =>
    rw [kind] at decoded
    obtain ⟨text, -, made⟩ := Outcome.bind_eq_returned.mp decoded
    split at made <;> cases made
  | diamId | ipFilterRule =>
    rw [kind] at decoded
    obtain ⟨text, -, made⟩ := Outcome.bind_eq_returned.mp decoded
    split at made
    · cases made
    · exact absurd made raiseWith_ne_returned
  | grouped =>
    rw [kind] at decoded
    dsimp only at decoded
    split at decoded
    · exact absurd decoded raiseWith_ne_returned
    · obtain ⟨acl, -, made⟩ := Outcome.bind_eq_returned.mp decoded
      cases made
  | _ =>
    rw [kind] at decoded
    obtain ⟨value, -, made⟩ := Outcome.bind_eq_returned.mp decoded
    cases made

theorem avpVerdict_own (own : WireAvp) (plain : avp.avpType ≠ .grouped) :
    avpVerdict env avp (ownBlock avp own) ≠ .beyond ↔
      avp.avpType ≠ .custom ∧ avp.headerLen + avp.avpType.needs ≤ own.octets.length := by
  rw [← plainCovered_own own plain, ← parseAvpValue_verdict, ← declared_iff_verdict]
  exact parseValue_plain_declared_iff plain

theorem avpCovered_iff (own : WireAvp) :
    AvpCovered env avp own ↔ avpVerdict env avp (ownBlock avp own) ≠ .beyond ∧
      (avp.avpType = .diamUri → ∀ uri, utf8Check (own.octets.drop avp.headerLen) = 0 →
        env.grammars.diamuri (own.octets.drop avp.headerLen) = some uri → uri.port ≠ none) := by
  by_cases grouped : avp.avpType = .grouped
  · simp [AvpCovered, grouped]
  · rw [avpVerdict_own own grouped]
    unfold AvpCovered AvpDataType.needs
    cases kind : avp.avpType <;> first | exact absurd kind grouped | simp

/-- An AVP is decoded from its own octets alone exactly when it is covered. -/
theorem decode_local_iff (env : ParserEnv) (avp : DictionaryEntry) (own : WireAvp) :
    LocalDecode env avp own ↔ AvpCovered env avp own := by
  have total : (parseAvpValue env avp (ownBlock avp own)).Declared ↔ avpVerdict env avp (ownBlock avp own) ≠ .beyond := by
    rw [← parseAvpValue_verdict, declared_iff_verdict]
  have enough (declared : (parseAvpValue env avp (ownBlock avp own)).Declared) (kind : avp.avpType = .diamUri) :
      avp.headerLen ≤ own.octets.length := by
    have plain : avp.avpType ≠ .grouped := fun grouped => by
      rw [kind] at grouped
      cases grouped
    exact Nat.le_of_add_right_le ((avpVerdict_own own plain).mp (total.mp declared)).2
  rw [avpCovered_iff, ← total]
  constructor
  · intro islocal
    have declared := islocal.declared [] []
    rw [decodeAt_alone] at declared
    refine ⟨declared, fun kind uri wellFormed parsed => ?_⟩
    apply islocal.assigned [] []
    rw [decodeAt_alone]
    exact (decoded_uri kind (enough declared kind)).mpr ⟨wellFormed, parsed⟩
  · rintro ⟨declared, ported⟩
    have alone : ∀ before after,
        decodeAt env avp before own after = parseAvpValue env avp (ownBlock avp own) :=
      fun before after => (decodeAt_below env avp before own after).eq declared.ne_fault
    constructor
    · intro before after before' after'
      rw [alone, alone]
    · intro before after
      rw [alone]
      exact declared
    · intro before after uri decoded
      rw [alone] at decoded
      have kind := kind_of_uri decoded
      obtain ⟨wellFormed, parsed⟩ := (decoded_uri kind (enough declared kind)).mp decoded
      exact ported kind uri wellFormed parsed

/-- An environment without grouped AVPs whose grammars match nothing. -/
def bareEnv : ParserEnv := ⟨[], ⟨fun _ => false, fun _ => none, fun _ => none⟩⟩

def resultCodeEntry : DictionaryEntry :=
  ⟨"Result-Code", 268, .integer32, 0, flagMandatory, mandatory_unvendored, by decide⟩

def shortResultCode : WireAvp := ⟨[0, 0, 1, 12, 0x40, 0, 0, 10, 0, 1], by decide, by decide⟩

/-- An Integer32 of two octets takes the other two from its neighbour. -/
theorem decode_reads_neighbour : ¬LocalDecode bareEnv resultCodeEntry shortResultCode := by
  intro islocal
  have same := islocal.same [] [0, 0] [] [0, 1]
  have first : decodeAt bareEnv resultCodeEntry [] shortResultCode [0, 0] =
      .returned (.integer32 65536) := rfl
  have second : decodeAt bareEnv resultCodeEntry [] shortResultCode [0, 1] =
      .returned (.integer32 65537) := rfl
  rw [first, second] at same
  injection same with values
  injection values with words
  revert words
  decide

end OwnOctets

end OpenDiameter.Parser
