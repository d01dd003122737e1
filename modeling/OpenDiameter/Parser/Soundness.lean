import OpenDiameter.Parser.Coverage

/-! What a payload that is accepted tells about the command grammar.

The numbers of entries are always those that the rules allow. That the entries
of fixed rules are the front of the payload and carry the right Vendor-Id depends
on what the fixed rules meet there.
-/

set_option autoImplicit false

namespace OpenDiameter.Parser

open Foundation

def Bound.headers (bound : Bound) : List AvpHeader := bound.avps.map Prod.fst

section Rules

variable {env : ParserEnv} {value : DictionaryEntry → MessageBlock → Parse AvpContainerEntry}
  {base : Octets} {rules : List (AvpParseType × QualifiedAvp)} {ahl left : List AvpHeader}
  {bounds : List Bound}

theorem parseRules_append (first second : List (AvpParseType × QualifiedAvp))
    (parsed : parseRules env value base (first ++ second) ahl = .returned (bounds, left)) :
    ∃ front middle back, parseRules env value base first ahl = .returned (front, middle) ∧
      parseRules env value base second middle = .returned (back, left) ∧ bounds = front ++ back := by
  induction first generalizing ahl bounds with
  | nil => exact ⟨[], ahl, bounds, rfl, parsed, rfl⟩
  | cons rule rules ih =>
    obtain ⟨pt, qavp⟩ := rule
    rcases parseRules_cons parsed with
      ⟨avps, more, done, enough, bounded, rfl, later⟩ | ⟨st, failed, missing, tolerated, later⟩
    · obtain ⟨front, middle, back, before, after, rfl⟩ := ih later
      refine ⟨⟨pt, qavp, avps⟩ :: front, middle, back, ?_, after, rfl⟩
      rw [parseRules]
      generalize parseAvps env value base pt qavp.avp 0 ahl = result at done before ⊢
      obtain ⟨rest, outcome⟩ := result
      cases done
      dsimp only at before ⊢
      rw [if_neg (Nat.not_lt_of_le enough), if_neg (Nat.not_lt_of_le bounded), before,
        Outcome.returned_bind]
    · obtain ⟨front, middle, back, before, after, rfl⟩ := ih later
      refine ⟨front, middle, back, ?_, after, rfl⟩
      rw [parseRules]
      generalize parseAvps env value base pt qavp.avp 0 ahl = result at failed before ⊢
      obtain ⟨rest, outcome⟩ := result
      cases failed
      dsimp only at before ⊢
      rw [if_pos ⟨missing, tolerated⟩, before]

/-- A rule and the container it got, if it got one. -/
inductive Served : AvpParseType × QualifiedAvp → Option Bound → Prop where
  | absent {pt : AvpParseType} {qavp : QualifiedAvp} :
      pt = .optional ∨ qavp.min = 0 → Served (pt, qavp) none
  | present {pt : AvpParseType} {qavp : QualifiedAvp} {avps : List (AvpHeader × AvpContainerEntry)} :
      qavp.min ≤ avps.length → avps.length ≤ qavp.max →
      Served (pt, qavp) (some ⟨pt, qavp, avps⟩)

theorem parseRules_served (parsed : parseRules env value base rules ahl = .returned (bounds, left)) :
    ∃ served, List.Forall₂ Served rules served ∧ bounds = served.filterMap id := by
  induction rules generalizing ahl bounds with
  | nil =>
    cases parsed
    exact ⟨[], .nil, rfl⟩
  | cons rule rules ih =>
    obtain ⟨pt, qavp⟩ := rule
    rcases parseRules_cons parsed with
      ⟨avps, more, -, enough, bounded, rfl, later⟩ | ⟨st, -, -, tolerated, later⟩
    · obtain ⟨served, all, rfl⟩ := ih later
      exact ⟨some ⟨pt, qavp, avps⟩ :: served, .cons (.present enough bounded) all, rfl⟩
    · obtain ⟨served, all, rfl⟩ := ih later
      exact ⟨none :: served, .cons (.absent tolerated) all, rfl⟩

theorem parseRules_entries
    (parsed : parseRules env value base rules ahl = .returned (bounds, left)) :
    ∀ bound ∈ bounds, (bound.parseType, bound.rule) ∈ rules ∧ ∀ taken ∈ bound.avps, taken.1 ∈ ahl ∧
      selects bound.parseType bound.rule.avp taken.1 = true ∧
      value bound.rule.avp (valueBlock base bound.rule.avp taken.1) = .returned taken.2 := by
  induction rules generalizing ahl bounds with
  | nil =>
    cases parsed
    exact fun bound member => nomatch member
  | cons rule rules ih =>
    obtain ⟨pt, qavp⟩ := rule
    have subset := (@parseAvps_sublist env value base pt qavp.avp 0 ahl).subset
    have keep : ∀ {more : List Bound},
        parseRules env value base rules (parseAvps env value base pt qavp.avp 0 ahl).1 =
          .returned (more, left) →
        ∀ bound ∈ more, (bound.parseType, bound.rule) ∈ (pt, qavp) :: rules ∧
          ∀ taken ∈ bound.avps, taken.1 ∈ ahl ∧
            selects bound.parseType bound.rule.avp taken.1 = true ∧
            value bound.rule.avp (valueBlock base bound.rule.avp taken.1) = .returned taken.2 := by
      intro more later bound member
      obtain ⟨inRules, entries⟩ := ih later bound member
      refine ⟨List.mem_cons_of_mem _ inRules, fun taken inAvps => ?_⟩
      obtain ⟨inLeft, rest⟩ := entries taken inAvps
      exact ⟨subset inLeft, rest⟩
    rcases parseRules_cons parsed with
      ⟨avps, more, done, -, -, rfl, later⟩ | ⟨st, -, -, -, later⟩
    · intro bound member
      rcases List.mem_cons.mp member with rfl | inMore
      · exact ⟨List.mem_cons_self, parseAvps_entries done⟩
      · exact keep later bound inMore
    · exact keep later

theorem parseRules_fixed {lacks : DictionaryEntry → AvpHeader → Bool} (tells : ∀ avp, Tells value base avp (lacks avp))
    {fixedRules : List QualifiedAvp}
    (parsed : parseRules env value base (fixedRules.map (.fixedHead, ·)) ahl = .returned (bounds, left)) :
    left = (fixedSteps lacks fixedRules ahl).2 ∧
      bounds.map (fun bound => (bound.rule, bound.headers)) =
        ((fixedSteps lacks fixedRules ahl).1.filter FixedStep.kept).map fun step => (step.rule, step.taken) := by
  induction fixedRules generalizing ahl bounds with
  | nil =>
    cases parsed
    exact ⟨rfl, rfl⟩
  | cons rule rules ih =>
    unfold fixedSteps
    dsimp only
    rcases parseRules_cons parsed with
      ⟨avps, more, done, -, -, rfl, later⟩ | ⟨st, failed, missing, -, later⟩
    · have run := parseAvps_run_returned (tells rule.avp) done
      obtain ⟨same, steps⟩ := ih later
      have found : avps ≠ [] := by
        rcases parseAvps_returned done with ⟨h, -, e, -, -, -, rfl, -⟩ | ⟨-, -, -, impossible, -⟩
        · exact List.cons_ne_nil _ _
        · exact absurd impossible (Nat.lt_irrefl 0)
      rw [run]
      have kept : FixedStep.kept ⟨rule, avps.map Prod.fst, none,
          (parseAvps env value base .fixedHead rule.avp 0 ahl).1⟩ = true := by
        simp [FixedStep.kept, FixedStep.dropped, FixedStep.taken, found]
      refine ⟨same, ?_⟩
      rw [List.filter_cons_of_pos kept, List.map_cons, List.map_cons, steps]
      rfl
    · obtain ⟨rest, ended⟩ := parseAvps_run_missing (tells rule.avp) failed missing
      rw [← rest] at later
      obtain ⟨same, steps⟩ := ih later
      have skipped : ¬FixedStep.kept ⟨rule, ruleRun (lacks rule.avp) .fixedHead rule.avp ahl⟩ = true := by
        rcases ended with dropped | ⟨-, none⟩
        · simp [FixedStep.kept, FixedStep.dropped, dropped]
        · simp [FixedStep.kept, FixedStep.taken, none]
      exact ⟨same, by rw [List.filter_cons_of_neg skipped, steps]⟩

end Rules

section Front

theorem kept_prefix_iff {steps : List FixedStep} {rest : List AvpHeader}
    (distinct : (steps.flatMap FixedStep.taken ++ rest).Nodup)
    (found : ∀ step ∈ steps, step.dropped = true → step.taken ≠ []) :
    (steps.filter FixedStep.kept).flatMap FixedStep.taken <+: steps.flatMap FixedStep.taken ++ rest ↔
      steps.Pairwise fun earlier later => earlier.dropped = true → later.kept = false := by
  induction steps with
  | nil => simp
  | cons step steps ih =>
    rw [List.flatMap_cons, List.append_assoc] at distinct ⊢
    obtain ⟨-, inner, apart⟩ := List.nodup_append.mp distinct
    have ih := ih inner fun later member => found later (List.mem_cons_of_mem _ member)
    rw [List.pairwise_cons]
    cases dropped : step.dropped with
    | true =>
      have skipped : ¬step.kept = true := by simp [FixedStep.kept, dropped]
      rw [List.filter_cons_of_neg skipped]
      constructor
      · intro front
        have none : (steps.filter FixedStep.kept).flatMap FixedStep.taken = [] := by
          cases kept : (steps.filter FixedStep.kept).flatMap FixedStep.taken with
          | nil => rfl
          | cons k later =>
            -- the first AVP that is kept would be the first one that was dropped
            obtain ⟨h, taken, first⟩ := List.exists_cons_of_ne_nil (found step List.mem_cons_self dropped)
            rw [kept, first, List.cons_append] at front
            obtain ⟨same, -⟩ := List.cons_prefix_cons.mp front
            have member : k ∈ (steps.filter FixedStep.kept).flatMap FixedStep.taken := by
              rw [kept]
              exact List.mem_cons_self
            obtain ⟨other, inKept, inOther⟩ := List.mem_flatMap.mp member
            have inSteps : k ∈ steps.flatMap FixedStep.taken ++ rest :=
              List.mem_append_left _
                (List.mem_flatMap.mpr ⟨other, (List.mem_filter.mp inKept).1, inOther⟩)
            exact absurd rfl (apart k (by rw [first, same]; exact List.mem_cons_self) k inSteps)
        have gone : ∀ later ∈ steps, later.kept = false := by
          intro later member
          by_contra kept
          have empty := List.flatMap_eq_nil_iff.mp none later
            (List.mem_filter.mpr ⟨member, Bool.not_eq_false _ ▸ kept⟩)
          simp [FixedStep.kept, empty] at kept
        exact ⟨fun later member _ => gone later member,
          List.pairwise_of_forall_mem_list fun _ _ later member _ => gone later member⟩
      · rintro ⟨gone, -⟩
        have none : steps.filter FixedStep.kept = [] := by
          rw [List.filter_eq_nil_iff]
          intro later member
          simp [gone later member rfl]
        rw [none]
        exact List.nil_prefix
    | false =>
      have kept : ((step :: steps).filter FixedStep.kept).flatMap FixedStep.taken =
          step.taken ++ (steps.filter FixedStep.kept).flatMap FixedStep.taken := by
        cases taken : step.taken with
        | nil =>
          have skipped : ¬step.kept = true := by simp [FixedStep.kept, taken]
          rw [List.filter_cons_of_neg skipped, List.nil_append]
        | cons h hs =>
          have held : step.kept = true := by simp [FixedStep.kept, dropped, taken]
          rw [List.filter_cons_of_pos held, List.flatMap_cons, taken]
      rw [kept, List.prefix_append_right_inj, ih]
      simp

variable {block : MessageBlock} {ahl : List AvpHeader}

theorem create_nodup (made : create block = .returned ahl) : ahl.Nodup := by
  have ordered : ∀ {hs : List AvpHeader} {cavp : Nat}, createFrom block cavp = .returned hs →
      hs.Nodup ∧ ∀ h ∈ hs, cavp ≤ h.valueP := by
    intro hs
    induction hs with
    | nil => exact fun _ => ⟨List.nodup_nil, fun h member => nomatch member⟩
    | cons first hs ih =>
      intro cavp made
      rcases Nat.lt_or_ge cavp block.size with inside | past
      · obtain ⟨valid, -, tail, same, later⟩ := createFrom_returned inside made
        cases same
        obtain ⟨distinct, after⟩ := ih later
        have advance := le_adjustWordBoundary (lengthAt_lt block.base cavp)
        have positive := valid.1
        constructor
        · refine List.nodup_cons.mpr ⟨fun again => ?_, distinct⟩
          have place := after _ again
          simp only [headerAt] at place
          omega
        · intro h member
          rcases List.mem_cons.mp member with rfl | later
          · exact Nat.le_refl _
          · exact Nat.le_of_add_right_le (after h later)
      · rw [createFrom_end block past] at made
        cases made
  exact (ordered made).1

end Front

section Grammar

def Identified (avp : DictionaryEntry) (h : AvpHeader) : Prop :=
  h.code = avp.avpCode ∧ h.vendor = avp.vendorId ∧ h.v = avp.vendorSpecific

instance instDecidableIdentified (avp : DictionaryEntry) (h : AvpHeader) : Decidable (Identified avp h) :=
  inferInstanceAs (Decidable (_ ∧ _ ∧ _))

structure GrammarSound (env : ParserEnv) (dict : DiameterDictionary) (base : Octets)
    (ahl : List AvpHeader) (bounds : List Bound) : Prop where
  counts : ∃ served, List.Forall₂ Served dict.rules served ∧ bounds = served.filterMap id
  front : (bounds.filter (·.parseType = .fixedHead)).flatMap Bound.headers <+: ahl
  entries : ∀ bound ∈ bounds, ∀ taken ∈ bound.avps, taken.1 ∈ ahl ∧
    Identified bound.rule.avp taken.1 ∧
    parseAvpValue env bound.rule.avp (valueBlock base bound.rule.avp taken.1) = .returned taken.2

structure FixedRulesExact (env : ParserEnv) (dict : DiameterDictionary) (base : Octets)
    (ahl : List AvpHeader) : Prop where
  identified : ∀ step ∈ (fixedSteps (lacksMember env.groupedAvpList base) dict.avpF ahl).1,
    step.kept = true → ∀ h ∈ step.taken, Identified step.rule.avp h
  unbroken : (fixedSteps (lacksMember env.groupedAvpList base) dict.avpF ahl).1.Pairwise
    fun earlier later => earlier.dropped = true → later.kept = false

variable {env : ParserEnv} {dict : DiameterDictionary} {block : MessageBlock} {ahl left : List AvpHeader}
  {bounds : List Bound}

theorem identified_of_matches {avp : DictionaryEntry} {h : AvpHeader} (strict : avp.isWildcard = false)
    (matched : avp.matches h = true) : Identified avp h := by
  simp only [DictionaryEntry.matches, strict, Bool.false_or, Bool.and_eq_true, beq_iff_eq] at matched
  exact ⟨matched.2, matched.1.2, matched.1.1⟩

def DiameterDictionary.freeRules (dict : DiameterDictionary) : List (AvpParseType × QualifiedAvp) :=
  dict.avpR.map (.required, ·) ++ dict.avpO.map (.optional, ·)

theorem rules_eq (dict : DiameterDictionary) :
    dict.rules = dict.avpF.map (.fixedHead, ·) ++ dict.freeRules :=
  List.append_assoc _ _ _

theorem freeRules_free {rule : AvpParseType × QualifiedAvp} (member : rule ∈ dict.freeRules) :
    rule.1 ≠ .fixedHead := by
  rcases List.mem_append.mp member with inList | inList
  · obtain ⟨qavp, -, rfl⟩ := List.mem_map.mp inList
    exact fun same => nomatch same
  · obtain ⟨qavp, -, rfl⟩ := List.mem_map.mp inList
    exact fun same => nomatch same

theorem parseBounds_returned (parsed : parseBounds env block dict = .returned (bounds, left))
    (made : create block = .returned ahl) :
    ∃ front middle back,
      parseRules env (parseAvpValue env) block.base (dict.avpF.map (.fixedHead, ·)) ahl =
        .returned (front, middle) ∧
      parseRules env (parseAvpValue env) block.base dict.freeRules middle = .returned (back, left) ∧
      bounds = front ++ back := by
  rw [parseBounds_eq, made, Outcome.returned_bind, rules_eq] at parsed
  exact parseRules_append _ _ parsed

/-- A payload that is accepted obeys the grammar exactly when the fixed rules meet
their own AVPs. -/
theorem grammar_sound_iff (strict : ∀ rule ∈ dict.rules, rule.2.avp.isWildcard = false)
    (made : create block = .returned ahl)
    (parsed : parseBounds env block dict = .returned (bounds, left)) :
    GrammarSound env dict block.base ahl bounds ↔ FixedRulesExact env dict block.base ahl := by
  obtain ⟨front, middle, back, before, after, rfl⟩ := parseBounds_returned parsed made
  have distinct := create_nodup made
  rw [parseBounds_eq, made, Outcome.returned_bind] at parsed
  obtain ⟨rest, steps⟩ := parseRules_fixed (parseAvpValue_tells block.base) before
  have whole := @fixedSteps_append ahl (lacksMember env.groupedAvpList block.base) dict.avpF
  have frontFixed : ∀ bound ∈ front, bound.parseType = .fixedHead := by
    intro bound member
    obtain ⟨qavp, -, same⟩ := List.mem_map.mp (parseRules_entries before bound member).1
    exact (congrArg Prod.fst same).symm
  have backFree : ∀ bound ∈ back, bound.parseType ≠ .fixedHead := fun bound member =>
    freeRules_free (parseRules_entries after bound member).1
  have fixedBounds : (front ++ back).filter (·.parseType = .fixedHead) = front := by
    rw [List.filter_append, List.filter_eq_self.mpr (by simpa using frontFixed),
      List.filter_eq_nil_iff.mpr (by simpa using backFree), List.append_nil]
  have headers : front.flatMap Bound.headers =
      ((fixedSteps (lacksMember env.groupedAvpList block.base) dict.avpF ahl).1.filter
        FixedStep.kept).flatMap FixedStep.taken := by
    have mapped := congrArg (List.flatMap Prod.snd) steps
    simpa only [List.flatMap_map] using mapped
  have prefixed := @kept_prefix_iff
    (fixedSteps (lacksMember env.groupedAvpList block.base) dict.avpF ahl).1 _
    (whole.symm ▸ distinct) fun step member dropped => fixedSteps_dropped member dropped
  rw [whole, ← headers] at prefixed
  constructor
  · intro sound
    constructor
    · intro step member kept h taken
      -- the step is the container of one of the fixed rules
      have inSteps : (step.rule, step.taken) ∈ front.map (fun bound => (bound.rule, bound.headers)) := by
        rw [steps]
        exact List.mem_map.mpr ⟨step, List.mem_filter.mpr ⟨member, kept⟩, rfl⟩
      obtain ⟨bound, inFront, same⟩ := List.mem_map.mp inSteps
      obtain ⟨rule, avps⟩ := Prod.mk.inj same
      rw [← avps] at taken
      obtain ⟨entry, inAvps, rfl⟩ := List.mem_map.mp taken
      rw [← rule]
      exact (sound.entries bound (List.mem_append_left _ inFront) entry inAvps).2.1
    · have ahead := sound.front
      rw [fixedBounds] at ahead
      exact prefixed.mp ahead
  · intro exact'
    constructor
    · exact parseRules_served parsed
    · rw [fixedBounds]
      exact prefixed.mpr exact'.unbroken
    · intro bound member taken inAvps
      obtain ⟨inRules, entries⟩ := parseRules_entries parsed bound member
      obtain ⟨inList, selected, decoded⟩ := entries taken inAvps
      refine ⟨inList, ?_, decoded⟩
      rcases List.mem_append.mp member with inFront | inBack
      · have inSteps : (bound.rule, bound.headers) ∈
            ((fixedSteps (lacksMember env.groupedAvpList block.base) dict.avpF ahl).1.filter
              FixedStep.kept).map fun step => (step.rule, step.taken) := by
          rw [← steps]
          exact List.mem_map.mpr ⟨bound, inFront, rfl⟩
        obtain ⟨step, inKept, same⟩ := List.mem_map.mp inSteps
        obtain ⟨rule, avps⟩ := Prod.mk.inj same
        obtain ⟨inAll, kept⟩ := List.mem_filter.mp inKept
        rw [← rule]
        apply exact'.identified step inAll kept
        rw [avps]
        exact List.mem_map.mpr ⟨taken, inAvps, rfl⟩
      · rw [selects, if_neg (backFree bound inBack)] at selected
        exact identified_of_matches (strict _ inRules) selected

def sessionIdEntry : DictionaryEntry :=
  ⟨"Session-Id", 263, .data, 0, flagMandatory, mandatory_unvendored, by decide⟩

def sessionDictionary : DiameterDictionary := ⟨[⟨sessionIdEntry, 1, 1⟩], [], []⟩

def vendorIdEntry : DictionaryEntry :=
  ⟨"Vendor-Id", 266, .uinteger32, 0, flagMandatory, mandatory_unvendored, by decide⟩

def authApplicationIdEntry : DictionaryEntry :=
  ⟨"Auth-Application-Id", 258, .uinteger32, 0, flagMandatory, mandatory_unvendored, by decide⟩

def vendorSpecificApplicationIdEntry : DictionaryEntry :=
  ⟨"Vendor-Specific-Application-Id", 260, .grouped, 0, flagMandatory, mandatory_unvendored, by decide⟩

def applicationEnv : ParserEnv :=
  ⟨[⟨260, 0, ⟨[⟨vendorIdEntry, 1, 1⟩], [], [⟨authApplicationIdEntry, 0, 1⟩]⟩⟩],
    ⟨fun _ => false, fun _ => none, fun _ => none⟩⟩

def applicationDictionary : DiameterDictionary :=
  ⟨[⟨vendorSpecificApplicationIdEntry, 0, 1⟩, ⟨sessionIdEntry, 1, 1⟩], [], []⟩

def applicationPayload (first second : Octets) : Octets :=
  [0, 0, 1, 4, 0x40, 0, 0, 32] ++ first ++ second ++ [0, 0, 1, 7, 0x40, 0, 0, 12, 1, 2, 3, 4]

def vendorIdOctets : Octets := [0, 0, 1, 10, 0x40, 0, 0, 12, 0, 0, 0, 9]

def authApplicationIdOctets : Octets := [0, 0, 1, 2, 0x40, 0, 0, 12, 0, 0, 0, 5]

def applicationHeaders : List AvpHeader := [⟨260, false, true, false, 32, 0, 0⟩, ⟨263, false, true, false, 12, 0, 32⟩]

/-- With the Vendor-Id in front both AVPs are the front of the payload; with the members
the other way round the first is dropped and the second is bound behind it. -/
theorem grammar_sound_application :
    (∃ bounds left,
      parseBounds applicationEnv (payloadBlock (applicationPayload vendorIdOctets authApplicationIdOctets) 0)
        applicationDictionary = .returned (bounds, left) ∧
      GrammarSound applicationEnv applicationDictionary (applicationPayload vendorIdOctets authApplicationIdOctets)
        applicationHeaders bounds) ∧
      ∃ bounds left,
        parseBounds applicationEnv (payloadBlock (applicationPayload authApplicationIdOctets vendorIdOctets) 0)
          applicationDictionary = .returned (bounds, left) ∧
        ¬GrammarSound applicationEnv applicationDictionary
          (applicationPayload authApplicationIdOctets vendorIdOctets) applicationHeaders bounds := by
  constructor
  · have made : create (payloadBlock (applicationPayload vendorIdOctets authApplicationIdOctets) 0) =
        .returned applicationHeaders := by decide +kernel
    obtain ⟨⟨bounds, left⟩, parsed, -⟩ := @Outcome.exists_of_view _ _ _
      (parseBounds applicationEnv (payloadBlock (applicationPayload vendorIdOctets authApplicationIdOctets) 0)
        applicationDictionary) (fun result => result.1.length) 2 (by decide +kernel)
    refine ⟨bounds, left, parsed, (grammar_sound_iff (by decide) made parsed).mpr ⟨?_, ?_⟩⟩
    · decide +kernel
    · decide +kernel
  · have made : create (payloadBlock (applicationPayload authApplicationIdOctets vendorIdOctets) 0) =
        .returned applicationHeaders := by decide +kernel
    obtain ⟨⟨bounds, left⟩, parsed, -⟩ := @Outcome.exists_of_view _ _ _
      (parseBounds applicationEnv (payloadBlock (applicationPayload authApplicationIdOctets vendorIdOctets) 0)
        applicationDictionary) (fun result => result.1.length) 1 (by decide +kernel)
    refine ⟨bounds, left, parsed, fun sound => ?_⟩
    have unbroken := ((grammar_sound_iff (by decide) made parsed).mp sound).unbroken
    revert unbroken
    decide +kernel

/-- A fixed rule takes the AVP of another vendor, with the Vendor-Id in its value. -/
theorem fixed_rule_takes_other_vendor :
    ∃ ahl bounds left,
      create (payloadBlock [0, 0, 1, 7, 0x80, 0, 0, 12, 0, 0, 0, 9] 0) = .returned ahl ∧
      parseBounds bareEnv (payloadBlock [0, 0, 1, 7, 0x80, 0, 0, 12, 0, 0, 0, 9] 0) sessionDictionary =
        .returned (bounds, left) ∧
      ¬GrammarSound bareEnv sessionDictionary [0, 0, 1, 7, 0x80, 0, 0, 12, 0, 0, 0, 9] ahl bounds := by
  have made : create (payloadBlock [0, 0, 1, 7, 0x80, 0, 0, 12, 0, 0, 0, 9] 0) =
      .returned [⟨263, true, false, false, 12, 9, 0⟩] := by decide +kernel
  obtain ⟨⟨bounds, left⟩, parsed, seen⟩ := @Outcome.exists_of_view _ _ _
    (parseBounds bareEnv (payloadBlock [0, 0, 1, 7, 0x80, 0, 0, 12, 0, 0, 0, 9] 0) sessionDictionary)
    (fun result => result.1.map fun bound => (bound.rule.avp.vendorId, bound.headers))
    [(0, [⟨263, true, false, false, 12, 9, 0⟩])] (by decide +kernel)
  refine ⟨_, bounds, left, made, parsed, fun sound => ?_⟩
  obtain ⟨bound, rest, rfl⟩ := List.exists_cons_of_ne_nil
    (fun none : bounds = [] => by simp [none] at seen)
  simp only [List.map_cons, List.cons.injEq, Prod.mk.injEq] at seen
  have member : (⟨263, true, false, false, 12, 9, 0⟩ : AvpHeader) ∈ bound.headers := by
    rw [seen.1.2]
    exact List.mem_cons_self
  obtain ⟨taken, inAvps, header⟩ := List.mem_map.mp member
  have vendor := (sound.entries bound List.mem_cons_self taken inAvps).2.1.2.1
  rw [header, seen.1.1] at vendor
  cases vendor

end Grammar

end OpenDiameter.Parser
