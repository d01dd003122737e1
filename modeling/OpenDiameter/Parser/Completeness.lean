import Mathlib.Data.List.Nodup
import Mathlib.Data.List.Pairwise
import OpenDiameter.Parser.Soundness

/-! Which AVPs of a payload that is accepted are lost.

The rules catch one error for an AVP that is absent and for one that lacks a
member, and what they have taken by then does not come back. Fixed rules leave
what stands behind their run. Everything else that a rule recognises is delivered.
-/

set_option autoImplicit false

namespace OpenDiameter.Parser

open Foundation

def Recognised (dict : DiameterDictionary) (h : AvpHeader) : Prop :=
  ∃ rule ∈ dict.rules, rule.2.avp.matches h = true

def owner (rules : List (AvpParseType × QualifiedAvp)) (h : AvpHeader) :
    Option (AvpParseType × QualifiedAvp) :=
  rules.find? fun rule => rule.2.avp.matches h

section Rules

variable {env : ParserEnv} {value : DictionaryEntry → MessageBlock → Parse AvpContainerEntry}
  {base : Octets} {rules : List (AvpParseType × QualifiedAvp)} {ahl left : List AvpHeader}
  {bounds : List Bound}

theorem owner_cons_of_matches {rule : AvpParseType × QualifiedAvp} {h : AvpHeader}
    (matched : rule.2.avp.matches h = true) : owner (rule :: rules) h = some rule :=
  List.find?_cons_of_pos matched

theorem owner_cons_of_not {rule : AvpParseType × QualifiedAvp} {h : AvpHeader}
    (other : rule.2.avp.matches h = false) : owner (rule :: rules) h = owner rules h := by
  unfold owner
  rw [List.find?_cons_of_neg]
  rw [other]
  exact Bool.false_ne_true

theorem mem_headers {bound : Bound} {h : AvpHeader} (member : h ∈ bound.headers) :
    ∃ taken ∈ bound.avps, taken.1 = h :=
  List.mem_map.mp member

theorem parseRules_subset (parsed : parseRules env value base rules ahl = .returned (bounds, left)) :
    ∀ h ∈ bounds.flatMap Bound.headers, h ∈ ahl ∧
      ∃ rule ∈ rules, selects rule.1 rule.2.avp h = true := by
  intro h member
  obtain ⟨bound, inBounds, inHeaders⟩ := List.mem_flatMap.mp member
  obtain ⟨taken, inAvps, rfl⟩ := mem_headers inHeaders
  obtain ⟨inRules, entries⟩ := parseRules_entries parsed bound inBounds
  obtain ⟨inList, selected, -⟩ := entries taken inAvps
  exact ⟨inList, _, inRules, selected⟩

theorem parseRules_nodup (distinct : ahl.Nodup)
    (parsed : parseRules env value base rules ahl = .returned (bounds, left)) :
    (bounds.flatMap Bound.headers).Nodup := by
  induction rules generalizing ahl bounds with
  | nil =>
    cases parsed
    exact List.nodup_nil
  | cons rule rules ih =>
    obtain ⟨pt, qavp⟩ := rule
    have later := distinct.sublist (@parseAvps_sublist env value base pt qavp.avp 0 ahl)
    rcases parseRules_cons parsed with ⟨avps, more, done, -, -, rfl, rest⟩ | ⟨st, -, -, -, rest⟩
    · obtain ⟨first, -, apart⟩ := List.nodup_append.mp ((parseAvps_perm done).nodup_iff.mp distinct)
      rw [List.flatMap_cons]
      apply List.nodup_append.mpr
      exact ⟨first, ih later rest, fun h inFirst h' inMore =>
        apart h inFirst h' (parseRules_subset rest h' inMore).1⟩
    · exact ih later rest

theorem parseRules_free_complete_iff {lacks : DictionaryEntry → AvpHeader → Bool}
    (tells : ∀ avp, Tells value base avp (lacks avp)) (free : ∀ rule ∈ rules, rule.1 ≠ .fixedHead)
    (distinct : ahl.Nodup)
    (parsed : parseRules env value base rules ahl = .returned (bounds, left)) :
    (∀ h ∈ ahl, (∃ rule ∈ rules, rule.2.avp.matches h = true) → h ∈ bounds.flatMap Bound.headers) ↔
      ∀ h ∈ ahl, ∀ rule, owner rules h = some rule → Tolerates rule → lacks rule.2.avp h = false := by
  induction rules generalizing ahl bounds with
  | nil =>
    constructor
    · intro _ h _ rule owned
      cases owned
    · rintro _ h _ ⟨rule, member, -⟩
      cases member
  | cons rule rules ih =>
    obtain ⟨pt, qavp⟩ := rule
    have position := free (pt, qavp) List.mem_cons_self
    have restFree : ∀ rule ∈ rules, rule.1 ≠ .fixedHead := fun rule member =>
      free rule (List.mem_cons_of_mem _ member)
    have kept := @parseAvps_sublist env value base pt qavp.avp 0 ahl
    have restDistinct := distinct.sublist kept
    rcases parseRules_cons parsed with
      ⟨avps, more, done, -, -, rfl, later⟩ | ⟨st, failed, missing, tolerated, later⟩
    · obtain ⟨taken, others, none⟩ := parseAvps_free_returned position done
      have ih := ih restFree restDistinct later
      -- the loop leaves the AVPs that do not match, and only those
      have inRest : ∀ h, h ∈ (parseAvps env value base pt qavp.avp 0 ahl).1 ↔
          h ∈ ahl ∧ qavp.avp.matches h = false := by
        intro h
        constructor
        · intro member
          refine ⟨kept.subset member, ?_⟩
          have nonmatching := List.filter_eq_nil_iff.mp none h member
          simpa using nonmatching
        · rintro ⟨member, other⟩
          have inOthers : h ∈ ahl.filter (fun h => !qavp.avp.matches h) :=
            List.mem_filter.mpr ⟨member, by simp [other]⟩
          rw [← others] at inOthers
          exact (List.mem_filter.mp inOthers).1
      have inFirst : ∀ h, h ∈ avps.map Prod.fst ↔ h ∈ ahl ∧ qavp.avp.matches h = true := by
        intro h
        rw [taken]
        exact List.mem_filter
      constructor
      · intro complete h member rule owned tolerates
        cases matched : qavp.avp.matches h with
        | true =>
          rw [owner_cons_of_matches matched] at owned
          cases owned
          obtain ⟨entry, inAvps, rfl⟩ := List.mem_map.mp ((inFirst h).mpr ⟨member, matched⟩)
          exact (tells qavp.avp).decoded _ _ (parseAvps_entries done entry inAvps).2.2
        | false =>
          rw [owner_cons_of_not matched] at owned
          refine ih.mp ?_ h ((inRest h).mpr ⟨member, matched⟩) rule owned tolerates
          rintro h' inLeft ⟨rule', inRules, matched'⟩
          obtain ⟨inList, other⟩ := (inRest h').mp inLeft
          have delivered := complete h' inList ⟨rule', List.mem_cons_of_mem _ inRules, matched'⟩
          rw [List.flatMap_cons] at delivered
          rcases List.mem_append.mp delivered with inAvps | inMore
          · have both := ((inFirst h').mp inAvps).2
            rw [other] at both
            cases both
          · exact inMore
      · rintro whole h member ⟨rule, inRules, matched⟩
        rw [List.flatMap_cons, List.mem_append]
        cases own : qavp.avp.matches h with
        | true => exact .inl ((inFirst h).mpr ⟨member, own⟩)
        | false =>
          right
          have inTail : rule ∈ rules := by
            rcases List.mem_cons.mp inRules with rfl | inTail
            · rw [own] at matched
              cases matched
            · exact inTail
          refine ih.mpr ?_ h ((inRest h).mpr ⟨member, own⟩) ⟨rule, inTail, matched⟩
          intro h' inLeft rule' owned tolerates
          obtain ⟨inList, other⟩ := (inRest h').mp inLeft
          apply whole h' inList rule' _ tolerates
          rw [owner_cons_of_not other]
          exact owned
    · rcases parseAvps_free_missing position distinct failed missing with
        ⟨h, member, matched, lacking, gone⟩ | ⟨-, none, same⟩
      · constructor
        · intro complete
          have delivered := complete h member ⟨(pt, qavp), List.mem_cons_self, matched⟩
          exact absurd (parseRules_subset later h delivered).1 gone
        · intro whole
          have sound := whole h member (pt, qavp) (owner_cons_of_matches matched) tolerated
          rw [(tells qavp.avp).missing h st lacking missing] at sound
          cases sound
      · rw [same] at later
        have ih := ih restFree distinct later
        have other : ∀ h ∈ ahl, qavp.avp.matches h = false := fun h member => by
          simpa using List.filter_eq_nil_iff.mp none h member
        constructor
        · intro complete h member rule owned tolerates
          rw [owner_cons_of_not (other h member)] at owned
          refine ih.mp ?_ h member rule owned tolerates
          rintro h' inList ⟨rule', inRules, matched⟩
          exact complete h' inList ⟨rule', List.mem_cons_of_mem _ inRules, matched⟩
        · rintro whole h member ⟨rule, inRules, matched⟩
          have inTail : rule ∈ rules := by
            rcases List.mem_cons.mp inRules with rfl | inTail
            · rw [other h member] at matched
              cases matched
            · exact inTail
          refine ih.mpr ?_ h member ⟨rule, inTail, matched⟩
          intro h' inList rule' owned tolerates
          apply whole h' inList rule' _ tolerates
          rw [owner_cons_of_not (other h' inList)]
          exact owned

end Rules

section Delivery

def AllDelivered (dict : DiameterDictionary) (ahl : List AvpHeader) (bounds : List Bound) : Prop :=
  ∀ h ∈ ahl, Recognised dict h → (bounds.flatMap Bound.headers).count h = 1

structure NothingLost (env : ParserEnv) (dict : DiameterDictionary) (base : Octets)
    (ahl : List AvpHeader) : Prop where
  dropped : ∀ step ∈ (fixedSteps (lacksMember env.groupedAvpList base) dict.avpF ahl).1,
    step.dropped = true → ∀ h ∈ step.taken, ¬Recognised dict h
  behind : ∀ h ∈ (fixedSteps (lacksMember env.groupedAvpList base) dict.avpF ahl).2,
    (∃ qavp ∈ dict.avpF, qavp.avp.matches h = true) →
      ∃ rule ∈ dict.freeRules, rule.2.avp.matches h = true
  whole : ∀ h ∈ (fixedSteps (lacksMember env.groupedAvpList base) dict.avpF ahl).2,
    ∀ rule, owner dict.freeRules h = some rule → Tolerates rule →
      lacksMember env.groupedAvpList base rule.2.avp h = false

variable {env : ParserEnv} {dict : DiameterDictionary} {block : MessageBlock} {ahl left : List AvpHeader}
  {bounds : List Bound}

theorem step_unique {steps : List FixedStep} (distinct : (steps.flatMap FixedStep.taken).Nodup)
    {first second : FixedStep} (inFirst : first ∈ steps) (inSecond : second ∈ steps) {h : AvpHeader}
    (taken : h ∈ first.taken) (again : h ∈ second.taken) : first = second := by
  by_contra differ
  have symmetric : Std.Symm (Function.onFun List.Disjoint FixedStep.taken) :=
    ⟨fun _ _ apart _ inFirst inSecond => apart inSecond inFirst⟩
  have disjoint := (List.nodup_flatMap.mp distinct).2.forall inFirst inSecond differ
  exact disjoint taken again

theorem recognised_iff {h : AvpHeader} :
    Recognised dict h ↔ (∃ qavp ∈ dict.avpF, qavp.avp.matches h = true) ∨
      ∃ rule ∈ dict.freeRules, rule.2.avp.matches h = true := by
  unfold Recognised
  rw [rules_eq]
  simp only [List.mem_append, List.mem_map]
  constructor
  · rintro ⟨rule, ⟨qavp, member, rfl⟩ | member, matched⟩
    · exact .inl ⟨qavp, member, matched⟩
    · exact .inr ⟨rule, member, matched⟩
  · rintro (⟨qavp, member, matched⟩ | ⟨rule, member, matched⟩)
    · exact ⟨_, .inl ⟨qavp, member, rfl⟩, matched⟩
    · exact ⟨rule, .inr member, matched⟩

/-- A payload that is accepted loses no AVP that is recognised exactly when no
rule gives up what it took and none is left behind the fixed rules. -/
theorem all_delivered_iff (made : create block = .returned ahl)
    (parsed : parseBounds env block dict = .returned (bounds, left)) :
    AllDelivered dict ahl bounds ↔ NothingLost env dict block.base ahl := by
  obtain ⟨front, middle, back, before, after, rfl⟩ := parseBounds_returned parsed made
  have distinct := create_nodup made
  rw [parseBounds_eq, made, Outcome.returned_bind] at parsed
  have once := parseRules_nodup distinct parsed
  obtain ⟨rfl, steps⟩ := parseRules_fixed (parseAvpValue_tells block.base) before
  have split := @fixedSteps_append ahl (lacksMember env.groupedAvpList block.base) dict.avpF
  have parts := split.symm ▸ distinct
  obtain ⟨-, restDistinct, apart⟩ := List.nodup_append.mp parts
  have complete := parseRules_free_complete_iff (parseAvpValue_tells block.base) (fun rule member => freeRules_free member)
    restDistinct after
  have delivered : AllDelivered dict ahl (front ++ back) ↔
      ∀ h ∈ ahl, Recognised dict h → h ∈ (front ++ back).flatMap Bound.headers := by
    constructor
    · intro all h member known
      exact List.count_pos_iff.mp (by rw [all h member known]; exact Nat.one_pos)
    · intro all h member known
      exact List.count_eq_one_of_mem once (all h member known)
  have inFront : ∀ h, h ∈ front.flatMap Bound.headers ↔
      ∃ step ∈ (fixedSteps (lacksMember env.groupedAvpList block.base) dict.avpF ahl).1,
        step.kept = true ∧ h ∈ step.taken := by
    have mapped := congrArg (List.flatMap Prod.snd) steps
    simp only [List.flatMap_map] at mapped
    intro h
    rw [mapped]
    simp only [List.mem_flatMap, List.mem_filter, and_assoc]
  have inSteps : ∀ step ∈ (fixedSteps (lacksMember env.groupedAvpList block.base) dict.avpF ahl).1,
      ∀ h ∈ step.taken,
        h ∈ (fixedSteps (lacksMember env.groupedAvpList block.base) dict.avpF ahl).1.flatMap
          FixedStep.taken := fun step member h taken => List.mem_flatMap.mpr ⟨step, member, taken⟩
  have inBack : ∀ h ∈ (fixedSteps (lacksMember env.groupedAvpList block.base) dict.avpF ahl).2,
      h ∈ (front ++ back).flatMap Bound.headers → h ∈ back.flatMap Bound.headers := by
    intro h inRest inBoth
    rw [List.flatMap_append] at inBoth
    rcases List.mem_append.mp inBoth with first | second
    · obtain ⟨step, member, -, taken⟩ := (inFront h).mp first
      exact absurd rfl (apart h (inSteps step member h taken) h inRest)
    · exact second
  rw [delivered]
  constructor
  · intro all
    constructor
    · intro step member dropped h taken known
      have inAhl : h ∈ ahl := by
        rw [← split]
        exact List.mem_append_left _ (inSteps step member h taken)
      have inBoth := all h inAhl known
      rw [List.flatMap_append] at inBoth
      rcases List.mem_append.mp inBoth with first | second
      · -- the run that is kept would share an AVP with the one that is dropped
        obtain ⟨other, inOther, kept, again⟩ := (inFront h).mp first
        have flat := (List.nodup_append.mp parts).1
        have same := step_unique flat member inOther taken again
        rw [← same, FixedStep.kept, dropped] at kept
        cases kept
      · have inRest := (parseRules_subset after h second).1
        exact apart h (inSteps step member h taken) h inRest rfl
    · intro h inRest fixedMatch
      have inAhl : h ∈ ahl := by
        rw [← split]
        exact List.mem_append_right _ inRest
      have inLater := inBack h inRest (all h inAhl (recognised_iff.mpr (.inl fixedMatch)))
      obtain ⟨-, rule, member, selected⟩ := parseRules_subset after h inLater
      rw [selects, if_neg (freeRules_free member)] at selected
      exact ⟨rule, member, selected⟩
    · apply complete.mp
      intro h inRest freeMatch
      have inAhl : h ∈ ahl := by
        rw [← split]
        exact List.mem_append_right _ inRest
      exact inBack h inRest (all h inAhl (recognised_iff.mpr (.inr freeMatch)))
  · intro nothing h member known
    rw [List.flatMap_append, List.mem_append]
    rw [← split] at member
    rcases List.mem_append.mp member with inRuns | inRest
    · left
      obtain ⟨step, inAll, taken⟩ := List.mem_flatMap.mp inRuns
      refine (inFront h).mpr ⟨step, inAll, ?_, taken⟩
      cases dropped : step.dropped with
      | true => exact absurd known (nothing.dropped step inAll dropped h taken)
      | false =>
        rw [FixedStep.kept, dropped]
        cases run : step.taken with
        | nil =>
          rw [run] at taken
          cases taken
        | cons first others => rfl
    · right
      apply complete.mpr nothing.whole h inRest
      rcases recognised_iff.mp known with fixedMatch | freeMatch
      · exact nothing.behind h inRest fixedMatch
      · exact freeMatch

def proxyInfoEntry : DictionaryEntry :=
  ⟨"Proxy-Info", 284, .grouped, 0, flagMandatory, mandatory_unvendored, by decide⟩

def proxyHostEntry : DictionaryEntry :=
  ⟨"Proxy-Host", 280, .data, 0, flagMandatory, mandatory_unvendored, by decide⟩

def proxyEnv : ParserEnv :=
  ⟨[⟨284, 0, ⟨[], [⟨proxyHostEntry, 1, 1⟩], []⟩⟩], ⟨fun _ => false, fun _ => none, fun _ => none⟩⟩

def proxyDictionary : DiameterDictionary := ⟨[], [], [⟨proxyInfoEntry, 0, 5⟩]⟩

def sessionFirstDictionary : DiameterDictionary :=
  ⟨[⟨sessionIdEntry, 1, 1⟩], [], [⟨vendorSpecificApplicationIdEntry, 0, 5⟩]⟩

def sessionFirstPayload (first second : Octets) : Octets :=
  [0, 0, 1, 7, 0x40, 0, 0, 12, 1, 2, 3, 4, 0, 0, 1, 4, 0x40, 0, 0, 32] ++ first ++ second

def sessionFirstHeaders : List AvpHeader := [⟨263, false, true, false, 12, 0, 0⟩, ⟨260, false, true, false, 32, 0, 12⟩]

/-- With the Vendor-Id in front of the group both AVPs are delivered; with its members the
other way round the group is accepted and lost. -/
theorem all_delivered_application :
    (∃ bounds left,
      parseBounds applicationEnv (payloadBlock (sessionFirstPayload vendorIdOctets authApplicationIdOctets) 0)
        sessionFirstDictionary = .returned (bounds, left) ∧
      AllDelivered sessionFirstDictionary sessionFirstHeaders bounds) ∧
      ∃ bounds left,
        parseBounds applicationEnv (payloadBlock (sessionFirstPayload authApplicationIdOctets vendorIdOctets) 0)
          sessionFirstDictionary = .returned (bounds, left) ∧
        ¬AllDelivered sessionFirstDictionary sessionFirstHeaders bounds := by
  constructor
  · have made : create (payloadBlock (sessionFirstPayload vendorIdOctets authApplicationIdOctets) 0) =
        .returned sessionFirstHeaders := by decide +kernel
    obtain ⟨⟨bounds, left⟩, parsed, -⟩ := @Outcome.exists_of_view _ _ _
      (parseBounds applicationEnv (payloadBlock (sessionFirstPayload vendorIdOctets authApplicationIdOctets) 0)
        sessionFirstDictionary) (fun result => result.1.length) 2 (by decide +kernel)
    refine ⟨bounds, left, parsed, (all_delivered_iff made parsed).mpr ⟨?_, ?_, ?_⟩⟩
    · have whole : (fixedSteps (lacksMember applicationEnv.groupedAvpList
          (sessionFirstPayload vendorIdOctets authApplicationIdOctets)) sessionFirstDictionary.avpF
          sessionFirstHeaders).1.all (fun step => !step.dropped) = true := by decide +kernel
      intro step member dropped
      have none := List.all_eq_true.mp whole step member
      rw [dropped] at none
      cases none
    · decide +kernel
    · intro h behind rule owned _
      have rest : (fixedSteps (lacksMember applicationEnv.groupedAvpList
          (sessionFirstPayload vendorIdOctets authApplicationIdOctets)) sessionFirstDictionary.avpF
          sessionFirstHeaders).2 = [⟨260, false, true, false, 32, 0, 12⟩] := by decide +kernel
      rw [payloadBlock, rest] at behind
      cases List.mem_singleton.mp behind
      cases owned
      decide +kernel
  · have made : create (payloadBlock (sessionFirstPayload authApplicationIdOctets vendorIdOctets) 0) =
        .returned sessionFirstHeaders := by decide +kernel
    obtain ⟨⟨bounds, left⟩, parsed, -⟩ := @Outcome.exists_of_view _ _ _
      (parseBounds applicationEnv (payloadBlock (sessionFirstPayload authApplicationIdOctets vendorIdOctets) 0)
        sessionFirstDictionary) (fun result => result.1.length) 1 (by decide +kernel)
    refine ⟨bounds, left, parsed, fun all => ?_⟩
    have whole := ((all_delivered_iff made parsed).mp all).whole ⟨260, false, true, false, 32, 0, 12⟩
      (by decide +kernel) (.optional, ⟨vendorSpecificApplicationIdEntry, 0, 5⟩) rfl (.inl rfl)
    revert whole
    decide +kernel

/-- An optional Proxy-Info without its Proxy-Host is accepted and disappears. -/
theorem malformed_group_disappears :
    ∃ ahl bounds left,
      create (payloadBlock [0, 0, 1, 28, 0x40, 0, 0, 8] 0) = .returned ahl ∧
      parseBounds proxyEnv (payloadBlock [0, 0, 1, 28, 0x40, 0, 0, 8] 0) proxyDictionary =
        .returned (bounds, left) ∧
      ¬AllDelivered proxyDictionary ahl bounds := by
  have made : create (payloadBlock [0, 0, 1, 28, 0x40, 0, 0, 8] 0) =
      .returned [⟨284, false, true, false, 8, 0, 0⟩] := by decide +kernel
  obtain ⟨⟨bounds, left⟩, parsed, seen⟩ := @Outcome.exists_of_view _ _ _
    (parseBounds proxyEnv (payloadBlock [0, 0, 1, 28, 0x40, 0, 0, 8] 0) proxyDictionary)
    (fun result => result.1.length) 0 (by decide +kernel)
  refine ⟨_, bounds, left, made, parsed, fun all => ?_⟩
  have none : bounds = [] := List.eq_nil_of_length_eq_zero seen
  have once := all ⟨284, false, true, false, 8, 0, 0⟩ List.mem_cons_self
    ⟨(.optional, ⟨proxyInfoEntry, 0, 5⟩), List.mem_cons_self, by decide⟩
  rw [none] at once
  cases once

end Delivery

end OpenDiameter.Parser
