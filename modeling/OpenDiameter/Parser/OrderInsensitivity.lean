import OpenDiameter.Foundation.Reordering
import OpenDiameter.Parser.Coverage

/-! What the strict parser makes of a payload does not depend on the order of AVPs
with different identities.

Without fixed rules and the wildcard, every search is for one identity: what the rules
find, and what they leave, is a matter of the AVPs of each identity in their order.
-/

set_option autoImplicit false

namespace OpenDiameter.Parser

open Foundation

section Identity

def AvpHeader.identity (h : AvpHeader) : UInt32 × UInt32 × Bool := (h.code, h.vendor, h.v)

def DictionaryEntry.identity (avp : DictionaryEntry) : UInt32 × UInt32 × Bool :=
  (avp.avpCode, avp.vendorId, avp.vendorSpecific)

variable {avp : DictionaryEntry} {ahl ahl' : List AvpHeader} {rel : AvpHeader → AvpHeader → Prop}

theorem matches_iff_identity (strict : avp.isWildcard = false) {h : AvpHeader} :
    avp.matches h = true ↔ h.identity = avp.identity := by
  simp only [DictionaryEntry.matches, strict, Bool.false_or, Bool.and_eq_true, beq_iff_eq, AvpHeader.identity,
    DictionaryEntry.identity, Prod.mk.injEq]
  tauto

theorem filter_matches (strict : avp.isWildcard = false) :
    ahl.filter avp.matches = ofKey AvpHeader.identity avp.identity ahl := by
  unfold ofKey
  congr 1
  funext h
  rw [Bool.eq_iff_iff, matches_iff_identity strict, decide_eq_true_iff]

theorem ofKey_takeFirst (strict : avp.isWildcard = false) {taken : AvpHeader × List AvpHeader}
    (found : takeFirst avp.matches ahl = some taken) :
    ofKey AvpHeader.identity avp.identity ahl = taken.1 :: ofKey AvpHeader.identity avp.identity taken.2 ∧
      ∀ k ≠ avp.identity, ofKey AvpHeader.identity k ahl = ofKey AvpHeader.identity k taken.2 := by
  obtain ⟨own, others⟩ := takeFirst_filter found
  rw [filter_matches strict, filter_matches strict] at own
  refine ⟨own, fun k differ => ?_⟩
  have through (xs : List AvpHeader) :
      ofKey AvpHeader.identity k (xs.filter fun h => !avp.matches h) = ofKey AvpHeader.identity k xs := by
    unfold ofKey
    rw [List.filter_filter]
    congr 1
    funext h
    cases matched : avp.matches h with
    | false => simp
    | true =>
      have same := (matches_iff_identity strict).mp matched
      simp [same, Ne.symm differ]
  rw [← through ahl, others, through]

theorem takeFirst_alike (strict : avp.isWildcard = false) (alike : Alike AvpHeader.identity rel ahl ahl') :
    takeFirst avp.matches ahl = none ∧ takeFirst avp.matches ahl' = none ∨
      ∃ h rest h' rest', takeFirst avp.matches ahl = some (h, rest) ∧
        takeFirst avp.matches ahl' = some (h', rest') ∧ rel h h' ∧ avp.matches h = true ∧
        Alike AvpHeader.identity rel rest rest' := by
  have own := alike avp.identity
  cases found : takeFirst avp.matches ahl with
  | none =>
    have empty := takeFirst_none found
    rw [filter_matches strict] at empty
    rw [empty, List.forall₂_nil_left_iff] at own
    cases found' : takeFirst avp.matches ahl' with
    | none => exact .inl ⟨rfl, rfl⟩
    | some taken =>
      rw [(ofKey_takeFirst strict found').1] at own
      cases own
  | some taken =>
    obtain ⟨h, rest⟩ := taken
    obtain ⟨first, others⟩ := ofKey_takeFirst strict found
    rw [first] at own
    cases found' : takeFirst avp.matches ahl' with
    | none =>
      have empty := takeFirst_none found'
      rw [filter_matches strict] at empty
      rw [empty] at own
      cases own
    | some taken' =>
      obtain ⟨h', rest'⟩ := taken'
      obtain ⟨first', others'⟩ := ofKey_takeFirst strict found'
      rw [first'] at own
      cases own with
      | cons related later =>
        refine .inr ⟨h, rest, h', rest', rfl, rfl, related, takeFirst_test found, fun k => ?_⟩
        -- The other keys keep what they had.
        by_cases same : k = avp.identity
        · rw [same]
          exact later
        · have kept := alike k
          rwa [others k same, others' k same] at kept

end Identity

section Rules

variable {env : ParserEnv} {value : DictionaryEntry → MessageBlock → Parse AvpContainerEntry} {base base' : Octets}
  {rel : AvpHeader → AvpHeader → Prop} {ahl ahl' : List AvpHeader}

def entriesOf (outcome : Parse (List (AvpHeader × AvpContainerEntry))) : Parse (List AvpContainerEntry) :=
  outcome >>= fun avps => .returned (avps.map Prod.snd)

def containersOf (outcome : Parse (List Bound × List AvpHeader)) : Parse AvpContainerList :=
  outcome >>= fun bounds => .returned (bounds.1.map Bound.container)

theorem parseAvpHeader_search {pt : AvpParseType} (free : pt ≠ .fixedHead) (avp : DictionaryEntry) (ahl : List AvpHeader) :
    parseAvpHeader env pt avp ahl =
      match takeFirst avp.matches ahl with
      | some taken => .returned taken
      | none => raiseWith env.groupedAvpList (.normal .missingAvp) avp := by
  cases ahl with
  | nil => rfl
  | cons h rest =>
    refine (if_neg free).trans ?_
    cases takeFirst avp.matches (h :: rest) <;> rfl

def SameValue (value : DictionaryEntry → MessageBlock → Parse AvpContainerEntry) (base base' : Octets)
    (rel : AvpHeader → AvpHeader → Prop) (avp : DictionaryEntry) : Prop :=
  ∀ h h', rel h h' → avp.matches h = true → value avp (valueBlock base avp h) = value avp (valueBlock base' avp h')

theorem parseAvps_alike {pt : AvpParseType} (free : pt ≠ .fixedHead) {avp : DictionaryEntry}
    (strict : avp.isWildcard = false) (same : SameValue value base base' rel avp) (i : Nat)
    (alike : Alike AvpHeader.identity rel ahl ahl') :
    Alike AvpHeader.identity rel (parseAvps env value base pt avp i ahl).1 (parseAvps env value base' pt avp i ahl').1 ∧
      entriesOf (parseAvps env value base pt avp i ahl).2 = entriesOf (parseAvps env value base' pt avp i ahl').2 := by
  induction size : ahl.length using Nat.strong_induction_on generalizing ahl ahl' i with
  | _ size ih =>
    rw [parseAvps_step, parseAvps_step, parseAvpHeader_search free, parseAvpHeader_search free]
    rcases takeFirst_alike strict alike with ⟨none, none'⟩ | ⟨h, rest, h', rest', found, found', related, matched, later⟩
    · rw [none, none']
      dsimp only
      unfold raiseWith
      cases failedAvp env.groupedAvpList avp <;> exact ⟨alike, rfl⟩
    · have shorter := takeFirst_length found
      rw [found, found']
      dsimp only at shorter ⊢
      rw [← same h h' related matched]
      cases value avp (valueBlock base avp h) with
      | returned e =>
        obtain ⟨left, entries⟩ := ih rest.length (by omega) (i + 1) later rfl
        refine ⟨left, ?_⟩
        dsimp only
        unfold entriesOf at entries ⊢
        generalize (parseAvps env value base pt avp (i + 1) rest).2 = first at entries
        generalize (parseAvps env value base' pt avp (i + 1) rest').2 = second at entries
        cases first <;> cases second <;> simp_all
      | thrown st => exact ⟨later, rfl⟩
      | escaped => exact ⟨later, rfl⟩
      | fault => exact ⟨later, rfl⟩

theorem parseRules_alike {rules : List (AvpParseType × QualifiedAvp)} (free : ∀ rule ∈ rules, rule.1 ≠ .fixedHead)
    (strict : ∀ rule ∈ rules, rule.2.avp.isWildcard = false)
    (same : ∀ rule ∈ rules, SameValue value base base' rel rule.2.avp) (alike : Alike AvpHeader.identity rel ahl ahl') :
    containersOf (parseRules env value base rules ahl) = containersOf (parseRules env value base' rules ahl') := by
  induction rules generalizing ahl ahl' with
  | nil => rfl
  | cons rule rules ih =>
    obtain ⟨pt, qavp⟩ := rule
    obtain ⟨freeHere, freeLater⟩ := List.forall_mem_cons.mp free
    obtain ⟨strictHere, strictLater⟩ := List.forall_mem_cons.mp strict
    obtain ⟨sameHere, sameLater⟩ := List.forall_mem_cons.mp same
    obtain ⟨left, entries⟩ := @parseAvps_alike env value base base' rel ahl ahl' pt freeHere qavp.avp strictHere sameHere 0 alike
    have rest := ih freeLater strictLater sameLater left
    unfold parseRules
    generalize parseAvps env value base pt qavp.avp 0 ahl = first at left entries rest
    generalize parseAvps env value base' pt qavp.avp 0 ahl' = second at left entries rest
    obtain ⟨ahl₁, outcome₁⟩ := first
    obtain ⟨ahl₂, outcome₂⟩ := second
    dsimp only at rest entries ⊢
    unfold entriesOf at entries
    cases outcome₁ with
    | returned avps =>
      cases outcome₂ with
      | returned avps' =>
        have equal : avps.map Prod.snd = avps'.map Prod.snd := by simpa using entries
        have count : avps.length = avps'.length := by simpa using congrArg List.length equal
        dsimp only
        rw [count]
        split
        · rfl
        · split
          · rfl
          · unfold containersOf at rest ⊢
            generalize parseRules env value base rules ahl₁ = one at rest
            generalize parseRules env value base' rules ahl₂ = other at rest
            cases one <;> cases other <;> simp_all [Bound.container]
      | thrown st => simp at entries
      | escaped => simp at entries
      | fault => simp at entries
    | thrown st =>
      cases outcome₂ with
      | returned avps' => simp at entries
      | thrown st' =>
        obtain rfl : st = st' := by simpa using entries
        dsimp only
        split
        · exact rest
        · rfl
      | escaped => simp at entries
      | fault => simp at entries
    | escaped => cases outcome₂ <;> simp_all
    | fault => cases outcome₂ <;> simp_all

theorem parseAvps_declared {pt : AvpParseType} (free : pt ≠ .fixedHead) {avp : DictionaryEntry}
    (sized : (getMinSize env.groupedAvpList avp).Declared) (i : Nat)
    (values : ∀ h ∈ ahl, avp.matches h = true → (value avp (valueBlock base avp h)).Declared) :
    (parseAvps env value base pt avp i ahl).1 ⊆ ahl ∧ (parseAvps env value base pt avp i ahl).2.Declared := by
  induction size : ahl.length using Nat.strong_induction_on generalizing ahl i with
  | _ size ih =>
    rw [parseAvps_step, parseAvpHeader_search free]
    cases found : takeFirst avp.matches ahl with
    | none =>
      have built := failedAvp_declared sized
      dsimp only
      unfold raiseWith
      cases raised : failedAvp env.groupedAvpList avp with
      | returned failed =>
        refine ⟨List.Subset.refl _, ?_⟩
        dsimp only [Outcome.returned_bind]
        split <;> trivial
      | thrown st =>
        refine ⟨List.Subset.refl _, ?_⟩
        dsimp only [Outcome.thrown_bind]
        split <;> trivial
      | escaped => rw [raised] at built; exact built.elim
      | fault => rw [raised] at built; exact built.elim
    | some taken =>
      obtain ⟨h, rest⟩ := taken
      have shorter := takeFirst_length found
      have kept : h :: rest ⊆ ahl := (takeFirst_perm found).symm.subset
      have here := values h (kept List.mem_cons_self) (takeFirst_test found)
      dsimp only at shorter ⊢
      cases outcome : value avp (valueBlock base avp h) with
      | returned e =>
        obtain ⟨left, declared⟩ := ih rest.length (by omega) (i + 1)
          (fun other mem => values other (kept (List.mem_cons_of_mem _ mem))) rfl
        exact ⟨List.Subset.trans left fun other mem => kept (List.mem_cons_of_mem _ mem),
          Outcome.declared_bind.mpr ⟨declared, fun _ _ => trivial⟩⟩
      | thrown st => exact ⟨fun other mem => kept (List.mem_cons_of_mem _ mem), trivial⟩
      | escaped => rw [outcome] at here; exact here.elim
      | fault => rw [outcome] at here; exact here.elim

theorem parseRules_declared {rules : List (AvpParseType × QualifiedAvp)} (free : ∀ rule ∈ rules, rule.1 ≠ .fixedHead)
    (sized : ∀ rule ∈ rules, (getMinSize env.groupedAvpList rule.2.avp).Declared)
    (values : ∀ rule ∈ rules, ∀ h ∈ ahl, rule.2.avp.matches h = true →
      (value rule.2.avp (valueBlock base rule.2.avp h)).Declared) :
    (parseRules env value base rules ahl).Declared := by
  induction rules generalizing ahl with
  | nil => trivial
  | cons rule rules ih =>
    obtain ⟨pt, qavp⟩ := rule
    obtain ⟨freeHere, freeLater⟩ := List.forall_mem_cons.mp free
    obtain ⟨sizedHere, sizedLater⟩ := List.forall_mem_cons.mp sized
    obtain ⟨valuesHere, valuesLater⟩ := List.forall_mem_cons.mp values
    have raises {α : Type} (error : ParseError) : (raiseWith env.groupedAvpList error qavp.avp : Parse α).Declared :=
      raiseWith_declared.mpr (failedAvp_declared sizedHere)
    obtain ⟨left, declared⟩ := @parseAvps_declared env value base ahl pt freeHere qavp.avp sizedHere 0 valuesHere
    have rest := ih freeLater sizedLater fun rule mem h inside => valuesLater rule mem h (left inside)
    unfold parseRules
    generalize parseAvps env value base pt qavp.avp 0 ahl = result at left declared rest
    obtain ⟨ahl', outcome⟩ := result
    dsimp only at rest declared ⊢
    cases outcome with
    | returned avps =>
      dsimp only
      split
      · exact raises _
      · split
        · exact raises _
        · exact Outcome.declared_bind.mpr ⟨rest, fun _ _ => trivial⟩
    | thrown st =>
      dsimp only
      split
      · exact rest
      · trivial
    | escaped => exact declared.elim
    | fault => exact declared.elim

end Rules

section Payload

structure PaddedAvp where
  own : WireAvp
  padding : Octets
  aligned : own.octets.length + padding.length = adjustWordBoundary own.octets.length

namespace PaddedAvp

variable (a : PaddedAvp)

def octets : Octets := a.own.octets ++ a.padding

def header : AvpHeader := headerAt a.own.octets 0

def identity : UInt32 × UInt32 × Bool := a.header.identity

structure WellFormed (env : ParserEnv) (dict : DiameterDictionary) : Prop where
  header : a.header.size ≤ a.own.octets.length
  value : ∀ rule ∈ dict.rules, rule.2.avp.matches a.header = true →
    avpVerdict env rule.2.avp (ownBlock rule.2.avp a.own) ≠ .beyond

end PaddedAvp

def payload (avps : List PaddedAvp) : Octets := avps.flatMap PaddedAvp.octets

theorem payload_cons (a : PaddedAvp) (avps : List PaddedAvp) : payload (a :: avps) = a.octets ++ payload avps := rfl

section Placed

variable {own : WireAvp} (before after : Octets)

theorem fixedAt_placed : fixedAt (before ++ own.octets ++ after) before.length = fixedAt own.octets 0 := by
  unfold fixedAt
  rw [List.append_assoc, List.drop_left, List.drop_zero, List.take_append_of_le_length own.header]

/-- The header is read where the AVP stands as it is read from the AVP alone. -/
theorem identity_placed (covered : (headerAt own.octets 0).size ≤ own.octets.length) :
    (headerAt (before ++ own.octets ++ after) before.length).identity = (headerAt own.octets 0).identity := by
  have bit : vendorBitAt (before ++ own.octets ++ after) before.length = vendorBitAt own.octets 0 := by
    rw [vendorBitAt, fixedAt_placed]
    rfl
  unfold AvpHeader.identity headerAt
  dsimp only
  rw [codeAt, fixedAt_placed, bit]
  cases vendor : vendorBitAt own.octets 0 with
  | false => rfl
  | true =>
    have room : 12 ≤ own.octets.length := by
      rw [AvpHeader.size, headerAt, vendor] at covered
      exact covered
    have octets : ((before ++ own.octets ++ after).drop (before.length + 8)).take 4 = (own.octets.drop 8).take 4 := by
      rw [List.append_assoc, ← List.drop_drop, List.drop_left, List.drop_append_of_le_length (by omega),
        List.take_append_of_le_length (by rw [List.length_drop]; omega)]
    rw [octets]
    rfl

end Placed

def StandsFor (env : ParserEnv) (dict : DiameterDictionary) (memory : Octets) (h : AvpHeader) (a : PaddedAvp) : Prop :=
  h.identity = a.identity ∧ ∀ rule ∈ dict.rules, rule.2.avp.isWildcard = false → rule.2.avp.matches h = true →
    parseAvpValue env rule.2.avp (valueBlock memory rule.2.avp h) =
      parseAvpValue env rule.2.avp (ownBlock rule.2.avp a.own) ∧
    (parseAvpValue env rule.2.avp (ownBlock rule.2.avp a.own)).Declared

variable {env : ParserEnv} {dict : DiameterDictionary}

theorem standsFor_placed {a : PaddedAvp} (wellFormed : a.WellFormed env dict) (before after : Octets) :
    StandsFor env dict (before ++ a.own.octets ++ after)
      (headerAt (before ++ a.own.octets ++ after) before.length) a := by
  have identity := identity_placed before after wellFormed.header
  refine ⟨identity, ?_⟩
  intro rule member strict matched
  rw [matches_iff_identity strict, identity] at matched
  have covered := wellFormed.value rule member ((matches_iff_identity strict).mpr matched)
  rw [← parseAvpValue_verdict] at covered
  have declared := declared_iff_verdict.mpr covered
  exact ⟨(decodeAt_below env rule.2.avp before a.own after).eq declared.ne_fault, declared⟩

theorem createFrom_payload {memory : Octets} (rd : Nat) {avps : List PaddedAvp}
    (wellFormed : ∀ a ∈ avps, a.WellFormed env dict) (before : Octets) (parts : memory = before ++ payload avps) :
    ∃ ahl, createFrom (payloadBlock memory rd) before.length = .returned ahl ∧
      List.Forall₂ (StandsFor env dict memory) ahl avps := by
  induction avps generalizing before with
  | nil =>
    refine ⟨[], createFrom_end _ ?_, .nil⟩
    rw [parts]
    simp [payloadBlock, payload]
  | cons a avps ih =>
    obtain ⟨here, later⟩ := List.forall_mem_cons.mp wellFormed
    have whole : memory = before ++ a.own.octets ++ (a.padding ++ payload avps) := by
      rw [parts, payload_cons, PaddedAvp.octets, List.append_assoc, List.append_assoc]
    have length : lengthAt memory before.length = a.own.octets.length := by
      rw [whole]
      exact lengthAt_append before _ a.own
    have size : memory.length = before.length + a.own.octets.length + (a.padding ++ payload avps).length := by
      rw [whole, List.length_append, List.length_append]
    have header := a.own.header
    have stands : StandsFor env dict memory (headerAt memory before.length) a := whole ▸ standsFor_placed here before _
    have read : readAvpHeader (payloadBlock memory rd) before.length = .returned (headerAt memory before.length) := by
      have valid : ValidLength (payloadBlock memory rd) before.length := by
        unfold ValidLength payloadBlock
        rw [length]
        dsimp only
        omega
      rw [readAvpHeader_valid (by dsimp only [payloadBlock]; omega) valid, if_neg]
      · rfl
      · rintro ⟨bit, short⟩
        have bit' : (headerAt a.own.octets 0).v = (headerAt memory before.length).v := by
          have same := stands.1
          simp only [AvpHeader.identity, PaddedAvp.identity, PaddedAvp.header, Prod.mk.injEq] at same
          exact same.2.2.symm
        have covered := here.header
        rw [AvpHeader.size, PaddedAvp.header, bit', headerAt] at covered
        dsimp only [payloadBlock] at bit short
        rw [bit] at covered
        rw [if_pos rfl] at covered
        omega
    obtain ⟨ahl, made, related⟩ := ih later (before ++ a.octets) (by rw [parts, payload_cons, List.append_assoc])
    have position : (before ++ a.octets).length = before.length + adjustWordBoundary (headerAt memory before.length).length := by
      have own : (headerAt memory before.length).length = a.own.octets.length := length
      rw [own, ← a.aligned, List.length_append, PaddedAvp.octets, List.length_append]
    refine ⟨_, ?_, .cons stands related⟩
    rw [createFrom_step _ (by dsimp only [payloadBlock]; omega), read, Outcome.returned_bind, ← position, made]
    rfl

end Payload

section Main

variable {env : ParserEnv} {dict : DiameterDictionary}

theorem parseRawToAppWithDict_eq (block : MessageBlock) :
    parseRawToAppWithDict env block dict =
      (create block >>= fun ahl => containersOf (parseRules env (parseAvpValue env) block.base dict.rules ahl)) := by
  rw [parseRawToAppWithDict, parseBounds_eq]
  cases create block <;> rfl

/-- Without fixed rules and the wildcard, payloads of the same AVPs in orders that agree
on the AVPs of each identity give the same containers or the same exception. -/
theorem decode_reordered (env : ParserEnv) (dict : DiameterDictionary) (free : dict.avpF = [])
    (strict : ∀ rule ∈ dict.rules, rule.2.avp.isWildcard = false) (before : Octets) {avps avps' : List PaddedAvp}
    (wellFormed : ∀ a ∈ avps, a.WellFormed env dict) (reordered : Reordered PaddedAvp.identity avps avps') :
    parseRawToAppWithDict env (payloadBlock (before ++ payload avps) before.length) dict =
        parseRawToAppWithDict env (payloadBlock (before ++ payload avps') before.length) dict ∧
      ((∀ rule ∈ dict.rules, (getMinSize env.groupedAvpList rule.2.avp).Declared) →
        (parseRawToAppWithDict env (payloadBlock (before ++ payload avps) before.length) dict).Declared) := by
  have wellFormed' : ∀ a ∈ avps', a.WellFormed env dict := fun a member => wellFormed a (reordered.mem_iff.mpr member)
  obtain ⟨ahl, made, related⟩ := createFrom_payload before.length wellFormed before rfl
  obtain ⟨ahl', made', related'⟩ := createFrom_payload before.length wellFormed' before rfl
  have anywhere : ∀ rule ∈ dict.rules, rule.1 ≠ .fixedHead := by
    rintro ⟨pt, qavp⟩ member rfl
    rcases mem_rules.mp member with ⟨-, inFixed⟩ | ⟨wrong, -⟩ | ⟨wrong, -⟩
    · rw [free] at inFixed
      cases inFixed
    · cases wrong
    · cases wrong
  rw [parseRawToAppWithDict_eq, parseRawToAppWithDict_eq]
  have cut : create (payloadBlock (before ++ payload avps) before.length) = .returned ahl := made
  have cut' : create (payloadBlock (before ++ payload avps') before.length) = .returned ahl' := made'
  rw [cut, cut', Outcome.returned_bind, Outcome.returned_bind]
  dsimp only [payloadBlock]
  refine ⟨?_, fun sized => ?_⟩
  · have alike := alike_of_reordered (fun _ _ stands => stands.1) (fun _ _ stands => stands.1) related related' reordered
    refine parseRules_alike anywhere strict ?_ alike
    rintro rule member h h' ⟨a, stands, stands'⟩ matched
    have noWildcard := strict rule member
    have matched' : rule.2.avp.matches h' = true := by
      rw [matches_iff_identity noWildcard] at matched ⊢
      rw [← matched, stands.1, stands'.1]
    rw [(stands.2 rule member noWildcard matched).1, (stands'.2 rule member noWildcard matched').1]
  · unfold containersOf
    refine Outcome.declared_bind.mpr ⟨parseRules_declared anywhere sized ?_, fun _ _ => trivial⟩
    intro rule member h inside matched
    obtain ⟨a, stands⟩ := exists_of_forall₂ related inside
    obtain ⟨equal, declared⟩ := stands.2 rule member (strict rule member) matched
    rw [equal]
    exact declared

def userNameEntry : DictionaryEntry := ⟨"User-Name", 1, .data, 0, flagMandatory, mandatory_unvendored, by decide⟩

def classEntry : DictionaryEntry := ⟨"Class", 25, .data, 0, flagMandatory, mandatory_unvendored, by decide⟩

def userDictionary : DiameterDictionary := ⟨[], [⟨userNameEntry, 1, 1⟩], [⟨classEntry, 0, 1⟩]⟩

def userNameAvp : PaddedAvp := ⟨⟨[0, 0, 0, 1, 0x40, 0, 0, 9, 1], by decide, by decide⟩, [0, 0, 0], by decide⟩

def classAvp : PaddedAvp := ⟨⟨[0, 0, 0, 25, 0x40, 0, 0, 12, 1, 2, 3, 4], by decide, by decide⟩, [], by decide⟩

theorem wellFormed_user : ∀ a ∈ [userNameAvp, classAvp], a.WellFormed bareEnv userDictionary := by
  have value : ∀ a ∈ [userNameAvp, classAvp], ∀ rule ∈ userDictionary.rules,
      avpVerdict bareEnv rule.2.avp (ownBlock rule.2.avp a.own) ≠ .beyond := by decide +kernel
  have header : ∀ a ∈ [userNameAvp, classAvp], a.header.size ≤ a.own.octets.length := by decide +kernel
  exact fun a member => ⟨header a member, fun rule inRules _ => value a member rule inRules⟩

theorem decode_reordered_user :
    parseRawToAppWithDict bareEnv (payloadBlock (payload [userNameAvp, classAvp]) 0) userDictionary =
        parseRawToAppWithDict bareEnv (payloadBlock (payload [classAvp, userNameAvp]) 0) userDictionary ∧
      ((∀ rule ∈ userDictionary.rules, (getMinSize bareEnv.groupedAvpList rule.2.avp).Declared) →
        (parseRawToAppWithDict bareEnv (payloadBlock (payload [userNameAvp, classAvp]) 0) userDictionary).Declared) :=
  decode_reordered bareEnv userDictionary rfl (by decide +kernel) [] wellFormed_user
    (@Reordered.swap _ _ PaddedAvp.identity [] userNameAvp classAvp [] (by decide +kernel))

end Main

end OpenDiameter.Parser
