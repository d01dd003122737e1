import OpenDiameter.Parser.Grouping

/-! What a decoded value depends on.

Memory behind an AVP can only turn a fault into something else, so a value that
is decoded without a fault from the octets of its own AVP is the same wherever
the AVP stands. Whether it is decoded so is a matter of lengths: those of the
AVP, and for a grouped AVP those of the members that are reached.
-/

set_option autoImplicit false

namespace OpenDiameter.Parser

open Foundation

section Extension

variable {env : ParserEnv}

def MessageBlock.extend (block : MessageBlock) (more : Octets) : MessageBlock :=
  { block with base := block.base ++ more }

theorem readOctets_below (memory more : Octets) (start count : Nat) :
    Outcome.Below (readOctets memory start count) (readOctets (memory ++ more) start count) := by
  unfold readOctets
  split
  case isTrue inside =>
    right
    have enough : start + count ≤ (memory ++ more).length := by
      rw [List.length_append]
      omega
    rw [if_pos enough, List.drop_append_of_le_length (Nat.le_of_add_right_le inside),
      List.take_append_of_le_length (by rw [List.length_drop]; omega)]
  case isFalse => exact Outcome.below_of_fault _

theorem readVendor_below (block : MessageBlock) (more : Octets) (cavp : Nat) (v : Bool) :
    Outcome.Below (readVendor block cavp v) (readVendor (block.extend more) cavp v) := by
  unfold readVendor
  split
  · exact readOctets_below _ _ _ _
  · exact .refl _

theorem readAvpHeader_below (block : MessageBlock) (more : Octets) (cavp : Nat) :
    Outcome.Below (readAvpHeader block cavp) (readAvpHeader (block.extend more) cavp) := by
  rcases readOctets_below block.base more cavp 8 with faulty | same
  · left
    unfold readAvpHeader
    rw [faulty]
  · unfold readAvpHeader
    rw [MessageBlock.extend, ← same]
    split
    · dsimp only
      split
      · exact .refl _
      · exact (readVendor_below block more cavp _).bind fun _ => .refl _
    all_goals exact .refl _

theorem createFrom_below (block : MessageBlock) (more : Octets) (cavp : Nat) :
    Outcome.Below (createFrom block cavp) (createFrom (block.extend more) cavp) := by
  induction remaining : block.size - cavp using Nat.strong_induction_on generalizing cavp with
  | _ distance ih =>
    rcases Nat.lt_or_ge cavp block.size with inside | past
    · rw [createFrom_step block inside, createFrom_step (block.extend more) inside]
      rcases readAvpHeader_below block more cavp with faulty | same
      · rw [faulty]
        exact Outcome.below_of_fault _
      · rw [← same]
        cases read : readAvpHeader block cavp with
        | returned h =>
          obtain ⟨-, positive, -, small⟩ := readAvpHeader_returned read
          have advance := le_adjustWordBoundary small
          clear small
          exact (ih _ (by omega) _ rfl).bind fun _ => .refl _
        | thrown st => exact .refl _
        | escaped => exact .refl _
        | fault => exact .refl _
    · rw [createFrom_end block past, createFrom_end (block.extend more) past]
      exact .refl _

theorem readUtf8_below (avp : DictionaryEntry) (block : MessageBlock) (more : Octets) :
    Outcome.Below (readUtf8 env avp block) (readUtf8 env avp (block.extend more)) :=
  (readOctets_below _ _ _ _).bind fun _ => .refl _

theorem parseValue_below {group other : MessageBlock → DiameterDictionary → Parse AvpContainerList}
    (avp : DictionaryEntry) (block : MessageBlock) (more : Octets)
    (members : ∀ dict, Outcome.Below (group block dict) (other (block.extend more) dict)) :
    Outcome.Below (parseValue env group avp block) (parseValue env other avp (block.extend more)) := by
  have word : ∀ count, Outcome.Below (readWord count block) (readWord count (block.extend more)) :=
    fun count => (readOctets_below _ _ _ _).bind fun _ => .refl _
  have text : Outcome.Below (readString block) (readString (block.extend more)) :=
    readOctets_below _ _ _ _
  unfold parseValue
  cases avp.avpType with
  | data => exact text.bind fun _ => .refl _
  | string => exact text.bind fun _ => .refl _
  | ipAddress => exact text.bind fun _ => .refl _
  | integer32 => exact (word 4).bind fun _ => .refl _
  | integer64 => exact (word 8).bind fun _ => .refl _
  | uinteger32 => exact (word 4).bind fun _ => .refl _
  | uinteger64 => exact (word 8).bind fun _ => .refl _
  | utf8String => exact (readUtf8_below _ _ _).bind fun _ => .refl _
  | enum => exact (word 4).bind fun _ => .refl _
  | diamId => exact (readUtf8_below _ _ _).bind fun _ => .refl _
  | diamUri => exact (readUtf8_below _ _ _).bind fun _ => .refl _
  | grouped =>
    dsimp only
    cases searchGroup env.groupedAvpList avp with
    | none => exact .refl _
    | some gavp => exact (members _).bind fun _ => .refl _
  | time => exact (word 4).bind fun _ => .refl _
  | ipFilterRule => exact (readUtf8_below _ _ _).bind fun _ => .refl _
  | custom => exact .refl _

theorem valueBlock_append (base more : Octets) (avp : DictionaryEntry) (h : AvpHeader) :
    valueBlock (base ++ more) avp h =
      (valueBlock base avp h).extend (more.drop (h.valueP + avp.headerLen - base.length)) := by
  simp only [valueBlock, MessageBlock.extend, List.drop_append]

section Rules

variable {value other : DictionaryEntry → MessageBlock → Parse AvpContainerEntry} {base more : Octets}

theorem parseAvps_below
    (values : ∀ avp h, Outcome.Below (value avp (valueBlock base avp h))
      (other avp (valueBlock (base ++ more) avp h)))
    (pt : AvpParseType) (avp : DictionaryEntry) (i : Nat) (ahl : List AvpHeader) :
    (parseAvps env value base pt avp i ahl).2 = .fault ∨
      parseAvps env value base pt avp i ahl = parseAvps env other (base ++ more) pt avp i ahl := by
  induction size : ahl.length using Nat.strong_induction_on generalizing ahl i with
  | _ size ih =>
    rw [parseAvps_step, parseAvps_step]
    cases parsed : parseAvpHeader env pt avp ahl with
    | returned taken =>
      obtain ⟨h, rest⟩ := taken
      have shorter := parseAvpHeader_length env parsed
      dsimp only at shorter ⊢
      rcases values avp h with faulty | same
      · left
        rw [faulty]
      · rw [← same]
        cases value avp (valueBlock base avp h) with
        | returned e =>
          rcases ih rest.length (by omega) (i + 1) rest rfl with faulty | rest
          · left
            dsimp only
            rw [faulty, Outcome.fault_bind]
          · right
            dsimp only
            rw [rest]
        | thrown st => exact .inr rfl
        | escaped => exact .inr rfl
        | fault => exact .inr rfl
    | thrown st => exact .inr rfl
    | escaped => exact .inr rfl
    | fault => exact .inr rfl

theorem parseRules_below
    (values : ∀ avp h, Outcome.Below (value avp (valueBlock base avp h))
      (other avp (valueBlock (base ++ more) avp h)))
    (rules : List (AvpParseType × QualifiedAvp)) (ahl : List AvpHeader) :
    Outcome.Below (parseRules env value base rules ahl)
      (parseRules env other (base ++ more) rules ahl) := by
  induction rules generalizing ahl with
  | nil => exact .refl _
  | cons rule rules ih =>
    obtain ⟨pt, qavp⟩ := rule
    unfold parseRules
    rcases @parseAvps_below env value other base more values pt qavp.avp 0 ahl with faulty | same
    · left
      generalize parseAvps env value base pt qavp.avp 0 ahl = result at faulty
      obtain ⟨left, outcome⟩ := result
      dsimp only at faulty
      rw [faulty]
    · rw [← same]
      generalize parseAvps env value base pt qavp.avp 0 ahl = result
      obtain ⟨left, outcome⟩ := result
      cases outcome with
      | returned avps =>
        dsimp only
        split
        · exact .refl _
        split
        · exact .refl _
        · exact (ih left).bind fun _ => .refl _
      | thrown st =>
        dsimp only
        split
        · exact ih left
        · exact .refl _
      | escaped => exact .refl _
      | fault => exact .refl _

end Rules

theorem parseWithin_below (fuel fuel' : Nat) (enough : fuel ≤ fuel') (block : MessageBlock)
    (more : Octets) (dict : DiameterDictionary) :
    Outcome.Below (parseWithin env fuel block dict) (parseWithin env fuel' (block.extend more) dict) := by
  induction fuel generalizing fuel' block more dict with
  | zero => exact Outcome.below_of_fault _
  | succ fuel ih =>
    obtain ⟨fuel', rfl⟩ : ∃ less, fuel' = less + 1 := ⟨fuel' - 1, by omega⟩
    rw [parseWithin, parseWithin]
    apply (createFrom_below block more block.rd).bind
    intro ahl
    apply parseRules_below
    intro avp h
    rw [valueBlock_append]
    apply parseValue_below
    intro members
    exact (ih fuel' (Nat.le_of_succ_le_succ enough) _ _ members).bind fun _ => .refl _

/-- More memory behind the block leaves every result but a fault. -/
theorem parseAvpValue_below (avp : DictionaryEntry) (block : MessageBlock) (more : Octets) :
    Outcome.Below (parseAvpValue env avp block) (parseAvpValue env avp (block.extend more)) := by
  apply parseValue_below
  intro dict
  have longer : block.base.length + 1 ≤ (block.extend more).base.length + 1 := by
    simp only [MessageBlock.extend, List.length_append]
    omega
  exact (parseWithin_below _ _ longer block more dict).bind fun _ => .refl _

end Extension

end OpenDiameter.Parser
