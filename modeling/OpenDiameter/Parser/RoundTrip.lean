import OpenDiameter.Parser.Completeness
import OpenDiameter.Parser.Rendering
import OpenDiameter.Parser.Taking

/-! A payload that the encoder accepts is what the decoder returns.

The decoder gives back one container for each rule with entries, in dictionary
order, and every entry under the type of the dictionary.
-/

set_option autoImplicit false

namespace OpenDiameter.Parser

open Foundation

section Taking

variable {env : ParserEnv}

/-- The example AVP of an error about `avp` can be built. -/
def Exampled (env : ParserEnv) (avp : DictionaryEntry) : Prop :=
  ∃ octets, failedAvp env.groupedAvpList avp = .returned octets

theorem exampled_iff {avp : DictionaryEntry} : Exampled env avp ↔ (failedAvp env.groupedAvpList avp).value?.isSome = true := by
  unfold Exampled
  cases failedAvp env.groupedAvpList avp <;> simp [Outcome.value?]

instance instDecidableExampled (avp : DictionaryEntry) : Decidable (Exampled env avp) := decidable_of_iff' _ exampled_iff

theorem raiseWith_exampled {α : Type} {avp : DictionaryEntry} (exampled : Exampled env avp) (error : ParseError) :
    ∃ st, (raiseWith env.groupedAvpList error avp : Parse α) = .thrown st ∧ st.error = error := by
  obtain ⟨octets, built⟩ := exampled
  exact ⟨⟨error, octets⟩, by rw [raiseWith, built]; rfl, rfl⟩

theorem takeFirst_eq_none {α : Type} {test : α → Bool} {xs : List α} (fails : ∀ x ∈ xs, test x = false) :
    takeFirst test xs = none := by
  induction xs with
  | nil => rfl
  | cons x xs ih =>
    rw [takeFirst, if_neg (by simp [fails x]), ih fun y member => fails y (List.mem_cons_of_mem x member)]
    rfl

variable {pt : AvpParseType} {avp : DictionaryEntry} {base : Octets}

theorem strict_of_code (code : avp.avpCode ≠ 0) : avp.isWildcard = false := by
  simp [DictionaryEntry.isWildcard, code]

theorem parseAvpHeader_held (code : avp.avpCode ≠ 0) {e : AvpContainerEntry} {h : AvpHeader}
    (held : Held env base (avp, e) h) (rest : List AvpHeader) :
    parseAvpHeader env pt avp (h :: rest) = .returned (h, rest) := by
  have matching : avp.matches h = true := by
    rw [DictionaryEntry.matches, held.v, held.vendor, held.code]
    simp
  unfold parseAvpHeader
  dsimp only
  split
  · rw [if_pos held.code]
  · rw [takeFirst, if_pos matching]

theorem parseAvpHeader_other (code : avp.avpCode ≠ 0) (exampled : Exampled env avp) {ahl : List AvpHeader}
    (other : ∀ h ∈ ahl, h.code ≠ avp.avpCode) :
    ∃ st, parseAvpHeader env pt avp ahl = .thrown st ∧ st.error = .normal .missingAvp := by
  obtain ⟨st, raised, error⟩ := @raiseWith_exampled env (AvpHeader × List AvpHeader) avp exampled (.normal .missingAvp)
  refine ⟨st, ?_, error⟩
  cases ahl with
  | nil => exact raised
  | cons h rest =>
    have unmatched : takeFirst avp.matches (h :: rest) = none := takeFirst_eq_none fun h' member => by
      simp [DictionaryEntry.matches, strict_of_code code, other h' member]
    unfold parseAvpHeader
    dsimp only
    split
    · rw [if_neg (other h List.mem_cons_self), raised]
    · rw [unmatched]
      exact raised

/-- Taking the entries of one rule off the front, when at least one has been or will be taken. -/
theorem parseAvps_held (code : avp.avpCode ≠ 0) (exampled : Exampled env avp) {entries : List AvpContainerEntry}
    {taken left : List AvpHeader} (held : List.Forall₂ (Held env base) (entries.map fun e => (avp, e)) taken)
    (other : ∀ h ∈ left, h.code ≠ avp.avpCode) {i : Nat} (some : 0 < i ∨ entries ≠ []) :
    ∃ avps, parseAvps env (parseAvpValue env) base pt avp i (taken ++ left) = (left, .returned avps) ∧
      avps.map Prod.snd = entries := by
  induction entries generalizing taken i with
  | nil =>
    cases held
    obtain ⟨st, missing, error⟩ := @parseAvpHeader_other env pt avp code exampled _ other
    refine ⟨[], ?_, rfl⟩
    have before : 0 < i := some.resolve_right fun none => none rfl
    rw [parseAvps_step, List.nil_append, missing]
    dsimp only
    rw [if_pos ⟨before, error⟩]
  | cons e entries ih =>
    cases held with
    | @cons _ h _ taken first rest =>
      have value : parseAvpValue env avp (valueBlock base avp h) = .returned e := first.value
      obtain ⟨avps, parsed, same⟩ := ih rest (.inl (Nat.succ_pos i))
      refine ⟨(h, e) :: avps, ?_, congrArg (e :: ·) same⟩
      rw [parseAvps_step, List.cons_append, parseAvpHeader_held code first]
      dsimp only
      rw [value]
      dsimp only
      rw [parsed]
      rfl

theorem parseAvps_absent (code : avp.avpCode ≠ 0) (exampled : Exampled env avp) {ahl : List AvpHeader}
    (other : ∀ h ∈ ahl, h.code ≠ avp.avpCode) :
    ∃ st, parseAvps env (parseAvpValue env) base pt avp 0 ahl = (ahl, .thrown st) ∧ st.error = .normal .missingAvp := by
  obtain ⟨st, missing, error⟩ := @parseAvpHeader_other env pt avp code exampled _ other
  refine ⟨st, ?_, error⟩
  rw [parseAvps_step, missing]
  dsimp only
  rw [if_neg (by omega)]

end Taking

section Rules

variable {env : ParserEnv} {base : Octets}

structure Passes (rule : AvpParseType × QualifiedAvp) (entries : List AvpContainerEntry) : Prop where
  absent : entries = [] → rule.1 = .optional ∨ rule.2.min = 0
  present : entries ≠ [] → rule.2.min ≤ entries.length ∧ entries.length ≤ rule.2.max

def ruleContainer (rule : AvpParseType × QualifiedAvp) (entries : List AvpContainerEntry) :
    Option (AvpContainer AvpContainerEntry) :=
  if entries = [] then none else some ⟨rule.2.avp.avpName, rule.1, entries⟩

theorem forall₂_append {α β : Type} {R : α → β → Prop} {xs ys : List α} {zs : List β} (related : List.Forall₂ R (xs ++ ys) zs) :
    ∃ us vs, zs = us ++ vs ∧ List.Forall₂ R xs us ∧ List.Forall₂ R ys vs := by
  induction xs generalizing zs with
  | nil => exact ⟨[], zs, rfl, .nil, related⟩
  | cons x xs ih =>
    cases related with
    | cons first rest =>
      obtain ⟨us, vs, rfl, left, right⟩ := ih rest
      exact ⟨_ :: us, vs, rfl, .cons first left, right⟩

theorem codes_of_held {items : List (DictionaryEntry × AvpContainerEntry)} {ahl : List AvpHeader}
    (held : List.Forall₂ (Held env base) items ahl) : ahl.map AvpHeader.code = items.map fun item => item.1.avpCode := by
  induction held with
  | nil => rfl
  | cons first _ ih => rw [List.map_cons, List.map_cons, first.code, ih]

theorem parseRules_held {rules : List (AvpParseType × QualifiedAvp)} (entries : AvpParseType × QualifiedAvp → List AvpContainerEntry)
    (codes : (rules.map fun rule => rule.2.avp.avpCode).Nodup) (named : ∀ rule ∈ rules, rule.2.avp.avpCode ≠ 0)
    (exampled : ∀ rule ∈ rules, Exampled env rule.2.avp) (passes : ∀ rule ∈ rules, Passes rule (entries rule))
    {ahl : List AvpHeader}
    (held : List.Forall₂ (Held env base) (rules.flatMap fun rule => (entries rule).map fun e => (rule.2.avp, e)) ahl) :
    ∃ bounds, parseRules env (parseAvpValue env) base rules ahl = .returned (bounds, []) ∧
      bounds.map Bound.container = rules.filterMap fun rule => ruleContainer rule (entries rule) := by
  induction rules generalizing ahl with
  | nil =>
    cases held
    exact ⟨[], rfl, rfl⟩
  | cons rule rules ih =>
    rw [List.map_cons, List.nodup_cons] at codes
    rw [List.flatMap_cons] at held
    obtain ⟨taken, left, rfl, own, others⟩ := forall₂_append held
    obtain ⟨bounds, parsed, containers⟩ := ih codes.2 (fun r member => named r (List.mem_cons_of_mem _ member))
      (fun r member => exampled r (List.mem_cons_of_mem _ member)) (fun r member => passes r (List.mem_cons_of_mem _ member))
      others
    have other : ∀ h ∈ left, h.code ≠ rule.2.avp.avpCode := by
      intro h member same
      have among : h.code ∈ left.map AvpHeader.code := List.mem_map_of_mem member
      rw [codes_of_held others, List.map_flatMap] at among
      obtain ⟨r, inRules, found⟩ := List.mem_flatMap.mp among
      rw [List.map_map] at found
      obtain ⟨e, -, code⟩ := List.mem_map.mp found
      exact codes.1 (List.mem_map.mpr ⟨r, inRules, code.trans same⟩)
    have code := named rule List.mem_cons_self
    have example_ := exampled rule List.mem_cons_self
    have pass := passes rule List.mem_cons_self
    obtain ⟨pt, qavp⟩ := rule
    by_cases empty : entries (pt, qavp) = []
    · rw [empty] at own
      cases own
      obtain ⟨st, absent, error⟩ := @parseAvps_absent env pt qavp.avp base code example_ _ other
      have allowed := pass.absent empty
      refine ⟨bounds, ?_, ?_⟩
      · rw [parseRules, List.nil_append, absent]
        dsimp only
        rw [if_pos ⟨error, allowed⟩, parsed]
      · rw [List.filterMap_cons_none (by rw [ruleContainer, if_pos empty]), containers]
    · obtain ⟨avps, found, same⟩ := @parseAvps_held env pt qavp.avp base code example_ _ _ _ own other 0 (.inr empty)
      have count := pass.present empty
      rw [← same, List.length_map] at count
      refine ⟨⟨pt, qavp, avps⟩ :: bounds, ?_, ?_⟩
      · rw [parseRules, found]
        dsimp only
        rw [if_neg (Nat.not_lt.mpr count.1), if_neg (Nat.not_lt.mpr count.2), parsed]
        rfl
      · rw [List.map_cons, containers, List.filterMap_cons_some (by rw [ruleContainer, if_neg empty])]
        simp only [Bound.container, same]

end Rules

section Received

variable (env : ParserEnv) (receive : AvpContainerList → DiameterDictionary → AvpContainerList)

def receivedEntry (avp : DictionaryEntry) (e : AvpContainerEntry) : AvpContainerEntry :=
  match avp.avpType with
  | .integer32 => (e.word32?.map .integer32).getD e
  | .uinteger32 => (e.word32?.map .uinteger32).getD e
  | .enum => (e.word32?.map .enum).getD e
  | .time => (e.word32?.map .time).getD e
  | .integer64 => (e.word64?.map .integer64).getD e
  | .uinteger64 => (e.word64?.map .uinteger64).getD e
  | .diamId => match e with
    | .utf8String str => .diamId str
    | _ => e
  | .grouped => match e with
    | .grouped acl => match searchGroup env.groupedAvpList avp with
      | some gavp => .grouped (receive acl gavp.dict)
      | none => e
    | _ => e
  | _ => e

def sentEntries (acl : AvpContainerList) (rule : AvpParseType × QualifiedAvp) : List AvpContainerEntry :=
  match searchContainer acl rule.2.avp.avpName with
  | some c => c.entries
  | none => []

def receivedEntries (acl : AvpContainerList) (rule : AvpParseType × QualifiedAvp) : List AvpContainerEntry :=
  (sentEntries acl rule).map (receivedEntry env receive rule.2.avp)

end Received

def receivedWithin (env : ParserEnv) : Nat → AvpContainerList → DiameterDictionary → AvpContainerList
  | 0, _, _ => []
  | fuel + 1, acl, dict => dict.rules.filterMap fun rule =>
    ruleContainer rule (receivedEntries env (receivedWithin env fuel) acl rule)

def received (env : ParserEnv) (acl : AvpContainerList) (dict : DiameterDictionary) : AvpContainerList :=
  receivedWithin env (depthList acl + 1) acl dict

section Values

variable {env : ParserEnv} {avp : DictionaryEntry}

theorem readString_payload (str : Octets) : readString (payloadBlock str 0) = .returned str := by
  rw [readString, readOctets, payloadBlock, if_pos (Nat.le_of_eq (Nat.zero_add _)), List.drop_zero, List.take_length]

theorem readWord_payload {k n : Nat} (small : n < 256 ^ k) : readWord k (payloadBlock (bigEndian k n) 0) = .returned n := by
  have whole : (bigEndian k n).take k = bigEndian k n := List.take_of_length_le (Nat.le_of_eq (length_bigEndian k n))
  rw [readWord, readOctets, payloadBlock, if_pos (by rw [Nat.zero_add, length_bigEndian]), List.drop_zero, whole,
    Outcome.returned_bind, bigEndianValue_bigEndian_of_lt small]

theorem writeUtf8_returned {str text : Octets} (written : writeUtf8 str = .returned text) : text = str ∧ utf8Check str = 0 := by
  unfold writeUtf8 at written
  split at written
  case isTrue valid =>
    cases written
    exact ⟨rfl, valid⟩
  case isFalse => cases written

theorem readUtf8_payload {str : Octets} (valid : utf8Check str = 0) :
    readUtf8 env avp (payloadBlock str 0) = .returned str := by
  rw [readUtf8, readString_payload, Outcome.returned_bind, if_pos valid]

/-- The types whose values are read back as they were written. -/
def AvpDataType.Plain (type : AvpDataType) : Prop := type ∉ [AvpDataType.data, .diamUri, .ipFilterRule]

instance AvpDataType.instDecidablePlain (type : AvpDataType) : Decidable type.Plain := inferInstanceAs (Decidable (_ ∉ _))

theorem reads_word32 {value : Option UInt32} {content : Octets} (form : wordForm 4 (value.map UInt32.toNat) = .returned (.octets content))
    (type : UInt32 → AvpContainerEntry) (e : AvpContainerEntry) :
    (readWord 4 (payloadBlock content 0) >>= fun n => .returned (type (UInt32.ofNat n)) : Parse AvpContainerEntry) =
      .returned ((value.map type).getD e) := by
  cases value with
  | none => cases form
  | some value =>
    cases form
    rw [readWord_payload value.toNat_lt, Outcome.returned_bind, UInt32.ofNat_toNat]
    rfl

theorem reads_word64 {value : Option UInt64} {content : Octets} (form : wordForm 8 (value.map UInt64.toNat) = .returned (.octets content))
    (type : UInt64 → AvpContainerEntry) (e : AvpContainerEntry) :
    (readWord 8 (payloadBlock content 0) >>= fun n => .returned (type (UInt64.ofNat n)) : Parse AvpContainerEntry) =
      .returned ((value.map type).getD e) := by
  cases value with
  | none => cases form
  | some value =>
    cases form
    rw [readWord_payload value.toNat_lt, Outcome.returned_bind, UInt64.ofNat_toNat]
    rfl

theorem writeDiamIdent_octets {str content : Octets}
    (written : (writeDiamIdent env avp str >>= fun text => .returned (ValueForm.octets text) : Parse ValueForm) =
      .returned (.octets content)) : content = str ∧ env.grammars.diamident str = true ∧ utf8Check str = 0 := by
  obtain ⟨text, wrote, same⟩ := Outcome.bind_eq_returned.mp written
  cases same
  unfold writeDiamIdent at wrote
  split at wrote
  case isTrue accepted =>
    obtain ⟨rfl, valid⟩ := writeUtf8_returned wrote
    exact ⟨rfl, accepted, valid⟩
  case isFalse => exact absurd wrote raiseWith_ne_returned

theorem reads_octets {receive : AvpContainerList → DiameterDictionary → AvpContainerList} (plain : avp.avpType.Plain)
    {e : AvpContainerEntry} {content : Octets} (form : valueForm env avp e = .returned (.octets content)) :
    parseAvpValue env avp (payloadBlock content 0) = .returned (receivedEntry env receive avp e) := by
  unfold valueForm at form
  unfold parseAvpValue parseValue receivedEntry
  -- Three types are not plain, two hold no octets; each of the others reads what it wrote.
  cases typed : avp.avpType with
  | data => simp [AvpDataType.Plain, typed] at plain
  | diamUri => simp [AvpDataType.Plain, typed] at plain
  | ipFilterRule => simp [AvpDataType.Plain, typed] at plain
  | custom => rw [typed] at form; cases form
  | string =>
    rw [typed] at form
    cases e <;> cases form
    rw [readString_payload]
    rfl
  | integer32 => rw [typed] at form; exact reads_word32 form .integer32 e
  | uinteger32 => rw [typed] at form; exact reads_word32 form .uinteger32 e
  | enum => rw [typed] at form; exact reads_word32 form .enum e
  | time => rw [typed] at form; exact reads_word32 form .time e
  | integer64 => rw [typed] at form; exact reads_word64 form .integer64 e
  | uinteger64 => rw [typed] at form; exact reads_word64 form .uinteger64 e
  | utf8String =>
    rw [typed] at form
    cases e with
    | utf8String str =>
      obtain ⟨text, wrote, same⟩ := Outcome.bind_eq_returned.mp form
      cases same
      obtain ⟨rfl, valid⟩ := writeUtf8_returned wrote
      rw [readUtf8_payload valid]
      rfl
    | _ => cases form
  -- Two octets of family precede the address, so that the short read does not happen.
  | ipAddress =>
    rw [typed] at form
    cases e with
    | ipAddress type value =>
      cases form
      dsimp only
      have whole : ¬(bigEndian 2 type.toNat ++ value).length < 2 := by
        rw [List.length_append, length_bigEndian]
        omega
      rw [readString_payload, Outcome.returned_bind, if_neg whole, List.take_left' (length_bigEndian 2 _),
        List.drop_left' (length_bigEndian 2 _), bigEndianValue_bigEndian_of_lt type.toNat_lt, UInt16.ofNat_toNat]
      rfl
    | _ => cases form
  | diamId =>
    rw [typed] at form
    cases e with
    | diamId str | utf8String str =>
      obtain ⟨rfl, accepted, valid⟩ := writeDiamIdent_octets form
      dsimp only
      rw [readUtf8_payload valid, Outcome.returned_bind, if_pos accepted]
      rfl
    | _ => cases form
  | grouped =>
    rw [typed] at form
    cases e with
    | grouped acl =>
      dsimp only at form
      split at form
      · exact absurd form raiseWith_ne_returned
      · cases form
    | _ => cases form

end Values

section Payload

open Foundation.Script

variable {env : ParserEnv} {avp : DictionaryEntry} {group : AvpContainerList → DiameterDictionary → Script DiameterErrorCode}
  {receive : AvpContainerList → DiameterDictionary → AvpContainerList}

/-- Rules that the decoder undoes: their codes tell them apart, what is demanded is
allowed, and the error about a missing AVP can be raised. -/
structure Regular (env : ParserEnv) (dict : DiameterDictionary) : Prop where
  codes : (dict.rules.map fun rule => rule.2.avp.avpCode).Nodup
  named : ∀ rule ∈ dict.rules, rule.2.avp.avpCode ≠ 0
  plain : ∀ rule ∈ dict.rules, rule.2.avp.avpType.Plain
  demanded : ∀ rule ∈ dict.rules, rule.1 = .optional ∨ (rule.2.max = 0 → rule.2.min = 0)
  exampled : ∀ rule ∈ dict.rules, Exampled env rule.2.avp

/-- What the script lays out is decoded to `acl`. -/
def Receives (env : ParserEnv) (script : Script DiameterErrorCode) (dict : DiameterDictionary) (acl : AvpContainerList) : Prop :=
  script.ending = .returned () → ∀ before image, Renders script.pieces image → image.length < 2 ^ 24 →
    parseRawToAppWithDict env (payloadBlock (before ++ image) before.length) dict = .returned acl

theorem valueForm_members {e : AvpContainerEntry} {acl : AvpContainerList} {dict : DiameterDictionary}
    (form : valueForm env avp e = .returned (.members acl dict)) :
    avp.avpType = .grouped ∧ e = .grouped acl ∧ ∃ gavp, searchGroup env.groupedAvpList avp = some gavp ∧ gavp.dict = dict := by
  have text (text : Parse Octets) : (text >>= fun str => .returned (ValueForm.octets str)) ≠ .returned (.members acl dict) := by
    cases text <;> simp
  have word (size : Nat) (value : Option Nat) : wordForm size value ≠ .returned (.members acl dict) := by
    cases value <;> simp [wordForm, prohibited, raise]
  unfold valueForm at form
  cases typed : avp.avpType with
  | grouped =>
    rw [typed] at form
    cases e with
    | grouped members =>
      dsimp only at form
      split at form
      · exact absurd form raiseWith_ne_returned
      case h_2 gavp found =>
        cases form
        exact ⟨rfl, rfl, gavp, found, rfl⟩
    | _ => cases form
  | integer32 => rw [typed] at form; exact absurd form (word _ _)
  | uinteger32 => rw [typed] at form; exact absurd form (word _ _)
  | enum => rw [typed] at form; exact absurd form (word _ _)
  | time => rw [typed] at form; exact absurd form (word _ _)
  | integer64 => rw [typed] at form; exact absurd form (word _ _)
  | uinteger64 => rw [typed] at form; exact absurd form (word _ _)
  | data => rw [typed] at form; cases e <;> cases form
  | string => rw [typed] at form; cases e <;> cases form
  | ipAddress => rw [typed] at form; cases e <;> cases form
  | custom => rw [typed] at form; cases form
  | utf8String => rw [typed] at form; cases e <;> first | exact absurd form (text _) | cases form
  | diamId => rw [typed] at form; cases e <;> first | exact absurd form (text _) | cases form
  | diamUri => rw [typed] at form; cases e <;> first | exact absurd form (text _) | cases form
  | ipFilterRule => rw [typed] at form; cases e <;> first | exact absurd form (text _) | cases form

theorem reads_value (plain : avp.avpType.Plain)
    (members : ∀ acl, ∀ gavp ∈ env.groupedAvpList, Receives env (group acl gavp.dict) gavp.dict (receive acl gavp.dict))
    {e : AvpContainerEntry} (ok : (valueScript env group avp e).ending = .returned ()) {image : Octets}
    (rendered : Renders (valueScript env group avp e).pieces image) (small : image.length < 2 ^ 24) :
    parseAvpValue env avp (payloadBlock image 0) = .returned (receivedEntry env receive avp e) := by
  obtain ⟨form, formed⟩ := given_ending ok
  rw [valueScript, formed] at ok rendered
  cases form with
  | octets content =>
    obtain ⟨rest, rfl, none⟩ := rendered
    rw [none, List.append_nil]
    exact reads_octets plain formed
  | members acl dict =>
    obtain ⟨typed, rfl, gavp, found, rfl⟩ := valueForm_members formed
    have decoded := members acl gavp (List.mem_of_find?_eq_some found) ok [] image rendered small
    unfold parseAvpValue parseValue receivedEntry
    rw [typed]
    dsimp only
    rw [found]
    dsimp only
    rw [List.nil_append] at decoded
    rw [show payloadBlock image 0 = payloadBlock image ([] : Octets).length from rfl, decoded]
    rfl

theorem carries_avp (plain : avp.avpType.Plain)
    (members : ∀ acl, ∀ gavp ∈ env.groupedAvpList, Receives env (group acl gavp.dict) gavp.dict (receive acl gavp.dict))
    {e : AvpContainerEntry} (ok : (avpScript env group avp e).ending = .returned ()) {image : Octets}
    (rendered : Renders (avpScript env group avp e).pieces image) (small : image.length < 2 ^ 24) :
    Carries env [(avp, receivedEntry env receive avp e)] image := by
  have typed : avp.avpType ≠ .data := fun any => plain (by rw [any]; exact List.mem_cons_self)
  unfold avpScript at ok rendered
  dsimp only at ok rendered
  rw [if_neg typed] at ok rendered
  obtain ⟨-, inner, pieces⟩ := andThen_returned ok
  obtain ⟨valued, -, pieces'⟩ := andThen_returned inner
  rw [pieces, pieces', renders_append] at rendered
  obtain ⟨header, behind, rfl, ⟨none, rfl, empty⟩, more⟩ := rendered
  obtain ⟨value, gap, rfl, laid, ⟨padding, none', padded, rfl, empty'⟩⟩ := renders_append.mp more
  rw [← renders_length laid] at padded small ⊢
  have size := length_sentHeader typed (avp.headerLen + value.length)
  rw [empty, empty', List.append_nil, List.append_nil] at small ⊢
  rw [List.length_append, List.length_append, size] at small
  have reads := reads_value plain members valued laid (by omega)
  have row := Carries.cons typed reads (by omega) padded .nil
  rw [List.append_nil, List.append_assoc] at row
  exact row

theorem carries_avps (plain : avp.avpType.Plain)
    (members : ∀ acl, ∀ gavp ∈ env.groupedAvpList, Receives env (group acl gavp.dict) gavp.dict (receive acl gavp.dict))
    {entries : List AvpContainerEntry} (ok : (avpsScript env group avp entries).ending = .returned ()) {image : Octets}
    (rendered : Renders (avpsScript env group avp entries).pieces image) (small : image.length < 2 ^ 24) :
    Carries env ((entries.map (receivedEntry env receive avp)).map fun e => (avp, e)) image := by
  induction entries generalizing image with
  | nil =>
    rw [show image = [] from rendered]
    exact .nil
  | cons e entries ih =>
    obtain ⟨first, rest, pieces⟩ := andThen_returned ok
    rw [avpsScript, pieces, renders_append] at rendered
    obtain ⟨left, right, rfl, low, high⟩ := rendered
    rw [List.length_append] at small
    exact (carries_avp plain members first low (by omega)).append (ih rest high (by omega))

theorem ruleEntries_returned {acl : AvpContainerList} {rule : AvpParseType × QualifiedAvp} {entries : List AvpContainerEntry}
    (accepted : ruleEntries acl rule = .returned entries) (demanded : rule.1 = .optional ∨ (rule.2.max = 0 → rule.2.min = 0)) :
    entries = sentEntries acl rule ∧ Passes rule (receivedEntries env receive acl rule) := by
  unfold ruleEntries at accepted
  unfold receivedEntries sentEntries
  cases found : searchContainer acl rule.2.avp.avpName with
  | none =>
    rw [found] at accepted
    dsimp only at accepted
    split at accepted
    · cases accepted
    case isFalse allowed =>
      cases accepted
      refine ⟨rfl, fun _ => ?_, fun some => absurd rfl some⟩
      by_cases free : rule.1 = .optional
      · exact .inl free
      · have empty := demanded.resolve_left free
        by_contra asked
        exact allowed ⟨by omega, by omega, free⟩
  | some c =>
    rw [found] at accepted
    dsimp only at accepted
    split at accepted
    · cases accepted
    · split at accepted
      · cases accepted
      · split at accepted
        · cases accepted
        case isFalse enough few =>
          cases accepted
          refine ⟨rfl, fun none => ?_, fun _ => ?_⟩
          · have empty : c.entries = [] := List.map_eq_nil_iff.mp none
            rw [empty] at enough
            exact .inr (Nat.le_zero.mp (Nat.not_lt.mp enough))
          · rw [List.length_map]
            exact ⟨Nat.not_lt.mp enough, Nat.not_lt.mp few⟩

theorem carries_rules
    (members : ∀ acl, ∀ gavp ∈ env.groupedAvpList, Receives env (group acl gavp.dict) gavp.dict (receive acl gavp.dict))
    {acl : AvpContainerList} {rules : List (AvpParseType × QualifiedAvp)} (plain : ∀ rule ∈ rules, rule.2.avp.avpType.Plain)
    (demanded : ∀ rule ∈ rules, rule.1 = .optional ∨ (rule.2.max = 0 → rule.2.min = 0))
    (ok : (rulesScript env group acl rules).ending = .returned ()) {image : Octets}
    (rendered : Renders (rulesScript env group acl rules).pieces image) (small : image.length < 2 ^ 24) :
    Carries env (rules.flatMap fun rule => (receivedEntries env receive acl rule).map fun e => (rule.2.avp, e)) image ∧
      ∀ rule ∈ rules, Passes rule (receivedEntries env receive acl rule) := by
  induction rules generalizing image with
  | nil =>
    rw [show image = [] from rendered]
    exact ⟨.nil, fun rule member => by cases member⟩
  | cons rule rules ih =>
    obtain ⟨entries, accepted⟩ := given_ending ok
    rw [rulesScript, accepted] at ok rendered
    obtain ⟨first, rest, pieces⟩ := andThen_returned ok
    rw [given, pieces, renders_append] at rendered
    obtain ⟨left, right, rfl, low, high⟩ := rendered
    rw [List.length_append] at small
    obtain ⟨rfl, pass⟩ := @ruleEntries_returned env receive acl rule entries accepted (demanded rule List.mem_cons_self)
    obtain ⟨carries, passes⟩ := ih (fun r member => plain r (List.mem_cons_of_mem _ member))
      (fun r member => demanded r (List.mem_cons_of_mem _ member)) rest high (by omega)
    refine ⟨?_, ?_⟩
    · rw [List.flatMap_cons]
      exact (carries_avps (plain rule List.mem_cons_self) members first low (by omega)).append carries
    · intro r member
      rcases List.mem_cons.mp member with rfl | later
      · exact pass
      · exact passes r later

theorem receives_within (groups : ∀ gavp ∈ env.groupedAvpList, Regular env gavp.dict) (fuel : Nat) {acl : AvpContainerList}
    {dict : DiameterDictionary} (regular : Regular env dict) :
    Receives env (scriptWithin env fuel acl dict) dict (receivedWithin env fuel acl dict) := by
  induction fuel generalizing acl dict with
  | zero => exact fun ok => by cases ok
  | succ fuel ih =>
    intro ok before image rendered small
    have members : ∀ acl, ∀ gavp ∈ env.groupedAvpList,
        Receives env (scriptWithin env fuel acl gavp.dict) gavp.dict (receivedWithin env fuel acl gavp.dict) :=
      fun acl gavp member => ih (groups gavp member)
    obtain ⟨carries, passes⟩ := carries_rules members regular.plain regular.demanded ok rendered small
    obtain ⟨ahl, made, held⟩ := create_carries carries before [] before.length
    rw [List.append_nil, ← List.length_append] at made
    rw [List.append_nil] at held
    obtain ⟨bounds, parsed, containers⟩ := parseRules_held (receivedEntries env (receivedWithin env fuel) acl)
      regular.codes regular.named regular.exampled passes held
    have created : create (payloadBlock (before ++ image) before.length) = .returned ahl := made
    rw [parseRawToAppWithDict, parseBounds_eq, created, Outcome.returned_bind, payloadBlock]
    dsimp only
    rw [parsed, Outcome.returned_bind, containers]
    rfl

section Written

variable (groups : ∀ gavp ∈ env.groupedAvpList, Regular env gavp.dict) {dict : DiameterDictionary} (regular : Regular env dict)
  {acl : AvpContainerList} {b after : Buffer} (level : Level b) (aligned : b.wr % 4 = 0)
  (encoded : parseAppToRawWithDict env acl dict b = .returned after) (small : after.wr - b.wr < 2 ^ 24)

include level aligned encoded small

theorem written_image : (payloadScript env acl dict).ending = .returned () ∧
    ∃ image, Renders (payloadScript env acl dict).pieces image ∧ after.wr = b.wr + image.length ∧
      after.memory.take after.wr = b.memory.take b.wr ++ image := by
  have snug := payloadScript_snug env acl dict
  have moved := parseAppToRaw_moves level aligned encoded
  rw [parseAppToRaw_eq env acl dict level aligned (.inr (by omega))] at encoded
  obtain ⟨ran, ok⟩ := exec_eq_returned.mp encoded
  obtain ⟨image, rendered, wr, memory⟩ := run_image level (snug.shift (by omega)) ran
  have inside := level.inside
  have sized := level.sized
  have front : (b.memory.take b.wr).length = b.wr := by
    rw [List.length_take]
    omega
  refine ⟨ok, image, rendered, wr, ?_⟩
  rw [memory, wr]
  exact List.take_left' (by rw [List.length_append, front])

include groups regular

theorem written_received :
    parseRawToAppWithDict env (payloadBlock (after.memory.take after.wr) b.wr) dict = .returned (received env acl dict) := by
  obtain ⟨ok, image, rendered, wr, written⟩ := written_image level aligned encoded small
  have inside := level.inside
  have sized := level.sized
  have decoded := receives_within groups _ regular ok (b.memory.take b.wr) image rendered (by omega)
  rw [List.length_take, Nat.min_eq_left (by omega)] at decoded
  rw [written]
  exact decoded

end Written

/-- Round trip of a payload: what the encoder accepts from a word boundary of a buffer
of whole words, the decoder returns, whatever is in front of it. -/
theorem payload_roundTrip (groups : ∀ gavp ∈ env.groupedAvpList, Regular env gavp.dict) {dict : DiameterDictionary}
    (regular : Regular env dict) {acl : AvpContainerList} {b after : Buffer} (level : Level b) (aligned : b.wr % 4 = 0)
    (encoded : parseAppToRawWithDict env acl dict b = .returned after) (small : after.wr - b.wr < 2 ^ 24) :
    after.memory.take b.wr = b.memory.take b.wr ∧
      parseRawToAppWithDict env (payloadBlock (after.memory.take after.wr) b.wr) dict = .returned (received env acl dict) := by
  refine ⟨?_, written_received groups regular level aligned encoded small⟩
  obtain ⟨-, image, -, wr, written⟩ := written_image level aligned encoded small
  have inside := level.inside
  have sized := level.sized
  have front := congrArg (List.take b.wr) written
  rwa [List.take_take, Nat.min_eq_left (by omega), List.take_left' (by rw [List.length_take]; omega)] at front

def proxyHost : DictionaryEntry := ⟨"Proxy-Host", 280, .diamId, 0, flagMandatory, mandatory_unvendored, by decide⟩

def proxyState : DictionaryEntry := ⟨"Proxy-State", 33, .string, 0, flagMandatory, mandatory_unvendored, by decide⟩

def originStateId : DictionaryEntry := ⟨"Origin-State-Id", 278, .uinteger32, 0, flagMandatory, mandatory_unvendored, by decide⟩

def proxyMembers : DiameterDictionary := ⟨[], [⟨proxyHost, 1, 1⟩, ⟨proxyState, 1, 1⟩], []⟩

def relayEnv : ParserEnv := ⟨[⟨284, 0, proxyMembers⟩], ⟨fun _ => true, fun _ => none, fun _ => none⟩⟩

def relayDictionary : DiameterDictionary := ⟨[], [⟨originStateId, 0, 1⟩], [⟨proxyInfoEntry, 0, 5⟩]⟩

theorem regular_relay : Regular relayEnv relayDictionary :=
  ⟨by decide, by decide, by decide, by decide, by decide +kernel⟩

theorem regular_relay_groups : ∀ gavp ∈ relayEnv.groupedAvpList, Regular relayEnv gavp.dict := by
  intro gavp member
  rw [List.mem_singleton.mp member]
  exact ⟨by decide, by decide, by decide, by decide, by decide +kernel⟩

def relayList : AvpContainerList :=
  [⟨"Proxy-Info", .optional,
      [.grouped [⟨"Proxy-State", .required, [.string [1, 2, 3]]⟩, ⟨"Proxy-Host", .required, [.utf8String [0x61]]⟩]]⟩,
    ⟨"Origin-State-Id", .required, [.enum 7]⟩]

theorem payload_roundTrip_relay :
    ∃ after, parseAppToRawWithDict relayEnv relayList relayDictionary ⟨List.replicate 64 0, 64, 20⟩ = .returned after ∧
      after.memory.take 20 = List.replicate 20 0 ∧
      parseRawToAppWithDict relayEnv (payloadBlock (after.memory.take after.wr) 20) relayDictionary =
        .returned (received relayEnv relayList relayDictionary) := by
  obtain ⟨after, encoded, reached⟩ := @Outcome.exists_of_view _ _ _
    (parseAppToRawWithDict relayEnv relayList relayDictionary ⟨List.replicate 64 0, 64, 20⟩) Buffer.wr 64 (by decide +kernel)
  exact ⟨after, encoded, payload_roundTrip regular_relay_groups regular_relay ⟨rfl, rfl, by decide, by decide⟩ rfl encoded
    (by rw [reached]; decide)⟩

end Payload

end OpenDiameter.Parser
