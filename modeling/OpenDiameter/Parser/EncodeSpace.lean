import OpenDiameter.Parser.RoundTrip

/-! How much space the encoder takes, and that it stays in its buffer. -/

set_option autoImplicit false

namespace OpenDiameter.Parser

open Foundation Foundation.Script

section Depth

theorem depth_le_depthEntries {e : AvpContainerEntry} {entries : List AvpContainerEntry} (member : e ∈ entries) :
    e.depth ≤ depthEntries entries := by
  induction entries with
  | nil => cases member
  | cons first entries ih =>
    rw [depthEntries]
    rcases List.mem_cons.mp member with rfl | later
    · exact Nat.le_max_left _ _
    · exact Nat.le_trans (ih later) (Nat.le_max_right _ _)

theorem depthEntries_le_depthList {c : AvpContainer AvpContainerEntry} {acl : AvpContainerList} (member : c ∈ acl) :
    depthEntries c.entries ≤ depthList acl := by
  induction acl with
  | nil => cases member
  | cons first acl ih =>
    rw [depthList]
    rcases List.mem_cons.mp member with rfl | later
    · cases c
      exact Nat.le_max_left _ _
    · exact Nat.le_trans (ih later) (Nat.le_max_right _ _)

theorem depth_ruleEntries {acl : AvpContainerList} {rule : AvpParseType × QualifiedAvp} {entries : List AvpContainerEntry}
    (accepted : ruleEntries acl rule = .returned entries) {e : AvpContainerEntry} (member : e ∈ entries) :
    e.depth ≤ depthList acl := by
  unfold ruleEntries at accepted
  cases found : searchContainer acl rule.2.avp.avpName with
  | none =>
    rw [found] at accepted
    dsimp only at accepted
    split at accepted <;> cases accepted
    cases member
  | some c =>
    have same : c.entries = entries := by
      rw [found] at accepted
      dsimp only at accepted
      split at accepted
      · cases accepted
      · split at accepted
        · cases accepted
        · split at accepted <;> cases accepted
          rfl
    rw [← same] at member
    exact Nat.le_trans (depth_le_depthEntries member) (depthEntries_le_depthList (List.mem_of_find?_eq_some found))

end Depth

section Faults

variable {env : ParserEnv} {group : AvpContainerList → DiameterDictionary → Script DiameterErrorCode}

/-- The values have no printed text of their own, and the errors about an AVP can be raised. -/
def Encodable (env : ParserEnv) (dict : DiameterDictionary) : Prop :=
  ∀ rule ∈ dict.rules, rule.2.avp.avpType ∉ [AvpDataType.diamUri, .ipFilterRule] ∧ Exampled env rule.2.avp

theorem Regular.encodable {dict : DiameterDictionary} (regular : Regular env dict) : Encodable env dict := by
  intro rule member
  have plain := regular.plain rule member
  exact ⟨fun printed => plain (List.mem_cons_of_mem _ printed), regular.exampled rule member⟩

theorem andThen_ne_fault {first second : Script DiameterErrorCode} (left : first.ending ≠ .fault)
    (right : second.ending ≠ .fault) : (first.andThen second).ending ≠ .fault := by
  unfold Foundation.Script.andThen
  split
  · exact right
  · exact left

theorem given_ne_fault {α : Type} {value : Parse α} {script : α → Script DiameterErrorCode} (sound : value ≠ .fault)
    (rest : ∀ a, value = .returned a → (script a).ending ≠ .fault) : (given value script).ending ≠ .fault := by
  cases value with
  | returned a => exact rest a rfl
  | thrown error => simp [given, stop]
  | escaped => simp [given, stop]
  | fault => exact absurd rfl sound

theorem raiseWith_ne_fault {α : Type} {avp : DictionaryEntry} (exampled : Exampled env avp) (error : ParseError) :
    (raiseWith env.groupedAvpList error avp : Parse α) ≠ .fault := by
  obtain ⟨st, raised, -⟩ := @raiseWith_exampled env α avp exampled error
  rw [raised]
  simp

theorem valueForm_ne_fault {avp : DictionaryEntry} (printed : avp.avpType ∉ [AvpDataType.diamUri, .ipFilterRule])
    (exampled : Exampled env avp) (e : AvpContainerEntry) : valueForm env avp e ≠ .fault := by
  have refused : (prohibited : Parse ValueForm) ≠ .fault := by simp [prohibited, raise]
  have word (size : Nat) (value : Option Nat) : wordForm size value ≠ .fault := by
    cases value <;> simp [wordForm, prohibited, raise]
  have utf8 (str : Octets) : writeUtf8 str ≠ .fault := by
    unfold writeUtf8
    split <;> simp [raise]
  have text {str : Parse Octets} (sound : str ≠ .fault) : (str >>= fun t => .returned (ValueForm.octets t)) ≠ .fault := by
    cases str <;> simp_all
  have identity (str : Octets) : writeDiamIdent env avp str ≠ .fault := by
    unfold writeDiamIdent
    split
    · exact utf8 str
    · exact raiseWith_ne_fault exampled _
  unfold valueForm
  cases typed : avp.avpType with
  | diamUri => simp [typed] at printed
  | ipFilterRule => simp [typed] at printed
  | custom => simp [raise]
  | integer32 => exact word _ _
  | uinteger32 => exact word _ _
  | enum => exact word _ _
  | time => exact word _ _
  | integer64 => exact word _ _
  | uinteger64 => exact word _ _
  | data => cases e <;> first | exact refused | simp
  | string => cases e <;> first | exact refused | simp
  | ipAddress => cases e <;> first | exact refused | simp
  | utf8String => cases e <;> first | exact refused | exact text (utf8 _)
  | diamId => cases e <;> first | exact refused | exact text (identity _)
  | grouped =>
    cases e with
    | grouped acl =>
      dsimp only
      split
      · exact raiseWith_ne_fault exampled _
      · simp
    | _ => exact refused

theorem ruleEntries_ne_fault (acl : AvpContainerList) (rule : AvpParseType × QualifiedAvp) : ruleEntries acl rule ≠ .fault := by
  unfold ruleEntries
  split
  · split <;> simp [raise]
  · split
    · simp [raise]
    · split
      · simp [raise]
      · split <;> simp [raise]

theorem avpScript_ne_fault {avp : DictionaryEntry} {e : AvpContainerEntry} (sound : valueForm env avp e ≠ .fault)
    (members : ∀ acl gavp, valueForm env avp e = .returned (.members acl gavp) → (group acl gavp).ending ≠ .fault) :
    (avpScript env group avp e).ending ≠ .fault := by
  have value : (valueScript env group avp e).ending ≠ .fault := given_ne_fault sound fun form formed => by
    cases form with
    | octets content => simp [formScript, single]
    | members acl dict => exact members acl dict formed
  have last (piece : Piece DiameterErrorCode) : (single piece).ending ≠ .fault := by simp [single]
  unfold avpScript
  dsimp only
  split
  · exact andThen_ne_fault value (last _)
  · exact andThen_ne_fault (last _) (andThen_ne_fault value (last _))

theorem avpsScript_ne_fault {avp : DictionaryEntry} {entries : List AvpContainerEntry}
    (each : ∀ e ∈ entries, (avpScript env group avp e).ending ≠ .fault) : (avpsScript env group avp entries).ending ≠ .fault := by
  induction entries with
  | nil => simp [avpsScript, done]
  | cons e entries ih =>
    exact andThen_ne_fault (each e List.mem_cons_self) (ih fun other member => each other (List.mem_cons_of_mem _ member))

theorem rulesScript_ne_fault {acl : AvpContainerList} {rules : List (AvpParseType × QualifiedAvp)}
    (each : ∀ rule ∈ rules, ∀ e, e.depth ≤ depthList acl → (avpScript env group rule.2.avp e).ending ≠ .fault) :
    (rulesScript env group acl rules).ending ≠ .fault := by
  induction rules with
  | nil => simp [rulesScript, done]
  | cons rule rules ih =>
    refine given_ne_fault (ruleEntries_ne_fault acl rule) fun entries accepted => andThen_ne_fault ?_ ?_
    · exact avpsScript_ne_fault fun e member =>
        each rule List.mem_cons_self e (depth_ruleEntries accepted member)
    · exact ih fun r member => each r (List.mem_cons_of_mem _ member)

theorem scriptWithin_ne_fault (groups : ∀ gavp ∈ env.groupedAvpList, Encodable env gavp.dict) {fuel : Nat}
    {acl : AvpContainerList} (enough : depthList acl < fuel) {dict : DiameterDictionary} (encodable : Encodable env dict) :
    (scriptWithin env fuel acl dict).ending ≠ .fault := by
  induction fuel generalizing acl dict with
  | zero => omega
  | succ fuel ih =>
    refine rulesScript_ne_fault fun rule member e shallow => ?_
    obtain ⟨printed, exampled⟩ := encodable rule member
    refine avpScript_ne_fault (valueForm_ne_fault printed exampled e) fun members dict' formed => ?_
    obtain ⟨-, rfl, gavp, found, rfl⟩ := valueForm_members formed
    rw [AvpContainerEntry.depth] at shallow
    exact ih (by omega) (groups gavp (List.mem_of_find?_eq_some found))

end Faults

def payloadSize (env : ParserEnv) (acl : AvpContainerList) (dict : DiameterDictionary) : Nat :=
  total (payloadScript env acl dict).pieces

variable {env : ParserEnv}

/-- The encoder never leaves a buffer of whole words with less room than an AVP can be
long: it does not fault, and what it writes lies between the write pointer it starts
from and the one it ends at. -/
theorem encoder_contained (groups : ∀ gavp ∈ env.groupedAvpList, Encodable env gavp.dict) {dict : DiameterDictionary}
    (encodable : Encodable env dict) (acl : AvpContainerList) {b : Buffer} (level : Level b) (aligned : b.wr % 4 = 0)
    (room : b.size - b.wr < 2 ^ 24) :
    parseAppToRawWithDict env acl dict b ≠ .fault ∧
      ∀ after, parseAppToRawWithDict env acl dict b = .returned after →
        after.wr = b.wr + payloadSize env acl dict ∧ after.wr ≤ b.size ∧ after.wr % 4 = 0 ∧
          after.memory.take b.wr = b.memory.take b.wr ∧ after.memory.drop after.wr = b.memory.drop after.wr := by
  have snug : Snug b.wr (payloadScript env acl dict).pieces := (payloadScript_snug env acl dict).shift (by omega)
  obtain ⟨sound, inside⟩ := run_level (payloadScript env acl dict).pieces level snug
  have ending : (payloadScript env acl dict).ending ≠ .fault := scriptWithin_ne_fault groups (Nat.lt_succ_self _) encodable
  rw [parseAppToRaw_eq env acl dict level aligned (.inl room)]
  refine ⟨?_, fun after encoded => ?_⟩
  · unfold exec
    cases ran : run (payloadScript env acl dict).pieces b with
    | fault => exact absurd ran sound
    | returned reached =>
      cases ended : (payloadScript env acl dict).ending with
      | fault => exact absurd ended ending
      | _ => simp
    | _ => simp
  · obtain ⟨ran, ok⟩ := exec_eq_returned.mp encoded
    obtain ⟨image, rendered, wr, memory⟩ := run_image level snug ran
    have size := renders_length rendered
    have whole := @whole_within env (depthList acl + 1) acl dict ok
    have fits := (inside after ran).2
    have sized := level.sized
    have bound := level.inside
    have front : (b.memory.take b.wr).length = b.wr := by
      rw [List.length_take]
      omega
    refine ⟨by rw [wr, size]; rfl, by omega, ?_, ?_, ?_⟩
    · have multiple : image.length % 4 = 0 := by rw [size]; exact whole
      omega
    · rw [memory, List.append_assoc]
      exact List.take_left' front
    · rw [memory, wr]
      exact List.drop_left' (by rw [List.length_append, front])

theorem encodable_relay_groups : ∀ gavp ∈ relayEnv.groupedAvpList, Encodable relayEnv gavp.dict :=
  fun gavp member => (regular_relay_groups gavp member).encodable

theorem encoder_contained_relay :
    parseAppToRawWithDict relayEnv relayList relayDictionary ⟨List.replicate 72 7, 72, 20⟩ ≠ .fault ∧
      ∀ after, parseAppToRawWithDict relayEnv relayList relayDictionary ⟨List.replicate 72 7, 72, 20⟩ = .returned after →
        after.wr = 20 + payloadSize relayEnv relayList relayDictionary ∧ after.wr ≤ 72 ∧ after.wr % 4 = 0 ∧
          after.memory.take 20 = List.replicate 20 7 ∧ after.memory.drop after.wr = (List.replicate 72 7).drop after.wr :=
  encoder_contained encodable_relay_groups regular_relay.encodable relayList ⟨rfl, rfl, by decide, by decide⟩ rfl
    (by decide)

end OpenDiameter.Parser
