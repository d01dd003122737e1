import OpenDiameter.Foundation.Padding
import OpenDiameter.Parser.Grouping
import OpenDiameter.Parser.Text

/-! The payload encoder: AVP containers to raw octets.

The encoder moves a write pointer through a buffer and writes every header twice,
the second time with the length. `scriptWithin` is what it lays out, without a
buffer; the two agree in every buffer of whole words.
-/

set_option autoImplicit false

namespace OpenDiameter.Parser

open Foundation

section Value

variable (env : ParserEnv)

inductive ValueForm where
  | octets (content : Octets)
  | members (acl : AvpContainerList) (dict : DiameterDictionary)

def AvpContainerEntry.word32? : AvpContainerEntry → Option UInt32
  | .integer32 value => some value
  | .uinteger32 value => some value
  | .enum value => some value
  | .time value => some value
  | _ => none

def AvpContainerEntry.word64? : AvpContainerEntry → Option UInt64
  | .integer64 value => some value
  | .uinteger64 value => some value
  | _ => none

def prohibited {α : Type} : Parse α := raise (.bug .prohibitedContainer)

/-- `DiamidentParser::parseAppToRaw` up to the octets: the grammar first, then UTF-8. -/
def writeDiamIdent (avp : DictionaryEntry) (str : Octets) : Parse Octets :=
  if env.grammars.diamident str then writeUtf8 str else raiseWith env.groupedAvpList (.normal .invalidAvpValue) avp

/-- `IPFilterRuleParser::parseAppToRaw` up to the octets. -/
def writeFilterText (avp : DictionaryEntry) (r : IpFilterRule) : Parse Octets := do
  let text ← r.print
  match env.grammars.ipFilterRule text with
  | some _ => writeUtf8 text
  | none => raiseWith env.groupedAvpList (.normal .invalidAvpValue) avp

/-- A word in network byte order, if the entry holds one. -/
def wordForm (size : Nat) (value : Option Nat) : Parse ValueForm :=
  value.elim prohibited fun n => .returned (.octets (bigEndian size n))

/-- The value parsers' `parseAppToRaw` before the space check, by the type of the
dictionary entry. The tag of the container entry is checked by each of them. -/
def valueForm (avp : DictionaryEntry) (e : AvpContainerEntry) : Parse ValueForm :=
  match avp.avpType with
  | .data => match e with
    | .data str => .returned (.octets str)
    | _ => prohibited
  | .string => match e with
    | .string str => .returned (.octets str)
    | _ => prohibited
  | .integer32 | .uinteger32 | .enum | .time => wordForm 4 (e.word32?.map UInt32.toNat)
  | .integer64 | .uinteger64 => wordForm 8 (e.word64?.map UInt64.toNat)
  | .utf8String => match e with
    | .utf8String str => writeUtf8 str >>= fun text => .returned (.octets text)
    | _ => prohibited
  | .ipAddress => match e with
    | .ipAddress type value => .returned (.octets (bigEndian 2 type.toNat ++ value))
    | _ => prohibited
  | .diamId => match e with
    | .diamId str => writeDiamIdent env avp str >>= fun text => .returned (.octets text)
    | .utf8String str => writeDiamIdent env avp str >>= fun text => .returned (.octets text)
    | _ => prohibited
  | .diamUri => match e with
    | .diamUri uri => uri.print >>= writeUtf8 >>= fun text => .returned (.octets text)
    | _ => prohibited
  | .ipFilterRule => match e with
    | .ipFilterRule r => writeFilterText env avp r >>= fun text => .returned (.octets text)
    | _ => prohibited
  | .grouped => match e with
    | .grouped acl => match searchGroup env.groupedAvpList avp with
      | none => raiseWith env.groupedAvpList (.normal .avpUnsupported) avp
      | some gavp => .returned (.members acl gavp.dict)
    | _ => prohibited
  -- `createAvpValueParser` finds no such type
  | .custom => raise (.bug .missingAvpDictionaryEntry)

def outOfSpace : DiameterErrorCode := ⟨.normal .outOfSpace, []⟩

end Value

section Encoder

variable (env : ParserEnv) (group : AvpContainerList → DiameterDictionary → Buffer → Parse Buffer)

/-- The value parsers' `parseAppToRaw`. `group` writes the members of a grouped AVP. -/
def writeValue (avp : DictionaryEntry) (e : AvpContainerEntry) (b : Buffer) : Parse Buffer := do
  match ← valueForm env avp e with
  | .octets content => if b.remaining < content.length then .thrown outOfSpace else b.write content
  | .members acl dict => group acl dict b

def sentHeader (avp : DictionaryEntry) (length : Nat) : AvpHeader where
  code := avp.avpCode
  v := avp.vendorSpecific
  m := hasFlag avp.flags flagMandatory
  p := hasFlag avp.flags flagEndToEndEncrypt
  length := length
  vendor := avp.vendorId
  valueP := 0

/-- One round of the loops of `DiameterAvpParser::parseAppToRaw`. An AVP of any
type has no header of its own and is the only one whose padding is checked. The
length is a bit field of 24 bits. -/
def writeAvp (avp : DictionaryEntry) (e : AvpContainerEntry) (b : Buffer) : Parse Buffer :=
  if avp.avpType = .data then do
    let after ← writeValue env group avp e b
    if adjustWordBoundary after.wr ≤ after.size then return { after with wr := adjustWordBoundary after.wr }
    else .thrown outOfSpace
  else do
    let behind ← writeAvpHeader avp (sentHeader avp 0) b
    let after ← writeValue env group avp e behind
    let length := (2 ^ 64 + after.wr - b.wr) % 2 ^ 24
    -- set the header again
    let patched ← writeAvpHeader avp (sentHeader avp length) { after with wr := after.wr - length }
    return { patched with wr := adjustWordBoundary after.wr }

def writeAvps (avp : DictionaryEntry) : List AvpContainerEntry → Buffer → Parse Buffer
  | [], b => .returned b
  | e :: entries, b => writeAvp env group avp e b >>= writeAvps avp entries

/-- The entries a rule writes: the checks of `parseAppToRawWithDict` on its container. -/
def ruleEntries (acl : AvpContainerList) (rule : AvpParseType × QualifiedAvp) : Parse (List AvpContainerEntry) :=
  match searchContainer acl rule.2.avp.avpName with
  | none =>
    if 0 < rule.2.min ∧ 0 < rule.2.max ∧ rule.1 ≠ .optional then raise (.bug .missingContainer) else .returned []
  | some c =>
    if rule.2.max = 0 then raise (.bug .prohibitedContainer)
    else if c.entries.length < rule.2.min then raise (.bug .tooLessAvpEntries)
    else if rule.2.max < c.entries.length then raise (.bug .tooMuchAvpEntries)
    else .returned c.entries

def writeRules (acl : AvpContainerList) : List (AvpParseType × QualifiedAvp) → Buffer → Parse Buffer
  | [], b => .returned b
  | rule :: rules, b => do
    let entries ← ruleEntries acl rule
    let after ← writeAvps env group rule.2.avp entries b
    writeRules acl rules after

end Encoder

/-- `QualifiedAvpListParser::parseAppToRaw` with a dictionary. The fuel bounds
the nesting of grouped values. -/
def writeWithin (env : ParserEnv) : Nat → AvpContainerList → DiameterDictionary → Buffer → Parse Buffer
  | 0, _, _, _ => .fault
  | fuel + 1, acl, dict, b => writeRules env (writeWithin env fuel) acl dict.rules b

def parseAppToRawWithDict (env : ParserEnv) (acl : AvpContainerList) (dict : DiameterDictionary) (b : Buffer) :
    Parse Buffer :=
  writeWithin env (depthList acl + 1) acl dict b

section Script

open Foundation.Script (total given single stop done)

variable (env : ParserEnv) (group : AvpContainerList → DiameterDictionary → Script DiameterErrorCode)

def formScript : ValueForm → Script DiameterErrorCode
  | .octets content => single (.octets content outOfSpace)
  | .members acl dict => group acl dict

def valueScript (avp : DictionaryEntry) (e : AvpContainerEntry) : Script DiameterErrorCode :=
  given (valueForm env avp e) (formScript group)

def pad (length : Nat) : Nat := (4 - length % 4) % 4

def avpScript (avp : DictionaryEntry) (e : AvpContainerEntry) : Script DiameterErrorCode :=
  let value := valueScript env group avp e
  let size := total value.pieces
  if avp.avpType = .data then value.andThen (single (.checkedGap (pad size) outOfSpace))
  else
    (single (.octets (sentHeader avp (avp.headerLen + size)).octets ⟨.bug .invalidParserUsage, []⟩)).andThen
      (value.andThen (single (.gap (pad (avp.headerLen + size)))))

def avpsScript (avp : DictionaryEntry) : List AvpContainerEntry → Script DiameterErrorCode
  | [] => done
  | e :: entries => (avpScript env group avp e).andThen (avpsScript avp entries)

def rulesScript (acl : AvpContainerList) : List (AvpParseType × QualifiedAvp) → Script DiameterErrorCode
  | [] => done
  | rule :: rules =>
    given (ruleEntries acl rule) fun entries =>
      (avpsScript env group rule.2.avp entries).andThen (rulesScript acl rules)

end Script

def scriptWithin (env : ParserEnv) : Nat → AvpContainerList → DiameterDictionary → Script DiameterErrorCode
  | 0, _, _ => .stop .fault
  | fuel + 1, acl, dict => rulesScript env (scriptWithin env fuel) acl dict.rules

def payloadScript (env : ParserEnv) (acl : AvpContainerList) (dict : DiameterDictionary) : Script DiameterErrorCode :=
  scriptWithin env (depthList acl + 1) acl dict

section Agreement

open Foundation.Script

/-- No AVP of the script is too long for the 24 bits of its length: it is short, or
there is no room for more. -/
def Brief (b : Buffer) (script : Script DiameterErrorCode) : Prop :=
  b.size - b.wr < 2 ^ 24 ∨ total script.pieces < 2 ^ 24

/-- In every buffer of whole words the writer moves from a word boundary on as the script
says, and when no AVP is too long it writes what the script says. -/
structure Lays (write : Buffer → Parse Buffer) (script : Script DiameterErrorCode) : Prop where
  snug : Snug 0 script.pieces
  agrees : ∀ b, Level b → b.wr % 4 = 0 → Brief b script → write b = script.exec b
  moves : ∀ b after, Level b → b.wr % 4 = 0 → write b = .returned after →
    Level after ∧ after.wr = b.wr + total script.pieces ∧ after.size = b.size ∧ script.ending = .returned ()

def Whole (script : Script DiameterErrorCode) : Prop := script.ending = .returned () → total script.pieces % 4 = 0

theorem adjust_pad {wr start length : Nat} (moved : wr = start + length) (aligned : start % 4 = 0) (small : wr ≤ 2 ^ 32 - 4) :
    adjustWordBoundary wr = wr + pad length := by
  rw [adjustWordBoundary_eq small, pad]
  omega

theorem exec_level {script : Script DiameterErrorCode} (snug : Snug 0 script.pieces) {b after : Buffer} (level : Level b)
    (aligned : b.wr % 4 = 0) (executed : script.exec b = .returned after) :
    Level after ∧ after.wr = b.wr + total script.pieces ∧ after.size = b.size ∧ script.ending = .returned () := by
  obtain ⟨ran, ending⟩ := exec_eq_returned.mp executed
  obtain ⟨wr, size, -⟩ := run_cursor ran
  obtain ⟨-, returned⟩ := run_level script.pieces level (snug.shift (by omega))
  exact ⟨(returned after ran).1, wr, size, ending⟩

theorem total_andThen {first second : Script DiameterErrorCode} (ok : first.ending = .returned ()) :
    total (first.andThen second).pieces = total first.pieces + total second.pieces := by
  rw [andThen_ending ok, total_append]

theorem total_le_andThen (first second : Script DiameterErrorCode) :
    total first.pieces ≤ total (first.andThen second).pieces := by
  unfold Foundation.Script.andThen
  split
  · rw [total_append]
    exact Nat.le_add_right _ _
  · exact Nat.le_refl _

theorem Brief.left {b : Buffer} {first second : Script DiameterErrorCode} (brief : Brief b (first.andThen second)) :
    Brief b first :=
  brief.imp_right (Nat.lt_of_le_of_lt (total_le_andThen first second))

theorem Brief.right {b after : Buffer} {first second : Script DiameterErrorCode} (brief : Brief b (first.andThen second))
    (ok : first.ending = .returned ()) (wr : after.wr = b.wr + total first.pieces) (size : after.size = b.size) :
    Brief after second := by
  rcases brief with room | short
  · exact .inl (by omega)
  · rw [total_andThen ok] at short
    exact .inr (by omega)

theorem Lays.andThen {first second : Buffer → Parse Buffer} {left right : Script DiameterErrorCode}
    (lays : Lays first left) (whole : Whole left) (next : Lays second right) :
    Lays (fun b => first b >>= second) (left.andThen right) where
  snug := snug_andThen lays.snug fun ok => next.snug.shift (by have aligned := whole ok; omega)
  agrees b level aligned brief := by
    rw [exec_andThen, lays.agrees b level aligned brief.left]
    cases executed : left.exec b with
    | returned after =>
      obtain ⟨level', wr, size, ok⟩ := exec_level lays.snug level aligned executed
      have boundary := whole ok
      exact next.agrees after level' (by omega) (brief.right ok wr size)
    | thrown error => rfl
    | escaped => rfl
    | fault => rfl
  moves b after level aligned wrote := by
    obtain ⟨middle, wrote, rest⟩ := Outcome.bind_eq_returned.mp wrote
    obtain ⟨level', wr, size, ok⟩ := lays.moves b middle level aligned wrote
    have boundary := whole ok
    obtain ⟨level'', wr', size', ok'⟩ := next.moves middle after level' (by omega) rest
    refine ⟨level'', ?_, size'.trans size, ?_⟩
    · rw [wr', wr, total_andThen ok, Nat.add_assoc]
    · rw [andThen_ending ok]
      exact ok'

theorem lays_returned : Lays .returned .done where
  snug := trivial
  agrees _ _ _ _ := rfl
  moves b after level _ wrote := by
    cases wrote
    exact ⟨level, rfl, rfl, rfl⟩

theorem lays_stop {ending : Parse Unit} {result : Parse Buffer} (stops : ∀ b : Buffer, (ending >>= fun _ => .returned b) = result)
    (fails : ∀ after, result ≠ .returned after) : Lays (fun _ => result) (.stop ending) where
  snug := trivial
  agrees b _ _ _ := (stops b).symm
  moves _ after _ _ wrote := absurd wrote (fails after)

theorem Lays.given {α : Type} {write : α → Buffer → Parse Buffer} {script : α → Script DiameterErrorCode} (value : Parse α)
    (lays : ∀ a, value = .returned a → Lays (write a) (script a)) :
    Lays (fun b => value >>= fun a => write a b) (given value script) := by
  cases value with
  | returned a => exact lays a rfl
  | thrown error => exact lays_stop (fun _ => rfl) fun _ wrote => by cases wrote
  | escaped => exact lays_stop (fun _ => rfl) fun _ wrote => by cases wrote
  | fault => exact lays_stop (fun _ => rfl) fun _ wrote => by cases wrote

variable {env : ParserEnv} {write : AvpContainerList → DiameterDictionary → Buffer → Parse Buffer}
  {group : AvpContainerList → DiameterDictionary → Script DiameterErrorCode}

theorem lays_value (members : ∀ acl dict, Lays (write acl dict) (group acl dict)) (avp : DictionaryEntry)
    (e : AvpContainerEntry) : Lays (writeValue env write avp e) (valueScript env group avp e) := by
  refine Lays.given (valueForm env avp e) fun form _ => ?_
  cases form with
  | octets content =>
    have agrees (b : Buffer) := exec_single (.octets content outOfSpace) b
    refine ⟨trivial, fun b _ _ _ => (agrees b).symm, fun b after level aligned wrote => ?_⟩
    exact @exec_level (single (.octets content outOfSpace)) trivial b after level aligned ((agrees b).trans wrote)
  | members acl dict => exact members acl dict

theorem length_sentHeader {avp : DictionaryEntry} (typed : avp.avpType ≠ .data) (length : Nat) :
    (sentHeader avp length).octets.length = avp.headerLen := by
  have strict : avp.isWildcard = false := strict_of_type rfl typed
  rw [AvpHeader.length_octets, DictionaryEntry.headerLen, strict]
  rfl

theorem headerLen_aligned {avp : DictionaryEntry} : avp.headerLen % 4 = 0 := by
  unfold DictionaryEntry.headerLen
  split
  · rfl
  · split <;> rfl

/-- The header is written where there is room, over whatever is there. -/
theorem writeAvpHeader_level {avp : DictionaryEntry} (typed : avp.avpType ≠ .data) (length : Nat) {b : Buffer}
    (level : Level b) :
    writeAvpHeader avp (sentHeader avp length) b =
      if b.size - b.wr < avp.headerLen then raise (.bug .invalidParserUsage)
      else .returned { b with memory := splice b.memory b.wr (sentHeader avp length).octets, wr := b.wr + avp.headerLen } := by
  have size := length_sentHeader typed length
  have inside := level.inside
  have sized := level.sized
  rw [writeAvpHeader, Buffer.remaining_eq inside (by have small := level.small; omega)]
  split
  · rfl
  · rw [Buffer.write, if_pos (by omega), size]

theorem lays_any {avp : DictionaryEntry} (any : avp.avpType = .data) (e : AvpContainerEntry)
    (value : Lays (writeValue env write avp e) (valueScript env group avp e)) :
    Lays (writeAvp env write avp e) (avpScript env group avp e) := by
  unfold avpScript
  dsimp only
  rw [if_pos any]
  have padding {b after : Buffer} (level : Level after) (wr : after.wr = b.wr + total (valueScript env group avp e).pieces)
      (aligned : b.wr % 4 = 0) :
      adjustWordBoundary after.wr = after.wr + pad (total (valueScript env group avp e).pieces) := by
    have small := level.small
    have words := level.words
    have inside := level.inside
    exact adjust_pad wr aligned (by omega)
  refine ⟨snug_andThen value.snug fun _ => trivial, fun b level aligned brief => ?_, fun b after level aligned wrote => ?_⟩
  · rw [writeAvp, if_pos any, exec_andThen, value.agrees b level aligned brief.left]
    cases executed : (valueScript env group avp e).exec b with
    | returned after =>
      obtain ⟨level', wr, -, -⟩ := exec_level value.snug level aligned executed
      rw [Outcome.returned_bind, Outcome.returned_bind, exec_single, Piece.exec, padding level' wr aligned]
      split
      case isTrue fits => rw [if_neg (Nat.not_lt.mpr fits)]; rfl
      case isFalse past => rw [if_pos (Nat.not_le.mp past)]
    | thrown error => rfl
    | escaped => rfl
    | fault => rfl
  · rw [writeAvp, if_pos any] at wrote
    obtain ⟨middle, wrote, padded⟩ := Outcome.bind_eq_returned.mp wrote
    obtain ⟨level', wr, size, ok⟩ := value.moves b middle level aligned wrote
    rw [padding level' wr aligned] at padded
    split at padded
    case isFalse => cases padded
    case isTrue fits =>
      cases padded
      refine ⟨level'.move fits, ?_, size, ?_⟩
      · rw [total_andThen ok, total_single, Piece.length, ← Nat.add_assoc, wr]
      · rw [andThen_ending ok]
        rfl

def behindHeader (avp : DictionaryEntry) (b : Buffer) : Buffer :=
  { b with memory := splice b.memory b.wr (sentHeader avp 0).octets, wr := b.wr + avp.headerLen }

theorem level_behindHeader {avp : DictionaryEntry} (typed : avp.avpType ≠ .data) {b : Buffer} (level : Level b)
    (room : ¬b.size - b.wr < avp.headerLen) : Level (behindHeader avp b) := by
  have size := length_sentHeader typed 0
  have octets := @Level.octets b level (sentHeader avp 0).octets (by rw [size]; exact room)
  rw [size] at octets
  exact octets

theorem adjust_headed {avp : DictionaryEntry} {b after : Buffer} (level : Level after) {count : Nat}
    (wr : after.wr = b.wr + avp.headerLen + count) (aligned : b.wr % 4 = 0) :
    adjustWordBoundary after.wr = after.wr + pad (avp.headerLen + count) := by
  have small := level.small
  have words := level.words
  have inside := level.inside
  exact adjust_pad (wr.trans (Nat.add_assoc _ _ _)) aligned (by omega)

section Headed

variable {avp : DictionaryEntry} (typed : avp.avpType ≠ .data) (e : AvpContainerEntry)

include typed

theorem avpScript_headed : avpScript env group avp e =
    (single (.octets (sentHeader avp (avp.headerLen + total (valueScript env group avp e).pieces)).octets
      ⟨.bug .invalidParserUsage, []⟩)).andThen ((valueScript env group avp e).andThen
        (single (.gap (pad (avp.headerLen + total (valueScript env group avp e).pieces))))) := by
  rw [avpScript, if_neg typed]

theorem total_avpScript (ok : (valueScript env group avp e).ending = .returned ()) :
    total (avpScript env group avp e).pieces = avp.headerLen + total (valueScript env group avp e).pieces +
      pad (avp.headerLen + total (valueScript env group avp e).pieces) := by
  rw [avpScript_headed typed, total_andThen rfl, total_andThen ok, total_single, total_single, Piece.length, Piece.length,
    length_sentHeader typed, Nat.add_assoc]

variable (value : Lays (writeValue env write avp e) (valueScript env group avp e))

include value

theorem snug_headedAvp : Snug 0 (avpScript env group avp e).pieces := by
  have boundary : avp.headerLen % 4 = 0 := headerLen_aligned
  rw [avpScript_headed typed]
  refine snug_andThen trivial fun _ => snug_andThen (value.snug.shift ?_) fun _ => ⟨?_, ?_, trivial⟩
  · rw [total_single, Piece.length, length_sentHeader typed]
    omega
  · unfold pad
    omega
  · rw [total_single, Piece.length, length_sentHeader typed, pad]
    omega

/-- Writing the header again is writing it right at once. -/
theorem agrees_headedAvp {b : Buffer} (level : Level b) (aligned : b.wr % 4 = 0) (brief : Brief b (avpScript env group avp e)) :
    writeAvp env write avp e b = (avpScript env group avp e).exec b := by
  have boundary : avp.headerLen % 4 = 0 := headerLen_aligned
  have size := length_sentHeader typed (avp.headerLen + total (valueScript env group avp e).pieces)
  have size' := length_sentHeader typed 0
  have inside := level.inside
  have sized := level.sized
  have total_small := @total_avpScript env group avp typed e
  rw [avpScript_headed typed] at brief ⊢
  rw [writeAvp, if_neg typed, writeAvpHeader_level typed 0 level, exec_andThen, exec_single, Piece.exec,
    Buffer.remaining_eq inside (by have small := level.small; omega), size]
  split
  case isTrue full => rfl
  case isFalse room =>
    rw [Outcome.returned_bind, Buffer.write, size, if_pos (by omega), Outcome.returned_bind, exec_andThen]
    have level' := level_behindHeader typed level room
    have brief' : Brief (behindHeader avp b) (valueScript env group avp e) :=
      (@Brief.right b (behindHeader avp b) _ _ brief rfl (by rw [total_single, Piece.length, size]; rfl) rfl).left
    have again := @exec_splice _ (valueScript env group avp e) (behindHeader avp b) b.wr
      (sentHeader avp (avp.headerLen + total (valueScript env group avp e).pieces)).octets
      (by rw [size]; exact Nat.le_refl _) (by rw [size, behindHeader, length_splice (by omega)]; omega)
    dsimp only [behindHeader] at again
    rw [splice_splice (size'.trans size.symm) (by omega)] at again
    rw [again]
    change (writeValue env write avp e (behindHeader avp b) >>= _) =
      ((valueScript env group avp e).exec (behindHeader avp b) >>= _) >>= _
    rw [value.agrees _ level' (by dsimp only [behindHeader]; omega) brief']
    cases executed : (valueScript env group avp e).exec (behindHeader avp b) with
    | thrown error => rfl
    | escaped => rfl
    | fault => rfl
    | returned after =>
      obtain ⟨behind, wr, total', ok⟩ := exec_level value.snug level' (by dsimp only [behindHeader]; omega) executed
      dsimp only [behindHeader] at wr total'
      have reached := behind.inside
      have fits : avp.headerLen + total (valueScript env group avp e).pieces < 2 ^ 24 := by
        rcases brief with room' | few
        · omega
        · rw [← avpScript_headed typed, total_small ok] at few
          omega
      have length : (2 ^ 64 + after.wr - b.wr) % 2 ^ 24 = avp.headerLen + total (valueScript env group avp e).pieces := by
        omega
      have back : after.wr - (avp.headerLen + total (valueScript env group avp e).pieces) = b.wr := by omega
      have rewound : Level { after with wr := b.wr } := ⟨behind.sized, behind.words, behind.small, by dsimp only; omega⟩
      simp only [Outcome.returned_bind, length, back]
      rw [writeAvpHeader_level typed _ rewound, if_neg (by dsimp only; omega), adjust_headed behind wr aligned, exec_single]
      rfl

theorem moves_headedAvp {b after : Buffer} (level : Level b) (aligned : b.wr % 4 = 0)
    (wrote : writeAvp env write avp e b = .returned after) :
    Level after ∧ after.wr = b.wr + total (avpScript env group avp e).pieces ∧ after.size = b.size ∧
      (avpScript env group avp e).ending = .returned () := by
  have boundary : avp.headerLen % 4 = 0 := headerLen_aligned
  rw [writeAvp, if_neg typed, writeAvpHeader_level typed 0 level] at wrote
  split at wrote
  case isTrue => cases wrote
  case isFalse room =>
    rw [Outcome.returned_bind] at wrote
    obtain ⟨middle, wrote, patched⟩ := Outcome.bind_eq_returned.mp wrote
    have start : (behindHeader avp b).wr % 4 = 0 := (Nat.add_mod _ _ _).trans (by rw [aligned, boundary])
    obtain ⟨behind, wr, size, ok⟩ := value.moves _ middle (level_behindHeader typed level room) start wrote
    generalize (2 ^ 64 + middle.wr - b.wr) % 2 ^ 24 = length at patched
    dsimp only [behindHeader] at wr size patched
    have reached := behind.inside
    have rewound : Level { middle with wr := middle.wr - length } :=
      ⟨behind.sized, behind.words, behind.small, by dsimp only; omega⟩
    rw [writeAvpHeader_level typed length rewound, adjust_headed behind wr aligned] at patched
    split at patched
    case isTrue => cases patched
    case isFalse space =>
      cases patched
      have gap := @Level.gap middle behind (pad (avp.headerLen + total (valueScript env group avp e).pieces))
        (by unfold pad; omega) (by unfold pad; omega)
      refine ⟨⟨?_, gap.words, gap.small, gap.inside⟩, ?_, size, ?_⟩
      · dsimp only at space ⊢
        rw [length_splice (by rw [length_sentHeader typed]; have sized := behind.sized; omega)]
        exact behind.sized
      · rw [total_avpScript typed e ok]
        dsimp only
        omega
      · rw [avpScript_headed typed, andThen_ending rfl, andThen_ending ok]
        rfl

end Headed

end Agreement

section Rules

open Foundation.Script

variable {env : ParserEnv}

theorem Whole.andThen {first second : Script DiameterErrorCode} (left : Whole first) (right : Whole second) :
    Whole (first.andThen second) := by
  intro ok
  cases ending : first.ending with
  | returned value =>
    rw [andThen_ending ending] at ok ⊢
    have low := left ending
    have high := right ok
    rw [total_append]
    omega
  | thrown error => simp only [Foundation.Script.andThen, ending, reduceCtorEq] at ok
  | escaped => simp only [Foundation.Script.andThen, ending, reduceCtorEq] at ok
  | fault => simp only [Foundation.Script.andThen, ending, reduceCtorEq] at ok

theorem whole_done : Whole .done := fun _ => rfl

theorem whole_given {α : Type} {value : Parse α} {script : α → Script DiameterErrorCode} (whole : ∀ a, Whole (script a)) :
    Whole (given value script) := by
  cases value with
  | returned a => exact whole a
  | thrown error => exact fun ok => by cases ok
  | escaped => exact fun ok => by cases ok
  | fault => exact fun ok => by cases ok

variable {group : AvpContainerList → DiameterDictionary → Script DiameterErrorCode}

theorem andThen_returned {first second : Script DiameterErrorCode} (ok : (first.andThen second).ending = .returned ()) :
    first.ending = .returned () ∧ second.ending = .returned () ∧
      (first.andThen second).pieces = first.pieces ++ second.pieces := by
  cases ending : first.ending with
  | returned value =>
    rw [andThen_ending ending] at ok ⊢
    exact ⟨rfl, ok, rfl⟩
  | thrown error => simp only [Foundation.Script.andThen, ending, reduceCtorEq] at ok
  | escaped => simp only [Foundation.Script.andThen, ending, reduceCtorEq] at ok
  | fault => simp only [Foundation.Script.andThen, ending, reduceCtorEq] at ok

theorem whole_avp (avp : DictionaryEntry) (e : AvpContainerEntry) : Whole (avpScript env group avp e) := by
  unfold avpScript
  dsimp only
  split
  · intro ok
    obtain ⟨-, -, pieces⟩ := andThen_returned ok
    rw [pieces, total_append, total_single, Piece.length, pad]
    omega
  case isFalse typed =>
    intro ok
    obtain ⟨-, inner, pieces⟩ := andThen_returned ok
    obtain ⟨-, -, pieces'⟩ := andThen_returned inner
    rw [pieces, pieces', total_append, total_append, total_single, total_single, Piece.length, Piece.length,
      length_sentHeader typed, pad]
    omega

theorem whole_avps (avp : DictionaryEntry) (entries : List AvpContainerEntry) :
    Whole (avpsScript env group avp entries) := by
  induction entries with
  | nil => exact whole_done
  | cons e entries ih => exact (whole_avp avp e).andThen ih

theorem whole_rules (acl : AvpContainerList) (rules : List (AvpParseType × QualifiedAvp)) :
    Whole (rulesScript env group acl rules) := by
  induction rules with
  | nil => exact whole_done
  | cons rule rules ih => exact whole_given fun entries => (whole_avps rule.2.avp entries).andThen ih

theorem whole_within (fuel : Nat) (acl : AvpContainerList) (dict : DiameterDictionary) :
    Whole (scriptWithin env fuel acl dict) := by
  cases fuel with
  | zero => exact fun ok => by cases ok
  | succ fuel => exact whole_rules acl dict.rules

variable {write : AvpContainerList → DiameterDictionary → Buffer → Parse Buffer}

theorem lays_avp (members : ∀ acl dict, Lays (write acl dict) (group acl dict)) (avp : DictionaryEntry)
    (e : AvpContainerEntry) : Lays (writeAvp env write avp e) (avpScript env group avp e) := by
  by_cases any : avp.avpType = .data
  · exact lays_any any e (lays_value members avp e)
  · have value : Lays (writeValue env write avp e) (valueScript env group avp e) := lays_value members avp e
    exact ⟨snug_headedAvp any e value, fun _ => agrees_headedAvp any e value, fun _ _ => moves_headedAvp any e value⟩

theorem lays_avps (members : ∀ acl dict, Lays (write acl dict) (group acl dict)) (avp : DictionaryEntry)
    (entries : List AvpContainerEntry) : Lays (writeAvps env write avp entries) (avpsScript env group avp entries) := by
  induction entries with
  | nil => exact lays_returned
  | cons e entries ih => exact (lays_avp members avp e).andThen (whole_avp avp e) ih

theorem lays_rules (members : ∀ acl dict, Lays (write acl dict) (group acl dict)) (acl : AvpContainerList)
    (rules : List (AvpParseType × QualifiedAvp)) : Lays (writeRules env write acl rules) (rulesScript env group acl rules) := by
  induction rules with
  | nil => exact lays_returned
  | cons rule rules ih =>
    exact Lays.given _ fun entries _ => (lays_avps members rule.2.avp entries).andThen (whole_avps rule.2.avp entries) ih

theorem lays_within (fuel : Nat) (acl : AvpContainerList) (dict : DiameterDictionary) :
    Lays (writeWithin env fuel acl dict) (scriptWithin env fuel acl dict) := by
  induction fuel generalizing acl dict with
  | zero => exact lays_stop (fun _ => rfl) fun _ wrote => by cases wrote
  | succ fuel ih => exact lays_rules ih acl dict.rules

theorem parseAppToRaw_eq (env : ParserEnv) (acl : AvpContainerList) (dict : DiameterDictionary) {b : Buffer}
    (level : Level b) (aligned : b.wr % 4 = 0) (brief : Brief b (payloadScript env acl dict)) :
    parseAppToRawWithDict env acl dict b = (payloadScript env acl dict).exec b :=
  (lays_within (depthList acl + 1) acl dict).agrees b level aligned brief

/-- How far the write pointer goes, also past an AVP that is too long. -/
theorem parseAppToRaw_moves {env : ParserEnv} {acl : AvpContainerList} {dict : DiameterDictionary} {b after : Buffer}
    (level : Level b) (aligned : b.wr % 4 = 0) (encoded : parseAppToRawWithDict env acl dict b = .returned after) :
    after.wr = b.wr + total (payloadScript env acl dict).pieces :=
  ((lays_within (depthList acl + 1) acl dict).moves b after level aligned encoded).2.1

theorem payloadScript_snug (env : ParserEnv) (acl : AvpContainerList) (dict : DiameterDictionary) :
    Snug 0 (payloadScript env acl dict).pieces :=
  (lays_within (depthList acl + 1) acl dict).snug

end Rules

end OpenDiameter.Parser
