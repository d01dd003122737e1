import OpenDiameter.Parser.AvpHeader

/-! The strict payload parser: raw octets to AVP containers.

The header list is shared and consumed by the rules in turn. `Bound` records,
next to the container of a rule, which AVPs of the payload its entries came from.
-/

set_option autoImplicit false

namespace OpenDiameter.Parser

open Foundation

section Header

variable (env : ParserEnv)

/-- The matching test for rules without a fixed position. -/
def DictionaryEntry.matches (avp : DictionaryEntry) (h : AvpHeader) : Bool :=
  avp.isWildcard || (h.v == avp.vendorSpecific && h.vendor == avp.vendorId && h.code == avp.avpCode)

/-- The first element that satisfies `test`, and the list without it. -/
def takeFirst {α : Type} (test : α → Bool) : List α → Option (α × List α)
  | [] => none
  | x :: xs => if test x then some (x, xs) else (takeFirst test xs).map fun (y, ys) => (y, x :: ys)

/-- `DiameterAvpHeaderParser::parseRawToApp`: take the AVP for `avp` out of the
header list. The flag check only logs. -/
def parseAvpHeader (pt : AvpParseType) (avp : DictionaryEntry) (ahl : List AvpHeader) :
    Parse (AvpHeader × List AvpHeader) :=
  match ahl with
  | [] => raiseWith env.groupedAvpList (.normal .missingAvp) avp
  | h :: rest =>
    if pt = .fixedHead then
      if avp.avpCode = 0 then raise (.bug .invalidContainerParam)
      else if h.code = avp.avpCode then .returned (h, rest)
      else raiseWith env.groupedAvpList (.normal .missingAvp) avp
    else
      match takeFirst avp.matches (h :: rest) with
      | some taken => .returned taken
      | none => raiseWith env.groupedAvpList (.normal .missingAvp) avp

theorem takeFirst_length {α : Type} {test : α → Bool} {xs : List α} {taken : α × List α}
    (found : takeFirst test xs = some taken) : taken.2.length + 1 = xs.length := by
  induction xs generalizing taken with
  | nil => cases found
  | cons x xs ih =>
    unfold takeFirst at found
    split at found
    · cases found
      rfl
    · obtain ⟨later, inRest, rfl⟩ := Option.map_eq_some_iff.mp found
      exact congrArg Nat.succ (ih inRest)

theorem raiseWith_ne_returned {α : Type} {groups : List DiameterGroupedAvp} {error : ParseError}
    {avp : DictionaryEntry} {value : α} : raiseWith groups error avp ≠ .returned value := by
  unfold raiseWith
  cases failedAvp groups avp <;> simp

theorem parseAvpHeader_length {pt : AvpParseType} {avp : DictionaryEntry} {ahl : List AvpHeader}
    {taken : AvpHeader × List AvpHeader} (parsed : parseAvpHeader env pt avp ahl = .returned taken) :
    taken.2.length + 1 = ahl.length := by
  unfold parseAvpHeader at parsed
  split at parsed
  · exact absurd parsed raiseWith_ne_returned
  case h_2 h rest =>
    split at parsed
    · split at parsed
      · cases parsed
      · split at parsed
        · cases parsed
          rfl
        · exact absurd parsed raiseWith_ne_returned
    · split at parsed
      case h_1 taken' found =>
        cases parsed
        exact takeFirst_length found
      · exact absurd parsed raiseWith_ne_returned

end Header

section Value

variable (env : ParserEnv)

/-- `ntohl` of the first octets of the block, whatever its size. -/
def readWord (count : Nat) (block : MessageBlock) : Parse Nat :=
  readOctets block.base 0 count >>= fun octets => .returned (bigEndianValue octets)

/-- `str.assign(aBuffer->base(), aBuffer->size())`. -/
def readString (block : MessageBlock) : Parse Octets := readOctets block.base 0 block.size

/-- `Utf8stringParser::parseRawToApp` into a string. -/
def readUtf8 (avp : DictionaryEntry) (block : MessageBlock) : Parse Octets := do
  let str ← readString block
  if utf8Check str = 0 then .returned str
  else raiseWith env.groupedAvpList (.normal .invalidAvpValue) avp

/-- The value parsers' `parseRawToApp`, by the type of the dictionary entry.
`group` parses the members of a grouped AVP. -/
def parseValue (group : MessageBlock → DiameterDictionary → Parse AvpContainerList)
    (avp : DictionaryEntry) (block : MessageBlock) : Parse AvpContainerEntry :=
  match avp.avpType with
  | .data => do return .data (← readString block)
  | .string => do return .string (← readString block)
  | .integer32 => do return .integer32 (UInt32.ofNat (← readWord 4 block))
  | .uinteger32 => do return .uinteger32 (UInt32.ofNat (← readWord 4 block))
  | .enum => do return .enum (UInt32.ofNat (← readWord 4 block))
  | .time => do return .time (UInt32.ofNat (← readWord 4 block))
  | .integer64 => do return .integer64 (UInt64.ofNat (← readWord 8 block))
  | .uinteger64 => do return .uinteger64 (UInt64.ofNat (← readWord 8 block))
  | .utf8String => do return .utf8String (← readUtf8 env avp block)
  | .ipAddress => do
    let str ← readString block
    -- `assign(str, 2, ...)` throws std::out_of_range
    if str.length < 2 then .escaped
    else return .ipAddress (UInt16.ofNat (bigEndianValue (str.take 2))) (str.drop 2)
  | .diamId => do
    let str ← readUtf8 env avp block
    if env.grammars.diamident str then return .diamId str
    else raiseWith env.groupedAvpList (.normal .invalidAvpValue) avp
  | .diamUri => do
    let str ← readUtf8 env avp block
    match env.grammars.diamuri str with
    | some uri => return .diamUri uri
    | none => raiseWith env.groupedAvpList (.normal .invalidAvpValue) avp
  | .ipFilterRule => do
    let str ← readUtf8 env avp block
    match env.grammars.ipFilterRule str with
    | some rule => return .ipFilterRule rule
    | none => raiseWith env.groupedAvpList (.normal .invalidAvpValue) avp
  | .grouped =>
    match searchGroup env.groupedAvpList avp with
    | none => raiseWith env.groupedAvpList (.normal .avpUnsupported) avp
    | some gavp => do return .grouped (← group block gavp.dict)
  -- the entry manager knows no such type and throws an AAAErrorCode
  | .custom => .escaped

/-- The block handed to the value parser: `h.length - DIAMETER_AVP_HEADER_LEN`
octets, in 32-bit arithmetic, behind the header that the dictionary expects. -/
def valueBlock (base : Octets) (avp : DictionaryEntry) (h : AvpHeader) : MessageBlock :=
  { base := base.drop (h.valueP + avp.headerLen)
    size := (2 ^ 32 + h.length - avp.headerLen) % 2 ^ 32
    rd := 0 }

end Value

section Rules

variable (env : ParserEnv) (value : DictionaryEntry → MessageBlock → Parse AvpContainerEntry)
  (base : Octets)

/-- `DiameterAvpParser::parseRawToApp`: take every AVP for `avp` and parse its
value. The header list comes back also when the parse throws. -/
def parseAvps (pt : AvpParseType) (avp : DictionaryEntry) (i : Nat) (ahl : List AvpHeader) :
    List AvpHeader × Parse (List (AvpHeader × AvpContainerEntry)) :=
  match _parsed : parseAvpHeader env pt avp ahl with
  | .returned (h, rest) =>
    match value avp (valueBlock base avp h) with
    | .returned e =>
      let (left, more) := parseAvps pt avp (i + 1) rest
      (left, more >>= fun taken => .returned ((h, e) :: taken))
    | .thrown st => (rest, .thrown st)
    | .escaped => (rest, .escaped)
    | .fault => (rest, .fault)
  | .thrown st => (ahl, if 0 < i ∧ st.error = .normal .missingAvp then .returned [] else .thrown st)
  | .escaped => (ahl, .escaped)
  | .fault => (ahl, .fault)
termination_by ahl.length
decreasing_by
  have shorter := parseAvpHeader_length env _parsed
  dsimp only at shorter
  omega

structure Bound where
  parseType : AvpParseType
  rule : QualifiedAvp
  avps : List (AvpHeader × AvpContainerEntry)

def Bound.container (bound : Bound) : AvpContainer AvpContainerEntry :=
  ⟨bound.rule.avp.avpName, bound.parseType, bound.avps.map Prod.snd⟩

/-- The loops of `parseRawToAppWithDict` over the three rule lists. -/
def parseRules : List (AvpParseType × QualifiedAvp) → List AvpHeader →
    Parse (List Bound × List AvpHeader)
  | [], ahl => .returned ([], ahl)
  | (pt, qavp) :: rules, ahl =>
    match parseAvps env value base pt qavp.avp 0 ahl with
    | (left, .returned avps) =>
      if avps.length < qavp.min then raiseWith env.groupedAvpList (.normal .missingAvp) qavp.avp
      else if qavp.max < avps.length then
        raiseWith env.groupedAvpList (.normal .avpOccursTooManyTimes) qavp.avp
      else parseRules rules left >>= fun (bounds, rest) => .returned (⟨pt, qavp, avps⟩ :: bounds, rest)
    | (left, .thrown st) =>
      -- an AVP that was not found and one that misses a member look the same here
      if st.error = .normal .missingAvp ∧ (pt = .optional ∨ qavp.min = 0) then parseRules rules left
      else .thrown st
    | (_, .escaped) => .escaped
    | (_, .fault) => .fault

end Rules

/-- `QualifiedAvpListParser::parseRawToApp` with a dictionary. The result also
holds the AVPs that no rule took. The fuel bounds the nesting of grouped AVPs. -/
def parseWithin (env : ParserEnv) : Nat → MessageBlock → DiameterDictionary →
    Parse (List Bound × List AvpHeader)
  | 0, _, _ => .fault
  | fuel + 1, block, dict => do
    let ahl ← create block
    parseRules env
      (parseValue env fun block dict =>
        parseWithin env fuel block dict >>= fun (bounds, _) => .returned (bounds.map Bound.container))
      block.base dict.rules ahl

/-- Every level of grouping takes at least a header out of the memory. -/
def parseBounds (env : ParserEnv) (block : MessageBlock) (dict : DiameterDictionary) :
    Parse (List Bound × List AvpHeader) :=
  parseWithin env (block.base.length + 1) block dict

def parseRawToAppWithDict (env : ParserEnv) (block : MessageBlock) (dict : DiameterDictionary) :
    Parse AvpContainerList :=
  parseBounds env block dict >>= fun (bounds, _) => .returned (bounds.map Bound.container)

end OpenDiameter.Parser
