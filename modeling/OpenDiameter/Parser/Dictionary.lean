import OpenDiameter.Foundation.Octets
import OpenDiameter.Foundation.Outcome

/-! The dictionary that drives the parsers: AVP types, AVP entries, the rule
lists of commands and grouped AVPs, and the error codes the parsers throw.
-/

set_option autoImplicit false

namespace OpenDiameter.Parser

open Foundation

inductive AvpDataType where
  | data | string | ipAddress | integer32 | integer64 | uinteger32 | uinteger64 | utf8String | enum
  | diamId | diamUri | grouped | time | ipFilterRule | custom
  deriving DecidableEq, Repr

def AvpDataType.minSize : AvpDataType → Option Nat
  | .data => some 0
  | .integer32 => some 4
  | .integer64 => some 8
  | .uinteger32 => some 4
  | .uinteger64 => some 8
  | .utf8String => some 0
  | .enum => some 4
  | .time => some 4
  | .string => some 0
  | .diamId => some 0
  | .diamUri => some 0
  | .ipFilterRule => some 0
  | .grouped => some 0
  | .ipAddress => some 0
  | .custom => none

inductive AvpParseType where
  | fixedHead | required | optional
  deriving DecidableEq, Repr

/-- The result codes of `resultcodes.h` that the parsers throw. -/
inductive ResultCode where
  | commandUnsupported | invalidHdrBits | outOfSpace | avpUnsupported | invalidAvpValue | missingAvp
  | avpOccursTooManyTimes | invalidBitInHeader | invalidMessageLength
  deriving DecidableEq, Repr

def ResultCode.value : ResultCode → Nat
  | .commandUnsupported => 3001
  | .invalidHdrBits => 3008
  | .outOfSpace => 4002
  | .avpUnsupported => 5001
  | .invalidAvpValue => 5004
  | .missingAvp => 5005
  | .avpOccursTooManyTimes => 5009
  | .invalidBitInHeader => 5013
  | .invalidMessageLength => 5015

/-- The `AAA_PARSE_ERROR_...` codes of errors of type BUG. -/
inductive BugCode where
  | missingContainer | tooMuchAvpEntries | tooLessAvpEntries | prohibitedContainer
  | invalidContainerParam | invalidContainerContents | invalidParserUsage
  | missingAvpDictionaryEntry | missingAvpValueParser
  deriving DecidableEq, Repr

inductive ParseError where
  | normal (code : ResultCode)
  | bug (code : BugCode)
  deriving DecidableEq, Repr

/-- `DiameterErrorCode`; `avp` is the example for a Failed-AVP. -/
structure DiameterErrorCode where
  error : ParseError
  avp : Octets
  deriving DecidableEq, Repr

abbrev Parse (α : Type) : Type := Outcome DiameterErrorCode α

/-- `st.set(type, code); throw st`. -/
def raise {α : Type} (error : ParseError) : Parse α := .thrown ⟨error, []⟩

def flagMandatory : Nat := 0x1

def flagVendorSpecific : Nat := 0x4

def flagEndToEndEncrypt : Nat := 0x10

def hasFlag (flags mask : Nat) : Bool := flags &&& mask != 0

/-- An AVP without a vendor does not have the vendor's flag. -/
theorem mandatory_unvendored : hasFlag flagMandatory flagVendorSpecific = decide ((0 : UInt32) ≠ 0) := by decide

/-- `AAADictionaryEntry`. The XML loader sets the vendor flag exactly for a
nonzero Vendor-Id, and leaves the name `AVP` to the built-in wildcard. -/
structure DictionaryEntry where
  avpName : String
  avpCode : UInt32
  avpType : AvpDataType
  vendorId : UInt32
  flags : Nat
  vendorFlag : hasFlag flags flagVendorSpecific = decide (vendorId ≠ 0)
  wildcardOnly : avpName = "AVP" → avpCode = 0 ∧ avpType = .data ∧ vendorId = 0
  deriving DecidableEq, Repr

namespace DictionaryEntry

def vendorSpecific (avp : DictionaryEntry) : Bool := hasFlag avp.flags flagVendorSpecific

def isWildcard (avp : DictionaryEntry) : Bool := avp.avpCode == 0 && avp.avpName == "AVP"

/-- `DIAMETER_AVP_HEADER_LEN`. -/
def headerLen (avp : DictionaryEntry) : Nat :=
  if avp.isWildcard then 0 else if avp.vendorSpecific then 12 else 8

end DictionaryEntry

theorem headerLen_le (avp : DictionaryEntry) : avp.headerLen ≤ 12 := by
  unfold DictionaryEntry.headerLen
  split
  · exact Nat.zero_le _
  · split <;> decide

theorem strict_of_type {avp : DictionaryEntry} {kind : AvpDataType} (typed : avp.avpType = kind) (other : kind ≠ .data) :
    avp.isWildcard = false := by
  cases wildcard : avp.isWildcard with
  | false => rfl
  | true =>
    simp only [DictionaryEntry.isWildcard, Bool.and_eq_true, beq_iff_eq] at wildcard
    exact absurd (typed.symm.trans (avp.wildcardOnly wildcard.2).2.1) other

theorem le_headerLen {avp : DictionaryEntry} (strict : avp.isWildcard = false) : 8 ≤ avp.headerLen := by
  rw [DictionaryEntry.headerLen, strict]
  cases avp.vendorSpecific <;> decide

structure QualifiedAvp where
  avp : DictionaryEntry
  min : Nat
  max : Nat
  deriving DecidableEq, Repr

/-- `DiameterDictionary`: the fixed, required and optional rule lists. -/
structure DiameterDictionary where
  avpF : List QualifiedAvp
  avpR : List QualifiedAvp
  avpO : List QualifiedAvp
  deriving DecidableEq, Repr

/-- The rules in the order in which both parsers go through them. -/
def DiameterDictionary.rules (dict : DiameterDictionary) : List (AvpParseType × QualifiedAvp) :=
  dict.avpF.map (.fixedHead, ·) ++ dict.avpR.map (.required, ·) ++ dict.avpO.map (.optional, ·)

structure DiameterGroupedAvp where
  code : UInt32
  vendorId : UInt32
  dict : DiameterDictionary
  deriving DecidableEq, Repr

/-- `DiameterGroupedAvpList::search`. -/
def searchGroup (groups : List DiameterGroupedAvp) (avp : DictionaryEntry) :
    Option DiameterGroupedAvp :=
  groups.find? fun group => group.code == avp.avpCode && group.vendorId == avp.vendorId

section MinSize

/-- `DiameterQualifiedAvpList::getMinSize`, given the size of one AVP. -/
def listMinSize (size : DictionaryEntry → Parse Nat) : List QualifiedAvp → Parse Nat
  | [] => .returned 0
  | rule :: rules => do
    let one ← size rule.avp
    let rest ← listMinSize size rules
    return (one * rule.min + rest) % 2 ^ 32

/-- `getMinSize`. A grouped AVP asks for the sizes of its members, so the fuel
bounds the depth; a chain of more groups than are defined never ends. -/
def minSizeWithin (groups : List DiameterGroupedAvp) : Nat → DictionaryEntry → Parse Nat
  | 0, _ => .fault
  | fuel + 1, avp =>
    match avp.avpType.minSize with
    | none => raise (.bug .missingAvpValueParser)
    | some typeSize => do
      let sum ←
        if avp.avpType = .grouped then
          match searchGroup groups avp with
          | none => raise (.bug .missingAvpDictionaryEntry)
          | some group => do
            -- the sum of the fixed AVPs is overwritten by that of the required ones
            let _ ← listMinSize (minSizeWithin groups fuel) group.dict.avpF
            listMinSize (minSizeWithin groups fuel) group.dict.avpR
        else .returned 0
      return (sum + typeSize + 8 + if avp.vendorId ≠ 0 then 4 else 0) % 2 ^ 32

def getMinSize (groups : List DiameterGroupedAvp) (avp : DictionaryEntry) : Parse Nat :=
  minSizeWithin groups (groups.length + 1) avp

end MinSize

end OpenDiameter.Parser
