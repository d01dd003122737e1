import OpenDiameter.Parser.Dictionary

/-! AVP values, their containers, and the text forms of the structured ones. -/

set_option autoImplicit false

namespace OpenDiameter.Parser

open Foundation

section Text

inductive UriScheme where
  | aaa | aaas
  deriving DecidableEq, Repr

inductive UriTransport where
  | tcp | sctp | udp
  deriving DecidableEq, Repr

inductive UriProtocol where
  | diameter | radius | tacacsPlus
  deriving DecidableEq, Repr

/-- `diameter_uri_t`. A text without a port leaves the field of the parsed value
unassigned, which is `none`. -/
structure DiameterUri where
  fqdn : Octets
  port : Option UInt16
  transport : UriTransport
  protocol : UriProtocol
  scheme : UriScheme
  deriving DecidableEq, Repr

inductive IpFilterAction where
  | permit | deny
  deriving DecidableEq, Repr

inductive IpFilterDirection where
  | into | out
  deriving DecidableEq, Repr

inductive SrcDstRepresentation where
  | exact | mask | any | assigned
  deriving DecidableEq, Repr

structure IpFilterSrcDst where
  modifier : Bool
  representation : SrcDstRepresentation
  ipno : Octets
  bits : UInt8
  portRangeList : List (UInt16 × UInt16)
  deriving DecidableEq, Repr

structure IpFilterRule where
  action : IpFilterAction
  dir : IpFilterDirection
  proto : UInt8
  src : IpFilterSrcDst
  dst : IpFilterSrcDst
  frag : Bool
  ipOptionList : List Int
  tcpOptionList : List Int
  established : Bool
  setup : Bool
  tcpFlagList : List Int
  icmpTypeRangeList : List (Int8 × Int8)
  deriving DecidableEq, Repr

def ascii (text : String) : Octets := text.toList.map fun c => UInt8.ofNat c.toNat

/-- `%u` and `%d` of a number that is not negative. -/
def decimal (n : Nat) : Octets := ascii (toString n)

/-- The text `DiamuriParser::parseAppToRaw` builds. An unassigned port is printed
as whatever the memory holds, so it has no text. -/
def DiameterUri.print (uri : DiameterUri) : Parse Octets :=
  match uri.port with
  | none => .fault
  | some port => .returned
      ((match uri.scheme with | .aaa => ascii "aaa://" | .aaas => ascii "aaas://") ++ uri.fqdn ++
        ascii ":" ++ decimal port.toNat ++ ascii ";transport=" ++
        (if uri.transport = .tcp then ascii "tcp" else ascii "sctp") ++ ascii ";protocol=" ++
        (if uri.protocol = .diameter then ascii "diameter" else ascii "radius"))

def printList {α : Type} (print : α → Octets) : List α → Octets
  | [] => []
  | [item] => print item
  | item :: items => print item ++ ascii "," ++ printList print items

def printRange (first last : Nat) : Octets :=
  if first = last then decimal first else decimal first ++ ascii "-" ++ decimal last

def printOption (names : List String) (option : Int) : Octets :=
  (if option < 0 then ascii "!" else []) ++
    match names[option.natAbs - 1]? with
    | some name => if option = 0 then [] else ascii name
    | none => []

def IpFilterSrcDst.print (side : IpFilterSrcDst) : Octets :=
  (if side.modifier then [] else ascii "!") ++
    (match side.representation with
      | .any => ascii "any "
      | .assigned => ascii "assigned "
      | .mask => side.ipno ++ ascii "/" ++ decimal side.bits.toNat ++ ascii " "
      | .exact => side.ipno ++ ascii " ") ++
    printList (fun range => printRange range.1.toNat range.2.toNat) side.portRangeList ++
    if side.portRangeList = [] then [] else ascii " "

/-- The text `IPFilterRuleParser::parseAppToRaw` builds. A protocol of three
digits overruns `protoStr`, a negative ICMP type overruns `typeStr`. -/
def IpFilterRule.print (r : IpFilterRule) : Parse Octets :=
  if 100 ≤ r.proto.toNat ∨ ∃ range ∈ r.icmpTypeRangeList, range.1 < 0 ∨ range.2 < 0 then .fault
  else .returned
    ((match r.action with | .permit => ascii "permit " | .deny => ascii "deny ") ++
      (match r.dir with | .into => ascii "in " | .out => ascii "out ") ++
      (if r.proto = 0 then ascii "ip " else decimal r.proto.toNat ++ ascii " ") ++
      ascii "from " ++ r.src.print ++ ascii "to " ++ r.dst.print ++
      (if r.frag then ascii " frag" else []) ++
      (if r.ipOptionList = [] then [] else ascii " ipoptions") ++
      printList (printOption ["ssrr", "lsrr", "rr", "ts"]) r.ipOptionList ++
      (if r.tcpOptionList = [] then [] else ascii " tcpoptions ") ++
      printList (printOption ["mss", "window", "sack", "ts", "cc"]) r.tcpOptionList ++
      (if r.established then ascii " established" else []) ++
      (if r.setup then ascii " setup" else []) ++
      (if r.tcpFlagList = [] then [] else ascii " tcpflags") ++
      printList (printOption ["fin", "syn", "rst", "psh", "ack", "urg"]) r.tcpFlagList ++
      (if r.icmpTypeRangeList = [] then [] else ascii " icmptypes") ++
      printList (fun range => printRange range.1.toInt.toNat range.2.toInt.toNat) r.icmpTypeRangeList)

/-- The Spirit grammars of DiameterIdentity, DiameterURI and IPFilterRule: which
texts they match in full, and what the semantic actions build. -/
structure Grammars where
  diamident : Octets → Bool
  diamuri : Octets → Option DiameterUri
  ipFilterRule : Octets → Option IpFilterRule

end Text

section Utf8

/-- The leading 1 bits of `b`, counted up to `limit`. -/
def leadingOnes : Nat → UInt8 → Nat
  | 0, _ => 0
  | limit + 1, b => if b &&& 0x80 = 0 then 0 else leadingOnes limit (b <<< 1) + 1

/-- The loop over the `k` remaining octets of a character. -/
def continuation : Nat → Octets → Option Octets
  | 0, data => some data
  | _ + 1, [] => none
  | k + 1, b :: data => if b >>> 6 = 2 then continuation k data else none

theorem continuation_length {k : Nat} {data rest : Octets} (read : continuation k data = some rest) :
    rest.length ≤ data.length := by
  induction k generalizing data with
  | zero =>
    cases read
    exact Nat.le_refl _
  | succ k ih =>
    cases data with
    | nil => cases read
    | cons b data =>
      unfold continuation at read
      split at read
      · exact Nat.le_succ_of_le (ih read)
      · cases read

/-- `UTF8Checker::check`: 0 for a well-formed string, else -1. -/
def utf8Check : Octets → Int
  | [] => 0
  | b :: data =>
    let count := leadingOnes 7 b
    if count = 0 then utf8Check data
    else if 6 < count ∨ count = 1 then -1
    else
      match _read : continuation (count - 1) data with
      | none => -1
      | some rest => utf8Check rest
termination_by data => data.length
decreasing_by
  · exact Nat.lt_succ_self _
  · exact Nat.lt_succ_of_le (continuation_length _read)

end Utf8

section Containers

structure AvpContainer (ε : Type) where
  avpName : String
  parseType : AvpParseType
  entries : List ε
  deriving DecidableEq, Repr

/-- `AAAAvpContainerEntry`: the data type tag together with the value stored
under it. The 32-bit and 64-bit types store the raw word. -/
inductive AvpContainerEntry where
  | data (value : Octets)
  | string (value : Octets)
  | ipAddress (type : UInt16) (value : Octets)
  | integer32 (value : UInt32)
  | integer64 (value : UInt64)
  | uinteger32 (value : UInt32)
  | uinteger64 (value : UInt64)
  | utf8String (value : Octets)
  | enum (value : UInt32)
  | diamId (value : Octets)
  | diamUri (value : DiameterUri)
  | grouped (acl : List (AvpContainer AvpContainerEntry))
  | time (value : UInt32)
  | ipFilterRule (value : IpFilterRule)

abbrev AvpContainerList : Type := List (AvpContainer AvpContainerEntry)

/-- `AAAAvpContainerList::search`. -/
def searchContainer (acl : AvpContainerList) (avpName : String) :
    Option (AvpContainer AvpContainerEntry) :=
  acl.find? fun c => c.avpName == avpName

mutual

def AvpContainerEntry.depth : AvpContainerEntry → Nat
  | .grouped acl => depthList acl + 1
  | _ => 0

def depthList : List (AvpContainer AvpContainerEntry) → Nat
  | [] => 0
  | c :: acl => max (depthContainer c) (depthList acl)

def depthContainer : AvpContainer AvpContainerEntry → Nat
  | ⟨_, _, entries⟩ => depthEntries entries

def depthEntries : List AvpContainerEntry → Nat
  | [] => 0
  | entry :: entries => max entry.depth (depthEntries entries)

end

/-- What the parsers consult besides their arguments. -/
structure ParserEnv where
  groupedAvpList : List DiameterGroupedAvp
  grammars : Grammars

end Containers

end OpenDiameter.Parser
