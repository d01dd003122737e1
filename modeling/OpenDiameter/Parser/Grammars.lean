import OpenDiameter.Foundation.Grammar
import OpenDiameter.Parser.Values

/-! The grammars of DiameterIdentity, DiameterURI and IPFilterRule.

The actions write into the structure that the grammar is built over, which is the
parser's own and new for every AVP.
-/

set_option autoImplicit false

namespace OpenDiameter.Parser

open Foundation

section Primitives

variable {σ : Type}

def strP (text : String) : Rule σ := .str (ascii text)

def chP (c : Char) : Rule σ := .ch (UInt8.ofNat c.toNat)

def alphaP : Rule σ := .one isAlpha

def digitP : Rule σ := .one isDigit

def alnumP : Rule σ := .one fun b => isAlpha b || isDigit b

def uintP (action : Nat → σ → σ) : Rule σ :=
  .token (fun input => numeral 10 input.length (2 ^ 32 - 1) input) (fun _ => true) action

/-- `limit_d(0u, max)[uint3_p[action]]`: at most three digits are read. -/
def uint3P (max : Nat) (action : Nat → σ → σ) : Rule σ :=
  .token (numeral 10 3 (2 ^ 32 - 1)) (fun value => value ≤ max) action

def hex4P : Rule σ := .token (numeral 16 4 (2 ^ 32 - 1)) (fun _ => true) fun _ s => s

/-- What `int_p` reads. -/
def signedNumeral (input : Octets) : Option (Int × Octets) :=
  match input with
  | [] => none
  | b :: digits =>
    if b = 45 then (numeral 10 digits.length (2 ^ 31) digits).map fun (value, rest) => (-(value : Int), rest)
    else if b = 43 then (numeral 10 digits.length (2 ^ 31 - 1) digits).map fun (value, rest) => ((value : Int), rest)
    else (numeral 10 input.length (2 ^ 31 - 1) input).map fun (value, rest) => ((value : Int), rest)

def intP (action : Int → σ → σ) : Rule σ := .token signedNumeral (fun _ => true) action

end Primitives

namespace DiamidentGrammar

def diameterName : Rule Unit := alphaP >> (alnumP <|> chP '-' <|> chP '_').many

def diameterDname : Rule Unit := digitP >> (alnumP <|> chP '-' <|> chP '_').many1

def label : Rule Unit := diameterName <|> diameterDname

def realm : Rule Unit := label >> (chP '.' >> label).many

def diameterIdentity : Rule Unit := realm

end DiamidentGrammar

namespace DiamuriGrammar

def diameterName : Rule DiameterUri := alphaP >> (alnumP <|> chP '-').many

def diameterDname : Rule DiameterUri := digitP >> (alnumP <|> chP '-').many1

def label : Rule DiameterUri := diameterName <|> diameterDname

/-- `FqdnFunctor`. -/
def fqdn : Rule DiameterUri := (label >> (chP '.' >> label).many).act fun text uri => { uri with fqdn := text }

def port : Rule DiameterUri := strP ":" >> intP fun value uri => { uri with port := some (UInt16.ofInt value) }

/-- `SchemeFunctor`. -/
def schemeAction (text : Octets) (uri : DiameterUri) : DiameterUri :=
  { uri with scheme := if text = ascii "aaa" then .aaa else .aaas }

/-- `TransportFunctor`. -/
def transportAction (text : Octets) (uri : DiameterUri) : DiameterUri :=
  if text = ascii "tcp" then { uri with transport := .tcp }
  else if text = ascii "udp" then { uri with transport := .udp }
  else if text = ascii "sctp" then { uri with transport := .sctp }
  else uri

/-- `ProtocolFunctor`: the number of the protocol is written into the transport. -/
def protocolAction (text : Octets) (uri : DiameterUri) : DiameterUri :=
  if text = ascii "diameter" then { uri with transport := .tcp }
  else if text = ascii "radius" then { uri with transport := .sctp }
  else if text = ascii "tacacs+" then { uri with transport := .udp }
  else uri

def transport : Rule DiameterUri :=
  strP ";transport=" >> (strP "tcp" <|> strP "sctp" <|> strP "udp").act transportAction

def protocol : Rule DiameterUri :=
  strP ";protocol=" >> (strP "diameter" <|> strP "radius" <|> strP "tacacs+").act protocolAction

def diameterUri : Rule DiameterUri :=
  (strP "aaa" <|> strP "aaas").act schemeAction >> strP "://" >> fqdn >> port.maybe >> transport.maybe >> protocol.maybe

def defaults : DiameterUri := { fqdn := [], port := none, transport := .tcp, protocol := .diameter, scheme := .aaa }

end DiamuriGrammar

namespace IpFilterRuleGrammar

def action : Rule IpFilterRule :=
  (strP "permit" <|> strP "deny").act fun text r =>
    { r with action := if text = ascii "permit" then .permit else .deny }

/-- `KeywordFunctor` on the direction. -/
def dir : Rule IpFilterRule :=
  (strP "in" <|> strP "out").act fun text r => { r with dir := if text = ascii "in" then .into else .out }

/-- The keyword `ip` leaves the default. -/
def proto : Rule IpFilterRule := strP "ip" <|> uint3P 255 fun value r => { r with proto := UInt8.ofNat value }

section Address

variable {σ : Type}

def octet : Rule σ := uint3P 255 fun _ s => s

def ipv4DottedForm : Rule σ := octet >> chP '.' >> octet >> chP '.' >> octet >> chP '.' >> octet

def ipv6CanonicalForm : Rule σ := (hex4P <|> strP "::").many1

def ipno : Rule σ := ipv4DottedForm <|> ipv6CanonicalForm

end Address

section Sides

abbrev OnSide : Type := (IpFilterSrcDst → IpFilterSrcDst) → IpFilterRule → IpFilterRule

def onSrc : OnSide := fun change r => { r with src := change r.src }

def onDst : OnSide := fun change r => { r with dst := change r.dst }

variable (on : OnSide)

/-- `Int16RangeListFunctor1`. -/
def firstPort (value : Nat) (side : IpFilterSrcDst) : IpFilterSrcDst :=
  { side with portRangeList := side.portRangeList ++ [(UInt16.ofNat value, UInt16.ofNat value)] }

/-- `Int16RangeListFunctor2`. -/
def lastPort (value : Nat) (side : IpFilterSrcDst) : IpFilterSrcDst :=
  { side with portRangeList := side.portRangeList.modifyLast fun range => (range.1, UInt16.ofNat value) }

def portRange : Rule IpFilterRule :=
  uintP (fun value => on (firstPort value)) >> (chP '-' >> uintP fun value => on (lastPort value)).maybe

def ports : Rule IpFilterRule := portRange on % chP ','

def negation : Rule IpFilterRule := (chP '!').act fun _ => on fun side => { side with modifier := false }

def keyword : Rule IpFilterRule :=
  (strP "any" <|> strP "assigned").act fun text => on fun side =>
    { side with representation := if text = ascii "any" then .any else .assigned }

/-- `IPAddressFunctor`. -/
def address : Rule IpFilterRule := ipno.act fun text => on fun side => { side with ipno := text }

def maskBits : Rule IpFilterRule :=
  ((chP '/').act fun _ => on fun side => { side with representation := .mask }) >>
    uint3P 128 fun value => on fun side => { side with bits := UInt8.ofNat value }

def srcDst : Rule IpFilterRule :=
  (negation on).maybe >> (keyword on <|> (address on >> (maskBits on).maybe)) >> (ports on).maybe

def src : Rule IpFilterRule := srcDst onSrc

def dst : Rule IpFilterRule := srcDst onDst

end Sides

section Options

def frag : Rule IpFilterRule := (strP "frag").act fun _ r => { r with frag := true }

def named (push : Int → IpFilterRule → IpFilterRule) (name : String) (number : Int) : Rule IpFilterRule :=
  ((chP '!' >> strP name).act fun _ => push (-number)) <|> (strP name).act fun _ => push number

def pushIpOption (number : Int) (r : IpFilterRule) : IpFilterRule :=
  { r with ipOptionList := r.ipOptionList ++ [number] }

def ssrr : Rule IpFilterRule := named pushIpOption "ssrr" 1

def lsrr : Rule IpFilterRule := named pushIpOption "lsrr" 2

def rr : Rule IpFilterRule := named pushIpOption "rr" 3

def ipts : Rule IpFilterRule := named pushIpOption "ts" 4

def ipoptions : Rule IpFilterRule := strP "ipoptions" >> (ssrr <|> lsrr <|> rr <|> ipts) % chP ','

def pushTcpOption (number : Int) (r : IpFilterRule) : IpFilterRule :=
  { r with tcpOptionList := r.tcpOptionList ++ [number] }

def mss : Rule IpFilterRule := named pushTcpOption "mss" 1

def window : Rule IpFilterRule := named pushTcpOption "window" 2

def sack : Rule IpFilterRule := named pushTcpOption "sack" 3

def tcpts : Rule IpFilterRule := named pushTcpOption "ts" 4

def cc : Rule IpFilterRule := named pushTcpOption "cc" 5

def tcpoptions : Rule IpFilterRule := strP "tcpoptions" >> (mss <|> window <|> sack <|> tcpts <|> cc) % chP ','

def established : Rule IpFilterRule := (strP "established").act fun _ r => { r with established := true }

def setup : Rule IpFilterRule := (strP "setup").act fun _ r => { r with setup := true }

def pushTcpFlag (number : Int) (r : IpFilterRule) : IpFilterRule :=
  { r with tcpFlagList := r.tcpFlagList ++ [number] }

def fin : Rule IpFilterRule := named pushTcpFlag "fin" 1

def syn : Rule IpFilterRule := named pushTcpFlag "syn" 2

def rst : Rule IpFilterRule := named pushTcpFlag "rst" 3

def psh : Rule IpFilterRule := named pushTcpFlag "psh" 4

def ack : Rule IpFilterRule := named pushTcpFlag "ack" 5

def urg : Rule IpFilterRule := named pushTcpFlag "urg" 6

def tcpflags : Rule IpFilterRule := strP "tcpflags" >> (fin <|> syn <|> rst <|> psh <|> ack <|> urg) % chP ','

/-- `Int8RangeListFunctor1`. -/
def firstType (value : Nat) (r : IpFilterRule) : IpFilterRule :=
  { r with icmpTypeRangeList := r.icmpTypeRangeList ++ [(Int8.ofNat value, Int8.ofNat value)] }

/-- `Int8RangeListFunctor2`. -/
def lastType (value : Nat) (r : IpFilterRule) : IpFilterRule :=
  { r with icmpTypeRangeList := r.icmpTypeRangeList.modifyLast fun range => (range.1, Int8.ofNat value) }

def icmptypes : Rule IpFilterRule := (uintP firstType >> (chP '-' >> uintP lastType).maybe) % chP ','

def option : Rule IpFilterRule :=
  frag <|> ipoptions <|> tcpoptions <|> established <|> setup <|> tcpflags <|> icmptypes

def options : Rule IpFilterRule := option.many1

end Options

def ipfilterRule : Rule IpFilterRule :=
  action >> dir >> proto >> strP "from" >> src >> strP "to" >> dst >> options.maybe

def side : IpFilterSrcDst := { modifier := true, representation := .exact, ipno := [], bits := 0, portRangeList := [] }

def defaults : IpFilterRule :=
  { action := .permit, dir := .into, proto := 0, src := side, dst := side, frag := false, ipOptionList := [],
    tcpOptionList := [], established := false, setup := false, tcpFlagList := [], icmpTypeRangeList := [] }

end IpFilterRuleGrammar

def spirit : Grammars where
  diamident text := (DiamidentGrammar.diameterIdentity.full text ()).isSome
  diamuri text := DiamuriGrammar.diameterUri.full text DiamuriGrammar.defaults
  ipFilterRule text := IpFilterRuleGrammar.ipfilterRule.full text IpFilterRuleGrammar.defaults

end OpenDiameter.Parser
