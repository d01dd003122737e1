import OpenDiameter.Parser.MsgHeader
import OpenDiameter.Session.SessionIdText

/-! Loading the XML dictionary: one handler for each element name, and two passes over the document.

A handler is used for every occurrence of its element, so it keeps what it knows in
members that the end of the element resets. Its parent is the handler on top of a stack
that is shared. Elements without a handler in the pass do not show up at all.
-/

set_option autoImplicit false

namespace OpenDiameter.Parser.DictionaryLoader

open Foundation OpenDiameter.Session

section Documents

abbrev Attributes : Type := List (String × String)

inductive Event where
  | startDocument
  | startElement (qName : String) (atts : Attributes)
  | characters (text : String)
  | endElement (qName : String)
  | endDocument
  deriving DecidableEq, Repr

def last? (atts : Attributes) (qName : String) : Option String :=
  (atts.reverse.find? (·.1 == qName)).map (·.2)

def first? (atts : Attributes) (qName : String) : Option String :=
  (atts.find? (·.1 == qName)).map (·.2)

end Documents

section Tables

inductive Position where
  | fixed | required | optional
  deriving DecidableEq, Repr

/-- `AAAQualifiedAVP`: the AVP by its place in the list, and a qualifier of 16 bits. -/
structure Rule where
  avp : Nat
  min : UInt16
  max : UInt16
  deriving DecidableEq, Repr

structure RuleLists where
  avp_f : List Rule
  avp_r : List Rule
  avp_o : List Rule
  deriving DecidableEq, Repr

def RuleLists.empty : RuleLists := ⟨[], [], []⟩

/-- `ResolveAvpList(dict, position)->add(qavp)`. -/
def RuleLists.add (lists : RuleLists) : Position → Rule → RuleLists
  | .fixed, rule => { lists with avp_f := lists.avp_f ++ [rule] }
  | .required, rule => { lists with avp_r := lists.avp_r ++ [rule] }
  | .optional, rule => { lists with avp_o := lists.avp_o ++ [rule] }

structure Command where
  name : String
  code : UInt32
  appId : UInt32
  r : Bool
  p : Bool
  e : Bool
  dict : RuleLists
  deriving DecidableEq, Repr

structure Group where
  code : UInt32
  vendorId : UInt32
  dict : RuleLists
  deriving DecidableEq, Repr

inductive Dict where
  | command (place : Nat)
  | group (place : Nat)
  deriving DecidableEq, Repr

structure Tables where
  avpList : List DictionaryEntry
  groupList : List Group
  commandList : List Command
  deriving DecidableEq, Repr

/-- `Any`. -/
def anyEntry : DictionaryEntry := ⟨"AVP", 0, .data, 0, 0, rfl, fun _ => ⟨rfl, rfl, rfl⟩⟩

def Tables.initial : Tables := ⟨[anyEntry], [], []⟩

/-- `DiameterAvpList::search` by the name, as the place of what it finds. -/
def Tables.searchAvp (t : Tables) (avpName : String) : Option Nat := t.avpList.findIdx? (·.avpName == avpName)

def Tables.addRule (t : Tables) (dict : Dict) (position : Position) (rule : Rule) : Tables :=
  match dict with
  | .command place =>
    { t with commandList := t.commandList.modify place fun com => { com with dict := com.dict.add position rule } }
  | .group place =>
    { t with groupList := t.groupList.modify place fun avp => { avp with dict := avp.dict.add position rule } }

/-- `DiameterCommandList::search`. -/
def Tables.search (t : Tables) (code appId : UInt32) (request : Bool) : Option Command :=
  t.commandList.find? fun com => com.code == code && com.appId == appId && com.r == request

/-- `DiameterGroupedAvpList::search`. -/
def Tables.searchGroup (t : Tables) (code vendorId : UInt32) : Option Group :=
  t.groupList.find? fun group => group.code == code && group.vendorId == vendorId

def Tables.rule (t : Tables) (rule : Rule) : QualifiedAvp :=
  ⟨(t.avpList[rule.avp]?).getD anyEntry, rule.min.toNat, rule.max.toNat⟩

def Tables.dict (t : Tables) (lists : RuleLists) : DiameterDictionary :=
  ⟨lists.avp_f.map t.rule, lists.avp_r.map t.rule, lists.avp_o.map t.rule⟩

def Tables.command (t : Tables) (com : Command) : DiameterCommand :=
  ⟨com.code, com.appId, com.r, com.p, t.dict com.dict⟩

def Tables.group (t : Tables) (group : Group) : DiameterGroupedAvp := ⟨group.code, group.vendorId, t.dict group.dict⟩

theorem searchCommand_map (t : Tables) (code appId : UInt32) (request : Bool) :
    searchCommand (t.commandList.map t.command) code appId request = (t.search code appId request).map t.command := by
  rw [searchCommand, List.find?_map]
  rfl

theorem searchGroup_map (t : Tables) (avp : DictionaryEntry) :
    Parser.searchGroup (t.groupList.map t.group) avp = (t.searchGroup avp.avpCode avp.vendorId).map t.group := by
  rw [Parser.searchGroup, List.find?_map]
  rfl

/-- The assignment to `avpType`. No element has a pointer to the built-in entry. -/
def retyped (avpType : AvpDataType) (avp : DictionaryEntry) : DictionaryEntry :=
  if other : avp.avpName = "AVP" then avp
  else { avp with avpType, wildcardOnly := fun name => absurd name other }

def Tables.setType (t : Tables) (place : Nat) (avpType : AvpDataType) : Tables :=
  { t with avpList := t.avpList.modify place (retyped avpType) }

end Tables

section Handlers

inductive Handler where
  | dictionary | vendor | base | application | command | requestrules | answerrules | typedefn | avp | type
  | grouped | position (position : Position) | rule
  deriving DecidableEq, Repr

def Handler.name : Handler → String
  | .dictionary => "dictionary"
  | .vendor => "vendor"
  | .base => "base"
  | .application => "application"
  | .command => "command"
  | .requestrules => "requestrules"
  | .answerrules => "answerrules"
  | .typedefn => "typedefn"
  | .avp => "avp"
  | .type => "type"
  | .grouped => "grouped"
  | .position .fixed => "fixed"
  | .position .required => "required"
  | .position .optional => "optional"
  | .rule => "rule"

/-- `m_elementMaps[0]`. -/
def firstMap : List Handler :=
  [.dictionary, .vendor, .base, .application, .typedefn, .avp, .type, .grouped,
    .position .fixed, .position .required, .position .optional, .rule]

/-- `m_elementMaps[1]`. -/
def secondMap : List Handler :=
  [.dictionary, .base, .application, .command, .requestrules, .answerrules,
    .position .fixed, .position .required, .position .optional, .rule]

def elementMap : Nat → Option (List Handler)
  | 1 => some firstMap
  | 2 => some secondMap
  | _ => none

/-- The members of a handler: those of `AAAXML_Element` and, with their initial values in
the classes that do not have them, those of its own class. -/
structure Element where
  m_inProcess : Bool := false
  m_isSkipped : Bool := false
  m_parent : Option Handler := none
  m_name : String := ""
  m_code : UInt32 := 0
  m_appId : UInt32 := 0
  m_pBit : UInt32 := 0
  m_eBit : UInt32 := 0
  m_dict : Option Dict := none
  m_avp : Option Nat := none
  m_qAvpList : Option (Dict × Position) := none
  deriving DecidableEq, Repr

/-- How the loader ends early: `exit(1)`, a `throw` outside of a handler, or undefined behaviour. -/
inductive Stop where
  | exit | terminate | fault
  deriving DecidableEq, Repr

structure Loader where
  m_passNum : Nat
  elements : Handler → Element
  m_callStack : List Handler
  tables : Tables

def Loader.initial : Loader := ⟨0, fun _ => {}, [], .initial⟩

/-- What the loader is given: how `atoi` reads numbers, and `DiameterAvpTypeList::search`. -/
structure Environment where
  platform : Platform
  types : String → Option AvpDataType

def Environment.atoi (env : Environment) (text : String) : UInt32 := env.platform.atoi text.toUTF8.data.toList

namespace Loader

def set (s : Loader) (h : Handler) (e : Element) : Loader := { s with elements := Function.update s.elements h e }

/-- `AAAXML_Element::startElement` for a handler that is not in process. -/
def enter (s : Loader) (h : Handler) : Loader :=
  let e := s.elements h
  let m_parent := match s.m_callStack with
    | [] => e.m_parent
    | front :: _ => some front
  { s.set h { e with m_inProcess := true, m_parent } with m_callStack := h :: s.m_callStack }

/-- `AAAXML_Element::endElement`. -/
def leave (s : Loader) (h : Handler) : Except Stop Loader :=
  let e := s.elements h
  if e.m_inProcess then
    match s.m_callStack with
    | [] => .error .fault
    | _ :: m_callStack => .ok { s.set h { e with m_inProcess := false, m_parent := none } with m_callStack }
  else .ok s

variable (env : Environment) (atts : Attributes) (s : Loader)

def startApplication : Loader :=
  let e := s.elements .application
  s.set .application { e with
    m_name := (last? atts "name").getD e.m_name
    m_appId := ((last? atts "id").map env.atoi).getD e.m_appId }

def startCommand : Except Stop Loader :=
  let e := s.elements .command
  let e := { e with
    m_name := (last? atts "name").getD e.m_name
    m_code := ((last? atts "code").map env.atoi).getD e.m_code
    m_appId := ((last? atts "application-id").map env.atoi).getD e.m_appId
    m_pBit := ((last? atts "pbit").map env.atoi).getD e.m_pBit
    m_eBit := ((last? atts "ebit").map env.atoi).getD e.m_eBit }
  -- The application id is that of the parent, whatever the attribute says.
  match e.m_parent with
  | none => .error .fault
  | some .base => .ok (s.set .command { e with m_appId := 0 })
  | some .application => .ok (s.set .command { e with m_appId := (s.elements .application).m_appId })
  | some _ => .error .terminate

/-- `requestrules` and `answerrules`; the bit-fields keep the lowest bit. -/
def startRules (h : Handler) (suffix : String) (r : Bool) : Except Stop Loader :=
  match (s.elements h).m_parent with
  | some .command =>
    let cmdElm := s.elements .command
    let name := cmdElm.m_name ++ suffix
    if s.tables.commandList.any (·.name == name) then .error .exit
    else
      let com : Command := ⟨name, cmdElm.m_code, cmdElm.m_appId, r, cmdElm.m_pBit % 2 = 1, cmdElm.m_eBit % 2 = 1, .empty⟩
      let m_dict := some (.command s.tables.commandList.length)
      .ok ({ s with tables := { s.tables with commandList := s.tables.commandList ++ [com] } }.set h
        { s.elements h with m_dict })
  | _ => .error .fault

/-- The flags of an AVP: `DIAMETER_AVP_FLAG_ENCRYPT` and the three that are sent. -/
def avpFlags (encrypt mandatory protect vendor : Bool) : Nat :=
  (if encrypt then 0x40000 else 0) ||| (if mandatory then flagMandatory else 0) |||
    (if protect then flagEndToEndEncrypt else 0) ||| (if vendor then flagVendorSpecific else 0)

theorem vendorFlag_avpFlags (encrypt mandatory protect vendor : Bool) :
    hasFlag (avpFlags encrypt mandatory protect vendor) flagVendorSpecific = vendor := by
  cases encrypt <;> cases mandatory <;> cases protect <;> cases vendor <;> decide

/-- The entry of an `avp` element before its type is known. -/
def newEntry (name : String) (other : name ≠ "AVP") : DictionaryEntry :=
  let vendorId := ((last? atts "vendorId").map env.atoi).getD 0
  let admits (value : String) : Bool := value = "may" ∨ value = "must" ∨ value = ""
  { avpName := name
    avpCode := ((last? atts "code").map env.atoi).getD 0
    avpType := .data
    vendorId
    flags := avpFlags ((last? atts "may-encript").getD "" = "yes") (admits ((last? atts "mandatory").getD ""))
      (admits ((last? atts "protect").getD "")) (vendorId ≠ 0)
    vendorFlag := vendorFlag_avpFlags _ _ _ _
    wildcardOnly := fun same => absurd same other }

def startAvp : Except Stop Loader :=
  let name := (last? atts "name").getD ""
  if other : name ≠ "AVP" then
    if (s.tables.searchAvp name).isSome then .error .exit
    else
      let m_avp := some s.tables.avpList.length
      .ok ({ s with tables := { s.tables with avpList := s.tables.avpList ++ [newEntry env atts name other] } }.set .avp
        { s.elements .avp with m_avp })
  else .ok (s.set .avp { s.elements .avp with m_avp := none })

def startType : Except Stop Loader :=
  let tname := (first? atts "name").getD ""
  if tname = "" then .error .terminate
  else
    match env.types tname with
    | none => .error .terminate
    | some .data => .ok s
    | some avpType =>
      match (s.elements .type).m_parent, (s.elements .avp).m_avp with
      | some .avp, some place => .ok { s with tables := s.tables.setType place avpType }
      | _, _ => .error .fault

def startGrouped : Except Stop Loader :=
  match (s.elements .grouped).m_parent, (s.elements .avp).m_avp with
  | some .avp, some place =>
    match s.tables.avpList[place]? with
    | none => .error .fault
    | some avp =>
      if s.tables.groupList.any fun group => group.code == avp.avpCode && group.vendorId == avp.vendorId then
        .error .exit
      else
        let group : Group := ⟨avp.avpCode, avp.vendorId, .empty⟩
        let m_dict := some (.group s.tables.groupList.length)
        let tables := { s.tables with groupList := s.tables.groupList ++ [group] }.setType place .grouped
        .ok ({ s with tables }.set .grouped { s.elements .grouped with m_dict })
  | _, _ => .error .fault

def startPosition (position : Position) : Except Stop Loader :=
  let e := s.elements (.position position)
  let resolve (dict : Option Dict) : Except Stop Loader :=
    match dict with
    | none => .error .terminate
    | some dict => .ok (s.set (.position position) { e with m_qAvpList := some (dict, position) })
  match e.m_parent with
  | none => .error .fault
  | some .requestrules => resolve (s.elements .requestrules).m_dict
  | some .answerrules => resolve (s.elements .answerrules).m_dict
  | some .grouped => resolve (s.elements .grouped).m_dict
  | some _ => .ok (s.set (.position position) { e with m_isSkipped := true })

/-- `AAA_QUALIFIER_INFINITY`. -/
def qualifierInfinity : UInt32 := 65535

def ruleMin : UInt32 :=
  let sMin := (last? atts "min").getD ""
  if sMin = "" then 0 else env.atoi sMin

def ruleMax : UInt32 :=
  let sMax := (last? atts "max").getD ""
  if sMax = "none" ∨ sMax = "" then qualifierInfinity else env.atoi sMax

/-- The `vendorId` of a rule is read and not used. -/
def startRule : Except Stop Loader :=
  match (s.elements .rule).m_parent with
  | some (.position position) =>
    let posElm := s.elements (.position position)
    if posElm.m_isSkipped then .ok s
    else
      match s.tables.searchAvp ((last? atts "name").getD "") with
      | none => .error .terminate
      | some avp =>
        match posElm.m_qAvpList with
        | none => .error .fault
        | some (dict, list) =>
          .ok { s with tables :=
            s.tables.addRule dict list ⟨avp, (ruleMin env atts).toUInt16, (ruleMax env atts).toUInt16⟩ }
  | _ => .error .fault

def startElement (h : Handler) : Except Stop Loader :=
  if (s.elements h).m_inProcess then .ok s
  else
    let s := s.enter h
    match h with
    | .dictionary | .vendor | .base | .typedefn => .ok s
    | .application => .ok (startApplication env atts s)
    | .command => startCommand env atts s
    | .requestrules => startRules s .requestrules "-Request" true
    | .answerrules => startRules s .answerrules "-Answer" false
    | .avp => startAvp env atts s
    | .type => startType env atts s
    | .grouped => startGrouped s
    | .position position => startPosition s position
    | .rule => startRule env atts s

/-- What the end of an element resets before the base class does. -/
def cleared : Handler → Element → Element
  | .application, e => { e with m_name := "", m_appId := 0 }
  | .command, e => { e with m_name := "", m_code := 0, m_appId := 0, m_pBit := 0, m_eBit := 0 }
  | .requestrules, e | .answerrules, e | .grouped, e => { e with m_dict := none }
  | .avp, e => { e with m_avp := none }
  | .position _, e => { e with m_isSkipped := false, m_qAvpList := none }
  | _, e => e

def endElement (h : Handler) : Except Stop Loader := (s.set h (cleared h (s.elements h))).leave h

def step : Event → Except Stop Loader
  | .startDocument => .ok { s with m_passNum := s.m_passNum + 1, elements := fun _ => {} }
  | .startElement qName atts =>
    match elementMap s.m_passNum with
    | none => .error .fault
    | some map =>
      match map.find? (·.name == qName) with
      | none => .ok s
      | some h => startElement env atts s h
  | .endElement qName =>
    match elementMap s.m_passNum with
    | none => .error .fault
    | some map =>
      match map.find? (·.name == qName) with
      | none => .ok s
      | some h => endElement s h
  | .characters _ => .ok s
  | .endDocument => .ok s

def run : List Event → Loader → Except Stop Loader
  | [], s => .ok s
  | event :: events, s => (step env s event).bind (run events)

def parse (events : List Event) : Except Stop Loader := run env (.startDocument :: events ++ [.endDocument]) s

def parseXMLDictionary (events : List Event) : Except Stop Loader :=
  (parse env .initial events).bind fun s => parse env s events

end Loader

end Handlers

end OpenDiameter.Parser.DictionaryLoader
