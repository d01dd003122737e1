import OpenDiameter.Parser.DictionaryLoader

/-! Dictionary documents: how their elements nest, and what they say.

A document is a tree of the elements that some handler knows. Its events come with
anything between them that no handler knows: other elements around and inside of
these, text, and white space.
-/

set_option autoImplicit false

namespace OpenDiameter.Parser.DictionaryLoader

section Elements

/-- `fixed`, `required` or `optional`, with the attributes of its rules. -/
structure PositionElement where
  position : Position
  atts : Attributes
  rules : List Attributes
  deriving DecidableEq, Repr

/-- What is inside of `avp`. -/
inductive AvpChild where
  | type (atts : Attributes)
  | grouped (atts : Attributes) (positions : List PositionElement)
  deriving DecidableEq, Repr

structure AvpElement where
  atts : Attributes
  children : List AvpChild
  deriving DecidableEq, Repr

/-- `requestrules` if `request` holds, else `answerrules`. -/
structure RulesElement where
  request : Bool
  atts : Attributes
  positions : List PositionElement
  deriving DecidableEq, Repr

structure CommandElement where
  atts : Attributes
  children : List RulesElement
  deriving DecidableEq, Repr

/-- What is inside of `base` and `application`. -/
inductive Item where
  | command (element : CommandElement)
  | typedefn (atts : Attributes)
  | avp (element : AvpElement)
  deriving DecidableEq, Repr

/-- What is inside of `dictionary`. -/
inductive Section where
  | vendor (atts : Attributes)
  | base (atts : Attributes) (items : List Item)
  | application (atts : Attributes) (items : List Item)
  deriving DecidableEq, Repr

structure Document where
  atts : Attributes
  sections : List Section
  deriving DecidableEq, Repr

end Elements

section Events

def element (h : Handler) (atts : Attributes) (inner : List Event) : List Event :=
  .startElement h.name atts :: inner ++ [.endElement h.name]

def PositionElement.events (e : PositionElement) : List Event :=
  element (.position e.position) e.atts (e.rules.flatMap fun atts => element .rule atts [])

def AvpChild.events : AvpChild → List Event
  | .type atts => element .type atts []
  | .grouped atts positions => element .grouped atts (positions.flatMap PositionElement.events)

def AvpElement.events (e : AvpElement) : List Event := element .avp e.atts (e.children.flatMap AvpChild.events)

def RulesElement.handler (e : RulesElement) : Handler := if e.request then .requestrules else .answerrules

def RulesElement.events (e : RulesElement) : List Event :=
  element e.handler e.atts (e.positions.flatMap PositionElement.events)

def CommandElement.events (e : CommandElement) : List Event :=
  element .command e.atts (e.children.flatMap RulesElement.events)

def Item.events : Item → List Event
  | .command e => e.events
  | .typedefn atts => element .typedefn atts []
  | .avp e => e.events

def Section.events : Section → List Event
  | .vendor atts => element .vendor atts []
  | .base atts items => element .base atts (items.flatMap Item.events)
  | .application atts items => element .application atts (items.flatMap Item.events)

def Document.events (d : Document) : List Event := element .dictionary d.atts (d.sections.flatMap Section.events)

def Handler.all : List Handler :=
  [.dictionary, .vendor, .base, .application, .command, .requestrules, .answerrules, .typedefn, .avp, .type, .grouped,
    .position .fixed, .position .required, .position .optional, .rule]

def Event.known : Event → Bool
  | .startElement qName _ | .endElement qName => Handler.all.any (·.name == qName)
  | _ => false

structure Reports (events : List Event) (d : Document) : Prop where
  elements : events.filter Event.known = d.events
  inside : Event.startDocument ∉ events

end Events

section Meaning

variable (env : Environment)

def text (atts : Attributes) (qName : String) : String := (last? atts qName).getD ""

def number (atts : Attributes) (qName : String) : UInt32 := ((last? atts qName).map env.atoi).getD 0

def AvpChild.groups : AvpChild → List (List PositionElement)
  | .type _ => []
  | .grouped _ positions => [positions]

namespace AvpElement

variable (a : AvpElement)

def name : String := text a.atts "name"

def code : UInt32 := number env a.atts "code"

def vendorId : UInt32 := number env a.atts "vendorId"

def retype (avpType : AvpDataType) : AvpChild → AvpDataType
  | .type atts =>
    match env.types ((first? atts "name").getD "") with
    | none => avpType
    | some .data => avpType
    | some other => other
  | .grouped _ _ => .grouped

/-- The entry of the definition; `AVP` stands for the built-in one. -/
def entry : DictionaryEntry :=
  if other : a.name = "AVP" then anyEntry
  else retyped (a.children.foldl (retype env) .data) (Loader.newEntry env a.atts a.name other)

def groups : List (List PositionElement) := a.children.flatMap AvpChild.groups

end AvpElement

/-- The definitions that are entered: `AVP` is not defined by a document. -/
def defined (avps : List AvpElement) : List AvpElement := avps.filter (·.name ≠ "AVP")

def namesOf (avps : List AvpElement) : List String := "AVP" :: (defined avps).map AvpElement.name

def entriesOf (avps : List AvpElement) : List DictionaryEntry := anyEntry :: (defined avps).map (AvpElement.entry env)

def rulesAt (position : Position) (positions : List PositionElement) : List Attributes :=
  (positions.filter (·.position = position)).flatMap PositionElement.rules

def allRules (positions : List PositionElement) : List Attributes := positions.flatMap PositionElement.rules

def ruleSaid (entries : List DictionaryEntry) (atts : Attributes) : QualifiedAvp :=
  ⟨(entries.find? (·.avpName == text atts "name")).getD anyEntry,
    (Loader.ruleMin env atts).toNat, (Loader.ruleMax env atts).toNat⟩

def dictSaid (entries : List DictionaryEntry) (positions : List PositionElement) : DiameterDictionary :=
  ⟨(rulesAt .fixed positions).map (ruleSaid env entries), (rulesAt .required positions).map (ruleSaid env entries),
    (rulesAt .optional positions).map (ruleSaid env entries)⟩

structure NamedCommand where
  name : String
  e : Bool
  command : DiameterCommand
  deriving DecidableEq, Repr

def RulesElement.suffix (r : RulesElement) : String := if r.request then "-Request" else "-Answer"

namespace CommandElement

variable (c : CommandElement)

def name : String := text c.atts "name"

def code : UInt32 := number env c.atts "code"

/-- The lowest bit of `pbit` and of `ebit`. -/
def p : Bool := number env c.atts "pbit" % 2 = 1

def e : Bool := number env c.atts "ebit" % 2 = 1

def said (entries : List DictionaryEntry) (appId : UInt32) (r : RulesElement) : NamedCommand :=
  ⟨c.name ++ r.suffix, c.e env, ⟨c.code env, appId, r.request, c.p env, dictSaid env entries r.positions⟩⟩

end CommandElement

def Item.avps : Item → List AvpElement
  | .avp a => [a]
  | _ => []

def Item.commands (appId : UInt32) : Item → List (UInt32 × CommandElement)
  | .command c => [(appId, c)]
  | _ => []

namespace Section

def items : Section → List Item
  | .vendor _ => []
  | .base _ items => items
  | .application _ items => items

def appId : Section → UInt32
  | .vendor _ => 0
  | .base _ _ => 0
  | .application atts _ => number env atts "id"

def avps (part : Section) : List AvpElement := part.items.flatMap Item.avps

def commands (part : Section) : List (UInt32 × CommandElement) := part.items.flatMap (Item.commands (part.appId env))

end Section

namespace Document

variable (d : Document)

def avps : List AvpElement := d.sections.flatMap Section.avps

def commands : List (UInt32 × CommandElement) := d.sections.flatMap (Section.commands env)

def entries : List DictionaryEntry := entriesOf env d.avps

def groupsSaid : List DiameterGroupedAvp :=
  d.avps.flatMap fun a => a.groups.map fun positions =>
    ⟨a.code env, a.vendorId env, dictSaid env (d.entries env) positions⟩

def commandsSaid : List NamedCommand :=
  (d.commands env).flatMap fun (appId, c) => c.children.map (c.said env (d.entries env) appId)

def rules : List Attributes :=
  d.avps.flatMap (fun a => a.groups.flatMap allRules) ++
    (d.commands env).flatMap fun (_, c) => c.children.flatMap fun r => allRules r.positions

end Document

end Meaning

section Soundness

variable (env : Environment)

def DefinedBefore (names : List String) : List AvpElement → Prop
  | [] => True
  | a :: avps =>
    (∀ positions ∈ a.groups, ∀ rule ∈ allRules positions, text rule "name" ∈ names ++ (defined [a]).map AvpElement.name) ∧
      DefinedBefore (names ++ (defined [a]).map AvpElement.name) avps

instance decidableDefinedBefore : (names : List String) → (avps : List AvpElement) → Decidable (DefinedBefore names avps)
  | _, [] => .isTrue trivial
  | names, a :: avps =>
    haveI := decidableDefinedBefore (names ++ (defined [a]).map AvpElement.name) avps
    inferInstanceAs (Decidable ((∀ positions ∈ a.groups, ∀ rule ∈ allRules positions,
      text rule "name" ∈ names ++ (defined [a]).map AvpElement.name) ∧
        DefinedBefore (names ++ (defined [a]).map AvpElement.name) avps))

def AvpChild.Typed (a : AvpElement) : AvpChild → Prop
  | .type atts => (first? atts "name").getD "" ≠ "" ∧ (env.types ((first? atts "name").getD "")).isSome = true ∧
      (a.name = "AVP" → env.types ((first? atts "name").getD "") = some .data)
  | .grouped _ _ => a.name ≠ "AVP"

instance (a : AvpElement) : (child : AvpChild) → Decidable (child.Typed env a)
  | .type atts => inferInstanceAs (Decidable ((first? atts "name").getD "" ≠ "" ∧
      (env.types ((first? atts "name").getD "")).isSome = true ∧
        (a.name = "AVP" → env.types ((first? atts "name").getD "") = some .data)))
  | .grouped _ _ => inferInstanceAs (Decidable (a.name ≠ "AVP"))

structure Document.Sound (d : Document) : Prop where
  names : ((defined d.avps).map AvpElement.name).Nodup
  groups : (d.avps.flatMap fun a => a.groups.map fun _ => (a.code env, a.vendorId env)).Nodup
  typed : ∀ a ∈ d.avps, ∀ child ∈ a.children, child.Typed env a
  before : DefinedBefore ["AVP"] d.avps
  commandNames : ((d.commands env).flatMap fun (_, c) => c.children.map fun r => c.name ++ r.suffix).Nodup
  commandKeys : ((d.commands env).flatMap fun (appId, c) => c.children.map fun r => (c.code env, appId, r.request)).Nodup
  commandRules : ∀ command ∈ d.commands env, ∀ r ∈ command.2.children, ∀ rule ∈ allRules r.positions,
    text rule "name" ∈ namesOf d.avps
  bounds : ∀ rule ∈ d.rules env, Loader.ruleMin env rule < 65536 ∧ Loader.ruleMax env rule < 65536

end Soundness

end OpenDiameter.Parser.DictionaryLoader
