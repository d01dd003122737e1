import OpenDiameter.Parser.DictionaryRuns

/-! What a dictionary document leaves in the tables.

The first pass enters the AVPs and the rules of the groups, and goes over the rules of
commands as if they stood outside of everything; the second pass enters the commands and
does the same with the groups.
-/

set_option autoImplicit false

namespace OpenDiameter.Parser.DictionaryLoader

section Lists

theorem findIdx?_of_mem {entries : List DictionaryEntry} {name : String}
    (mem : name ∈ entries.map DictionaryEntry.avpName) :
    entries.findIdx? (·.avpName == name) = some ((entries.map DictionaryEntry.avpName).idxOf name) := by
  induction entries with
  | nil => cases mem
  | cons first rest ih =>
    rw [List.findIdx?_cons, List.map_cons, List.idxOf_cons]
    by_cases same : first.avpName = name
    · simp [same]
    · have later := ih ((List.mem_cons.mp mem).resolve_left fun here => same here.symm)
      have other : (first.avpName == name) = false := by simpa using same
      simp [other, later]

theorem findIdx?_of_not_mem {entries : List DictionaryEntry} {name : String}
    (outside : name ∉ entries.map DictionaryEntry.avpName) : entries.findIdx? (·.avpName == name) = none := by
  rw [List.findIdx?_eq_none_iff]
  intro entry mem
  have other : entry.avpName ≠ name := fun same => outside (List.mem_map.mpr ⟨entry, mem, same⟩)
  simpa using other

theorem getElem?_idxOf (entries : List DictionaryEntry) (name : String) :
    entries[(entries.map DictionaryEntry.avpName).idxOf name]? = entries.find? (·.avpName == name) := by
  induction entries with
  | nil => rfl
  | cons first rest ih =>
    rw [List.map_cons, List.idxOf_cons, List.find?_cons]
    by_cases same : first.avpName = name
    · simp [same]
    · have other : (first.avpName == name) = false := by simpa using same
      simp [other, ih]

theorem modify_append_last {α : Type} (l : List α) (x : α) (f : α → α) :
    (l ++ [x]).modify l.length f = l ++ [f x] := by
  induction l with
  | nil => rfl
  | cons first l ih => simpa using ih

theorem retyped_retyped (first second : AvpDataType) (avp : DictionaryEntry) :
    retyped second (retyped first avp) = retyped second avp := by
  unfold retyped
  by_cases other : avp.avpName = "AVP"
  · simp [other]
  · simp [other]

@[simp] theorem avpName_retyped (avpType : AvpDataType) (avp : DictionaryEntry) :
    (retyped avpType avp).avpName = avp.avpName := by
  unfold retyped
  split <;> rfl

@[simp] theorem avpCode_retyped (avpType : AvpDataType) (avp : DictionaryEntry) :
    (retyped avpType avp).avpCode = avp.avpCode := by
  unfold retyped
  split <;> rfl

@[simp] theorem vendorId_retyped (avpType : AvpDataType) (avp : DictionaryEntry) :
    (retyped avpType avp).vendorId = avp.vendorId := by
  unfold retyped
  split <;> rfl

end Lists

section Rules

variable (env : Environment) (names : List String)

def ruleAt (atts : Attributes) : Rule :=
  ⟨names.idxOf (text atts "name"), (Loader.ruleMin env atts).toUInt16, (Loader.ruleMax env atts).toUInt16⟩

def addRules (lists : RuleLists) (e : PositionElement) : RuleLists :=
  e.rules.foldl (fun lists atts => lists.add e.position (ruleAt env names atts)) lists

def listsOf (positions : List PositionElement) : RuleLists := positions.foldl (addRules env names) .empty

end Rules

namespace Loader

variable {env : Environment} {s : Loader} {map : List Handler}

section Positions

structure Hole (fill : RuleLists → Tables) (dict : Dict) (current names : List String) : Prop where
  adds : ∀ lists position rule, (fill lists).addRule dict position rule = fill (lists.add position rule)
  listed : ∀ lists, (fill lists).avpList.map DictionaryEntry.avpName = current
  early : current <+: names

/-- What the handlers of rules need: they are in the pass, and not in use. -/
structure Ready (s : Loader) (map : List Handler) : Prop where
  maps : s.Maps map
  calm : s.Calm
  rule : Handler.rule ∈ map
  positions : ∀ position, Handler.position position ∈ map
  ruleFree : Handler.rule ∉ s.m_callStack
  positionsFree : ∀ position, Handler.position position ∉ s.m_callStack

theorem Ready.opened (ready : s.Ready map) {h : Handler} {e : Element} {t : Tables} (apart : h ≠ .rule)
    (elsewhere : ∀ position, h ≠ .position position) : (s.opened h e t).Ready map := by
  refine ⟨ready.maps, ready.calm.opened, ready.rule, ready.positions, fun mem => ?_, fun position mem => ?_⟩
  · rcases List.mem_cons.mp mem with same | older
    · exact apart same.symm
    · exact ready.ruleFree older
  · rcases List.mem_cons.mp mem with same | older
    · exact elsewhere position same.symm
    · exact ready.positionsFree position older

theorem Ready.with_tables (ready : s.Ready map) (t : Tables) : Ready { s with tables := t } map :=
  ⟨ready.maps, ready.calm, ready.rule, ready.positions, ready.ruleFree, ready.positionsFree⟩

variable {fill : RuleLists → Tables} {dict : Dict} {current names : List String}

theorem searchAvp_of_hole (hole : Hole fill dict current names) (lists : RuleLists) {name : String}
    (mem : name ∈ current) : (fill lists).searchAvp name = some (names.idxOf name) := by
  obtain ⟨later, rfl⟩ := hole.early
  rw [Tables.searchAvp, findIdx?_of_mem (by rw [hole.listed]; exact mem), hole.listed, List.idxOf_append_of_mem mem]

theorem run_rule (hole : Hole fill dict current names) (maps : s.Maps map) (calm : s.Calm) (mem : Handler.rule ∈ map)
    (free : Handler.rule ∉ s.m_callStack) {position : Position} {rest : List Handler}
    (stack : s.m_callStack = .position position :: rest) (taken : (s.elements (.position position)).m_isSkipped = false)
    (list : (s.elements (.position position)).m_qAvpList = some (dict, position)) {lists : RuleLists}
    (tables : s.tables = fill lists) {atts : Attributes} (defined : text atts "name" ∈ current) :
    run env (element .rule atts []) s =
      .ok { s with tables := fill (lists.add position (ruleAt env names atts)) } := by
  obtain ⟨entered, waiting⟩ := startElement_entered calm free
  rw [stack] at entered
  have found := searchAvp_of_hole hole lists defined
  have name : (last? atts "name").getD "" = text atts "name" := rfl
  have starts : startElement env atts s .rule = .ok (s.opened .rule
      { m_inProcess := true, m_parent := some (.position position) }
      (fill (lists.add position (ruleAt env names atts)))) := by
    unfold startElement
    simp only [waiting, Bool.false_eq_true, if_false, entered, startRule, opened_self, List.head?_cons,
      opened_of_ne (Handler.noConfusion : Handler.position position ≠ Handler.rule), taken, opened_tables, tables,
      name, found, list, hole.adds]
    rfl
  exact run_element maps mem (calm _ free) starts rfl rfl rfl

theorem run_position (hole : Hole fill dict current names) (ready : s.Ready map) {owner : Handler} {rest : List Handler}
    (stack : s.m_callStack = owner :: rest)
    (owns : owner = .requestrules ∨ owner = .answerrules ∨ owner = .grouped)
    (pointer : (s.elements owner).m_dict = some dict) (e : PositionElement)
    (defined : ∀ rule ∈ e.rules, text rule "name" ∈ current) {lists : RuleLists} (tables : s.tables = fill lists) :
    run env e.events s = .ok { s with tables := fill (addRules env names lists e) } := by
  obtain ⟨entered, waiting⟩ := startElement_entered ready.calm (ready.positionsFree e.position)
  rw [stack, tables] at entered
  have apart : owner ≠ .position e.position := by
    rcases owns with rfl | rfl | rfl <;> exact Handler.noConfusion
  let open_ : Element :=
    { m_inProcess := true, m_parent := some owner, m_qAvpList := some (dict, e.position) }
  have starts : startElement env e.atts s (.position e.position) =
      .ok (s.opened (.position e.position) open_ (fill lists)) := by
    unfold startElement
    rcases owns with rfl | rfl | rfl
    all_goals
      simp only [waiting, Bool.false_eq_true, if_false, entered, startPosition, opened_self, List.head?_cons,
        opened_of_ne apart, pointer]
      simp only [set, Loader.opened, Function.update_idem, open_]
  -- What a rule needs inside of the position.
  have inside : run env (e.rules.flatMap fun atts => element .rule atts [])
      { s.opened (.position e.position) open_ (fill lists) with tables := fill lists } =
        .ok { s.opened (.position e.position) open_ (fill lists) with
          tables := fill (addRules env names lists e) } := by
    refine run_flatMap (fun atts => element .rule atts []) fill
      (fun lists atts => lists.add e.position (ruleAt env names atts))
      (fun _ rules => ∀ rule ∈ rules, text rule "name" ∈ current) ?_ defined
    intro acc atts rules each
    obtain ⟨here, later⟩ := List.forall_mem_cons.mp each
    refine ⟨?_, later⟩
    have free : Handler.rule ∉ .position e.position :: s.m_callStack := by
      intro mem
      rcases List.mem_cons.mp mem with same | older
      · cases same
      · exact ready.ruleFree older
    exact run_rule (s := s.opened (.position e.position) open_ (fill acc)) hole ready.maps ready.calm.opened
      ready.rule free rfl (by rw [opened_self]) (by rw [opened_self]) rfl here
  exact run_element ready.maps (ready.positions e.position) (ready.calm _ (ready.positionsFree e.position)) starts rfl
    rfl inside

theorem run_positions (hole : Hole fill dict current names) (ready : s.Ready map) {owner : Handler} {rest : List Handler}
    (stack : s.m_callStack = owner :: rest)
    (owns : owner = .requestrules ∨ owner = .answerrules ∨ owner = .grouped)
    (pointer : (s.elements owner).m_dict = some dict) {positions : List PositionElement}
    (defined : ∀ rule ∈ allRules positions, text rule "name" ∈ current) {lists : RuleLists}
    (tables : s.tables = fill lists) :
    run env (positions.flatMap PositionElement.events) s =
      .ok { s with tables := fill (positions.foldl (addRules env names) lists) } := by
  have state : s = { s with tables := fill lists } := by rw [← tables]
  rw [state]
  refine run_flatMap PositionElement.events fill (addRules env names)
    (fun _ positions => ∀ rule ∈ allRules positions, text rule "name" ∈ current) ?_ defined
  intro acc e later each
  have split : allRules (e :: later) = e.rules ++ allRules later := List.flatMap_cons
  rw [split] at each
  obtain ⟨here, rest⟩ := List.forall_mem_append.mp each
  exact ⟨run_position hole (ready.with_tables (fill acc)) stack owns pointer e here rfl, rest⟩

theorem run_position_skipped (ready : s.Ready map) {owner : Handler} {rest : List Handler}
    (stack : s.m_callStack = owner :: rest)
    (other : owner ≠ .requestrules ∧ owner ≠ .answerrules ∧ owner ≠ .grouped) (e : PositionElement) :
    run env e.events s = .ok s := by
  obtain ⟨entered, waiting⟩ := startElement_entered ready.calm (ready.positionsFree e.position)
  rw [stack] at entered
  let open_ : Element := { m_inProcess := true, m_isSkipped := true, m_parent := some owner }
  have starts : startElement env e.atts s (.position e.position) =
      .ok (s.opened (.position e.position) open_ s.tables) := by
    unfold startElement
    simp only [waiting, Bool.false_eq_true, if_false, entered, startPosition, opened_self, List.head?_cons]
    split
    case h_1 none_left => cases none_left
    case h_2 request => exact absurd (Option.some.inj request) other.1
    case h_3 answer => exact absurd (Option.some.inj answer) other.2.1
    case h_4 group => exact absurd (Option.some.inj group) other.2.2
    case h_5 => simp only [set, Loader.opened, Function.update_idem, open_]
  have free : Handler.rule ∉ .position e.position :: s.m_callStack := by
    intro mem
    rcases List.mem_cons.mp mem with same | older
    · cases same
    · exact ready.ruleFree older
  have rule (atts : Attributes) : run env (element .rule atts []) (s.opened (.position e.position) open_ s.tables) =
      .ok (s.opened (.position e.position) open_ s.tables) := by
    obtain ⟨into, idle⟩ := startElement_entered (s := s.opened (.position e.position) open_ s.tables)
      ready.calm.opened free
    have skips : startElement env atts (s.opened (.position e.position) open_ s.tables) .rule =
        .ok ((s.opened (.position e.position) open_ s.tables).opened .rule
          { m_inProcess := true, m_parent := some (.position e.position) } s.tables) := by
      unfold startElement
      simp only [idle, Bool.false_eq_true, if_false, into, startRule, opened_self, opened_callStack, List.head?_cons,
        opened_of_ne (Handler.noConfusion : Handler.position e.position ≠ Handler.rule), opened_tables, open_, if_true]
    exact run_element (s := s.opened (.position e.position) open_ s.tables) ready.maps ready.rule
      (ready.calm.opened _ free) skips rfl rfl rfl
  have inside : run env (e.rules.flatMap fun atts => element .rule atts [])
      (s.opened (.position e.position) open_ s.tables) = .ok (s.opened (.position e.position) open_ s.tables) :=
    run_flatMap_skipped fun atts _ => rule atts
  exact run_element ready.maps (ready.positions e.position) (ready.calm _ (ready.positionsFree e.position)) starts rfl
    rfl inside

theorem run_positions_skipped (ready : s.Ready map) {owner : Handler} {rest : List Handler}
    (stack : s.m_callStack = owner :: rest)
    (other : owner ≠ .requestrules ∧ owner ≠ .answerrules ∧ owner ≠ .grouped) (positions : List PositionElement) :
    run env (positions.flatMap PositionElement.events) s = .ok s :=
  run_flatMap_skipped fun e _ => run_position_skipped ready stack other e

end Positions

section FirstPass

variable (env : Environment) (names : List String)

def groupsAt (a : AvpElement) : List Group :=
  a.groups.map fun positions => ⟨a.code env, a.vendorId env, listsOf env names positions⟩

def firstTables (avps : List AvpElement) : Tables :=
  ⟨entriesOf env avps, avps.flatMap (groupsAt env names), []⟩

def Group.key (g : Group) : UInt32 × UInt32 := (g.code, g.vendorId)

variable {env names}

theorem retyped_newEntry {atts : Attributes} {name : String} (other : name ≠ "AVP") :
    retyped .data (newEntry env atts name other) = newEntry env atts name other := by
  unfold retyped
  exact dif_neg other

structure InAvp (s : Loader) (place : Nat) : Prop where
  ready : s.Ready firstMap
  typeFree : Handler.type ∉ s.m_callStack
  groupedFree : Handler.grouped ∉ s.m_callStack
  front : s.m_callStack.head? = some .avp
  pointer : (s.elements .avp).m_avp = some place

theorem InAvp.with_tables {place : Nat} (inAvp : InAvp s place) (t : Tables) : InAvp { s with tables := t } place :=
  ⟨inAvp.ready.with_tables t, inAvp.typeFree, inAvp.groupedFree, inAvp.front, inAvp.pointer⟩

variable {entries : List DictionaryEntry} {groups : List Group} {a : AvpElement} {other : a.name ≠ "AVP"}

/-- The tables while the children of a definition are read. -/
def childTables (env : Environment) (entries : List DictionaryEntry) (groups : List Group) (a : AvpElement)
    (other : a.name ≠ "AVP") (seen : AvpDataType × List Group) : Tables :=
  ⟨entries ++ [retyped seen.1 (newEntry env a.atts a.name other)], groups ++ seen.2, []⟩

def addChild (env : Environment) (names : List String) (a : AvpElement) (seen : AvpDataType × List Group)
    (child : AvpChild) : AvpDataType × List Group :=
  (AvpElement.retype env seen.1 child,
    seen.2 ++ child.groups.map fun positions => ⟨a.code env, a.vendorId env, listsOf env names positions⟩)

theorem setType_childTables (env : Environment) (entries : List DictionaryEntry) (groups : List Group) (a : AvpElement)
    (other : a.name ≠ "AVP") (seen : AvpDataType × List Group) (avpType : AvpDataType) :
    (childTables env entries groups a other seen).setType entries.length avpType =
      childTables env entries groups a other (avpType, seen.2) := by
  simp only [childTables, Tables.setType, modify_append_last, retyped_retyped]

theorem run_type (inAvp : InAvp s entries.length) {atts : Attributes} (typed : AvpChild.Typed env a (.type atts))
    {seen : AvpDataType × List Group} (tables : s.tables = childTables env entries groups a other seen) :
    run env (AvpChild.events (.type atts)) s =
      .ok { s with tables := childTables env entries groups a other (addChild env names a seen (.type atts)) } := by
  obtain ⟨entered, waiting⟩ := startElement_entered inAvp.ready.calm inAvp.typeFree
  rw [inAvp.front] at entered
  let open_ : Element := { m_inProcess := true, m_parent := some .avp }
  have added : addChild env names a seen (.type atts) = (AvpElement.retype env seen.1 (.type atts), seen.2) := by
    simp only [addChild, AvpChild.groups, List.map_nil, List.append_nil]
  have starts : startElement env atts s .type = .ok (s.opened .type open_
      (childTables env entries groups a other (addChild env names a seen (.type atts)))) := by
    rw [added]
    unfold startElement
    obtain ⟨named, registered, -⟩ := typed
    obtain ⟨avpType, found⟩ := Option.isSome_iff_exists.mp registered
    have pointer := inAvp.pointer
    simp only [waiting, Bool.false_eq_true, if_false, entered, startType, named, found, opened_self,
      opened_of_ne (Handler.noConfusion : Handler.avp ≠ Handler.type), pointer, opened_tables, tables,
      AvpElement.retype, setType_childTables]
    cases avpType <;> rfl
  exact run_element inAvp.ready.maps (by decide) (inAvp.ready.calm _ inAvp.typeFree) starts rfl rfl rfl

theorem hole_group (groups : List Group) (listed : (entries.map DictionaryEntry.avpName ++ [a.name]) <+: names)
    (avpType : AvpDataType) :
    Hole (fun lists => childTables env entries groups a other (avpType, [⟨a.code env, a.vendorId env, lists⟩]))
      (.group groups.length) (entries.map DictionaryEntry.avpName ++ [a.name]) names := by
  refine ⟨fun lists position rule => ?_, fun lists => ?_, listed⟩
  · simp only [childTables, Tables.addRule, modify_append_last]
  · simp only [childTables, List.map_append, List.map_cons, List.map_nil, avpName_retyped]
    rfl

theorem run_grouped (inAvp : InAvp s entries.length) {atts : Attributes} {positions : List PositionElement}
    {seen : AvpDataType × List Group} (tables : s.tables = childTables env entries groups a other seen)
    (once : (a.code env, a.vendorId env) ∉ (groups ++ seen.2).map Group.key)
    (listed : (entries.map DictionaryEntry.avpName ++ [a.name]) <+: names)
    (defined : ∀ rule ∈ allRules positions, text rule "name" ∈ entries.map DictionaryEntry.avpName ++ [a.name]) :
    run env (AvpChild.events (.grouped atts positions)) s = .ok { s with
      tables := childTables env entries groups a other (addChild env names a seen (.grouped atts positions)) } := by
  obtain ⟨entered, waiting⟩ := startElement_entered inAvp.ready.calm inAvp.groupedFree
  rw [inAvp.front] at entered
  let open_ : Element :=
    { m_inProcess := true, m_parent := some .avp, m_dict := some (.group (groups ++ seen.2).length) }
  let fill (lists : RuleLists) : Tables :=
    childTables env entries (groups ++ seen.2) a other (.grouped, [⟨a.code env, a.vendorId env, lists⟩])
  have hole : Hole fill _ _ names := hole_group (groups ++ seen.2) listed .grouped
  have added : childTables env entries groups a other (addChild env names a seen (.grouped atts positions)) =
      fill (listsOf env names positions) := by
    simp only [fill, childTables, addChild, AvpChild.groups, AvpElement.retype, List.map_cons, List.map_nil,
      List.append_assoc]
  have current : s.tables.avpList[entries.length]? = some (retyped seen.1 (newEntry env a.atts a.name other)) := by
    rw [tables, childTables, List.getElem?_concat_length]
  have unlisted : (s.tables.groupList.any fun group =>
      group.code == a.code env && group.vendorId == a.vendorId env) = false := by
    rw [List.any_eq_false]
    intro group mem same
    rw [tables] at mem
    obtain ⟨code, vendor⟩ := Bool.and_eq_true_iff.mp same
    apply once
    refine List.mem_map.mpr ⟨group, mem, ?_⟩
    rw [Group.key, beq_iff_eq.mp code, beq_iff_eq.mp vendor]
  have starts : startElement env atts s .grouped = .ok (s.opened .grouped open_ (fill .empty)) := by
    have pointer := inAvp.pointer
    have code : (newEntry env a.atts a.name other).avpCode = a.code env := rfl
    have vendorId : (newEntry env a.atts a.name other).vendorId = a.vendorId env := rfl
    have typed := setType_childTables env entries (groups ++ seen.2) a other
      (seen.1, [⟨a.code env, a.vendorId env, .empty⟩]) .grouped
    unfold startElement
    simp only [waiting, Bool.false_eq_true, if_false, entered, startGrouped, opened_self,
      opened_of_ne (Handler.noConfusion : Handler.avp ≠ Handler.grouped), pointer, opened_tables, current,
      avpCode_retyped, vendorId_retyped, code, vendorId, unlisted]
    simp only [set, Loader.opened, Function.update_idem, open_, tables, fill, ← typed]
    simp only [childTables]
  have inside : run env (positions.flatMap PositionElement.events) (s.opened .grouped open_ (fill .empty)) =
      .ok (s.opened .grouped open_ (fill (listsOf env names positions))) :=
    run_positions hole (inAvp.ready.opened Handler.noConfusion fun _ => Handler.noConfusion) rfl (.inr (.inr rfl))
      (by rw [opened_self]) defined rfl
  rw [added]
  exact run_element inAvp.ready.maps (by decide) (inAvp.ready.calm _ inAvp.groupedFree) starts rfl rfl inside

/-- What is still to be read of a definition may be read. -/
structure ChildrenFit (env : Environment) (a : AvpElement) (current : List String) (groups : List Group)
    (children : List AvpChild) : Prop where
  typed : ∀ child ∈ children, child.Typed env a
  once : (groups.map Group.key ++ (children.flatMap AvpChild.groups).map fun _ => (a.code env, a.vendorId env)).Nodup
  defined : ∀ positions ∈ children.flatMap AvpChild.groups, ∀ rule ∈ allRules positions, text rule "name" ∈ current

theorem run_children (groups : List Group) (seen : AvpDataType × List Group) (other : a.name ≠ "AVP")
    (inAvp : InAvp s entries.length) (listed : (entries.map DictionaryEntry.avpName ++ [a.name]) <+: names)
    {children : List AvpChild}
    (fit : ChildrenFit env a (entries.map DictionaryEntry.avpName ++ [a.name]) (groups ++ seen.2) children) :
    run env (children.flatMap AvpChild.events) { s with tables := childTables env entries groups a other seen } =
      .ok { s with tables := childTables env entries groups a other (children.foldl (addChild env names a) seen) } := by
  refine run_flatMap AvpChild.events (childTables env entries groups a other) (addChild env names a)
    (fun seen children =>
      ChildrenFit env a (entries.map DictionaryEntry.avpName ++ [a.name]) (groups ++ seen.2) children) ?_ fit
  intro seen child children fit
  obtain ⟨typed, later⟩ := List.forall_mem_cons.mp fit.typed
  have once := fit.once
  have defined := fit.defined
  cases child with
  | type atts =>
    refine ⟨run_type (inAvp.with_tables _) typed rfl, later, ?_, defined⟩
    simp only [addChild, AvpChild.groups, List.map_nil, List.append_nil]
    exact once
  | grouped atts positions =>
    have split : (AvpChild.grouped atts positions :: children).flatMap AvpChild.groups =
        positions :: children.flatMap AvpChild.groups := rfl
    rw [split, List.map_cons] at once
    rw [split] at defined
    obtain ⟨here, rest⟩ := List.forall_mem_cons.mp defined
    have unlisted : (a.code env, a.vendorId env) ∉ (groups ++ seen.2).map Group.key :=
      fun mem => (List.nodup_append.mp once).2.2 _ mem _ List.mem_cons_self rfl
    refine ⟨run_grouped (inAvp.with_tables _) rfl unlisted listed here, later, ?_, rest⟩
    simp only [addChild, AvpChild.groups, List.map_cons, List.map_nil, List.map_append, List.append_assoc,
      List.singleton_append, Group.key] at once ⊢
    exact once

theorem foldl_addChild (children : List AvpChild) (seen : AvpDataType × List Group) :
    children.foldl (addChild env names a) seen =
      (children.foldl (AvpElement.retype env) seen.1,
        seen.2 ++ (children.flatMap AvpChild.groups).map fun positions =>
          ⟨a.code env, a.vendorId env, listsOf env names positions⟩) := by
  induction children generalizing seen with
  | nil => simp
  | cons child children ih =>
    rw [List.foldl_cons, ih, List.foldl_cons, List.flatMap_cons, List.map_append]
    simp only [addChild, List.append_assoc]

/-- At the front of the stack is `base` or `application`, and nothing else is in use but `dictionary`. -/
structure InSection (s : Loader) (map : List Handler) : Prop where
  maps : s.Maps map
  calm : s.Calm
  stack : s.m_callStack = [.base, .dictionary] ∨ s.m_callStack = [.application, .dictionary]

theorem InSection.free (inSection : InSection s map) {h : Handler}
    (other : h ≠ .base ∧ h ≠ .application ∧ h ≠ .dictionary) : h ∉ s.m_callStack := by
  intro mem
  rcases inSection.stack with stack | stack
  · rw [stack] at mem
    simp [other.1, other.2.2] at mem
  · rw [stack] at mem
    simp [other.2.1, other.2.2] at mem

theorem InSection.with_tables (inSection : InSection s map) (t : Tables) : InSection { s with tables := t } map :=
  ⟨inSection.maps, inSection.calm, inSection.stack⟩

theorem InSection.ready (inSection : InSection s map) (rule : Handler.rule ∈ map)
    (positions : ∀ position, Handler.position position ∈ map) : s.Ready map :=
  ⟨inSection.maps, inSection.calm, rule, positions, inSection.free (by decide), fun position =>
    inSection.free (by cases position <;> decide)⟩

theorem InSection.run_positions (inSection : InSection s map) (rule : Handler.rule ∈ map)
    (mem : ∀ position, Handler.position position ∈ map) (positions : List PositionElement) :
    run env (positions.flatMap PositionElement.events) s = .ok s := by
  have ready := inSection.ready rule mem
  rcases inSection.stack with stack | stack
  · exact run_positions_skipped ready stack (by decide) positions
  · exact run_positions_skipped ready stack (by decide) positions

theorem positions_firstMap (position : Position) : Handler.position position ∈ firstMap := by
  cases position <;> decide

theorem positions_secondMap (position : Position) : Handler.position position ∈ secondMap := by
  cases position <;> decide

theorem avpName_entry (a : AvpElement) : (a.entry env).avpName = a.name := by
  unfold AvpElement.entry
  split
  case isTrue builtin => exact builtin.symm
  case isFalse other => exact avpName_retyped _ _

theorem avpName_entriesOf (avps : List AvpElement) :
    (entriesOf env avps).map DictionaryEntry.avpName = namesOf avps := by
  have names : (defined avps).map (fun a => (a.entry env).avpName) = (defined avps).map AvpElement.name :=
    List.map_congr_left fun a _ => avpName_entry a
  simp only [entriesOf, namesOf, List.map_cons, List.map_map, Function.comp_def, names]
  rfl

theorem defined_append (first second : List AvpElement) :
    defined (first ++ second) = defined first ++ defined second := List.filter_append _ _

theorem namesOf_append (first second : List AvpElement) :
    namesOf (first ++ second) = namesOf first ++ (defined second).map AvpElement.name := by
  simp only [namesOf, defined_append, List.map_append, List.cons_append]

theorem defined_of_ne (other : a.name ≠ "AVP") : defined [a] = [a] := List.filter_cons_of_pos (by simpa using other)

theorem defined_of_eq (builtin : a.name = "AVP") : defined [a] = [] := List.filter_cons_of_neg (by simpa using builtin)

theorem run_avp_defined (inSection : InSection s firstMap) (other : a.name ≠ "AVP") {avps : List AvpElement}
    (tables : s.tables = firstTables env names avps) (unlisted : a.name ∉ namesOf avps)
    (entriesNamed : (entriesOf env avps).map DictionaryEntry.avpName = namesOf avps)
    (listed : (namesOf avps ++ [a.name]) <+: names)
    (fit : ChildrenFit env a (namesOf avps ++ [a.name]) (avps.flatMap (groupsAt env names)) a.children) :
    run env a.events s = .ok { s with tables := firstTables env names (avps ++ [a]) } := by
  have free : Handler.avp ∉ s.m_callStack := inSection.free (by decide)
  obtain ⟨entered, waiting⟩ := startElement_entered inSection.calm free
  let open_ : Element :=
    { m_inProcess := true, m_parent := s.m_callStack.head?, m_avp := some (entriesOf env avps).length }
  have none_found : (entriesOf env avps).findIdx? (·.avpName == a.name) = none :=
    findIdx?_of_not_mem (by rw [entriesNamed]; exact unlisted)
  have begun : childTables env (entriesOf env avps) (avps.flatMap (groupsAt env names)) a other (.data, []) =
      ⟨entriesOf env avps ++ [newEntry env a.atts a.name other], avps.flatMap (groupsAt env names), []⟩ := by
    simp only [childTables, retyped_newEntry, List.append_nil]
  have starts : startElement env a.atts s .avp = .ok (s.opened .avp open_
      (childTables env (entriesOf env avps) (avps.flatMap (groupsAt env names)) a other (.data, []))) := by
    have name : (last? a.atts "name").getD "" = a.name := rfl
    rw [begun]
    unfold startElement
    simp only [waiting, Bool.false_eq_true, if_false, entered, startAvp, name, dif_pos other, opened_tables, tables,
      firstTables, Tables.searchAvp, none_found, Option.isSome_none, opened_self]
    simp only [set, Loader.opened, Function.update_idem, open_]
  have ready := inSection.ready (by decide) positions_firstMap
  have inAvp : InAvp (s.opened .avp open_
      (childTables env (entriesOf env avps) (avps.flatMap (groupsAt env names)) a other (.data, [])))
      (entriesOf env avps).length := by
    refine ⟨ready.opened Handler.noConfusion fun _ => Handler.noConfusion, ?_, ?_, rfl, by rw [opened_self]⟩
    · exact fun mem => (List.mem_cons.mp mem).elim Handler.noConfusion (inSection.free (by decide))
    · exact fun mem => (List.mem_cons.mp mem).elim Handler.noConfusion (inSection.free (by decide))
  rw [← entriesNamed] at listed fit
  rw [← List.append_nil (avps.flatMap (groupsAt env names))] at fit
  have inside := run_children (avps.flatMap (groupsAt env names)) (.data, []) other inAvp listed fit
  have final : childTables env (entriesOf env avps) (avps.flatMap (groupsAt env names)) a other
      (a.children.foldl (addChild env names a) (.data, [])) = firstTables env names (avps ++ [a]) := by
    have entry : a.entry env =
        retyped (a.children.foldl (AvpElement.retype env) .data) (newEntry env a.atts a.name other) := dif_neg other
    rw [foldl_addChild]
    simp only [childTables, firstTables, entriesOf, defined_append, defined_of_ne other, List.map_append,
      List.map_cons, List.map_nil, entry, List.flatMap_append, List.flatMap_cons, List.flatMap_nil, List.append_nil,
      List.nil_append, List.cons_append, groupsAt, AvpElement.groups]
  rw [final] at inside
  exact run_element inSection.maps (by decide) (inSection.calm _ free) starts rfl rfl inside

theorem run_avp_builtin (inSection : InSection s firstMap) (builtin : a.name = "AVP")
    (typed : ∀ child ∈ a.children, child.Typed env a) : run env a.events s = .ok s := by
  have free : Handler.avp ∉ s.m_callStack := inSection.free (by decide)
  obtain ⟨entered, waiting⟩ := startElement_entered inSection.calm free
  let open_ : Element := { m_inProcess := true, m_parent := s.m_callStack.head? }
  have starts : startElement env a.atts s .avp = .ok (s.opened .avp open_ s.tables) := by
    have name : (last? a.atts "name").getD "" = "AVP" := builtin
    unfold startElement
    simp only [waiting, Bool.false_eq_true, if_false, entered, startAvp, name, ne_eq, not_true_eq_false, dite_false,
      opened_self]
    simp only [set, Loader.opened, Function.update_idem, open_]
  have typeFree : Handler.type ∉ (s.opened .avp open_ s.tables).m_callStack :=
    fun mem => (List.mem_cons.mp mem).elim Handler.noConfusion (inSection.free (by decide))
  have child (atts : Attributes) (known : AvpChild.Typed env a (.type atts)) :
      run env (AvpChild.events (.type atts)) (s.opened .avp open_ s.tables) = .ok (s.opened .avp open_ s.tables) := by
    obtain ⟨named, -, data⟩ := known
    obtain ⟨into, idle⟩ := startElement_entered (s := s.opened .avp open_ s.tables) inSection.calm.opened typeFree
    have begins : startElement env atts (s.opened .avp open_ s.tables) .type =
        .ok ((s.opened .avp open_ s.tables).opened .type { m_inProcess := true, m_parent := some .avp } s.tables) := by
      unfold startElement
      simp only [idle, Bool.false_eq_true, if_false, into, startType, named, data builtin, opened_callStack,
        List.head?_cons, opened_tables]
    exact run_element (s := s.opened .avp open_ s.tables) inSection.maps (by decide)
      (inSection.calm.opened _ typeFree) begins rfl rfl rfl
  have inside : run env (a.children.flatMap AvpChild.events) (s.opened .avp open_ s.tables) =
      .ok (s.opened .avp open_ s.tables) := by
    refine run_flatMap_skipped fun first mem => ?_
    have known := typed first mem
    cases first with
    | type atts => exact child atts known
    | grouped atts positions => exact absurd builtin known
  exact run_element inSection.maps (by decide) (inSection.calm _ free) starts rfl rfl inside

theorem definedBefore_at {listed : List String} {before after : List AvpElement}
    (sound : DefinedBefore listed (before ++ a :: after)) : ∀ positions ∈ a.groups, ∀ rule ∈ allRules positions,
      text rule "name" ∈ listed ++ (defined before).map AvpElement.name ++ (defined [a]).map AvpElement.name := by
  induction before generalizing listed with
  | nil =>
    intro positions mem rule inside
    have here := sound.1 positions mem rule inside
    simpa [defined] using here
  | cons first before ih =>
    intro positions mem rule inside
    have later := ih sound.2 positions mem rule inside
    have split : defined (first :: before) = defined [first] ++ defined before := defined_append [first] before
    rw [split, List.map_append, ← List.append_assoc listed]
    exact later

variable {d : Document}

theorem nodup_namesOf (sound : d.Sound env) : (namesOf d.avps).Nodup := by
  refine List.nodup_cons.mpr ⟨fun mem => ?_, sound.names⟩
  obtain ⟨b, kept, name⟩ := List.mem_map.mp mem
  have other := (List.mem_filter.mp kept).2
  simp [name] at other

/-- The step lemma of the first pass: one more definition. -/
theorem run_avp (sound : d.Sound env) (inSection : InSection s firstMap) {before after : List AvpElement}
    (place : before ++ a :: after = d.avps) (tables : s.tables = firstTables env (namesOf d.avps) before) :
    run env a.events s = .ok { s with tables := firstTables env (namesOf d.avps) (before ++ [a]) } := by
  have member : a ∈ d.avps := place ▸ List.mem_append_right _ List.mem_cons_self
  by_cases builtin : a.name = "AVP"
  · have empty : a.groups = [] := by
      refine List.flatMap_eq_nil_iff.mpr fun child mem => ?_
      cases child with
      | type atts => rfl
      | grouped atts positions => exact absurd builtin (sound.typed a member _ mem)
    have same : firstTables env (namesOf d.avps) (before ++ [a]) = firstTables env (namesOf d.avps) before := by
      simp only [firstTables, entriesOf, defined_append, defined_of_eq builtin, List.append_nil, List.flatMap_append,
        List.flatMap_cons, List.flatMap_nil, groupsAt, empty, List.map_nil]
    rw [same, ← tables]
    exact run_avp_builtin inSection builtin (sound.typed a member)
  · have whole : d.avps = (before ++ [a]) ++ after := by
      rw [← place, List.append_assoc]
      rfl
    have listed : namesOf before ++ [a.name] <+: namesOf d.avps := by
      refine ⟨(defined after).map AvpElement.name, ?_⟩
      rw [whole, namesOf_append, namesOf_append, defined_of_ne builtin]
      rfl
    have nodup := nodup_namesOf sound
    have unlisted : a.name ∉ namesOf before := by
      obtain ⟨later, all⟩ := listed
      rw [← all, List.append_assoc] at nodup
      exact fun mem => (List.nodup_append.mp nodup).2.2 _ mem _ List.mem_cons_self rfl
    have groups := sound.groups
    rw [← place, List.flatMap_append, List.flatMap_cons, ← List.append_assoc] at groups
    have once := (List.nodup_append.mp groups).1
    refine run_avp_defined inSection builtin tables unlisted (avpName_entriesOf before) listed
      ⟨sound.typed a member, ?_, ?_⟩
    · have keys : (before.flatMap (groupsAt env (namesOf d.avps))).map Group.key =
          before.flatMap fun b => b.groups.map fun _ => (b.code env, b.vendorId env) := by
        rw [List.map_flatMap]
        refine List.flatMap_congr fun b _ => ?_
        simp only [groupsAt, List.map_map]
        rfl
      rw [keys]
      exact once
    · intro positions mem rule inside
      have here := definedBefore_at (place ▸ sound.before) positions mem rule inside
      rw [defined_of_ne builtin] at here
      exact here

end FirstPass

section Sections

variable {env : Environment} {t : Tables}

/-- The loader inside of `base` or `application`, in the application that they stand for. -/
structure InApplication (s : Loader) (map : List Handler) (appId : UInt32) : Prop where
  inSection : InSection s map
  base : s.m_callStack.head? = some .base → appId = 0
  application : s.m_callStack.head? = some .application → (s.elements .application).m_appId = appId

structure InDictionary (s : Loader) (map : List Handler) : Prop where
  maps : s.Maps map
  calm : s.Calm
  stack : s.m_callStack = [.dictionary]

theorem InDictionary.free (inDictionary : InDictionary s map) {h : Handler} (other : h ≠ .dictionary) :
    h ∉ s.m_callStack := by
  rw [inDictionary.stack]
  simpa using other

def Plain (h : Handler) : Prop := h = .dictionary ∨ h = .vendor ∨ h = .base ∨ h = .typedefn

theorem run_plain {h : Handler} {atts : Attributes} {inner : List Event} (plain : Plain h) (maps : s.Maps map)
    (mem : h ∈ map) (calm : s.Calm) (free : h ∉ s.m_callStack)
    (inside : run env inner (s.opened h { m_inProcess := true, m_parent := s.m_callStack.head? } s.tables) =
      .ok (s.opened h { m_inProcess := true, m_parent := s.m_callStack.head? } t)) :
    run env (element h atts inner) s = .ok { s with tables := t } := by
  obtain ⟨entered, waiting⟩ := startElement_entered calm free
  have starts : startElement env atts s h =
      .ok (s.opened h { m_inProcess := true, m_parent := s.m_callStack.head? } s.tables) := by
    unfold startElement
    rcases plain with rfl | rfl | rfl | rfl <;> simp only [waiting, Bool.false_eq_true, if_false, entered]
  have clears : { cleared h { m_inProcess := true, m_parent := s.m_callStack.head? } with
      m_inProcess := false, m_parent := none } = ({} : Element) := by
    rcases plain with rfl | rfl | rfl | rfl <;> rfl
  exact run_element maps mem (calm _ free) starts rfl clears inside

theorem run_section (inDictionary : InDictionary s map) {part : Section} {items : List Item} {h : Handler}
    (shape : (∃ atts, part = .base atts items ∧ h = .base) ∨
      ∃ atts, part = .application atts items ∧ h = .application) (mem : h ∈ map)
    (inside : ∀ inner : Loader, InApplication inner map (part.appId env) → inner.tables = s.tables →
      run env (items.flatMap Item.events) inner = .ok { inner with tables := t }) :
    run env part.events s = .ok { s with tables := t } := by
  have stacked (h : Handler) : h :: s.m_callStack = [h, .dictionary] := by rw [inDictionary.stack]
  rcases shape with ⟨atts, rfl, rfl⟩ | ⟨atts, rfl, rfl⟩
  · have free : Handler.base ∉ s.m_callStack := inDictionary.free (by decide)
    refine run_plain (.inr (.inr (.inl rfl))) inDictionary.maps mem inDictionary.calm free ?_
    refine inside _ ⟨⟨inDictionary.maps, inDictionary.calm.opened, .inl (stacked .base)⟩, fun _ => rfl, ?_⟩ rfl
    intro application
    cases application
  · have free : Handler.application ∉ s.m_callStack := inDictionary.free (by decide)
    obtain ⟨entered, waiting⟩ := startElement_entered inDictionary.calm free
    let open_ : Element :=
      { m_inProcess := true, m_parent := s.m_callStack.head?, m_name := text atts "name", m_appId := number env atts "id" }
    have starts : startElement env atts s .application = .ok (s.opened .application open_ s.tables) := by
      unfold startElement
      simp only [waiting, Bool.false_eq_true, if_false, entered, startApplication, opened_self]
      simp only [set, Loader.opened, Function.update_idem, open_, text, number]
    have within : run env (items.flatMap Item.events) (s.opened .application open_ s.tables) =
        .ok { s.opened .application open_ s.tables with tables := t } := by
      refine inside _ ⟨⟨inDictionary.maps, inDictionary.calm.opened, .inr (stacked .application)⟩, ?_, ?_⟩ rfl
      · intro base
        cases base
      · intro _
        rw [opened_self]
        rfl
    exact run_element inDictionary.maps mem (inDictionary.calm _ free) starts rfl rfl within

end Sections

section FirstDocument

variable {env : Environment} {d : Document}

theorem run_command_skipped (inSection : InSection s firstMap) (c : CommandElement) : run env c.events s = .ok s := by
  have rules (r : RulesElement) : run env r.events s = .ok s := by
    have other : r.handler ∉ firstMap := by
      unfold RulesElement.handler
      split <;> decide
    exact run_element_other inSection.maps other (inSection.run_positions (by decide) positions_firstMap r.positions)
  exact run_element_other inSection.maps (by decide) (run_flatMap_skipped fun r _ => rules r)

theorem run_items_first (sound : d.Sound env) (inSection : InSection s firstMap) {items : List Item}
    {before : List AvpElement} (place : before ++ items.flatMap Item.avps <+: d.avps) :
    run env (items.flatMap Item.events) { s with tables := firstTables env (namesOf d.avps) before } =
      .ok { s with tables := firstTables env (namesOf d.avps) (before ++ items.flatMap Item.avps) } := by
  refine run_extending Item.events (firstTables env (namesOf d.avps)) Item.avps (fun before item place => ?_) place
  cases item with
  | command c =>
    simp only [Item.avps, List.append_nil]
    exact run_command_skipped (inSection.with_tables _) c
  | typedefn atts =>
    simp only [Item.avps, List.append_nil]
    have free : Handler.typedefn ∉ s.m_callStack := inSection.free (by decide)
    exact run_plain (s := { s with tables := firstTables env (namesOf d.avps) before }) (.inr (.inr (.inr rfl)))
      inSection.maps (by decide) inSection.calm free rfl
  | avp a =>
    obtain ⟨after, all⟩ := place
    have whole : before ++ a :: after = d.avps := by
      rw [← all, List.append_assoc]
      rfl
    exact run_avp sound (inSection.with_tables _) whole rfl

theorem run_sections_first (sound : d.Sound env) (inDictionary : InDictionary s firstMap) {parts : List Section}
    {before : List AvpElement} (place : before ++ parts.flatMap Section.avps <+: d.avps) :
    run env (parts.flatMap Section.events) { s with tables := firstTables env (namesOf d.avps) before } =
      .ok { s with tables := firstTables env (namesOf d.avps) (before ++ parts.flatMap Section.avps) } := by
  refine run_extending Section.events (firstTables env (namesOf d.avps)) Section.avps (fun before part place => ?_) place
  have inside {items : List Item} (same : part.avps = items.flatMap Item.avps) (inner : Loader)
      (inApplication : InApplication inner firstMap (part.appId env))
      (tables : inner.tables = firstTables env (namesOf d.avps) before) :
      run env (items.flatMap Item.events) inner =
        .ok { inner with tables := firstTables env (namesOf d.avps) (before ++ part.avps) } := by
    rw [same] at place ⊢
    have ran := run_items_first sound inApplication.inSection place
    rw [← tables] at ran
    exact ran
  have still : InDictionary { s with tables := firstTables env (namesOf d.avps) before } firstMap :=
    ⟨inDictionary.maps, inDictionary.calm, inDictionary.stack⟩
  cases part with
  | vendor atts =>
    have free : Handler.vendor ∉ s.m_callStack := inDictionary.free (by decide)
    have none_new : before ++ Section.avps (.vendor atts) = before := List.append_nil before
    rw [none_new]
    exact run_plain (s := { s with tables := firstTables env (namesOf d.avps) before }) (.inr (.inl rfl))
      inDictionary.maps (by decide) inDictionary.calm free rfl
  | base atts items => exact run_section still (.inl ⟨atts, rfl, rfl⟩) (by decide) (inside rfl)
  | application atts items => exact run_section still (.inr ⟨atts, rfl, rfl⟩) (by decide) (inside rfl)

end FirstDocument

section SecondPass

variable (env : Environment) (names : List String)

def commandWith (appId : UInt32) (c : CommandElement) (r : RulesElement) (dict : RuleLists) : Command :=
  ⟨c.name ++ r.suffix, c.code env, appId, r.request, c.p env, c.e env, dict⟩

def commandsAt (command : UInt32 × CommandElement) : List Command :=
  command.2.children.map fun r => commandWith env command.1 command.2 r (listsOf env names r.positions)

def secondTables (avps : List AvpElement) (commands : List (UInt32 × CommandElement)) : Tables :=
  { firstTables env names avps with commandList := commands.flatMap (commandsAt env names) }

variable {env names} {d : Document} {appId : UInt32} {c : CommandElement}

def rulesTables (env : Environment) (d : Document) (commands : List Command) : Tables :=
  { firstTables env (namesOf d.avps) d.avps with commandList := commands }

structure InCommand (env : Environment) (s : Loader) (appId : UInt32) (c : CommandElement) : Prop where
  ready : s.Ready secondMap
  requestFree : Handler.requestrules ∉ s.m_callStack
  answerFree : Handler.answerrules ∉ s.m_callStack
  front : s.m_callStack.head? = some .command
  name : (s.elements .command).m_name = c.name
  code : (s.elements .command).m_code = c.code env
  appId : (s.elements .command).m_appId = appId
  pBit : (s.elements .command).m_pBit = number env c.atts "pbit"
  eBit : (s.elements .command).m_eBit = number env c.atts "ebit"

theorem hole_command (commands : List Command) (r : RulesElement) :
    Hole (fun lists => rulesTables env d (commands ++ [commandWith env appId c r lists]))
      (.command commands.length) (namesOf d.avps) (namesOf d.avps) := by
  refine ⟨fun lists position rule => ?_, fun lists => avpName_entriesOf d.avps, List.prefix_refl _⟩
  simp only [rulesTables, Tables.addRule, modify_append_last]
  rfl

theorem run_rules (inCommand : InCommand env s appId c) {r : RulesElement} {commands : List Command}
    (tables : s.tables = rulesTables env d commands) (unlisted : c.name ++ r.suffix ∉ commands.map Command.name)
    (defined : ∀ rule ∈ allRules r.positions, text rule "name" ∈ namesOf d.avps) :
    run env r.events s = .ok { s with
      tables := rulesTables env d (commands ++ [commandWith env appId c r (listsOf env (namesOf d.avps) r.positions)]) } := by
  have free : r.handler ∉ s.m_callStack := by
    unfold RulesElement.handler
    split
    · exact inCommand.requestFree
    · exact inCommand.answerFree
  obtain ⟨entered, waiting⟩ := startElement_entered inCommand.ready.calm free
  rw [inCommand.front] at entered
  let open_ : Element :=
    { m_inProcess := true, m_parent := some .command, m_dict := some (.command commands.length) }
  have apart : Handler.command ≠ r.handler := by
    unfold RulesElement.handler
    split <;> exact Handler.noConfusion
  -- The name with its suffix is new, so that the command is added.
  have none_listed : (commands.any fun com => com.name == c.name ++ r.suffix) = false := by
    rw [List.any_eq_false]
    intro com mem same
    exact unlisted (List.mem_map.mpr ⟨com, mem, beq_iff_eq.mp same⟩)
  -- The element of the rules lists its command without rules, which are filled in inside of it.
  have rules (suffix : String) (request : Bool) (suffix_eq : suffix = r.suffix) (request_eq : request = r.request) :
      startRules (s.opened r.handler { m_inProcess := true, m_parent := some .command } s.tables) r.handler suffix request =
        .ok (s.opened r.handler open_ (rulesTables env d (commands ++ [commandWith env appId c r .empty]))) := by
    subst suffix_eq request_eq
    have listed : (s.tables.commandList.any fun com => com.name == c.name ++ r.suffix) = false := by
      rw [tables]
      exact none_listed
    simp only [startRules, opened_self, opened_of_ne apart, opened_tables, inCommand.name, inCommand.code,
      inCommand.appId, inCommand.pBit, inCommand.eBit, listed, Bool.false_eq_true, if_false]
    simp only [set, Loader.opened, Function.update_idem, open_, tables, rulesTables, commandWith, CommandElement.p,
      CommandElement.e]
  have starts : startElement env r.atts s r.handler =
      .ok (s.opened r.handler open_ (rulesTables env d (commands ++ [commandWith env appId c r .empty]))) := by
    unfold startElement
    simp only [waiting, Bool.false_eq_true, if_false, entered]
    cases request : r.request with
    | true =>
      have handler : r.handler = .requestrules := if_pos request
      have suffix : "-Request" = r.suffix := (if_pos request).symm
      have ran := rules "-Request" true suffix request.symm
      rw [handler] at ran ⊢
      exact ran
    | false =>
      have handler : r.handler = .answerrules := if_neg (by simp [request])
      have suffix : "-Answer" = r.suffix := (if_neg (by simp [request])).symm
      have ran := rules "-Answer" false suffix request.symm
      rw [handler] at ran ⊢
      exact ran
  have owns : r.handler = .requestrules ∨ r.handler = .answerrules ∨ r.handler = .grouped := by
    unfold RulesElement.handler
    split
    · exact .inl rfl
    · exact .inr (.inl rfl)
  have notRule : r.handler ≠ .rule := by
    rcases owns with same | same | same <;> rw [same] <;> exact Handler.noConfusion
  have notPosition (position : Position) : r.handler ≠ .position position := by
    rcases owns with same | same | same <;> rw [same] <;> exact Handler.noConfusion
  -- The positions are run in this hole of the tables.
  let fill (lists : RuleLists) : Tables := rulesTables env d (commands ++ [commandWith env appId c r lists])
  have hole : Hole fill _ _ (namesOf d.avps) := hole_command commands r
  have inside : run env (r.positions.flatMap PositionElement.events) (s.opened r.handler open_ (fill .empty)) =
      .ok (s.opened r.handler open_ (fill (listsOf env (namesOf d.avps) r.positions))) :=
    run_positions hole (inCommand.ready.opened notRule notPosition) rfl owns (by rw [opened_self]) defined rfl
  have mem : r.handler ∈ secondMap := by
    unfold RulesElement.handler
    split <;> decide
  have clears : { cleared r.handler open_ with m_inProcess := false, m_parent := none } = ({} : Element) := by
    unfold RulesElement.handler
    split <;> rfl
  exact run_element inCommand.ready.maps mem (inCommand.ready.calm _ free) starts rfl clears inside

theorem names_commandsAt (commands : List (UInt32 × CommandElement)) :
    (commands.flatMap (commandsAt env names)).map Command.name =
      commands.flatMap fun (_, c) => c.children.map fun r => c.name ++ r.suffix := by
  rw [List.map_flatMap]
  refine List.flatMap_congr fun command _ => ?_
  simp only [commandsAt, List.map_map]
  rfl

theorem run_command (sound : d.Sound env) (inApplication : InApplication s secondMap appId)
    {before after : List (UInt32 × CommandElement)} (place : before ++ (appId, c) :: after = d.commands env)
    (tables : s.tables = secondTables env (namesOf d.avps) d.avps before) :
    run env c.events s = .ok { s with tables := secondTables env (namesOf d.avps) d.avps (before ++ [(appId, c)]) } := by
  have inSection := inApplication.inSection
  have member : (appId, c) ∈ d.commands env := place ▸ List.mem_append_right _ List.mem_cons_self
  have free : Handler.command ∉ s.m_callStack := inSection.free (by decide)
  obtain ⟨entered, waiting⟩ := startElement_entered inSection.calm free
  let open_ : Element :=
    { m_inProcess := true, m_parent := s.m_callStack.head?, m_name := c.name, m_code := c.code env, m_appId := appId
      m_pBit := number env c.atts "pbit", m_eBit := number env c.atts "ebit" }
  have starts : startElement env c.atts s .command = .ok (s.opened .command open_ s.tables) := by
    unfold startElement
    simp only [waiting, Bool.false_eq_true, if_false, entered, startCommand, opened_self,
      opened_of_ne (Handler.noConfusion : Handler.application ≠ Handler.command)]
    rcases inSection.stack with stack | stack
    · have zero := inApplication.base (by rw [stack]; rfl)
      simp only [stack, List.head?_cons, set, Loader.opened, Function.update_idem, open_, zero]
      rfl
    · have same := inApplication.application (by rw [stack]; rfl)
      simp only [stack, List.head?_cons, set, Loader.opened, Function.update_idem, open_, same]
      rfl
  have ready := inSection.ready (by decide) positions_secondMap
  have inCommand (t : Tables) : InCommand env (s.opened .command open_ t) appId c := by
    refine ⟨ready.opened Handler.noConfusion fun _ => Handler.noConfusion, ?_, ?_, rfl, ?_, ?_, ?_, ?_, ?_⟩
    · exact fun mem => (List.mem_cons.mp mem).elim Handler.noConfusion (inSection.free (by decide))
    · exact fun mem => (List.mem_cons.mp mem).elim Handler.noConfusion (inSection.free (by decide))
    all_goals rw [opened_self]
  let entry (r : RulesElement) : Command := commandWith env appId c r (listsOf env (namesOf d.avps) r.positions)
  let earlier := before.flatMap (commandsAt env (namesOf d.avps))
  have names : (earlier.map Command.name ++ c.children.map fun r => c.name ++ r.suffix).Nodup := by
    have all := sound.commandNames
    rw [← place, List.flatMap_append, List.flatMap_cons, ← List.append_assoc] at all
    rw [names_commandsAt]
    exact (List.nodup_append.mp all).1
  have inside : run env (c.children.flatMap RulesElement.events)
      { s.opened .command open_ s.tables with tables := rulesTables env d (earlier ++ ([] : List RulesElement).map entry) } =
        .ok { s.opened .command open_ s.tables with
          tables := rulesTables env d (earlier ++ ([] ++ c.children.flatMap fun r => [r]).map entry) } := by
    have all : [] ++ (c.children.flatMap fun r => [r]) <+: c.children := by simp
    refine run_extending RulesElement.events (fun seen => rulesTables env d (earlier ++ seen.map entry)) (fun r => [r])
      (fun seen r within => ?_) all
    obtain ⟨later, all⟩ := within
    have inner : r ∈ c.children := all ▸ List.mem_append_left _ (List.mem_append_right _ (List.mem_singleton_self r))
    have unlisted : c.name ++ r.suffix ∉ (earlier ++ seen.map entry).map Command.name := by
      rw [← all, List.map_append, List.map_append, ← List.append_assoc, ← List.append_assoc] at names
      have split := (List.nodup_append.mp (List.nodup_append.mp names).1).2.2
      rw [List.map_append, List.map_map]
      exact fun mem => split _ mem _ (List.mem_singleton_self _) rfl
    rw [List.map_append, List.map_singleton, ← List.append_assoc]
    exact run_rules (inCommand (rulesTables env d (earlier ++ seen.map entry))) rfl unlisted
      (sound.commandRules (appId, c) member r inner)
  have flat : (c.children.flatMap fun r => [r]) = c.children := by simp
  have start : rulesTables env d (earlier ++ ([] : List RulesElement).map entry) = s.tables := by
    rw [List.map_nil, List.append_nil, tables]
    rfl
  have finish : rulesTables env d (earlier ++ ([] ++ c.children.flatMap fun r => [r]).map entry) =
      secondTables env (namesOf d.avps) d.avps (before ++ [(appId, c)]) := by
    rw [flat, List.nil_append]
    simp only [rulesTables, secondTables, List.flatMap_append, List.flatMap_cons, List.flatMap_nil, List.append_nil]
    rfl
  rw [start, finish] at inside
  exact run_element inSection.maps (by decide) (inSection.calm _ free) starts rfl rfl inside

theorem run_avp_skipped (inSection : InSection s secondMap) (a : AvpElement) : run env a.events s = .ok s := by
  have child (child : AvpChild) : run env child.events s = .ok s := by
    cases child with
    | type atts => exact run_element_other inSection.maps (by decide) rfl
    | grouped atts positions =>
      exact run_element_other inSection.maps (by decide) (inSection.run_positions (by decide) positions_secondMap positions)
  exact run_element_other inSection.maps (by decide) (run_flatMap_skipped fun first _ => child first)

theorem run_items_second (sound : d.Sound env) (inApplication : InApplication s secondMap appId) {items : List Item}
    {before : List (UInt32 × CommandElement)} (place : before ++ items.flatMap (Item.commands appId) <+: d.commands env) :
    run env (items.flatMap Item.events) { s with tables := secondTables env (namesOf d.avps) d.avps before } =
      .ok { s with
        tables := secondTables env (namesOf d.avps) d.avps (before ++ items.flatMap (Item.commands appId)) } := by
  refine run_extending Item.events (secondTables env (namesOf d.avps) d.avps) (Item.commands appId)
    (fun before item place => ?_) place
  have inSection := inApplication.inSection
  cases item with
  | command c =>
    obtain ⟨after, all⟩ := place
    have whole : before ++ (appId, c) :: after = d.commands env := by
      rw [← all, List.append_assoc]
      rfl
    exact run_command (s := { s with tables := secondTables env (namesOf d.avps) d.avps before }) sound
      ⟨inSection.with_tables _, inApplication.base, inApplication.application⟩ whole rfl
  | typedefn atts =>
    simp only [Item.commands, List.append_nil]
    exact run_element_other (s := { s with tables := secondTables env (namesOf d.avps) d.avps before })
      inSection.maps (by decide) rfl
  | avp a =>
    simp only [Item.commands, List.append_nil]
    exact run_avp_skipped (inSection.with_tables _) a

theorem run_sections_second (sound : d.Sound env) (inDictionary : InDictionary s secondMap) {parts : List Section}
    {before : List (UInt32 × CommandElement)} (place : before ++ parts.flatMap (Section.commands env) <+: d.commands env) :
    run env (parts.flatMap Section.events) { s with tables := secondTables env (namesOf d.avps) d.avps before } =
      .ok { s with
        tables := secondTables env (namesOf d.avps) d.avps (before ++ parts.flatMap (Section.commands env)) } := by
  refine run_extending Section.events (secondTables env (namesOf d.avps) d.avps) (Section.commands env)
    (fun before part place => ?_) place
  have inside {items : List Item} (same : part.commands env = items.flatMap (Item.commands (part.appId env)))
      (inner : Loader) (inApplication : InApplication inner secondMap (part.appId env))
      (tables : inner.tables = secondTables env (namesOf d.avps) d.avps before) :
      run env (items.flatMap Item.events) inner =
        .ok { inner with tables := secondTables env (namesOf d.avps) d.avps (before ++ part.commands env) } := by
    rw [same] at place ⊢
    have ran := run_items_second sound inApplication place
    rw [← tables] at ran
    exact ran
  have still : InDictionary { s with tables := secondTables env (namesOf d.avps) d.avps before } secondMap :=
    ⟨inDictionary.maps, inDictionary.calm, inDictionary.stack⟩
  cases part with
  | vendor atts =>
    have none_new : before ++ Section.commands env (.vendor atts) = before := List.append_nil before
    rw [none_new]
    exact run_element_other (s := { s with tables := secondTables env (namesOf d.avps) d.avps before })
      inDictionary.maps (by decide) rfl
  | base atts items => exact run_section still (.inl ⟨atts, rfl, rfl⟩) (by decide) (inside rfl)
  | application atts items => exact run_section still (.inr ⟨atts, rfl, rfl⟩) (by decide) (inside rfl)

end SecondPass

section Passes

variable {env : Environment} {d : Document} {events : List Event} {t : Tables}

def between (pass : Nat) (t : Tables) : Loader := ⟨pass, fun _ => {}, [], t⟩

theorem parse_document (reports : Reports events d) (start : Loader) (empty : start.m_callStack = [])
    (maps : elementMap (start.m_passNum + 1) = some map) (mem : Handler.dictionary ∈ map)
    (inside : ∀ inner : Loader, InDictionary inner map → inner.tables = start.tables →
      run env (d.sections.flatMap Section.events) inner = .ok { inner with tables := t }) :
    parse env start events = .ok (between (start.m_passNum + 1) t) := by
  have calm : (between (start.m_passNum + 1) start.tables).Calm := fun _ _ => rfl
  have free : Handler.dictionary ∉ (between (start.m_passNum + 1) start.tables).m_callStack := List.not_mem_nil
  have dictionary : run env d.events (between (start.m_passNum + 1) start.tables) =
      .ok (between (start.m_passNum + 1) t) :=
    run_plain (.inl rfl) maps mem calm free (inside _ ⟨maps, calm.opened, rfl⟩ rfl)
  have all : run env events (between (start.m_passNum + 1) start.tables) = .ok (between (start.m_passNum + 1) t) := by
    have pass : (between (start.m_passNum + 1) start.tables).Maps map := maps
    rw [run_filter pass reports.inside, reports.elements]
    exact dictionary
  have begun : step env start .startDocument = .ok (between (start.m_passNum + 1) start.tables) := by
    simp only [step, between, empty]
  rw [parse, List.cons_append, run, begun]
  exact run_append_of_ok all

theorem parse_first (reports : Reports events d) (sound : d.Sound env) :
    parse env .initial events = .ok (between 1 (firstTables env (namesOf d.avps) d.avps)) := by
  refine parse_document reports .initial rfl rfl (by decide) fun inner inDictionary tables => ?_
  have place : [] ++ d.sections.flatMap Section.avps <+: d.avps := List.prefix_refl _
  have ran := run_sections_first sound inDictionary place
  have none_yet : firstTables env (namesOf d.avps) [] = inner.tables := tables.symm
  rw [none_yet] at ran
  exact ran

theorem parse_second (reports : Reports events d) (sound : d.Sound env) :
    parse env (between 1 (firstTables env (namesOf d.avps) d.avps)) events =
      .ok (between 2 (secondTables env (namesOf d.avps) d.avps (d.commands env))) := by
  refine parse_document reports (between 1 _) rfl rfl (by decide) fun inner inDictionary tables => ?_
  have place : [] ++ d.sections.flatMap (Section.commands env) <+: d.commands env := List.prefix_refl _
  have ran := run_sections_second sound inDictionary place
  have none_yet : secondTables env (namesOf d.avps) d.avps [] = inner.tables := tables.symm
  rw [none_yet] at ran
  exact ran

end Passes

end Loader

section Result

variable {env : Environment} {d : Document} {names : List String}

theorem rulesAt_cons (position : Position) (e : PositionElement) (positions : List PositionElement) :
    rulesAt position (e :: positions) = (if e.position = position then e.rules else []) ++ rulesAt position positions := by
  unfold rulesAt
  by_cases here : e.position = position
  · rw [List.filter_cons_of_pos (by simpa using here), List.flatMap_cons, if_pos here]
  · rw [List.filter_cons_of_neg (by simpa using here), if_neg here, List.nil_append]

theorem rulesAt_subset (position : Position) (positions : List PositionElement) :
    ∀ rule ∈ rulesAt position positions, rule ∈ allRules positions := by
  intro rule mem
  obtain ⟨e, kept, inside⟩ := List.mem_flatMap.mp mem
  exact List.mem_flatMap.mpr ⟨e, (List.mem_filter.mp kept).1, inside⟩

theorem addRules_eq (lists : RuleLists) (e : PositionElement) :
    addRules env names lists e =
      ⟨lists.avp_f ++ (if e.position = .fixed then e.rules else []).map (ruleAt env names),
        lists.avp_r ++ (if e.position = .required then e.rules else []).map (ruleAt env names),
        lists.avp_o ++ (if e.position = .optional then e.rules else []).map (ruleAt env names)⟩ := by
  obtain ⟨position, atts, rules⟩ := e
  unfold addRules
  induction rules generalizing lists with
  | nil => simp
  | cons rule rules ih =>
    have added := ih (lists.add position (ruleAt env names rule))
    rw [List.foldl_cons]
    cases position with
    | fixed => simpa [RuleLists.add, List.append_assoc] using added
    | required => simpa [RuleLists.add, List.append_assoc] using added
    | optional => simpa [RuleLists.add, List.append_assoc] using added

theorem foldl_addRules (lists : RuleLists) (positions : List PositionElement) :
    positions.foldl (addRules env names) lists =
      ⟨lists.avp_f ++ (rulesAt .fixed positions).map (ruleAt env names),
        lists.avp_r ++ (rulesAt .required positions).map (ruleAt env names),
        lists.avp_o ++ (rulesAt .optional positions).map (ruleAt env names)⟩ := by
  induction positions generalizing lists with
  | nil => simp [rulesAt]
  | cons e positions ih =>
    rw [List.foldl_cons, ih, addRules_eq, rulesAt_cons, rulesAt_cons, rulesAt_cons]
    simp only [List.map_append, List.append_assoc]

theorem rule_ruleAt {t : Tables} (entries : t.avpList = d.entries env) {atts : Attributes}
    (bounds : Loader.ruleMin env atts < 65536 ∧ Loader.ruleMax env atts < 65536) :
    t.rule (ruleAt env (namesOf d.avps) atts) = ruleSaid env (d.entries env) atts := by
  have names : namesOf d.avps = (d.entries env).map DictionaryEntry.avpName := (Loader.avpName_entriesOf d.avps).symm
  have low (n : UInt32) (small : n < 65536) : n.toUInt16.toNat = n.toNat := by
    have below : n.toNat < 2 ^ 16 := UInt32.lt_iff_toNat_lt.mp small
    rw [UInt32.toNat_toUInt16, Nat.mod_eq_of_lt below]
  simp only [Tables.rule, ruleAt, ruleSaid, entries, names, getElem?_idxOf, low _ bounds.1, low _ bounds.2]

theorem dict_listsOf {t : Tables} (entries : t.avpList = d.entries env) {positions : List PositionElement}
    (bounds : ∀ rule ∈ allRules positions, Loader.ruleMin env rule < 65536 ∧ Loader.ruleMax env rule < 65536) :
    t.dict (listsOf env (namesOf d.avps) positions) = dictSaid env (d.entries env) positions := by
  have each (position : Position) : ((rulesAt position positions).map (ruleAt env (namesOf d.avps))).map t.rule =
      (rulesAt position positions).map (ruleSaid env (d.entries env)) := by
    rw [List.map_map]
    exact List.map_congr_left fun rule mem => rule_ruleAt entries (bounds rule (rulesAt_subset position positions rule mem))
  rw [listsOf, foldl_addRules]
  simp only [Tables.dict, RuleLists.empty, List.nil_append, each, dictSaid]

structure Built (env : Environment) (d : Document) (t : Tables) : Prop where
  entries : t.avpList = d.entries env
  groups : t.groupList.map t.group = d.groupsSaid env
  commands : t.commandList.map (fun com => ⟨com.name, com.e, t.command com⟩) = d.commandsSaid env
  command : ∀ command ∈ d.commands env, ∀ r ∈ command.2.children, ∃ com,
    t.search (command.2.code env) command.1 r.request = some com ∧ com.p = command.2.p env ∧ com.e = command.2.e env ∧
      t.dict com.dict = dictSaid env (d.entries env) r.positions
  group : ∀ a ∈ d.avps, ∀ positions ∈ a.groups, ∃ g, t.searchGroup (a.code env) (a.vendorId env) = some g ∧
    t.dict g.dict = dictSaid env (d.entries env) positions
  rule : ∀ rule ∈ d.rules env, (ruleSaid env (d.entries env) rule).avp ∈ t.avpList ∧
    (ruleSaid env (d.entries env) rule).avp.avpName = text rule "name" ∧
      ∀ a ∈ defined d.avps, a.name = text rule "name" → (ruleSaid env (d.entries env) rule).avp = a.entry env
  once : (t.avpList.map DictionaryEntry.avpName).Nodup ∧ (t.groupList.map fun g => (g.code, g.vendorId)).Nodup ∧
    (t.commandList.map fun com => (com.code, com.appId, com.r)).Nodup

theorem find?_of_unique {α : Type} {l : List α} {p : α → Bool} {x : α} (mem : x ∈ l) (holds : p x = true)
    (unique : ∀ y ∈ l, p y = true → y = x) : l.find? p = some x := by
  cases found : l.find? p with
  | none => exact absurd holds (List.find?_eq_none.mp found x mem)
  | some y => rw [unique y (List.mem_of_find?_eq_some found) (List.find?_some found)]

variable (sound : d.Sound env)

include sound

theorem bounds_of_group {a : AvpElement} (mem : a ∈ d.avps) {positions : List PositionElement}
    (inside : positions ∈ a.groups) :
    ∀ rule ∈ allRules positions, Loader.ruleMin env rule < 65536 ∧ Loader.ruleMax env rule < 65536 := by
  intro rule here
  refine sound.bounds rule (List.mem_append_left _ ?_)
  exact List.mem_flatMap.mpr ⟨a, mem, List.mem_flatMap.mpr ⟨positions, inside, here⟩⟩

theorem bounds_of_command {command : UInt32 × CommandElement} (mem : command ∈ d.commands env) {r : RulesElement}
    (inside : r ∈ command.2.children) :
    ∀ rule ∈ allRules r.positions, Loader.ruleMin env rule < 65536 ∧ Loader.ruleMax env rule < 65536 := by
  intro rule here
  refine sound.bounds rule (List.mem_append_right _ ?_)
  exact List.mem_flatMap.mpr ⟨command, mem, List.mem_flatMap.mpr ⟨r, inside, here⟩⟩

theorem name_mem_of_rule {rule : Attributes} (mem : rule ∈ d.rules env) : text rule "name" ∈ namesOf d.avps := by
  rcases List.mem_append.mp mem with inGroup | inCommand
  · obtain ⟨a, member, inAvp⟩ := List.mem_flatMap.mp inGroup
    obtain ⟨positions, inside, here⟩ := List.mem_flatMap.mp inAvp
    obtain ⟨before, after, split⟩ := List.append_of_mem member
    have known := Loader.definedBefore_at (split ▸ sound.before) positions inside rule here
    have whole : d.avps = before ++ [a] ++ after := by
      rw [split, List.append_assoc]
      rfl
    rw [whole, Loader.namesOf_append, Loader.namesOf_append]
    exact List.mem_append_left _ known
  · obtain ⟨command, member, inCommand⟩ := List.mem_flatMap.mp inCommand
    obtain ⟨r, inside, here⟩ := List.mem_flatMap.mp inCommand
    exact sound.commandRules command member r inside rule here

theorem ruleSaid_entry {rule : Attributes} (mem : rule ∈ d.rules env) :
    (ruleSaid env (d.entries env) rule).avp ∈ d.entries env ∧
      (ruleSaid env (d.entries env) rule).avp.avpName = text rule "name" ∧
        ∀ a ∈ defined d.avps, a.name = text rule "name" → (ruleSaid env (d.entries env) rule).avp = a.entry env := by
  have listed := name_mem_of_rule sound mem
  have names : (d.entries env).map DictionaryEntry.avpName = namesOf d.avps := Loader.avpName_entriesOf d.avps
  rw [← names] at listed
  obtain ⟨entry, inside, name⟩ := List.mem_map.mp listed
  have nodup := Loader.nodup_namesOf sound
  rw [← names] at nodup
  have found : (d.entries env).find? (·.avpName == text rule "name") = some entry := by
    refine find?_of_unique inside (beq_iff_eq.mpr name) fun other mem same => ?_
    exact List.inj_on_of_nodup_map nodup mem inside ((beq_iff_eq.mp same).trans name.symm)
  have refers : (ruleSaid env (d.entries env) rule).avp = entry := by
    simp only [ruleSaid, found, Option.getD_some]
  rw [refers]
  refine ⟨inside, name, fun a kept same => ?_⟩
  have member : a.entry env ∈ d.entries env := List.mem_cons_of_mem _ (List.mem_map_of_mem kept)
  exact List.inj_on_of_nodup_map nodup inside member (name.trans (same.symm.trans (Loader.avpName_entry a).symm))

theorem built : Built env d (Loader.secondTables env (namesOf d.avps) d.avps (d.commands env)) := by
  have entries : (Loader.secondTables env (namesOf d.avps) d.avps (d.commands env)).avpList = d.entries env := rfl
  -- The keys of the tables are those of the document, so that no entry shadows another.
  have groupKeys : ((d.avps.flatMap (Loader.groupsAt env (namesOf d.avps))).map fun g => (g.code, g.vendorId)) =
      d.avps.flatMap fun a => a.groups.map fun _ => (a.code env, a.vendorId env) := by
    rw [List.map_flatMap]
    refine List.flatMap_congr fun a _ => ?_
    simp only [Loader.groupsAt, List.map_map]
    rfl
  have commandKeys : (((d.commands env).flatMap (Loader.commandsAt env (namesOf d.avps))).map
      fun com => (com.code, com.appId, com.r)) =
        (d.commands env).flatMap fun (appId, c) => c.children.map fun r => (c.code env, appId, r.request) := by
    rw [List.map_flatMap]
    refine List.flatMap_congr fun command _ => ?_
    simp only [Loader.commandsAt, List.map_map]
    rfl
  have groupsOnce := groupKeys ▸ sound.groups
  have commandsOnce := commandKeys ▸ sound.commandKeys
  refine ⟨entries, ?_, ?_, ?_, ?_, fun rule mem => ruleSaid_entry sound mem, ?_, groupsOnce, commandsOnce⟩
  · simp only [Loader.secondTables, Loader.firstTables, Document.groupsSaid, List.map_flatMap]
    refine List.flatMap_congr fun a mem => ?_
    rw [Loader.groupsAt, List.map_map]
    refine List.map_congr_left fun positions inside => ?_
    exact congrArg (DiameterGroupedAvp.mk _ _) (dict_listsOf entries (bounds_of_group sound mem inside))
  · simp only [Loader.secondTables, Document.commandsSaid, List.map_flatMap]
    refine List.flatMap_congr fun command mem => ?_
    rw [Loader.commandsAt, List.map_map]
    refine List.map_congr_left fun r inside => ?_
    have dict := dict_listsOf entries (bounds_of_command sound mem inside)
    simp only [Function.comp_apply, Tables.command, Loader.commandWith, CommandElement.said]
    exact congrArg (fun dict => NamedCommand.mk _ _ ⟨_, _, _, _, dict⟩) dict
  · intro command mem r inside
    have member : Loader.commandWith env command.1 command.2 r (listsOf env (namesOf d.avps) r.positions) ∈
        (d.commands env).flatMap (Loader.commandsAt env (namesOf d.avps)) :=
      List.mem_flatMap.mpr ⟨command, mem, List.mem_map_of_mem inside⟩
    refine ⟨_, find?_of_unique member ?_ ?_, rfl, rfl, dict_listsOf entries (bounds_of_command sound mem inside)⟩
    · simp only [Loader.commandWith, beq_self_eq_true, Bool.and_self]
    · intro other there same
      simp only [Bool.and_eq_true, beq_iff_eq] at same
      obtain ⟨⟨code, appId⟩, request⟩ := same
      refine List.inj_on_of_nodup_map commandsOnce there member ?_
      rw [code, appId, request]
      rfl
  · intro a mem positions inside
    have member : (⟨a.code env, a.vendorId env, listsOf env (namesOf d.avps) positions⟩ : Group) ∈
        d.avps.flatMap (Loader.groupsAt env (namesOf d.avps)) :=
      List.mem_flatMap.mpr ⟨a, mem, List.mem_map.mpr ⟨positions, inside, rfl⟩⟩
    refine ⟨_, find?_of_unique member ?_ ?_, dict_listsOf entries (bounds_of_group sound mem inside)⟩
    · simp only [beq_self_eq_true, Bool.and_self]
    · intro other there same
      simp only [Bool.and_eq_true, beq_iff_eq] at same
      refine List.inj_on_of_nodup_map groupsOnce there member ?_
      rw [same.1, same.2]
  · rw [entries, Document.entries, Loader.avpName_entriesOf]
    exact Loader.nodup_namesOf sound

omit sound

/-- Both passes end with an empty stack, and leave what the document says. -/
theorem loads_document {env : Environment} {events : List Event} {d : Document} (reports : Reports events d)
    (sound : d.Sound env) : ∃ first second, Loader.parse env .initial events = .ok first ∧ first.m_callStack = [] ∧
      Loader.parse env first events = .ok second ∧ second.m_callStack = [] ∧ Built env d second.tables :=
  ⟨_, _, Loader.parse_first reports sound, rfl, Loader.parse_second reports sound, rfl, built sound⟩

end Result

section Samples

def sampleEnvironment : Environment where
  platform := ⟨true, 2 ^ 64 - 1, fun _ => 0, by decide⟩
  types name := if name = "DiameterIdentity" then some .diamId else if name = "Unsigned32" then some .uinteger32 else none

def typedAvp (name code vendorId type : String) : Item :=
  .avp ⟨[("name", name), ("code", code), ("vendorId", vendorId)], [.type [("name", type)]]⟩

def groupedAvp (name code rule max : String) : Item :=
  .avp ⟨[("name", name), ("code", code)], [.grouped [] [⟨.required, [], [[("name", rule), ("max", max)]]⟩]]⟩

def requestOnly (name code : String) : Item := .command ⟨[("name", name), ("code", code)], [⟨true, [], []⟩]⟩

def sample : Document where
  atts := []
  sections :=
    [.vendor [("id", "9")],
      .base []
        [.command ⟨[("name", "Capabilities-Exchange"), ("code", "257"), ("pbit", "0")],
          [⟨true, [], [⟨.required, [], [[("name", "Origin-Host"), ("min", "1"), ("max", "1")]]⟩]⟩,
            ⟨false, [], [⟨.optional, [], [[("name", "Failed")], [("name", "AVP")]]⟩]⟩]⟩,
          .typedefn [], typedAvp "Origin-Host" "264" "0" "DiameterIdentity", groupedAvp "Failed" "279" "AVP" "none"],
      .application [("id", "4")] [requestOnly "Credit-Control" "272", typedAvp "Status" "1" "9" "Unsigned32"]]

def sampleEvents : List Event :=
  .characters "dictionary" :: .startElement "enum" [("code", "0")] :: sample.events ++ [.endElement "enum"]

theorem loads_document_sample : ∃ first second, Loader.parse sampleEnvironment .initial sampleEvents = .ok first ∧
    first.m_callStack = [] ∧ Loader.parse sampleEnvironment first sampleEvents = .ok second ∧
      second.m_callStack = [] ∧ Built sampleEnvironment sample second.tables := by
  have reports : Reports sampleEvents sample := ⟨by decide +kernel, by decide +kernel⟩
  exact loads_document reports ⟨by decide +kernel, by decide +kernel, by decide +kernel, by decide +kernel,
    by decide +kernel, by decide +kernel, by decide +kernel, by decide +kernel⟩

def reusedName : Document :=
  ⟨[], [.base [] [typedAvp "Status" "1" "9" "Unsigned32", typedAvp "Status" "1" "10" "Unsigned32"]]⟩

def reusedCommand : Document :=
  ⟨[], [.application [("id", "4")] [requestOnly "Accounting" "271"],
    .application [("id", "5")] [requestOnly "Accounting" "271"]]⟩

def reusedCode : Document :=
  ⟨[], [.base [] [groupedAvp "First" "7" "AVP" "1", groupedAvp "Second" "7" "AVP" "1"]]⟩

def wideBound : Document := ⟨[], [.base [] [groupedAvp "First" "7" "AVP" "70000"]]⟩

def unknownType : Document := ⟨[], [.base [] [typedAvp "Status" "1" "9" "Counter64"]]⟩

def stopOf (loaded : Except Stop Loader) : Option Stop :=
  match loaded with
  | .error stop => some stop
  | .ok _ => none

def boundsOf (loaded : Except Stop Loader) : List UInt16 :=
  match loaded with
  | .error _ => []
  | .ok s => s.tables.groupList.flatMap fun group => group.dict.avp_r.map (·.max)

/-- Distinct pairs are not enough: names decide, for AVPs and for commands, a group is found by
its code, and bounds have 16 bits. -/
theorem distinct_pairs_not_loaded :
    ((reusedName.avps.map fun a => (a.name, a.vendorId sampleEnvironment)).Nodup ∧
      stopOf (Loader.parseXMLDictionary sampleEnvironment reusedName.events) = some .exit) ∧
    (((reusedCommand.commands sampleEnvironment).map fun (appId, c) => (c.code sampleEnvironment, appId)).Nodup ∧
      stopOf (Loader.parseXMLDictionary sampleEnvironment reusedCommand.events) = some .exit) ∧
    ((reusedCode.avps.map fun a => (a.name, a.vendorId sampleEnvironment)).Nodup ∧
      stopOf (Loader.parseXMLDictionary sampleEnvironment reusedCode.events) = some .exit) ∧
    boundsOf (Loader.parseXMLDictionary sampleEnvironment wideBound.events) = [4464] ∧
      stopOf (Loader.parseXMLDictionary sampleEnvironment unknownType.events) = some .terminate := by
  refine ⟨⟨by decide, by decide +kernel⟩, ⟨by decide, by decide +kernel⟩, ⟨by decide, by decide +kernel⟩, by decide +kernel,
    by decide +kernel⟩

end Samples

end OpenDiameter.Parser.DictionaryLoader
