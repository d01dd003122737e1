import OpenDiameter.Parser.DictionaryDocument

/-! Runs of the dictionary loader: one element at a time.

While an element is open only its own handler differs from how it was constructed, so
the run over an element with all that is in it changes nothing but the tables. An
element without a handler in the pass leaves the run to what is in it.
-/

set_option autoImplicit false

namespace OpenDiameter.Parser.DictionaryLoader

section Names

theorem Handler.mem_all (h : Handler) : h ∈ Handler.all := by
  cases h with
  | position position => cases position <;> decide
  | _ => decide

theorem Handler.name_inj {h other : Handler} (same : h.name = other.name) : h = other := by
  have all : ∀ h ∈ Handler.all, ∀ other ∈ Handler.all, h.name = other.name → h = other := by decide
  exact all h h.mem_all other other.mem_all same

theorem find_name {map : List Handler} {h : Handler} (mem : h ∈ map) : map.find? (·.name == h.name) = some h := by
  induction map with
  | nil => cases mem
  | cons first rest ih =>
    by_cases same : first.name = h.name
    · rw [List.find?_cons_of_pos (by simpa using same), Handler.name_inj same]
    · rw [List.find?_cons_of_neg (by simpa using same)]
      refine ih ((List.mem_cons.mp mem).resolve_left ?_)
      intro here
      exact same (congrArg Handler.name here.symm)

theorem find_name_none {map : List Handler} {qName : String} (other : ∀ h ∈ map, h.name ≠ qName) :
    map.find? (·.name == qName) = none := by
  rw [List.find?_eq_none]
  intro h mem
  simpa using other h mem

end Names

section Suffixes

/-- Each command is named after a request or an answer. -/
def Tables.Suffixed (t : Tables) : Prop :=
  ∀ com ∈ t.commandList, ∃ base, com.name = base ++ "-Request" ∨ com.name = base ++ "-Answer"

theorem Tables.Suffixed.addRule {t : Tables} (suffixed : t.Suffixed) (dict : Dict) (position : Position) (rule : Rule) :
    (t.addRule dict position rule).Suffixed := by
  cases dict with
  | group place => exact suffixed
  | command place =>
    intro com mem
    obtain ⟨i, same⟩ := List.mem_iff_getElem?.mp mem
    rw [Tables.addRule, List.getElem?_modify] at same
    obtain ⟨own, listed, rfl⟩ := Option.map_eq_some_iff.mp same
    obtain ⟨base, named⟩ := suffixed own (List.mem_of_getElem? listed)
    refine ⟨base, ?_⟩
    split <;> exact named

end Suffixes

namespace Loader

variable {env : Environment} {atts : Attributes} {s : Loader} {h : Handler}

section Runs

theorem run_append (first second : List Event) :
    run env (first ++ second) s = (run env first s).bind (run env second) := by
  induction first generalizing s with
  | nil => rfl
  | cons event first ih =>
    simp only [List.cons_append, run]
    cases step env s event with
    | error stop => rfl
    | ok next => exact ih

theorem run_append_of_ok {first second : List Event} {next : Loader} (ran : run env first s = .ok next) :
    run env (first ++ second) s = run env second next := by
  rw [run_append, ran]
  rfl

def Maps (s : Loader) (map : List Handler) : Prop := elementMap s.m_passNum = some map

variable {map : List Handler}

theorem step_startElement (maps : s.Maps map) (mem : h ∈ map) :
    step env s (.startElement h.name atts) = startElement env atts s h := by
  have found : elementMap s.m_passNum = some map := maps
  simp only [step, found, find_name mem]

theorem step_endElement (maps : s.Maps map) (mem : h ∈ map) :
    step env s (.endElement h.name) = endElement s h := by
  have found : elementMap s.m_passNum = some map := maps
  simp only [step, found, find_name mem]

theorem step_startElement_other (maps : s.Maps map) {qName : String} (other : ∀ h ∈ map, h.name ≠ qName) :
    step env s (.startElement qName atts) = .ok s := by
  have found : elementMap s.m_passNum = some map := maps
  simp only [step, found, find_name_none other]

theorem step_endElement_other (maps : s.Maps map) {qName : String} (other : ∀ h ∈ map, h.name ≠ qName) :
    step env s (.endElement qName) = .ok s := by
  have found : elementMap s.m_passNum = some map := maps
  simp only [step, found, find_name_none other]

end Runs

section Passes

/-- What no handler changes: the number of the pass, and how the names of the commands end. -/
structure Advances (s next : Loader) : Prop where
  passNum : next.m_passNum = s.m_passNum
  suffixed : s.tables.Suffixed → next.tables.Suffixed

theorem startRules_advances {suffix : String} {r : Bool} {next : Loader} (known : suffix = "-Request" ∨ suffix = "-Answer")
    (started : startRules s h suffix r = .ok next) : s.Advances next := by
  simp only [startRules] at started
  split at started
  · split at started <;> cases started
    refine ⟨rfl, fun suffixed com mem => ?_⟩
    rcases List.mem_append.mp mem with before | added
    · exact suffixed com before
    · rw [List.mem_singleton.mp added]
      rcases known with rfl | rfl
      · exact ⟨_, Or.inl rfl⟩
      · exact ⟨_, Or.inr rfl⟩
  · cases started

theorem startElement_advances {next : Loader} (started : startElement env atts s h = .ok next) : s.Advances next := by
  unfold startElement at started
  split at started
  · cases started
    exact ⟨rfl, id⟩
  -- Only the two lists of rules make a command, each with its suffix; `rule` changes one that is there.
  · cases h with
    | dictionary | vendor | base | application | typedefn =>
      cases started
      exact ⟨rfl, id⟩
    | command =>
      simp only [startCommand] at started
      split at started <;> cases started <;> exact ⟨rfl, id⟩
    | requestrules =>
      have rules := startRules_advances (Or.inl rfl) started
      exact ⟨rules.passNum, rules.suffixed⟩
    | answerrules =>
      have rules := startRules_advances (Or.inr rfl) started
      exact ⟨rules.passNum, rules.suffixed⟩
    | avp =>
      simp only [startAvp] at started
      split at started
      · split at started <;> cases started
        exact ⟨rfl, id⟩
      · cases started
        exact ⟨rfl, id⟩
    | type =>
      simp only [startType] at started
      split at started
      · cases started
      · split at started
        · cases started
        · cases started
          exact ⟨rfl, id⟩
        · split at started <;> cases started
          exact ⟨rfl, id⟩
    | grouped =>
      simp only [startGrouped] at started
      split at started
      · split at started
        · cases started
        · split at started <;> cases started
          exact ⟨rfl, id⟩
      · cases started
    | position position =>
      simp only [startPosition] at started
      split at started
      · cases started
      · split at started <;> cases started
        exact ⟨rfl, id⟩
      · split at started <;> cases started
        exact ⟨rfl, id⟩
      · split at started <;> cases started
        exact ⟨rfl, id⟩
      · cases started
        exact ⟨rfl, id⟩
    | rule =>
      simp only [startRule] at started
      split at started
      · split at started
        · cases started
          exact ⟨rfl, id⟩
        · split at started
          · cases started
          · split at started <;> cases started
            exact ⟨rfl, fun suffixed => suffixed.addRule _ _ _⟩
      · cases started

theorem endElement_advances {next : Loader} (ended : endElement s h = .ok next) : s.Advances next := by
  simp only [endElement, leave] at ended
  split at ended
  · split at ended <;> cases ended
    exact ⟨rfl, id⟩
  · cases ended
    exact ⟨rfl, id⟩

theorem step_advances {event : Event} {next : Loader} (inside : event ≠ .startDocument)
    (stepped : step env s event = .ok next) : s.Advances next := by
  cases event with
  | startDocument => exact absurd rfl inside
  | startElement qName atts =>
    simp only [step] at stepped
    split at stepped
    · cases stepped
    · split at stepped
      · cases stepped
        exact ⟨rfl, id⟩
      · exact startElement_advances stepped
  | characters text =>
    cases stepped
    exact ⟨rfl, id⟩
  | endElement qName =>
    simp only [step] at stepped
    split at stepped
    · cases stepped
    · split at stepped
      · cases stepped
        exact ⟨rfl, id⟩
      · exact endElement_advances stepped
  | endDocument =>
    cases stepped
    exact ⟨rfl, id⟩

theorem run_suffixed {events : List Event} {next : Loader} (ran : run env events s = .ok next)
    (suffixed : s.tables.Suffixed) : next.tables.Suffixed := by
  induction events generalizing s with
  | nil =>
    cases ran
    exact suffixed
  | cons event events ih =>
    rw [run] at ran
    cases stepped : step env s event with
    | error stop =>
      rw [stepped] at ran
      cases ran
    | ok middle =>
      rw [stepped] at ran
      apply ih ran
      by_cases start : event = .startDocument
      · subst start
        cases stepped
        exact suffixed
      · exact (step_advances start stepped).suffixed suffixed

/-- Whatever document is loaded, the names of the commands end like this. -/
theorem parseXMLDictionary_suffixed {events : List Event} {loaded : Loader}
    (loads : parseXMLDictionary env events = .ok loaded) : loaded.tables.Suffixed := by
  unfold parseXMLDictionary at loads
  cases first : parse env .initial events with
  | error stop =>
    rw [first] at loads
    cases loads
  | ok middle =>
    rw [first] at loads
    exact run_suffixed loads (run_suffixed first (List.forall_mem_nil _))

theorem step_of_unknown {map : List Handler} {event : Event} (maps : s.Maps map) (inside : event ≠ .startDocument)
    (unknown : event.known = false) : step env s event = .ok s := by
  have other {qName : String} (none_known : Handler.all.any (·.name == qName) = false) : ∀ h ∈ map, h.name ≠ qName := by
    intro h _ same
    have found := List.any_eq_false.mp none_known h h.mem_all
    exact found (by simpa using same)
  cases event with
  | startDocument => exact absurd rfl inside
  | startElement qName atts => exact step_startElement_other maps (other unknown)
  | characters text => rfl
  | endElement qName => exact step_endElement_other maps (other unknown)
  | endDocument => rfl

theorem run_filter {map : List Handler} {events : List Event} (maps : s.Maps map)
    (inside : Event.startDocument ∉ events) : run env events s = run env (events.filter Event.known) s := by
  induction events generalizing s with
  | nil => rfl
  | cons event events ih =>
    obtain ⟨here, later⟩ := not_or.mp (fun start => inside (List.mem_cons.mpr start))
    have first : event ≠ .startDocument := fun start => here start.symm
    cases known : event.known with
    | false =>
      rw [List.filter_cons_of_neg (by simp [known]), run, step_of_unknown maps first known]
      exact ih maps later
    | true =>
      rw [List.filter_cons_of_pos known, run, run]
      cases stepped : step env s event with
      | error stop => rfl
      | ok next =>
        have kept : next.Maps map := (congrArg elementMap (step_advances first stepped).passNum).trans maps
        exact ih kept later

end Passes

section Elements

def Calm (s : Loader) : Prop := ∀ h, h ∉ s.m_callStack → s.elements h = {}

def opened (s : Loader) (h : Handler) (e : Element) (tables : Tables) : Loader :=
  ⟨s.m_passNum, Function.update s.elements h e, h :: s.m_callStack, tables⟩

variable {e : Element} {t t' : Tables} {map : List Handler}

theorem Calm.opened (calm : s.Calm) : (s.opened h e t).Calm := by
  intro other outside
  obtain ⟨apart, elsewhere⟩ := not_or.mp (List.mem_cons.not.mp outside)
  exact (Function.update_of_ne apart _ _).trans (calm other elsewhere)

@[simp] theorem opened_self : (s.opened h e t).elements h = e := Function.update_self _ _ _

theorem opened_of_ne {other : Handler} (apart : other ≠ h) : (s.opened h e t).elements other = s.elements other :=
  Function.update_of_ne apart _ _

@[simp] theorem opened_callStack : (s.opened h e t).m_callStack = h :: s.m_callStack := rfl

@[simp] theorem opened_tables : (s.opened h e t).tables = t := rfl

theorem endElement_opened (constructed : s.elements h = {}) (inProcess : e.m_inProcess = true)
    (clears : { cleared h e with m_inProcess := false, m_parent := none } = ({} : Element)) :
    endElement (s.opened h e t) h = .ok { s with tables := t } := by
  have kept : (cleared h e).m_inProcess = true := by
    cases h <;> exact inProcess
  have back : Function.update s.elements h {} = s.elements := by
    rw [← constructed, Function.update_eq_self]
  simp only [endElement, leave, set, opened_self, Function.update_self, kept, if_true, opened_callStack, clears]
  simp only [Loader.opened, Function.update_idem, back]

theorem run_element {inner : List Event} (maps : s.Maps map) (mem : h ∈ map) (constructed : s.elements h = {})
    (starts : startElement env atts s h = .ok (s.opened h e t)) (inProcess : e.m_inProcess = true)
    (clears : { cleared h e with m_inProcess := false, m_parent := none } = ({} : Element))
    (inside : run env inner (s.opened h e t) = .ok (s.opened h e t')) :
    run env (element h atts inner) s = .ok { s with tables := t' } := by
  have still : (s.opened h e t').Maps map := maps
  have ends : step env (s.opened h e t') (.endElement h.name) = .ok { s with tables := t' } :=
    (step_endElement still mem).trans (endElement_opened constructed inProcess clears)
  have start : step env s (.startElement h.name atts) = .ok (s.opened h e t) :=
    (step_startElement maps mem).trans starts
  have rest : run env (inner ++ [.endElement h.name]) (s.opened h e t) = .ok { s with tables := t' } := by
    rw [run_append_of_ok inside, run, ends]
    rfl
  rw [element, List.cons_append, run, start]
  exact rest

theorem run_element_other {inner : List Event} (maps : s.Maps map) (other : h ∉ map)
    (inside : run env inner s = .ok s) : run env (element h atts inner) s = .ok s := by
  have names : ∀ known ∈ map, known.name ≠ h.name := fun known mem same => other (Handler.name_inj same ▸ mem)
  have ends : step env s (.endElement h.name) = .ok s := step_endElement_other maps names
  have rest : run env (inner ++ [.endElement h.name]) s = .ok s := by
    rw [run_append_of_ok inside, run, ends]
    rfl
  rw [element, List.cons_append, run, step_startElement_other maps names]
  exact rest

theorem startElement_entered (calm : s.Calm) (outside : h ∉ s.m_callStack) :
    s.enter h = s.opened h { m_inProcess := true, m_parent := s.m_callStack.head? } s.tables ∧
      (s.elements h).m_inProcess = false := by
  have constructed := calm h outside
  refine ⟨?_, by rw [constructed]⟩
  cases stack : s.m_callStack with
  | nil => simp [enter, set, constructed, stack, Loader.opened]
  | cons front rest => simp [enter, set, constructed, stack, Loader.opened]

theorem run_flatMap {α β : Type} (f : α → List Event) (fill : β → Tables) (advance : β → α → β)
    (fits : β → List α → Prop)
    (each : ∀ acc x xs, fits acc (x :: xs) → run env (f x) { s with tables := fill acc } =
      .ok { s with tables := fill (advance acc x) } ∧ fits (advance acc x) xs)
    {acc : β} {xs : List α} (initially : fits acc xs) :
    run env (xs.flatMap f) { s with tables := fill acc } = .ok { s with tables := fill (xs.foldl advance acc) } := by
  induction xs generalizing acc with
  | nil => rfl
  | cons x xs ih =>
    obtain ⟨ran, later⟩ := each acc x xs initially
    rw [List.flatMap_cons, run_append_of_ok ran, List.foldl_cons]
    exact ih later

theorem run_flatMap_skipped {α : Type} {f : α → List Event} {xs : List α} (each : ∀ x ∈ xs, run env (f x) s = .ok s) :
    run env (xs.flatMap f) s = .ok s := by
  induction xs with
  | nil => rfl
  | cons x xs ih =>
    obtain ⟨here, later⟩ := List.forall_mem_cons.mp each
    rw [List.flatMap_cons, run_append_of_ok here]
    exact ih later

theorem run_extending {α β : Type} (f : α → List Event) (fill : List β → Tables) (parts : α → List β) {all : List β}
    (each : ∀ before x, before ++ parts x <+: all → run env (f x) { s with tables := fill before } =
      .ok { s with tables := fill (before ++ parts x) })
    {before : List β} {xs : List α} (place : before ++ xs.flatMap parts <+: all) :
    run env (xs.flatMap f) { s with tables := fill before } =
      .ok { s with tables := fill (before ++ xs.flatMap parts) } := by
  induction xs generalizing before with
  | nil =>
    rw [List.flatMap_nil, List.flatMap_nil, List.append_nil]
    rfl
  | cons x xs ih =>
    rw [List.flatMap_cons, ← List.append_assoc] at place
    have ran := each before x ((List.prefix_append _ _).trans place)
    rw [List.flatMap_cons, run_append_of_ok ran, List.flatMap_cons, ← List.append_assoc]
    exact ih place

end Elements

end Loader

end OpenDiameter.Parser.DictionaryLoader
