import Mathlib.Data.List.Perm.Basic
import Mathlib.Tactic.Linarith
import OpenDiameter.Foundation.Cursor
import OpenDiameter.Foundation.Runs

/-! The applications of a route, in a map of maps: vendor id first, then application id.

Every `Add` is of a new application. They are told apart by their addresses, which count
the applications made so far.
-/

set_option autoImplicit false

namespace OpenDiameter.Router

open Foundation

structure RouteApp where
  address : Nat
  applicationId : Int
  vendorId : Int
  deriving DecidableEq, Repr

/-- `DiameterRouteAppIdMap`. -/
abbrev RouteAppIdMap : Type := Std.TreeMap Int RouteApp

/-- `DiameterRouteVendorIdMap`. -/
abbrev RouteVendorIdMap : Type := Std.TreeMap Int RouteAppIdMap

namespace RouteApplications

section Operations

variable (identifiers : RouteVendorIdMap)

/-- `DiameterRouteEntry::Remove`, which also gives up the map of a vendor once it is empty. -/
def remove (appId vendorId : Int) : RouteVendorIdMap × Int :=
  match identifiers[vendorId]? with
  | none => (identifiers, -1)
  | some id =>
    match id[appId]? with
    | none => (identifiers, -1)
    | some _ =>
      if (id.erase appId).isEmpty then (identifiers.erase vendorId, 0)
      else (identifiers.insert vendorId (id.erase appId), 0)

/-- `DiameterRouteEntry::Add`. `Remove` is called with its arguments the other way round. -/
def add (a : RouteApp) : RouteVendorIdMap :=
  let rest := (remove identifiers a.vendorId a.applicationId).1
  let idMap := rest[a.vendorId]?.getD ∅
  rest.insert a.vendorId (idMap.insertIfNew a.applicationId a)

/-- `DiameterRouteEntry::Lookup`. -/
def lookup (appId vendorId : Int) : Option RouteApp := identifiers[vendorId]?.bind fun id => id[appId]?

/-- `DiameterRouteEntry::First`. -/
def first : Option RouteApp := identifiers.toList.head?.bind fun x => x.2.toList.head?.map Prod.snd

/-- The loop of `Next` from one vendor on: an iterator into the applications of each
vendor is moved on before it is looked at. -/
def nextFrom (app : RouteApp) : Bool → List (Int × RouteAppIdMap) → Outcome Unit (Option RouteApp)
  | _, [] => .returned none
  | lookup, (_, id) :: vendors =>
    match if lookup then id.toList.dropWhile (fun y => y.1 != app.applicationId) else id.toList with
    -- the iterator is at the end already
    | [] => .fault
    | [_] => nextFrom app false vendors
    | _ :: y :: _ => .returned (some y.2)

/-- `DiameterRouteEntry::Next`. -/
def next (app : RouteApp) : Outcome Unit (Option RouteApp) :=
  nextFrom app true (identifiers.toList.dropWhile fun x => x.1 != app.vendorId)

end Operations

inductive Call where
  | add (appId vendorId : Int)
  | remove (appId vendorId : Int)
  deriving DecidableEq, Repr

/-- The maps, how many applications have been made, and which of them was last added
for a pair and not removed since. -/
structure State where
  identifiers : RouteVendorIdMap
  made : Nat
  latest : Int → Int → Option Nat

def start : State := ⟨∅, 0, fun _ _ => none⟩

def changed (latest : Int → Int → Option Nat) (appId vendorId : Int) (value : Option Nat) (a v : Int) : Option Nat :=
  if a = appId ∧ v = vendorId then value else latest a v

def call (s : State) : Call → State
  | .add appId vendorId =>
    ⟨add s.identifiers ⟨s.made, appId, vendorId⟩, s.made + 1, changed s.latest appId vendorId (some s.made)⟩
  | .remove appId vendorId =>
    ⟨(remove s.identifiers appId vendorId).1, s.made, changed s.latest appId vendorId none⟩

/-- The loop over `First` and `Next` visits each stored application once. -/
def Iterates (identifiers : RouteVendorIdMap) : Prop :=
  ∃ apps, Visits (next identifiers) (first identifiers) apps ∧ apps.Nodup ∧
    ∀ app, app ∈ apps ↔ lookup identifiers app.applicationId app.vendorId = some app

/-- The maps act as one map from pairs of ids, over which `First` and `Next` iterate. -/
structure FiniteMap (s : State) : Prop where
  lookups : ∀ appId vendorId, (lookup s.identifiers appId vendorId).map RouteApp.address = s.latest appId vendorId
  iterates : Iterates s.identifiers

/-- No call is asked to replace an application, unless its two ids are the same, to
meet the application whose ids are the other way round, or to serve a second vendor. -/
def Admitted (s : State) : Call → Prop
  | .add appId vendorId =>
    (appId = vendorId ∨ s.latest appId vendorId = none ∧ s.latest vendorId appId = none) ∧
      ∀ a v, s.latest a v ≠ none → v = vendorId
  | .remove _ _ => True

section Lookup

variable {β : Type} (map : Std.TreeMap Int β) (k a : Int) (value : β)

theorem getElem?_erased : (map.erase k)[a]? = if a = k then none else map[a]? := by
  rw [Std.TreeMap.getElem?_erase]
  simp only [compare_eq_iff_eq, @eq_comm Int k a]

theorem getElem?_inserted : (map.insert k value)[a]? = if a = k then some value else map[a]? := by
  rw [Std.TreeMap.getElem?_insert]
  simp only [compare_eq_iff_eq, @eq_comm Int k a]

theorem getElem?_insertedIfNew :
    (map.insertIfNew k value)[a]? = if a = k then map[a]?.or (some value) else map[a]? := by
  rw [Std.TreeMap.getElem?_insertIfNew]
  by_cases same : a = k
  · subst same
    by_cases present : a ∈ map
    · simp [present]
    · simp [present]
  · have differ : ¬ k = a := fun other => same other.symm
    simp [same, differ]

end Lookup

structure Shaped (identifiers : RouteVendorIdMap) : Prop where
  filled : ∀ (v : Int) (id : RouteAppIdMap), identifiers[v]? = some id → id.isEmpty = false
  keyed : ∀ a v app, lookup identifiers a v = some app → app.applicationId = a ∧ app.vendorId = v

section Calls

variable {identifiers : RouteVendorIdMap} {appId vendorId a v : Int} {app : RouteApp}

theorem lookup_remove :
    lookup (remove identifiers appId vendorId).1 a v =
      if a = appId ∧ v = vendorId then none else lookup identifiers a v := by
  have absent (none' : lookup identifiers appId vendorId = none) :
      lookup identifiers a v = if a = appId ∧ v = vendorId then none else lookup identifiers a v := by
    split
    · rename_i pair
      obtain ⟨rfl, rfl⟩ := pair
      exact none'
    · rfl
  unfold remove
  cases vendor : identifiers[vendorId]? with
  | none =>
    apply absent
    rw [lookup, vendor]
    rfl
  | some id =>
    dsimp only
    cases stored : id[appId]? with
    | none =>
      apply absent
      rw [lookup, vendor]
      exact stored
    | some own =>
      dsimp only
      have others := getElem?_erased id appId a
      by_cases same : v = vendorId
      · subst same
        split
        case isTrue emptied =>
          have gone : (id.erase appId)[a]? = none :=
            Std.TreeMap.getElem?_eq_none (Std.TreeMap.isEmpty_iff_forall_not_mem.mp emptied a)
          rw [others] at gone
          simp [lookup, vendor, gone]
        case isFalse => simp [lookup, vendor, others]
      · split
        case isTrue => simp [lookup, getElem?_erased, same]
        case isFalse => simp [lookup, getElem?_inserted, same]

theorem lookup_add :
    lookup (add identifiers app) a v =
      if a = app.applicationId ∧ v = app.vendorId then
        (lookup (remove identifiers app.vendorId app.applicationId).1 a v).or (some app)
      else lookup (remove identifiers app.vendorId app.applicationId).1 a v := by
  unfold add
  generalize (remove identifiers app.vendorId app.applicationId).1 = rest
  by_cases vendor : v = app.vendorId
  · subst vendor
    have inner : (rest[app.vendorId]?.getD ∅)[a]? = lookup rest a app.vendorId := by
      unfold lookup
      cases rest[app.vendorId]? <;> simp
    simp only [and_true, ← inner]
    simp only [lookup, getElem?_inserted, ↓reduceIte, Option.bind_some, getElem?_insertedIfNew]
  · simp [lookup, getElem?_inserted, vendor]

theorem Shaped.remove (shaped : Shaped identifiers) : Shaped (remove identifiers appId vendorId).1 where
  filled := by
    intro w id' present
    unfold RouteApplications.remove at present
    split at present
    · exact shaped.filled w id' present
    · split at present
      · exact shaped.filled w id' present
      · split at present
        · rw [getElem?_erased] at present
          split at present
          · cases present
          · exact shaped.filled w id' present
        case isFalse left =>
          rw [getElem?_inserted] at present
          split at present
          · cases present
            exact Bool.eq_false_iff.mpr left
          · exact shaped.filled w id' present
  keyed := by
    intro b w own present
    rw [lookup_remove] at present
    split at present
    · cases present
    · exact shaped.keyed b w own present

theorem Shaped.add (shaped : Shaped identifiers) : Shaped (add identifiers app) where
  filled := by
    intro w id' present
    unfold RouteApplications.add at present
    rw [getElem?_inserted] at present
    split at present
    · cases present
      exact Std.TreeMap.isEmpty_insertIfNew
    · exact shaped.remove.filled w id' present
  keyed := by
    intro b w own present
    rw [lookup_add] at present
    split at present
    case isTrue pair =>
      rcases Option.or_eq_some_iff.mp present with before | ⟨-, made⟩
      · exact shaped.remove.keyed b w own before
      · cases made
        exact ⟨pair.1.symm, pair.2.symm⟩
    · exact shaped.remove.keyed b w own present

end Calls

def OneVendor (identifiers : RouteVendorIdMap) : Prop :=
  ∀ a v b w, lookup identifiers a v ≠ none → lookup identifiers b w ≠ none → v = w

section Iteration

variable {identifiers : RouteVendorIdMap} {app : RouteApp}

theorem dropWhile_find {β : Type} {map : Std.TreeMap Int β} {before after : List (Int × β)} {k : Int} {x : β}
    (parts : map.toList = before ++ (k, x) :: after) : map.toList.dropWhile (fun y => y.1 != k) = (k, x) :: after := by
  have ascending := @Std.TreeMap.ordered_keys_toList _ _ _ map _
  rw [parts] at ascending ⊢
  have skipped : ∀ y ∈ before, (y.1 != k) = true := by
    intro y member
    have less := (List.pairwise_append.mp ascending).2.2 y member (k, x) List.mem_cons_self
    rw [bne_iff_ne]
    rintro rfl
    simp at less
  rw [List.dropWhile_append_of_pos skipped, List.dropWhile_cons_of_neg (by simp)]

theorem mem_entries_iff {a v : Int} : lookup identifiers a v = some app ↔
    ∃ id, (v, id) ∈ identifiers.toList ∧ (a, app) ∈ id.toList := by
  rw [lookup, Option.bind_eq_some_iff]
  simp only [Std.TreeMap.mem_toList_iff_getElem?_eq_some]

/-- A step leads past the first application of some vendor. -/
theorem nextFrom_tail {find : Bool} {vendors : List (Int × RouteAppIdMap)} {y : RouteApp}
    (reached : nextFrom app find vendors = .returned (some y)) :
    ∃ x ∈ vendors, y ∈ x.2.toList.tail.map Prod.snd := by
  induction vendors generalizing find with
  | nil => cases reached
  | cons x vendors ih =>
    obtain ⟨v, id⟩ := x
    unfold nextFrom at reached
    split at reached
    · cases reached
    · obtain ⟨x, inside, later⟩ := ih reached
      exact ⟨x, List.mem_cons_of_mem _ inside, later⟩
    case h_3 z y' rest suffix =>
      cases reached
      refine ⟨(v, id), List.mem_cons_self, List.mem_map_of_mem ?_⟩
      have short : z :: y' :: rest <:+ id.toList := by
        rw [← suffix]
        split
        · exact List.dropWhile_suffix _
        · exact List.suffix_refl _
      obtain ⟨front, same⟩ := short
      rw [← same]
      cases front <;> simp

theorem stored_of_mem (shaped : Shaped identifiers) {x : Int × RouteAppIdMap} (inside : x ∈ identifiers.toList) :
    ∃ app tail, x.2.toList = (app.applicationId, app) :: tail ∧ app.vendorId = x.1 ∧
      lookup identifiers app.applicationId x.1 = some app := by
  have filled := shaped.filled x.1 x.2 (Std.TreeMap.mem_toList_iff_getElem?_eq_some.mp inside)
  rw [← Std.TreeMap.isEmpty_toList] at filled
  cases own : x.2.toList with
  | nil =>
    rw [own] at filled
    cases filled
  | cons entry tail =>
    obtain ⟨k, app⟩ := entry
    have stored : lookup identifiers k x.1 = some app := mem_entries_iff.mpr ⟨x.2, inside, own ▸ List.mem_cons_self⟩
    obtain ⟨rfl, vendor⟩ := shaped.keyed _ _ _ stored
    exact ⟨app, tail, rfl, vendor, stored⟩

theorem lt_of_toList {β : Type} {map : Std.TreeMap Int β} {x y : Int × β} {more : List (Int × β)}
    (parts : map.toList = x :: more) (later : y ∈ more) : x.1 < y.1 := by
  have ascending := @Std.TreeMap.ordered_keys_toList _ _ _ map _
  rw [parts] at ascending
  exact compare_lt_iff_lt.mp (List.rel_of_pairwise_cons ascending later)

theorem not_visited {x₀ x₁ : Int × RouteAppIdMap} {more : List (Int × RouteAppIdMap)} {apps : List RouteApp}
    (shaped : Shaped identifiers) (parts : identifiers.toList = x₀ :: x₁ :: more)
    (visits : Visits (next identifiers) (first identifiers) apps) :
    ∃ app ∉ apps, lookup identifiers app.applicationId app.vendorId = some app := by
  have inside : x₁ ∈ identifiers.toList := parts ▸ List.mem_cons_of_mem _ List.mem_cons_self
  have earlier : x₀ ∈ identifiers.toList := parts ▸ List.mem_cons_self
  obtain ⟨app, tail, own, vendor, stored⟩ := stored_of_mem shaped inside
  refine ⟨app, ?_, vendor.symm ▸ stored⟩
  intro visited
  rcases visits.mem_cases visited with start | ⟨from', -, reached⟩
  · -- the application that `First` returns is the first vendor's
    rw [first, parts, List.head?_cons, Option.bind_some, Option.map_eq_some_iff] at start
    obtain ⟨⟨k, own'⟩, front, rfl⟩ := start
    have alike := shaped.keyed k x₀.1 own' (mem_entries_iff.mpr ⟨x₀.2, earlier, List.mem_of_head? front⟩)
    have less := lt_of_toList parts List.mem_cons_self
    rw [← alike.2, ← vendor] at less
    exact Int.lt_irrefl _ less
  · -- `Next` goes past the first application of a vendor
    obtain ⟨x, member, later⟩ := nextFrom_tail reached
    obtain ⟨⟨k, app'⟩, there, rfl⟩ := List.mem_map.mp later
    have known : x ∈ identifiers.toList := (List.dropWhile_sublist _).subset member
    have again := mem_entries_iff.mpr ⟨x.2, known, List.mem_of_mem_tail there⟩
    obtain ⟨rfl, same⟩ := shaped.keyed k x.1 app' again
    have maps : x.2 = x₁.2 := by
      have here := Std.TreeMap.mem_toList_iff_getElem?_eq_some.mp known
      rw [← same, vendor] at here
      exact Option.some.inj (here.symm.trans (Std.TreeMap.mem_toList_iff_getElem?_eq_some.mp inside))
    rw [maps, own, List.tail_cons] at there
    exact Int.lt_irrefl _ (lt_of_toList own there)

theorem next_within {id : RouteAppIdMap} {before after : List (Int × RouteApp)}
    (parts : identifiers.toList = [(app.vendorId, id)])
    (entries : id.toList = before ++ (app.applicationId, app) :: after) :
    next identifiers app = .returned (after.map Prod.snd).head? := by
  have vendor : identifiers.toList = [] ++ (app.vendorId, id) :: [] := parts
  rw [next, dropWhile_find vendor, nextFrom]
  simp only [↓reduceIte, dropWhile_find entries]
  cases after with
  | nil => rfl
  | cons y after => rfl

theorem iterates_iff (shaped : Shaped identifiers) : Iterates identifiers ↔ OneVendor identifiers := by
  constructor
  · rintro ⟨apps, visits, -, each⟩ a v b w stored stored'
    cases parts : identifiers.toList with
    | nil =>
      obtain ⟨app, present⟩ := Option.ne_none_iff_exists'.mp stored
      obtain ⟨id, member, -⟩ := mem_entries_iff.mp present
      rw [parts] at member
      cases member
    | cons x₀ more =>
      cases more with
      | nil =>
        obtain ⟨app, present⟩ := Option.ne_none_iff_exists'.mp stored
        obtain ⟨id, member, -⟩ := mem_entries_iff.mp present
        obtain ⟨app', present'⟩ := Option.ne_none_iff_exists'.mp stored'
        obtain ⟨id', member', -⟩ := mem_entries_iff.mp present'
        rw [parts] at member member'
        cases List.mem_singleton.mp member
        cases List.mem_singleton.mp member'
        rfl
      | cons x₁ more =>
        -- The iterator never gets to the second vendor.
        obtain ⟨app, missed, present⟩ := not_visited shaped parts visits
        exact absurd ((each app).mpr present) missed
  · intro one
    cases parts : identifiers.toList with
    | nil =>
      refine ⟨[], ?_, List.nodup_nil, ?_⟩
      · rw [first, parts]
        exact .done
      · intro app
        refine iff_of_false List.not_mem_nil ?_
        intro present
        obtain ⟨id, member, -⟩ := mem_entries_iff.mp present
        rw [parts] at member
        cases member
    | cons x more =>
      have inside : x ∈ identifiers.toList := parts ▸ List.mem_cons_self
      cases more with
      | nil =>
        obtain ⟨v, id⟩ := x
        -- With one vendor the entries are the pairs of its inner map.
        have keys : ∀ k app, (k, app) ∈ id.toList → app.applicationId = k ∧ app.vendorId = v := by
          intro k app member
          exact shaped.keyed k v app (mem_entries_iff.mpr ⟨id, inside, member⟩)
        refine ⟨id.toList.map Prod.snd, ?_, ?_, ?_⟩
        · have start : first identifiers = (id.toList.map Prod.snd).head? := by
            rw [first, parts, List.head?_map]
            rfl
          rw [start]
          apply Visits.of_list
          intro before app after split'
          obtain ⟨before, rest, entries, rfl, tail⟩ := List.map_eq_append_iff.mp split'
          obtain ⟨⟨k, own⟩, after, rfl, same, rfl⟩ := List.map_eq_cons_iff.mp tail
          obtain rfl : own = app := same
          obtain ⟨rfl, rfl⟩ := keys k own (entries ▸ List.mem_append_right _ List.mem_cons_self)
          exact next_within parts entries
        · refine List.pairwise_map.mpr (List.Pairwise.imp_of_mem ?_ Std.TreeMap.distinct_keys_toList)
          rintro ⟨k, app⟩ ⟨k', app'⟩ member member' differ rfl
          obtain ⟨rfl, -⟩ := keys k app member
          obtain ⟨rfl, -⟩ := keys k' app member'
          exact differ Std.ReflCmp.compare_self
        · intro app
          rw [mem_entries_iff]
          constructor
          · intro member
            obtain ⟨⟨k, own⟩, there, rfl⟩ := List.mem_map.mp member
            obtain ⟨rfl, rfl⟩ := keys k own there
            exact ⟨id, inside, there⟩
          · rintro ⟨id', member, there⟩
            rw [parts] at member
            cases List.mem_singleton.mp member
            exact List.mem_map.mpr ⟨_, there, rfl⟩
      | cons x' more =>
        -- Two vendors with an application each contradict the condition.
        obtain ⟨app, -, -, -, stored⟩ := stored_of_mem shaped inside
        obtain ⟨app', -, -, -, stored'⟩ :=
          stored_of_mem shaped (parts ▸ List.mem_cons_of_mem x List.mem_cons_self : x' ∈ identifiers.toList)
        have same := one _ _ _ _ (Option.ne_none_iff_exists'.mpr ⟨app, stored⟩)
          (Option.ne_none_iff_exists'.mpr ⟨app', stored'⟩)
        have less := lt_of_toList parts List.mem_cons_self
        omega

end Iteration

section Main

/-- What every run keeps, whatever it is asked. -/
structure Kept (s : State) : Prop where
  shaped : Shaped s.identifiers
  older : ∀ a v app, lookup s.identifiers a v = some app → app.address < s.made

theorem kept_start : Kept start := by
  have none' (a v : Int) : lookup start.identifiers a v = none := rfl
  refine ⟨⟨?_, ?_⟩, ?_⟩
  · intro v id present
    cases present
  · intro a v app present
    rw [none'] at present
    cases present
  · intro a v app present
    rw [none'] at present
    cases present

variable {s : State}

theorem Kept.call (kept : Kept s) (c : Call) : Kept (call s c) := by
  cases c with
  | remove appId vendorId =>
    refine ⟨kept.shaped.remove, ?_⟩
    intro a v app present
    change lookup (remove s.identifiers appId vendorId).1 a v = some app at present
    rw [lookup_remove] at present
    split at present
    · cases present
    · exact kept.older a v app present
  | add appId vendorId =>
    have before : ∀ a v app, lookup (remove s.identifiers vendorId appId).1 a v = some app → app.address < s.made := by
      intro a v app present
      rw [lookup_remove] at present
      split at present
      · cases present
      · exact kept.older a v app present
    refine ⟨kept.shaped.add, ?_⟩
    intro a v app present
    change lookup (add s.identifiers ⟨s.made, appId, vendorId⟩) a v = some app at present
    rw [lookup_add] at present
    apply Nat.lt_succ_iff.mpr
    split at present
    · rcases Option.or_eq_some_iff.mp present with old | ⟨-, new⟩
      · exact Nat.le_of_lt (before a v app old)
      · cases new
        exact Nat.le_refl _
    · exact Nat.le_of_lt (before a v app present)

def Latest (s : State) : Prop := ∀ a v, (lookup s.identifiers a v).map RouteApp.address = s.latest a v

/-- Whether a pair is stored, by the address that is found. -/
theorem Latest.stored_iff (latest : Latest s) (a v : Int) :
    lookup s.identifiers a v ≠ none ↔ s.latest a v ≠ none := by
  rw [← latest a v, ne_eq, ne_eq, Option.map_eq_none_iff]

theorem finiteMap_remove (kept : Kept s) (map : FiniteMap s) (appId vendorId : Int) :
    FiniteMap (call s (.remove appId vendorId)) where
  lookups := by
    intro a v
    change (lookup (remove s.identifiers appId vendorId).1 a v).map RouteApp.address =
      changed s.latest appId vendorId none a v
    rw [lookup_remove, changed]
    split
    · rfl
    · exact map.lookups a v
  iterates := by
    change Iterates (remove s.identifiers appId vendorId).1
    rw [iterates_iff kept.shaped.remove]
    intro a v b w stored stored'
    rw [lookup_remove] at stored stored'
    have one := (iterates_iff kept.shaped).mp map.iterates
    apply one a v b w
    · intro absent
      exact stored (by rw [absent, ite_self])
    · intro absent
      exact stored' (by rw [absent, ite_self])

variable {appId vendorId : Int}

theorem latest_add_iff (kept : Kept s) (latest : Latest s) :
    Latest (call s (.add appId vendorId)) ↔
      appId = vendorId ∨ s.latest appId vendorId = none ∧ s.latest vendorId appId = none := by
  have found (a v : Int) : lookup (call s (.add appId vendorId)).identifiers a v =
      if a = appId ∧ v = vendorId then
        (if a = vendorId ∧ v = appId then none else lookup s.identifiers a v).or (some ⟨s.made, appId, vendorId⟩)
      else if a = vendorId ∧ v = appId then none else lookup s.identifiers a v := by
    change lookup (add s.identifiers ⟨s.made, appId, vendorId⟩) a v = _
    rw [lookup_add, lookup_remove]
  have ghost (a v : Int) : (call s (.add appId vendorId)).latest a v =
      if a = appId ∧ v = vendorId then some s.made else s.latest a v := rfl
  constructor
  · intro each
    by_cases same : appId = vendorId
    · exact .inl same
    · have crossed : ¬ (vendorId = appId ∧ appId = vendorId) := fun pair => same pair.2
      have straight : ¬ (appId = vendorId ∧ vendorId = appId) := fun pair => same pair.1
      have own : appId = appId ∧ vendorId = vendorId := ⟨rfl, rfl⟩
      have swapped : vendorId = vendorId ∧ appId = appId := ⟨rfl, rfl⟩
      refine .inr ⟨?_, ?_⟩
      · -- the insertion does not overwrite an older application
        have here := each appId vendorId
        rw [found, ghost, if_pos own, if_pos own, if_neg straight] at here
        cases old : lookup s.identifiers appId vendorId with
        | none => rw [← latest appId vendorId, old, Option.map_none]
        | some own =>
          rw [old] at here
          have older := kept.older _ _ _ old
          have made : own.address = s.made := Option.some.inj here
          omega
      · -- the pair the other way round has been removed
        have here := each vendorId appId
        rw [found, ghost, if_neg crossed, if_neg crossed, if_pos swapped] at here
        exact here.symm
  · intro free a v
    rw [found, ghost]
    by_cases pair : a = appId ∧ v = vendorId
    · rw [if_pos pair, if_pos pair]
      obtain ⟨rfl, rfl⟩ := pair
      have unused : (if a = v ∧ v = a then none else lookup s.identifiers a v) = none := by
        split
        · rfl
        case isFalse differ =>
          rcases free with same | ⟨absent, -⟩
          · exact absurd ⟨same, same.symm⟩ differ
          · rwa [← latest a v, Option.map_eq_none_iff] at absent
      rw [unused]
      rfl
    · rw [if_neg pair, if_neg pair]
      split
      case isTrue crossed =>
        obtain ⟨rfl, rfl⟩ := crossed
        rcases free with same | ⟨-, absent⟩
        · exact absurd ⟨same.symm, same⟩ pair
        · exact absent.symm
      case isFalse => exact latest a v

theorem finiteMap_add_iff (kept : Kept s) (map : FiniteMap s) :
    FiniteMap (call s (.add appId vendorId)) ↔ Admitted s (.add appId vendorId) := by
  have ghost (a v : Int) : (call s (.add appId vendorId)).latest a v =
      if a = appId ∧ v = vendorId then some s.made else s.latest a v := rfl
  have vendors (latest : Latest (call s (.add appId vendorId))) :
      OneVendor (call s (.add appId vendorId)).identifiers ↔ ∀ a v, s.latest a v ≠ none → v = vendorId := by
    unfold OneVendor
    simp only [latest.stored_iff, ghost]
    constructor
    · intro one a v stored
      by_cases pair : a = appId ∧ v = vendorId
      · exact pair.2
      · exact one a v appId vendorId (by rwa [if_neg pair]) (by simp)
    · intro own a v b w stored stored'
      have each (a v : Int) (stored : (if a = appId ∧ v = vendorId then some s.made else s.latest a v) ≠ none) :
          v = vendorId := by
        split at stored
        case isTrue pair => exact pair.2
        case isFalse => exact own a v stored
      rw [each a v stored, each b w stored']
  constructor
  · intro after
    refine ⟨(latest_add_iff kept map.lookups).mp after.lookups, ?_⟩
    exact (vendors after.lookups).mp ((iterates_iff (kept.call _).shaped).mp after.iterates)
  · rintro ⟨free, own⟩
    have latest := (latest_add_iff kept map.lookups).mpr free
    exact ⟨latest, (iterates_iff (kept.call _).shaped).mpr ((vendors latest).mpr own)⟩

/-- The maps are a finite map after every call exactly if every call is admitted. -/
theorem finite_map_iff (calls : List Call) :
    (∀ before, before <+: calls → FiniteMap (before.foldl call start)) ↔ Stepwise call Admitted start calls := by
  have initially : FiniteMap start := by
    refine ⟨fun a v => rfl, (iterates_iff kept_start.shaped).mpr ?_⟩
    intro a v b w stored
    exact absurd rfl stored
  have agree (s : State) (c : Call) (good : Kept s ∧ FiniteMap s) : FiniteMap (call s c) ↔ Admitted s c := by
    cases c with
    | add appId vendorId => exact finiteMap_add_iff good.1 good.2
    | remove appId vendorId => exact iff_of_true (finiteMap_remove good.1 good.2 appId vendorId) trivial
  rw [forall_prefix_iff, and_iff_right initially]
  have keeps (s : State) (c : Call) (good : Kept s ∧ FiniteMap s) (_ : True) (admitted : Admitted s c) :
      Kept (call s c) ∧ FiniteMap (call s c) :=
    ⟨good.1.call c, (agree s c good).mpr admitted⟩
  exact stepwise_iff (fun s c good _ => agree s c good) keeps ⟨kept_start, initially⟩ (fun _ _ => trivial)

/-- The second application for a pair is lost, an application whose ids are the other
way round takes another one's place, and the first one of a second vendor is not visited. -/
theorem second_application_lost :
    ¬ FiniteMap ([Call.add 1 2, .add 1 2].foldl call start) ∧
      ¬ FiniteMap ([Call.add 1 2, .add 2 1].foldl call start) ∧
      ¬ FiniteMap ([Call.add 1 0, .add 1 5].foldl call start) := by
  refine ⟨?_, ?_, ?_⟩
  · intro map
    have here := map.lookups 1 2
    revert here
    decide
  · intro map
    have here := map.lookups 1 2
    revert here
    decide
  · intro map
    have kept := (kept_start.call (.add 1 0)).call (.add 1 5)
    have one := (iterates_iff kept.shaped).mp map.iterates 1 0 1 5 (by decide) (by decide)
    revert one
    decide

end Main

end RouteApplications

end OpenDiameter.Router
