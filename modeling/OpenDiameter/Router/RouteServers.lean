import OpenDiameter.Foundation.Cursor
import OpenDiameter.Foundation.Octets
import Mathlib.Data.List.Induction
import Mathlib.Data.List.Sort

/-! The servers of a route application, ordered by metric.

Every `Add` is of a new entry. Entries are told apart by their addresses, which count
the entries made so far.
-/

set_option autoImplicit false

namespace OpenDiameter.Router

open Foundation

structure RouteServerEntry where
  address : Nat
  server : Octets
  metric : Int
  deriving DecidableEq, Repr

abbrev RouteServerEntry.Precedes (e f : RouteServerEntry) : Prop := e.metric ≤ f.metric

instance : Std.Total RouteServerEntry.Precedes where
  total e f := Int.le_total e.metric f.metric

instance : IsTrans RouteServerEntry RouteServerEntry.Precedes where
  trans _ _ _ := Int.le_trans

/-- `DiameterRouteServers`. -/
abbrev RouteServers : Type := List RouteServerEntry

namespace RouteServers

section Operations

/-- `DiameterRouteServers::Remove`, which returns 1 where it found the server. -/
def remove (servers : RouteServers) (server : Octets) : RouteServers × Int :=
  (servers.eraseP fun e => server == e.server, if servers.any fun e => server == e.server then 1 else 0)

/-- `DiameterRouteServers::Add`: in front of the first entry whose metric is not smaller,
else at the end. -/
def add (servers : RouteServers) (e : RouteServerEntry) : RouteServers :=
  (remove servers e.server).1.orderedInsert RouteServerEntry.Precedes e

/-- `DiameterRouteServers::Lookup`. -/
def lookup (servers : RouteServers) (server : Octets) : Option RouteServerEntry :=
  servers.find? fun e => server == e.server

/-- `DiameterRouteServers::First`: `front()`, which an empty list does not have. -/
def first : RouteServers → Outcome Unit (Option RouteServerEntry)
  | [] => .fault
  | e :: _ => .returned (some e)

/-- `DiameterRouteServers::Next`. -/
def next (prev : RouteServerEntry) : RouteServers → Option RouteServerEntry
  | [] => none
  | i :: rest => if prev.address = i.address then rest.head? else next prev rest

def step (servers : RouteServers) (prev : RouteServerEntry) : Outcome Unit (Option RouteServerEntry) :=
  .returned (next prev servers)

end Operations

inductive Call where
  | add (server : Octets) (metric : Int)
  | remove (server : Octets)
  deriving DecidableEq, Repr

/-- The list, and how many entries have been made. -/
structure State where
  servers : RouteServers
  made : Nat

def call (s : State) : Call → State
  | .add server metric => ⟨s.servers.add ⟨s.made, server, metric⟩, s.made + 1⟩
  | .remove server => ⟨(s.servers.remove server).1, s.made⟩

def after (calls : List Call) : State := calls.foldl call ⟨[], 0⟩

def Added (calls : List Call) (server : Octets) (metric : Int) : Prop :=
  ∃ before later, calls = before ++ .add server metric :: later ∧ .remove server ∉ later ∧
    ∀ other, .add server other ∉ later

def Live (calls : List Call) (server : Octets) : Prop :=
  ∃ before later metric, calls = before ++ .add server metric :: later ∧ .remove server ∉ later

/-- A set of servers ordered by metric, over which `First` and `Next` iterate. -/
structure MetricOrdered (calls : List Call) (servers : RouteServers) : Prop where
  sorted : servers.Pairwise RouteServerEntry.Precedes
  names : (servers.map RouteServerEntry.server).Nodup
  found : ∀ server, (∃ e, lookup servers server = some e) ↔ Live calls server
  latest : ∀ server e, lookup servers server = some e → e.server = server ∧ Added calls server e.metric
  iterates : ∃ p, first servers = .returned p ∧ Visits (step servers) p servers

section History

variable {calls : List Call} {server name : Octets} {metric m : Int}

theorem concat_split_iff {α : Type} {xs before later : List α} {x y : α} :
    xs ++ [y] = before ++ x :: later ↔
      later = [] ∧ xs = before ∧ y = x ∨ ∃ rest, later = rest ++ [y] ∧ xs = before ++ x :: rest := by
  induction later using List.reverseRecOn with
  | nil => simp
  | append_singleton rest z =>
    rw [← List.cons_append, ← List.append_assoc, List.append_singleton_inj]
    constructor
    · rintro ⟨rfl, rfl⟩
      exact .inr ⟨rest, rfl, rfl⟩
    · rintro (⟨none, -, -⟩ | ⟨rest', same, rfl⟩)
      · simp at none
      · obtain ⟨rfl, rfl⟩ := List.append_singleton_inj.mp same
        exact ⟨rfl, rfl⟩

theorem added_concat_add :
    Added (calls ++ [.add name m]) server metric ↔
      server = name ∧ metric = m ∨ server ≠ name ∧ Added calls server metric := by
  simp only [Added, concat_split_iff]
  constructor
  · rintro ⟨before, later, ⟨rfl, rfl, same⟩ | ⟨rest, rfl, rfl⟩, kept, last⟩
    · cases same
      exact .inl ⟨rfl, rfl⟩
    · refine .inr ⟨?_, before, rest, rfl, fun member => kept (List.mem_append_left _ member),
        fun other member => last other (List.mem_append_left _ member)⟩
      rintro rfl
      exact last m (List.mem_append_right _ (List.mem_singleton_self _))
  · rintro (⟨rfl, rfl⟩ | ⟨differ, before, rest, rfl, kept, last⟩)
    · exact ⟨calls, [], .inl ⟨rfl, rfl, rfl⟩, List.not_mem_nil, fun _ => List.not_mem_nil⟩
    · refine ⟨before, rest ++ [.add name m], .inr ⟨rest, rfl, rfl⟩, ?_, ?_⟩
      · simpa using kept
      · intro other
        simpa [differ] using last other

theorem added_concat_remove :
    Added (calls ++ [.remove name]) server metric ↔ server ≠ name ∧ Added calls server metric := by
  simp only [Added, concat_split_iff]
  constructor
  · rintro ⟨before, later, ⟨-, -, same⟩ | ⟨rest, rfl, rfl⟩, kept, last⟩
    · cases same
    · refine ⟨?_, before, rest, rfl, fun member => kept (List.mem_append_left _ member),
        fun other member => last other (List.mem_append_left _ member)⟩
      rintro rfl
      exact kept (List.mem_append_right _ (List.mem_singleton_self _))
  · rintro ⟨differ, before, rest, rfl, kept, last⟩
    refine ⟨before, rest ++ [.remove name], .inr ⟨rest, rfl, rfl⟩, ?_, ?_⟩
    · simpa [differ] using kept
    · intro other
      simpa using last other

theorem live_iff : Live calls server ↔ ∃ metric, Added calls server metric := by
  constructor
  · rintro ⟨before, later, metric, rfl, kept⟩
    induction later using List.reverseRecOn with
    | nil => exact ⟨metric, before, [], rfl, kept, fun _ => List.not_mem_nil⟩
    | append_singleton later c ih =>
      obtain ⟨earlier, added⟩ := ih fun member => kept (List.mem_append_left _ member)
      rw [← List.cons_append, ← List.append_assoc]
      cases c with
      | add name m =>
        by_cases same : server = name
        · exact ⟨m, added_concat_add.mpr (.inl ⟨same, rfl⟩)⟩
        · exact ⟨earlier, added_concat_add.mpr (.inr ⟨same, added⟩)⟩
      | remove name =>
        refine ⟨earlier, added_concat_remove.mpr ⟨?_, added⟩⟩
        rintro rfl
        exact kept (List.mem_append_right _ (List.mem_singleton_self _))
  · rintro ⟨metric, before, later, parts, kept, -⟩
    exact ⟨before, later, metric, parts, kept⟩

end History

section Invariant

structure Kept (calls : List Call) (s : State) : Prop where
  sorted : s.servers.Pairwise RouteServerEntry.Precedes
  names : (s.servers.map RouteServerEntry.server).Nodup
  addresses : (s.servers.map RouteServerEntry.address).Nodup
  bound : ∀ e ∈ s.servers, e.address < s.made
  holds : ∀ server metric, (∃ e ∈ s.servers, e.server = server ∧ e.metric = metric) ↔ Added calls server metric

variable {servers : RouteServers} {server : Octets} {e : RouteServerEntry}

theorem mem_remove (names : (servers.map RouteServerEntry.server).Nodup) :
    e ∈ (remove servers server).1 ↔ e ∈ servers ∧ e.server ≠ server := by
  unfold remove
  induction servers with
  | nil => simp
  | cons i rest ih =>
    rw [List.map_cons, List.nodup_cons] at names
    by_cases same : server = i.server
    · subst same
      simp only [List.eraseP_cons, beq_self_eq_true, cond_true]
      constructor
      · intro member
        refine ⟨List.mem_cons_of_mem i member, fun same => names.1 ?_⟩
        exact same ▸ List.mem_map_of_mem member
      · rintro ⟨member, differ⟩
        rcases List.mem_cons.mp member with rfl | later
        · exact absurd rfl differ
        · exact later
    · rw [List.eraseP_cons_of_neg (by simpa using same), List.mem_cons, List.mem_cons, ih names.2]
      constructor
      · rintro (rfl | ⟨later, differ⟩)
        · exact ⟨.inl rfl, fun same' => same same'.symm⟩
        · exact ⟨.inr later, differ⟩
      · rintro ⟨rfl | later, differ⟩
        · exact .inl rfl
        · exact .inr ⟨later, differ⟩

theorem remove_sublist : (remove servers server).1.Sublist servers := List.eraseP_sublist

theorem kept_after (calls : List Call) : Kept calls (after calls) := by
  induction calls using List.reverseRecOn with
  | nil =>
    refine ⟨.nil, List.nodup_nil, List.nodup_nil, nofun, ?_⟩
    simp [after, Added]
  | append_singleton calls c kept =>
    have last : after (calls ++ [c]) = call (after calls) c := by simp [after]
    rw [last]
    generalize after calls = s at kept
    have less (server : Octets) := @remove_sublist s.servers server
    cases c with
    | remove name =>
      refine ⟨kept.sorted.sublist (less name), kept.names.sublist ((less name).map _),
        kept.addresses.sublist ((less name).map _), fun e member => kept.bound e ((less name).subset member), ?_⟩
      intro server metric
      rw [added_concat_remove, ← kept.holds]
      simp only [call, mem_remove kept.names]
      grind
    | add name metric =>
      have placed := List.perm_orderedInsert RouteServerEntry.Precedes ⟨s.made, name, metric⟩ (remove s.servers name).1
      refine ⟨?_, ?_, ?_, ?_, ?_⟩
      · exact List.Pairwise.orderedInsert _ _ (kept.sorted.sublist (less name))
      · apply (placed.map RouteServerEntry.server).nodup_iff.mpr
        rw [List.map_cons, List.nodup_cons]
        refine ⟨?_, kept.names.sublist ((less name).map _)⟩
        intro member
        obtain ⟨e, inside, same⟩ := List.mem_map.mp member
        exact ((mem_remove kept.names).mp inside).2 same
      · apply (placed.map RouteServerEntry.address).nodup_iff.mpr
        rw [List.map_cons, List.nodup_cons]
        refine ⟨?_, kept.addresses.sublist ((less name).map _)⟩
        intro member
        obtain ⟨e, inside, same⟩ := List.mem_map.mp member
        have bound := kept.bound e ((less name).subset inside)
        dsimp only at same
        omega
      · intro e member
        rcases List.mem_cons.mp (placed.mem_iff.mp member) with rfl | later
        · exact Nat.lt_succ_self _
        · exact Nat.lt_succ_of_lt (kept.bound e ((less name).subset later))
      · intro server m
        rw [added_concat_add, ← kept.holds]
        simp only [call, add, placed.mem_iff, List.mem_cons, mem_remove kept.names]
        constructor
        · rintro ⟨e, rfl | ⟨inside, differ⟩, rfl, rfl⟩
          · exact .inl ⟨rfl, rfl⟩
          · exact .inr ⟨differ, e, inside, rfl, rfl⟩
        · rintro (⟨rfl, rfl⟩ | ⟨differ, e, inside, rfl, rfl⟩)
          · exact ⟨_, .inl rfl, rfl, rfl⟩
          · exact ⟨e, .inr ⟨inside, differ⟩, rfl, rfl⟩

theorem lookup_eq_some_iff (names : (servers.map RouteServerEntry.server).Nodup) :
    lookup servers server = some e ↔ e ∈ servers ∧ e.server = server := by
  constructor
  · intro found
    have same := List.find?_some found
    exact ⟨List.mem_of_find?_eq_some found, (beq_iff_eq.mp same).symm⟩
  · rintro ⟨inside, rfl⟩
    cases found : lookup servers e.server with
    | none =>
      have differ := List.find?_eq_none.mp found e inside
      exact absurd (beq_self_eq_true e.server) differ
    | some f =>
      have same := List.find?_some found
      rw [List.inj_on_of_nodup_map names (List.mem_of_find?_eq_some found) inside (beq_iff_eq.mp same).symm]

theorem next_append {before later : List RouteServerEntry}
    (addresses : ((before ++ e :: later).map RouteServerEntry.address).Nodup) :
    next e (before ++ e :: later) = later.head? := by
  induction before with
  | nil => exact if_pos rfl
  | cons i before ih =>
    rw [List.cons_append, List.map_cons, List.nodup_cons] at addresses
    rw [List.cons_append, next, if_neg, ih addresses.2]
    intro same
    apply addresses.1
    rw [← same]
    exact List.mem_map_of_mem (List.mem_append_right before List.mem_cons_self)

end Invariant

section Main

variable (calls : List Call)

/-- The list is never out of order, and on every list `Next` steps through it. Only the
start of the iteration asks for a server. -/
theorem metric_ordered_iff :
    MetricOrdered calls (after calls).servers ↔ ∃ server, Live calls server := by
  have kept := kept_after calls
  generalize after calls = s at kept
  have found (server : Octets) : (∃ e, lookup s.servers server = some e) ↔ Live calls server := by
    rw [live_iff]
    simp only [lookup_eq_some_iff kept.names, ← kept.holds]
    constructor
    · rintro ⟨e, inside, same⟩
      exact ⟨e.metric, e, inside, same, rfl⟩
    · rintro ⟨metric, e, inside, same, -⟩
      exact ⟨e, inside, same⟩
  constructor
  · intro ordered
    obtain ⟨p, started, -⟩ := ordered.iterates
    cases whole : s.servers with
    | nil =>
      rw [whole] at started
      cases started
    | cons e rest =>
      refine ⟨e.server, (found e.server).mp ⟨e, ?_⟩⟩
      exact (lookup_eq_some_iff kept.names).mpr ⟨whole ▸ List.mem_cons_self, rfl⟩
  · rintro ⟨server, live⟩
    refine ⟨kept.sorted, kept.names, found, ?_, ?_⟩
    · intro name e present
      obtain ⟨inside, rfl⟩ := (lookup_eq_some_iff kept.names).mp present
      exact ⟨rfl, (kept.holds _ _).mp ⟨e, inside, rfl, rfl⟩⟩
    · refine ⟨s.servers.head?, ?_, Visits.of_list ?_⟩
      · obtain ⟨e, present⟩ := (found server).mpr live
        cases whole : s.servers with
        | nil =>
          rw [whole] at present
          cases present
        | cons i rest => rfl
      · intro before e later parts
        rw [step, parts, next_append (parts ▸ kept.addresses)]

end Main

/-- `First` on a new list reads the front of an empty one. -/
theorem first_of_empty_faults :
    ¬ MetricOrdered [] (after []).servers ∧ first (after []).servers = .fault := by
  refine ⟨?_, rfl⟩
  rintro ⟨-, -, -, -, p, started, -⟩
  cases started

end RouteServers

end OpenDiameter.Router
