import Mathlib.Data.List.Nodup
import Mathlib.Logic.Function.Basic

/-! A registry of objects that retire.

Objects are numbered in the order in which they are made, each for a key. One is
entered under its key, and taken out when it retires.
-/

set_option autoImplicit false

namespace Foundation

structure Registry (Key : Type) where
  content : Key → Option Nat
  keys : List Key
  retired : List Nat

namespace Registry

variable {Key : Type} [DecidableEq Key] (registry : Registry Key) (key : Key) (n : Nat)

def enter : Registry Key where
  content := Function.update registry.content key (some registry.keys.length)
  keys := registry.keys ++ [key]
  retired := registry.retired

def retire : Registry Key where
  content := Function.update registry.content key none
  keys := registry.keys
  retired := registry.retired ++ [n]

theorem enter_content_self : (registry.enter key).content key = some registry.keys.length := Function.update_self _ _ _

theorem enter_content_of_ne {other : Key} (differ : other ≠ key) :
    (registry.enter key).content other = registry.content other :=
  Function.update_of_ne differ _ _

theorem retire_content_self : (registry.retire key n).content key = none := Function.update_self _ _ _

theorem retire_content_of_ne {other : Key} (differ : other ≠ key) :
    (registry.retire key n).content other = registry.content other :=
  Function.update_of_ne differ _ _

structure Sound (registry : Registry Key) : Prop where
  named : ∀ key n, registry.content key = some n → registry.keys[n]? = some key
  found : ∀ key n, registry.content key = some n → n ∉ registry.retired
  kept : ∀ n key, registry.keys[n]? = some key → n ∉ registry.retired → registry.content key = some n
  once : registry.retired.Nodup
  made : ∀ n ∈ registry.retired, n < registry.keys.length

variable {registry key n}

theorem Sound.enter (sound : registry.Sound) (absent : registry.content key = none) : (registry.enter key).Sound where
  named := by
    intro other m found
    by_cases same : other = key
    · subst same
      rw [enter_content_self] at found
      obtain rfl := Option.some.inj found
      exact List.getElem?_concat_length
    · rw [enter_content_of_ne registry key same] at found
      have before := sound.named other m found
      have bound := (List.getElem?_eq_some_iff.mp before).1
      rw [Registry.enter, List.getElem?_append_left bound]
      exact before
  found := by
    intro other m found retired
    by_cases same : other = key
    · subst same
      rw [enter_content_self] at found
      obtain rfl := Option.some.inj found
      exact Nat.lt_irrefl _ (sound.made _ retired)
    · rw [enter_content_of_ne registry key same] at found
      exact sound.found other m found retired
  kept := by
    intro m other named live
    have bound := (List.getElem?_eq_some_iff.mp named).1
    by_cases last : m = registry.keys.length
    · subst last
      obtain rfl : key = other := Option.some.inj (List.getElem?_concat_length.symm.trans named)
      exact enter_content_self registry key
    · have earlier : m < registry.keys.length := by
        simp only [Registry.enter, List.length_append, List.length_singleton] at bound
        omega
      rw [Registry.enter, List.getElem?_append_left earlier] at named
      have before := sound.kept m other named live
      have differ : other ≠ key := by
        rintro rfl
        rw [absent] at before
        cases before
      rw [enter_content_of_ne registry key differ]
      exact before
  once := sound.once
  made := by
    intro m retired
    have bound := sound.made m retired
    simp only [Registry.enter, List.length_append, List.length_singleton]
    omega

theorem Sound.retire (sound : registry.Sound) (named : registry.keys[n]? = some key) (live : n ∉ registry.retired) :
    (registry.retire key n).Sound where
  named := by
    intro other m found
    by_cases same : other = key
    · subst same
      rw [retire_content_self] at found
      cases found
    · rw [retire_content_of_ne registry key n same] at found
      exact sound.named other m found
  found := by
    intro other m found retired
    by_cases same : other = key
    · subst same
      rw [retire_content_self] at found
      cases found
    · rw [retire_content_of_ne registry key n same] at found
      rcases List.mem_append.mp retired with retired | last
      · exact sound.found other m found retired
      · obtain rfl := List.mem_singleton.mp last
        exact same (Option.some.inj ((sound.named other m found).symm.trans named))
  kept := by
    intro m other named' live'
    have before : m ∉ registry.retired := fun retired => live' (List.mem_append_left _ retired)
    have differ : other ≠ key := by
      rintro rfl
      have here := sound.kept n other named live
      rw [sound.kept m other named' before] at here
      obtain rfl := Option.some.inj here
      exact live' (List.mem_append_right _ List.mem_cons_self)
    rw [retire_content_of_ne registry key n differ]
    exact sound.kept m other named' before
  once := by
    refine List.nodup_append.mpr ⟨sound.once, List.nodup_singleton n, ?_⟩
    rintro m retired _ last rfl
    exact live (List.mem_singleton.mp last ▸ retired)
  made := by
    intro m retired
    rcases List.mem_append.mp retired with retired | last
    · exact sound.made m retired
    · obtain rfl := List.mem_singleton.mp last
      exact (List.getElem?_eq_some_iff.mp named).1

end Registry

end Foundation
