import OpenDiameter.Foundation.Machine
import OpenDiameter.Foundation.RedBlack
import Mathlib.Logic.Function.Basic

/-! The red-black tree of the utility library, with its nodes in memory.

Every pointer that is followed is checked: reading through the null pointer or
through one to a deleted node is a fault, which is the result `none`. So is a
loop that has not ended after `fuel` turns. The two mirror images of each
function are one function with the side as a parameter.
-/

set_option autoImplicit false

namespace OpenDiameter.RbTree

open Foundation.RedBlack
open Foundation (Turn turns)

/-- `sentinel` is the address of the tree's own member `nil`. -/
inductive Ptr where
  | null
  | sentinel
  | block (address : Nat)
  deriving DecidableEq, Repr

structure Node (D : Type) where
  left : Ptr
  right : Ptr
  parent : Ptr
  color : Color
  data : Option D
  deriving DecidableEq, Repr

namespace Node

variable {D : Type}

def child (node : Node D) : Side → Ptr
  | .left => node.left
  | .right => node.right

def setChild (node : Node D) : Side → Ptr → Node D
  | .left, p => { node with left := p }
  | .right, p => { node with right := p }

end Node

structure Tree (D : Type) where
  root : Ptr
  nil : Node D
  blocks : Nat → Option (Node D)

structure Operators (D : Type) where
  eq : D → D → Bool
  lt : D → D → Bool

namespace Tree

variable {D : Type}

def new : Tree D :=
  { root := .sentinel
    nil := { left := .sentinel, right := .sentinel, parent := .null, color := .black, data := none }
    blocks := fun _ => none }

section Access

variable (t : Tree D)

def node : Ptr → Option (Node D)
  | .null => none
  | .sentinel => some t.nil
  | .block n => t.blocks n

def modify (p : Ptr) (f : Node D → Node D) : Option (Tree D) :=
  match p with
  | .null => none
  | .sentinel => some { t with nil := f t.nil }
  | .block n =>
    match t.blocks n with
    | none => none
    | some node => some { t with blocks := Function.update t.blocks n (some (f node)) }

def child (side : Side) (p : Ptr) : Option Ptr := (t.node p).map (·.child side)

def parent (p : Ptr) : Option Ptr := (t.node p).map (·.parent)

def color (p : Ptr) : Option Color := (t.node p).map (·.color)

/-- `*(p->data)` -/
def data (p : Ptr) : Option D := (t.node p).bind (·.data)

def setChild (side : Side) (p q : Ptr) : Option (Tree D) := t.modify p (·.setChild side q)

def setParent (p q : Ptr) : Option (Tree D) := t.modify p ({ · with parent := q })

def setColor (p : Ptr) (color : Color) : Option (Tree D) := t.modify p ({ · with color })

def setData (p : Ptr) (data : D) : Option (Tree D) := t.modify p ({ · with data := some data })

/-- `new`, when it returns the address `n`. -/
def allocate (n : Nat) (node : Node D) : Option (Tree D) :=
  match t.blocks n with
  | none => some { t with blocks := Function.update t.blocks n (some node) }
  | some _ => none

def delete (p : Ptr) : Option (Tree D) :=
  match p with
  | .block n =>
    match t.blocks n with
    | none => none
    | some _ => some { t with blocks := Function.update t.blocks n none }
  | _ => none

end Access

def adopt (t : Tree D) (p q : Ptr) : Option (Tree D) := if p ≠ .sentinel then t.setParent p q else some t

/-- Puts `new` in the place of `old` under its parent `above`, or at the root.
`Rotate` looks for `old` on a side of its own, `Remove` on the left. -/
def replaceChild (t : Tree D) (side : Side) (above old new : Ptr) : Option (Tree D) :=
  if above ≠ .null then do
    t.setChild (if old = (← t.child side above) then side else side.other) above new
  else some { t with root := new }

section Fixup

/-- Turns `x` down to a side; its child on the other side comes up. -/
def rotate (t : Tree D) (side : Side) (x : Ptr) : Option (Tree D) := do
  let y ← t.child side.other x
  let t ← t.setChild side.other x (← t.child side y)
  let t ← t.adopt (← t.child side y) x
  let t ← t.adopt y (← t.parent x)
  let t ← t.replaceChild side (← t.parent x) x y
  let t ← t.setChild side y x
  t.adopt x y

def rotateLeft (t : Tree D) : Ptr → Option (Tree D) := t.rotate .left

def rotateRight (t : Tree D) : Ptr → Option (Tree D) := t.rotate .right

/-- The end of the body of the loop in `FixupInsert`: recolor and rotate. -/
def fixupInsertRotate (side : Side) (x : Ptr) (t : Tree D) : Option (Tree D) := do
  let t ← t.setColor (← t.parent x) .black
  let t ← t.setColor (← t.parent (← t.parent x)) .red
  t.rotate side.other (← t.parent (← t.parent x))

/-- The body of the loop in `FixupInsert` when the parent of `x` is the child of
the grandparent on the given side. -/
def fixupInsertAt (side : Side) (x : Ptr) (t : Tree D) : Option (Ptr × Tree D) := do
  let y ← t.child side.other (← t.parent (← t.parent x))
  if (← t.color y) = .red then
    -- uncle is red
    let t ← t.setColor (← t.parent x) .black
    let t ← t.setColor y .black
    let t ← t.setColor (← t.parent (← t.parent x)) .red
    some (← t.parent (← t.parent x), t)
  else
    -- uncle is black
    let (x, t) ←
      (if x = (← t.child side.other (← t.parent x)) then do
        some (← t.parent x, ← t.rotate side (← t.parent x))
      else some (x, t))
    some (x, ← fixupInsertRotate side x t)

def fixupInsertTurn : Ptr × Tree D → Option (Turn (Ptr × Tree D) (Tree D))
  | (x, t) => do
    if x = t.root then return .done (← t.setColor t.root .black)
    if (← t.color (← t.parent x)) ≠ .red then return .done (← t.setColor t.root .black)
    let above ← t.parent x
    let side := if above = (← t.child .left (← t.parent above)) then Side.left else Side.right
    return .again (← fixupInsertAt side x t)

def fixupInsert (fuel : Nat) (t : Tree D) (x : Ptr) : Option (Tree D) := turns fixupInsertTurn fuel (x, t)

/-- The end of the body of the loop in `FixupRemove`, when the sibling `w` has a
red child on the outside. -/
def fixupRemoveRotate (side : Side) (x w : Ptr) (t : Tree D) : Option (Tree D) := do
  let t ← t.setColor w (← t.color (← t.parent x))
  let t ← t.setColor (← t.parent x) .black
  let t ← t.setColor (← t.child side.other w) .black
  t.rotate side (← t.parent x)

/-- The part of that body in which the sibling `w` is black. -/
def fixupRemoveBlack (side : Side) (x w : Ptr) (t : Tree D) : Option (Ptr × Tree D) := do
  if (← t.color (← t.child side w)) = .black ∧ (← t.color (← t.child side.other w)) = .black then
    let t ← t.setColor w .red
    some (← t.parent x, t)
  else
    let (w, t) ←
      (if (← t.color (← t.child side.other w)) = .black then do
        let t ← t.setColor (← t.child side w) .black
        let t ← t.setColor w .red
        let t ← t.rotate side.other w
        some (← t.child side.other (← t.parent x), t)
      else some (w, t))
    let t ← fixupRemoveRotate side x w t
    some (t.root, t)

/-- The body of the loop in `FixupRemove` when `x` is the child of its parent on
the given side. -/
def fixupRemoveAt (side : Side) (x : Ptr) (t : Tree D) : Option (Ptr × Tree D) := do
  let w ← t.child side.other (← t.parent x)
  let (w, t) ←
    (if (← t.color w) = .red then do
      let t ← t.setColor w .black
      let t ← t.setColor (← t.parent x) .red
      let t ← t.rotate side (← t.parent x)
      some (← t.child side.other (← t.parent x), t)
    else some (w, t))
  fixupRemoveBlack side x w t

def fixupRemoveTurn : Ptr × Tree D → Option (Turn (Ptr × Tree D) (Tree D))
  | (x, t) => do
    if x = t.root then return .done (← t.setColor x .black)
    if (← t.color x) ≠ .black then return .done (← t.setColor x .black)
    let side := if x = (← t.child .left (← t.parent x)) then Side.left else Side.right
    return .again (← fixupRemoveAt side x t)

def fixupRemove (fuel : Nat) (t : Tree D) (x : Ptr) : Option (Tree D) := turns fixupRemoveTurn fuel (x, t)

end Fixup

section Operations

variable (compare : Operators D) (fuel : Nat)

/-- The loop that looks for the data of `Find` and of `Remove`. -/
def searchTurn (t : Tree D) (data : D) (current : Ptr) : Option (Turn Ptr Ptr) :=
  if current = .sentinel then some (.done current) else do
    let own ← t.data current
    if compare.eq own data then return .done current
    return .again (← t.child (if compare.lt data own then .left else .right) current)

def search (t : Tree D) (data : D) : Option Ptr := turns (searchTurn compare t data) fuel t.root

def find (t : Tree D) (data : D) : Option (Option D) := do
  let current ← search compare fuel t data
  if current = .sentinel then some none else some (some (← t.data current))

/-- The loop of `Insert`, which ends at the data or under the new parent. -/
def insertTurn (t : Tree D) (data : D) : Ptr × Ptr → Option (Turn (Ptr × Ptr) (Ptr × Ptr))
  | (parent, current) =>
    if current = .sentinel then some (.done (parent, current)) else do
      let own ← t.data current
      if compare.eq own data then return .done (parent, current)
      return .again (current, ← t.child (if compare.lt data own then .left else .right) current)

def attach (t : Tree D) (data : D) (parent current : Ptr) : Option (Tree D) :=
  if parent ≠ .null then do
    t.setChild (if compare.lt data (← t.data parent) then .left else .right) parent current
  else some { t with root := current }

def insert (t : Tree D) (data : D) (n : Nat) : Option (Option D × Tree D) := do
  let (parent, current) ← turns (insertTurn compare t data) fuel (.null, t.root)
  if current ≠ .sentinel then return (some (← t.data current), t)
  let t ← t.allocate n { left := .sentinel, right := .sentinel, parent, color := .red, data := some data }
  let t ← attach compare t data parent (.block n)
  let t ← fixupInsert fuel t (.block n)
  some (some (← t.data (.block n)), t)

def leftmostTurn (t : Tree D) (y : Ptr) : Option (Turn Ptr Ptr) := do
  let next ← t.child .left y
  if next ≠ .sentinel then return .again next
  return .done y

def onlyChild (t : Tree D) (y : Ptr) : Option Ptr := do
  if (← t.child .left y) ≠ .sentinel then t.child .left y else t.child .right y

/-- The end of `Remove`: `y` is out of the tree, and `x` in its place. -/
def release (t : Tree D) (x y : Ptr) : Option (Tree D) := do
  let t ← (if (← t.color y) = .black then fixupRemove fuel t x else some t)
  t.delete y

def takeOut (t : Tree D) (z y : Ptr) : Option (D × Tree D) := do
  let x ← t.onlyChild y
  let above ← t.parent y
  let t ← t.setParent x above
  let t ← t.replaceChild .left above y x
  let (val, t) ←
    (if y ≠ z then do some (← t.data z, ← t.setData z (← t.data y))
    else do some (← t.data y, t))
  some (val, ← release fuel t x y)

def remove (t : Tree D) (data : D) : Option (Option D × Tree D) := do
  let z ← search compare fuel t data
  if z = .null ∨ z = .sentinel then return (none, t)
  let y ←
    (if (← t.child .left z) = .sentinel ∨ (← t.child .right z) = .sentinel then some z
    else do turns t.leftmostTurn fuel (← t.child .right z))
  let (val, t) ← takeOut fuel t z y
  some (some val, t)

/-- A turn of `Clear`, after which `val->clear` is called. -/
def clearTurn : List D × Tree D → Option (Turn (List D × Tree D) (List D × Tree D))
  | (cleared, t) =>
    if t.root = .sentinel then some (.done (cleared, t)) else do
      match ← remove compare fuel t (← t.data t.root) with
      | (some val, t) => return .again (cleared ++ [val], t)
      | (none, _) => none

/-- `Clear`, with the data that it clears and deletes. -/
def clear (t : Tree D) : Option (List D × Tree D) := turns (clearTurn compare fuel) fuel ([], t)

end Operations

end Tree

end OpenDiameter.RbTree
