import OpenDiameter.Foundation.Octets
import OpenDiameter.RbTree.FiniteMap
import Mathlib.Data.List.Lex

/-! The session database: a tree of nodes, each with a list of sessions.

The nodes are objects of their own; what the tree holds is where they are and
the two strings that are compared. As in the tree, following a pointer to no
object is a fault.
-/

set_option autoImplicit false

namespace OpenDiameter.Session

open Foundation OpenDiameter.RbTree

structure Counter where
  high : UInt32
  low : UInt32
  deriving DecidableEq, Repr

namespace Counter

def null : Counter := ⟨0, 0⟩

/-- `operator++` -/
def next (c : Counter) : Counter :=
  let low := c.low + 1
  let high := if low = 0xffffffff then c.high + 1 else c.high
  let low := if low = 0xffffffff then 0 else low
  ⟨if high = 0xffffffff then 0 else high, low⟩

end Counter

structure SessionId extends Counter where
  diameterId : Octets
  optionalValue : Octets
  deriving DecidableEq, Repr

/-- `J` are the sessions that are stored. -/
structure EntryList (J : Type) where
  entries : List (Counter × J)
  lastKnownCounter : Counter
  deriving DecidableEq, Repr

namespace EntryList

variable {J : Type}

def new (now : Counter) : EntryList J := ⟨[], now⟩

def add (list : EntryList J) (id : SessionId) (data : J) : SessionId × EntryList J :=
  if id.toCounter = .null then
    let counter := list.lastKnownCounter.next
    ({ id with toCounter := counter }, ⟨(counter, data) :: list.entries, counter⟩)
  else (id, { list with entries := (id.toCounter, data) :: list.entries })

def lookup (list : EntryList J) (id : SessionId) : Option J :=
  (list.entries.find? fun entry => entry.1 == id.toCounter).map Prod.snd

def remove (list : EntryList J) (id : SessionId) : EntryList J :=
  { list with entries := list.entries.eraseP fun entry => entry.1 == id.toCounter }

end EntryList

/-- A `DiameterSessionEntryNode`; its entry list is at `object`. -/
structure EntryNode where
  object : Nat
  diameterId : Octets
  optionalVal : Octets
  deriving DecidableEq, Repr

def values (s : Octets) : List Nat := s.map UInt8.toNat

def less (a b : Octets) : Bool := decide (values a < values b)

/-- `operator ==` and `operator <` of the nodes. -/
def EntryNode.operators : Operators EntryNode where
  eq own cmp := own.diameterId == cmp.diameterId && (own.optionalVal.isEmpty || own.optionalVal == cmp.optionalVal)
  lt own cmp := less own.diameterId cmp.diameterId && (own.optionalVal.isEmpty || less own.optionalVal cmp.optionalVal)

structure Database (J : Type) where
  tree : RbTree.Tree EntryNode
  lists : Nat → Option (EntryList J)

namespace Database

variable {J : Type} (fuel : Nat)

def new : Database J := ⟨.new, fun _ => none⟩

def searchNode (id : SessionId) : EntryNode := ⟨0, id.diameterId, id.optionalValue⟩

/-- `Add`, where a new node gets the time of day, and memory for itself and for
the node of the tree. -/
def add (db : Database J) (id : SessionId) (data : J) (now : Counter) (object block : Nat) :
    Option (Bool × SessionId × Database J) := do
  match ← db.tree.find EntryNode.operators fuel (searchNode id) with
  | some prevNode =>
    let list ← db.lists prevNode.object
    if (list.lookup id).isSome then return (false, id, db)
    let (id, list) := list.add id data
    return (true, id, { db with lists := Function.update db.lists prevNode.object (some list) })
  | none =>
    if (db.lists object).isSome then none
    let (id', list) := (EntryList.new now).add id data
    let (_, tree) ← db.tree.insert EntryNode.operators fuel ⟨object, id.diameterId, id.optionalValue⟩ block
    return (true, id', ⟨tree, Function.update db.lists object (some list)⟩)

def lookup (db : Database J) (id : SessionId) : Option (Option J) := do
  match ← db.tree.find EntryNode.operators fuel (searchNode id) with
  | some prevNode => return (← db.lists prevNode.object).lookup id
  | none => return none

def remove (db : Database J) (id : SessionId) : Option (Bool × Database J) := do
  match ← db.tree.find EntryNode.operators fuel (searchNode id) with
  | some prevNode =>
    let list ← db.lists prevNode.object
    if (list.lookup id).isNone then return (false, db)
    let list := list.remove id
    let lists := Function.update db.lists prevNode.object (some list)
    if list.entries.isEmpty then
      let (node, tree) ← db.tree.remove EntryNode.operators fuel (searchNode id)
      match node with
      | some node => return (true, ⟨tree, Function.update lists node.object none⟩)
      | none => return (true, ⟨tree, lists⟩)
    return (true, { db with lists })
  | none => return (false, db)

end Database

end OpenDiameter.Session
