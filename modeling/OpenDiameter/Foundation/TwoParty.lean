import Mathlib.Data.Nat.Notation
import Mathlib.Logic.Function.Basic
import Mathlib.Tactic.TypeStar

/-! Two parties, each of which opens a connection to the other.

A protocol says how a party answers what happens to it; the network keeps what is
under way: queued events, items on the two connections in order, and what has
become of the four ends. A simulation between protocols carries over to whole
runs, and a protocol with few states can be explored completely.
-/

set_option autoImplicit false

namespace Foundation

section Definitions

/-- The two connections, as one of the parties sees them. -/
inductive Conn where
  | mine | theirs
  deriving DecidableEq, Repr

/-- The same connection, as the other party sees it. -/
def Conn.flip : Conn → Conn
  | .mine => .theirs
  | .theirs => .mine

inductive Item (M : Type) where
  | message (m : M)
  | closed
  deriving DecidableEq, Repr

/-- One end of a connection. A `pending` end waits for its first message; a
`scheduled` end is open until it is collected, which makes it `released`. -/
inductive EndState where
  | absent | pending | live | scheduled | released | destroyed
  deriving DecidableEq, Repr

def EndState.isOpen : EndState → Bool
  | .pending | .live | .scheduled => true
  | _ => false

inductive Act (M E : Type) where
  | transmit (conn : Conn) (m : M)
  | schedule (conn : Conn)
  | destroy (conn : Conn)
  | notify (e : E)
  deriving DecidableEq, Repr

structure Party (B M E : Type) where
  brain : B
  queue : List E
  started : Bool
  acked : Bool
  mine : EndState
  theirs : EndState
  fromMine : List (Item M)
  fromTheirs : List (Item M)
  deriving DecidableEq, Repr

/-- How a party answers. `incoming` takes the first message on the connection that
the other party opened, or turns it away. -/
structure Protocol (B M E : Type) where
  start : B → B × List (Act M E)
  connected : B → B × List (Act M E)
  incoming : B → M → Option (B × List (Act M E))
  message : Conn → B → M → B × List (Act M E)
  lost : Conn → B → B × List (Act M E)
  serve : B → E → B × List (Act M E)

variable {B M E : Type}

namespace Party

def begin (brain : B) : Party B M E := ⟨brain, [], false, false, .absent, .absent, [], []⟩

def endAt (p : Party B M E) : Conn → EndState
  | .mine => p.mine
  | .theirs => p.theirs

def inbox (p : Party B M E) : Conn → List (Item M)
  | .mine => p.fromMine
  | .theirs => p.fromTheirs

def setEnd (p : Party B M E) (state : EndState) : Conn → Party B M E
  | .mine => { p with mine := state }
  | .theirs => { p with theirs := state }

def setInbox (p : Party B M E) (items : List (Item M)) : Conn → Party B M E
  | .mine => { p with fromMine := items }
  | .theirs => { p with fromTheirs := items }

def receive (p : Party B M E) (item : Item M) (conn : Conn) : Party B M E :=
  if (p.endAt conn).isOpen then p.setInbox (p.inbox conn ++ [item]) conn else p

end Party

abbrev Pair (B M E : Type) := Party B M E × Party B M E

namespace Pair

def transmit (conn : Conn) (m : M) (pair : Pair B M E) : Pair B M E :=
  if (pair.1.endAt conn).isOpen then (pair.1, pair.2.receive (.message m) conn.flip) else pair

def close (conn : Conn) (how : EndState) (pair : Pair B M E) : Pair B M E :=
  ((pair.1.setEnd how conn).setInbox [] conn, pair.2.receive .closed conn.flip)

def perform (pair : Pair B M E) : Act M E → Pair B M E
  | .transmit conn m => pair.transmit conn m
  | .schedule conn => (pair.1.setEnd .scheduled conn, pair.2)
  | .destroy conn => pair.close conn .destroyed
  | .notify e => ({ pair.1 with queue := pair.1.queue ++ [e] }, pair.2)

def respond (pair : Pair B M E) (answer : B × List (Act M E)) : Pair B M E :=
  answer.2.foldl perform ({ pair.1 with brain := answer.1 }, pair.2)

end Pair

inductive Move where
  | start | connect | deliver (conn : Conn) | serve | collect (conn : Conn)
  deriving DecidableEq, Repr

namespace Protocol

variable (protocol : Protocol B M E)

def meet (pair : Pair B M E) : Item M → Pair B M E
  | .message m =>
    match protocol.incoming pair.1.brain m with
    | some answer => Pair.respond (pair.1.setEnd .live .theirs, pair.2) answer
    | none => pair.close .theirs .released
  | .closed => pair.close .theirs .released

def hear (conn : Conn) (pair : Pair B M E) : Item M → Pair B M E
  | .message m => pair.respond (protocol.message conn pair.1.brain m)
  | .closed => pair.respond (protocol.lost conn pair.1.brain)

def move (pair : Pair B M E) : Move → Option (Pair B M E)
  | .start =>
    if pair.1.started then none
    else some (Pair.respond ({ pair.1 with started := true }, pair.2) (protocol.start pair.1.brain))
  | .connect =>
    if pair.1.started && !pair.1.acked then
      some (Pair.respond
        ({ pair.1 with acked := true, mine := .live }, { pair.2 with theirs := .pending })
        (protocol.connected pair.1.brain))
    else none
  | .deliver conn =>
    match pair.1.inbox conn with
    | [] => none
    | item :: rest =>
      let taken : Pair B M E := (pair.1.setInbox rest conn, pair.2)
      -- What arrives first on a connection is met there, and the connection with it.
      if pair.1.endAt conn = .pending then some (protocol.meet taken item)
      else some (protocol.hear conn taken item)
  | .serve =>
    match pair.1.queue with
    | [] => none
    | e :: rest =>
      some (Pair.respond ({ pair.1 with queue := rest }, pair.2) (protocol.serve pair.1.brain e))
  | .collect conn =>
    if pair.1.endAt conn = .scheduled then some (pair.close conn .released) else none

end Protocol

inductive Side where
  | left | right
  deriving DecidableEq, Repr

def Side.other : Side → Side
  | .left => .right
  | .right => .left

structure Network (B M E : Type) where
  left : Party B M E
  right : Party B M E
  deriving DecidableEq, Repr

namespace Network

def begin (left right : B) : Network B M E := ⟨.begin left, .begin right⟩

def pair (net : Network B M E) : Side → Pair B M E
  | .left => (net.left, net.right)
  | .right => (net.right, net.left)

def ofPair (pair : Pair B M E) : Side → Network B M E
  | .left => ⟨pair.1, pair.2⟩
  | .right => ⟨pair.2, pair.1⟩

def step (protocol : Side → Protocol B M E) (net : Network B M E) (side : Side) (move : Move) :
    Option (Network B M E) :=
  ((protocol side).move (net.pair side) move).map fun pair => ofPair pair side

def run (protocol : Side → Protocol B M E) (net : Network B M E) :
    List (Side × Move) → Option (Network B M E)
  | [] => some net
  | (side, move) :: rest => (net.step protocol side move).bind fun next => next.run protocol rest

/-- Nothing is left to happen but the collection of scheduled ends. -/
def Quiescent (protocol : Side → Protocol B M E) (net : Network B M E) : Prop :=
  ∀ side move, (∀ conn, move ≠ .collect conn) → net.step protocol side move = none

end Network

end Definitions

section Translation

variable {B M E B' M' E' : Type}

/-- How a party of one protocol speaks, in terms of another protocol. -/
structure Vocabulary (M E M' E' : Type) where
  sends : M' → M
  event : E' → E

def Item.map (f : M' → M) : Item M' → Item M
  | .message m => .message (f m)
  | .closed => .closed

def Act.map (vocabulary : Vocabulary M E M' E') : Act M' E' → Act M E
  | .transmit conn m => .transmit conn (vocabulary.sends m)
  | .schedule conn => .schedule conn
  | .destroy conn => .destroy conn
  | .notify e => .notify (vocabulary.event e)

def Party.lift (own other : Vocabulary M E M' E') (brain : B) (p : Party B' M' E') : Party B M E where
  brain := brain
  queue := p.queue.map own.event
  started := p.started
  acked := p.acked
  mine := p.mine
  theirs := p.theirs
  fromMine := p.fromMine.map (.map other.sends)
  fromTheirs := p.fromTheirs.map (.map other.sends)

variable {own other : Vocabulary M E M' E'} {brain otherBrain : B} {p : Party B' M' E'}
  {pair : Pair B' M' E'}

@[simp] theorem Party.lift_endAt (conn : Conn) : (p.lift own other brain).endAt conn = p.endAt conn := by
  cases conn <;> rfl

@[simp] theorem Party.lift_inbox (conn : Conn) :
    (p.lift own other brain).inbox conn = (p.inbox conn).map (.map other.sends) := by
  cases conn <;> rfl

@[simp] theorem Party.lift_setEnd (state : EndState) (conn : Conn) :
    (p.lift own other brain).setEnd state conn = (p.setEnd state conn).lift own other brain := by
  cases conn <;> rfl

@[simp] theorem Party.lift_setInbox (items : List (Item M')) (conn : Conn) :
    (p.lift own other brain).setInbox (items.map (.map other.sends)) conn =
      (p.setInbox items conn).lift own other brain := by
  cases conn <;> rfl

@[simp] theorem Party.lift_receive (item : Item M') (conn : Conn) :
    (p.lift own other brain).receive (item.map other.sends) conn =
      (p.receive item conn).lift own other brain := by
  unfold Party.receive
  rw [lift_endAt]
  split
  · rw [lift_inbox, ← lift_setInbox, List.map_append]
    rfl
  · rfl

def Pair.lift (own other : Vocabulary M E M' E') (brain otherBrain : B) (pair : Pair B' M' E') :
    Pair B M E :=
  (pair.1.lift own other brain, pair.2.lift other own otherBrain)

theorem Pair.lift_transmit (conn : Conn) (m : M') :
    (pair.lift own other brain otherBrain).transmit conn (own.sends m) =
      (pair.transmit conn m).lift own other brain otherBrain := by
  unfold Pair.transmit
  simp only [Pair.lift, Party.lift_endAt]
  split
  · exact congrArg (Prod.mk _) (Party.lift_receive (.message m) conn.flip)
  · rfl

theorem Pair.lift_close (conn : Conn) (how : EndState) :
    (pair.lift own other brain otherBrain).close conn how =
      (pair.close conn how).lift own other brain otherBrain := by
  unfold Pair.close Pair.lift
  rw [Party.lift_setEnd]
  exact Prod.ext (Party.lift_setInbox [] conn) (Party.lift_receive .closed conn.flip)

theorem Pair.lift_perform (act : Act M' E') :
    (pair.lift own other brain otherBrain).perform (act.map own) =
      (pair.perform act).lift own other brain otherBrain := by
  cases act with
  | transmit conn m => exact lift_transmit conn m
  | schedule conn => exact congrArg (fun acting => (acting, _)) (Party.lift_setEnd .scheduled conn)
  | destroy conn => exact lift_close conn .destroyed
  | notify e =>
    simp [Pair.lift, Pair.perform, Act.map, Party.lift]

theorem Pair.lift_performs (acts : List (Act M' E')) :
    (acts.map (.map own)).foldl Pair.perform (pair.lift own other brain otherBrain) =
      (acts.foldl Pair.perform pair).lift own other brain otherBrain := by
  induction acts generalizing pair with
  | nil => rfl
  | cons act acts ih => rw [List.map_cons, List.foldl_cons, lift_perform, ih, List.foldl_cons]

end Translation

section Brains

variable {B M E : Type} {pair : Pair B M E}

@[simp] theorem Party.brain_setEnd (p : Party B M E) (state : EndState) (conn : Conn) :
    (p.setEnd state conn).brain = p.brain := by
  cases conn <;> rfl

@[simp] theorem Party.brain_setInbox (p : Party B M E) (items : List (Item M)) (conn : Conn) :
    (p.setInbox items conn).brain = p.brain := by
  cases conn <;> rfl

@[simp] theorem Party.brain_receive (p : Party B M E) (item : Item M) (conn : Conn) :
    (p.receive item conn).brain = p.brain := by
  unfold Party.receive
  split
  · exact p.brain_setInbox _ conn
  · rfl

def Pair.brains (pair : Pair B M E) : B × B := (pair.1.brain, pair.2.brain)

@[simp] theorem Pair.brains_close (conn : Conn) (how : EndState) :
    (pair.close conn how).brains = pair.brains := by
  simp [Pair.brains, Pair.close]

@[simp] theorem Pair.brains_perform (act : Act M E) : (pair.perform act).brains = pair.brains := by
  cases act with
  | transmit conn m =>
    simp only [Pair.perform, Pair.transmit]
    split
    · simp [Pair.brains]
    · rfl
  | schedule conn => simp [Pair.brains, Pair.perform]
  | destroy conn => exact Pair.brains_close conn .destroyed
  | notify e => rfl

theorem Pair.brains_performs (acts : List (Act M E)) : (acts.foldl Pair.perform pair).brains = pair.brains := by
  induction acts generalizing pair with
  | nil => rfl
  | cons act acts ih => rw [List.foldl_cons, ih, brains_perform]

@[simp] theorem Pair.brains_respond (answer : B × List (Act M E)) :
    (pair.respond answer).brains = (answer.1, pair.2.brain) :=
  brains_performs answer.2

theorem Pair.brain_respond (answer : B × List (Act M E)) : (pair.respond answer).1.brain = answer.1 :=
  congrArg Prod.fst (brains_respond answer)

theorem Pair.otherBrain_respond (answer : B × List (Act M E)) :
    (pair.respond answer).2.brain = pair.2.brain :=
  congrArg Prod.snd (brains_respond answer)

theorem Pair.brain_close (conn : Conn) (how : EndState) : (pair.close conn how).1.brain = pair.1.brain :=
  congrArg Prod.fst (brains_close conn how)

theorem Pair.otherBrain_close (conn : Conn) (how : EndState) :
    (pair.close conn how).2.brain = pair.2.brain :=
  congrArg Prod.snd (brains_close conn how)

theorem Protocol.brain_move {protocol : Protocol B M E} {move : Move} {next : Pair B M E}
    (moved : protocol.move pair move = some next) : next.2.brain = pair.2.brain := by
  cases move with
  | start | connect | serve =>
    simp only [Protocol.move] at moved
    split at moved <;> cases moved
    exact Pair.otherBrain_respond _
  | collect conn =>
    simp only [Protocol.move] at moved
    split at moved <;> cases moved
    exact Pair.otherBrain_close _ _
  | deliver conn =>
    simp only [Protocol.move] at moved
    split at moved
    · cases moved
    · rename_i item rest arrived
      split at moved <;> cases moved
      · cases item with
        | closed => exact Pair.otherBrain_close _ _
        | message m =>
          simp only [Protocol.meet]
          split
          · exact Pair.otherBrain_respond _
          · exact Pair.otherBrain_close _ _
      · cases item <;> exact Pair.otherBrain_respond _

end Brains

section Simulation

variable {B M E B' M' E' : Type}

def Renders (own : Vocabulary M E M' E') (sees : B → B' → Prop) (fine : B' → Prop)
    (answer : B × List (Act M E)) (answer' : B' × List (Act M' E')) : Prop :=
  fine answer'.1 → sees answer.1 answer'.1 ∧ answer.2 = answer'.2.map (.map own)

structure Protocol.Follows (protocol : Protocol B M E) (model : Protocol B' M' E')
    (own other : Vocabulary M E M' E') (sees : B → B' → Prop) (fine : B' → Prop) : Prop where
  start : ∀ b b', sees b b' → Renders own sees fine (protocol.start b) (model.start b')
  connected : ∀ b b', sees b b' → Renders own sees fine (protocol.connected b) (model.connected b')
  admits : ∀ b b' m answer', sees b b' → model.incoming b' m = some answer' → fine answer'.1 →
    ∃ answer, protocol.incoming b (other.sends m) = some answer ∧ Renders own sees fine answer answer'
  refuses : ∀ b b' m, sees b b' → model.incoming b' m = none → protocol.incoming b (other.sends m) = none
  message : ∀ b b' conn m, sees b b' →
    Renders own sees fine (protocol.message conn b (other.sends m)) (model.message conn b' m)
  lost : ∀ b b' conn, sees b b' → Renders own sees fine (protocol.lost conn b) (model.lost conn b')
  serve : ∀ b b' e, sees b b' →
    Renders own sees fine (protocol.serve b (own.event e)) (model.serve b' e)

variable {own other : Vocabulary M E M' E'} {sees : B → B' → Prop} {fine : B' → Prop}
  {brain otherBrain : B} {pair : Pair B' M' E'}

section Answers

variable {answer : B × List (Act M E)} {answer' : B' × List (Act M' E')}

theorem Renders.seen (renders : Renders own sees fine answer answer')
    (good : fine (pair.respond answer').1.brain) : sees answer.1 (pair.respond answer').1.brain := by
  rw [Pair.brain_respond] at good ⊢
  exact (renders good).1

theorem Renders.respond (renders : Renders own sees fine answer answer')
    (good : fine (pair.respond answer').1.brain) :
    (pair.lift own other brain otherBrain).respond answer =
      (pair.respond answer').lift own other answer.1 otherBrain := by
  rw [Pair.brain_respond] at good
  unfold Pair.respond
  rw [(renders good).2]
  have performed := @Pair.lift_performs B M E B' M' E' own other answer.1 otherBrain
    ({ pair.1 with brain := answer'.1 }, pair.2) answer'.2
  exact performed

end Answers

section Moves

variable {protocol : Protocol B M E} {model : Protocol B' M' E'}

variable (otherBrain pair) in
theorem Protocol.Follows.hear (follows : protocol.Follows model own other sees fine)
    (seen : sees brain pair.1.brain) (conn : Conn) (item : Item M')
    (good : fine (model.hear conn pair item).1.brain) :
    ∃ after, sees after (model.hear conn pair item).1.brain ∧
      protocol.hear conn (pair.lift own other brain otherBrain) (item.map other.sends) =
        (model.hear conn pair item).lift own other after otherBrain := by
  cases item with
  | message m =>
    have renders := follows.message _ _ conn m seen
    exact ⟨_, renders.seen good, renders.respond good⟩
  | closed =>
    have renders := follows.lost _ _ conn seen
    exact ⟨_, renders.seen good, renders.respond good⟩

variable (otherBrain pair) in
theorem Protocol.Follows.meet (follows : protocol.Follows model own other sees fine)
    (seen : sees brain pair.1.brain) (item : Item M') (good : fine (model.meet pair item).1.brain) :
    ∃ after, sees after (model.meet pair item).1.brain ∧
      protocol.meet (pair.lift own other brain otherBrain) (item.map other.sends) =
        (model.meet pair item).lift own other after otherBrain := by
  have closing : sees brain (pair.close .theirs .released).1.brain := by
    rw [Pair.brain_close]
    exact seen
  cases item with
  | closed => exact ⟨brain, closing, Pair.lift_close .theirs .released⟩
  | message m =>
    unfold Protocol.meet at good ⊢
    dsimp only [Item.map] at good ⊢
    cases answered : model.incoming pair.1.brain m with
    | none =>
      have refused := follows.refuses _ _ m seen answered
      refine ⟨brain, closing, ?_⟩
      show (match protocol.incoming brain (other.sends m) with
        | some answer => _
        | none => _) = _
      rw [refused]
      exact Pair.lift_close .theirs .released
    | some answer' =>
      rw [answered] at good
      have fineAnswer := good
      rw [Pair.brain_respond] at fineAnswer
      obtain ⟨answer, admitted, renders⟩ := follows.admits _ _ m answer' seen answered fineAnswer
      refine ⟨answer.1, renders.seen good, ?_⟩
      show (match protocol.incoming brain (other.sends m) with
        | some answer => _
        | none => _) = _
      rw [admitted]
      exact renders.respond good

theorem Protocol.Follows.move (follows : protocol.Follows model own other sees fine)
    (seen : sees brain pair.1.brain) {move : Move} {next : Pair B' M' E'}
    (moved : model.move pair move = some next) (good : fine next.1.brain) :
    ∃ after, sees after next.1.brain ∧
      protocol.move (pair.lift own other brain otherBrain) move =
        some (next.lift own other after otherBrain) := by
  -- One case for each move: the brain follows, and the rest of the pair is the same on both sides.
  cases move with
  | start =>
    simp only [Protocol.move] at moved ⊢
    -- A party starts once.
    split at moved
    · cases moved
    · rename_i idle
      cases moved
      have renders := follows.start _ _ seen
      exact ⟨_, renders.seen good, (if_neg idle).trans (congrArg some (renders.respond good))⟩
  | connect =>
    simp only [Protocol.move] at moved ⊢
    split at moved
    · rename_i waiting
      cases moved
      have renders := follows.connected _ _ seen
      exact ⟨_, renders.seen good, (if_pos waiting).trans (congrArg some (renders.respond good))⟩
    · cases moved
  | serve =>
    simp only [Protocol.move] at moved ⊢
    split at moved
    · cases moved
    · rename_i e rest queued
      cases moved
      have renders := follows.serve _ _ e seen
      refine ⟨_, renders.seen good, ?_⟩
      simp only [Pair.lift, Party.lift, queued, List.map_cons]
      exact congrArg some (renders.respond good)
  | collect conn =>
    simp only [Protocol.move] at moved ⊢
    split at moved
    · rename_i scheduled
      cases moved
      refine ⟨brain, ?_, ?_⟩
      · rw [Pair.brain_close]
        exact seen
      · simp only [Pair.lift, Party.lift_endAt, if_pos scheduled]
        exact congrArg some (Pair.lift_close conn .released)
    · cases moved
  | deliver conn =>
    simp only [Protocol.move] at moved ⊢
    split at moved
    · cases moved
    · rename_i item rest arrived
      have seenTaken : sees brain (pair.1.setInbox rest conn).brain := by
        cases conn <;> exact seen
      simp only [Pair.lift, Party.lift_inbox, arrived, List.map_cons, Party.lift_endAt,
        Party.lift_setInbox]
      split at moved
      · rename_i pending
        cases moved
        obtain ⟨after, met, same⟩ :=
          follows.meet otherBrain (pair.1.setInbox rest conn, pair.2) seenTaken item good
        exact ⟨after, met, (if_pos pending).trans (congrArg some same)⟩
      · rename_i settled
        cases moved
        obtain ⟨after, heard, same⟩ :=
          follows.hear otherBrain (pair.1.setInbox rest conn, pair.2) seenTaken conn item good
        exact ⟨after, heard, (if_neg settled).trans (congrArg some same)⟩

theorem Protocol.lift_move_none {move : Move} (stuck : model.move pair move = none) :
    protocol.move (pair.lift own other brain otherBrain) move = none := by
  cases move with
  | start =>
    simp only [Protocol.move] at stuck ⊢
    split at stuck
    · rename_i begun
      exact if_pos begun
    · cases stuck
  | connect =>
    simp only [Protocol.move] at stuck ⊢
    split at stuck
    · cases stuck
    · rename_i closed
      exact if_neg closed
  | serve =>
    simp only [Protocol.move] at stuck ⊢
    split at stuck
    · rename_i empty
      simp only [Pair.lift, Party.lift, empty, List.map_nil]
    · cases stuck
  | collect conn =>
    simp only [Protocol.move] at stuck ⊢
    split at stuck
    · cases stuck
    · rename_i kept
      simp only [Pair.lift, Party.lift_endAt, if_neg kept]
  | deliver conn =>
    simp only [Protocol.move] at stuck ⊢
    split at stuck
    · rename_i empty
      simp only [Pair.lift, Party.lift_inbox, empty, List.map_nil]
    · split at stuck <;> cases stuck

end Moves

end Simulation

section Runs

variable {B M E B' M' E' : Type}

namespace Network

def lift (vocabulary : Side → Vocabulary M E M' E') (brains : Side → B) (net : Network B' M' E') :
    Network B M E where
  left := net.left.lift (vocabulary .left) (vocabulary .right) (brains .left)
  right := net.right.lift (vocabulary .right) (vocabulary .left) (brains .right)

def party (net : Network B M E) (side : Side) : Party B M E := (net.pair side).1

def Stands (vocabulary : Side → Vocabulary M E M' E') (sees : Side → B → B' → Prop)
    (net : Network B M E) (net' : Network B' M' E') : Prop :=
  ∃ brains, (∀ side, sees side (brains side) (net'.party side).brain) ∧ net = net'.lift vocabulary brains

variable {vocabulary : Side → Vocabulary M E M' E'} {sees : Side → B → B' → Prop} {fine : B' → Prop}
  {protocol : Side → Protocol B M E} {model : Side → Protocol B' M' E'}
  {net : Network B M E} {net' next' : Network B' M' E'}

theorem pair_lift (brains : Side → B) (side : Side) :
    (net'.lift vocabulary brains).pair side =
      (net'.pair side).lift (vocabulary side) (vocabulary side.other) (brains side) (brains side.other) := by
  cases side <;> rfl

theorem ofPair_lift (brains : Side → B) (side : Side) (after : B) (pair : Pair B' M' E') :
    ofPair (pair.lift (vocabulary side) (vocabulary side.other) after (brains side.other)) side =
      (ofPair pair side).lift vocabulary (Function.update brains side after) := by
  cases side <;> rfl

theorem party_ofPair (pair : Pair B' M' E') (side : Side) :
    (ofPair pair side).party side = pair.1 ∧ (ofPair pair side).party side.other = pair.2 := by
  cases side <;> exact ⟨rfl, rfl⟩

theorem pair_snd (net : Network B M E) (side : Side) : (net.pair side).2 = net.party side.other := by
  cases side <;> rfl

theorem Stands.step
    (follows : ∀ side,
      (protocol side).Follows (model side) (vocabulary side) (vocabulary side.other) (sees side) fine)
    (stands : net.Stands vocabulary sees net') {side : Side} {move : Move}
    (stepped : net'.step model side move = some next') (good : fine (next'.party side).brain) :
    ∃ next, net.step protocol side move = some next ∧ next.Stands vocabulary sees next' := by
  obtain ⟨brains, seen, same⟩ := stands
  obtain ⟨pair, moved, from'⟩ := Option.map_eq_some_iff.mp stepped
  subst from' same
  rw [(party_ofPair pair side).1] at good
  obtain ⟨after, seenAfter, follows'⟩ := (follows side).move (seen side) moved good
  refine ⟨_, ?_, Function.update brains side after, ?_, rfl⟩
  · rw [Network.step, pair_lift, follows', Option.map_some, ofPair_lift]
  · intro at'
    by_cases here : at' = side
    · subst here
      rw [Function.update_self, (party_ofPair pair at').1]
      exact seenAfter
    · have other : at' = side.other := by
        cases at' <;> cases side <;> first | rfl | exact absurd rfl here
      rw [Function.update_of_ne here, other, (party_ofPair pair side).2, Protocol.brain_move moved,
        pair_snd]
      exact seen side.other

theorem Stands.step_none (stands : net.Stands vocabulary sees net') {side : Side} {move : Move}
    (stuck : net'.step model side move = none) : net.step protocol side move = none := by
  obtain ⟨brains, -, same⟩ := stands
  subst same
  have idle := Option.map_eq_none_iff.mp stuck
  rw [Network.step, pair_lift, Protocol.lift_move_none idle, Option.map_none]

def allMoves : List (Side × Move) :=
  [Side.left, .right].flatMap fun side =>
    ([.start, .connect, .deliver .mine, .deliver .theirs, .serve, .collect .mine,
      .collect .theirs] : List Move).map fun move => (side, move)

theorem mem_allMoves (side : Side) (move : Move) : (side, move) ∈ allMoves := by
  rcases side with _ | _ <;> rcases move with _ | _ | (_ | _) | _ | (_ | _) <;> decide

def successors (protocol : Side → Protocol B M E) (net : Network B M E) : List (Network B M E) :=
  allMoves.filterMap fun (side, move) => net.step protocol side move

theorem mem_successors {next : Network B M E} {side : Side} {move : Move}
    (stepped : net.step protocol side move = some next) : next ∈ net.successors protocol :=
  List.mem_filterMap.mpr ⟨(side, move), mem_allMoves side move, stepped⟩

instance (protocol : Side → Protocol B M E) (net : Network B M E) :
    Decidable (net.Quiescent protocol) :=
  decidable_of_iff
    (allMoves.all fun act =>
      act.2 = .collect .mine || act.2 = .collect .theirs || (net.step protocol act.1 act.2).isNone) <| by
    rw [List.all_eq_true]
    constructor
    · intro quiet side move moving
      have kept := quiet (side, move) (mem_allMoves side move)
      simpa [moving .mine, moving .theirs] using kept
    · intro quiet act listed
      by_cases collects : ∃ conn, act.2 = .collect conn
      · obtain ⟨conn, same⟩ := collects
        cases conn <;> simp [same]
      · have idle := quiet act.1 act.2 (not_exists.mp collects)
        simp [idle]

section Explored

variable {nets : List (Network B' M' E')}

theorem Stands.run
    (follows : ∀ side,
      (protocol side).Follows (model side) (vocabulary side) (vocabulary side.other) (sees side) fine)
    (closed : ∀ net' ∈ nets, ∀ next' ∈ net'.successors model, next' ∈ nets)
    (good : ∀ net' ∈ nets, ∀ side, fine (net'.party side).brain)
    (stands : net.Stands vocabulary sees net') (listed : net' ∈ nets)
    {moves : List (Side × Move)} {last : Network B M E} (run : net.run protocol moves = some last) :
    ∃ last' ∈ nets, last.Stands vocabulary sees last' := by
  induction moves generalizing net net' with
  | nil =>
    cases run
    exact ⟨net', listed, stands⟩
  | cons act moves ih =>
    obtain ⟨side, move⟩ := act
    obtain ⟨next, stepped, later⟩ := Option.bind_eq_some_iff.mp run
    cases answered : net'.step model side move with
    | none =>
      rw [stands.step_none answered] at stepped
      cases stepped
    | some next' =>
      have listed' := closed net' listed next' (mem_successors answered)
      obtain ⟨same, stepped', stands'⟩ := stands.step follows answered (good next' listed' side)
      rw [stepped'] at stepped
      cases stepped
      exact ih stands' listed' later

theorem Stands.quiescent
    (follows : ∀ side,
      (protocol side).Follows (model side) (vocabulary side) (vocabulary side.other) (sees side) fine)
    (closed : ∀ net' ∈ nets, ∀ next' ∈ net'.successors model, next' ∈ nets)
    (good : ∀ net' ∈ nets, ∀ side, fine (net'.party side).brain)
    (stands : net.Stands vocabulary sees net') (listed : net' ∈ nets)
    (quiet : net.Quiescent protocol) : net'.Quiescent model := by
  intro side move moving
  cases answered : net'.step model side move with
  | none => rfl
  | some next' =>
    have listed' := closed net' listed next' (mem_successors answered)
    obtain ⟨next, stepped, -⟩ := stands.step follows answered (good next' listed' side)
    rw [quiet side move moving] at stepped
    cases stepped

end Explored

end Network

end Runs

section Exploration

/-- What is still to visit, and what has been visited. -/
structure Exploration (α : Type) where
  todo : List α
  seen : List α

variable {α : Type} [DecidableEq α]

/-- Visits everything that follows what there is to do; a key tells values apart
before they are compared. -/
def explore (key : α → Nat) (successors : α → List α) : Nat → Exploration α → Exploration α
  | 0, stage => stage
  | _ + 1, ⟨[], seen⟩ => ⟨[], seen⟩
  | fuel + 1, ⟨a :: todo, seen⟩ =>
    if seen.any fun b => key a == key b && decide (a = b) then explore key successors fuel ⟨todo, seen⟩
    else explore key successors fuel ⟨successors a ++ todo, a :: seen⟩

/-- Contains the first value, and loses nothing that follows what it has seen. -/
structure Exploration.Covers (successors : α → List α) (first : α) (stage : Exploration α) : Prop where
  first : first ∈ stage.seen ∨ first ∈ stage.todo
  next : ∀ a ∈ stage.seen, ∀ b ∈ successors a, b ∈ stage.seen ∨ b ∈ stage.todo

theorem explore_covers {key : α → Nat} {successors : α → List α} {first : α} (fuel : Nat)
    {stage : Exploration α} (covers : stage.Covers successors first) :
    (explore key successors fuel stage).Covers successors first := by
  induction fuel generalizing stage with
  | zero => exact covers
  | succ fuel ih =>
    obtain ⟨todo, seen⟩ := stage
    cases todo with
    | nil => exact covers
    | cons a todo =>
      rw [explore]
      split
      · rename_i known
        obtain ⟨b, visited, equal⟩ := List.any_eq_true.mp known
        have same : a = b := of_decide_eq_true (Bool.and_eq_true_iff.mp equal).2
        have moved : ∀ c, c ∈ seen ∨ c ∈ a :: todo → c ∈ seen ∨ c ∈ todo := by
          intro c place
          rcases place with before | here
          · exact Or.inl before
          · cases here with
            | head => exact Or.inl (same ▸ visited)
            | tail _ later => exact Or.inr later
        exact ih ⟨moved first covers.first, fun c visited' d follows => moved d (covers.next c visited' d follows)⟩
      · have moved : ∀ c, c ∈ seen ∨ c ∈ a :: todo → c ∈ a :: seen ∨ c ∈ successors a ++ todo := by
          intro c place
          rcases place with before | here
          · exact Or.inl (List.mem_cons_of_mem _ before)
          · cases here with
            | head => exact Or.inl List.mem_cons_self
            | tail _ later => exact Or.inr (List.mem_append_right _ later)
        apply ih
        constructor
        · exact moved first covers.first
        · intro c visited d follows
          cases visited with
          | head => exact Or.inr (List.mem_append_left _ follows)
          | tail _ before => exact moved d (covers.next c before d follows)

theorem explore_closed {key : α → Nat} {successors : α → List α} {first : α} {fuel : Nat}
    (done : (explore key successors fuel ⟨[first], []⟩).todo = []) :
    first ∈ (explore key successors fuel ⟨[first], []⟩).seen ∧
      ∀ a ∈ (explore key successors fuel ⟨[first], []⟩).seen, ∀ b ∈ successors a,
        b ∈ (explore key successors fuel ⟨[first], []⟩).seen := by
  have covers : (explore key successors fuel ⟨[first], []⟩).Covers successors first :=
    explore_covers fuel ⟨Or.inr List.mem_cons_self, List.forall_mem_nil _⟩
  rcases covers with ⟨located, next⟩
  simp only [done, List.not_mem_nil, or_false] at located next
  exact ⟨located, next⟩

end Exploration

end Foundation
