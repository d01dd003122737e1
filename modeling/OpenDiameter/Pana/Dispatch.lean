import OpenDiameter.Pana.Factory
import OpenDiameter.Foundation.Lists

/-! Which session the factory of a PAA finds for a message.

The database is a finite map that keeps the first session of an id. As long as every id
is new and no session ends, it is the map from the ids of the sessions to the sessions.
-/

set_option autoImplicit false

namespace OpenDiameter.Pana

open Foundation OpenDiameter.RbTree

namespace Factory

section Purpose

variable (crypto : Crypto) (factory : Factory)

structure Resolves : Prop where
  found : ∀ i created, factory.sessions[i]? = some created → created.machine.state ≠ .closed →
    factory.search created.machine.session.sessionId = some (.ok i)
  gone : ∀ i created, factory.sessions[i]? = some created → created.machine.state = .closed →
    factory.search created.id ≠ some (.ok i)

def waiting (i : Nat) : List Message := (factory.sessions[i]?).elim [] fun created => created.machine.rxMsgQueue

structure Dispatches (input : FactoryInput) : Prop where
  runs : (factory.step crypto input).isSome = true
  resolves : (factory.take crypto input).Resolves
  delivered : ∀ msg birth i created, input = .receive msg birth →
    (factory.take crypto input).sessions[i]? = some created →
    created.machine.rxMsgQueue ≠ factory.waiting i → created.id = msg.sessionId
  contained : ∀ msg birth after escape, input = .receive msg birth →
    factory.step crypto input ≠ some (after, some escape)

def Fresh (birth : Birth) : Prop :=
  (factory.config.optimizedHandshake || factory.config.retryPSR) = true →
    factory.search birth.id = some (.error .entryNotFound)

def Lives (machine : Machine PaaEvent) (filtering acting : Draws) : Prop :=
  ((factory.program crypto).step machine (.serve filtering acting)).state ≠ .closed ∧
    ((factory.program crypto).step machine (.serve filtering acting)).session.sessionId = machine.session.sessionId

def Fits : FactoryInput → Prop
  | .receive msg birth =>
    factory.search msg.sessionId = some (.error .entryNotFound) →
      (msg.type = mtypePCI → msg.seq = 0 ∧ msg.sessionId = 0 ∧ factory.Fresh birth) ∧
        (msg.type = mtypePSR → msg.sessionId ≠ 0)
  | .pacFound _ birth => factory.Fresh birth
  | .serve i filtering acting =>
    ∀ created, factory.sessions[i]? = some created → factory.Lives crypto created.machine filtering acting
  | .call _ _ | .timeout _ _ => True

end Purpose

section Registered

theorem lt_fuel (factory : Factory) : factory.sessions.length < factory.fuel := Nat.lt_succ_self _

variable {factory : Factory}

/-- The database is the map from the ids to the sessions, which all live under their ids. -/
structure Registered (factory : Factory) : Prop where
  holds : ∃ content : UInt32 → Option Nat, factory.db.Holds content factory.sessions.length ∧
    ∀ (id : UInt32) (i : Nat), content id = some i ↔ (factory.sessions[i]?).map Created.id = some id
  alive : ∀ (i : Nat) (created : Created), factory.sessions[i]? = some created →
    created.machine.session.sessionId = created.id ∧ created.machine.state ≠ .closed

theorem registered_new (config : Config) : (Factory.new config).Registered where
  holds := ⟨fun _ => none, DbaseTree.holds_new, fun _ _ => by simp [Factory.new]⟩
  alive i created here := by simp [Factory.new] at here

theorem Registered.search (registered : factory.Registered) (id : UInt32) :
    (∃ i : Nat, factory.search id = some (.ok i) ∧ (factory.sessions[i]?).map Created.id = some id) ∨
      factory.search id = some (.error .entryNotFound) ∧ ∀ i : Nat, (factory.sessions[i]?).map Created.id ≠ some id := by
  obtain ⟨content, holds, stands⟩ := registered.holds
  have answered := DbaseTree.search_eq holds factory.lt_fuel id
  cases found : content id with
  | some i =>
    rw [found] at answered
    exact Or.inl ⟨i, answered, (stands id i).mp found⟩
  | none =>
    rw [found] at answered
    refine Or.inr ⟨answered, fun i here => ?_⟩
    rw [(stands id i).mpr here] at found
    cases found

theorem Registered.search_ok_iff (registered : factory.Registered) (id : UInt32) (i : Nat) :
    factory.search id = some (.ok i) ↔ (factory.sessions[i]?).map Created.id = some id := by
  obtain ⟨content, holds, stands⟩ := registered.holds
  rw [← stands, Factory.search, DbaseTree.search_eq holds factory.lt_fuel id]
  cases content id <;> simp

theorem Registered.resolves (registered : factory.Registered) : factory.Resolves where
  found i created here _ := by
    rw [registered.search_ok_iff, here, (registered.alive i created here).1]
    rfl
  gone i created here closed := absurd closed (registered.alive i created here).2

theorem Registered.addSession (registered : factory.Registered) (session : Session)
    (ready : Session → Machine PaaEvent) (named : (ready session).session.sessionId = session.sessionId)
    (opens : (ready session).state ≠ .closed) :
    ∃ after, factory.addSession session ready = some (after, none) ∧
      after.sessions = factory.sessions ++ [⟨session.sessionId, ready session⟩] ∧
      (factory.search session.sessionId = some (.error .entryNotFound) → after.Registered) ∧
      (factory.search session.sessionId ≠ some (.error .entryNotFound) → ¬ after.Resolves) := by
  obtain ⟨content, holds, stands⟩ := registered.holds
  obtain ⟨db, added, held⟩ :=
    DbaseTree.add_eq holds factory.lt_fuel session.sessionId factory.sessions.length
  let after : Factory :=
    { factory with db, sessions := factory.sessions ++ [⟨session.sessionId, ready session⟩] }
  have searched : factory.search session.sessionId = _ :=
    DbaseTree.search_eq holds factory.lt_fuel session.sessionId
  have grows : factory.sessions.length + 1 = after.sessions.length := by simp [after]
  refine ⟨after, ?_, rfl, fun fresh => ?_, fun used resolves => ?_⟩
  · unfold Factory.addSession
    rw [added]
    rfl
  · have absent : content session.sessionId = none := by
      cases found : content session.sessionId with
      | none => rfl
      | some i =>
        rw [searched, found] at fresh
        cases fresh
    rw [if_pos absent] at held
    constructor
    · refine ⟨_, grows ▸ held, fun id i => ?_⟩
      rw [getElem?_concat]
      by_cases last : i = factory.sessions.length
      · rw [if_pos last, last, Option.map_some, Option.some.injEq]
        by_cases same : id = session.sessionId
        · rw [same, Function.update_self]
          exact iff_of_true rfl rfl
        · rw [Function.update_of_ne same, stands, List.getElem?_eq_none le_rfl]
          exact iff_of_false (by simp) fun equal => same equal.symm
      · rw [if_neg last, ← stands]
        by_cases same : id = session.sessionId
        · rw [same, Function.update_self, absent]
          exact iff_of_false (fun equal => last (Option.some.inj equal).symm) (by simp)
        · rw [Function.update_of_ne same]
    · intro i created here
      rw [getElem?_concat] at here
      split at here
      · cases here
        exact ⟨named, opens⟩
      · exact registered.alive i created here
  · cases taken : content session.sessionId with
    | none =>
      rw [taken] at searched
      exact used searched
    | some i =>
      have occupied : content session.sessionId ≠ none := by rw [taken]; exact Option.some_ne_none i
      rw [if_neg occupied] at held
      have newest := resolves.found factory.sessions.length ⟨session.sessionId, ready session⟩
        (by rw [getElem?_concat, if_pos rfl]) opens
      rw [named, Factory.search, DbaseTree.search_eq held (grows ▸ after.lt_fuel), taken] at newest
      cases newest
      have older := (stands _ _).mp taken
      rw [List.getElem?_eq_none le_rfl] at older
      cases older

end Registered

section Handshakes

variable {factory : Factory}

theorem Registered.pacFound (registered : factory.Registered) (addr : InetAddr) (birth : Birth) :
    ∃ after, factory.pacFound addr birth = some (after, none) ∧ (factory.Fresh birth → after.Registered) ∧
      (¬ factory.Fresh birth → ¬ after.Resolves) ∧
      ∀ (i : Nat) created, after.sessions[i]? = some created → created.machine.rxMsgQueue = factory.waiting i := by
  unfold Factory.pacFound Factory.Fresh
  by_cases stateful : (factory.config.optimizedHandshake || factory.config.retryPSR) = true
  · obtain ⟨after, added, grown, fresh, used⟩ := registered.addSession (factory.create birth)
      (fun session =>
        let found := Paa.call factory.config .pacFound { session with pacAddress := addr }
        (Machine.opening found.1).notify { event := found.2 }) rfl State.noConfusion
    rw [if_pos stateful]
    refine ⟨_, congrArg (Option.bind · _) added, fun new => ?_, fun old resolves => ?_, fun i created here => ?_⟩
    · have kept := fresh (new stateful)
      exact ⟨kept.holds, kept.alive⟩
    · have taken : factory.search birth.id ≠ some (.error .entryNotFound) := fun absent => old fun _ => absent
      exact used taken ⟨resolves.found, resolves.gone⟩
    · replace here : after.sessions[i]? = some created := here
      rw [grown, getElem?_concat] at here
      split at here
      case isTrue last =>
        cases here
        rw [waiting, last, List.getElem?_eq_none le_rfl]
        rfl
      case isFalse => rw [waiting, here]; rfl
  · rw [if_neg stateful]
    refine ⟨_, rfl, fun _ => ⟨registered.holds, registered.alive⟩, fun old => ?_, fun i created here => ?_⟩
    · exact absurd (fun new => absurd new stateful) old
    · replace here : factory.sessions[i]? = some created := here
      rw [waiting, here]
      rfl

theorem Registered.statelessRxPSA (registered : factory.Registered) {msg : Message} (birth : Birth)
    (named : msg.sessionId ≠ 0) (absent : factory.search msg.sessionId = some (.error .entryNotFound)) :
    ∃ after, factory.statelessRxPSA msg birth = some (after, none) ∧ after.Registered ∧
      ∀ (i : Nat) created, after.sessions[i]? = some created → created.machine.rxMsgQueue ≠ factory.waiting i →
        created.id = msg.sessionId := by
  obtain ⟨after, added, grown, fresh, _⟩ := registered.addSession
    { factory.create birth with pacAddress := msg.srcAddress, lastTxSeqNum := msg.seq, sessionId := msg.sessionId }
    (fun session => (Machine.opening session).receive msg) rfl State.noConfusion
  refine ⟨after, ?_, fresh absent, fun i created here different => ?_⟩
  · rw [Factory.statelessRxPSA, if_neg named]
    exact added
  · rw [grown, getElem?_concat] at here
    split at here
    · cases here
      rfl
    · rw [waiting, here] at different
      exact absurd rfl different

end Handshakes

section Sessions

variable {factory : Factory} {turn : Machine PaaEvent → Machine PaaEvent}

theorem getElem?_drive (factory : Factory) (i j : Nat) (turn : Machine PaaEvent → Machine PaaEvent) :
    (factory.drive i turn).sessions[j]? =
      if i = j then (factory.sessions[j]?).map fun created => { created with machine := turn created.machine }
      else factory.sessions[j]? := by
  rw [Factory.drive, List.getElem?_modify]
  split <;> simp

theorem search_drive (factory : Factory) (i : Nat) (turn : Machine PaaEvent → Machine PaaEvent) (id : UInt32) :
    (factory.drive i turn).search id = factory.search id := by
  unfold Factory.search Factory.fuel Factory.drive
  rw [List.length_modify]

theorem Registered.drive (registered : factory.Registered) (i : Nat)
    (keeps : ∀ created, factory.sessions[i]? = some created →
      (turn created.machine).session.sessionId = created.machine.session.sessionId ∧
        (turn created.machine).state ≠ .closed) : (factory.drive i turn).Registered := by
  obtain ⟨content, holds, stands⟩ := registered.holds
  constructor
  · refine ⟨content, ?_, fun id j => ?_⟩
    · rw [Factory.drive, List.length_modify]
      exact holds
    · rw [stands, getElem?_drive]
      split
      · rw [Option.map_map]
        rfl
      · rfl
  · intro j created here
    rw [getElem?_drive] at here
    split at here
    case isTrue same =>
      obtain ⟨before, there, rfl⟩ := Option.map_eq_some_iff.mp here
      obtain ⟨kept, open'⟩ := keeps before (same ▸ there)
      exact ⟨kept.trans (registered.alive j before there).1, open'⟩
    case isFalse => exact registered.alive j created here

theorem Registered.keeps_of_resolves (registered : factory.Registered) {i : Nat} {created : Created}
    (here : factory.sessions[i]? = some created) (resolves : (factory.drive i turn).Resolves) :
    (turn created.machine).session.sessionId = created.machine.session.sessionId ∧
      (turn created.machine).state ≠ .closed := by
  have turned : (factory.drive i turn).sessions[i]? = some { created with machine := turn created.machine } := by
    rw [getElem?_drive, if_pos rfl, here]
    rfl
  have known : factory.search created.id = some (.ok i) := by
    rw [registered.search_ok_iff, here]
    rfl
  have living : (turn created.machine).state ≠ .closed := by
    intro closed
    apply resolves.gone i _ turned closed
    rw [search_drive]
    exact known
  have found := resolves.found i _ turned living
  rw [search_drive, registered.search_ok_iff, here] at found
  refine ⟨?_, living⟩
  rw [(registered.alive i created here).1]
  exact (Option.some.inj found).symm

end Sessions

section Runs

variable {crypto : Crypto} {factory : Factory}

theorem sessionId_call (config : Config) (c : Paa.Call) (s : Session) :
    (Paa.call config c s).1.sessionId = s.sessionId := by
  cases c <;> rfl

theorem keeps_of_notifies (crypto : Crypto) (factory : Factory) (machine : Machine PaaEvent) {input : Input Paa.Call}
    (notifies : (∃ c, input = .call c) ∨ ∃ tid, input = .timeout tid) :
    ((factory.program crypto).step machine input).session.sessionId = machine.session.sessionId ∧
      ((factory.program crypto).step machine input).state = machine.state := by
  unfold Program.step
  split
  · exact ⟨rfl, rfl⟩
  · rcases notifies with ⟨c, rfl⟩ | ⟨tid, rfl⟩
    · exact ⟨sessionId_call factory.config c machine.session, rfl⟩
    · dsimp only
      split <;> exact ⟨rfl, rfl⟩

theorem Registered.notifies (registered : factory.Registered) (crypto : Crypto) (i : Nat) {input : Input Paa.Call}
    (notifies : (∃ c, input = .call c) ∨ ∃ tid, input = .timeout tid) :
    (factory.drive i ((factory.program crypto).step · input)).Registered := by
  apply registered.drive
  intro created here
  obtain ⟨kept, same⟩ := keeps_of_notifies crypto factory created.machine notifies
  exact ⟨kept, same ▸ (registered.alive i created here).2⟩

theorem dispatches_of_resolves {input : FactoryInput} {after : Factory} {escape : Option Escape}
    (steps : factory.step crypto input = some (after, escape)) (resolves : after.Resolves)
    (internal : ∀ msg birth, input ≠ .receive msg birth) : factory.Dispatches crypto input where
  runs := by rw [steps]; rfl
  resolves := by rw [take, steps]; exact resolves
  delivered msg birth _ _ same := absurd same (internal msg birth)
  contained msg birth _ _ same := absurd same (internal msg birth)

theorem dispatches_of_contained {msg : Message} {birth : Birth} {after : Factory}
    (steps : factory.step crypto (.receive msg birth) = some (after, none)) (resolves : after.Resolves)
    (delivered : ∀ (i : Nat) created, after.sessions[i]? = some created →
      created.machine.rxMsgQueue ≠ factory.waiting i → created.id = msg.sessionId) :
    factory.Dispatches crypto (.receive msg birth) where
  runs := by rw [steps]; rfl
  resolves := by rw [take, steps]; exact resolves
  delivered msg' birth' i created same here different := by
    cases same
    rw [take, steps] at here
    exact delivered i created here different
  contained _ _ _ _ _ escapes := by
    rw [steps] at escapes
    cases escapes

theorem take_of_steps {input : FactoryInput} {after : Factory} {escape : Option Escape}
    (steps : factory.step crypto input = some (after, escape)) : factory.take crypto input = after := by
  rw [take, steps]
  rfl

theorem Registered.receive_known (registered : factory.Registered) (crypto : Crypto) {msg : Message} {i : Nat} (birth : Birth)
    (known : factory.search msg.sessionId = some (.ok i)) :
    factory.step crypto (.receive msg birth) = some (factory.drive i fun machine => machine.receive msg, none) ∧
      (factory.drive i fun machine => machine.receive msg).Registered ∧
      factory.Dispatches crypto (.receive msg birth) := by
  have steps : factory.step crypto (.receive msg birth) =
      some (factory.drive i fun machine => machine.receive msg, none) := by
    rw [Factory.step, Factory.receive, known]
    rfl
  have kept : (factory.drive i fun machine => machine.receive msg).Registered :=
    registered.drive i fun created here => ⟨rfl, (registered.alive i created here).2⟩
  refine ⟨steps, kept, dispatches_of_contained steps kept.resolves fun j created here different => ?_⟩
  have named := (registered.search_ok_iff _ _).mp known
  rw [getElem?_drive] at here
  split at here
  case isTrue same =>
    obtain ⟨before, there, rfl⟩ := Option.map_eq_some_iff.mp here
    rw [same, there] at named
    exact Option.some.inj named
  case isFalse =>
    rw [waiting, here] at different
    exact absurd rfl different

/-- What a step does of its purpose, and whether the sessions are registered after it. -/
def Agrees (crypto : Crypto) (factory : Factory) (input : FactoryInput) : Prop :=
  (factory.Dispatches crypto input ↔ factory.Fits crypto input) ∧
    (factory.Fits crypto input → (factory.take crypto input).Registered)

theorem not_dispatches_of_escapes {msg : Message} {birth : Birth} {after : Factory} {escape : Escape}
    (steps : factory.step crypto (.receive msg birth) = some (after, some escape)) :
    ¬ factory.Dispatches crypto (.receive msg birth) :=
  fun dispatches => dispatches.contained msg birth after escape rfl steps

theorem Registered.agrees_rxPCI (registered : factory.Registered) {msg : Message} (birth : Birth)
    (unknown : factory.search msg.sessionId = some (.error .entryNotFound)) (initiates : msg.type = mtypePCI) :
    Agrees crypto factory (.receive msg birth) := by
  have steps : factory.step crypto (.receive msg birth) = factory.rxPCI msg birth := by
    rw [Factory.step, Factory.receive, unknown]
    exact if_pos initiates
  have other : msg.type ≠ mtypePSR := by rw [initiates]; decide
  unfold Factory.rxPCI at steps
  by_cases numbered : msg.seq ≠ 0
  · rw [if_pos numbered] at steps
    have unfit : ¬ factory.Fits crypto (.receive msg birth) := fun fits => numbered ((fits unknown).1 initiates).1
    exact ⟨iff_of_false (not_dispatches_of_escapes steps) unfit, fun fits => absurd fits unfit⟩
  · rw [if_neg numbered] at steps
    by_cases named : msg.sessionId ≠ 0
    · rw [if_pos named] at steps
      have unfit : ¬ factory.Fits crypto (.receive msg birth) := fun fits => named ((fits unknown).1 initiates).2.1
      exact ⟨iff_of_false (not_dispatches_of_escapes steps) unfit, fun fits => absurd fits unfit⟩
    · rw [if_neg named] at steps
      obtain ⟨after, found, fresh, stale, quiet⟩ := registered.pacFound msg.srcAddress birth
      rw [found] at steps
      have fits_iff : factory.Fits crypto (.receive msg birth) ↔ factory.Fresh birth := by
        constructor
        · exact fun fits => ((fits unknown).1 initiates).2.2
        · exact fun new _ => ⟨fun _ => ⟨not_not.mp numbered, not_not.mp named, new⟩, fun answers => absurd answers other⟩
      rw [Agrees, fits_iff, take_of_steps steps]
      refine ⟨⟨fun dispatches => ?_, fun new => ?_⟩, fresh⟩
      · by_contra old
        have resolves := dispatches.resolves
        rw [take_of_steps steps] at resolves
        exact stale old resolves
      · exact dispatches_of_contained steps (fresh new).resolves
          fun i created here different => absurd (quiet i created here) different

theorem Registered.agrees_rxPSA (registered : factory.Registered) {msg : Message} (birth : Birth)
    (unknown : factory.search msg.sessionId = some (.error .entryNotFound)) (answers : msg.type = mtypePSR) :
    Agrees crypto factory (.receive msg birth) := by
  have other : msg.type ≠ mtypePCI := by rw [answers]; decide
  have steps : factory.step crypto (.receive msg birth) = factory.statelessRxPSA msg birth := by
    rw [Factory.step, Factory.receive, unknown]
    exact (if_neg other).trans (if_pos answers)
  by_cases unnamed : msg.sessionId = 0
  · have unfit : ¬ factory.Fits crypto (.receive msg birth) := fun fits => (fits unknown).2 answers unnamed
    rw [Factory.statelessRxPSA, if_pos unnamed] at steps
    exact ⟨iff_of_false (not_dispatches_of_escapes steps) unfit, fun fits => absurd fits unfit⟩
  · obtain ⟨after, found, kept, delivered⟩ := registered.statelessRxPSA birth unnamed unknown
    rw [found] at steps
    have fits : factory.Fits crypto (.receive msg birth) :=
      fun _ => ⟨fun initiates => absurd initiates other, fun _ => unnamed⟩
    rw [Agrees, take_of_steps steps]
    exact ⟨iff_of_true (dispatches_of_contained steps kept.resolves delivered) fits, fun _ => kept⟩

theorem Registered.agrees_receive (registered : factory.Registered) (msg : Message) (birth : Birth) :
    Agrees crypto factory (.receive msg birth) := by
  rcases registered.search msg.sessionId with ⟨i, known, _⟩ | ⟨unknown, _⟩
  · obtain ⟨steps, kept, dispatches⟩ := registered.receive_known crypto birth known
    have fits : factory.Fits crypto (.receive msg birth) := by
      intro unknown
      rw [known] at unknown
      cases unknown
    rw [Agrees, take_of_steps steps]
    exact ⟨iff_of_true dispatches fits, fun _ => kept⟩
  · by_cases initiates : msg.type = mtypePCI
    · exact registered.agrees_rxPCI birth unknown initiates
    · by_cases answers : msg.type = mtypePSR
      · exact registered.agrees_rxPSA birth unknown answers
      · have steps : factory.step crypto (.receive msg birth) = some (factory, none) := by
          rw [Factory.step, Factory.receive, unknown]
          exact (if_neg initiates).trans (if_neg answers)
        have fits : factory.Fits crypto (.receive msg birth) :=
          fun _ => ⟨fun here => absurd here initiates, fun here => absurd here answers⟩
        have dispatches : factory.Dispatches crypto (.receive msg birth) := by
          refine dispatches_of_contained steps registered.resolves fun i created here different => ?_
          rw [waiting, here] at different
          exact absurd rfl different
        rw [Agrees, take_of_steps steps]
        exact ⟨iff_of_true dispatches fits, fun _ => registered⟩

theorem Registered.agrees_serve (registered : factory.Registered) (i : Nat) (filtering acting : Draws) :
    Agrees crypto factory (.serve i filtering acting) := by
  have lives : factory.Fits crypto (.serve i filtering acting) →
      (factory.drive i ((factory.program crypto).step · (.serve filtering acting))).Registered :=
    fun fits => registered.drive i fun created here => (fits created here).symm
  refine ⟨⟨fun dispatches created here => ?_, fun fits => ?_⟩, lives⟩
  · have resolves : (factory.drive i ((factory.program crypto).step · (.serve filtering acting))).Resolves :=
      dispatches.resolves
    exact (registered.keeps_of_resolves here resolves).symm
  · exact dispatches_of_resolves rfl (lives fits).resolves fun _ _ same => by cases same

theorem Registered.agrees (registered : factory.Registered) (input : FactoryInput) :
    Agrees crypto factory input := by
  cases input with
  | receive msg birth => exact registered.agrees_receive msg birth
  | pacFound addr birth =>
    obtain ⟨after, found, fresh, stale, _⟩ := registered.pacFound addr birth
    have steps : factory.step crypto (.pacFound addr birth) = some (after, none) := found
    rw [Agrees, take_of_steps steps]
    refine ⟨⟨fun dispatches => ?_, fun new => ?_⟩, fresh⟩
    · by_contra old
      have resolves := dispatches.resolves
      rw [take_of_steps steps] at resolves
      exact stale old resolves
    · exact dispatches_of_resolves steps (fresh new).resolves fun _ _ same => by cases same
  | serve i filtering acting => exact registered.agrees_serve i filtering acting
  | call i c =>
    have kept := registered.notifies crypto i (.inl ⟨c, rfl⟩)
    exact ⟨iff_of_true (dispatches_of_resolves rfl kept.resolves fun _ _ same => by cases same) trivial, fun _ => kept⟩
  | timeout i tid =>
    have kept := registered.notifies crypto i (.inr ⟨tid, rfl⟩)
    exact ⟨iff_of_true (dispatches_of_resolves rfl kept.resolves fun _ _ same => by cases same) trivial, fun _ => kept⟩

/-- In every run of a factory each message reaches the session of its id exactly if
every step fits. -/
theorem run_dispatches_iff (crypto : Crypto) (config : Config) (inputs : List FactoryInput) :
    Stepwise (Factory.take crypto) (Factory.Dispatches crypto) (.new config) inputs ↔
      Stepwise (Factory.take crypto) (Factory.Fits crypto) (.new config) inputs :=
  stepwise_iff (fun _ input registered (_ : True) => (Registered.agrees registered input).1)
    (fun _ input registered _ fits => (Registered.agrees registered input).2 fits) (registered_new config)
    fun _ _ => trivial

/-- Two clients are found within one value of the clock. -/
theorem second_session_lost : ¬ ∀ crypto config inputs,
    Stepwise (Factory.take crypto) (Factory.Dispatches crypto) (.new config) inputs := by
  intro always
  let birth : Birth := ⟨1000000000, 250000, 7, 1⟩
  let crypto : Crypto := ⟨fun _ _ _ _ _ => [], fun _ _ _ => []⟩
  let config : Config := ⟨false, false, true, 0⟩
  obtain ⟨first, second, _⟩ := always crypto config [.pacFound ⟨1, 716⟩ birth, .pacFound ⟨2, 716⟩ birth]
  have agrees : Agrees crypto (.new config) (.pacFound ⟨1, 716⟩ birth) := (registered_new config).agrees _
  have registered := agrees.2 (agrees.1.mp first)
  have absent := (registered.agrees _).1.mp second rfl
  rw [registered.search_ok_iff birth.id 0 |>.mpr rfl] at absent
  cases absent

end Runs

end Factory

end OpenDiameter.Pana
