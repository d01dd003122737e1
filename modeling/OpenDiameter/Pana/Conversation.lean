import OpenDiameter.Foundation.Runs
import OpenDiameter.Pana.Verdicts

/-! Conversations, in which a session authenticates.

The happenings of the current conversation are recorded beside the machine, so that what a
verdict rests on can be looked up in the order in which it happened.
-/

set_option autoImplicit false

namespace OpenDiameter.Pana

open Foundation OpenDiameter.Framework

inductive Happening where
  /-- EAP reported success, and to an agent that the user is authorized. -/
  | succeeded
  | bindSent (pbr : Message)
  /-- A PBR, or a PBA, that is valid. -/
  | bindReceived (msg : Message)
  | ended
  deriving DecidableEq, Repr

/-- How the sessions of a class authenticate. -/
structure Customs (Action Call : Type) where
  states : List State
  succeeds : Call → Bool
  binds : Action → Bool
  /-- The actions that start EAP again within the states. -/
  restarts : Action → Bool

/-- A conversation starts where its states are entered, and where EAP is started again. -/
def Customs.starts {Event Action Call : Type} (customs : Customs Action Call)
    (entry : StateTableEntry State Event Action) : Bool :=
  decide (entry.prevState ∉ customs.states ∧ entry.nextState ∈ customs.states) || customs.restarts entry.action

structure Course (Event : Type) where
  machine : Machine Event
  log : List Happening := []
  deriving DecidableEq, Repr

namespace Program

section Effects

variable {Event Action Call : Type} (program : Program Event Action Call) (machine : Machine Event)

theorem eventQueue_act (acting : Draws) (entry : StateTableEntry State Event Action) :
    ∃ added, (program.act machine acting entry).eventQueue = machine.eventQueue ++ added ∧
      ∀ notice ∈ added, notice.cause = none ∧ (notice.event = program.stop ∨
        ∃ s t, program.perform acting entry.action s = .ok (some notice.event) t) := by
  unfold act
  cases result : program.perform acting entry.action machine.session with
  | ok event s =>
    cases event with
    | none => exact ⟨[], (List.append_nil _).symm, by simp⟩
    | some event =>
      refine ⟨[{ event := event }], rfl, ?_⟩
      intro notice mem
      cases List.mem_singleton.mp mem
      exact ⟨rfl, Or.inr ⟨machine.session, s, result⟩⟩
  | error failure s =>
    cases failure with
    | fault => exact ⟨[], (List.append_nil _).symm, by simp⟩
    | thrown e =>
      refine ⟨[{ event := program.stop }], rfl, ?_⟩
      intro notice mem
      cases List.mem_singleton.mp mem
      exact ⟨rfl, Or.inl rfl⟩

/-- What a call of `Serve` filters is valid, or notifies nothing. -/
theorem serveMessage_cases (filtering : Draws) :
    (∃ filter msg event s, program.filters machine = some (filter, msg) ∧
        filter.handleMessage program.crypto filtering msg machine.session = .ok event s ∧
        program.serveMessage machine filtering =
          { machine with rxMsgQueue := machine.rxMsgQueue.tail, session := s }.notify ⟨event, some msg⟩) ∨
      (∀ filter msg event s, program.filters machine = some (filter, msg) →
        filter.handleMessage program.crypto filtering msg machine.session ≠ .ok event s) ∧
        (program.serveMessage machine filtering).eventQueue = machine.eventQueue := by
  rw [serveMessage_eq]
  cases meets : program.filters machine with
  | none => exact Or.inr ⟨by simp, rfl⟩
  | some pair =>
    obtain ⟨filter, msg⟩ := pair
    dsimp only
    unfold handleMessage
    rw [if_pos (filters_mem meets).2.2]
    dsimp only
    cases result : filter.handleMessage program.crypto filtering msg machine.session with
    | ok event s => exact Or.inl ⟨filter, msg, event, s, rfl, result, rfl⟩
    | error failure s =>
      refine Or.inr ⟨?_, by cases failure <;> rfl⟩
      rintro _ _ event t same valid
      cases same
      rw [result] at valid
      cases valid

end Effects

section Halves

variable {Event Action Call : Type} [DecidableEq Event] (program : Program Event Action Call)
  (machine : Machine Event)

/-- The message that a call of `Serve` finds valid. -/
def admits (filtering : Draws) : Option Message :=
  (program.filters machine).bind fun (filter, msg) =>
    match filter.handleMessage program.crypto filtering msg machine.session with
    | .ok _ _ => some msg
    | .error _ _ => none

def next : Option (Notice Event × StateTableEntry State Event Action) :=
  machine.eventQueue.head?.bind fun notice =>
    (program.table.findStateTableEntry machine.state notice.event).map (notice, ·)

theorem serveEvent_cases (acting : Draws) :
    (program.next machine = none ∧ ∃ rest, rest <:+ machine.eventQueue ∧
        program.serveEvent machine acting = { machine with eventQueue := rest }) ∨
      ∃ notice entry rest, program.next machine = some (notice, entry) ∧ machine.eventQueue = notice :: rest ∧
        program.table.findStateTableEntry machine.state notice.event = some entry ∧
        program.serveEvent machine acting = program.act { machine with eventQueue := rest } acting entry := by
  unfold serveEvent next
  cases queue : machine.eventQueue with
  | nil =>
    refine Or.inl ⟨rfl, [], List.nil_suffix, ?_⟩
    cases machine
    cases queue
    rfl
  | cons notice rest =>
    dsimp only
    rw [List.head?_cons, Option.bind_some]
    cases found : program.table.findStateTableEntry machine.state notice.event with
    | none => exact Or.inl ⟨rfl, rest, List.suffix_cons _ _, rfl⟩
    | some entry => exact Or.inr ⟨notice, entry, rest, rfl, rfl, found, rfl⟩

end Halves

end Program

namespace Course

section Notes

variable {Event : Type} (c : Course Event)

def note (machine : Machine Event) (happenings : List Happening) : Course Event where
  machine := machine
  log := c.log ++ happenings ++ if machine.session.ends = c.machine.session.ends then [] else [.ended]

variable {c}

theorem note_of_same {machine : Machine Event} (same : machine.session.ends = c.machine.session.ends)
    (happenings : List Happening) :
    c.note machine happenings = { machine := machine, log := c.log ++ happenings } := by
  unfold note
  rw [if_pos same, List.append_nil]

theorem log_note (machine : Machine Event) (happenings : List Happening) :
    c.log.Sublist (c.note machine happenings).log := by
  unfold note
  rw [List.append_assoc]
  exact List.sublist_append_left _ _

theorem ended_note {machine : Machine Event} (told : machine.session.ends ≠ c.machine.session.ends)
    (happenings : List Happening) : .ended ∈ (c.note machine happenings).log := by
  unfold note
  rw [if_neg told]
  exact List.mem_append_right _ List.mem_cons_self

theorem note_note {first second : Machine Event} (same : second.session.ends = first.session.ends)
    (happenings : List Happening) : (c.note first happenings).note second [] = c.note second happenings := by
  rw [note_of_same same, List.append_nil]
  unfold note
  rw [same]

end Notes

variable {Event Action Call : Type} [DecidableEq Event] (program : Program Event Action Call)
  (customs : Customs Action Call) (c : Course Event)

section Steps

def admitted (filtering : Draws) : List Happening :=
  ((program.admits c.machine filtering).filter fun msg => msg.type = mtypePBR).toList.map .bindReceived

/-- The first half of `Serve`. -/
def filter (filtering : Draws) : Course Event :=
  c.note (program.serveMessage c.machine filtering) (c.admitted program filtering)

def bound (action : Action) (machine : Machine Event) : List Happening :=
  if customs.binds action && !machine.faulted then machine.session.lastTxReqMsg.toList.map .bindSent else []

/-- The second half of `Serve`. -/
def act (acting : Draws) : Course Event :=
  let machine := program.serveEvent c.machine acting
  match program.next c.machine with
  | none => c.note machine []
  | some (_, entry) =>
    if customs.starts entry then { machine := machine }
    else c.note machine (bound customs entry.action machine)

def step (input : Input Call) : Course Event :=
  if c.machine.faulted then c
  else
    match input with
    | .serve filtering acting =>
      let filtered := c.filter program filtering
      if filtered.machine.faulted then filtered else filtered.act program customs acting
    | .call call =>
      c.note (program.step c.machine (.call call)) (if customs.succeeds call then [.succeeded] else [])
    | input => c.note (program.step c.machine input) []

variable {program customs c}

theorem step_serve (running : c.machine.faulted = false) (filtering acting : Draws) :
    c.step program customs (.serve filtering acting) =
      if (c.filter program filtering).machine.faulted then c.filter program filtering
      else (c.filter program filtering).act program customs acting :=
  if_neg (Bool.eq_false_iff.mp running)

theorem step_receive (running : c.machine.faulted = false) (msg : Message) :
    c.step program customs (.receive msg) = c.note (c.machine.receive msg) [] := by
  unfold step
  rw [if_neg (Bool.eq_false_iff.mp running), ← Program.step_receive program running msg]

theorem step_call (running : c.machine.faulted = false) (call : Call) :
    c.step program customs (.call call) =
      c.note ({ c.machine with session := (program.call call c.machine.session).1 }.notify
        { event := (program.call call c.machine.session).2 }) (if customs.succeeds call then [.succeeded] else []) := by
  unfold step
  rw [if_neg (Bool.eq_false_iff.mp running), ← Program.step_call program running call]

theorem step_timeout (running : c.machine.faulted = false) (tid : TimerId) :
    c.step program customs (.timeout tid) =
      c.note (if c.machine.session.timers.scheduled tid then c.machine.notify { event := program.timeout tid }
        else c.machine) [] := by
  unfold step
  rw [if_neg (Bool.eq_false_iff.mp running), ← Program.step_timeout program running tid]

theorem machine_act (acting : Draws) :
    (c.act program customs acting).machine = program.serveEvent c.machine acting := by
  unfold act
  split
  case h_1 => rfl
  case h_2 =>
    split
    case isTrue => rfl
    case isFalse => rfl

theorem machine_step (input : Input Call) : (c.step program customs input).machine = program.step c.machine input := by
  unfold step
  cases faulted : c.machine.faulted with
  | true => rw [if_pos rfl, Program.step_of_faulted _ faulted]
  | false =>
    rw [if_neg Bool.false_ne_true]
    cases input with
    | receive msg => rfl
    | call call => rfl
    | timeout tid => rfl
    | serve filtering acting =>
      rw [Program.step_serve _ faulted]
      unfold Program.serve
      dsimp only
      by_cases ends : (program.serveMessage c.machine filtering).faulted = true
      · have stops : (c.filter program filtering).machine.faulted = true := ends
        rw [if_pos stops, if_pos ends]
        rfl
      · have goes : ¬(c.filter program filtering).machine.faulted = true := ends
        rw [if_neg goes, if_neg ends, machine_act]
        rfl

theorem act_cases (acting : Draws) :
    (program.next c.machine = none ∧ ∃ rest, rest <:+ c.machine.eventQueue ∧
        c.act program customs acting = c.note { c.machine with eventQueue := rest } []) ∨
      ∃ notice entry rest, program.next c.machine = some (notice, entry) ∧
        c.machine.eventQueue = notice :: rest ∧
        program.table.findStateTableEntry c.machine.state notice.event = some entry ∧
        c.act program customs acting =
          if customs.starts entry then { machine := program.act { c.machine with eventQueue := rest } acting entry }
          else c.note (program.act { c.machine with eventQueue := rest } acting entry)
            (bound customs entry.action (program.act { c.machine with eventQueue := rest } acting entry)) := by
  unfold act
  rcases program.serveEvent_cases c.machine acting with ⟨idle, rest, sub, same⟩ | ⟨notice, entry, rest, next, queue, found, same⟩
  · refine Or.inl ⟨idle, rest, sub, ?_⟩
    rw [idle, same]
  · refine Or.inr ⟨notice, entry, rest, next, queue, found, ?_⟩
    rw [next, same]

theorem act_alone {notice : Notice Event} {entry : StateTableEntry State Event Action}
    (queue : c.machine.eventQueue = [notice])
    (found : program.table.findStateTableEntry c.machine.state notice.event = some entry)
    (stays : customs.starts entry = false) (acting : Draws) :
    c.act program customs acting = c.note (program.act { c.machine with eventQueue := [] } acting entry)
      (bound customs entry.action (program.act { c.machine with eventQueue := [] } acting entry)) := by
  rcases c.act_cases acting with ⟨idle, _⟩ | ⟨other, same, rest, next, waiting, here, is⟩
  · unfold Program.next at idle
    rw [queue, List.head?_cons, Option.bind_some, found] at idle
    cases idle
  · cases queue.symm.trans waiting
    cases found.symm.trans here
    rw [is, if_neg (Bool.eq_false_iff.mp stays)]

theorem step_alone (running : c.machine.faulted = false) (quiet : c.machine.eventQueue = [])
    {filter : RxFilter Event} {msg : Message} {event : Event} {t u : Session} {filtering acting : Draws}
    (meets : program.filters c.machine = some (filter, msg))
    (valid : filter.handleMessage program.crypto filtering msg c.machine.session = .ok event t)
    {entry : StateTableEntry State Event Action}
    (found : program.table.findStateTableEntry c.machine.state event = some entry)
    (stays : customs.starts entry = false) (unbound : customs.binds entry.action = false)
    (performs : program.perform acting entry.action t = .ok none u) (same : u.ends = t.ends) :
    c.step program customs (.serve filtering acting) = c.note
      { c.machine with
        rxMsgQueue := c.machine.rxMsgQueue.tail
        session := u
        state := entry.nextState
        eventQueue := [] } (c.admitted program filtering) := by
  let waiting : Machine Event :=
    { c.machine with rxMsgQueue := c.machine.rxMsgQueue.tail, session := t, eventQueue := [⟨event, some msg⟩] }
  have filtered : program.serveMessage c.machine filtering = waiting := by
    rcases program.serveMessage_cases c.machine filtering with ⟨_, _, _, _, meets', valid', is⟩ | ⟨refused, _⟩
    · cases meets.symm.trans meets'
      cases valid.symm.trans valid'
      rw [is]
      unfold Machine.notify
      rw [quiet]
      rfl
    · exact absurd valid (refused _ _ _ _ meets)
  have first : c.filter program filtering = c.note waiting (c.admitted program filtering) := by
    unfold Course.filter
    rw [filtered]
  have goes : ¬(c.note waiting (c.admitted program filtering)).machine.faulted = true :=
    Bool.eq_false_iff.mp running
  have second (log : List Happening) : (Course.mk waiting log).act program customs acting =
      (Course.mk waiting log).note
        { waiting with session := u, state := entry.nextState, eventQueue := [] } [] := by
    have acted : program.act { waiting with eventQueue := [] } acting entry =
        { waiting with session := u, state := entry.nextState, eventQueue := [] } := by
      unfold Program.act
      rw [performs]
    have is : (Course.mk waiting log).act program customs acting = _ := Course.act_alone rfl found stays acting
    rw [is, acted]
    unfold bound
    rw [unbound]
    rfl
  rw [step_serve running, first, if_neg goes]
  unfold note
  rw [second]
  exact note_note same _

end Steps

section Purposes

/-- `Authorize` is called in a conversation that justifies it, and enters OPEN; every other
conversation ends in CLOSED, and the application is told. -/
structure Sound (justified : List Happening → Prop) (input : Input Call) : Prop where
  authorizes : (c.step program customs input).machine.session.authorizations ≠ c.machine.session.authorizations →
    c.machine.state ∈ customs.states ∧ (c.step program customs input).machine.state = .opened ∧
      justified (c.step program customs input).log
  leaves : c.machine.state ∈ customs.states → (c.step program customs input).machine.state ∉ customs.states →
    ((c.step program customs input).machine.state = .opened ∧ .ended ∉ (c.step program customs input).log ∧
      (c.step program customs input).machine.session.authorizations = c.machine.session.authorizations + 1) ∨
    ((c.step program customs input).machine.state = .closed ∧ .ended ∈ (c.step program customs input).log ∧
      (c.step program customs input).machine.session.authorizations = c.machine.session.authorizations)
  lasts : (c.step program customs input).machine.state ∈ customs.states →
    .ended ∈ (c.step program customs input).log →
      (c.step program customs input).machine.state = .waitEapResultClose

variable {program customs c} {justified : List Happening → Prop}

theorem sound_of_still {input : Input Call} (state : (c.step program customs input).machine.state = c.machine.state)
    (authorizations : (c.step program customs input).machine.session.authorizations =
      c.machine.session.authorizations)
    (lasts : (c.step program customs input).machine.state ∈ customs.states →
      .ended ∈ (c.step program customs input).log →
        (c.step program customs input).machine.state = .waitEapResultClose) :
    c.Sound program customs justified input where
  authorizes other := absurd authorizations other
  leaves here gone := absurd (state ▸ here) gone
  lasts := lasts

def finals : List State := [.waitPea, .sessTerm, .closed]

end Purposes

end Course

end OpenDiameter.Pana
