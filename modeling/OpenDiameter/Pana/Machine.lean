import OpenDiameter.Framework.StateTable
import OpenDiameter.Pana.Session

/-! State machines of PANA sessions.

A call of `Serve` filters at most one message and handles at most one event. What a
filter or an action throws is caught there. A machine is running as long as it lives:
`Stop`, also when an action throws, is overridden by the sessions and only notifies.
-/

set_option autoImplicit false

namespace OpenDiameter.Pana

open Foundation OpenDiameter.Framework

section Vocabulary

inductive State where
  | offline | waitPaa | waitSuccPba | waitFailPba | waitEapMsg | waitEapResult | waitEapResultClose | opened
  | waitPra | waitPanOrPar | waitPpa | waitPua | waitPea | sessTerm | closed
  deriving DecidableEq, Repr

inductive MsgEvent where
  | pci | psr | psa | par | pan | prr | pra | pbr | pba | ppr | ppa | ptr | pta | per | pea | pur | pua
  deriving DecidableEq, Repr

inductive EapEvent where
  | success | failure | request | response | invalidMsg | timeout | respTimeout
  deriving DecidableEq, Repr

inductive AppEvent where
  | start | pacFound | reauth | terminate | authUser | update | ping
  deriving DecidableEq, Repr

inductive ResultCode where
  | unset | fail | success
  deriving DecidableEq, Repr

inductive TimerId where
  | retry | session | eapResp
  deriving DecidableEq, Repr

def Timers.scheduled (timers : Timers) : TimerId → Bool
  | .retry => timers.retry
  | .session => timers.session
  | .eapResp => timers.eapResp

end Vocabulary

/-- `PANA_SessionRxStateFilter`: `AllowedStates`, and what `HandleMessage` does before and
after `RxValidateMsg`. -/
structure RxFilter (Event : Type) where
  validStates : List State
  first : Message → SessionM := fun _ => pure ()
  skipAuth : Bool := false
  resolve : Draws → Message → Imperative Session Exception Event

def RxFilter.handleMessage {Event : Type} (crypto : Crypto) (filter : RxFilter Event) (draws : Draws)
    (msg : Message) : Imperative Session Exception Event := do
  filter.first msg
  Session.rxValidateMsg crypto msg filter.skipAuth
  filter.resolve draws msg

theorem handler_cases {Event : Type} {type other : MType} {filter handler : RxFilter Event}
    {rest : Option (RxFilter Event)} (handles : (if type = other then some handler else rest) = some filter) :
    type = other ∧ handler = filter ∨ rest = some filter := by
  by_cases same : type = other
  · rw [if_pos same] at handles
    exact Or.inl ⟨same, Option.some.inj handles⟩
  · rw [if_neg same] at handles
    exact Or.inr handles

structure Program (Event Action Call : Type) where
  crypto : Crypto
  table : StateTable State Event Action
  msgHandlers : MType → Option (RxFilter Event)
  perform : Draws → Action → Imperative Session Exception (Option Event)
  call : Call → Session → Session × Event
  timeout : TimerId → Event
  /-- What `Stop` notifies. -/
  stop : Event

/-- An event in the queue. Nothing reads the message whose filter notified it. -/
structure Notice (Event : Type) where
  event : Event
  cause : Option Message := none
  deriving DecidableEq, Repr

/-- `PANA_StateMachine`; `faulted` once its behaviour is undefined. -/
structure Machine (Event : Type) where
  state : State
  rxMsgQueue : List Message
  eventQueue : List (Notice Event)
  session : Session
  faulted : Bool := false
  deriving DecidableEq, Repr

inductive Input (Call : Type) where
  | receive (msg : Message)
  | serve (filtering acting : Draws)
  | call (c : Call)
  | timeout (tid : TimerId)
  deriving DecidableEq, Repr

namespace Machine

variable {Event : Type} (machine : Machine Event)

def notify (notice : Notice Event) : Machine Event :=
  { machine with eventQueue := machine.eventQueue ++ [notice] }

def opening (s : Session) : Machine Event := { state := .offline, rxMsgQueue := [], eventQueue := [], session := s }

def receive (msg : Message) : Machine Event := { machine with rxMsgQueue := machine.rxMsgQueue ++ [msg] }

end Machine

namespace Program

section Messages

variable {Event Action Call : Type} (program : Program Event Action Call)
  (machine : Machine Event)

def handleMessage (draws : Draws) (filter : RxFilter Event) (msg : Message) : Machine Event :=
  if machine.state ∈ filter.validStates then
    match filter.handleMessage program.crypto draws msg machine.session with
    | .ok event s => { machine with session := s }.notify ⟨event, some msg⟩
    | .error (.thrown _) s => { machine with session := s }
    | .error .fault s => { machine with session := s, faulted := true }
  else machine

/-- `PANA_SessionRxInterfaceTable::Receive` of the next message. -/
def serveMessage (draws : Draws) : Machine Event :=
  match machine.rxMsgQueue with
  | [] => machine
  | msg :: rest =>
    match program.msgHandlers msg.type with
    | none => { machine with rxMsgQueue := rest }
    | some filter => program.handleMessage { machine with rxMsgQueue := rest } draws filter msg

def act (draws : Draws) (entry : StateTableEntry State Event Action) : Machine Event :=
  match program.perform draws entry.action machine.session with
  | .ok none s => { machine with state := entry.nextState, session := s }
  | .ok (some event) s => { machine with state := entry.nextState, session := s }.notify { event := event }
  | .error (.thrown _) s =>
    { machine with state := entry.nextState, session := s }.notify { event := program.stop }
  | .error .fault s => { machine with state := entry.nextState, session := s, faulted := true }

/-- The message that a call of `Serve` filters, with its filter; messages without a handler,
and those that come in another state, are dropped. -/
def filters : Option (RxFilter Event × Message) :=
  machine.rxMsgQueue.head?.bind fun msg =>
    ((program.msgHandlers msg.type).filter fun filter => machine.state ∈ filter.validStates).map (·, msg)

variable {program machine}

theorem filters_mem {filter : RxFilter Event} {msg : Message} (meets : program.filters machine = some (filter, msg)) :
    machine.rxMsgQueue.head? = some msg ∧ program.msgHandlers msg.type = some filter ∧
      machine.state ∈ filter.validStates := by
  unfold filters at meets
  obtain ⟨head, here, found⟩ := Option.bind_eq_some_iff.mp meets
  obtain ⟨handler, kept, same⟩ := Option.map_eq_some_iff.mp found
  cases same
  obtain ⟨handled, valid⟩ := Option.filter_eq_some_iff.mp kept
  exact ⟨here, handled, of_decide_eq_true valid⟩

variable (program machine)

@[simp] theorem state_serveMessage (draws : Draws) : (program.serveMessage machine draws).state = machine.state := by
  unfold serveMessage handleMessage
  split
  · rfl
  · split
    · rfl
    · split
      · split <;> rfl
      · rfl

theorem serveMessage_eq (draws : Draws) :
    program.serveMessage machine draws = match program.filters machine with
      | none => { machine with rxMsgQueue := machine.rxMsgQueue.tail }
      | some (filter, msg) =>
        program.handleMessage { machine with rxMsgQueue := machine.rxMsgQueue.tail } draws filter msg := by
  unfold serveMessage filters
  cases queue : machine.rxMsgQueue with
  | nil =>
    cases machine
    cases queue
    rfl
  | cons msg rest =>
    cases handled : program.msgHandlers msg.type with
    | none => simp [handled]
    | some filter =>
      by_cases valid : machine.state ∈ filter.validStates
      · simp [handled, valid, Option.filter_some]
      · simp [handled, valid, Option.filter_some, handleMessage]

theorem session_serveMessage (draws : Draws) :
    (program.serveMessage machine draws).session = match program.filters machine with
      | none => machine.session
      | some (filter, msg) => (filter.handleMessage program.crypto draws msg).after machine.session := by
  rw [serveMessage_eq]
  cases meets : program.filters machine with
  | none => rfl
  | some pair =>
    obtain ⟨filter, msg⟩ := pair
    dsimp only
    unfold handleMessage Imperative.after
    rw [if_pos (filters_mem meets).2.2]
    cases filter.handleMessage program.crypto draws msg machine.session with
    | ok event s => rfl
    | error failure s => cases failure <;> rfl

@[simp] theorem session_act (draws : Draws) (entry : StateTableEntry State Event Action) :
    (program.act machine draws entry).session = (program.perform draws entry.action).after machine.session := by
  unfold act Imperative.after
  cases program.perform draws entry.action machine.session with
  | ok event s => cases event <;> rfl
  | error failure s => cases failure <;> rfl

@[simp] theorem state_act (draws : Draws) (entry : StateTableEntry State Event Action) :
    (program.act machine draws entry).state = entry.nextState := by
  unfold act
  cases program.perform draws entry.action machine.session with
  | ok event s => cases event <;> rfl
  | error failure s => cases failure <;> rfl

inductive Notifies : Event → Prop
  | stopped : Notifies program.stop
  | acted {draws : Draws} {action : Action} {s t : Session} {event : Event}
      (performs : program.perform draws action s = .ok (some event) t) : Notifies event
  | called (c : Call) (s : Session) : Notifies (program.call c s).2
  | expired (tid : TimerId) : Notifies (program.timeout tid)

def Resolves (filtering : Draws) (notice : Notice Event) : Prop :=
  ∃ filter msg s, program.filters machine = some (filter, msg) ∧ notice.cause = some msg ∧
    filter.handleMessage program.crypto filtering msg machine.session = .ok notice.event s

theorem mem_eventQueue_serveMessage (filtering : Draws) {notice : Notice Event}
    (mem : notice ∈ (program.serveMessage machine filtering).eventQueue) :
    notice ∈ machine.eventQueue ∨ program.Resolves machine filtering notice := by
  rw [serveMessage_eq] at mem
  cases meets : program.filters machine with
  | none =>
    rw [meets] at mem
    exact Or.inl mem
  | some pair =>
    obtain ⟨filter, msg⟩ := pair
    rw [meets] at mem
    dsimp only at mem
    unfold handleMessage at mem
    rw [if_pos (filters_mem meets).2.2] at mem
    cases result : filter.handleMessage program.crypto filtering msg machine.session with
    | ok event s =>
      rw [result] at mem
      rcases List.mem_append.mp mem with old | new
      · exact Or.inl old
      · cases List.mem_singleton.mp new
        exact Or.inr ⟨filter, msg, s, meets, rfl, result⟩
    | error failure s =>
      rw [result] at mem
      cases failure <;> exact Or.inl mem

theorem mem_eventQueue_act (draws : Draws) (entry : StateTableEntry State Event Action) {notice : Notice Event}
    (mem : notice ∈ (program.act machine draws entry).eventQueue) :
    notice ∈ machine.eventQueue ∨ notice.cause = none ∧ program.Notifies notice.event := by
  unfold act at mem
  cases result : program.perform draws entry.action machine.session with
  | ok event s =>
    cases event with
    | none =>
      simp only [result] at mem
      exact Or.inl mem
    | some event =>
      simp only [result] at mem
      rcases List.mem_append.mp mem with old | new
      · exact Or.inl old
      · cases List.mem_singleton.mp new
        exact Or.inr ⟨rfl, .acted result⟩
  | error failure s =>
    cases failure with
    | fault =>
      simp only [result] at mem
      exact Or.inl mem
    | thrown e =>
      simp only [result] at mem
      rcases List.mem_append.mp mem with old | new
      · exact Or.inl old
      · cases List.mem_singleton.mp new
        exact Or.inr ⟨rfl, .stopped⟩

end Messages

section Events

variable {Event Action Call : Type} [DecidableEq Event] (program : Program Event Action Call)
  (machine : Machine Event)

def serveEvent (draws : Draws) : Machine Event :=
  match machine.eventQueue with
  | [] => machine
  | notice :: rest =>
    match program.table.findStateTableEntry machine.state notice.event with
    | none => { machine with eventQueue := rest }
    | some entry => program.act { machine with eventQueue := rest } draws entry

def serve (filtering acting : Draws) : Machine Event :=
  let filtered := program.serveMessage machine filtering
  if filtered.faulted then filtered else program.serveEvent filtered acting

/-- One step; nothing is said of a machine whose behaviour is undefined. -/
def step (input : Input Call) : Machine Event :=
  if machine.faulted then machine
  else
    match input with
    | .receive msg => machine.receive msg
    | .serve filtering acting => program.serve machine filtering acting
    | .call c =>
      let (s, event) := program.call c machine.session
      { machine with session := s }.notify { event := event }
    | .timeout tid =>
      if machine.session.timers.scheduled tid then machine.notify { event := program.timeout tid } else machine

def run (inputs : List (Input Call)) : Machine Event := inputs.foldl program.step machine

def handles (filtering : Draws) : Option (Notice Event × StateTableEntry State Event Action) :=
  let filtered := program.serveMessage machine filtering
  if filtered.faulted then none
  else filtered.eventQueue.head?.bind fun notice =>
    (program.table.findStateTableEntry filtered.state notice.event).map (notice, ·)

theorem serve_cases (filtering acting : Draws) :
    (program.handles machine filtering = none ∧ ∃ rest, rest <:+ (program.serveMessage machine filtering).eventQueue ∧
        program.serve machine filtering acting = { program.serveMessage machine filtering with eventQueue := rest }) ∨
      ∃ notice entry rest, program.handles machine filtering = some (notice, entry) ∧
        (program.serveMessage machine filtering).eventQueue = notice :: rest ∧
        program.table.findStateTableEntry machine.state notice.event = some entry ∧
        program.serve machine filtering acting =
          program.act { program.serveMessage machine filtering with eventQueue := rest } acting entry := by
  have stays := program.state_serveMessage machine filtering
  unfold serve handles
  generalize program.serveMessage machine filtering = filtered at stays
  by_cases faulted : filtered.faulted = true
  · simp only [if_pos faulted]
    exact Or.inl ⟨trivial, _, List.suffix_refl _, rfl⟩
  · simp only [if_neg faulted]
    unfold serveEvent
    cases queue : filtered.eventQueue with
    | nil =>
      refine Or.inl ⟨rfl, [], List.nil_suffix, ?_⟩
      cases filtered
      cases queue
      rfl
    | cons notice rest =>
      rw [List.head?_cons, Option.bind_some]
      dsimp only
      cases found : program.table.findStateTableEntry filtered.state notice.event with
      | none => exact Or.inl ⟨rfl, rest, List.suffix_cons _ _, rfl⟩
      | some entry => exact Or.inr ⟨notice, entry, rest, rfl, rfl, stays ▸ found, rfl⟩

theorem serve_alone {msg : Message} {rest : List Message} {filter : RxFilter Event}
    (next : machine.rxMsgQueue = msg :: rest) (quiet : machine.eventQueue = [])
    (handled : program.msgHandlers msg.type = some filter) (valid : machine.state ∈ filter.validStates)
    (filtering acting : Draws) :
    program.serve machine filtering acting =
      match filter.handleMessage program.crypto filtering msg machine.session with
      | .error (.thrown _) s => { machine with rxMsgQueue := rest, session := s }
      | .error .fault s => { machine with rxMsgQueue := rest, session := s, faulted := true }
      | .ok event s =>
        if machine.faulted then { machine with rxMsgQueue := rest, session := s, eventQueue := [⟨event, some msg⟩] }
        else
          match program.table.findStateTableEntry machine.state event with
          | none => { machine with rxMsgQueue := rest, session := s, eventQueue := [] }
          | some entry => program.act { machine with rxMsgQueue := rest, session := s, eventQueue := [] } acting entry := by
  cases machine
  cases next
  cases quiet
  unfold serve serveMessage handleMessage serveEvent
  simp only [handled, if_pos valid]
  cases filter.handleMessage program.crypto filtering msg _ with
  | ok event s =>
    simp only [Machine.notify, List.nil_append]
    rfl
  | error failure s =>
    cases failure with
    | thrown e =>
      simp only [ite_self]
    | fault => rfl

theorem session_serve (filtering acting : Draws) :
    (program.serve machine filtering acting).session = match program.handles machine filtering with
      | none => (program.serveMessage machine filtering).session
      | some (_, entry) =>
        (program.perform acting entry.action).after (program.serveMessage machine filtering).session := by
  rcases program.serve_cases machine filtering acting with ⟨idle, rest, _, same⟩ | ⟨notice, entry, rest, handled, _, _, same⟩
  · rw [idle, same]
  · rw [handled, same, session_act]

theorem state_serve (filtering acting : Draws) :
    (program.serve machine filtering acting).state = match program.handles machine filtering with
      | none => machine.state
      | some (_, entry) => entry.nextState := by
  rcases program.serve_cases machine filtering acting with ⟨idle, rest, _, same⟩ | ⟨notice, entry, rest, handled, _, _, same⟩
  · rw [idle, same]
    exact program.state_serveMessage machine filtering
  · rw [handled, same, state_act]

theorem handles_of_faulted {machine : Machine Event} (faulted : machine.faulted = true) (filtering : Draws) :
    program.handles machine filtering = none := by
  have stays : (program.serveMessage machine filtering).faulted = true := by
    rw [serveMessage_eq]
    cases program.filters machine with
    | none => exact faulted
    | some pair =>
      obtain ⟨filter, msg⟩ := pair
      dsimp only
      unfold handleMessage
      split
      · split
        · exact faulted
        · exact faulted
        · rfl
      · exact faulted
  unfold handles
  exact if_pos stays

def handling : Input Call → Option (Notice Event × StateTableEntry State Event Action)
  | .serve filtering _ => program.handles machine filtering
  | _ => none

theorem step_of_faulted {machine : Machine Event} (faulted : machine.faulted = true) (input : Input Call) :
    program.step machine input = machine := if_pos faulted

theorem step_serve {machine : Machine Event} (running : machine.faulted = false) (filtering acting : Draws) :
    program.step machine (.serve filtering acting) = program.serve machine filtering acting :=
  if_neg (Bool.eq_false_iff.mp running)

theorem step_receive {machine : Machine Event} (running : machine.faulted = false) (msg : Message) :
    program.step machine (.receive msg) = machine.receive msg :=
  if_neg (Bool.eq_false_iff.mp running)

theorem step_call {machine : Machine Event} (running : machine.faulted = false) (c : Call) :
    program.step machine (.call c) = { machine with session := (program.call c machine.session).1 }.notify
      { event := (program.call c machine.session).2 } :=
  if_neg (Bool.eq_false_iff.mp running)

theorem step_timeout {machine : Machine Event} (running : machine.faulted = false) (tid : TimerId) :
    program.step machine (.timeout tid) =
      if machine.session.timers.scheduled tid then machine.notify { event := program.timeout tid } else machine :=
  if_neg (Bool.eq_false_iff.mp running)

theorem state_step (input : Input Call) :
    (program.step machine input).state = match program.handling machine input with
      | none => machine.state
      | some (_, entry) => entry.nextState := by
  cases faulted : machine.faulted with
  | true =>
    rw [step_of_faulted _ faulted]
    cases input with
    | serve filtering acting => rw [handling, handles_of_faulted _ faulted]
    | receive msg => rfl
    | call c => rfl
    | timeout tid => rfl
  | false =>
    cases input with
    | serve filtering acting =>
      rw [step_serve _ faulted]
      exact program.state_serve machine filtering acting
    | receive msg => rw [step, if_neg (Bool.eq_false_iff.mp faulted)]; rfl
    | call c => rw [step, if_neg (Bool.eq_false_iff.mp faulted)]; rfl
    | timeout tid =>
      rw [step, if_neg (Bool.eq_false_iff.mp faulted)]
      split <;> rfl

theorem handling_mem {input : Input Call} {notice : Notice Event} {entry : StateTableEntry State Event Action}
    (handled : program.handling machine input = some (notice, entry)) :
    ∃ filtering acting, input = .serve filtering acting ∧
      notice ∈ (program.serveMessage machine filtering).eventQueue ∧
      program.table.findStateTableEntry machine.state notice.event = some entry := by
  cases input with
  | receive msg => cases handled
  | call c => cases handled
  | timeout tid => cases handled
  | serve filtering acting =>
    refine ⟨filtering, acting, rfl, ?_⟩
    rcases program.serve_cases machine filtering acting with ⟨idle, _⟩ | ⟨first, found, rest, first_handled, queue, here, _⟩
    · rw [handling, idle] at handled
      cases handled
    · rw [handling, first_handled] at handled
      cases handled
      rw [queue]
      exact ⟨List.mem_cons_self, here⟩

theorem mem_eventQueue_step (input : Input Call) {notice : Notice Event}
    (mem : notice ∈ (program.step machine input).eventQueue) :
    notice ∈ machine.eventQueue ∨ (∃ filtering acting, input = .serve filtering acting ∧
        program.Resolves machine filtering notice) ∨ notice.cause = none ∧ program.Notifies notice.event := by
  unfold step at mem
  split at mem
  · exact Or.inl mem
  · cases input with
    | receive msg => exact Or.inl mem
    | call c =>
      rcases List.mem_append.mp mem with old | new
      · exact Or.inl old
      · cases List.mem_singleton.mp new
        exact Or.inr (Or.inr ⟨rfl, .called c _⟩)
    | timeout tid =>
      dsimp only at mem
      split at mem
      · rcases List.mem_append.mp mem with old | new
        · exact Or.inl old
        · cases List.mem_singleton.mp new
          exact Or.inr (Or.inr ⟨rfl, .expired tid⟩)
      · exact Or.inl mem
    | serve filtering acting =>
      have filtered {notice : Notice Event}
          (here : notice ∈ (program.serveMessage machine filtering).eventQueue) :=
        program.mem_eventQueue_serveMessage machine filtering here
      have before (resolves : program.Resolves machine filtering notice) :
          ∃ first second : Draws, (Input.serve filtering acting : Input Call) = .serve first second ∧
            program.Resolves machine first notice := ⟨filtering, acting, rfl, resolves⟩
      rcases program.serve_cases machine filtering acting with ⟨_, rest, sub, same⟩ | ⟨_, entry, rest, _, queue, _, same⟩
      · dsimp only at mem
        rw [same] at mem
        exact (filtered (sub.mem mem)).imp_right fun resolves => Or.inl (before resolves)
      · dsimp only at mem
        rw [same] at mem
        rcases program.mem_eventQueue_act _ acting entry mem with old | new
        · have older := filtered (queue ▸ List.mem_cons_of_mem _ old)
          exact older.imp_right fun resolves => Or.inl (before resolves)
        · exact Or.inr (Or.inr new)

end Events

end Program

end OpenDiameter.Pana
