import OpenDiameter.Access.EapServer
import OpenDiameter.Access.NasreqServer
import OpenDiameter.Foundation.Runs

/-! No access without authentication and authorization.

A server is given requests, signals of its application and notices of its session, all at
any time, and serves what they notify in order. Beside it stands what the answers are to
be measured by: the request that was taken up last, what has been asked about it, and for
each signal how many requests had been taken up when it was called.
-/

set_option autoImplicit false

namespace OpenDiameter.Access.Grants

open Foundation

section Servings

variable (app : Application)

/-- An event in the queue, and what it was notified for. -/
inductive Posted where
  | request (message : Request app.Body)
  | signal (signal : Signal app.Continuing app.Ending) (taken : Nat)
  | notice (notice : Notice)

structure Answered where
  code : ResultCode
  request : Option (Request app.Body)
  succeeded : Bool
  /-- What was asked to authorize since the request was taken up. -/
  calls : List (Call Value × Bool)

structure Serving where
  server : Server app
  queue : List (Posted app)
  dead : Bool
  taken : Nat
  current : Option (Request app.Body)
  calls : List (Call Value × Bool)
  log : List (Answered app)

inductive Input where
  | receive (message : Request app.Body)
  /-- A request of another application. -/
  | refuse
  | signal (signal : Signal app.Continuing app.Ending)
  | notice (notice : Notice)
  | serve (turn : app.AppTurn)

variable {app}

namespace Posted

def event : Posted app → ServerEvent
  | .request _ => .rxRequest
  | .signal called _ => called.event
  | .notice heard => heard.event

def isRequest : Posted app → Bool
  | .request _ => true
  | .signal .. | .notice _ => false

def isSuccess : Posted app → Bool
  | .signal (.success _) _ => true
  | .signal (.continue _) _ | .signal (.failure _) _ | .request _ | .notice _ => false

end Posted

def Serving.initial (data : app.Data) : Serving app where
  server := ⟨.initial, data⟩
  queue := []
  dead := false
  taken := 0
  current := none
  calls := []
  log := []

namespace Serving

variable (s : Serving app)

def takeUp : Posted app → Serving app
  | .request message =>
    if s.server.state.awaits then { s with taken := s.taken + 1, current := some message, calls := [] } else s
  | .signal .. | .notice _ => s

def succeeds : Posted app → Bool
  | .signal (.success _) taken => taken == s.taken
  | .request _ | .signal (.continue _) _ | .signal (.failure _) _ | .notice _ => false

def take (posted : Posted app) (rest : List (Posted app)) (turn : app.AppTurn) : Serving app :=
  let (server, effects) := s.server.event turn posted.event
  let s := s.takeUp posted
  let calls := s.calls ++ effects.filterMap Effect.call
  { s with
    server
    queue := rest
    dead := effects.any Effect.isFault
    calls
    log := s.log ++ (effects.filterMap Effect.code).map fun code => ⟨code, s.current, s.succeeds posted, calls⟩ }

def post (posted : Posted app) (data : app.Data) : Serving app :=
  { s with server := { s.server with data }, queue := s.queue ++ [posted] }

def step (s : Serving app) (input : Input app) : Serving app :=
  if s.dead then s
  else
    match input with
    | .receive message => s.post (.request message) (app.parse s.server.data message)
    | .refuse => { s with server := { s.server with data := app.refuse s.server.data } }
    | .signal signal => s.post (.signal signal s.taken) (app.signalled signal s.server.data)
    | .notice notice => s.post (.notice notice) s.server.data
    | .serve turn =>
      match s.queue with
      | [] => s
      | posted :: rest => s.take posted rest turn

end Serving

end Servings

section Purpose

variable {app : Application}

def Answered.Granted (answered : Answered app) : Prop :=
  answered.code = .success → answered.succeeded = true ∧
    ∀ message ∈ answered.request, message.onlyAuthenticates ∨
      ∀ call ∈ requiredCalls message.avps app.chain, (call, true) ∈ answered.calls

instance (answered : Answered app) : Decidable answered.Granted :=
  inferInstanceAs (Decidable (_ → _ ∧ ∀ _ ∈ _, _ ∨ ∀ _ ∈ _, _))

def Answered.Refused (answered : Answered app) : Prop :=
  ∀ call ∈ answered.calls, call.2 = false → answered.code = .authorizationRejected ∨
    ∃ message ∈ answered.request, message.onlyAuthenticates

structure Answered.Justified (answered : Answered app) : Prop where
  taken : answered.request.isSome = true
  granted : answered.Granted
  refused : answered.Refused

end Purpose

section Condition

variable {app : Application}

def Serving.Quiet (s : Serving app) : Prop :=
  s.server.state ≠ .waitInfo ∧ ∀ posted ∈ s.queue, posted.isRequest = false

instance (s : Serving app) : Decidable s.Quiet := inferInstanceAs (Decidable (_ ∧ ∀ _ ∈ _, _))

def Serving.Declined (s : Serving app) (turn : app.AppTurn) : Prop :=
  s.server.data.answerType.value ≠ authenticationOnly ∧ Refuses app.chain s.server.data.request turn.reply

instance (s : Serving app) (turn : app.AppTurn) : Decidable (s.Declined turn) :=
  inferInstanceAs (Decidable (_ ∧ _))

def Serving.Spared (s : Serving app) (turn : app.AppTurn) : Posted app → Prop
  | .request message => s.server.state.awaits = true →
      (turn.reply ⟨.multiRoundTimeOut, none⟩).accepted = true ∨ message.onlyAuthenticates
  | .signal (.success _) _ => s.server.state = .waitInfo →
      (∃ message ∈ s.current, message.onlyAuthenticates) ∨ s.Declined turn
  | .signal (.continue _) _ | .signal (.failure _) _ | .notice _ => True

instance (s : Serving app) (turn : app.AppTurn) : (posted : Posted app) → Decidable (s.Spared turn posted)
  | .request _ => inferInstanceAs (Decidable (_ → _ ∨ _))
  | .signal (.success _) _ => inferInstanceAs (Decidable (_ → _ ∨ _))
  | .signal (.continue _) _ | .signal (.failure _) _ | .notice _ => .isTrue trivial

def Guarded (s : Serving app) : Input app → Prop
  | .receive _ | .refuse => s.Quiet
  | .signal (.success _) => ∀ posted ∈ s.queue, posted.isRequest = false
  | .signal (.continue _) | .signal (.failure _) | .notice _ => True
  | .serve turn => ∀ posted ∈ s.queue.head?, s.Spared turn posted

instance (s : Serving app) : (input : Input app) → Decidable (Guarded s input)
  | .receive _ | .refuse => inferInstanceAs (Decidable s.Quiet)
  | .signal (.success _) => inferInstanceAs (Decidable (∀ _ ∈ _, _))
  | .signal (.continue _) | .signal (.failure _) | .notice _ => .isTrue trivial
  | .serve _ => inferInstanceAs (Decidable (∀ _ ∈ _, _))

end Condition

section Invariant

variable {app : Application} {s : Serving app}

/-- What holds of a machine that is not dead. -/
structure Sound (s : Serving app) : Prop where
  rests : s.server.state.rests = true
  undone : s.server.data.authorizationDone = false
  tags : ∀ posted ∈ s.queue, posted.isSuccess = true → s.succeeds posted = true
  single : s.queue.Pairwise fun first later => first.isRequest = true → later.isRequest = false ∧ later.isSuccess = false
  read : ∀ message, Posted.request message ∈ s.queue → message.onlyAuthenticates →
    s.server.data.requestType.value = authenticationOnly
  waits : s.server.state = .waitInfo → ∃ message, s.current = some message ∧
    (message.onlyAuthenticates → s.server.data.answerType.value = authenticationOnly) ∧
    ∀ call ∈ s.calls, call.2 = false → message.onlyAuthenticates

structure Holds (s : Serving app) : Prop where
  log : ∀ answered ∈ s.log, answered.Justified
  sound : s.dead = false → Sound s

theorem initial_holds {data : app.Data} (undone : data.authorizationDone = false) : Holds (.initial data) where
  log := List.forall_mem_nil _
  sound := fun _ => ⟨rfl, undone, List.forall_mem_nil _, .nil, fun _ mem => absurd mem List.not_mem_nil, nofun⟩

section Posting

theorem Sound.post (sound : Sound s) {posted : Posted app} {data : app.Data}
    (undone : data.authorizationDone = false) (tag : posted.isSuccess = true → s.succeeds posted = true)
    (alone : posted.isRequest = true ∨ posted.isSuccess = true → ∀ other ∈ s.queue, other.isRequest = false)
    (read : ∀ message, Posted.request message ∈ s.queue ++ [posted] → message.onlyAuthenticates →
      data.requestType.value = authenticationOnly)
    (waits : s.server.state = .waitInfo → data.answerType = s.server.data.answerType) :
    Sound (s.post posted data) where
  rests := sound.rests
  undone := undone
  tags := by
    intro other mem success
    rcases List.mem_append.mp mem with mem | mem
    · exact sound.tags other mem success
    · obtain rfl := List.mem_singleton.mp mem
      exact tag success
  single := by
    refine List.pairwise_append.mpr ⟨sound.single, List.pairwise_singleton _ _, ?_⟩
    intro first mem later same request
    obtain rfl := List.mem_singleton.mp same
    constructor
    · by_contra isRequest
      have none := alone (Or.inl (eq_true_of_ne_false isRequest)) first mem
      rw [request] at none
      cases none
    · by_contra isSuccess
      have none := alone (Or.inr (eq_true_of_ne_false isSuccess)) first mem
      rw [request] at none
      cases none
  read := read
  waits := by
    intro waiting
    obtain ⟨message, current, answerType, calls⟩ := sound.waits waiting
    refine ⟨message, current, fun only => ?_, calls⟩
    change data.answerType.value = authenticationOnly
    rw [waits waiting]
    exact answerType only

theorem Sound.receive (lawful : app.Lawful) (sound : Sound s) (quiet : s.Quiet) (message : Request app.Body) :
    Sound (s.post (.request message) (app.parse s.server.data message)) := by
  refine sound.post ((lawful.parse_done _ _).trans sound.undone) nofun (fun _ => quiet.2) ?_
    fun waiting => absurd waiting quiet.1
  intro other mem only
  rcases List.mem_append.mp mem with mem | mem
  · cases quiet.2 _ mem
  · cases List.mem_singleton.mp mem
    exact lawful.parse_type _ _ _ only

theorem Sound.refuse (lawful : app.Lawful) (sound : Sound s) (quiet : s.Quiet) :
    Sound { s with server := { s.server with data := app.refuse s.server.data } } where
  rests := sound.rests
  undone := (lawful.refuse_done _).trans sound.undone
  tags := sound.tags
  single := sound.single
  read := fun _ mem => nomatch quiet.2 _ mem
  waits := fun waiting => absurd waiting quiet.1

theorem Sound.signal (lawful : app.Lawful) (sound : Sound s) {signal : Signal app.Continuing app.Ending}
    (guarded : Guarded s (.signal signal)) :
    Sound (s.post (.signal signal s.taken) (app.signalled signal s.server.data)) := by
  have keeps := lawful.signalled signal s.server.data
  refine sound.post (keeps.authorizationDone.trans sound.undone) ?_ ?_ ?_ fun _ => keeps.answerType
  · intro success
    cases signal with
    | success => exact beq_self_eq_true s.taken
    | «continue» | failure => cases success
  · intro success
    cases signal with
    | success => exact guarded
    | «continue» | failure => rcases success with success | success <;> cases success
  · intro message mem only
    rw [keeps.requestType]
    rcases List.mem_append.mp mem with mem | mem
    · exact sound.read message mem only
    · cases List.mem_singleton.mp mem

theorem Sound.notice (sound : Sound s) (notice : Notice) : Sound (s.post (.notice notice) s.server.data) := by
  refine sound.post sound.undone nofun (fun either => by rcases either with none | none <;> cases none) ?_ fun _ => rfl
  intro message mem only
  rcases List.mem_append.mp mem with mem | mem
  · exact sound.read message mem only
  · cases List.mem_singleton.mp mem

end Posting

section Taking

variable {posted : Posted app} {rest : List (Posted app)} {turn : app.AppTurn} {server : Server app}
  {effects : List (Effect app)}

theorem Sound.tail (sound : Sound s) (queue : s.queue = posted :: rest) :
    (∀ other ∈ rest, other.isSuccess = true → s.succeeds other = true) ∧
      rest.Pairwise (fun first later => first.isRequest = true → later.isRequest = false ∧ later.isSuccess = false) ∧
      (posted.isRequest = true → ∀ other ∈ rest, other.isRequest = false ∧ other.isSuccess = false) := by
  have single := sound.single
  rw [queue] at single
  refine ⟨fun other mem => sound.tags other (queue ▸ List.mem_cons_of_mem _ mem), (List.pairwise_cons.mp single).2, ?_⟩
  exact fun request other mem => (List.pairwise_cons.mp single).1 other mem request

theorem takeUp_other (other : posted.isRequest = false ∨ s.server.state.awaits = false) : s.takeUp posted = s := by
  cases posted with
  | request message =>
    rcases other with none | unready
    · cases none
    · exact if_neg (ne_true_of_eq_false unready)
  | signal | notice => rfl

theorem takeUp_log : (s.takeUp posted).log = s.log := by
  cases posted with
  | request message =>
    simp only [Serving.takeUp]
    split <;> rfl
  | signal | notice => rfl

theorem Holds.taken (holds : Holds s) (runs : s.server.event turn posted.event = (server, effects))
    (records : ∀ code ∈ effects.filterMap Effect.code, Answered.Justified
      ⟨code, (s.takeUp posted).current, (s.takeUp posted).succeeds posted,
        (s.takeUp posted).calls ++ effects.filterMap Effect.call⟩)
    (sound : effects.any Effect.isFault = false → Sound (s.take posted rest turn)) :
    Holds (s.take posted rest turn) := by
  refine ⟨?_, fun alive => sound ?_⟩
  · simp only [Serving.take, runs]
    intro answered mem
    rcases List.mem_append.mp mem with earlier | mem
    · exact holds.log answered (takeUp_log ▸ earlier)
    · obtain ⟨code, sent, rfl⟩ := List.mem_map.mp mem
      exact records code sent
  · simp only [Serving.take, runs] at alive
    exact alive

theorem Sound.served (sound : Sound s) (queue : s.queue = posted :: rest)
    (other : posted.isRequest = false ∨ s.server.state.awaits = false)
    (runs : s.server.event turn posted.event = (server, effects)) (rests : server.state.rests = true)
    (unwaiting : server.state ≠ .waitInfo) (undone : server.data.authorizationDone = false)
    (type : server.data.requestType = s.server.data.requestType) : Sound (s.take posted rest turn) := by
  obtain ⟨tags, single, -⟩ := sound.tail queue
  simp only [Serving.take, runs, takeUp_other other]
  refine ⟨rests, undone, tags, single, ?_, fun waiting => absurd waiting unwaiting⟩
  intro message mem only
  change server.data.requestType.value = authenticationOnly
  rw [type]
  exact sound.read message (queue ▸ List.mem_cons_of_mem _ mem) only

/-- An event that ends the conversation, or finds it ended. -/
theorem Holds.otherwise (holds : Holds s) (sound : Sound s) (queue : s.queue = posted :: rest)
    (other : posted.isRequest = false ∨ s.server.state.awaits = false)
    (runs : s.server.event turn posted.event =
      (⟨if s.server.state = .rejected then .rejected else .terminated, s.server.data⟩, [])) :
    Holds (s.take posted rest turn) := by
  refine holds.taken runs (List.forall_mem_nil _) fun _ => ?_
  refine sound.served queue other runs ?_ ?_ sound.undone rfl
  · dsimp only
    split <;> rfl
  · dsimp only
    split <;> nofun

theorem Holds.answered (lawful : app.Lawful) (holds : Holds s) (sound : Sound s) (queue : s.queue = posted :: rest)
    (other : posted.isRequest = false) (code : ResultCode) (next : ServerState)
    (runs : s.server.event turn posted.event = s.server.answering turn code next)
    (rests : next.rests = true) (unwaiting : next ≠ .waitInfo)
    (record : Answered.Justified ⟨code, s.current, s.succeeds posted, s.calls⟩) :
    Holds (s.take posted rest turn) := by
  have keeps := lawful.send turn code s.server.data
  refine holds.taken runs ?_ fun _ =>
    sound.served queue (Or.inl other) runs rests unwaiting (keeps.authorizationDone.trans sound.undone) keeps.requestType
  intro sent mem
  obtain rfl := mem_code_effect mem
  rw [takeUp_other (Or.inl other)]
  simp only [List.filterMap_cons, call_effect, List.filterMap_nil, List.append_nil]
  exact record

theorem Holds.request (lawful : app.Lawful) (holds : Holds s) (sound : Sound s) {message : Request app.Body}
    (queue : s.queue = .request message :: rest) (awaits : s.server.state.awaits = true)
    (spared : s.Spared turn (.request message)) : Holds (s.take (.request message) rest turn) := by
  have up : s.takeUp (.request message) = { s with taken := s.taken + 1, current := some message, calls := [] } :=
    if_pos awaits
  -- A callback refuses only what was to be authenticated.
  have asked : ∀ call ∈ (app.check turn s.server.data).calls, call.2 = false → message.onlyAuthenticates := by
    intro call mem refused
    rcases spared awaits with accepted | only
    · rw [lawful.check_calls turn s.server.data call mem, accepted] at refused
      cases refused
    · exact only
  obtain ⟨-, -, alone⟩ := sound.tail queue
  have lone : ∀ other ∈ rest, other.isSuccess = false := fun other mem => (alone rfl other mem).2
  have unread : ∀ other ∈ rest, other.isRequest = false := fun other mem => (alone rfl other mem).1
  have undone := (lawful.check_done turn s.server.data).trans sound.undone
  have runs := Server.event_request turn awaits
  unfold Server.checking at runs
  dsimp only at runs
  cases verdict : (app.check turn s.server.data).verdict with
  -- The check ends the process, so that the invariant asks nothing.
  | none =>
    rw [verdict] at runs
    refine holds.taken runs ?_ ?_
    · rw [List.filterMap_append, filterMap_code_asking]
      exact List.forall_mem_nil _
    · rw [List.any_append]
      intro alive
      cases (Bool.or_eq_false_iff.mp alive).2
  | some valid =>
    rw [verdict] at runs
    cases valid with
    -- The request is forwarded to the application.
    | true =>
      refine holds.taken runs ?_ fun _ => ?_
      · rw [List.filterMap_append, filterMap_code_asking, List.nil_append]
        have silent : (app.forwarding (app.check turn s.server.data).data).code = none := by
          unfold Application.forwarding
          split <;> rfl
        rw [List.filterMap_cons, silent]
        exact List.forall_mem_nil _
      · have calls : (app.forwarding (app.check turn s.server.data).data).call = none := by
          unfold Application.forwarding
          split <;> rfl
        simp only [Serving.take, Posted.event, runs, up, List.filterMap_append, filterMap_call_asking,
          List.filterMap_cons, calls, List.filterMap_nil, List.nil_append, List.append_nil]
        refine ⟨rfl, undone, ?_, (sound.tail queue).2.1, ?_, ?_⟩
        · intro other mem success
          rw [lone other mem] at success
          cases success
        · intro other mem only
          cases unread _ mem
        · intro _
          refine ⟨message, rfl, fun only => ?_, asked⟩
          exact (lawful.check_type turn s.server.data verdict).trans
            (sound.read message (queue ▸ List.mem_cons_self) only)
    -- An invalid AVP is answered without the application.
    | false =>
      have keeps := lawful.send turn .invalidAvpValue (app.check turn s.server.data).data
      refine holds.taken runs ?_ fun _ => ?_
      · intro code mem
        have same : code = .invalidAvpValue := by
          simp only [Server.answering, List.filterMap_append, filterMap_code_asking, List.nil_append] at mem
          exact mem_code_effect mem
        subst same
        refine ⟨by rw [up]; rfl, nofun, ?_⟩
        intro call mem refused
        simp only [Server.answering, up, List.filterMap_append, filterMap_call_asking, List.filterMap_cons, call_effect,
          List.filterMap_nil, List.nil_append, List.append_nil] at mem
        exact Or.inr ⟨message, by rw [up]; rfl, asked call mem refused⟩
      · simp only [Serving.take, Posted.event, runs, up]
        refine ⟨rfl, keeps.authorizationDone.trans undone, ?_, (sound.tail queue).2.1, ?_, nofun⟩
        · intro other mem success
          rw [lone other mem] at success
          cases success
        · intro other mem only
          cases unread _ mem

theorem Holds.success (lawful : app.Lawful) (holds : Holds s) (sound : Sound s) {argument : app.Ending} {tag : Nat}
    (queue : s.queue = .signal (.success argument) tag :: rest) (waits : s.server.state = .waitInfo)
    (spared : s.Spared turn (.signal (.success argument) tag)) :
    Holds (s.take (.signal (.success argument) tag) rest turn) := by
  obtain ⟨message, current, answerType, refused⟩ := sound.waits waits
  have succeeded := sound.tags _ (queue ▸ List.mem_cons_self) rfl
  have runs := Server.event_success turn waits
  unfold Server.authorizing at runs
  rw [if_neg (ne_true_of_eq_false sound.undone)] at runs
  by_cases only : s.server.data.answerType.value = authenticationOnly
  · have allowed : app.authorize turn s.server.data = (true, s.server.data, []) := if_pos only
    rw [allowed] at runs
    refine holds.answered lawful sound queue rfl .success .accepted runs rfl nofun ⟨by rw [current]; rfl, fun _ => ⟨succeeded, ?_⟩, ?_⟩
    · intro other mem
      rcases spared waits with ⟨same, among, onlySame⟩ | declined
      · obtain rfl := Option.mem_unique mem among
        exact Or.inl onlySame
      · exact absurd only declined.1
    · intro call mem denied
      exact Or.inr ⟨message, current, refused call mem denied⟩
  · have declined : s.Declined turn := by
      rcases spared waits with ⟨same, among, onlySame⟩ | declined
      · obtain rfl := Option.mem_unique among current
        exact absurd (answerType onlySame) only
      · exact declined
    -- The chain stops at a callback that refuses.
    have denied : (app.authorize turn s.server.data).1 = false := by
      rw [Application.authorize, if_neg only]
      dsimp only
      rw [authorizeFrom_settles lawful.settled]
      exact Bool.eq_false_iff.mpr fun accepted => (authorizeFrom_accepted _).mp accepted declined.2
    have kept : (app.authorize turn s.server.data).2.1.authorizationDone = false ∧
        (app.authorize turn s.server.data).2.1.requestType = s.server.data.requestType := by
      rw [Application.authorize, if_neg only] at denied ⊢
      exact ⟨(congrArg₂ (· || ·) sound.undone denied :), rfl⟩
    have keeps := lawful.send turn .authorizationRejected (app.authorize turn s.server.data).2.1
    simp only [denied, Bool.false_eq_true, if_false] at runs
    refine holds.taken runs ?_ fun _ => sound.served queue (Or.inl rfl) runs rfl nofun
      (keeps.authorizationDone.trans kept.1) (keeps.requestType.trans kept.2)
    intro code mem
    have same : code = .authorizationRejected := by
      simp only [Server.answering, List.filterMap_append, filterMap_code_asking, List.nil_append] at mem
      exact mem_code_effect mem
    subst same
    exact ⟨by rw [takeUp_other (Or.inl rfl), current]; rfl, nofun, fun _ _ _ => Or.inl rfl⟩

theorem Holds.serve (lawful : app.Lawful) (holds : Holds s) (sound : Sound s) (queue : s.queue = posted :: rest)
    (spared : s.Spared turn posted) : Holds (s.take posted rest turn) := by
  have rests := sound.rests
  cases posted with
  | request message =>
    cases awaits : s.server.state.awaits with
    | true => exact holds.request lawful sound queue awaits spared
    | false =>
      refine holds.otherwise sound queue (Or.inr awaits) (Server.event_otherwise turn rests ?_ ?_)
      · intro ⟨ready, _⟩
        rw [awaits] at ready
        cases ready
      · intro ⟨_, other⟩
        rcases other with other | other | other <;> cases other
  | notice notice => exact holds.otherwise sound queue (Or.inl rfl) (Server.event_notice turn rests notice)
  | signal signal tag =>
    by_cases waits : s.server.state = .waitInfo
    · obtain ⟨message, current, -, refused⟩ := sound.waits waits
      have told (code : ResultCode) (other : code ≠ .success) (succeeded : Bool) :
          Answered.Justified ⟨code, s.current, succeeded, s.calls⟩ :=
        ⟨by rw [current]; rfl, fun success => absurd success other,
          fun call mem denied => Or.inr ⟨message, current, refused call mem denied⟩⟩
      cases signal with
      | «continue» argument =>
        exact holds.answered lawful sound queue rfl _ _ (Server.event_continue turn waits) rfl nofun (told .multiRoundAuth nofun _)
      | failure argument =>
        exact holds.answered lawful sound queue rfl _ _ (Server.event_failure turn waits) rfl nofun (told .authenticationRejected nofun _)
      | success argument => exact holds.success lawful sound queue waits spared
    · refine holds.otherwise sound queue (Or.inl rfl) (Server.event_otherwise turn rests ?_ fun ⟨waiting, _⟩ => waits waiting)
      intro ⟨_, other⟩
      cases signal <;> cases other

theorem Holds.step (lawful : app.Lawful) (holds : Holds s) {input : Input app} (guarded : Guarded s input) :
    Holds (s.step input) := by
  unfold Serving.step
  split
  case isTrue => exact holds
  case isFalse alive =>
    have sound := holds.sound (Bool.eq_false_iff.mpr alive)
    cases input with
    | receive message => exact ⟨holds.log, fun _ => sound.receive lawful guarded message⟩
    | refuse => exact ⟨holds.log, fun _ => sound.refuse lawful guarded⟩
    | signal signal => exact ⟨holds.log, fun _ => sound.signal lawful guarded⟩
    | notice notice => exact ⟨holds.log, fun _ => sound.notice notice⟩
    | serve turn =>
      dsimp only
      cases queue : s.queue with
      | nil => exact holds
      | cons posted rest =>
        exact holds.serve lawful sound queue (guarded posted (by rw [queue]; rfl))

end Taking

end Invariant

section Runs

inductive Kind where
  | eap | nasreq
  deriving DecidableEq, Repr

def Kind.server : Kind → Application
  | .eap => eapServer
  | .nasreq => nasreqServer

theorem Kind.lawful (kind : Kind) : kind.server.Lawful := by
  cases kind with
  | eap => exact eapServer_lawful
  | nasreq => exact nasreqServer_lawful

/-- What the condition leaves out is not justified: about `Framed-Compression` an authorization
never makes the call that the request calls for. -/
theorem Kind.framedCompression_unasked (kind : Kind) {request : Avp → Attribute Value}
    {reply : Call Value → Reply Value} {granted : Avp → Attribute Value} {r : Bool} :
    ∀ call ∈ (authorizeFrom request reply r granted kind.server.chain).calls,
      call.1 ≠ ⟨.framedCompression, (request .framedCompression).carried⟩ :=
  unasked_of_inverted (by cases kind <;> decide)

/-- In a run in which requests come one at a time, no success is signalled ahead of its
request, and what is not only authentication is declined, every answer is justified. -/
theorem answers_justified (kind : Kind) {data : kind.server.Data} (undone : data.authorizationDone = false)
    {inputs : List (Input kind.server)} (guarded : Stepwise Serving.step Guarded (.initial data) inputs) :
    ∀ answered ∈ (inputs.foldl Serving.step (.initial data)).log, answered.Justified :=
  (guarded.invariant (fun _ _ holds => holds.step kind.lawful) (initial_holds undone)).log

section Samples

def unset {V : Type} (value : V) : Attribute V := ⟨value, false⟩

def sampleData : (kind : Kind) → kind.server.Data
  | .eap =>
    { requestType := unset 0, request := fun _ => unset (.octets []), answerType := unset 0,
      granted := fun _ => unset (.octets []), authorizationDone := false
      own := ⟨unset [], unset [], .set [], unset [], unset [], unset [], unset [], unset []⟩ }
  | .nasreq =>
    { requestType := unset 0, request := fun _ => unset (.octets []), answerType := unset 0,
      granted := fun _ => unset (.octets []), authorizationDone := false
      own := ⟨unset [], unset [], unset [], unset [], unset [], unset [], unset 0, unset [], unset [], unset [],
        unset [], unset [], unset 0, unset [], unset 0, none⟩ }

def sampleRequest (type : UInt32) : (kind : Kind) → Request kind.server.Body
  | .eap => ⟨some type, fun _ => none, { eapPayload := some [2, 0, 0, 5, 1] }⟩
  | .nasreq => ⟨some type, fun _ => none, { userName := some [97], userPassword := some [98] }⟩

def sampleTurn (accepts : Avp → Bool) : (kind : Kind) → kind.server.AppTurn
  | .eap => ⟨fun call => ⟨accepts call.avp, unset (.octets [])⟩, ⟨fun _ => true, fun _ _ => true, id, fun a _ => a, id⟩⟩
  | .nasreq =>
    ⟨fun call => ⟨accepts call.avp, unset (.octets [])⟩, ⟨fun _ => true, fun _ _ => true, id, fun a _ => a, 0⟩⟩

def sampleSuccess : (kind : Kind) → Signal kind.server.Continuing kind.server.Ending
  | .eap => .success [3, 0, 0, 4]
  | .nasreq => .success ()

def sampleRun (type : UInt32) (accepts : Avp → Bool) (kind : Kind) : List (Input kind.server) :=
  [.receive (sampleRequest type kind), .serve (sampleTurn accepts kind), .signal (sampleSuccess kind),
    .serve (sampleTurn accepts kind)]

end Samples

def AnswersJustified {app : Application} (s : Serving app) : Prop := ∀ answered ∈ s.log, answered.Justified

/-- A request that only authenticates is granted, and the next one is declined because of its realm. -/
theorem answers_justified_declined :
    AnswersJustified ((sampleRun authenticationOnly (fun _ => true) .eap ++
      sampleRun authorizeAuthenticate (· != .originRealm) .eap).foldl Serving.step (.initial (sampleData .eap))) :=
  answers_justified .eap rfl (by decide +kernel)

/-- A request without `Framed-Compression`, to an application that allows everything. -/
def sampleUnjustified (kind : Kind) : Serving kind.server :=
  (sampleRun authorizeAuthenticate (fun _ => true) kind).foldl Serving.step (.initial (sampleData kind))

/-- The application is not asked about its `Framed-Compression` as the request calls for. -/
theorem answers_unjustified :
    ¬AnswersJustified (sampleUnjustified .eap) ∧ ¬AnswersJustified (sampleUnjustified .nasreq) := by
  constructor
  all_goals
    intro justified
    have granted := fun answered mem => (justified answered mem).granted
    revert granted
    decide +kernel

end Runs

end OpenDiameter.Access.Grants
