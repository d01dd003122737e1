import OpenDiameter.Foundation.Runs
import OpenDiameter.Session.LocalHandler

/-! The ids that the answers of an authorization session carry.

A session keeps the ids of the request that it received last, and gives them to every
answer. An STR, an ASR or a RAR is received before its event is notified, a request of
the service within its event, and other threads may come in between.
-/

set_option autoImplicit false

namespace OpenDiameter.Session.AnswerIds

open Foundation OpenDiameter.Framework LocalHandler

section Vocabulary

inductive Role where
  | client | server
  deriving DecidableEq, Repr

/-- What a request asks of the session; all but the last are of the base protocol. -/
inductive Kind where
  | termination | abort | reAuth | service
  deriving DecidableEq, Repr

structure Ids where
  hopByHop : UInt32
  endToEnd : UInt32
  deriving DecidableEq, Repr

structure Request where
  code : UInt32
  ids : Ids
  reAuthType : Option UInt32 := none
  deriving DecidableEq, Repr

structure Received where
  serial : Nat
  kind : Kind
  ids : Ids
  reAuthType : Option UInt32
  deriving DecidableEq, Repr

structure Answer where
  kind : Kind
  request : Received
  ids : Ids
  deriving DecidableEq, Repr

def Role.filter (maintained : Bool) (code : UInt32) : Role → Option Kind
  | .server =>
    if code = msgCodeSessionTermination ∧ maintained = true then some .termination
    else if code = msgCodeAbortSession then none
    else some .service
  | .client =>
    if code = msgCodeAbortSession ∧ maintained = true then some .abort
    else if code = msgCodeSessionTermination then none
    else if code = msgCodeReAuth then some .reAuth
    else some .service

/-- The event of a request, where `AbortSession` may succeed; a RAR without a type has none. -/
def Received.event (request : Received) (aborts : Bool) : Option AuthEvent :=
  match request.kind with
  | .termination => some .rxStr
  | .abort => some (if aborts then .rxAsrOk else .rxAsrRetry)
  | .reAuth => if request.reAuthType.isSome then some .rxRar else none
  | .service => some .rxSsar

/-- What matters here of what an action does: it answers a request of the base protocol,
gives the pending message to the application, or sends it. -/
inductive Report where
  | answers (kind : Kind)
  | given | delivered
  deriving DecidableEq, Repr

def report : AuthCallback → Option Report
  | .txSta _ => some (.answers .termination)
  | .txAsa _ => some (.answers .abort)
  | .txRaa _ => some (.answers .reAuth)
  | .receive => some .given
  | .deliver => some .delivered
  | _ => none

inductive Subject where
  | received (request : Received)
  | answering (request : Received)
  | other
  deriving DecidableEq, Repr

/-- Events that no request and no call of `Send` notifies. -/
def elsewhere : AuthEvent → Bool
  | .rxStr | .rxAsr | .rxAsrOk | .rxAsrRetry | .rxRar | .rxSsar | .txSsar | .txSsaa => false
  | _ => true

end Vocabulary

section Sessions

structure AuthSession where
  role : Role
  machine : AuthMachine
  lastRx : Ids
  receiving : List Received
  returning : List (AuthEvent × AuthTurn)
  count : Nat
  last : Option Nat
  waiting : List Received
  answers : List Answer

inductive Input where
  /-- `RxRequest`, up to `Notify`. -/
  | receive (request : Request) (maintained : Bool)
  /-- The event of a request is notified; `AbortSession` may succeed. -/
  | proceed (n : Nat) (aborts : Bool) (turn : AuthTurn)
  | send (answered : Option Received) (turn : AuthTurn)
  | returns
  /-- An answer, a timer, or another call of the application. -/
  | notify (event : { event : AuthEvent // elsewhere event = true }) (turn : AuthTurn)

variable (abortRetryTm : UInt32)

def Role.handle (machine : AuthMachine) : Role → AuthMachine × List AuthCallback
  | .client => Client.program.handle machine
  | .server => (Server.program abortRetryTm).handle machine

namespace AuthSession

variable (session : AuthSession)

def msgIdRxMessage (request : Received) : AuthSession :=
  { session with lastRx := request.ids, last := some request.serial }

def txAnswer (kind : Kind) (request : Received) : AuthSession :=
  { session with answers := session.answers ++ [⟨kind, request, session.lastRx⟩] }

def hear (subject : Subject) (session : AuthSession) (report : Report) : AuthSession :=
  match subject, report with
  | .received request, .answers kind => session.txAnswer kind request
  | .received request, .given =>
    { session.msgIdRxMessage request with waiting := session.waiting ++ [request] }
  | .answering request, .delivered =>
    { session.txAnswer .service request with waiting := session.waiting.erase request }
  | _, _ => session

def notify (subject : Subject) (ev : AuthEvent) (turn : AuthTurn) : AuthSession :=
  let handled := session.role.handle abortRetryTm
    { session.machine with raised := some ev, data := { session.machine.data with turn } }
  (handled.2.filterMap report).foldl (hear subject)
    { session with
      machine := { AuthMachine.settle handled with raised := none }
      returning := handled.1.raised.toList.map (·, turn) ++ session.returning }

def receive (request : Request) (maintained : Bool) : AuthSession :=
  match session.role.filter maintained request.code with
  | none => session
  | some kind =>
    let received : Received := ⟨session.count, kind, request.ids, request.reAuthType⟩
    let kept := if kind = .service then session else session.msgIdRxMessage received
    { kept with receiving := session.receiving ++ [received], count := session.count + 1 }

def proceed (n : Nat) (aborts : Bool) (turn : AuthTurn) : AuthSession :=
  match session.receiving[n]? with
  | none => session
  | some request =>
    let taken := { session with receiving := session.receiving.eraseIdx n }
    match request.event aborts with
    | none => taken
    | some ev => taken.notify abortRetryTm (.received request) ev { turn with request := true }

/-- The event of `Send`; a client has one for both. -/
def send (answered : Option Received) (turn : AuthTurn) : AuthSession :=
  match answered with
  | none => session.notify abortRetryTm .other .txSsar turn
  | some request =>
    session.notify abortRetryTm (.answering request) (if session.role = .client then .txSsar else .txSsaa) turn

def step : Input → AuthSession
  | .receive request maintained => session.receive request maintained
  | .proceed n aborts turn => session.proceed abortRetryTm n aborts turn
  | .send answered turn => session.send abortRetryTm answered turn
  | .returns =>
    match session.returning with
    | [] => session
    | (ev, turn) :: rest => { session with returning := rest }.notify abortRetryTm .other ev turn
  | .notify event turn => session.notify abortRetryTm .other event turn

def fresh (role : Role) (machine : AuthMachine) (lastRx : Ids) : AuthSession :=
  ⟨role, machine, lastRx, [], [], 0, none, [], []⟩

end AuthSession

end Sessions

section Purpose

structure AuthSession.Echoes (session : AuthSession) : Prop where
  kind : ∀ answer ∈ session.answers, answer.kind = answer.request.kind
  ids : ∀ answer ∈ session.answers, answer.ids = answer.request.ids
  once : (session.answers.map (·.request.serial)).Nodup

def Undisturbed (session : AuthSession) : Input → Prop
  | .proceed n _ _ => ∀ request ∈ session.receiving[n]?, request.kind ≠ .service → session.last = some request.serial
  | .send (some request) _ => request ∈ session.waiting ∧ session.last = some request.serial
  | _ => True

instance (session : AuthSession) : (input : Input) → Decidable (Undisturbed session input)
  | .proceed .. => inferInstanceAs (Decidable (∀ _ ∈ _, _ → _))
  | .send (some _) _ => inferInstanceAs (Decidable (_ ∧ _))
  | .send none _ | .receive .. | .returns | .notify .. => .isTrue trivial

end Purpose

section Reports

def expected : AuthEvent → Option Report
  | .rxStr => some (.answers .termination)
  | .rxAsr | .rxAsrOk | .rxAsrRetry => some (.answers .abort)
  | .rxRar => some (.answers .reAuth)
  | .rxSsar | .rxSsaa => some .given
  | .txSsar | .txSsaa => some .delivered
  | _ => none

def serverReports : ServerAction → List Report
  | .rxSsa => [.given]
  | .txSsa => [.delivered]
  | .txStaCleanup | .txStaCleanupIdle => [.answers .termination]
  | _ => []

def clientReports : ClientAction → List Report
  | .rxSsa => [.given]
  | .txSsar => [.delivered]
  | .rxRar => [.answers .reAuth]
  | .txAsaSuccess | .txAsaTxStrSuccess | .txAsaFail => [.answers .abort]
  | _ => []

theorem server_told (abortRetryTm : UInt32) (fsm : AuthData) (ac : ServerAction) :
    (Server.perform abortRetryTm fsm ac).callbacks.filterMap report = serverReports ac := by
  cases ac with
  | txSsa =>
    simp only [Server.perform, Server.txSsa]
    split <;> rfl
  | txRar =>
    rw [Server.perform]
    cases fsm.turn.attributes.reAuthRequestValue <;> rfl
  | txAsr =>
    simp only [Server.perform, Server.txAsr]
    split <;> rfl
  | rxRaa =>
    rw [Server.perform]
    cases fsm.turn.attributes.reAuthRequestValue <;> rfl
  | sessionReclaim =>
    simp only [Server.perform, Server.sessionReclaim]
    split <;> rfl
  | _ => rfl

theorem client_told (fsm : AuthData) (ac : ClientAction) :
    (Client.perform fsm ac).callbacks.filterMap report = clientReports ac := by
  cases ac with
  | rxRar =>
    cases value : fsm.turn.attributes.reAuthRequestValue <;> simp only [Client.perform, Client.rxRar, value] <;> rfl
  | _ => rfl

theorem serverTable_reports : ∀ row ∈ serverTable,
    serverReports row.action = [] ∨ serverReports row.action = (row.event.bind expected).toList := by
  decide +kernel

theorem clientTable_reports : ∀ row ∈ clientTable,
    clientReports row.action = [] ∨ clientReports row.action = (row.event.bind expected).toList := by
  decide +kernel

variable {Action : Type} {program : MachineProgram AuthState AuthEvent Action AuthData AuthCallback}

theorem program_reports {reports : Action → List Report}
    (told : ∀ ac fsm, (program.perform ac fsm).callbacks.filterMap report = reports ac)
    (rows : ∀ row ∈ program.table, reports row.action = [] ∨ reports row.action = (row.event.bind expected).toList)
    {machine : AuthMachine} {ev : AuthEvent} (raised : machine.raised = some ev) :
    (program.handle machine).2.filterMap report = [] ∨
      (program.handle machine).2.filterMap report = (expected ev).toList := by
  rcases program.handle_cases machine with ⟨none, _⟩ | ⟨_, _, _, same⟩ | ⟨ev', row, takes⟩
  · rw [raised] at none
    cases none
  · rw [same]
    exact .inl rfl
  · obtain rfl := Option.some.inj (raised.symm.trans takes.raised)
    rw [takes.handle]
    rcases rows row takes.mem with quiet | tells
    · exact .inl ((told _ _).trans quiet)
    · rcases takes.named with wild | named
      · rw [wild] at tells
        exact .inl ((told _ _).trans tells)
      · rw [named] at tells
        exact .inr ((told _ _).trans tells)

theorem handle_reports (abortRetryTm : UInt32) (role : Role) {machine : AuthMachine} {ev : AuthEvent}
    (raised : machine.raised = some ev) :
    (role.handle abortRetryTm machine).2.filterMap report = [] ∨
      (role.handle abortRetryTm machine).2.filterMap report = (expected ev).toList := by
  cases role with
  | client => exact program_reports (fun ac fsm => client_told fsm ac) clientTable_reports raised
  | server => exact program_reports (fun ac fsm => server_told abortRetryTm fsm ac) serverTable_reports raised

theorem AuthSession.notify_cases (abortRetryTm : UInt32) (session : AuthSession) (subject : Subject) (ev : AuthEvent)
    (turn : AuthTurn) : ∃ machine returning,
      session.notify abortRetryTm subject ev turn = { session with machine, returning } ∨
        ∃ report ∈ expected ev,
          session.notify abortRetryTm subject ev turn = { session with machine, returning }.hear subject report := by
  unfold AuthSession.notify
  dsimp only
  rcases @handle_reports abortRetryTm session.role
    { session.machine with raised := some ev, data := { session.machine.data with turn } } ev rfl with quiet | tells
  · rw [quiet]
    exact ⟨_, _, .inl rfl⟩
  · rw [tells]
    cases means : expected ev with
    | none => exact ⟨_, _, .inl rfl⟩
    | some report => exact ⟨_, _, .inr ⟨report, rfl, rfl⟩⟩

end Reports

section Invariant

variable {session : AuthSession} {request : Received}

namespace AuthSession

def requests (session : AuthSession) : List Received :=
  session.receiving ++ session.waiting ++ session.answers.map (·.request)

structure Faithful (session : AuthSession) : Prop where
  serials : (session.requests.map (·.serial)).Nodup
  counted : ∀ request ∈ session.requests, request.serial < session.count
  kept : ∀ request ∈ session.receiving ++ session.waiting, request ∈ session.waiting ∨ request.kind ≠ .service →
    session.last = some request.serial → session.lastRx = request.ids
  service : ∀ request ∈ session.waiting, request.kind = .service
  kind : ∀ answer ∈ session.answers, answer.kind = answer.request.kind
  ids : ∀ answer ∈ session.answers, answer.ids = answer.request.ids

structure Handling (request : Received) (session : AuthSession) : Prop where
  faithful : session.Faithful
  fresh : request.serial ∉ session.requests.map (·.serial)
  counted : request.serial < session.count

theorem Faithful.echoes (faithful : session.Faithful) : session.Echoes where
  kind := faithful.kind
  ids := faithful.ids
  once := by
    have serials := faithful.serials
    rw [requests, List.map_append, List.map_map] at serials
    exact (List.nodup_append.mp serials).2.1

/-- The rest of a session matters to what it answers only in the record. -/
theorem Faithful.machine (faithful : session.Faithful) (machine : AuthMachine) (returning : List (AuthEvent × AuthTurn)) :
    { session with machine, returning }.Faithful :=
  ⟨faithful.serials, faithful.counted, faithful.kept, faithful.service, faithful.kind, faithful.ids⟩

/-- What a reordered or shorter record of requests keeps. -/
theorem serials_of_perm {before after : List Received} (same : after.Perm before)
    (serials : (before.map (·.serial)).Nodup) : (after.map (·.serial)).Nodup :=
  (same.map _).nodup_iff.mpr serials

theorem Handling.txAnswer (handling : session.Handling request) (ids : session.lastRx = request.ids) :
    (session.txAnswer request.kind request).Faithful := by
  obtain ⟨faithful, fresh, counted⟩ := handling
  have requests : (session.txAnswer request.kind request).requests = session.requests ++ [request] := by
    simp [AuthSession.requests, AuthSession.txAnswer]
  refine ⟨?_, ?_, faithful.kept, faithful.service, ?_, ?_⟩
  · rw [requests, List.map_append]
    refine List.nodup_append.mpr ⟨faithful.serials, List.nodup_singleton _, ?_⟩
    intro serial known other own same
    obtain rfl : other = request.serial := List.mem_singleton.mp own
    exact fresh (same ▸ known)
  · intro other mem
    rw [requests] at mem
    rcases List.mem_append.mp mem with mem | own
    · exact faithful.counted other mem
    · rw [List.mem_singleton.mp own]
      exact counted
  · intro answer mem
    rcases List.mem_append.mp mem with mem | own
    · exact faithful.kind answer mem
    · rw [List.mem_singleton.mp own]
  · intro answer mem
    rcases List.mem_append.mp mem with mem | own
    · exact faithful.ids answer mem
    · rw [List.mem_singleton.mp own]
      exact ids

theorem Handling.given (handling : session.Handling request) (service : request.kind = .service) :
    (session.hear (.received request) .given).Faithful := by
  obtain ⟨faithful, fresh, counted⟩ := handling
  have same : (session.hear (.received request) .given).requests.Perm (request :: session.requests) := by
    simp only [AuthSession.requests, hear, msgIdRxMessage]
    rw [← List.append_assoc, List.append_assoc _ [request]]
    exact List.perm_middle
  refine ⟨?_, ?_, ?_, ?_, faithful.kind, faithful.ids⟩
  · refine serials_of_perm same ?_
    exact List.nodup_cons.mpr ⟨fresh, faithful.serials⟩
  · intro other mem
    rcases List.mem_cons.mp (same.mem_iff.mp mem) with rfl | mem
    · exact counted
    · exact faithful.counted other mem
  · intro other mem _ last
    -- The ids are those of the request that was given, and its serial number is its own.
    have own : request.serial = other.serial := Option.some.inj last
    by_cases same : other = request
    · rw [same]
      rfl
    · refine absurd ?_ fresh
      rw [own]
      refine List.mem_map_of_mem ?_
      refine List.mem_append_left _ ?_
      simp only [hear, msgIdRxMessage, List.mem_append, List.mem_singleton] at mem
      rcases mem with mem | mem | mem
      · exact List.mem_append_left _ mem
      · exact List.mem_append_right _ mem
      · exact absurd mem same
  · intro other mem
    rcases List.mem_append.mp mem with mem | own
    · exact faithful.service other mem
    · rw [List.mem_singleton.mp own]
      exact service

theorem Faithful.take (faithful : session.Faithful) {n : Nat} (here : session.receiving[n]? = some request) :
    { session with receiving := session.receiving.eraseIdx n }.Handling request := by
  obtain ⟨bound, placed⟩ := List.getElem?_eq_some_iff.mp here
  have same : session.requests.Perm (request :: { session with receiving := session.receiving.eraseIdx n }.requests) := by
    have front := List.getElem_cons_eraseIdx_perm bound
    rw [placed] at front
    simp only [AuthSession.requests]
    exact ((front.symm.append_right _).append_right _)
  have serials := serials_of_perm same.symm faithful.serials
  obtain ⟨fresh, serials⟩ := List.nodup_cons.mp serials
  have known (other : Received) (mem : other ∈ { session with receiving := session.receiving.eraseIdx n }.requests) :
      other ∈ session.requests := same.mem_iff.mpr (List.mem_cons_of_mem _ mem)
  refine ⟨⟨serials, fun other mem => faithful.counted other (known other mem), ?_, faithful.service, faithful.kind,
    faithful.ids⟩, fresh, faithful.counted request (same.mem_iff.mpr List.mem_cons_self)⟩
  intro other mem
  refine faithful.kept other ?_
  rcases List.mem_append.mp mem with mem | mem
  · exact List.mem_append_left _ (List.mem_of_mem_eraseIdx mem)
  · exact List.mem_append_right _ mem

theorem Faithful.receive (faithful : session.Faithful) (request : Request) (maintained : Bool) :
    (session.receive request maintained).Faithful := by
  unfold AuthSession.receive
  split
  · exact faithful
  next kind _ =>
    let received : Received := ⟨session.count, kind, request.ids, request.reAuthType⟩
    -- Whatever is kept, the new request has a serial number of its own.
    have record : ∀ kept : AuthSession, kept.waiting = session.waiting → kept.answers = session.answers →
        (∀ other ∈ session.receiving ++ [received] ++ session.waiting, other ∈ session.waiting ∨ other.kind ≠ .service →
          kept.last = some other.serial → kept.lastRx = other.ids) →
        { kept with receiving := session.receiving ++ [received], count := session.count + 1 }.Faithful := by
      intro kept waiting answers ids
      have same : { kept with receiving := session.receiving ++ [received], count := session.count + 1 }.requests.Perm
          (received :: session.requests) := by
        simp only [AuthSession.requests, waiting, answers]
        rw [List.append_assoc, List.append_assoc, List.append_assoc]
        exact List.perm_middle
      refine ⟨?_, ?_, ?_, ?_, ?_, ?_⟩
      · refine serials_of_perm same (List.nodup_cons.mpr ⟨?_, faithful.serials⟩)
        intro known
        obtain ⟨other, mem, equal⟩ := List.mem_map.mp known
        exact absurd (faithful.counted other mem) (by rw [equal]; exact Nat.lt_irrefl _)
      · intro other mem
        rcases List.mem_cons.mp (same.mem_iff.mp mem) with rfl | mem
        · exact Nat.lt_succ_self _
        · exact Nat.lt_succ_of_lt (faithful.counted other mem)
      · rw [waiting]
        exact ids
      · rw [waiting]
        exact faithful.service
      · rw [answers]
        exact faithful.kind
      · rw [answers]
        exact faithful.ids
    have older (other : Received) (mem : other ∈ session.receiving ++ session.waiting) : other.serial < session.count :=
      faithful.counted other (List.mem_append_left _ mem)
    dsimp only
    split
    -- A request of a service does not touch the ids that are remembered.
    case isTrue service =>
      refine record session rfl rfl ?_
      intro other mem matters last
      by_cases own : other = received
      · subst own
        rcases matters with waits | base
        · exact absurd (older received (List.mem_append_right _ waits)) (Nat.lt_irrefl _)
        · exact absurd service base
      · refine faithful.kept other ?_ matters last
        simp only [List.mem_append, List.mem_singleton] at mem ⊢
        tauto
    -- A base message overwrites the ids, and no older request is the last one then.
    case isFalse base =>
      refine record (session.msgIdRxMessage received) rfl rfl ?_
      intro other mem _ last
      have serial : session.count = other.serial := Option.some.inj last
      by_cases own : other = received
      · rw [own]
        rfl
      · refine absurd (older other ?_) (by rw [serial]; exact Nat.lt_irrefl _)
        simp only [List.mem_append, List.mem_singleton] at mem ⊢
        tauto

theorem Faithful.proceed (faithful : session.Faithful) {abortRetryTm : UInt32} {n : Nat} {aborts : Bool} {turn : AuthTurn}
    (undisturbed : Undisturbed session (.proceed n aborts turn)) :
    (session.proceed abortRetryTm n aborts turn).Faithful := by
  unfold AuthSession.proceed
  split
  · exact faithful
  next request here =>
    have handling := faithful.take here
    dsimp only
    split
    · exact handling.faithful
    next ev notified =>
      obtain ⟨machine, returning, quiet | ⟨report, means, tells⟩⟩ :=
        notify_cases abortRetryTm { session with receiving := session.receiving.eraseIdx n } (.received request) ev
          { turn with request := true }
      · rw [quiet]
        exact handling.faithful.machine machine returning
      · rw [tells]
        have handling : Handling request
            { session with receiving := session.receiving.eraseIdx n, machine, returning } :=
          ⟨handling.faithful.machine machine returning, handling.fresh, handling.counted⟩
        have mem := List.mem_of_getElem? here
        have ids (base : request.kind ≠ .service) : session.lastRx = request.ids :=
          faithful.kept request (List.mem_append_left _ mem) (.inr base) (undisturbed request here base)
        -- Each kind has an event, and each event one report.
        obtain ⟨serial, kind, own, type⟩ := request
        cases kind with
        | termination =>
          obtain rfl := Option.some.inj notified
          obtain rfl := Option.some.inj means
          exact handling.txAnswer (ids nofun)
        | abort =>
          obtain rfl := Option.some.inj notified
          cases aborts <;> obtain rfl := Option.some.inj means <;> exact handling.txAnswer (ids nofun)
        | reAuth =>
          cases type with
          | none => cases notified
          | some type =>
            obtain rfl := Option.some.inj notified
            obtain rfl := Option.some.inj means
            exact handling.txAnswer (ids nofun)
        | service =>
          obtain rfl := Option.some.inj notified
          obtain rfl := Option.some.inj means
          exact handling.given rfl

theorem Faithful.answer (faithful : session.Faithful) (waits : request ∈ session.waiting)
    (last : session.last = some request.serial) : (session.hear (.answering request) .delivered).Faithful := by
  have ids := faithful.kept request (List.mem_append_right _ waits) (.inl waits) last
  have service := faithful.service request waits
  have handling : { session with waiting := session.waiting.erase request }.Handling request := by
    have same : session.requests.Perm (request :: { session with waiting := session.waiting.erase request }.requests) := by
      simp only [AuthSession.requests]
      refine (((List.perm_cons_erase waits).append_left session.receiving).append_right _).trans ?_
      rw [List.append_assoc, List.append_assoc]
      exact List.perm_middle
    obtain ⟨fresh, serials⟩ := List.nodup_cons.mp (serials_of_perm same.symm faithful.serials)
    refine ⟨⟨serials, ?_, ?_, ?_, faithful.kind, faithful.ids⟩, fresh,
      faithful.counted request (same.mem_iff.mpr List.mem_cons_self)⟩
    · exact fun other mem => faithful.counted other (same.mem_iff.mpr (List.mem_cons_of_mem _ mem))
    · intro other mem matters
      refine faithful.kept other ?_ (matters.imp_left List.mem_of_mem_erase)
      rcases List.mem_append.mp mem with mem | mem
      · exact List.mem_append_left _ mem
      · exact List.mem_append_right _ (List.mem_of_mem_erase mem)
    · exact fun other mem => faithful.service other (List.mem_of_mem_erase mem)
  have answered := handling.txAnswer ids
  rw [service] at answered
  exact answered

theorem Faithful.other (faithful : session.Faithful) (abortRetryTm : UInt32) (ev : AuthEvent) (turn : AuthTurn) :
    (session.notify abortRetryTm .other ev turn).Faithful := by
  obtain ⟨machine, returning, quiet | ⟨report, means, tells⟩⟩ := notify_cases abortRetryTm session .other ev turn
  · rw [quiet]
    exact faithful.machine machine returning
  · rw [tells]
    exact faithful.machine machine returning

theorem Faithful.send (faithful : session.Faithful) {abortRetryTm : UInt32} {answered : Option Received} {turn : AuthTurn}
    (undisturbed : Undisturbed session (.send answered turn)) : (session.send abortRetryTm answered turn).Faithful := by
  cases answered with
  | none => exact faithful.other abortRetryTm .txSsar turn
  | some request =>
    obtain ⟨waits, last⟩ := undisturbed
    unfold AuthSession.send
    dsimp only
    obtain ⟨machine, returning, quiet | ⟨report, means, tells⟩⟩ :=
      notify_cases abortRetryTm session (.answering request) (if session.role = .client then .txSsar else .txSsaa) turn
    · rw [quiet]
      exact faithful.machine machine returning
    · rw [tells]
      obtain rfl : report = .delivered := by
        split at means <;> exact (Option.some.inj means).symm
      exact (faithful.machine machine returning).answer waits last

theorem Faithful.step (faithful : session.Faithful) (abortRetryTm : UInt32) {input : Input}
    (undisturbed : Undisturbed session input) : (session.step abortRetryTm input).Faithful := by
  cases input with
  | receive request maintained => exact faithful.receive request maintained
  | proceed n aborts turn => exact faithful.proceed undisturbed
  | send answered turn => exact faithful.send undisturbed
  | returns =>
    unfold AuthSession.step
    dsimp only
    split
    · exact faithful
    next ev turn rest waits =>
      exact (faithful.machine session.machine rest).other abortRetryTm ev turn
  | notify event turn => exact faithful.other abortRetryTm event turn

theorem fresh_faithful (role : Role) (machine : AuthMachine) (lastRx : Ids) : (fresh role machine lastRx).Faithful where
  serials := List.nodup_nil
  counted := List.forall_mem_nil _
  kept := List.forall_mem_nil _
  service := List.forall_mem_nil _
  kind := List.forall_mem_nil _
  ids := List.forall_mem_nil _

end AuthSession

end Invariant

section Runs

variable {abortRetryTm : UInt32} {machine : AuthMachine} {lastRx : Ids}

/-- In a run in which no other request leaves its ids between a request and its answer,
every answer carries the ids of its own request. -/
theorem answers_echo_requests {role : Role} {inputs : List Input}
    (undisturbed : Stepwise (AuthSession.step abortRetryTm) Undisturbed (.fresh role machine lastRx) inputs) :
    (inputs.foldl (AuthSession.step abortRetryTm) (.fresh role machine lastRx)).Echoes :=
  (undisturbed.invariant (fun _ _ faithful => faithful.step abortRetryTm)
    (AuthSession.fresh_faithful role machine lastRx)).echoes

section Samples

def sampleTurn : AuthTurn where
  attributes := { maintained := true, sessionTimeout := 600, authLifetime := 300, authGrace := 5, reAuthRequestValue := none }
  rc := .incomplete

def sampleRequest (code ids : UInt32) : Request := ⟨code, ⟨ids, ids⟩, none⟩

def sampleReceived (serial : Nat) (ids : UInt32) : Received := ⟨serial, .service, ⟨ids, ids⟩, none⟩

def sampleSession : AuthSession := .fresh .server (constructed 60 sampleTurn.attributes) ⟨0, 0⟩

end Samples

/-- A request that is answered, and an STR after that. -/
theorem answers_echo_requests_terminated :
    ([ Input.receive (sampleRequest 265 7) true, .proceed 0 false sampleTurn, .send (some (sampleReceived 0 7)) sampleTurn,
      .receive (sampleRequest msgCodeSessionTermination 9) true, .proceed 0 false sampleTurn ].foldl
        (AuthSession.step 60) sampleSession).Echoes :=
  answers_echo_requests (by decide +kernel)

/-- Two requests come before the first is answered: its answer carries the ids of the second. -/
theorem answer_carries_later_ids :
    ¬([ Input.receive (sampleRequest 265 7) true, .proceed 0 false sampleTurn, .receive (sampleRequest 265 9) true,
      .proceed 0 false sampleTurn, .send (some (sampleReceived 0 7)) sampleTurn ].foldl
        (AuthSession.step 60) sampleSession).Echoes := by
  intro echoes
  have carried := echoes.ids ⟨.service, sampleReceived 0 7, ⟨9, 9⟩⟩ (by decide +kernel)
  exact absurd carried (by decide)

end Runs

end OpenDiameter.Session.AnswerIds
