import OpenDiameter.Pana.Answers

/-! Requests and the answers to them, over the runs of a session. -/

set_option autoImplicit false

namespace OpenDiameter.Pana

open Foundation OpenDiameter.Framework

/-- A session `t` has sent nothing since `s`, and keeps the same request. -/
def Session.Mute (s t : Session) : Prop := t.sent = s.sent ∧ t.lastTxReqMsg = s.lastTxReqMsg

namespace Program

section Filters

variable {Event Action Call : Type} (program : Program Event Action Call) (duties : Duties Action)
  (machine : Machine Event)

def validating : Option (RxFilter Event × Session × Message) :=
  (program.filters machine).bind fun (filter, msg) =>
    match filter.first msg machine.session with
    | .ok _ u => some (filter, u, msg)
    | .error _ _ => none

def accepted : Option Message :=
  (program.validating machine).bind fun (filter, u, msg) =>
    if msg.request && u.accepts program.crypto msg filter.skipAuth then some msg else none

def resent : Option Message :=
  (program.validating machine).bind fun (_, u, msg) =>
    if u.Repeats msg then
      (u.cachedAnsMsg.filter fun cached => msg.type = cached.type).map u.txPrepareMessage
    else none

def Ignores (filtering : Draws) : Prop :=
  ∀ filter u msg, program.validating machine = some (filter, u, msg) →
    if u.Acceptable program.crypto msg filter.skipAuth then
      ∃ e, filter.resolve filtering msg (u.count msg) = .error (.thrown e) machine.session
    else u = machine.session ∧ u.Harmless program.crypto msg filter.skipAuth ∧
      (u.Repeats msg → ∃ cached ∈ u.cachedAnsMsg, msg.type ≠ cached.type)

structure Responsive : Prop where
  /-- The first level neither sends nor counts, and changes nothing if it refuses. -/
  first : ∀ {type filter}, program.msgHandlers type = some filter → ∀ msg s,
    (∃ e, filter.first msg s = .error (.thrown e) s) ∨
      ∃ u, filter.first msg s = .ok () u ∧ s.Mute u ∧ u.lastRxSeqNum = s.lastRxSeqNum
  resolve : ∀ {type filter}, program.msgHandlers type = some filter → ∀ draws msg,
    Imperative.Relates Session.Mute (filter.resolve draws msg)
  performs : ∀ draws action s,
    Session.Answers s ((program.perform draws action).after s) (duties.answers action s)
  calls : ∀ c s, Session.Mute s (program.call c s).1

variable {program duties machine}

theorem Responsive.opened (responsive : program.Responsive duties) {type : MType} {filter : RxFilter Event}
    (handled : program.msgHandlers type = some filter) {msg : Message} {s u : Session}
    (first : filter.first msg s = .ok () u) : s.Mute u ∧ u.lastRxSeqNum = s.lastRxSeqNum := by
  rcases responsive.first handled msg s with ⟨e, throws⟩ | ⟨t, passes, same⟩
  · cases first.symm.trans throws
  · cases first.symm.trans passes
    exact same

theorem Responsive.refuses (responsive : program.Responsive duties) {type : MType} {filter : RxFilter Event}
    (handled : program.msgHandlers type = some filter) {msg : Message} {s t : Session} {failure : Failure Exception}
    (first : filter.first msg s = .error failure t) : t = s ∧ ∃ e, failure = .thrown e := by
  rcases responsive.first handled msg s with ⟨e, throws⟩ | ⟨u, passes, same⟩
  · cases first.symm.trans throws
    exact ⟨rfl, e, rfl⟩
  · cases first.symm.trans passes

theorem filters_of_validating {filter : RxFilter Event} {u : Session} {msg : Message}
    (validating : program.validating machine = some (filter, u, msg)) :
    program.filters machine = some (filter, msg) ∧ filter.first msg machine.session = .ok () u := by
  unfold Program.validating at validating
  obtain ⟨⟨found, head⟩, meets, passes⟩ := Option.bind_eq_some_iff.mp validating
  dsimp only at passes
  cases first : found.first head machine.session with
  | error failure t =>
    rw [first] at passes
    cases passes
  | ok value t =>
    rw [first] at passes
    cases passes
    exact ⟨meets, first⟩

def fail (machine : Machine Event) : Failure Exception → Session → Machine Event
  | .thrown _, s => { machine with session := s }
  | .fault, s => { machine with session := s, faulted := true }

@[simp] theorem session_fail (machine : Machine Event) (failure : Failure Exception) (s : Session) :
    (fail machine failure s).session = s := by
  cases failure <;> rfl

theorem serveMessage_of_validating {filter : RxFilter Event} {u : Session} {msg : Message}
    (validating : program.validating machine = some (filter, u, msg)) (filtering : Draws) :
    program.serveMessage machine filtering =
      match Session.rxValidateMsg program.crypto msg filter.skipAuth u with
      | .error failure t => fail { machine with rxMsgQueue := machine.rxMsgQueue.tail } failure t
      | .ok _ t =>
        match filter.resolve filtering msg t with
        | .error failure t => fail { machine with rxMsgQueue := machine.rxMsgQueue.tail } failure t
        | .ok event t =>
          { machine with rxMsgQueue := machine.rxMsgQueue.tail, session := t }.notify ⟨event, some msg⟩ := by
  obtain ⟨meets, first⟩ := filters_of_validating validating
  rw [serveMessage_eq, meets]
  dsimp only
  unfold handleMessage RxFilter.handleMessage
  rw [if_pos (filters_mem meets).2.2]
  simp only [Imperative.bind_run, first]
  cases Session.rxValidateMsg program.crypto msg filter.skipAuth u with
  | error failure t => cases failure <;> rfl
  | ok value t =>
    dsimp only
    cases filter.resolve filtering msg t with
    | ok event t => rfl
    | error failure t => cases failure <;> rfl

theorem serveMessage_of_dropped (responsive : program.Responsive duties)
    (dropped : program.validating machine = none) (filtering : Draws) :
    program.serveMessage machine filtering = { machine with rxMsgQueue := machine.rxMsgQueue.tail } := by
  rw [serveMessage_eq]
  cases meets : program.filters machine with
  | none => rfl
  | some pair =>
    obtain ⟨filter, msg⟩ := pair
    dsimp only
    unfold handleMessage RxFilter.handleMessage
    rw [if_pos (filters_mem meets).2.2]
    simp only [Imperative.bind_run]
    cases first : filter.first msg machine.session with
    | ok value u =>
      unfold Program.validating at dropped
      rw [meets, Option.bind_some] at dropped
      simp only [first] at dropped
      cases dropped
    | error failure t =>
      obtain ⟨rfl, e, rfl⟩ := responsive.refuses (filters_mem meets).2.1 first
      rfl

theorem resent_of_validating {filter : RxFilter Event} {u : Session} {msg : Message}
    (validating : program.validating machine = some (filter, u, msg)) :
    program.resent machine = if u.Repeats msg then
      (u.cachedAnsMsg.filter fun cached => msg.type = cached.type).map u.txPrepareMessage else none := by
  unfold resent
  rw [validating, Option.bind_some]

theorem sends_serveMessage (responsive : program.Responsive duties) (filtering : Draws) :
    (program.serveMessage machine filtering).session.sent =
        machine.session.sent ++ (program.resent machine).toList ∧
      (program.serveMessage machine filtering).session.lastTxReqMsg = machine.session.lastTxReqMsg := by
  cases validating : program.validating machine with
  | none =>
    rw [serveMessage_of_dropped responsive validating, resent, validating]
    exact ⟨(List.append_nil _).symm, rfl⟩
  | some found =>
    obtain ⟨filter, u, msg⟩ := found
    obtain ⟨meets, first⟩ := filters_of_validating validating
    have handled := (filters_mem meets).2.1
    have opened : machine.session.Mute u := (responsive.opened handled first).1
    rw [serveMessage_of_validating validating, resent_of_validating validating]
    have how := u.validates program.crypto msg filter.skipAuth
    generalize Session.rxValidateMsg program.crypto msg filter.skipAuth u = result at how
    -- A refusal sends nothing, unless it is a duplicate with an answer of its type.
    have refused {t : Session} {failure : Failure Exception} (sent : t.sent = u.sent)
        (kept : t.lastTxReqMsg = u.lastTxReqMsg) :
        (fail { machine with rxMsgQueue := machine.rxMsgQueue.tail } failure t).session.sent =
            machine.session.sent ++ (none : Option Message).toList ∧
          (fail { machine with rxMsgQueue := machine.rxMsgQueue.tail } failure t).session.lastTxReqMsg =
            machine.session.lastTxReqMsg := by
      rw [session_fail, sent, kept]
      exact ⟨opened.1.trans (List.append_nil _).symm, opened.2⟩
    cases how with
    | accepted acceptable =>
      have mute := responsive.resolve handled filtering msg (u.count msg)
      have kept := u.lastTxReqMsg_count msg
      have sent := u.sent_count msg
      rw [if_neg fun repeats => repeats.not_numbered acceptable.numbered]
      dsimp only
      cases resolved : filter.resolve filtering msg (u.count msg) with
      | ok event t =>
        rw [Imperative.after_of_ok resolved] at mute
        exact ⟨(mute.1.trans (sent.trans opened.1)).trans (List.append_nil _).symm, mute.2.trans (kept.trans opened.2)⟩
      | error failure t =>
        have left : (filter.resolve filtering msg).after (u.count msg) = t := by
          unfold Imperative.after
          rw [resolved, Imperative.left_error]
        rw [left] at mute
        exact refused (mute.1.trans sent) (mute.2.trans kept)
    | unanswered repeats empty =>
      rw [if_pos repeats, empty]
      exact refused rfl rfl
    | resent repeats cached kept same e =>
      rw [if_pos repeats, kept, Option.filter_some, if_pos (by simpa using same)]
      exact ⟨congrArg (· ++ [u.txPrepareMessage cached]) opened.1, opened.2⟩
    | unexpected repeats cached kept other e =>
      rw [if_pos repeats, kept, Option.filter_some, if_neg (by simpa using other)]
      exact refused rfl rfl
    | misnumbered misnumbered fresh e =>
      rw [if_neg fresh]
      exact refused rfl rfl
    | refusedFirst first refuses e =>
      rw [if_neg fun repeats => repeats.2.1 first.2]
      exact refused rfl rfl
    | refused later numbered refuses e =>
      rw [if_neg fun repeats => repeats.not_numbered numbered]
      exact refused rfl rfl

/-- An answer that is sent again ends the filtering, but faults nothing. -/
theorem faulted_of_resent {m : Message} (resends : m ∈ program.resent machine) (filtering : Draws) :
    (program.serveMessage machine filtering).faulted = machine.faulted := by
  cases validating : program.validating machine with
  | none =>
    unfold resent at resends
    rw [validating] at resends
    cases resends
  | some found =>
    obtain ⟨filter, u, msg⟩ := found
    rw [resent_of_validating validating] at resends
    rw [serveMessage_of_validating validating]
    have how := u.validates program.crypto msg filter.skipAuth
    generalize Session.rxValidateMsg program.crypto msg filter.skipAuth u = result at how
    cases how with
    | resent repeats cached kept same e => rfl
    | unanswered repeats empty =>
      rw [if_pos repeats, empty] at resends
      cases resends
    | unexpected repeats cached kept other e => rfl
    | misnumbered misnumbered fresh e => rfl
    | refusedFirst first refuses e => rfl
    | refused later numbered refuses e => rfl
    | accepted acceptable =>
      rw [if_neg fun repeats => repeats.not_numbered acceptable.numbered] at resends
      cases resends

theorem serveMessage_eq_iff_ignores (responsive : program.Responsive duties) (running : machine.faulted = false)
    (filtering : Draws) :
    program.serveMessage machine filtering = { machine with rxMsgQueue := machine.rxMsgQueue.tail } ↔
      program.Ignores machine filtering := by
  cases validating : program.validating machine with
  | none =>
    rw [serveMessage_of_dropped responsive validating]
    apply iff_of_true rfl
    intro filter u msg found
    rw [validating] at found
    cases found
  | some found =>
    obtain ⟨filter, u, msg⟩ := found
    obtain ⟨meets, first⟩ := filters_of_validating validating
    have handled := (filters_mem meets).2.1
    have opened : machine.session.Mute u := (responsive.opened handled first).1
    have ignores : program.Ignores machine filtering ↔
        if u.Acceptable program.crypto msg filter.skipAuth then
          ∃ e, filter.resolve filtering msg (u.count msg) = .error (.thrown e) machine.session
        else u = machine.session ∧ u.Harmless program.crypto msg filter.skipAuth ∧
          (u.Repeats msg → ∃ cached ∈ u.cachedAnsMsg, msg.type ≠ cached.type) := by
      constructor
      · intro ignored
        exact ignored filter u msg validating
      · intro ignored _ _ _ found
        cases validating.symm.trans found
        exact ignored
    have thrown {e : Exception} {t : Session} :
        fail { machine with rxMsgQueue := machine.rxMsgQueue.tail } (.thrown e) t =
          { machine with rxMsgQueue := machine.rxMsgQueue.tail } ↔ t = machine.session := by
      constructor
      · exact congrArg Machine.session
      · rintro rfl
        rfl
    have faults {t : Session} : fail { machine with rxMsgQueue := machine.rxMsgQueue.tail } .fault t ≠
        { machine with rxMsgQueue := machine.rxMsgQueue.tail } := by
      intro same
      have faulted := congrArg Machine.faulted same
      rw [running] at faulted
      cases faulted
    rw [serveMessage_of_validating validating, ignores]
    have how := u.validates program.crypto msg filter.skipAuth
    generalize Session.rxValidateMsg program.crypto msg filter.skipAuth u = result at how
    -- Whatever is refused leaves the session that the first level left.
    have refused {e : Exception} (refuses : ¬u.Acceptable program.crypto msg filter.skipAuth)
        (harmless : u.Harmless program.crypto msg filter.skipAuth)
        (other : u.Repeats msg → ∃ cached ∈ u.cachedAnsMsg, msg.type ≠ cached.type) :
        fail { machine with rxMsgQueue := machine.rxMsgQueue.tail } (.thrown e) u =
            { machine with rxMsgQueue := machine.rxMsgQueue.tail } ↔
          if u.Acceptable program.crypto msg filter.skipAuth then
            ∃ e, filter.resolve filtering msg (u.count msg) = .error (.thrown e) machine.session
          else u = machine.session ∧ u.Harmless program.crypto msg filter.skipAuth ∧
            (u.Repeats msg → ∃ cached ∈ u.cachedAnsMsg, msg.type ≠ cached.type) := by
      rw [thrown, if_neg refuses, and_iff_left ⟨harmless, other⟩]
    cases how with
    | accepted acceptable =>
      rw [if_pos acceptable]
      dsimp only
      cases resolved : filter.resolve filtering msg (u.count msg) with
      | ok event t =>
        apply iff_of_false
        · intro same
          have longer := congrArg (List.length ∘ Machine.eventQueue) same
          simp [Machine.notify] at longer
        · rintro ⟨e, throws⟩
          cases throws
      | error failure t =>
        cases failure with
        | fault =>
          apply iff_of_false faults
          rintro ⟨e, throws⟩
          cases throws
        | thrown e =>
          dsimp only
          rw [thrown]
          constructor
          · rintro rfl
            exact ⟨e, rfl⟩
          · rintro ⟨other, throws⟩
            cases throws
            rfl
    | unanswered repeats empty =>
      apply iff_of_false faults
      rw [if_neg fun acceptable => repeats.not_numbered acceptable.numbered]
      rintro ⟨_, _, other⟩
      obtain ⟨cached, kept, _⟩ := other repeats
      rw [empty] at kept
      cases kept
    | resent repeats cached kept same e =>
      apply iff_of_false
      · intro untouched
        have sent := congrArg (List.length ∘ Session.sent) (thrown.mp untouched)
        rw [Function.comp_apply, Function.comp_apply, ← opened.1] at sent
        have grown : (u.sendAnsMsg cached).sent = u.sent ++ [u.txPrepareMessage cached] := rfl
        rw [grown, List.length_append] at sent
        simp at sent
      · rw [if_neg fun acceptable => repeats.not_numbered acceptable.numbered]
        rintro ⟨_, _, other⟩
        obtain ⟨_, found, differs⟩ := other repeats
        cases kept.symm.trans found
        exact differs same
    | unexpected repeats cached kept other e =>
      apply refused
      · exact fun acceptable => repeats.not_numbered acceptable.numbered
      · exact fun first => absurd first.2 repeats.2.1
      · exact fun _ => ⟨cached, kept, other⟩
    | misnumbered misnumbered fresh e =>
      apply refused
      · exact fun acceptable => misnumbered acceptable.numbered
      · intro first
        apply absurd _ misnumbered
        unfold Session.Numbered
        rw [if_pos first.1]
        exact Or.inl first.2
      · exact fun repeats => absurd repeats fresh
    | refused later numbered refuses e =>
      apply refused
      · exact fun acceptable => refuses ⟨acceptable.authentic, acceptable.addressed⟩
      · exact fun first => absurd first later
      · exact fun repeats => absurd numbered repeats.not_numbered
    | refusedFirst first' refuses e =>
      rw [if_neg fun acceptable => refuses ⟨acceptable.authentic, acceptable.addressed⟩, thrown]
      have counted := (responsive.opened handled first).2
      constructor
      · intro same
        have number : msg.seq = 0 := (congrArg Session.lastRxSeqNum same).trans (counted.symm.trans first'.2)
        have unchanged : { u with lastRxSeqNum := msg.seq } = u := by rw [number, ← first'.2]
        refine ⟨unchanged.symm.trans same, fun _ _ => number, fun repeats => absurd first'.2 repeats.2.1⟩
      · rintro ⟨same, harmless, _⟩
        rw [harmless first' refuses, ← first'.2]
        exact same

end Filters

end Program

structure Exchange (Event : Type) where
  machine : Machine Event
  taken : List Message := []
  last : Option Message := none
  answer : Option Message := none

namespace Exchange

variable {Event Action Call : Type} [DecidableEq Event] (program : Program Event Action Call)
  (duties : Duties Action) (e : Exchange Event)

def duplicate : Option Message :=
  e.machine.rxMsgQueue.head?.filter fun msg => e.last.any fun request => msg.toMsgHeader = request.toMsgHeader

def takenBy (filtering : Draws) : List Message :=
  ((program.handles e.machine filtering).bind fun (notice, entry) =>
    if duties.takes entry.action then notice.cause else none).toList ++ e.taken

def asked (filtering : Draws) (type : MType) : Option Message :=
  (e.takenBy program duties filtering).find? fun request => request.type = type

def answers (filtering acting : Draws) : List Message :=
  (program.serve e.machine filtering acting).session.answered.drop
    (program.serveMessage e.machine filtering).session.answered.length

def serve (filtering acting : Draws) : Exchange Event :=
  let last := (program.accepted e.machine).or e.last
  let answer := if (program.accepted e.machine).isSome then none else e.answer
  { machine := program.serve e.machine filtering acting
    taken := e.takenBy program duties filtering
    last := last
    answer :=
      match (e.answers program filtering acting).head? with
      | none => answer
      | some m => if e.asked program duties filtering m.type = last then some m else answer }

def step (input : Input Call) : Exchange Event :=
  if e.machine.faulted then e
  else
    match input with
    | .serve filtering acting => e.serve program duties filtering acting
    | input => { e with machine := program.step e.machine input }

def opening (s : Session) : Exchange Event := { machine := .opening s }

section Properties

structure Matches (filtering acting : Draws) : Prop where
  answers : ∀ m ∈ e.answers program filtering acting, ∃ request ∈ e.asked program duties filtering m.type,
    m.seq = request.seq ∧ m.sessionId = request.sessionId
  resent : ∀ m ∈ (program.serveMessage e.machine filtering).session.sent.drop e.machine.session.sent.length,
    ∃ request ∈ e.machine.rxMsgQueue.head?, m.seq = request.seq ∧ m.sessionId = request.sessionId
  duplicate : ∀ _request ∈ e.duplicate, (program.serveMessage e.machine filtering).faulted = false ∧
    match e.answer with
    | some answer => ∃ m, (program.serveMessage e.machine filtering).session.sent = e.machine.session.sent ++ [m] ∧
        m.toMsgHeader = answer.toMsgHeader ∧ m.avpList = answer.avpList
    | none => program.serveMessage e.machine filtering =
        { e.machine with rxMsgQueue := e.machine.rxMsgQueue.tail }

structure Prompt (filtering : Draws) : Prop where
  answers : ∀ handled ∈ program.handles e.machine filtering,
    ∀ type ∈ duties.answers handled.2.action (program.serveMessage e.machine filtering).session,
      ∃ request ∈ e.asked program duties filtering type,
        (program.serveMessage e.machine filtering).session.lastRxSeqNum = request.seq ∧
          (program.serveMessage e.machine filtering).session.sessionId = request.sessionId
  resent : ∀ cached ∈ program.resent e.machine, ∃ request ∈ e.machine.rxMsgQueue.head?,
    cached.seq = request.seq ∧ cached.sessionId = request.sessionId
  duplicate : ∀ _request ∈ e.duplicate,
    match e.answer with
    | some answer => ∃ cached ∈ program.resent e.machine,
        cached.toMsgHeader = answer.toMsgHeader ∧ cached.avpList = answer.avpList
    | none => program.Ignores e.machine filtering

/-- What a step does with requests and answers. -/
def Corresponds : Input Call → Prop
  | .serve filtering acting => e.machine.faulted = false → e.Matches program duties filtering acting
  | _ => True

def Attends : Input Call → Prop
  | .serve filtering _ => e.machine.faulted = false → e.Prompt program duties filtering
  | _ => True

end Properties

variable {program duties e}

theorem answers_cases (responsive : program.Responsive duties) (asks : e.machine.session.Asks) (filtering acting : Draws) :
    (program.serve e.machine filtering acting).session.Asks ∧
      match program.handles e.machine filtering with
      | none => e.answers program filtering acting = []
      | some (_, entry) =>
        match duties.answers entry.action (program.serveMessage e.machine filtering).session with
        | none => e.answers program filtering acting = []
        | some type => ∃ m, e.answers program filtering acting = [m] ∧ m.type = type ∧
            m.seq = (program.serveMessage e.machine filtering).session.lastRxSeqNum ∧
            m.sessionId = (program.serveMessage e.machine filtering).session.sessionId := by
  have filtered : (program.serveMessage e.machine filtering).session.Asks := by
    unfold Session.Asks
    rw [(Program.sends_serveMessage responsive filtering).2]
    exact asks
  unfold answers
  rw [program.session_serve]
  cases handled : program.handles e.machine filtering with
  | none => exact ⟨filtered, List.drop_length⟩
  | some pair =>
    obtain ⟨notice, entry⟩ := pair
    dsimp only
    have performs := responsive.performs acting entry.action (program.serveMessage e.machine filtering).session filtered
    refine ⟨performs.1, ?_⟩
    cases answers : duties.answers entry.action (program.serveMessage e.machine filtering).session with
    | none =>
      rw [answers] at performs
      dsimp only at performs ⊢
      rw [performs.2]
      exact List.drop_length
    | some type =>
      rw [answers] at performs
      obtain ⟨_, m, sent, own⟩ := performs
      refine ⟨m, ?_, own⟩
      rw [sent]
      exact List.drop_left

theorem matches_iff_prompt (responsive : program.Responsive duties) (asks : e.machine.session.Asks)
    (running : e.machine.faulted = false) (filtering acting : Draws) :
    e.Matches program duties filtering acting ↔ e.Prompt program duties filtering := by
  -- The answers of the step, against the requests that were asked.
  have answering : (∀ m ∈ e.answers program filtering acting, ∃ request ∈ e.asked program duties filtering m.type,
        m.seq = request.seq ∧ m.sessionId = request.sessionId) ↔
      ∀ handled ∈ program.handles e.machine filtering,
        ∀ type ∈ duties.answers handled.2.action (program.serveMessage e.machine filtering).session,
          ∃ request ∈ e.asked program duties filtering type,
            (program.serveMessage e.machine filtering).session.lastRxSeqNum = request.seq ∧
              (program.serveMessage e.machine filtering).session.sessionId = request.sessionId := by
    have sends := (answers_cases responsive asks filtering acting).2
    cases handled : program.handles e.machine filtering with
    | none =>
      rw [handled] at sends
      dsimp only at sends
      rw [sends]
      simp
    | some pair =>
      obtain ⟨notice, entry⟩ := pair
      rw [handled] at sends
      dsimp only at sends
      cases answers : duties.answers entry.action (program.serveMessage e.machine filtering).session with
      | none =>
        rw [answers] at sends
        dsimp only at sends
        rw [sends]
        simp [answers]
      | some type =>
        rw [answers] at sends
        obtain ⟨m, sent, rfl, number, id⟩ := sends
        rw [sent]
        simp [answers, number, id]
  -- What is resent by the filter, against the head of the queue.
  have resending : (∀ m ∈ (program.serveMessage e.machine filtering).session.sent.drop e.machine.session.sent.length,
        ∃ request ∈ e.machine.rxMsgQueue.head?, m.seq = request.seq ∧ m.sessionId = request.sessionId) ↔
      ∀ cached ∈ program.resent e.machine, ∃ request ∈ e.machine.rxMsgQueue.head?,
        cached.seq = request.seq ∧ cached.sessionId = request.sessionId := by
    rw [(Program.sends_serveMessage responsive filtering).1, List.drop_left]
    simp only [Option.mem_toList, Option.mem_def]
  -- A duplicate is answered from the cache, or changes nothing but the queue.
  have repeating : (∀ _request ∈ e.duplicate, (program.serveMessage e.machine filtering).faulted = false ∧
        match e.answer with
        | some answer => ∃ m, (program.serveMessage e.machine filtering).session.sent =
            e.machine.session.sent ++ [m] ∧ m.toMsgHeader = answer.toMsgHeader ∧ m.avpList = answer.avpList
        | none => program.serveMessage e.machine filtering =
            { e.machine with rxMsgQueue := e.machine.rxMsgQueue.tail }) ↔
      ∀ _request ∈ e.duplicate,
        match e.answer with
        | some answer => ∃ cached ∈ program.resent e.machine,
            cached.toMsgHeader = answer.toMsgHeader ∧ cached.avpList = answer.avpList
        | none => program.Ignores e.machine filtering := by
    apply forall_congr'
    intro request
    apply imp_congr_right
    intro _
    cases e.answer with
    | none =>
      dsimp only
      rw [Program.serveMessage_eq_iff_ignores responsive running]
      apply and_iff_right_of_imp
      intro ignored
      rw [(Program.serveMessage_eq_iff_ignores responsive running filtering).mpr ignored]
      exact running
    | some answer =>
      dsimp only
      rw [(Program.sends_serveMessage responsive filtering).1]
      constructor
      · rintro ⟨_, m, sent, same⟩
        have resent : (program.resent e.machine).toList = [m] := List.append_cancel_left sent
        exact ⟨m, Option.mem_toList.mp (resent ▸ List.mem_singleton_self m), same⟩
      · rintro ⟨cached, resent, same⟩
        refine ⟨(Program.faulted_of_resent resent filtering).trans running, cached, ?_, same⟩
        rw [Option.mem_def.mp resent]
        rfl
  constructor
  · rintro ⟨answers, resent, duplicate⟩
    exact ⟨answering.mp answers, resending.mp resent, repeating.mp duplicate⟩
  · rintro ⟨answers, resent, duplicate⟩
    exact ⟨answering.mpr answers, resending.mpr resent, repeating.mpr duplicate⟩

theorem asks_step (responsive : program.Responsive duties) (asks : e.machine.session.Asks) (input : Input Call) :
    (e.step program duties input).machine.session.Asks := by
  unfold step
  split
  · exact asks
  · cases input with
    | serve filtering acting => exact (answers_cases responsive asks filtering acting).1
    | receive msg =>
      dsimp only
      unfold Program.step
      split <;> exact asks
    | timeout tid =>
      dsimp only
      unfold Program.step
      split
      · exact asks
      · dsimp only
        split <;> exact asks
    | call c =>
      dsimp only
      unfold Program.step
      split
      · exact asks
      · unfold Session.Asks
        dsimp only [Machine.notify]
        rw [(responsive.calls c e.machine.session).2]
        exact asks

theorem run_corresponds_iff (responsive : program.Responsive duties) {s : Session} (fresh : s.Asks)
    (inputs : List (Input Call)) :
    Stepwise (step program duties) (Corresponds program duties) (opening s) inputs ↔
      Stepwise (step program duties) (Attends program duties) (opening s) inputs := by
  have agree (e : Exchange Event) (input : Input Call) (asks : e.machine.session.Asks) (_ : True) :
      e.Corresponds program duties input ↔ e.Attends program duties input := by
    cases input with
    | serve filtering acting =>
      apply imp_congr_right
      intro running
      exact matches_iff_prompt responsive asks running filtering acting
    | receive msg => exact Iff.rfl
    | call c => exact Iff.rfl
    | timeout tid => exact Iff.rfl
  have keeps (e : Exchange Event) (input : Input Call) (asks : e.machine.session.Asks) (_ : True)
      (_ : e.Attends program duties input) : (e.step program duties input).machine.session.Asks :=
    asks_step responsive asks input
  exact stepwise_iff agree keeps fresh fun _ _ => trivial

end Exchange

section Classes

open Session

variable (crypto : Crypto) (config : Config) (draws : Draws) (msg : Message)

namespace Session

variable {s t u : Session}

theorem Mute.bind {α β : Type} {x : Imperative Session Exception α} {next : α → Imperative Session Exception β}
    (first : Imperative.Relates Mute x) (rest : ∀ value, Imperative.Relates Mute (next value)) :
    Imperative.Relates Mute (x >>= next) :=
  Imperative.Relates.bind (fun _ _ _ begun later => ⟨later.1.trans begun.1, later.2.trans begun.2⟩) first rest

theorem mute_modify {change : Session → Session} (sent : ∀ s, (change s).sent = s.sent)
    (kept : ∀ s, (change s).lastTxReqMsg = s.lastTxReqMsg) :
    Imperative.Relates Mute (modify change : SessionM) :=
  Imperative.relates_modify fun s => ⟨sent s, kept s⟩

theorem mute_pure {α : Type} (value : α) : Imperative.Relates Mute (pure value : Imperative Session Exception α) :=
  Imperative.relates_pure (fun _ => ⟨rfl, rfl⟩) value

theorem mute_queued {Event : Type} (event : Message → Event) : Imperative.Relates Mute (queued event msg) := by
  intro s
  exact ⟨sent_saveAddress s msg, lastTxReqMsg_saveAddress s msg⟩

theorem mute_rxPER : Imperative.Relates Mute (rxPER config draws) := by
  refine Mute.bind (fun s => ?_) fun msg => ?_
  · unfold Imperative.after dequeueRx
    cases s.rxMsgQueue <;> exact ⟨rfl, rfl⟩
  · cases msg.avpList.resultCode with
    | none => exact Imperative.relates_raise (fun s => ⟨rfl, rfl⟩) _
    | some rcode =>
      have ends (s : Session) : s.Mute (s.error config draws rcode) := by
        unfold error finish reset
        exact ⟨rfl, rfl⟩
      exact Imperative.relates_modify ends

theorem opens_demand (request : Bool) (description : String) (s : Session) :
    (∃ e, demand request description msg s = .error (.thrown e) s) ∨
      ∃ u, demand request description msg s = .ok () u ∧ s.Mute u ∧ u.lastRxSeqNum = s.lastRxSeqNum := by
  by_cases same : msg.request = request
  · exact Or.inr ⟨s, demand_of_eq description same, ⟨rfl, rfl⟩, rfl⟩
  · exact Or.inl (demand_of_ne description same)

end Session

theorem Client.responsive : (Client.program crypto config).Responsive (Client.duties config) where
  first {type filter} handles msg s := by
    apply Client.msgHandlers_cases (motive := fun _ filter =>
      (∃ e, filter.first msg s = .error (.thrown e) s) ∨
        ∃ u, filter.first msg s = .ok () u ∧ s.Mute u ∧ u.lastRxSeqNum = s.lastRxSeqNum) handles
    case psr =>
      rcases opens_demand msg true "PSA recevied, invalid message" s with ⟨e, throws⟩ | ⟨u, passes, mute, same⟩
      · refine Or.inl ⟨e, ?_⟩
        simp only [Client.csmRxPSR, Imperative.bind_run, throws]
      · refine Or.inr ⟨{ u with sessionId := msg.sessionId }, ?_, mute, same⟩
        simp only [Client.csmRxPSR, Imperative.bind_run, passes, Imperative.modify_run]
    case pbr => exact opens_demand msg _ _ s
    case pra => exact opens_demand msg _ _ s
    all_goals exact Or.inr ⟨s, rfl, ⟨rfl, rfl⟩, rfl⟩
  resolve {type filter} handles draws msg := by
    have queues {filter : RxFilter PacEvent} {event : Message → PacEvent} (same : filter.resolve draws = queued event) :
        Imperative.Relates Mute (filter.resolve draws msg) := same ▸ mute_queued msg event
    apply Client.msgHandlers_cases (motive := fun _ filter => Imperative.Relates Mute (filter.resolve draws msg)) handles
    case psr =>
      refine Mute.bind (mute_modify (fun s => sent_saveAddress s msg) fun s => lastTxReqMsg_saveAddress s msg) fun _ => ?_
      have rest : Imperative.Relates Mute (do
          modify fun s => s.enqueueRx msg
          return ({ msgType := some .psr, eapPayload := msg.avpList.eapPayload.isSome } : PacEvent)) :=
        Mute.bind (mute_modify (fun _ => rfl) fun _ => rfl) fun _ => mute_pure _
      apply Imperative.Relates.ite
      · exact Mute.bind (Imperative.relates_raise (fun s => ⟨rfl, rfl⟩) _) fun _ => rest
      · exact rest
    case pe =>
      refine Mute.bind (mute_modify (fun s => sent_saveAddress s msg) fun s => lastTxReqMsg_saveAddress s msg) fun _ => ?_
      apply Imperative.Relates.ite
      · refine Mute.bind (Imperative.relates_get fun s => ⟨rfl, rfl⟩) fun s => ?_
        refine Mute.bind (mute_modify (fun _ => rfl) fun _ => rfl) fun _ => ?_
        exact Mute.bind (mute_rxPER config draws) fun _ => mute_pure _
      · exact mute_pure _
    all_goals exact queues rfl
  performs draws action s := Client.answers_perform action
  calls c s := by cases c <;> exact ⟨rfl, rfl⟩

theorem Paa.responsive : (Paa.program crypto config).Responsive Paa.duties where
  first {type filter} handles msg s := by
    apply Paa.msgHandlers_cases (motive := fun _ filter =>
      (∃ e, filter.first msg s = .error (.thrown e) s) ∨
        ∃ u, filter.first msg s = .ok () u ∧ s.Mute u ∧ u.lastRxSeqNum = s.lastRxSeqNum) handles
    case pci => exact opens_demand msg _ _ s
    case psa => exact opens_demand msg _ _ s
    case pba => exact opens_demand msg _ _ s
    case prr => exact opens_demand msg _ _ s
    all_goals exact Or.inr ⟨s, rfl, ⟨rfl, rfl⟩, rfl⟩
  resolve {type filter} handles draws msg := by
    have queues {filter : RxFilter PaaEvent} {event : Message → PaaEvent} (same : filter.resolve draws = queued event) :
        Imperative.Relates Mute (filter.resolve draws msg) := same ▸ mute_queued msg event
    apply Paa.msgHandlers_cases (motive := fun _ filter => Imperative.Relates Mute (filter.resolve draws msg)) handles
    case pe =>
      refine Mute.bind (mute_modify (fun s => sent_saveAddress s msg) fun s => lastTxReqMsg_saveAddress s msg) fun _ => ?_
      refine Mute.bind (mute_rxPER config draws) fun _ => ?_
      exact Mute.bind (Imperative.relates_get fun s => ⟨rfl, rfl⟩) fun s => mute_pure _
    all_goals exact queues rfl
  performs draws action s := Paa.answers_perform action
  calls c s := by cases c <;> exact ⟨rfl, rfl⟩

/-- Requests and answers belong together in a run of a client or of an agent as far as its
steps attend to them. -/
theorem run_corresponds (crypto : Crypto) (config : Config) (sessionId isn mskId : UInt32)
    (pacAddress paaAddress : InetAddr) :
    (∀ inputs : List (Input Client.Call),
      Stepwise (Exchange.step (Client.program crypto config) (Client.duties config))
          (Exchange.Corresponds (Client.program crypto config) (Client.duties config))
          (Exchange.opening (.constructed .pac config sessionId isn mskId pacAddress paaAddress)) inputs ↔
        Stepwise (Exchange.step (Client.program crypto config) (Client.duties config))
          (Exchange.Attends (Client.program crypto config) (Client.duties config))
          (Exchange.opening (.constructed .pac config sessionId isn mskId pacAddress paaAddress)) inputs) ∧
      ∀ inputs : List (Input Paa.Call),
        Stepwise (Exchange.step (Paa.program crypto config) Paa.duties)
            (Exchange.Corresponds (Paa.program crypto config) Paa.duties)
            (Exchange.opening (.constructed .paa config sessionId isn mskId pacAddress paaAddress)) inputs ↔
          Stepwise (Exchange.step (Paa.program crypto config) Paa.duties)
            (Exchange.Attends (Paa.program crypto config) Paa.duties)
            (Exchange.opening (.constructed .paa config sessionId isn mskId pacAddress paaAddress)) inputs := by
  have fresh (role : Role) : (constructed role config sessionId isn mskId pacAddress paaAddress).Asks := by
    intro msg kept
    cases kept
  constructor
  · intro inputs
    exact Exchange.run_corresponds_iff (Client.responsive crypto config) (fresh .pac) inputs
  · intro inputs
    exact Exchange.run_corresponds_iff (Paa.responsive crypto config) (fresh .paa) inputs

def quietDraws : Draws := { isn := 5, mskId := 1, nonce := [], key := none, reScheduled := false }

/-- Two start requests are accepted before the first is answered: its answer has the
number of the second. -/
def backlog : List (Input Client.Call) :=
  let request (seq : UInt32) : Message := { type := mtypePSR, request := true, seq := seq, sessionId := 7 }
  [.call .ping, .receive (request 5), .receive (request 6), .serve quietDraws quietDraws]

theorem backlog_misanswered :
    ¬∀ (crypto : Crypto) (config : Config) (sessionId isn mskId : UInt32) (pacAddress paaAddress : InetAddr)
      (inputs : List (Input Client.Call)),
      Stepwise (Exchange.step (Client.program crypto config) (Client.duties config))
        (Exchange.Corresponds (Client.program crypto config) (Client.duties config))
        (Exchange.opening (.constructed .pac config sessionId isn mskId pacAddress paaAddress)) inputs := by
  intro always
  have run := always Traffic.plainCrypto ⟨false, false, true, 3600⟩ 0 41 1 {} {}
    (backlog ++ [.serve quietDraws quietDraws])
  have last := (stepwise_append.mp run).2.1 (by decide +kernel)
  have answers := last.answers
  revert answers
  decide +kernel

end Classes

end OpenDiameter.Pana
