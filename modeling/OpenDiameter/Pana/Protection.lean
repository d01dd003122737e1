import OpenDiameter.Pana.Notices
import OpenDiameter.Pana.Sequence
import OpenDiameter.Pana.Verdicts

/-! What a session with a key accepts.

A message without an AUTH AVP is not validated, with or without a key, and the AUTH AVP
of a bind request is never looked at.
-/

set_option autoImplicit false

namespace OpenDiameter.Pana

open Foundation OpenDiameter.Framework

namespace Program

variable {Event Action Call : Type} (program : Program Event Action Call) (machine : Machine Event)

/-- What `RxValidateMsg` is called for in a call of `Serve`, unless it skips the AUTH AVP:
the session it meets and the message. -/
def validates : Option (Session × Message) :=
  if machine.faulted then none
  else
    match program.filters machine with
    | none => none
    | some (filter, msg) =>
      if filter.skipAuth then none
      else
        match filter.first msg machine.session with
        | .ok _ s => some (s, msg)
        | .error _ _ => none

def AcceptsProtected : Input Call → Prop
  | .serve _ _ => ∀ met ∈ program.validates machine, met.1.sa.authKey.isSet = true →
      met.1.accepts program.crypto met.2 false = true →
      met.2.avpList.auth = some (met.1.sa.authValue program.crypto met.2)
  | _ => True

def MeetsProtected : Input Call → Prop
  | .serve _ _ => ∀ met ∈ program.validates machine, met.1.sa.authKey.isSet = true →
      met.2.avpList.auth = none → ¬(met.1.Numbered met.2 ∧ met.1.Addressed met.2)
  | _ => True

instance (input : Input Call) : Decidable (program.AcceptsProtected machine input) :=
  match input with
  | .serve _ _ => by
    unfold AcceptsProtected
    infer_instance
  | .receive _ | .call _ | .timeout _ => isTrue trivial

instance (input : Input Call) : Decidable (program.MeetsProtected machine input) :=
  match input with
  | .serve _ _ => by
    unfold MeetsProtected
    infer_instance
  | .receive _ | .call _ | .timeout _ => isTrue trivial

theorem acceptsProtected_iff (input : Input Call) :
    program.AcceptsProtected machine input ↔ program.MeetsProtected machine input := by
  cases input with
  | receive msg => exact Iff.rfl
  | call c => exact Iff.rfl
  | timeout tid => exact Iff.rfl
  | serve filtering acting =>
    unfold AcceptsProtected MeetsProtected
    apply forall_congr'
    rintro ⟨s, msg⟩
    apply imp_congr_right
    intro _
    apply imp_congr_right
    intro keyed
    dsimp only at keyed ⊢
    rw [Session.accepts_iff]
    constructor
    · -- Nothing else keeps a message without an AUTH AVP away.
      intro protectedOnly absent expected
      have authentic : s.Authentic program.crypto msg false := Or.inr (Or.inl absent)
      have present := protectedOnly ⟨expected.1, authentic, expected.2⟩
      rw [absent] at present
      cases present
    · intro others acceptable
      rcases acceptable.authentic with skipped | absent | unset | valid
      · cases skipped
      · exact absurd ⟨acceptable.numbered, acceptable.addressed⟩ (others absent)
      · rw [keyed] at unset
        cases unset
      · exact SecurityAssociation.validateAuthAvp_iff.mp valid

end Program

namespace Session

/-- `Authorize` is not called. -/
abbrev Silent {α : Type} (x : Imperative Session Exception α) : Prop :=
  Imperative.Relates (fun s t => t.authorizations = s.authorizations) x

variable {α β : Type}

theorem Quiet.silent {x : Imperative Session Exception α} (quiet : Quiet x) : Silent x :=
  fun s => authorizations_of_verdicts (quiet s)

theorem Silent.bind {x : Imperative Session Exception α} {next : α → Imperative Session Exception β}
    (first : Silent x) (rest : ∀ value, Silent (next value)) : Silent (x >>= next) :=
  Imperative.Relates.bind (fun _ _ _ one two => two.trans one) first rest

variable (config : Config) (draws : Draws)

theorem silent_disconnect (cause : UInt32) : Silent (modify fun s => s.disconnect config draws cause) := by
  apply Imperative.relates_modify
  intro s
  exact authorizations_finish config draws rfl s

theorem silent_rxPER : Silent (rxPER config draws) := by
  apply quiet_dequeueRx.silent.bind
  intro msg
  cases msg.avpList.resultCode with
  | none => exact (quiet_raise _).silent
  | some rcode => exact Imperative.relates_modify fun s => authorizations_finish config draws rfl s

end Session

namespace Client

open Session

variable (crypto : Crypto) (config : Config) (draws : Draws)

section Silence

theorem silent_rxPBR : Silent (rxPBR config draws) := by
  apply quiet_dequeueRx.silent.bind
  intro msg
  cases msg.avpList.resultCode with
  | none => exact (quiet_raise _).silent
  | some rcode =>
    dsimp only
    refine Silent.bind (quiet_modify fun s => rfl).silent fun _ => ?_
    refine Silent.bind (quiet_modify fun s => rfl).silent fun _ => ?_
    cases msg.avpList.eapPayload with
    | some payload => exact (quiet_modify fun s => verdicts_notifyEapRequest s payload).silent
    | none =>
      apply Imperative.Relates.ite
      · apply Imperative.relates_modify
        intro s
        exact (authorizations_finish config draws rfl (s.tell .eapAltReject)).trans (authorizations_tell rfl)
      · exact (quiet_raise _).silent

theorem silent_perform {action : PacAction} (other : action ≠ .waitEapResultExitActionEapOpen) :
    Silent (perform crypto config draws action) := by
  cases decisive : decides action with
  | false => exact (quiet_perform crypto config draws decisive).silent
  | true =>
    have returns {x : SessionM} (silent : Silent x) : Silent (do x; return (none : Option PacEvent)) :=
      silent.bind fun _ => (quiet_pure none).silent
    have closes (authSuccess : Bool) : Silent (modify fun s =>
        (txPBA crypto draws s authSuccess).disconnect config draws) := by
      apply Imperative.relates_modify
      intro s
      have kept := authorizations_of_verdicts (verdicts_txPBA crypto draws authSuccess s)
      exact (authorizations_finish config draws rfl _).trans kept
    cases action
    case waitEapResultExitActionEapOpen => exact absurd rfl other
    case waitPaaExitActionRxPBR => exact returns (silent_rxPBR config draws)
    case waitEapSuccessExitActionClose => exact returns (closes true)
    case waitEapFailExitActionClose => exact returns (closes false)
    case openExitActionRxPTR =>
      apply returns
      apply quiet_dequeueRx.silent.bind
      intro msg
      exact Silent.bind (quiet_modify fun s => rfl).silent fun _ => silent_disconnect config draws _
    case waitPEAExitActionRxPEA =>
      apply returns
      apply quiet_dequeueRx.silent.bind
      intro msg
      exact Silent.bind (quiet_modify fun s => rfl).silent fun _ => silent_disconnect config draws _
    case sessTermExitActionRxPTA =>
      exact returns (quiet_dequeueRx.silent.bind fun _ => silent_disconnect config draws _)
    case exitActionTimeout => exact returns (silent_disconnect config draws _)
    all_goals cases decisive

/-- The receive filters of a client never call `Authorize`. -/
theorem silent_handleMessage {filter : RxFilter PacEvent} {type : MType}
    (handles : msgHandlers config type = some filter) (msg : Message) :
    Silent (filter.handleMessage crypto draws msg) := by
  by_cases error : type = mtypePER
  · subst error
    cases Option.some.inj handles
    refine Silent.bind (quiet_pure _).silent fun _ => (quiet_rxValidateMsg crypto msg _).silent.bind fun _ => ?_
    refine Silent.bind (quiet_modify fun s => verdicts_saveAddress s msg).silent fun _ => ?_
    apply Imperative.Relates.ite
    · apply quiet_get.silent.bind
      intro s
      dsimp only
      refine Silent.bind (quiet_modify fun s => rfl).silent fun _ => ?_
      exact (silent_rxPER config draws).bind fun _ => (quiet_pure _).silent
    · exact (quiet_pure _).silent
  · exact (quiet_handleMessage crypto config draws handles error msg).silent

end Silence

/-- A client, and the bind request after which it waits for the result of EAP. -/
structure Binding where
  machine : Machine PacEvent
  bindRequest : Option Message := none
  deriving DecidableEq, Repr

namespace Binding

variable (b : Binding)

def step (input : Input Call) : Binding where
  machine := (program crypto config).step b.machine input
  bindRequest :=
    match (program crypto config).handling b.machine input with
    | none => b.bindRequest
    | some (notice, entry) => if entry.action = .waitPaaExitActionRxPBR then notice.cause else b.bindRequest

def newKey : Input Call → Option Octets
  | .serve _ acting => acting.key
  | _ => none

/-- `Authorize` is called for a bind request that validates under the key derived for it,
if EAP has a key. -/
def Authenticates (input : Input Call) : Prop :=
  (b.step crypto config input).machine.session.authorizations ≠ b.machine.session.authorizations →
    ∃ pbr ∈ b.bindRequest, pbr.type = mtypePBR ∧ ∀ _key ∈ newKey input,
      (b.step crypto config input).machine.session.sa.validateAuthAvp crypto pbr = true

def derive (key : Octets) (s : Session) : SecurityAssociation :=
  { s.sa with msk := .set key }.generateAuthKey crypto s.sessionId

def Attested : Input Call → Prop
  | .serve filtering acting => ∀ handled ∈ (program crypto config).handles b.machine filtering,
      handled.2.action = .waitEapResultExitActionEapOpen → ∀ pbr ∈ b.bindRequest, ∀ key ∈ acting.key,
      pbr.avpList.auth = some
        ((derive crypto key ((program crypto config).serveMessage b.machine filtering).session).authValue crypto pbr)
  | _ => True

instance (input : Input Call) : Decidable (b.Authenticates crypto config input) := by
  unfold Authenticates
  infer_instance

instance (input : Input Call) : Decidable (b.Attested crypto config input) :=
  match input with
  | .serve _ _ => by
    unfold Attested
    infer_instance
  | .receive _ | .call _ | .timeout _ => isTrue trivial

structure Requested : Prop where
  queued : ∀ notice ∈ b.machine.eventQueue, notice.event.msgType = some .pbr →
    ∃ pbr ∈ notice.cause, pbr.type = mtypePBR
  awaits : b.machine.state = .waitEapResult → ∃ pbr ∈ b.bindRequest, pbr.type = mtypePBR

theorem clientStateTable_binds : ∀ entry ∈ clientStateTable,
    (entry.nextState = .waitEapResult →
      entry.prevState = .waitEapResult ∨ entry.action = .waitPaaExitActionRxPBR) ∧
    (entry.action = .waitPaaExitActionRxPBR → ∃ event ∈ entry.event, event.msgType = some .pbr) ∧
    (entry.action = .waitEapResultExitActionEapOpen → entry.prevState = .waitEapResult) := by
  decide +kernel

theorem type_of_pbr {filter : RxFilter PacEvent} {type : MType} (handles : msgHandlers config type = some filter)
    (msg : Message) :
    Imperative.Yields (fun event => event.msgType = some .pbr → type = mtypePBR)
      (filter.handleMessage crypto draws msg) :=
  fun s event t same pbr => ((resolved crypto config draws handles msg s event t same).bind pbr).1

theorem msgType_of_notifies {event : PacEvent} (notifies : (program crypto config).Notifies event) :
    event.msgType = none := by
  cases notifies with
  | stopped => rfl
  | acted performs => rw [notified_perform crypto config _ _ _ _ _ performs _ rfl]
  | called c s => cases c <;> rfl
  | expired tid => cases tid <;> rfl

variable {b}

theorem requested_step (requested : b.Requested) (input : Input Call) : (b.step crypto config input).Requested where
  queued notice mem pbr := by
    rcases Program.mem_eventQueue_step _ _ input mem with
      old | ⟨filtering, acting, _, filter, msg, s, meets, cause, resolves⟩ | ⟨_, notifies⟩
    · exact requested.queued notice old pbr
    · refine ⟨msg, cause, ?_⟩
      exact type_of_pbr crypto config filtering (Program.filters_mem meets).2.1 msg _ _ _ resolves pbr
    · rw [msgType_of_notifies crypto config notifies] at pbr
      cases pbr
  awaits waits := by
    have goes := (program crypto config).state_step b.machine input
    unfold step at waits ⊢
    dsimp only at waits ⊢
    rw [waits] at goes
    cases handled : (program crypto config).handling b.machine input with
    | none =>
      rw [handled] at goes
      exact requested.awaits goes.symm
    | some pair =>
      obtain ⟨notice, entry⟩ := pair
      rw [handled] at goes
      obtain ⟨filtering, acting, _, mem, found⟩ := (program crypto config).handling_mem b.machine handled
      obtain ⟨inTable, prev, _⟩ := StateTable.findStateTableEntry_mem found
      obtain ⟨leads, named, _⟩ := clientStateTable_binds entry inTable
      dsimp only at goes ⊢
      by_cases binds : entry.action = .waitPaaExitActionRxPBR
      · rw [if_pos binds]
        obtain ⟨event, here, pbr⟩ := named binds
        have same : event = notice.event := StateTable.event_eq_of_found found here
        rcases (program crypto config).mem_eventQueue_serveMessage b.machine filtering mem with
          old | ⟨filter, msg, s, meets, cause, resolves⟩
        · exact requested.queued notice old (same ▸ pbr)
        · exact ⟨msg, cause, type_of_pbr crypto config filtering (Program.filters_mem meets).2.1 msg _ _ _ resolves
            (same ▸ pbr)⟩
      · rw [if_neg binds]
        exact requested.awaits (prev ▸ (leads goes.symm).resolve_right binds)

theorem authorizations_serveMessage (machine : Machine PacEvent) (filtering : Draws) :
    ((program crypto config).serveMessage machine filtering).session.authorizations =
      machine.session.authorizations := by
  rw [Program.session_serveMessage]
  cases meets : (program crypto config).filters machine with
  | none => rfl
  | some pair => exact silent_handleMessage crypto config filtering (Program.filters_mem meets).2.1 pair.2 machine.session

theorem authorizations_step {input : Input Call} (other : ∀ notice entry,
      (program crypto config).handling b.machine input = some (notice, entry) →
        entry.action ≠ .waitEapResultExitActionEapOpen) :
    (b.step crypto config input).machine.session.authorizations = b.machine.session.authorizations := by
  show ((program crypto config).step b.machine input).session.authorizations = _
  cases faulted : b.machine.faulted with
  | true => rw [Program.step_of_faulted _ faulted]
  | false =>
    cases input with
    | serve filtering acting =>
      have filtered := authorizations_serveMessage crypto config b.machine filtering
      rw [Program.step_serve _ faulted, Program.session_serve]
      cases handled : (program crypto config).handles b.machine filtering with
      | none => exact filtered
      | some pair =>
        have performs := silent_perform crypto config acting (other pair.1 pair.2 handled)
        exact (performs _).trans filtered
    | receive msg => rw [Program.step, if_neg (Bool.eq_false_iff.mp faulted)]; rfl
    | call c =>
      rw [Program.step, if_neg (Bool.eq_false_iff.mp faulted)]
      cases c <;> rfl
    | timeout tid =>
      rw [Program.step, if_neg (Bool.eq_false_iff.mp faulted)]
      split <;> rfl

theorem open_run (s : Session) :
    (perform crypto config draws .waitEapResultExitActionEapOpen).after s =
      (notifyAuthorization (txPBA crypto draws s true)).notifyScheduleLifetime := rfl

theorem authorizations_open (s : Session) :
    (notifyAuthorization (txPBA crypto draws s true)).notifyScheduleLifetime.authorizations = s.authorizations + 1 := by
  rw [← authorizations_of_verdicts (verdicts_txPBA crypto draws true s)]
  exact List.countP_append

/-- The association after the answer to a bind request. -/
theorem sa_open (s : Session) {key : Octets} (drawn : draws.key = some key) :
    (notifyAuthorization (txPBA crypto draws s true)).notifyScheduleLifetime.sa = derive crypto key s := by
  show (txPBA crypto draws s true).sa = derive crypto key s
  unfold txPBA
  rw [drawn]
  rfl

theorem authenticates_iff (requested : b.Requested) (input : Input Call) :
    b.Authenticates crypto config input ↔ b.Attested crypto config input := by
  -- Only the action that opens the session authorizes.
  by_cases opens : ∃ notice entry, (program crypto config).handling b.machine input = some (notice, entry) ∧
      entry.action = .waitEapResultExitActionEapOpen
  · obtain ⟨notice, entry, handled, action⟩ := opens
    obtain ⟨filtering, acting, rfl, _, found⟩ := (program crypto config).handling_mem b.machine handled
    obtain ⟨inTable, prev, _⟩ := StateTable.findStateTableEntry_mem found
    obtain ⟨pbr, bound, type⟩ := requested.awaits (prev ▸ (clientStateTable_binds entry inTable).2.2 action)
    have running : b.machine.faulted = false := by
      cases faulted : b.machine.faulted with
      | false => rfl
      | true =>
        rw [Program.handling, Program.handles_of_faulted _ faulted] at handled
        cases handled
    have opened : (b.step crypto config (.serve filtering acting)).machine.session =
        (notifyAuthorization (txPBA crypto acting ((program crypto config).serveMessage b.machine filtering).session
          true)).notifyScheduleLifetime := by
      have same := (program crypto config).session_serve b.machine filtering acting
      rw [show (program crypto config).handles b.machine filtering = _ from handled] at same
      dsimp only at same
      rw [action] at same
      rw [step, Program.step_serve _ running]
      exact same
    have grows : (b.step crypto config (.serve filtering acting)).machine.session.authorizations ≠
        b.machine.session.authorizations := by
      rw [opened, authorizations_open, authorizations_serveMessage]
      exact Nat.succ_ne_self _
    -- The key that is drawn is the one the association is derived from.
    have validates {key : Octets} (drawn : acting.key = some key) (msg : Message) :
        (b.step crypto config (.serve filtering acting)).machine.session.sa.validateAuthAvp crypto msg = true ↔
          msg.avpList.auth = some ((derive crypto key
            ((program crypto config).serveMessage b.machine filtering).session).authValue crypto msg) := by
      rw [SecurityAssociation.validateAuthAvp_iff, opened, sa_open crypto acting _ drawn]
    constructor
    · intro authenticates handled' _ _ pbr' bound' key drawn
      obtain ⟨_, here, _, valid⟩ := authenticates grows
      cases Option.mem_unique here bound'
      exact (validates drawn _).mp (valid key drawn)
    · intro attested _
      refine ⟨pbr, bound, type, ?_⟩
      intro key drawn
      exact (validates drawn _).mpr (attested (notice, entry) handled action pbr bound key drawn)
  · have kept : (b.step crypto config input).machine.session.authorizations = b.machine.session.authorizations :=
      authorizations_step crypto config fun notice entry handled action => opens ⟨notice, entry, handled, action⟩
    apply iff_of_true
    · intro grows
      exact absurd kept grows
    · cases input with
      | serve filtering acting =>
        intro handled found action
        exact absurd ⟨handled.1, handled.2, found, action⟩ opens
      | receive msg => trivial
      | call c => trivial
      | timeout tid => trivial

end Binding

end Client

section Runs

def Client.Binding.Protected (crypto : Crypto) (config : Config) (b : Client.Binding) (input : Input Client.Call) : Prop :=
  (Client.program crypto config).AcceptsProtected b.machine input ∧ b.Authenticates crypto config input

/-- A client meets no message without an AUTH AVP, and no bind request that it should not
trust. -/
def Client.Binding.Unharmed (crypto : Crypto) (config : Config) (b : Client.Binding) (input : Input Client.Call) : Prop :=
  (Client.program crypto config).MeetsProtected b.machine input ∧ b.Attested crypto config input

/-- Sessions accept protected messages only in the runs that bring no others. -/
theorem run_protected_iff (crypto : Crypto) (config : Config) (s : Session) :
    (∀ inputs : List (Input Client.Call),
      Stepwise (Client.Binding.step crypto config) (Client.Binding.Protected crypto config)
          { machine := .opening s } inputs ↔
        Stepwise (Client.Binding.step crypto config) (Client.Binding.Unharmed crypto config)
          { machine := .opening s } inputs) ∧
    ∀ inputs : List (Input Paa.Call),
      Stepwise (Paa.program crypto config).step (Paa.program crypto config).AcceptsProtected (.opening s) inputs ↔
        Stepwise (Paa.program crypto config).step (Paa.program crypto config).MeetsProtected (.opening s) inputs := by
  constructor
  · intro inputs
    have agree (b : Client.Binding) (input : Input Client.Call) (requested : b.Requested) (_ : True) :
        b.Protected crypto config input ↔ b.Unharmed crypto config input :=
      and_congr ((Client.program crypto config).acceptsProtected_iff b.machine input)
        (Client.Binding.authenticates_iff crypto config requested input)
    have keeps (b : Client.Binding) (input : Input Client.Call) (requested : b.Requested) (_ : True)
        (_ : b.Unharmed crypto config input) : (b.step crypto config input).Requested :=
      Client.Binding.requested_step crypto config requested input
    apply stepwise_iff agree keeps
    · constructor
      · intro notice mem
        cases mem
      · intro waits
        cases waits
    · intro input _
      trivial
  · intro inputs
    have agree (machine : Machine PaaEvent) (input : Input Paa.Call) (_ : True) (_ : True) :
        (Paa.program crypto config).AcceptsProtected machine input ↔
          (Paa.program crypto config).MeetsProtected machine input :=
      (Paa.program crypto config).acceptsProtected_iff machine input
    have keeps (machine : Machine PaaEvent) (input : Input Paa.Call) (_ : True) (_ : True)
        (_ : (Paa.program crypto config).MeetsProtected machine input) : True := trivial
    exact stepwise_iff agree keeps trivial (fun _ _ => trivial)

def keyedDraws : Draws := { isn := 5, mskId := 1, nonce := [9], key := some [8], reScheduled := false }

def unprotected (type : MType) (seq : UInt32) (avpList : AvpList) : List (Input Client.Call) :=
  [.receive { type := type, request := true, sessionId := 7, seq := seq, avpList := avpList }, .serve keyedDraws keyedDraws]

/-- A client that is bound to a session, and then told to end it, by requests that
nothing protects. -/
theorem unprotected_accepted :
    ¬(∀ (crypto : Crypto) (config : Config) (s : Session) (inputs : List (Input Client.Call)),
        Stepwise (Client.Binding.step crypto config)
          (fun b => (Client.program crypto config).AcceptsProtected b.machine) { machine := .opening s } inputs) ∧
      ¬∀ (crypto : Crypto) (config : Config) (s : Session) (inputs : List (Input Client.Call)),
        Stepwise (Client.Binding.step crypto config) (fun b => b.Authenticates crypto config)
          { machine := .opening s } inputs := by
  constructor
  · intro always
    have accepts := always Traffic.plainCrypto ⟨false, false, true, 3600⟩ (Traffic.numberedFrom 5 .pac)
      (unprotected mtypePSR 41 {} ++ unprotected mtypePAR 42 { eapPayload := some [1] } ++
        [.call (.eapSendResponse [2]), .serve keyedDraws keyedDraws] ++
        unprotected mtypePBR 43 { eapPayload := some [3], resultCode := some rcodeSuccess } ++
        [.call .eapSuccess, .serve keyedDraws keyedDraws] ++ unprotected mtypePTR 44 {})
    revert accepts
    decide +kernel
  · intro always
    have authenticates := always Traffic.plainCrypto ⟨false, false, true, 3600⟩ (Traffic.numberedFrom 5 .pac)
      (unprotected mtypePSR 41 {} ++ unprotected mtypePAR 42 { eapPayload := some [1] } ++
        [.call (.eapSendResponse [2]), .serve keyedDraws keyedDraws] ++
        unprotected mtypePBR 43 { eapPayload := some [3], resultCode := some rcodeSuccess } ++
        [.call .eapSuccess, .serve keyedDraws keyedDraws])
    revert authenticates
    decide +kernel

end Runs

end OpenDiameter.Pana
