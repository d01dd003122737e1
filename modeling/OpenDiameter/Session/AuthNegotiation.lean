import OpenDiameter.Foundation.Runs
import OpenDiameter.Session.AcctServer
import OpenDiameter.Session.AuthMachine

/-! The lifetimes that a client and a server session of authorization negotiate.

A client sends hints. The server takes them into account until it answers for the
first time; from then on its values stand, and it says no more about them. What the
state machines do of a message comes with the input, as the state they are in.
-/

set_option autoImplicit false

namespace OpenDiameter.Session.AuthNegotiation

open Foundation OpenDiameter.Framework
open AcctServer (Negotiated)

section Values

/-- `DIAMETER_SESSION_STATE_MAINTAINED`. -/
def stateMaintained : UInt32 := 0

structure Config where
  stateful : UInt32
  sessionTm : UInt32
  lifetimeTm : UInt32
  graceTm : UInt32
  deriving DecidableEq, Repr

/-- What the application sets when it is asked, or the AVPs of a message. -/
structure Settings where
  state : Option UInt32 := none
  sessionTimeout : Option UInt32 := none
  lifetime : Option UInt32 := none
  grace : Option UInt32 := none
  deriving DecidableEq, Repr

structure Lifetimes where
  state : Negotiated
  sessionTimeout : Negotiated
  lifetime : Negotiated
  grace : Negotiated
  deriving DecidableEq, Repr

/-- The constructor of `DiameterAuthSession`. -/
def Lifetimes.initial (cfg : Config) : Lifetimes :=
  ⟨⟨cfg.stateful, false⟩, ⟨cfg.sessionTm, false⟩, ⟨cfg.lifetimeTm, false⟩, ⟨cfg.graceTm, false⟩⟩

section Attributes

variable (own : Negotiated)

def assign (value : Option UInt32) : Negotiated := ⟨value.getD own.value, own.isNegotiated⟩

/-- `Set` by an answer, while it is not negotiated. -/
def dictated (avp : Option UInt32) : Negotiated :=
  match avp with
  | some value => if own.isNegotiated then own else ⟨value, true⟩
  | none => own

def lowered (avp : Option UInt32) : UInt32 :=
  match avp with
  | some value => if own.value < value then own.value else value
  | none => own.value

/-- What `TxDelivery` makes of an AVP of the server. -/
def tx (avp : Option UInt32) : Negotiated × Option UInt32 :=
  if own.isNegotiated then (own, avp) else (⟨lowered own avp, true⟩, some (lowered own avp))

/-- What `Send` makes of an AVP of the client. -/
def hint (avp : Option UInt32) : Negotiated × Option UInt32 :=
  if own.isNegotiated then (own, avp)
  else (⟨lowered own avp, false⟩, some (lowered own avp))

end Attributes

def underTimeout (timeout : UInt32) : UInt32 :=
  if timeout - 1 < 0x80000000 then timeout - 1 else timeout - 1 + 1

namespace Lifetimes

variable (session : Lifetimes)

def sane : Lifetimes :=
  if session.sessionTimeout.value < session.lifetime.value
  then { session with lifetime := ⟨underTimeout session.sessionTimeout.value, session.lifetime.isNegotiated⟩ }
  else session

/-- `DiameterClientAuthSession::Begin`, of a machine that runs or does not. -/
def begin (running : Bool) (set : Settings) : Lifetimes :=
  let timed := Lifetimes.sane
    { session with
      sessionTimeout := ⟨set.sessionTimeout.getD session.sessionTimeout.value, false⟩
      lifetime := ⟨set.lifetime.getD session.lifetime.value, false⟩
      grace := ⟨session.grace.value, false⟩ }
  { timed with
    grace := assign timed.grace set.grace
    state := if running then timed.state else assign timed.state set.state }

/-- `DiameterClientAuthSession::Send`, of a machine in a state. -/
def send (st : AuthState) (avps : Settings) : Lifetimes × Settings :=
  let (sessionTimeout, timeoutAvp) := hint session.sessionTimeout avps.sessionTimeout
  let (lifetime, lifetimeAvp) := hint session.lifetime avps.lifetime
  ({ session with sessionTimeout, lifetime },
    { avps with
      state := if st = .idle ∧ session.state.isNegotiated = false then some session.state.value else avps.state
      sessionTimeout := timeoutAvp
      lifetime := lifetimeAvp })

/-- `DiameterClientAuthSession::RxAnswer`. -/
def rxAnswer (avps : Settings) : Lifetimes where
  state := dictated session.state avps.state
  sessionTimeout := dictated session.sessionTimeout avps.sessionTimeout
  lifetime := dictated session.lifetime avps.lifetime
  grace := dictated session.grace avps.grace

def rxState (cfg : Config) (avps set : Settings) : Negotiated :=
  if session.state.isNegotiated then session.state
  else
    match avps.state with
    | some state =>
      -- A server is downgraded, never upgraded.
      ⟨if session.state.value = stateMaintained then state else session.state.value, true⟩
    | none => ⟨set.state.getD cfg.stateful, true⟩

def rxHint (own : Negotiated) (avp set : Option UInt32) : Negotiated :=
  let asked := assign own set
  ⟨lowered asked avp, own.isNegotiated⟩

/-- `DiameterServerAuthSession::RxRequest`. -/
def rxRequest (cfg : Config) (avps set : Settings) : Lifetimes :=
  let session := { session with state := session.rxState cfg avps set }
  let session :=
    if session.sessionTimeout.isNegotiated then session
    else { session with sessionTimeout := rxHint session.sessionTimeout avps.sessionTimeout set.sessionTimeout }
  let session :=
    if session.lifetime.isNegotiated then session
    else Lifetimes.sane { session with lifetime := rxHint session.lifetime avps.lifetime set.lifetime }
  if session.grace.isNegotiated then session else { session with grace := assign session.grace set.grace }

/-- `DiameterServerAuthSession::TxDelivery`, with the AVPs as they are sent. -/
def txDelivery (avps : Settings) : Lifetimes × Settings :=
  let (sessionTimeout, timeoutAvp) := tx session.sessionTimeout avps.sessionTimeout
  let (lifetime, lifetimeAvp) := tx session.lifetime avps.lifetime
  let (grace, graceAvp) := tx session.grace avps.grace
  ({ session with sessionTimeout, lifetime, grace },
    { state := some session.state.value, sessionTimeout := timeoutAvp, lifetime := lifetimeAvp, grace := graceAvp })

end Lifetimes

end Values

section Exchanges

structure Exchange where
  cfg : Config
  client : Lifetimes
  server : Lifetimes
  toServer : List Settings
  toClient : List Settings
  served : Bool
  taken : Bool
  /-- The last answer that the client has processed since it began was a success. -/
  granted : Bool
  deriving DecidableEq, Repr

def Exchange.initial (client server : Config) : Exchange :=
  ⟨server, .initial client, .initial server, [], [], false, false, false⟩

inductive Input where
  | begin (running : Bool) (set : Settings)
  | send (request running : Bool) (st : AuthState) (avps : Settings)
  | reset
  | request (set : Settings)
  | answer (st : AuthState) (avps : Settings)
  /-- The server sends a request of its own, or an STA. -/
  | other (avps : Settings)
  /-- The client receives the next answer. -/
  | result (success : Bool)
  deriving DecidableEq, Repr

def clientDelivers (st : AuthState) : Bool :=
  (clientTable.findStateTableEntry st .txSsar).any (·.action == .txSsar)

def serverDelivers (st : AuthState) : Bool :=
  (serverTable.findStateTableEntry st .txSsaa).any (·.action == .txSsa)

namespace Exchange

variable (exchange : Exchange)

def step : Input → Exchange
  | .begin running set => { exchange with client := exchange.client.begin running set, granted := false }
  | .send request running st avps =>
    if running then
      let (client, sent) := exchange.client.send st avps
      { exchange with
        client
        toServer := if request ∧ clientDelivers st = true then exchange.toServer ++ [sent] else exchange.toServer }
    else exchange
  | .reset =>
    { exchange with client := { exchange.client with state := ⟨exchange.client.state.value, false⟩ } }
  | .request set =>
    match exchange.toServer with
    | [] => exchange
    | avps :: rest =>
      { exchange with server := exchange.server.rxRequest exchange.cfg avps set, toServer := rest, served := true }
  | .answer st avps =>
    if serverDelivers st then
      let (server, sent) := exchange.server.txDelivery avps
      { exchange with server, toClient := exchange.toClient ++ [sent] }
    else exchange
  | .other avps => { exchange with server := (exchange.server.txDelivery avps).1 }
  | .result success =>
    match exchange.toClient with
    | [] => exchange
    | avps :: rest =>
      { exchange with
        client := exchange.client.rxAnswer avps
        toClient := rest
        taken := true
        granted := success }

end Exchange

end Exchanges

section Purpose

structure Lifetimes.Equal (client server : Lifetimes) : Prop where
  state : client.state.value = server.state.value
  sessionTimeout : client.sessionTimeout.value = server.sessionTimeout.value
  lifetime : client.lifetime.value = server.lifetime.value
  grace : client.grace.value = server.grace.value

def Exchange.Agrees (exchange : Exchange) : Prop :=
  exchange.granted = true →
    exchange.client.Equal exchange.server ∧ exchange.client.lifetime.value ≤ exchange.client.sessionTimeout.value

end Purpose

section Condition

def Repeats (given : Option UInt32) (own : Negotiated) : Prop := ∀ value ∈ given, value = own.value

instance (given : Option UInt32) (own : Negotiated) : Decidable (Repeats given own) :=
  Option.decidableForallMem given

def NotBelow (given : Option UInt32) (own : Negotiated) : Prop :=
  own.isNegotiated = false → ∀ value ∈ given, own.value ≤ value

instance (given : Option UInt32) (own : Negotiated) : Decidable (NotBelow given own) :=
  @instDecidableForall _ _ inferInstance (Option.decidableForallMem given)

def Settled (exchange : Exchange) : Input → Prop
  | .begin running set => exchange.taken = true →
      Repeats set.sessionTimeout exchange.client.sessionTimeout ∧ Repeats set.lifetime exchange.client.lifetime ∧
        Repeats set.grace exchange.client.grace ∧ (running = false → Repeats set.state exchange.client.state)
  | .send _ _ _ avps => exchange.taken = true →
      NotBelow avps.sessionTimeout exchange.client.sessionTimeout ∧ NotBelow avps.lifetime exchange.client.lifetime
  | .answer _ avps =>
    exchange.served = true ∧
      (exchange.server.sessionTimeout.isNegotiated = true →
        Repeats avps.sessionTimeout exchange.server.sessionTimeout ∧ Repeats avps.lifetime exchange.server.lifetime ∧
          Repeats avps.grace exchange.server.grace) ∧
      (exchange.server.sessionTimeout.isNegotiated = false →
        lowered exchange.server.lifetime avps.lifetime ≤ lowered exchange.server.sessionTimeout avps.sessionTimeout)
  | .other _ => exchange.server.sessionTimeout.isNegotiated = true
  | .reset | .request _ | .result _ => True

instance (exchange : Exchange) : (input : Input) → Decidable (Settled exchange input)
  | .begin .. => inferInstanceAs (Decidable (_ → _ ∧ _ ∧ _ ∧ (_ → _)))
  | .send .. => inferInstanceAs (Decidable (_ → _ ∧ _))
  | .answer .. => inferInstanceAs (Decidable (_ ∧ (_ → _ ∧ _ ∧ _) ∧ (_ → _)))
  | .other _ => inferInstanceAs (Decidable (_ = _))
  | .reset | .request _ | .result _ => .isTrue trivial

end Condition

section Values

variable {own standing : Negotiated} {avp : Option UInt32}

theorem underTimeout_le (timeout : UInt32) : underTimeout timeout ≤ timeout := by
  unfold underTimeout
  split
  · next small =>
    rw [UInt32.le_iff_toNat_le]
    rw [UInt32.lt_iff_toNat_lt] at small
    have bound := timeout.toNat_lt
    rw [UInt32.toNat_sub] at small ⊢
    simp only [UInt32.reduceToNat] at small ⊢
    omega
  · exact UInt32.le_of_eq (UInt32.sub_add_cancel timeout _)

theorem sane_ordered (session : Lifetimes) : session.sane.lifetime.value ≤ session.sane.sessionTimeout.value := by
  unfold Lifetimes.sane
  split
  · exact underTimeout_le _
  · next ordered => exact UInt32.not_lt.mp ordered

theorem sane_of_ordered {session : Lifetimes} (ordered : session.lifetime.value ≤ session.sessionTimeout.value) :
    session.sane = session :=
  if_neg (UInt32.not_lt.mpr ordered)

theorem sane_keeps (session : Lifetimes) :
    session.sane.state = session.state ∧ session.sane.sessionTimeout = session.sessionTimeout ∧
      session.sane.grace = session.grace ∧ session.sane.lifetime.isNegotiated = session.lifetime.isNegotiated := by
  unfold Lifetimes.sane
  split <;> exact ⟨rfl, rfl, rfl, rfl⟩

theorem assign_repeats (repeats : Repeats avp own) : avp.getD own.value = own.value := by
  cases avp with
  | none => rfl
  | some value => exact repeats value rfl

theorem lowered_notBelow (above : ∀ value ∈ avp, own.value ≤ value) : lowered own avp = own.value := by
  cases avp with
  | none => rfl
  | some value =>
    unfold lowered
    dsimp only
    split
    · rfl
    · next notLess => exact UInt32.le_antisymm (UInt32.not_lt.mp notLess) (above value rfl)

theorem hint_notBelow (above : NotBelow avp own) : (hint own avp).1 = own := by
  obtain ⟨value, negotiated⟩ := own
  cases negotiated with
  | true => rfl
  | false => exact congrArg (Negotiated.mk · false) (lowered_notBelow (above rfl))

theorem hint_isNegotiated : (hint own avp).1.isNegotiated = own.isNegotiated := by
  unfold hint
  split
  · rfl
  · next notYet => exact (Bool.not_eq_true _ ▸ notYet).symm

theorem tx_negotiated (negotiated : own.isNegotiated = true) : tx own avp = (own, avp) := if_pos negotiated

theorem tx_first (notYet : own.isNegotiated = false) :
    tx own avp = (⟨lowered own avp, true⟩, some (lowered own avp)) :=
  if_neg (by rw [notYet]; exact Bool.false_ne_true)

theorem dictated_repeats (same : own.value = standing.value) (repeats : Repeats avp standing) :
    (dictated own avp).value = standing.value := by
  cases avp with
  | none => exact same
  | some value =>
    unfold dictated
    dsimp only
    split
    · exact same
    · exact repeats value rfl

theorem dictated_first (notYet : own.isNegotiated = false) (given : avp.isSome = true) (repeats : Repeats avp standing) :
    (dictated own avp).value = standing.value := by
  obtain ⟨value, rfl⟩ := Option.isSome_iff_exists.mp given
  unfold dictated
  rw [notYet]
  exact repeats value rfl

theorem repeats_some (own : Negotiated) : Repeats (some own.value) own := by
  intro value given
  exact (Option.some.inj given).symm

end Values

section Invariant

variable {exchange : Exchange}

structure Agreeing (exchange : Exchange) : Prop where
  lifetime : exchange.server.lifetime.isNegotiated = exchange.server.sessionTimeout.isNegotiated
  grace : exchange.server.grace.isNegotiated = exchange.server.sessionTimeout.isNegotiated
  state : exchange.served = true → exchange.server.state.isNegotiated = true
  sane : exchange.served = true → exchange.server.lifetime.value ≤ exchange.server.sessionTimeout.value
  dictates : exchange.server.sessionTimeout.isNegotiated = true → exchange.served = true
  silent : exchange.server.sessionTimeout.isNegotiated = false → exchange.toClient = [] ∧ exchange.taken = false
  fresh : exchange.taken = false → exchange.client.state.isNegotiated = false ∧
    exchange.client.sessionTimeout.isNegotiated = false ∧ exchange.client.lifetime.isNegotiated = false ∧
      exchange.client.grace.isNegotiated = false
  repeats : ∀ avps ∈ exchange.toClient, avps.state = some exchange.server.state.value ∧
    Repeats avps.sessionTimeout exchange.server.sessionTimeout ∧ Repeats avps.lifetime exchange.server.lifetime ∧
      Repeats avps.grace exchange.server.grace
  first : exchange.server.sessionTimeout.isNegotiated = true → exchange.taken = false → ∃ avps rest,
    exchange.toClient = avps :: rest ∧
      avps.sessionTimeout.isSome = true ∧ avps.lifetime.isSome = true ∧ avps.grace.isSome = true
  equal : exchange.taken = true → exchange.client.Equal exchange.server
  granted : exchange.granted = true → exchange.taken = true

theorem Agreeing.dictated (agreeing : Agreeing exchange) (taken : exchange.taken = true) :
    exchange.server.sessionTimeout.isNegotiated = true := by
  cases negotiated : exchange.server.sessionTimeout.isNegotiated with
  | true => rfl
  | false =>
    have nothing := (agreeing.silent negotiated).2
    rw [taken] at nothing
    cases nothing

theorem Agreeing.ordered (agreeing : Agreeing exchange) (taken : exchange.taken = true) :
    exchange.client.lifetime.value ≤ exchange.client.sessionTimeout.value := by
  have equal := agreeing.equal taken
  rw [equal.lifetime, equal.sessionTimeout]
  exact agreeing.sane (agreeing.dictates (agreeing.dictated taken))

theorem Agreeing.agrees (agreeing : Agreeing exchange) : exchange.Agrees := fun granted =>
  ⟨agreeing.equal (agreeing.granted granted), agreeing.ordered (agreeing.granted granted)⟩

theorem initial_agreeing (client server : Config) : Agreeing (.initial client server) where
  lifetime := rfl
  grace := rfl
  state := nofun
  sane := nofun
  dictates := nofun
  silent := fun _ => ⟨rfl, rfl⟩
  fresh := fun _ => ⟨rfl, rfl, rfl, rfl⟩
  repeats := List.forall_mem_nil _
  first := nofun
  equal := nofun
  granted := nofun

theorem Agreeing.client (agreeing : Agreeing exchange) {client : Lifetimes} {toServer : List Settings} {granted : Bool}
    (fresh : exchange.taken = false → client.state.isNegotiated = false ∧ client.sessionTimeout.isNegotiated = false ∧
      client.lifetime.isNegotiated = false ∧ client.grace.isNegotiated = false)
    (equal : exchange.taken = true → client.Equal exchange.client) (still : granted = true → exchange.granted = true) :
    Agreeing { exchange with client, toServer, granted } where
  lifetime := agreeing.lifetime
  grace := agreeing.grace
  state := agreeing.state
  sane := agreeing.sane
  dictates := agreeing.dictates
  silent := agreeing.silent
  fresh := fresh
  repeats := agreeing.repeats
  first := agreeing.first
  equal := by
    intro taken
    have same := equal taken
    have before := agreeing.equal taken
    exact ⟨same.state.trans before.state, same.sessionTimeout.trans before.sessionTimeout,
      same.lifetime.trans before.lifetime, same.grace.trans before.grace⟩
  granted := fun now => agreeing.granted (still now)

theorem Agreeing.begin (agreeing : Agreeing exchange) {running : Bool} {set : Settings}
    (settled : Settled exchange (.begin running set)) : Agreeing (exchange.step (.begin running set)) := by
  refine agreeing.client ?_ ?_ nofun
  · intro nothing
    obtain ⟨state, -⟩ := agreeing.fresh nothing
    simp only [Lifetimes.begin]
    obtain ⟨keptState, keptTimeout, keptGrace, keptLifetime⟩ := sane_keeps
      { exchange.client with
        sessionTimeout := ⟨set.sessionTimeout.getD exchange.client.sessionTimeout.value, false⟩
        lifetime := ⟨set.lifetime.getD exchange.client.lifetime.value, false⟩
        grace := ⟨exchange.client.grace.value, false⟩ }
    refine ⟨?_, ?_, ?_, ?_⟩
    · rw [keptState]
      split
      · exact state
      · exact state
    · rw [keptTimeout]
    · rw [keptLifetime]
    · rw [keptGrace]
      rfl
  · intro taken
    obtain ⟨timeout, lifetime, grace, state⟩ := settled taken
    have ordered := agreeing.ordered taken
    simp only [Lifetimes.begin, assign_repeats timeout, assign_repeats lifetime]
    rw [@sane_of_ordered
      ⟨exchange.client.state, ⟨_, false⟩, ⟨_, false⟩, ⟨exchange.client.grace.value, false⟩⟩ ordered]
    refine ⟨?_, rfl, rfl, assign_repeats grace⟩
    cases running with
    | true => rfl
    | false => exact assign_repeats (state rfl)

theorem Agreeing.send (agreeing : Agreeing exchange) {request running : Bool} {st : AuthState} {avps : Settings}
    (settled : Settled exchange (.send request running st avps)) :
    Agreeing (exchange.step (.send request running st avps)) := by
  cases running with
  | false => exact agreeing
  | true =>
    refine agreeing.client ?_ ?_ id
    · intro nothing
      obtain ⟨state, timeout, lifetime, grace⟩ := agreeing.fresh nothing
      exact ⟨state, hint_isNegotiated.trans timeout, hint_isNegotiated.trans lifetime, grace⟩
    · intro taken
      obtain ⟨timeout, lifetime⟩ := settled taken
      exact ⟨rfl, congrArg Negotiated.value (hint_notBelow timeout), congrArg Negotiated.value (hint_notBelow lifetime), rfl⟩

theorem Agreeing.reset (agreeing : Agreeing exchange) : Agreeing (exchange.step .reset) := by
  refine agreeing.client ?_ (fun _ => ⟨rfl, rfl, rfl, rfl⟩) id
  intro nothing
  exact ⟨rfl, (agreeing.fresh nothing).2⟩

/-- A server whose values stand keeps them when it receives a request. -/
theorem rxRequest_standing {server : Lifetimes} {cfg : Config} {avps set : Settings}
    (state : server.state.isNegotiated = true) (timeout : server.sessionTimeout.isNegotiated = true)
    (lifetime : server.lifetime.isNegotiated = true) (grace : server.grace.isNegotiated = true) :
    server.rxRequest cfg avps set = server := by
  simp only [Lifetimes.rxRequest, Lifetimes.rxState, state, timeout, lifetime, grace, if_true]

theorem rxRequest_open (server : Lifetimes) (cfg : Config) (avps set : Settings)
    (lifetime : server.lifetime.isNegotiated = false) :
    (server.rxRequest cfg avps set).state.isNegotiated = true ∧
      (server.rxRequest cfg avps set).sessionTimeout.isNegotiated = server.sessionTimeout.isNegotiated ∧
      (server.rxRequest cfg avps set).lifetime.isNegotiated = false ∧
      (server.rxRequest cfg avps set).grace.isNegotiated = server.grace.isNegotiated ∧
      (server.rxRequest cfg avps set).lifetime.value ≤ (server.rxRequest cfg avps set).sessionTimeout.value := by
  have negotiated : (server.rxState cfg avps set).isNegotiated = true := by
    unfold Lifetimes.rxState
    split
    · assumption
    · split <;> rfl
  -- The values as they are when the sanity checks are made.
  obtain ⟨timed, received, state, timeout, unset, grace⟩ : ∃ timed : Lifetimes,
      server.rxRequest cfg avps set =
          (if timed.sane.grace.isNegotiated then timed.sane
            else { timed.sane with grace := assign timed.sane.grace set.grace }) ∧
        timed.state = server.rxState cfg avps set ∧
        timed.sessionTimeout.isNegotiated = server.sessionTimeout.isNegotiated ∧
        timed.lifetime.isNegotiated = false ∧ timed.grace = server.grace := by
    cases negotiated : server.sessionTimeout.isNegotiated <;>
      simp only [Lifetimes.rxRequest, negotiated, lifetime, Bool.false_eq_true, if_true, if_false]
    · exact ⟨_, rfl, rfl, negotiated, lifetime, rfl⟩
    · exact ⟨_, rfl, rfl, negotiated, lifetime, rfl⟩
  obtain ⟨keptState, keptTimeout, keptGrace, keptLifetime⟩ := sane_keeps timed
  have ordered := sane_ordered timed
  rw [← keptState] at state
  rw [← keptTimeout] at timeout
  rw [← keptLifetime] at unset
  rw [← keptGrace] at grace
  rw [received]
  split
  · exact ⟨state ▸ negotiated, timeout, unset, congrArg _ grace, ordered⟩
  · have same : timed.sane.grace.isNegotiated = server.grace.isNegotiated := congrArg Negotiated.isNegotiated grace
    exact ⟨state ▸ negotiated, timeout, unset, same, ordered⟩

theorem Agreeing.request (agreeing : Agreeing exchange) (set : Settings) : Agreeing (exchange.step (.request set)) := by
  unfold Exchange.step
  dsimp only
  split
  · exact agreeing
  next avps rest waits =>
    cases negotiated : exchange.server.sessionTimeout.isNegotiated with
    | true =>
      have served := agreeing.dictates negotiated
      rw [rxRequest_standing (agreeing.state served) negotiated (agreeing.lifetime.trans negotiated)
        (agreeing.grace.trans negotiated)]
      exact ⟨agreeing.lifetime, agreeing.grace, fun _ => agreeing.state served, fun _ => agreeing.sane served,
        fun _ => rfl, agreeing.silent, agreeing.fresh, agreeing.repeats, agreeing.first, agreeing.equal, agreeing.granted⟩
    | false =>
      obtain ⟨nothing, untaken⟩ := agreeing.silent negotiated
      obtain ⟨state, timeout, lifetime, grace, ordered⟩ :=
        rxRequest_open exchange.server exchange.cfg avps set (agreeing.lifetime.trans negotiated)
      rw [negotiated] at timeout
      rw [agreeing.grace, negotiated] at grace
      refine ⟨lifetime.trans timeout.symm, grace.trans timeout.symm, fun _ => state, fun _ => ordered, fun _ => rfl,
        fun _ => ⟨nothing, untaken⟩, agreeing.fresh, ?_, ?_, ?_, agreeing.granted⟩
      · rw [nothing]
        exact List.forall_mem_nil _
      · intro dictated
        rw [timeout] at dictated
        cases dictated
      · intro taken
        rw [untaken] at taken
        cases taken

theorem txDelivery_standing (agreeing : Agreeing exchange) (negotiated : exchange.server.sessionTimeout.isNegotiated = true)
    (avps : Settings) :
    exchange.server.txDelivery avps = (exchange.server, { avps with state := some exchange.server.state.value }) := by
  simp only [Lifetimes.txDelivery, tx_negotiated negotiated, tx_negotiated (agreeing.lifetime.trans negotiated),
    tx_negotiated (agreeing.grace.trans negotiated)]

theorem Agreeing.other (agreeing : Agreeing exchange) {avps : Settings} (settled : Settled exchange (.other avps)) :
    Agreeing (exchange.step (.other avps)) := by
  unfold Exchange.step
  dsimp only
  rw [txDelivery_standing agreeing settled]
  exact agreeing

theorem Agreeing.answer (agreeing : Agreeing exchange) {st : AuthState} {avps : Settings}
    (settled : Settled exchange (.answer st avps)) : Agreeing (exchange.step (.answer st avps)) := by
  obtain ⟨served, repeated, ordered⟩ := settled
  unfold Exchange.step
  dsimp only
  split
  case isFalse => exact agreeing
  case isTrue =>
    cases negotiated : exchange.server.sessionTimeout.isNegotiated with
    | true =>
      obtain ⟨timeout, lifetime, grace⟩ := repeated negotiated
      rw [txDelivery_standing agreeing negotiated]
      refine ⟨agreeing.lifetime, agreeing.grace, agreeing.state, agreeing.sane, agreeing.dictates, ?_, agreeing.fresh, ?_, ?_,
        agreeing.equal, agreeing.granted⟩
      · intro notYet
        rw [negotiated] at notYet
        cases notYet
      · intro sent mem
        rcases List.mem_append.mp mem with mem | own
        · exact agreeing.repeats sent mem
        · rw [List.mem_singleton.mp own]
          exact ⟨rfl, timeout, lifetime, grace⟩
      · intro dictated untaken
        obtain ⟨earlier, rest, waiting, full⟩ := agreeing.first dictated untaken
        exact ⟨earlier, rest ++ [_], by rw [waiting]; rfl, full⟩
    | false =>
      obtain ⟨nothing, untaken⟩ := agreeing.silent negotiated
      have lifetime := agreeing.lifetime.trans negotiated
      have grace := agreeing.grace.trans negotiated
      simp only [Lifetimes.txDelivery, tx_first negotiated, tx_first lifetime, tx_first grace, nothing, List.nil_append]
      refine ⟨rfl, rfl, agreeing.state, fun _ => ordered negotiated, fun _ => served, nofun, agreeing.fresh, ?_, ?_, ?_,
        agreeing.granted⟩
      · intro sent mem
        rw [List.mem_singleton.mp mem]
        exact ⟨rfl, repeats_some ⟨_, true⟩, repeats_some ⟨_, true⟩, repeats_some ⟨_, true⟩⟩
      · intro _ _
        exact ⟨_, [], rfl, rfl, rfl, rfl⟩
      · intro taken
        rw [untaken] at taken
        cases taken

theorem Agreeing.result (agreeing : Agreeing exchange) (success : Bool) : Agreeing (exchange.step (.result success)) := by
  unfold Exchange.step
  dsimp only
  split
  · exact agreeing
  next avps rest waits =>
    obtain ⟨state, timeout, lifetime, grace⟩ := agreeing.repeats avps (waits ▸ List.mem_cons_self)
    have equal : (exchange.client.rxAnswer avps).Equal exchange.server := by
      cases before : exchange.taken with
      | true =>
        have same := agreeing.equal before
        exact ⟨dictated_repeats same.state (state ▸ repeats_some _), dictated_repeats same.sessionTimeout timeout,
          dictated_repeats same.lifetime lifetime, dictated_repeats same.grace grace⟩
      | false =>
        have spoken : exchange.server.sessionTimeout.isNegotiated = true := by
          cases negotiated : exchange.server.sessionTimeout.isNegotiated with
          | true => rfl
          | false =>
            have nothing := (agreeing.silent negotiated).1
            rw [waits] at nothing
            cases nothing
        obtain ⟨first, later, waiting, hasTimeout, hasLifetime, hasGrace⟩ := agreeing.first spoken before
        obtain rfl : avps = first := (List.cons.inj (waits.symm.trans waiting)).1
        obtain ⟨openState, openTimeout, openLifetime, openGrace⟩ := agreeing.fresh before
        exact ⟨dictated_first openState (by rw [state]; rfl) (state ▸ repeats_some _),
          dictated_first openTimeout hasTimeout timeout, dictated_first openLifetime hasLifetime lifetime,
          dictated_first openGrace hasGrace grace⟩
    refine ⟨agreeing.lifetime, agreeing.grace, agreeing.state, agreeing.sane, agreeing.dictates, ?_, nofun, ?_, nofun,
      fun _ => equal, fun _ => rfl⟩
    · intro negotiated
      have nothing := (agreeing.silent negotiated).1
      rw [waits] at nothing
      cases nothing
    · exact fun sent mem => agreeing.repeats sent (waits ▸ List.mem_cons_of_mem _ mem)

theorem Agreeing.step (agreeing : Agreeing exchange) {input : Input} (settled : Settled exchange input) :
    Agreeing (exchange.step input) := by
  cases input with
  | begin running set => exact agreeing.begin settled
  | send request running st avps => exact agreeing.send settled
  | reset => exact agreeing.reset
  | request set => exact agreeing.request set
  | answer st avps => exact agreeing.answer settled
  | other avps => exact agreeing.other settled
  | result success => exact agreeing.result success

end Invariant

section Runs

variable {client server : Config}

/-- In a run in which the server answers first, with a timeout that is not below the
lifetime, and nobody gives other values once they stand, client and server agree
after every success. -/
theorem lifetimes_agree {inputs : List Input}
    (settled : Stepwise Exchange.step Settled (.initial client server) inputs) :
    (inputs.foldl Exchange.step (.initial client server)).Agrees :=
  (settled.invariant (fun _ _ agreeing => agreeing.step) (initial_agreeing client server)).agrees

section Samples

def sampleClient : Config := ⟨0, 3600, 1800, 5⟩

def sampleServer : Config := ⟨0, 600, 300, 10⟩

def sampleRound : List Input :=
  [.send true true .pending {}, .request {}, .answer .idle {}, .result true]

end Samples

/-- A client is granted access, and begins once more without values of its own. -/
theorem lifetimes_agree_again :
    ((Input.begin false {} :: sampleRound ++ Input.begin true {} :: sampleRound).foldl Exchange.step
      (.initial sampleClient sampleServer)).Agrees :=
  lifetimes_agree (by decide +kernel)

/-- The client begins once more with the timeout of its application, and the server, which
has answered before, does not dictate its own again. -/
theorem lifetimes_differ_after_begin :
    ¬((Input.begin false { sessionTimeout := some 1000 } :: sampleRound ++
      Input.begin true { sessionTimeout := some 1000 } :: sampleRound).foldl Exchange.step
        (.initial sampleClient sampleServer)).Agrees := by
  intro agrees
  exact absurd (agrees (by decide +kernel)).1.sessionTimeout (by decide +kernel)

end Runs

end OpenDiameter.Session.AuthNegotiation
