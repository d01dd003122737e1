import Mathlib.Data.List.Basic

/-! The authorization of a request, one AVP after the other.

The application is asked about each AVP by a callback of its own, which may set the
attribute of the answer. Where the request can have a hint there are two variants of the
callback, and the result of the one that is called is carried in a variable.
-/

set_option autoImplicit false

namespace OpenDiameter.Access

section Attributes

structure Attribute (V : Type) where
  value : V
  isSet : Bool
  deriving DecidableEq, Repr

namespace Attribute

variable {V : Type} (own : Attribute V)

def set (value : V) : Attribute V := ⟨value, true⟩

/-- `Clear`, which leaves the value. -/
def clear : Attribute V := { own with isSet := false }

def receive (avp : Option V) : Attribute V :=
  match avp with
  | some value => set value
  | none => own.clear

def clearVector (_own : Attribute (List V)) : Attribute (List V) := ⟨[], false⟩

def receiveVector (own : Attribute (List V)) (avp : Option (List V)) : Attribute (List V) :=
  match avp with
  | some values => set values
  | none => own.clearVector

/-- What `CopyTo` puts into a message. -/
def carried : Option V := if own.isSet then some own.value else none

@[simp]
theorem carried_receive (avp : Option V) : (own.receive avp).carried = avp := by
  cases avp <;> rfl

theorem carried_set (value : V) : (set value).carried = some value := rfl

end Attribute

end Attributes

section Callbacks

inductive Avp where
  | originHost | originRealm | originStateId | multiRoundTimeOut
  | nasIdentifier | nasIpAddress | nasIpv6Address | nasPort | nasPortId | nasPortType
  | filterId | portLimit | serviceType | cls | configurationToken | acctInterimInterval
  | idleTimeout | authorizationLifetime | authGracePeriod | authSessionState | reAuthRequestType | sessionTimeout
  | callbackId | callbackNumber | callingStationId | calledStationId | originatingLineInfo | connectInfo
  | framedAppletalkLink | framedAppletalkZone | framedAppletalkNetwork
  | framedCompression | framedInterfaceId | framedIpAddress | framedIpv6Prefix | framedIpv6Pool | framedPool
  | framedIpv6Route | framedRoute | framedIpNetmask | framedIpxNetwork | framedMtu | framedProtocol | framedRouting
  | loginIpHost | loginIpv6Host | loginLatGroup | loginLatNode | loginLatPort | loginLatService | loginTcpPort
  | nasFilterRule | tunneling | eapMasterSessionKey | accountingEapAuthMethod
  deriving DecidableEq, Repr

inductive Ask where
  | given (source : Avp)
  | plain
  | hinted
  | inverted
  | unchecked
  | hintedUnchecked
  /-- The result of the variant without a hint is dropped, and `r` is tested as it is. -/
  | halfChecked
  deriving DecidableEq, Repr

structure AuthorizeStep where
  avp : Avp
  ask : Ask
  deriving DecidableEq, Repr

structure Call (V : Type) where
  avp : Avp
  hint : Option V
  deriving DecidableEq, Repr

/-- What a callback returns, and the attribute of the answer as it leaves it. -/
structure Reply (V : Type) where
  accepted : Bool
  sets : Attribute V
  deriving DecidableEq, Repr

variable {V : Type}

namespace AuthorizeStep

variable (step : AuthorizeStep) (request : Avp → Attribute V)

def call : Call V :=
  match step.ask with
  | .given source => ⟨step.avp, some (request source).value⟩
  | .plain | .unchecked => ⟨step.avp, none⟩
  | .hinted | .hintedUnchecked | .halfChecked => ⟨step.avp, (request step.avp).carried⟩
  | .inverted => ⟨step.avp, if (request step.avp).isSet then none else some (request step.avp).value⟩

/-- The attributes of the answer after the call. -/
def grant (granted : Avp → Attribute V) (reply : Reply V) : Avp → Attribute V :=
  match step.ask with
  | .given _ => granted
  | _ => Function.update granted step.avp reply.sets

/-- `r` after the call. -/
def assign (accepted r : Bool) : Bool :=
  match step.ask with
  | .hinted | .inverted => accepted
  | .halfChecked => if (request step.avp).isSet then accepted else r
  | .given _ | .plain | .unchecked | .hintedUnchecked => r

def passes (accepted r : Bool) : Bool :=
  match step.ask with
  | .given _ | .plain => accepted
  | .unchecked => true
  | .hinted | .inverted | .hintedUnchecked | .halfChecked => r

end AuthorizeStep

structure Authorized (V : Type) where
  accepted : Bool
  granted : Avp → Attribute V
  calls : List (Call V × Bool)

/-- The body of `Authorize` from a step on, with the variable `r`. -/
def authorizeFrom (request : Avp → Attribute V) (reply : Call V → Reply V) :
    Bool → (Avp → Attribute V) → List AuthorizeStep → Authorized V
  | _, granted, [] => ⟨true, granted, []⟩
  | r, granted, step :: rest =>
    let call := step.call request
    let accepted := (reply call).accepted
    let r := step.assign request accepted r
    let granted := step.grant granted (reply call)
    if step.passes accepted r then
      let later := authorizeFrom request reply r granted rest
      { later with calls := (call, accepted) :: later.calls }
    else ⟨false, granted, [(call, accepted)]⟩

/-- `DiameterEapServerStateMachine::Authorize`, after the test of the request type. -/
def eapChain : List AuthorizeStep :=
  [⟨.originHost, .given .originHost⟩, ⟨.originRealm, .given .originRealm⟩, ⟨.cls, .hinted⟩,
    ⟨.configurationToken, .plain⟩, ⟨.acctInterimInterval, .plain⟩, ⟨.serviceType, .hinted⟩, ⟨.idleTimeout, .plain⟩,
    ⟨.authorizationLifetime, .plain⟩, ⟨.authGracePeriod, .plain⟩, ⟨.authSessionState, .plain⟩,
    ⟨.reAuthRequestType, .plain⟩, ⟨.sessionTimeout, .plain⟩, ⟨.filterId, .plain⟩, ⟨.portLimit, .hinted⟩,
    ⟨.callbackId, .unchecked⟩, ⟨.callbackNumber, .hintedUnchecked⟩, ⟨.framedAppletalkLink, .plain⟩,
    ⟨.framedAppletalkZone, .plain⟩, ⟨.framedAppletalkNetwork, .plain⟩, ⟨.framedCompression, .inverted⟩,
    ⟨.framedInterfaceId, .hinted⟩, ⟨.framedIpAddress, .halfChecked⟩, ⟨.framedIpv6Prefix, .hinted⟩,
    ⟨.framedIpv6Pool, .plain⟩, ⟨.framedPool, .plain⟩, ⟨.framedIpv6Route, .plain⟩, ⟨.framedRoute, .plain⟩,
    ⟨.framedIpNetmask, .hinted⟩, ⟨.framedIpxNetwork, .plain⟩, ⟨.framedMtu, .hinted⟩, ⟨.framedProtocol, .hinted⟩,
    ⟨.framedRouting, .plain⟩, ⟨.nasFilterRule, .plain⟩, ⟨.tunneling, .hinted⟩, ⟨.eapMasterSessionKey, .plain⟩,
    ⟨.accountingEapAuthMethod, .plain⟩]

/-- `DiameterNasreqServerStateMachine::Authorize`, after the test of the request type. -/
def nasreqChain : List AuthorizeStep :=
  [⟨.originHost, .given .originHost⟩, ⟨.originRealm, .given .originRealm⟩, ⟨.nasIdentifier, .given .nasIdentifier⟩,
    ⟨.nasIpAddress, .given .nasIpAddress⟩, ⟨.nasIpv6Address, .given .nasIpAddress⟩, ⟨.nasPort, .given .nasPort⟩,
    ⟨.nasPortId, .given .nasPortId⟩, ⟨.nasPortType, .given .nasPortType⟩, ⟨.originStateId, .given .originStateId⟩,
    ⟨.filterId, .plain⟩, ⟨.portLimit, .hinted⟩, ⟨.serviceType, .hinted⟩, ⟨.cls, .plain⟩,
    ⟨.configurationToken, .plain⟩, ⟨.acctInterimInterval, .plain⟩, ⟨.idleTimeout, .plain⟩,
    ⟨.authorizationLifetime, .plain⟩, ⟨.authGracePeriod, .plain⟩, ⟨.authSessionState, .plain⟩,
    ⟨.reAuthRequestType, .plain⟩, ⟨.sessionTimeout, .plain⟩, ⟨.callbackId, .unchecked⟩, ⟨.callbackNumber, .hinted⟩,
    ⟨.callingStationId, .given .callingStationId⟩, ⟨.calledStationId, .given .calledStationId⟩,
    ⟨.originatingLineInfo, .given .originatingLineInfo⟩, ⟨.connectInfo, .given .connectInfo⟩,
    ⟨.framedAppletalkLink, .plain⟩, ⟨.framedAppletalkZone, .plain⟩, ⟨.framedAppletalkNetwork, .plain⟩,
    ⟨.framedCompression, .inverted⟩, ⟨.framedInterfaceId, .hinted⟩, ⟨.framedIpAddress, .hinted⟩,
    ⟨.framedIpv6Prefix, .hinted⟩, ⟨.framedIpv6Pool, .plain⟩, ⟨.framedPool, .plain⟩, ⟨.framedIpv6Route, .plain⟩,
    ⟨.framedRoute, .plain⟩, ⟨.framedIpNetmask, .hinted⟩, ⟨.framedIpxNetwork, .plain⟩, ⟨.framedMtu, .hinted⟩,
    ⟨.framedProtocol, .hinted⟩, ⟨.framedRouting, .plain⟩, ⟨.loginIpHost, .hinted⟩, ⟨.loginIpv6Host, .hinted⟩,
    ⟨.loginLatGroup, .hinted⟩, ⟨.loginLatNode, .hinted⟩, ⟨.loginLatPort, .hinted⟩, ⟨.loginLatService, .hinted⟩,
    ⟨.loginTcpPort, .plain⟩, ⟨.nasFilterRule, .plain⟩, ⟨.tunneling, .hinted⟩]

end Callbacks

section Purpose

variable {V : Type} (carried : Avp → Option V)

def AuthorizeStep.required (step : AuthorizeStep) : Option (Call V) :=
  match step.ask with
  | .given _ => (carried step.avp).map fun value => ⟨step.avp, some value⟩
  | .plain | .unchecked => some ⟨step.avp, none⟩
  | .hinted | .inverted | .hintedUnchecked | .halfChecked => some ⟨step.avp, carried step.avp⟩

def requiredCalls (chain : List AuthorizeStep) : List (Call V) := chain.filterMap (·.required carried)

end Purpose

section Decision

variable {V : Type} {request : Avp → Attribute V} {reply : Call V → Reply V} {granted : Avp → Attribute V}

namespace AuthorizeStep

def heeded (step : AuthorizeStep) (request : Avp → Attribute V) : Bool :=
  match step.ask with
  | .given _ | .plain | .hinted | .inverted => true
  | .halfChecked => (request step.avp).isSet
  | .unchecked | .hintedUnchecked => false

theorem passes_of_heeded {step : AuthorizeStep} (heeded : step.heeded request = true) (accepted r : Bool) :
    step.passes accepted (step.assign request accepted r) = accepted := by
  obtain ⟨avp, ask⟩ := step
  cases ask with
  | given | plain | hinted | inverted => rfl
  | unchecked | hintedUnchecked => cases heeded
  | halfChecked => exact if_pos heeded

theorem passes_of_unheeded {step : AuthorizeStep} (unheeded : step.heeded request = false) (accepted : Bool) :
    step.passes accepted (step.assign request accepted true) = true := by
  obtain ⟨avp, ask⟩ := step
  cases ask with
  | given | plain | hinted | inverted => cases unheeded
  | unchecked | hintedUnchecked => rfl
  | halfChecked => exact if_neg (ne_true_of_eq_false unheeded)

theorem assign_of_passes {step : AuthorizeStep} {accepted : Bool}
    (passes : step.passes accepted (step.assign request accepted true) = true) :
    step.assign request accepted true = true := by
  obtain ⟨avp, ask⟩ := step
  cases ask with
  | given | plain | unchecked | hintedUnchecked => rfl
  | hinted | inverted | halfChecked => exact passes

end AuthorizeStep

/-- Some callback whose result decides returns false. -/
def Refuses (chain : List AuthorizeStep) (request : Avp → Attribute V) (reply : Call V → Reply V) : Prop :=
  ∃ step ∈ chain, step.heeded request = true ∧ (reply (step.call request)).accepted = false

instance (chain : List AuthorizeStep) : Decidable (Refuses chain request reply) :=
  inferInstanceAs (Decidable (∃ _ ∈ chain, _ ∧ _))

/-- The first step that tests `r` sets it. -/
def settles : List AuthorizeStep → Bool
  | [] => true
  | step :: rest =>
    match step.ask with
    | .given _ | .plain | .unchecked => settles rest
    | .hinted | .inverted => true
    | .hintedUnchecked | .halfChecked => false

theorem authorizeFrom_settles {chain : List AuthorizeStep} (settled : settles chain = true) (r : Bool) :
    authorizeFrom request reply r granted chain = authorizeFrom request reply true granted chain := by
  induction chain generalizing granted with
  | nil => rfl
  | cons step rest ih =>
    obtain ⟨avp, ask⟩ := step
    cases ask with
    | given source | plain | unchecked =>
      rw [authorizeFrom, authorizeFrom]
      dsimp only [AuthorizeStep.assign, AuthorizeStep.passes]
      rw [ih settled]
      rfl
    | hinted | inverted => rfl
    | hintedUnchecked | halfChecked => cases settled

theorem authorizeFrom_accepted (chain : List AuthorizeStep) :
    (authorizeFrom request reply true granted chain).accepted = true ↔ ¬Refuses chain request reply := by
  induction chain generalizing granted with
  | nil => exact iff_of_true rfl fun ⟨_, mem, _⟩ => List.not_mem_nil mem
  | cons step rest ih =>
    have split : Refuses (step :: rest) request reply ↔
        step.heeded request = true ∧ (reply (step.call request)).accepted = false ∨ Refuses rest request reply :=
      List.exists_mem_cons_iff ..
    rw [split, not_or, authorizeFrom]
    cases passes : step.passes (reply (step.call request)).accepted
        (step.assign request (reply (step.call request)).accepted true) with
    | true =>
      have unrefused : ¬(step.heeded request = true ∧ (reply (step.call request)).accepted = false) := by
        rintro ⟨heeded, refused⟩
        rw [AuthorizeStep.passes_of_heeded heeded, refused] at passes
        cases passes
      simp only [AuthorizeStep.assign_of_passes passes, if_true]
      exact ih.trans (iff_and_self.mpr fun _ => unrefused)
    | false =>
      refine iff_of_false (by rw [if_neg Bool.false_ne_true]; exact Bool.false_ne_true) fun ⟨unrefused, _⟩ => ?_
      cases heeded : step.heeded request with
      | true =>
        rw [AuthorizeStep.passes_of_heeded heeded] at passes
        exact unrefused ⟨heeded, passes⟩
      | false =>
        rw [AuthorizeStep.passes_of_unheeded heeded] at passes
        cases passes

theorem exists_of_mem_calls {chain : List AuthorizeStep} {r : Bool} {call : Call V × Bool}
    (mem : call ∈ (authorizeFrom request reply r granted chain).calls) :
    ∃ step ∈ chain, call.1 = step.call request := by
  induction chain generalizing r granted with
  | nil => cases mem
  | cons step rest ih =>
    rw [authorizeFrom] at mem
    dsimp only at mem
    split at mem
    · rcases List.mem_cons.mp mem with rfl | mem
      · exact ⟨step, List.mem_cons_self, rfl⟩
      · obtain ⟨later, among, same⟩ := ih mem
        exact ⟨later, List.mem_cons_of_mem _ among, same⟩
    · rw [List.mem_singleton.mp mem]
      exact ⟨step, List.mem_cons_self, rfl⟩

theorem unasked_of_inverted {chain : List AuthorizeStep} {avp : Avp} {r : Bool}
    (inverted : ∀ step ∈ chain, step.avp = avp → step.ask = .inverted) :
    ∀ call ∈ (authorizeFrom request reply r granted chain).calls, call.1 ≠ ⟨avp, (request avp).carried⟩ := by
  intro call mem same
  obtain ⟨⟨own, ask⟩, among, made⟩ := exists_of_mem_calls mem
  rw [same] at made
  have about : own = avp := by
    have asked := congrArg Call.avp made
    cases ask <;> exact asked.symm
  subst about
  obtain rfl : ask = .inverted := inverted _ among rfl
  have hint : (request own).carried = if (request own).isSet then none else some (request own).value :=
    congrArg Call.hint made
  unfold Attribute.carried at hint
  split at hint <;> cases hint

end Decision

end OpenDiameter.Access
