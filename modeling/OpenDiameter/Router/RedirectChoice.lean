import OpenDiameter.Router.Delivery

/-! The application that the redirect agent lists and the one that the realm router
chose, for one message and one route.
-/

set_option autoImplicit false

namespace OpenDiameter.Router

open Foundation OpenDiameter.Parser

section Choice

variable {msg : DiameterMsg} {route : RouteEntry} {app : RouteApplication}

theorem lookup_ids {appId vendorId : UInt32} (found : route.lookup appId vendorId = some app) :
    app.applicationId = appId ∧ app.vendorId = vendorId := by
  have own := List.find?_some found
  rw [Bool.and_eq_true, beq_iff_eq, beq_iff_eq] at own
  exact ⟨own.2, own.1⟩

def HeaderUndisputed (msg : DiameterMsg) (route : RouteEntry) : Prop :=
  route.lookup msg.hdr.appId 0 = none ∨
    match getAvp asGrouped msg.acl nameVendorAppId 0 with
    | none => True
    | some grouped =>
      ∃ vid, getAvp asUnsigned32 grouped nameVendorId 0 = some vid ∧
        ∀ value, firstAppId grouped = some value → vid = 0 ∧ value = msg.hdr.appId

/-- The agent looks into a Vendor-Specific-Application-Id also when the header decides,
and then a group that names another application, or no vendor, wins. -/
theorem redirected_application_iff (routed : routedApplication msg route = some app) :
    redirectedApplication msg route = some (some app) ↔ HeaderUndisputed msg route := by
  unfold routedApplication at routed
  unfold redirectedApplication HeaderUndisputed
  cases header : route.lookup msg.hdr.appId 0 with
  | none =>
    rw [header] at routed
    dsimp only at routed
    refine iff_of_true ?_ (.inl rfl)
    cases base : firstAppId msg.acl with
    | some id =>
      rw [base] at routed
      exact congrArg some routed
    | none =>
      rw [base] at routed
      dsimp only at routed ⊢
      cases group : vendorApp msg route with
      | unchanged | missingVendorId =>
        rw [group] at routed
        cases routed
      | application vendor =>
        rw [group] at routed
        exact congrArg some routed
  | some own =>
    rw [header] at routed
    cases routed
    dsimp only
    rw [or_iff_right (Option.some_ne_none _)]
    unfold vendorApp
    cases getAvp asGrouped msg.acl nameVendorAppId 0 with
    | none => simp
    | some grouped =>
      dsimp only
      cases getAvp asUnsigned32 grouped nameVendorId 0 with
      | none => simp
      | some vid =>
        dsimp only
        cases firstAppId grouped with
        | none => simp
        | some value =>
          simp only [Option.some.injEq, exists_eq_left', forall_eq']
          constructor
          · intro chosen
            obtain ⟨ids, vendor⟩ := lookup_ids chosen
            obtain ⟨ids', vendor'⟩ := lookup_ids header
            exact ⟨vendor.symm.trans vendor', ids.symm.trans ids'⟩
          · rintro ⟨rfl, rfl⟩
            exact header

end Choice

section Sample

def disputedRoute : RouteEntry where
  realm := ascii "r"
  action := .actionRedirect
  redirectUsage := 0
  applications := [ ⟨1, 0, [ascii "base"], by decide⟩, ⟨2, 9, [ascii "vendor"], by decide⟩ ]

/-- A request of application 1 whose Vendor-Specific-Application-Id says application 2. -/
def disputedRequest : DiameterMsg where
  hdr := { MsgHeader.blank with r := true, appId := 1 }
  acl := [ avpWidget nameVendorAppId [.grouped
    [avpWidget nameVendorId [.uinteger32 9], avpWidget nameAuthAppId [.uinteger32 2]]] ]

/-- The group names the application of the header. -/
def agreeingRequest : DiameterMsg :=
  { disputedRequest with
    acl := [ avpWidget nameVendorAppId [.grouped
      [avpWidget nameVendorId [.uinteger32 0], avpWidget nameAuthAppId [.uinteger32 1]]] ] }

theorem redirected_application_agreeing :
    redirectedApplication agreeingRequest disputedRoute = some (some ⟨1, 0, [ascii "base"], by decide⟩) ∧
      ¬redirectedApplication disputedRequest disputedRoute = some (some ⟨1, 0, [ascii "base"], by decide⟩) := by
  have routed : routedApplication agreeingRequest disputedRoute = some ⟨1, 0, [ascii "base"], by decide⟩ := rfl
  have disputed : routedApplication disputedRequest disputedRoute = some ⟨1, 0, [ascii "base"], by decide⟩ := rfl
  constructor
  · refine (redirected_application_iff routed).mpr (.inr ⟨0, rfl, ?_⟩)
    intro value first
    cases first
    exact ⟨rfl, rfl⟩
  · intro chosen
    rcases (redirected_application_iff disputed).mp chosen with missing | agrees
    · cases missing
    · obtain ⟨vid, vendor, own⟩ := agrees
      cases vendor
      cases (own 2 rfl).1

/-- The router chose the servers of application 1, the agent lists those of application 2. -/
theorem redirect_lists_other_servers :
    ∃ app other, routedApplication disputedRequest disputedRoute = some app ∧
      redirectedApplication disputedRequest disputedRoute = some (some other) ∧ app.servers ≠ other.servers :=
  ⟨_, _, rfl, rfl, by decide⟩

end Sample

end OpenDiameter.Router
