import OpenDiameter.Parser.MsgHeader

/-! Messages as the router handles them: named access to AVPs, the edits the
router makes, and the error answers it generates.

The dictionary gives every AVP read here its type, so the unchecked casts of
`dataPtr` always meet an entry of the type that is asked for.
-/

set_option autoImplicit false

namespace OpenDiameter.Router

open Foundation OpenDiameter.Parser

structure DiameterMsg where
  hdr : MsgHeader
  acl : AvpContainerList

section Names

/-- `DIAMETER_AVPNAME_...`. -/
def nameSessionId : String := "SessionId"

def nameResultCode : String := "ResultCode"

def nameOriginHost : String := "OriginHost"

def nameOriginRealm : String := "OriginRealm"

def nameOriginStateId : String := "OriginStateId"

def nameDestHost : String := "DestinationHost"

def nameDestRealm : String := "DestinationRealm"

def nameAuthAppId : String := "AuthApplicationId"

def nameAcctAppId : String := "AcctApplicationId"

def nameVendorAppId : String := "VendorSpecificApplicationId"

def nameVendorId : String := "VendorId"

def nameRouteRecord : String := "RouteRecord"

def nameRedirectHost : String := "RedirectHost"

def nameRedirectHostUsage : String := "RedirectHostUsage"

def nameUserName : String := "UserName"

def nameErrorReportingHost : String := "ErrorReportingHost"

def nameProxyInfo : String := "ProxyInfo"

def nameProxyHost : String := "ProxyHost"

def nameProxyState : String := "ProxyState"

end Names

section Access

/-- `AAAAvpContainerWidget::GetAvp`: entry `index` of the first container of that name. -/
def getAvp {α : Type} (read : AvpContainerEntry → Option α) (acl : AvpContainerList) (name : String)
    (index : Nat) : Option α :=
  match searchContainer acl name with
  | some c => (c.entries[index]?).bind read
  | none => none

def asIdentity : AvpContainerEntry → Option Octets
  | .diamId value => some value
  | _ => none

def asUtf8 : AvpContainerEntry → Option Octets
  | .utf8String value => some value
  | _ => none

def asString : AvpContainerEntry → Option Octets
  | .string value => some value
  | _ => none

def asUnsigned32 : AvpContainerEntry → Option UInt32
  | .uinteger32 value => some value
  | _ => none

def asUri : AvpContainerEntry → Option DiameterUri
  | .diamUri value => some value
  | _ => none

def asGrouped : AvpContainerEntry → Option AvpContainerList
  | .grouped acl => some acl
  | _ => none

/-- The first AVP of two names that is present: `for (i = 0; ...) if ((idPtr = id.GetAvp(avpNames[i]))) break`. -/
def firstAppId (acl : AvpContainerList) : Option UInt32 :=
  (getAvp asUnsigned32 acl nameAuthAppId 0).or (getAvp asUnsigned32 acl nameAcctAppId 0)

/-- `DiameterMsgResultCode::ResultCode`. -/
def DiameterMsg.resultCode (msg : DiameterMsg) : UInt32 :=
  (getAvp asUnsigned32 msg.acl nameResultCode 0).getD 0

end Access

section Edits

def avpWidget (name : String) (entries : List AvpContainerEntry) : AvpContainer AvpContainerEntry :=
  { avpName := name, parseType := .optional, entries }

/-- `msg->acl.add(c)`. -/
def DiameterMsg.add (msg : DiameterMsg) (c : AvpContainer AvpContainerEntry) : DiameterMsg :=
  { msg with acl := msg.acl ++ [c] }

/-- `*GetAvp(name) = ...` where the AVP is present. -/
def assignAvp (acl : AvpContainerList) (name : String) (entry : AvpContainerEntry) : AvpContainerList :=
  match acl with
  | [] => []
  | c :: rest =>
    if c.avpName == name then { c with entries := entry :: c.entries.drop 1 } :: rest
    else c :: assignAvp rest name entry

def DiameterMsg.setHopByHop (msg : DiameterMsg) (hh : UInt32) : DiameterMsg :=
  { msg with hdr := { msg.hdr with hh } }

def DiameterMsg.setEndToEnd (msg : DiameterMsg) (ee : UInt32) : DiameterMsg :=
  { msg with hdr := { msg.hdr with ee } }

/-- `hdr.flags.t = DIAMETER_FLAG_SET`. -/
def DiameterMsg.setRetransmitted (msg : DiameterMsg) : DiameterMsg :=
  { msg with hdr := { msg.hdr with t := true } }

@[simp] theorem add_hdr (msg : DiameterMsg) (c : AvpContainer AvpContainerEntry) :
    (msg.add c).hdr = msg.hdr := rfl

@[simp] theorem setHopByHop_hh (msg : DiameterMsg) (hh : UInt32) : (msg.setHopByHop hh).hdr.hh = hh := rfl

@[simp] theorem setHopByHop_r (msg : DiameterMsg) (hh : UInt32) :
    (msg.setHopByHop hh).hdr.r = msg.hdr.r := rfl

@[simp] theorem setHopByHop_e (msg : DiameterMsg) (hh : UInt32) :
    (msg.setHopByHop hh).hdr.e = msg.hdr.e := rfl

end Edits

section ErrorAnswers

/-- The result codes of `resultcodes.h` that the router puts into answers. -/
def codeUnableToDeliver : UInt32 := 3002

def codeLoopDetected : UInt32 := 3005

def codeRedirectIndication : UInt32 := 3006

def copyProxyInfo (acl : AvpContainerList) : Outcome Unit AvpContainerList :=
  match getAvp asGrouped acl nameProxyInfo 0 with
  | none => .returned []
  | some proxyInfo =>
    match getAvp asIdentity proxyInfo nameProxyHost 0, getAvp asString proxyInfo nameProxyState 0 with
    | some host, some state => .returned [avpWidget nameProxyInfo
        [.grouped [avpWidget nameProxyHost [.diamId host], avpWidget nameProxyState [.string state]]]]
    | _, _ => .fault

def copyAvp {α : Type} (read : AvpContainerEntry → Option α) (write : α → AvpContainerEntry)
    (acl : AvpContainerList) (name : String) : AvpContainerList :=
  match getAvp read acl name 0 with
  | some value => [avpWidget name [write value]]
  | none => []

/-- `DiameterErrorMsg::Generate` of a node with this identity and realm. -/
def DiameterMsg.generateError (identity realm : Octets) (request : DiameterMsg) (rcode : UInt32) :
    Outcome Unit DiameterMsg := do
  let proxyInfo ← copyProxyInfo request.acl
  return {
    hdr := { request.hdr with e := true, r := false }
    acl := copyAvp asUtf8 .utf8String request.acl nameSessionId ++
      copyAvp asUnsigned32 .uinteger32 request.acl nameOriginStateId ++ proxyInfo ++
      [ avpWidget nameOriginHost [.diamId identity],
        avpWidget nameOriginRealm [.diamId realm],
        avpWidget nameResultCode [.uinteger32 rcode],
        avpWidget nameErrorReportingHost [.diamId identity] ] }

def DiameterMsg.ProxyInfoComplete (msg : DiameterMsg) : Prop :=
  ∀ proxyInfo, getAvp asGrouped msg.acl nameProxyInfo 0 = some proxyInfo →
    (getAvp asIdentity proxyInfo nameProxyHost 0).isSome ∧ (getAvp asString proxyInfo nameProxyState 0).isSome

theorem generateError_spec (identity realm : Octets) {request : DiameterMsg} (rcode : UInt32)
    (complete : request.ProxyInfoComplete) :
    ∃ answer, request.generateError identity realm rcode = .returned answer ∧
      answer.hdr = { request.hdr with e := true, r := false } := by
  have copied : ∃ proxyInfo, copyProxyInfo request.acl = .returned proxyInfo := by
    unfold copyProxyInfo
    cases grouped : getAvp asGrouped request.acl nameProxyInfo 0 with
    | none => exact ⟨_, rfl⟩
    | some proxyInfo =>
      obtain ⟨hostPresent, statePresent⟩ := complete proxyInfo grouped
      obtain ⟨host, hostRead⟩ := Option.isSome_iff_exists.mp hostPresent
      obtain ⟨state, stateRead⟩ := Option.isSome_iff_exists.mp statePresent
      simp only [hostRead, stateRead]
      exact ⟨_, rfl⟩
  obtain ⟨proxyInfo, copy⟩ := copied
  rw [DiameterMsg.generateError, copy]
  exact ⟨_, rfl, rfl⟩

theorem generateError_returned {identity realm : Octets} {request answer : DiameterMsg} {rcode : UInt32}
    (generated : request.generateError identity realm rcode = .returned answer) :
    answer.hdr = { request.hdr with e := true, r := false } := by
  unfold DiameterMsg.generateError at generated
  obtain ⟨proxyInfo, -, made⟩ := Outcome.bind_eq_returned.mp generated
  cases made
  rfl

end ErrorAnswers

end OpenDiameter.Router
