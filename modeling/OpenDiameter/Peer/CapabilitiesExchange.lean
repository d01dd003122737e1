import OpenDiameter.Access.Attributes
import OpenDiameter.Peer.Capabilities
import OpenDiameter.Foundation.Lists

/-! The AVPs of a capabilities exchange: what a node writes of its configuration, and what
its peer reads of them.
-/

set_option autoImplicit false

namespace OpenDiameter.Peer

open Foundation OpenDiameter.Parser
open Access (loadText loadWord loadGroup)

section Writing

/-- The configuration that a node tells its peers. -/
structure LocalConfig where
  peer : PeerConfig
  realm : Octets
  version : UInt32
  vendor : UInt32
  product : Octets
  originStateId : UInt32
  supportedVendorIdLst : List UInt32
  useIpv6 : Bool
  advertisedHostname : List Octets

/-- `ACE_INET_Addr` of a name and a family: the address octets of a new one, and those that
`set` finds if it finds any. -/
structure Resolver where
  construct : Bool → Octets → Octets
  set : Bool → Octets → Option Octets

/-- `diameter_address_t`. -/
abbrev HostAddress : Type := UInt16 × Octets

/-- `AAA_ADDRESS_IP`. -/
def addressIp : UInt16 := 1

def LocalConfig.hostIp (resolver : Resolver) (sctp : Bool) (config : LocalConfig) : List HostAddress :=
  (addressIp, resolver.construct config.useIpv6 config.peer.identity) ::
    if sctp then config.advertisedHostname.filterMap fun name => (resolver.set config.useIpv6 name).map (addressIp, ·) else []

def widget (name : String) (entries : List AvpContainerEntry) : AvpContainer AvpContainerEntry := ⟨name, .optional, entries⟩

def widgetUnlessEmpty (name : String) (entries : List AvpContainerEntry) : AvpContainerList :=
  if entries.isEmpty then [] else [widget name entries]

def addressEntry (address : HostAddress) : AvpContainerEntry := .ipAddress address.1 address.2

def VendorSpecificId.group (vid : VendorSpecificId) : AvpContainerList :=
  (if 0 < vid.authAppId then [widget "AuthApplicationId" [.uinteger32 vid.authAppId]] else []) ++
    ((if 0 < vid.acctAppId then [widget "AcctApplicationId" [.uinteger32 vid.acctAppId]] else []) ++
      (if 0 < vid.vendorId then [widget "VendorId" [.uinteger32 vid.vendorId]] else []))

def LocalConfig.assembleCE (resolver : Resolver) (sctp : Bool) (config : LocalConfig) : AvpContainerList :=
  widgetUnlessEmpty "SupportedVendorId" (config.supportedVendorIdLst.map .uinteger32) ++
    (widgetUnlessEmpty "AuthApplicationId" (config.peer.authAppIdLst.map .uinteger32) ++
      (widgetUnlessEmpty "AcctApplicationId" (config.peer.acctAppIdLst.map .uinteger32) ++
        (widgetUnlessEmpty "VendorSpecificApplicationId" (config.peer.vendorSpecificId.map (.grouped ·.group)) ++
          [widget "OriginHost" [.diamId config.peer.identity],
            widget "OriginRealm" [.diamId config.realm],
            widget "HostIPAddress" ((config.hostIp resolver sctp).map addressEntry),
            widget "VendorId" [.uinteger32 config.vendor],
            widget "ProductName" [.utf8String config.product],
            widget "OriginStateId" [.uinteger32 config.originStateId],
            widget "FirmwareRevision" [.uinteger32 config.version],
            widget "InbandSecurityId" [.uinteger32 (if config.peer.tls then 1 else 0)]])))

end Writing

section Reading

structure FullCapabilities where
  known : PeerCapabilities
  realm : Octets
  productName : Octets
  vendorId : UInt32
  originStateId : UInt32
  firmwareRevision : UInt32
  supportedVendorIdLst : List UInt32
  hostIpLst : List HostAddress
  msgId : MsgIds
  deriving DecidableEq, Repr

/-- What `GetAvp` gives for the indices from 0 on, until there is none. -/
def getAvps (acl : AvpContainerList) (name : String) : List AvpContainerEntry :=
  match searchContainer acl name with
  | none => []
  | some c => c.entries

variable {α : Type}

/-- `(avp) ? *avp : absent`. -/
def readAvp (load : AvpContainerEntry → Outcome Empty α) (absent : α) (acl : AvpContainerList) (name : String) :
    Outcome Empty α :=
  match getAvps acl name with
  | [] => .returned absent
  | e :: _ => load e

def readEach (load : AvpContainerEntry → Outcome Empty α) : List AvpContainerEntry → Outcome Empty (List α)
  | [] => .returned []
  | e :: rest => load e >>= fun value => readEach load rest >>= fun values => .returned (value :: values)

def loadAddress : AvpContainerEntry → Outcome Empty HostAddress
  | .ipAddress type value => .returned (type, value)
  | _ => .fault

def readVendorSpecificId (e : AvpContainerEntry) : Outcome Empty VendorSpecificId := do
  let grouped ← loadGroup e
  let vendorId ← readAvp loadWord 0 grouped "VendorId"
  match getAvps grouped "AuthApplicationId" with
  | e :: _ =>
    let authAppId ← loadWord e
    return ⟨vendorId, authAppId, 0⟩
  | [] =>
    let acctAppId ← readAvp loadWord 0 grouped "AcctApplicationId"
    return ⟨vendorId, 0, acctAppId⟩

/-- `DisassembleCE`: the lists are emptied before they are filled, the message ids stay. -/
def FullCapabilities.disassembleCE (cap : FullCapabilities) (acl : AvpContainerList) : Outcome Empty FullCapabilities := do
  let host ← readAvp loadText [] acl "OriginHost"
  let realm ← readAvp loadText [] acl "OriginRealm"
  let hostIpLst ← readEach loadAddress (getAvps acl "HostIPAddress")
  let vendorId ← readAvp loadWord 0 acl "VendorId"
  let productName ← readAvp loadText [] acl "ProductName"
  let originStateId ← readAvp loadWord 0 acl "OriginStateId"
  let firmwareRevision ← readAvp loadWord 0 acl "FirmwareRevision"
  let inbandSecurityId ← readAvp loadWord 0 acl "InbandSecurityId"
  let supportedVendorIdLst ← readEach loadWord (getAvps acl "SupportedVendorId")
  let authAppIdLst ← readEach loadWord (getAvps acl "AuthApplicationId")
  let acctAppIdLst ← readEach loadWord (getAvps acl "AcctApplicationId")
  let vendorSpecificId ← readEach readVendorSpecificId (getAvps acl "VendorSpecificApplicationId")
  return { cap with
    known := ⟨host, inbandSecurityId, authAppIdLst, acctAppIdLst,
      vendorSpecificId.filter fun vsid => vsid.acctAppId ≠ 0 || vsid.authAppId ≠ 0⟩,
    realm, productName, vendorId, originStateId, firmwareRevision, supportedVendorIdLst, hostIpLst }

end Reading

section Lookups

theorem getAvps_cons (n name : String) (entries : List AvpContainerEntry) (rest : AvpContainerList) :
    getAvps (widget n entries :: rest) name = if n = name then entries else getAvps rest name := by
  by_cases same : n = name <;> simp [getAvps, searchContainer, widget, same]

theorem getAvps_nil (name : String) : getAvps [] name = [] := rfl

theorem getAvps_unless (n name : String) (entries : List AvpContainerEntry) (rest : AvpContainerList) :
    getAvps (widgetUnlessEmpty n entries ++ rest) name =
      if n = name ∧ entries ≠ [] then entries else getAvps rest name := by
  unfold widgetUnlessEmpty
  cases entries with
  | nil => simp
  | cons e entries => simp [getAvps_cons]

theorem entries_unless (entries : List AvpContainerEntry) : (if entries ≠ [] then entries else []) = entries := by
  cases entries <;> simp

theorem readEach_map {α : Type} {load : AvpContainerEntry → Outcome Empty α} {store : α → AvpContainerEntry}
    {view : α → α} (reads : ∀ value, load (store value) = .returned (view value)) (values : List α) :
    readEach load (values.map store) = .returned (values.map view) := by
  induction values with
  | nil => rfl
  | cons value values ih => rw [List.map_cons, readEach, reads, Outcome.returned_bind, ih, Outcome.returned_bind, List.map_cons]

theorem readVendorSpecificId_group (vid : VendorSpecificId) :
    readVendorSpecificId (.grouped vid.group) = .returned vid.write.read := by
  obtain ⟨vendorId, authAppId, acctAppId⟩ := vid
  by_cases vendor : 0 < vendorId <;> by_cases auth : 0 < authAppId <;> by_cases acct : 0 < acctAppId <;>
    simp [readVendorSpecificId, VendorSpecificId.group, VendorSpecificId.write, VendorSpecificAvp.read, vendor, auth, acct,
      readAvp, getAvps_cons, getAvps_nil, loadGroup, loadWord]

end Lookups

section RoundTrip

variable (resolver : Resolver) (sctp : Bool) (config : LocalConfig)

def LocalConfig.expected (msgId : MsgIds) : FullCapabilities where
  known := ⟨config.peer.identity, if config.peer.tls then 1 else 0, config.peer.authAppIdLst, config.peer.acctAppIdLst,
    config.peer.vendorSpecificId⟩
  realm := config.realm
  productName := config.product
  vendorId := config.vendor
  originStateId := config.originStateId
  firmwareRevision := config.version
  supportedVendorIdLst := config.supportedVendorIdLst
  hostIpLst := config.hostIp resolver sctp
  msgId := msgId

/-- The reader, on a peer with any capabilities of before, has what the node was configured with. -/
def CapabilitiesRoundTrip (previous : FullCapabilities) : Prop :=
  previous.disassembleCE (config.assembleCE resolver sctp) = .returned (config.expected resolver sctp previous.msgId)

/-- Everything but the vendor specific ids is read as it was written. -/
theorem disassembleCE_assembleCE (previous : FullCapabilities) :
    previous.disassembleCE (config.assembleCE resolver sctp) =
      .returned { config.expected resolver sctp previous.msgId with
        known := { (config.expected resolver sctp previous.msgId).known with
          vendorSpecificId := (config.peer.vendorSpecificId.map fun vid => vid.write.read).filter fun vsid =>
            vsid.acctAppId ≠ 0 || vsid.authAppId ≠ 0 } } := by
  have supported : getAvps (config.assembleCE resolver sctp) "SupportedVendorId" = config.supportedVendorIdLst.map .uinteger32 := by
    rw [← entries_unless (config.supportedVendorIdLst.map .uinteger32)]
    simp [LocalConfig.assembleCE, getAvps_unless, getAvps_cons, getAvps_nil]
  have auth : getAvps (config.assembleCE resolver sctp) "AuthApplicationId" = config.peer.authAppIdLst.map .uinteger32 := by
    rw [← entries_unless (config.peer.authAppIdLst.map .uinteger32)]
    simp [LocalConfig.assembleCE, getAvps_unless, getAvps_cons, getAvps_nil]
  have acct : getAvps (config.assembleCE resolver sctp) "AcctApplicationId" = config.peer.acctAppIdLst.map .uinteger32 := by
    rw [← entries_unless (config.peer.acctAppIdLst.map .uinteger32)]
    simp [LocalConfig.assembleCE, getAvps_unless, getAvps_cons, getAvps_nil]
  have vendors : getAvps (config.assembleCE resolver sctp) "VendorSpecificApplicationId" =
      config.peer.vendorSpecificId.map (.grouped ·.group) := by
    rw [← entries_unless (config.peer.vendorSpecificId.map (.grouped ·.group))]
    simp [LocalConfig.assembleCE, getAvps_unless, getAvps_cons, getAvps_nil]
  have address : getAvps (config.assembleCE resolver sctp) "HostIPAddress" = (config.hostIp resolver sctp).map addressEntry := by
    simp [LocalConfig.assembleCE, getAvps_unless, getAvps_cons]
  have words (values : List UInt32) : readEach loadWord (values.map .uinteger32) = .returned values := by
    have reads (value : UInt32) : (loadWord (.uinteger32 value) : Outcome Empty UInt32) = .returned (id value) := rfl
    rw [readEach_map reads, List.map_id]
  have addresses (values : List HostAddress) : readEach loadAddress (values.map addressEntry) = .returned values := by
    have reads (value : HostAddress) : loadAddress (addressEntry value) = .returned (id value) := rfl
    rw [readEach_map reads, List.map_id]
  have groups := readEach_map readVendorSpecificId_group config.peer.vendorSpecificId
  have single {name : String} {e : AvpContainerEntry} (found : getAvps (config.assembleCE resolver sctp) name = [e])
      {α : Type} (load : AvpContainerEntry → Outcome Empty α) (absent : α) :
      readAvp load absent (config.assembleCE resolver sctp) name = load e := by
    rw [readAvp, found]
  have host : getAvps (config.assembleCE resolver sctp) "OriginHost" = [.diamId config.peer.identity] := by
    simp [LocalConfig.assembleCE, getAvps_unless, getAvps_cons]
  have realm : getAvps (config.assembleCE resolver sctp) "OriginRealm" = [.diamId config.realm] := by
    simp [LocalConfig.assembleCE, getAvps_unless, getAvps_cons]
  have vendor : getAvps (config.assembleCE resolver sctp) "VendorId" = [.uinteger32 config.vendor] := by
    simp [LocalConfig.assembleCE, getAvps_unless, getAvps_cons]
  have product : getAvps (config.assembleCE resolver sctp) "ProductName" = [.utf8String config.product] := by
    simp [LocalConfig.assembleCE, getAvps_unless, getAvps_cons]
  have state : getAvps (config.assembleCE resolver sctp) "OriginStateId" = [.uinteger32 config.originStateId] := by
    simp [LocalConfig.assembleCE, getAvps_unless, getAvps_cons]
  have firmware : getAvps (config.assembleCE resolver sctp) "FirmwareRevision" = [.uinteger32 config.version] := by
    simp [LocalConfig.assembleCE, getAvps_unless, getAvps_cons]
  have security : getAvps (config.assembleCE resolver sctp) "InbandSecurityId" =
      [.uinteger32 (if config.peer.tls then 1 else 0)] := by
    simp [LocalConfig.assembleCE, getAvps_unless, getAvps_cons]
  rw [FullCapabilities.disassembleCE, single host, single realm, single vendor, single product, single state, single firmware,
    single security, supported, auth, acct, vendors, address, words, words, words, addresses, groups]
  rfl

theorem disassembleCE_known (previous : FullCapabilities) (request : Bool) (hh ee : UInt32) :
    ∃ cap, previous.disassembleCE (config.assembleCE resolver sctp) = .returned cap ∧
      cap.known = OpenDiameter.Peer.disassembleCE (OpenDiameter.Peer.assembleCE config.peer request hh ee) := by
  refine ⟨_, disassembleCE_assembleCE resolver sctp config previous, ?_⟩
  simp only [OpenDiameter.Peer.disassembleCE, OpenDiameter.Peer.assembleCE, LocalConfig.expected, List.map_map, Option.getD_some]
  rfl

theorem read_write_iff (vid : VendorSpecificId) :
    vid.write.read = vid ∧ (vid.acctAppId ≠ 0 || vid.authAppId ≠ 0) = true ↔ (vid.authAppId = 0 ↔ vid.acctAppId ≠ 0) := by
  obtain ⟨vendorId, authAppId, acctAppId⟩ := vid
  have positive (id : UInt32) : 0 < id ↔ id ≠ 0 := UInt32.pos_iff_ne_zero
  by_cases vendor : vendorId = 0 <;> by_cases auth : authAppId = 0 <;> by_cases acct : acctAppId = 0 <;>
    simp [VendorSpecificId.write, VendorSpecificAvp.read, positive, vendor, auth, acct, eq_comm]

/-- The exchange is right exactly when no vendor specific id has both an authorization and an
accounting application, and each has one. -/
theorem capabilitiesRoundTrip_iff (previous : FullCapabilities) :
    CapabilitiesRoundTrip resolver sctp config previous ↔
      ∀ vid ∈ config.peer.vendorSpecificId, (vid.authAppId = 0 ↔ vid.acctAppId ≠ 0) := by
  rw [CapabilitiesRoundTrip, disassembleCE_assembleCE]
  have only : (∀ vid ∈ config.peer.vendorSpecificId, (vid.authAppId = 0 ↔ vid.acctAppId ≠ 0)) ↔
      ((config.peer.vendorSpecificId.map fun vid => vid.write.read).filter fun vsid =>
        vsid.acctAppId ≠ 0 || vsid.authAppId ≠ 0) = config.peer.vendorSpecificId := by
    rw [filter_map_eq_self]
    exact forall₂_congr fun vid _ => (read_write_iff vid).symm
  rw [only]
  simp [LocalConfig.expected]

def accountingConfig : LocalConfig where
  peer := ⟨[97], false, [], [], [⟨1, 4, 3⟩], 0, 0, fun _ => 0, fun _ => 0⟩
  realm := []
  version := 1
  vendor := 0
  product := []
  originStateId := 0
  supportedVendorIdLst := []
  useIpv6 := false
  advertisedHostname := []

/-- Its accounting application is not read. -/
theorem accounting_lost :
    ¬∀ (resolver : Resolver) (sctp : Bool) (config : LocalConfig) (previous : FullCapabilities),
      (∀ vid ∈ config.peer.vendorSpecificId, vid.authAppId ≠ 0 ∨ vid.acctAppId ≠ 0) →
        CapabilitiesRoundTrip resolver sctp config previous := by
  intro claim
  have blank : FullCapabilities := ⟨.blank, [], [], 0, 0, 0, [], [], ⟨[], [], [], []⟩⟩
  have read := claim ⟨fun _ _ => [], fun _ _ => none⟩ false accountingConfig blank (by decide)
  rw [CapabilitiesRoundTrip, disassembleCE_assembleCE] at read
  have ids : [(⟨1, 4, 0⟩ : VendorSpecificId)] = [⟨1, 4, 3⟩] :=
    congrArg (fun cap => cap.known.vendorSpecificId) (Outcome.returned.inj read)
  exact absurd ids (by decide)

end RoundTrip

end OpenDiameter.Peer
