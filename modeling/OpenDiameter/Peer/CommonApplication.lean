import OpenDiameter.Peer.Capabilities

/-! What `ValidatePeer` takes for a common application.

In the entries of vendor specific ids 0 says that a field is absent, and is compared like
any other id. The reader of a capabilities exchange keeps one id of each entry.
-/

set_option autoImplicit false

namespace OpenDiameter.Peer

open Foundation

section Ids

def VendorSpecificAvp.ids (avp : VendorSpecificAvp) : List UInt32 := avp.authAppId.toList ++ avp.acctAppId.toList

def VendorSpecificAvp.kept (avp : VendorSpecificAvp) : List UInt32 :=
  ((avp.authAppId.or avp.acctAppId).filter (· ≠ 0)).toList

def VendorSpecificAvp.lost (avp : VendorSpecificAvp) : List UInt32 :=
  match avp.authAppId with
  | some id => (if id = 0 then [id] else []) ++ avp.acctAppId.toList
  | none => avp.acctAppId.toList.filter (· = 0)

def PeerMsg.advertised (cer : PeerMsg) : List UInt32 :=
  cer.authAppIds ++ cer.acctAppIds ++ cer.vendorSpecificIds.flatMap (·.ids)

def PeerMsg.kept (cer : PeerMsg) : List UInt32 :=
  cer.authAppIds ++ cer.acctAppIds ++ cer.vendorSpecificIds.flatMap (·.kept)

def PeerMsg.lost (cer : PeerMsg) : List UInt32 := cer.vendorSpecificIds.flatMap (·.lost)

def PeerConfig.configured (config : PeerConfig) : List UInt32 :=
  config.authAppIdLst ++ config.acctAppIdLst ++
    config.vendorSpecificId.flatMap fun vid => [vid.authAppId, vid.acctAppId].filter (· ≠ 0)

/-- What the configuration has to compare with: every list entry and both fields. -/
def PeerConfig.compared (config : PeerConfig) : List UInt32 :=
  config.authAppIdLst ++ config.acctAppIdLst ++ config.vendorSpecificId.flatMap fun vid => [vid.authAppId, vid.acctAppId]

def PeerCapabilities.compared (cap : PeerCapabilities) : List UInt32 :=
  cap.authAppIdLst ++ cap.acctAppIdLst ++ cap.vendorSpecificId.flatMap fun vid => [vid.authAppId, vid.acctAppId]

end Ids

section Conditions

variable (config : PeerConfig) (cer : PeerMsg)

def CommonApplication : Prop :=
  (∃ id ∈ cer.advertised, id ∈ config.configured) ∨ relayApplicationId ∈ cer.advertised ∨
    relayApplicationId ∈ config.configured

def SameSecurity : Prop := (if config.tls then 1 else 0) = cer.inbandSecurityId.getD 0

/-- `ValidatePeer` says what the two nodes have in common. -/
def Validated : Prop := validates config cer = true ↔ CommonApplication config cer ∧ SameSecurity config cer

def SeenMatch : Prop :=
  (∃ id ∈ cer.kept, id ∈ config.configured) ∨ (relayApplicationId ∈ cer.kept ∧ config.compared ≠ []) ∨
    (relayApplicationId ∈ config.configured ∧ cer.kept ≠ [])

/-- An absent id of one side meets an absent one, or the id 0, of the other. -/
def ZeroMatch : Prop :=
  (0 ∈ cer.kept ∨ ∃ avp ∈ cer.vendorSpecificIds, avp.kept ≠ []) ∧ 0 ∈ config.compared

def LostMatch : Prop :=
  (∃ id ∈ cer.lost, id ∈ config.configured) ∨ relayApplicationId ∈ cer.lost ∨
    (relayApplicationId ∈ cer.kept ∧ config.compared = []) ∨ (relayApplicationId ∈ config.configured ∧ cer.kept = [])

end Conditions

section Searches

variable {config : PeerConfig} {cap : PeerCapabilities} {cer : PeerMsg} {id : UInt32}

/-- Two ids that `Find` takes for the same application. -/
def Meets (x y : UInt32) : Prop := x = y ∨ x = relayApplicationId ∨ y = relayApplicationId

theorem findId_iff {lst : List UInt32} : findId id lst = true ↔ ∃ y ∈ lst, Meets id y := by
  simp only [findId, Meets, List.any_eq_true, Bool.or_eq_true, beq_iff_eq]
  refine exists_congr fun y => and_congr_right fun _ => ?_
  constructor
  · rintro ((relay | relay) | same)
    · exact .inr (.inl relay)
    · exact .inr (.inr relay)
    · exact .inl same.symm
  · rintro (same | relay | relay)
    · exact .inr same.symm
    · exact .inl (.inl relay)
    · exact .inl (.inr relay)

theorem findVendorId_iff {lst : List VendorSpecificId} :
    findVendorId id lst = true ↔ ∃ y ∈ lst.flatMap fun vid => [vid.authAppId, vid.acctAppId], Meets id y := by
  simp only [findVendorId, Meets, List.any_eq_true, Bool.or_eq_true, beq_iff_eq, List.mem_flatMap, List.mem_cons,
    List.not_mem_nil, or_false]
  constructor
  · rintro ⟨vid, member, ((((same | same) | relay) | relay) | relay)⟩
    · exact ⟨_, ⟨vid, member, .inl rfl⟩, .inl same.symm⟩
    · exact ⟨_, ⟨vid, member, .inr rfl⟩, .inl same.symm⟩
    · exact ⟨_, ⟨vid, member, .inl rfl⟩, .inr (.inr relay)⟩
    · exact ⟨_, ⟨vid, member, .inr rfl⟩, .inr (.inr relay)⟩
    · exact ⟨_, ⟨vid, member, .inl rfl⟩, .inr (.inl relay)⟩
  · rintro ⟨y, ⟨vid, member, rfl | rfl⟩, meets⟩
    · exact ⟨vid, member, by grind⟩
    · exact ⟨vid, member, by grind⟩

theorem supports_iff : config.supports id = true ↔ ∃ y ∈ config.compared, Meets id y := by
  simp only [PeerConfig.supports, PeerConfig.compared, List.any_cons, List.any_nil, Bool.or_eq_true, Bool.or_false,
    findId_iff, findVendorId_iff, List.mem_append]
  grind

/-- The searches look at every pair of an id of the peer and one of the configuration. -/
theorem commonApplication_iff :
    commonApplication config cap = true ↔ ∃ x ∈ cap.compared, ∃ y ∈ config.compared, Meets x y := by
  simp only [commonApplication, PeerCapabilities.compared, List.any_cons, List.any_nil, Bool.or_eq_true, Bool.or_false,
    List.any_eq_true, supports_iff, List.mem_append, List.mem_flatMap, List.mem_cons, List.not_mem_nil, or_false]
  grind

end Searches

section Reading

variable {config : PeerConfig} {cer : PeerMsg} {id : UInt32}

theorem kept_ne_nil_iff (avp : VendorSpecificAvp) :
    (avp.read.acctAppId ≠ 0 || avp.read.authAppId ≠ 0) = true ↔ avp.kept ≠ [] := by
  obtain ⟨vendorId, authAppId | auth, acctAppId | acct⟩ := avp
  · simp [VendorSpecificAvp.read, VendorSpecificAvp.kept]
  · by_cases absent : acct = 0 <;> simp [VendorSpecificAvp.read, VendorSpecificAvp.kept, absent, Option.filter]
  · by_cases absent : auth = 0 <;> simp [VendorSpecificAvp.read, VendorSpecificAvp.kept, absent, Option.filter]
  · by_cases absent : auth = 0 <;> simp [VendorSpecificAvp.read, VendorSpecificAvp.kept, absent, Option.filter]

theorem mem_read_iff {avp : VendorSpecificAvp} (kept : avp.kept ≠ []) :
    id ∈ [avp.read.authAppId, avp.read.acctAppId] ↔ id ∈ avp.kept ∨ id = 0 := by
  obtain ⟨vendorId, authAppId | auth, acctAppId | acct⟩ := avp
  · exact absurd rfl kept
  · by_cases absent : acct = 0
    · exact absurd (by simp [VendorSpecificAvp.kept, absent, Option.filter]) kept
    · simp [VendorSpecificAvp.read, VendorSpecificAvp.kept, absent, Option.filter, or_comm]
  · by_cases absent : auth = 0
    · exact absurd (by simp [VendorSpecificAvp.kept, absent, Option.filter]) kept
    · simp [VendorSpecificAvp.read, VendorSpecificAvp.kept, absent, Option.filter]
  · by_cases absent : auth = 0
    · exact absurd (by simp [VendorSpecificAvp.kept, absent, Option.filter]) kept
    · simp [VendorSpecificAvp.read, VendorSpecificAvp.kept, absent, Option.filter]

theorem mem_ids_iff (avp : VendorSpecificAvp) : id ∈ avp.ids ↔ id ∈ avp.kept ∨ id ∈ avp.lost := by
  obtain ⟨vendorId, authAppId | auth, acctAppId | acct⟩ := avp
  · simp [VendorSpecificAvp.ids, VendorSpecificAvp.kept, VendorSpecificAvp.lost]
  · by_cases absent : acct = 0 <;>
      simp [VendorSpecificAvp.ids, VendorSpecificAvp.kept, VendorSpecificAvp.lost, absent, Option.filter]
  · by_cases absent : auth = 0 <;>
      simp [VendorSpecificAvp.ids, VendorSpecificAvp.kept, VendorSpecificAvp.lost, absent, Option.filter]
  · by_cases absent : auth = 0 <;>
      simp [VendorSpecificAvp.ids, VendorSpecificAvp.kept, VendorSpecificAvp.lost, absent, Option.filter]

theorem mem_advertised_iff : id ∈ cer.advertised ↔ id ∈ cer.kept ∨ id ∈ cer.lost := by
  simp only [PeerMsg.advertised, PeerMsg.kept, PeerMsg.lost, List.mem_append, List.mem_flatMap, mem_ids_iff]
  grind

theorem mem_compared_iff : id ∈ (disassembleCE cer).compared ↔
    id ∈ cer.kept ∨ (id = 0 ∧ ∃ avp ∈ cer.vendorSpecificIds, avp.kept ≠ []) := by
  have entries : id ∈ ((disassembleCE cer).vendorSpecificId.flatMap fun vid => [vid.authAppId, vid.acctAppId]) ↔
      ∃ avp ∈ cer.vendorSpecificIds, avp.kept ≠ [] ∧ (id ∈ avp.kept ∨ id = 0) := by
    rw [List.mem_flatMap]
    constructor
    · rintro ⟨vid, member, among⟩
      obtain ⟨read, test⟩ := List.mem_filter.mp member
      obtain ⟨avp, listed, rfl⟩ := List.mem_map.mp read
      have kept := (kept_ne_nil_iff avp).mp test
      exact ⟨avp, listed, kept, (mem_read_iff kept).mp among⟩
    · rintro ⟨avp, listed, kept, among⟩
      exact ⟨avp.read, List.mem_filter.mpr ⟨List.mem_map_of_mem listed, (kept_ne_nil_iff avp).mpr kept⟩,
        (mem_read_iff kept).mpr among⟩
  have plain : (disassembleCE cer).authAppIdLst = cer.authAppIds ∧ (disassembleCE cer).acctAppIdLst = cer.acctAppIds := ⟨rfl, rfl⟩
  simp only [PeerCapabilities.compared, PeerMsg.kept, List.mem_append, entries, plain.1, plain.2, List.mem_flatMap]
  constructor
  · rintro (listed | ⟨avp, listed, kept, among | zero⟩)
    · exact .inl (.inl listed)
    · exact .inl (.inr ⟨avp, listed, among⟩)
    · exact .inr ⟨zero, avp, listed, kept⟩
  · rintro ((listed | ⟨avp, listed, among⟩) | ⟨zero, avp, listed, kept⟩)
    · exact .inl listed
    · exact .inr ⟨avp, listed, List.ne_nil_of_mem among, .inl among⟩
    · exact .inr ⟨avp, listed, kept, .inr zero⟩

theorem mem_configured_iff (present : id ≠ 0) : id ∈ config.compared ↔ id ∈ config.configured := by
  simp only [PeerConfig.compared, PeerConfig.configured, List.mem_append, List.mem_flatMap, List.mem_filter,
    decide_eq_true_eq, and_iff_left present]

theorem configured_subset : id ∈ config.configured → id ∈ config.compared := by
  simp only [PeerConfig.compared, PeerConfig.configured, List.mem_append, List.mem_flatMap, List.mem_filter]
  grind

end Reading

section Result

variable (config : PeerConfig) (cer : PeerMsg)

theorem relay_ne_zero : relayApplicationId ≠ 0 := by decide

/-- The searches find what both have, or a 0 on both sides. -/
theorem commonApplication_disassembleCE_iff :
    commonApplication config (disassembleCE cer) = true ↔ SeenMatch config cer ∨ ZeroMatch config cer := by
  have some' : (∃ avp ∈ cer.vendorSpecificIds, avp.kept ≠ []) → cer.kept ≠ [] := by
    rintro ⟨avp, listed, kept⟩ none
    obtain ⟨id, among⟩ := List.exists_mem_of_ne_nil _ kept
    have mem : id ∈ cer.kept := List.mem_append_right _ (List.mem_flatMap.mpr ⟨avp, listed, among⟩)
    rw [none] at mem
    cases mem
  rw [commonApplication_iff]
  constructor
  · rintro ⟨x, peers, y, ours, meets⟩
    rw [mem_compared_iff] at peers
    have kept : cer.kept ≠ [] := by
      rcases peers with kept | ⟨-, entry⟩
      · exact List.ne_nil_of_mem kept
      · exact some' entry
    rcases meets with rfl | rfl | rfl
    · by_cases zero : x = 0
      · subst zero
        refine .inr ⟨?_, ours⟩
        rcases peers with kept | ⟨-, entry⟩
        · exact .inl kept
        · exact .inr entry
      · rcases peers with kept | ⟨absent, -⟩
        · exact .inl (.inl ⟨x, kept, (mem_configured_iff zero).mp ours⟩)
        · exact absurd absent zero
    · rcases peers with kept | ⟨absent, -⟩
      · exact .inl (.inr (.inl ⟨kept, List.ne_nil_of_mem ours⟩))
      · exact absurd absent relay_ne_zero
    · exact .inl (.inr (.inr ⟨(mem_configured_iff relay_ne_zero).mp ours, kept⟩))
  · rintro ((⟨id, kept, ours⟩ | ⟨relay, some''⟩ | ⟨relay, kept⟩) | ⟨peers, ours⟩)
    · exact ⟨id, mem_compared_iff.mpr (.inl kept), id, configured_subset ours, .inl rfl⟩
    · obtain ⟨y, ours⟩ := List.exists_mem_of_ne_nil _ some''
      exact ⟨_, mem_compared_iff.mpr (.inl relay), y, ours, .inr (.inl rfl)⟩
    · obtain ⟨x, peers⟩ := List.exists_mem_of_ne_nil _ kept
      exact ⟨x, mem_compared_iff.mpr (.inl peers), _, configured_subset relay, .inr (.inr rfl)⟩
    · refine ⟨0, mem_compared_iff.mpr ?_, 0, ours, .inl rfl⟩
      rcases peers with kept | entry
      · exact .inl kept
      · exact .inr ⟨rfl, entry⟩

theorem commonApplication_seen_iff : CommonApplication config cer ↔ SeenMatch config cer ∨ LostMatch config cer := by
  unfold CommonApplication SeenMatch LostMatch
  simp only [mem_advertised_iff]
  by_cases ours : config.compared = [] <;> by_cases kept : cer.kept = [] <;> grind

/-- The answer is right exactly when the security differs, or an application was seen, or a
0 was compared just where an application was lost. -/
theorem validated_iff : Validated config cer ↔
    (SameSecurity config cer → SeenMatch config cer ∨ (ZeroMatch config cer ↔ LostMatch config cer)) := by
  have value : validates config cer = true ↔ commonApplication config (disassembleCE cer) = true ∧ SameSecurity config cer := by
    have security : (disassembleCE cer).inbandSecurityId = cer.inbandSecurityId.getD 0 := rfl
    unfold validates validatePeer SameSecurity
    rw [security]
    cases commonApplication config (disassembleCE cer) with
    | false => simp
    | true => by_cases same : (if config.tls then 1 else 0) = cer.inbandSecurityId.getD 0 <;> simp [same]
  unfold Validated
  rw [value, commonApplication_disassembleCE_iff, commonApplication_seen_iff]
  by_cases same : SameSecurity config cer <;> by_cases seen : SeenMatch config cer <;> simp [same, seen]

def vendorConfig (authAppId : UInt32) : PeerConfig :=
  ⟨[97], false, [], [], [⟨1, authAppId, 0⟩], 0, 0, fun _ => 0, fun _ => 0⟩

def vendorCER (authAppId : UInt32) : PeerMsg :=
  { code := msgCodeCapabilitiesExchg, request := true, hh := 1, ee := 1,
    vendorSpecificIds := [⟨some 1, some authAppId, none⟩] }

/-- Two applications of a vendor, 5 and 7: what the nodes have in common is that neither accounts. -/
theorem zeros_in_common : ¬∀ (config : PeerConfig) (cer : PeerMsg), Validated config cer := by
  intro claim
  have valid : validates (vendorConfig 5) (vendorCER 7) = true := by decide
  obtain ⟨common, -⟩ := (claim _ _).mp valid
  have nothing : ¬((∃ id ∈ (vendorCER 7).advertised, id ∈ (vendorConfig 5).configured) ∨
      relayApplicationId ∈ (vendorCER 7).advertised ∨ relayApplicationId ∈ (vendorConfig 5).configured) := by decide
  exact nothing common

end Result

end OpenDiameter.Peer
