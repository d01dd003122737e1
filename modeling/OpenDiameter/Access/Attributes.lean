import Mathlib.Data.List.Nodup
import Mathlib.Logic.Function.Basic
import OpenDiameter.Access.Authorization
import OpenDiameter.Router.Message

/-! The attributes of an application message, and the tables by which they are copied
into AVP containers and out of them.

The entries of a container are written and read through unchecked casts of their data,
so an attribute must have the layout of the entry's type.
-/

set_option autoImplicit false

namespace OpenDiameter.Access

open Foundation OpenDiameter.Parser
open Router (DiameterMsg)

section Layouts

inductive MessageError where
  | dictionaryError | payloadError
  deriving DecidableEq, Repr

variable {ε : Type}

def storeText (kind : AvpDataType) (value : Foundation.Octets) : Outcome ε AvpContainerEntry :=
  match kind with
  | .data => .returned (.data value)
  | .string => .returned (.string value)
  | .utf8String => .returned (.utf8String value)
  | .diamId => .returned (.diamId value)
  | .custom => .escaped
  | _ => .fault

def storeWord (kind : AvpDataType) (value : UInt32) : Outcome ε AvpContainerEntry :=
  match kind with
  | .integer32 => .returned (.integer32 value)
  | .uinteger32 => .returned (.uinteger32 value)
  | .enum => .returned (.enum value)
  | .time => .returned (.time value)
  | .custom => .escaped
  | _ => .fault

/-- The assignment of a 64-bit number, which overruns an entry of 32 bits. -/
def storeLong (kind : AvpDataType) (value : UInt64) : Outcome ε AvpContainerEntry :=
  match kind with
  | .integer64 => .returned (.integer64 value)
  | .uinteger64 => .returned (.uinteger64 value)
  | .custom => .escaped
  | _ => .fault

def storeRule (kind : AvpDataType) (value : IpFilterRule) : Outcome ε AvpContainerEntry :=
  match kind with
  | .ipFilterRule => .returned (.ipFilterRule value)
  | .custom => .escaped
  | _ => .fault

def loadText : AvpContainerEntry → Outcome ε Foundation.Octets
  | .data value => .returned value
  | .string value => .returned value
  | .utf8String value => .returned value
  | .diamId value => .returned value
  | _ => .fault

def loadWord : AvpContainerEntry → Outcome ε UInt32
  | .integer32 value => .returned value
  | .uinteger32 value => .returned value
  | .enum value => .returned value
  | .time value => .returned value
  | _ => .fault

def loadLong : AvpContainerEntry → Outcome ε UInt64
  | .integer64 value => .returned value
  | .uinteger64 value => .returned value
  | _ => .fault

def loadRule : AvpContainerEntry → Outcome ε IpFilterRule
  | .ipFilterRule value => .returned value
  | _ => .fault

def loadGroup : AvpContainerEntry → Outcome ε AvpContainerList
  | .grouped acl => .returned acl
  | _ => .fault

def scalarTo {α : Type} (name : String) (store : α → Outcome ε AvpContainerEntry) :
    Option α → Outcome ε AvpContainerList
  | none => .returned []
  | some value => store value >>= fun e => .returned [⟨name, .optional, [e]⟩]

def scalarFrom {α : Type} (acl : AvpContainerList) (name : String) (load : AvpContainerEntry → Outcome ε α) :
    Outcome ε (Option α) :=
  match searchContainer acl name with
  | none => .returned none
  | some c =>
    match c.entries with
    | [] => .fault
    | e :: _ => load e >>= fun value => .returned (some value)

end Layouts

section Groups

variable {ε : Type}

/-- `tunneling_t`; an attribute that is not set has no value. -/
structure Tunneling where
  tunnelType : Option UInt32
  tunnelMediumType : Option UInt32
  tunnelClientEndpoint : Option Foundation.Octets
  tunnelServerEndpoint : Option Foundation.Octets
  tunnelPreference : Option UInt32
  tunnelClientAuthId : Option UInt32
  tunnelServerAuthId : Option UInt32
  tunnelPassword : Option Foundation.Octets
  tunnelPrivateGroupId : Option Foundation.Octets
  deriving DecidableEq, Repr

def Tunneling.copyTo (t : Tunneling) : Outcome ε AvpContainerList := do
  let tunnelType ← scalarTo "Tunnel-Type" (storeWord .enum) t.tunnelType
  let tunnelMediumType ← scalarTo "Tunnel-Medium-Type" (storeWord .enum) t.tunnelMediumType
  let tunnelClientEndpoint ← scalarTo "Tunnel-Client-Endpoint" (storeText .utf8String) t.tunnelClientEndpoint
  let tunnelServerEndpoint ← scalarTo "Tunnel-Server-Endpoint" (storeText .utf8String) t.tunnelServerEndpoint
  let tunnelPreference ← scalarTo "Tunnel-Preference" (storeWord .uinteger32) t.tunnelPreference
  let tunnelClientAuthId ← scalarTo "Tunnel-Client-Auth-Id" (storeWord .uinteger32) t.tunnelClientAuthId
  let tunnelServerAuthId ← scalarTo "Tunnel-Server-Auth-Id" (storeWord .uinteger32) t.tunnelServerAuthId
  let tunnelPassword ← scalarTo "Tunnel-Password" (storeText .string) t.tunnelPassword
  let tunnelPrivateGroupId ← scalarTo "Tunnel-Private-Group-Id" (storeText .utf8String) t.tunnelPrivateGroupId
  return tunnelType ++ (tunnelMediumType ++ (tunnelClientEndpoint ++ (tunnelServerEndpoint ++ (tunnelPreference ++
    (tunnelClientAuthId ++ (tunnelServerAuthId ++ (tunnelPassword ++ tunnelPrivateGroupId)))))))

def Tunneling.copyFrom (cl : AvpContainerList) : Outcome ε Tunneling := do
  let tunnelType ← scalarFrom cl "Tunnel-Type" loadWord
  let tunnelMediumType ← scalarFrom cl "Tunnel-Medium-Type" loadWord
  let tunnelClientEndpoint ← scalarFrom cl "Tunnel-Client-Endpoint" loadText
  let tunnelServerEndpoint ← scalarFrom cl "Tunnel-Server-Endpoint" loadText
  let tunnelPreference ← scalarFrom cl "Tunnel-Preference" loadWord
  let tunnelClientAuthId ← scalarFrom cl "Tunnel-Client-Auth-Id" loadWord
  let tunnelServerAuthId ← scalarFrom cl "Tunnel-Server-Auth-Id" loadWord
  let tunnelPassword ← scalarFrom cl "Tunnel-Password" loadText
  let tunnelPrivateGroupId ← scalarFrom cl "Tunnel-Private-Group-Id" loadText
  return { tunnelType, tunnelMediumType, tunnelClientEndpoint, tunnelServerEndpoint, tunnelPreference,
           tunnelClientAuthId, tunnelServerAuthId, tunnelPassword, tunnelPrivateGroupId }

structure ProxyInfo where
  proxyHost : Option Foundation.Octets
  proxyState : Option Foundation.Octets
  avp : Option (List Foundation.Octets)
  deriving DecidableEq, Repr

/-- No entry is registered for the type of `Avp`. -/
def ProxyInfo.copyTo (p : ProxyInfo) : Outcome ε AvpContainerList := do
  let proxyHost ← scalarTo "Proxy-Host" (storeText .diamId) p.proxyHost
  let proxyState ← scalarTo "Proxy-State" (storeText .string) p.proxyState
  match p.avp with
  | none => return proxyHost ++ proxyState
  | some _ => .escaped

def ProxyInfo.copyFrom (cl : AvpContainerList) : Outcome ε ProxyInfo := do
  let proxyHost ← scalarFrom cl "Proxy-Host" loadText
  let proxyState ← scalarFrom cl "Proxy-State" loadText
  match searchContainer cl "AVP" with
  | none => return ⟨proxyHost, proxyState, none⟩
  | some c => c.entries.mapM loadText >>= fun avp => return ⟨proxyHost, proxyState, some avp⟩

theorem search_append (first second : AvpContainerList) (name : String) :
    searchContainer (first ++ second) name = (searchContainer first name).or (searchContainer second name) :=
  List.find?_append

/-- What `scalarTo` adds. -/
def scalarContainer {α : Type} (name : String) (entry : α → AvpContainerEntry) (value : Option α) : AvpContainerList :=
  (value.map fun v => (⟨name, .optional, [entry v]⟩ : AvpContainer AvpContainerEntry)).toList

theorem scalarTo_of_returned {α : Type} {name : String} {store : α → Outcome ε AvpContainerEntry}
    {entry : α → AvpContainerEntry} (stores : ∀ v, store v = .returned (entry v)) (value : Option α) :
    scalarTo name store value = .returned (scalarContainer name entry value) := by
  cases value with
  | none => rfl
  | some v =>
    rw [scalarTo, stores]
    rfl

theorem search_scalarContainer {α : Type} (name name' : String) (entry : α → AvpContainerEntry) (value : Option α) :
    searchContainer (scalarContainer name entry value) name' =
      if name = name' then value.map fun v => ⟨name, .optional, [entry v]⟩ else none := by
  cases value with
  | none => simp [scalarContainer, searchContainer]
  | some v => by_cases same : name = name' <;> simp [scalarContainer, searchContainer, same]

theorem scalarFrom_of_search {α : Type} {acl : AvpContainerList} {name : String} {load : AvpContainerEntry → Outcome ε α}
    {entry : α → AvpContainerEntry} {value : Option α} (loads : ∀ v, load (entry v) = .returned v)
    (found : searchContainer acl name = value.map fun v => ⟨name, .optional, [entry v]⟩) :
    scalarFrom acl name load = .returned value := by
  rw [scalarFrom, found]
  cases value with
  | none => rfl
  | some v =>
    dsimp only [Option.map_some]
    rw [loads]
    rfl

theorem Tunneling.copyFrom_copyTo (t : Tunneling) :
    ∃ acl, (t.copyTo : Outcome ε _) = .returned acl ∧ (Tunneling.copyFrom acl : Outcome ε _) = .returned t := by
  have enum : ∀ v, (storeWord .enum v : Outcome ε _) = .returned (.enum v) := fun _ => rfl
  have word : ∀ v, (storeWord .uinteger32 v : Outcome ε _) = .returned (.uinteger32 v) := fun _ => rfl
  have utf8 : ∀ v, (storeText .utf8String v : Outcome ε _) = .returned (.utf8String v) := fun _ => rfl
  have text : ∀ v, (storeText .string v : Outcome ε _) = .returned (.string v) := fun _ => rfl
  unfold Tunneling.copyTo
  rw [scalarTo_of_returned enum, scalarTo_of_returned enum, scalarTo_of_returned utf8, scalarTo_of_returned utf8,
    scalarTo_of_returned word, scalarTo_of_returned word, scalarTo_of_returned word, scalarTo_of_returned text,
    scalarTo_of_returned utf8]
  refine ⟨_, rfl, ?_⟩
  unfold Tunneling.copyFrom
  rw [@scalarFrom_of_search _ _ _ _ _ .enum t.tunnelType (fun _ => rfl) (by simp [search_append, search_scalarContainer]),
    @scalarFrom_of_search _ _ _ _ _ .enum t.tunnelMediumType (fun _ => rfl) (by simp [search_append, search_scalarContainer]),
    @scalarFrom_of_search _ _ _ _ _ .utf8String t.tunnelClientEndpoint (fun _ => rfl)
      (by simp [search_append, search_scalarContainer]),
    @scalarFrom_of_search _ _ _ _ _ .utf8String t.tunnelServerEndpoint (fun _ => rfl)
      (by simp [search_append, search_scalarContainer]),
    @scalarFrom_of_search _ _ _ _ _ .uinteger32 t.tunnelPreference (fun _ => rfl)
      (by simp [search_append, search_scalarContainer]),
    @scalarFrom_of_search _ _ _ _ _ .uinteger32 t.tunnelClientAuthId (fun _ => rfl)
      (by simp [search_append, search_scalarContainer]),
    @scalarFrom_of_search _ _ _ _ _ .uinteger32 t.tunnelServerAuthId (fun _ => rfl)
      (by simp [search_append, search_scalarContainer]),
    @scalarFrom_of_search _ _ _ _ _ .string t.tunnelPassword (fun _ => rfl)
      (by simp [search_append, search_scalarContainer]),
    @scalarFrom_of_search _ _ _ _ _ .utf8String t.tunnelPrivateGroupId (fun _ => rfl)
      (by simp [search_append, search_scalarContainer])]
  rfl

theorem ProxyInfo.copyTo_plain (p : ProxyInfo) (plain : p.avp = none) :
    ∃ acl, (p.copyTo : Outcome ε _) = .returned acl ∧ (ProxyInfo.copyFrom acl : Outcome ε _) = .returned p := by
  have identity : ∀ v, (storeText .diamId v : Outcome ε _) = .returned (.diamId v) := fun _ => rfl
  have text : ∀ v, (storeText .string v : Outcome ε _) = .returned (.string v) := fun _ => rfl
  unfold ProxyInfo.copyTo
  rw [scalarTo_of_returned identity, scalarTo_of_returned text, plain]
  refine ⟨_, rfl, ?_⟩
  unfold ProxyInfo.copyFrom
  rw [@scalarFrom_of_search _ _ _ _ _ .diamId p.proxyHost (fun _ => rfl) (by simp [search_append, search_scalarContainer]),
    @scalarFrom_of_search _ _ _ _ _ .string p.proxyState (fun _ => rfl) (by simp [search_append, search_scalarContainer])]
  simp only [Outcome.returned_bind, search_append, search_scalarContainer]
  simp [← plain]

theorem ProxyInfo.copyTo_custom (p : ProxyInfo) {avp : List Foundation.Octets} (custom : p.avp = some avp) :
    (p.copyTo : Outcome ε _) = .escaped := by
  have identity : ∀ v, (storeText .diamId v : Outcome ε _) = .returned (.diamId v) := fun _ => rfl
  have text : ∀ v, (storeText .string v : Outcome ε _) = .returned (.string v) := fun _ => rfl
  unfold ProxyInfo.copyTo
  rw [scalarTo_of_returned identity, scalarTo_of_returned text, custom]
  rfl

end Groups

section Data

inductive DatumType where
  | text | word | long | rule | tunneling | proxyInfo
  deriving DecidableEq, Repr

inductive Datum where
  | text (value : Foundation.Octets)
  | word (value : UInt32)
  | long (value : UInt64)
  | rule (value : IpFilterRule)
  | tunneling (value : Tunneling)
  | proxyInfo (value : ProxyInfo)
  deriving DecidableEq

def Datum.type : Datum → DatumType
  | .text _ => .text
  | .word _ => .word
  | .long _ => .long
  | .rule _ => .rule
  | .tunneling _ => .tunneling
  | .proxyInfo _ => .proxyInfo

def Datum.store (kind : AvpDataType) : Datum → Outcome MessageError AvpContainerEntry
  | .text value => storeText kind value
  | .word value => storeWord kind value
  | .long value => storeLong kind value
  | .rule value => storeRule kind value
  | .tunneling value => value.copyTo >>= fun acl => .returned (.grouped acl)
  | .proxyInfo value => value.copyTo >>= fun acl => .returned (.grouped acl)

def DatumType.load (type : DatumType) (e : AvpContainerEntry) : Outcome MessageError Datum :=
  match type with
  | .text => loadText e >>= fun value => .returned (.text value)
  | .word => loadWord e >>= fun value => .returned (.word value)
  | .long => loadLong e >>= fun value => .returned (.long value)
  | .rule => loadRule e >>= fun value => .returned (.rule value)
  | .tunneling => loadGroup e >>= fun cl => Tunneling.copyFrom cl >>= fun value => .returned (.tunneling value)
  | .proxyInfo => loadGroup e >>= fun cl => ProxyInfo.copyFrom cl >>= fun value => .returned (.proxyInfo value)

def Datum.Fits (kind : AvpDataType) : Datum → Prop
  | .text _ => kind = .data ∨ kind = .string ∨ kind = .utf8String ∨ kind = .diamId
  | .word _ => kind = .integer32 ∨ kind = .uinteger32 ∨ kind = .enum ∨ kind = .time
  | .long _ => kind = .integer64 ∨ kind = .uinteger64
  | .rule _ => kind = .ipFilterRule
  | .tunneling _ => True
  | .proxyInfo value => value.avp = none

theorem Datum.store_fits {kind : AvpDataType} {d : Datum} (fits : d.Fits kind) :
    ∃ e, d.store kind = .returned e ∧ d.type.load e = .returned d := by
  cases d with
  | text value => obtain rfl | rfl | rfl | rfl := fits <;> exact ⟨_, rfl, rfl⟩
  | word value => obtain rfl | rfl | rfl | rfl := fits <;> exact ⟨_, rfl, rfl⟩
  | long value => obtain rfl | rfl := fits <;> exact ⟨_, rfl, rfl⟩
  | rule value =>
    cases fits
    exact ⟨_, rfl, rfl⟩
  | tunneling value =>
    obtain ⟨acl, stored, loaded⟩ := @Tunneling.copyFrom_copyTo MessageError value
    refine ⟨.grouped acl, by rw [Datum.store, stored]; rfl, ?_⟩
    simp [DatumType.load, Datum.type, loadGroup, loaded]
  | proxyInfo value =>
    obtain ⟨acl, stored, loaded⟩ := @ProxyInfo.copyTo_plain MessageError value fits
    refine ⟨.grouped acl, by rw [Datum.store, stored]; rfl, ?_⟩
    simp [DatumType.load, Datum.type, loadGroup, loaded]

theorem Datum.fits_of_store {kind : AvpDataType} {d : Datum} {e : AvpContainerEntry} (stored : d.store kind = .returned e) :
    d.Fits kind := by
  cases d with
  | text value => cases kind <;> first | (simp [Datum.Fits]; done) | cases stored
  | word value => cases kind <;> first | (simp [Datum.Fits]; done) | cases stored
  | long value => cases kind <;> first | (simp [Datum.Fits]; done) | cases stored
  | rule value => cases kind <;> first | (simp [Datum.Fits]; done) | cases stored
  | tunneling value => trivial
  | proxyInfo value =>
    cases custom : value.avp with
    | none => exact custom
    | some avp =>
      rw [Datum.store, ProxyInfo.copyTo_custom value custom] at stored
      cases stored

variable {F : Type}

structure EncodeRow (F : Type) where
  field : F
  avpName : String
  kind : AvpDataType
  deriving DecidableEq

inductive DecodeAction (F : Type) where
  | copyFrom (field : F)
  /-- The first entry is compared, and not kept. -/
  | expect (value : UInt32)
  deriving DecidableEq

structure DecodeRow (F : Type) where
  avpName : String
  action : DecodeAction F

/-- The declarations of the attributes, and the lists of `Clear`, `parseAppToRaw` and
`parseRawToApp` in their order. -/
structure Layout (F : Type) where
  vector : F → Bool
  type : F → DatumType
  cleared : List F
  encoded : List (EncodeRow F)
  decoded : List (DecodeRow F)

abbrev Data (F : Type) := F → Attribute (List Datum)

def storeAll (kind : AvpDataType) : List Datum → Outcome MessageError (List AvpContainerEntry)
  | [] => .returned []
  | d :: values => do
    let e ← d.store kind
    let entries ← storeAll kind values
    return e :: entries

def loadAll (type : DatumType) : List AvpContainerEntry → Outcome MessageError (List Datum)
  | [] => .returned []
  | e :: entries => do
    let d ← type.load e
    let values ← loadAll type entries
    return d :: values

def copyTo (kind : AvpDataType) (own : Attribute (List Datum)) : Outcome MessageError (List AvpContainerEntry) :=
  if kind = .custom then .escaped else storeAll kind own.value

/-- `CopyFrom`. A vector grows to the number of entries, and is not cut down to it. -/
def copyFrom (vector : Bool) (type : DatumType) (entries : List AvpContainerEntry) (own : Attribute (List Datum)) :
    Outcome MessageError (Attribute (List Datum)) :=
  if vector then
    loadAll type entries >>= fun values => .returned (.set (values ++ own.value.drop values.length))
  else
    match entries with
    | [] => .fault
    | e :: _ => type.load e >>= fun d => .returned (.set [d])

def encode : List (EncodeRow F) → Data F → Outcome MessageError AvpContainerList
  | [], _ => .returned []
  | row :: rows, data =>
    if (data row.field).isSet then do
      let entries ← copyTo row.kind (data row.field)
      let acl ← encode rows data
      return ⟨row.avpName, .optional, entries⟩ :: acl
    else encode rows data

def Layout.clear [DecidableEq F] (layout : Layout F) (data : Data F) : Data F := fun f =>
  if f ∈ layout.cleared then (if layout.vector f then (data f).clearVector else (data f).clear) else data f

def decode [DecidableEq F] (layout : Layout F) (acl : AvpContainerList) : List (DecodeRow F) → Data F → Outcome MessageError (Data F)
  | [], data => .returned data
  | row :: rows, data =>
    match searchContainer acl row.avpName with
    | none => decode layout acl rows data
    | some c =>
      match row.action with
      | .copyFrom f =>
        copyFrom (layout.vector f) (layout.type f) c.entries (data f) >>= fun own =>
          decode layout acl rows (Function.update data f own)
      | .expect value =>
        match c.entries with
        | [] => .fault
        | e :: _ => loadWord e >>= fun found =>
          if found = value then decode layout acl rows data else .thrown .payloadError

end Data

section Encoding

variable {F : Type}

theorem encode_cons (row : EncodeRow F) (rows : List (EncodeRow F)) (data : Data F) :
    encode (row :: rows) data =
      if (data row.field).isSet then do
        let entries ← copyTo row.kind (data row.field)
        let acl ← encode rows data
        return ⟨row.avpName, .optional, entries⟩ :: acl
      else encode rows data := rfl

def Storable (kind : AvpDataType) (own : Attribute (List Datum)) : Prop :=
  kind ≠ .custom ∧ ∀ d ∈ own.value, d.Fits kind

theorem storeAll_fits {kind : AvpDataType} {values : List Datum} (fits : ∀ d ∈ values, d.Fits kind) :
    ∃ entries, storeAll kind values = .returned entries ∧
      ∀ type, (∀ d ∈ values, d.type = type) → loadAll type entries = .returned values := by
  induction values with
  | nil => exact ⟨[], rfl, fun _ _ => rfl⟩
  | cons d values ih =>
    obtain ⟨first, others⟩ := List.forall_mem_cons.mp fits
    obtain ⟨e, stored, loaded⟩ := Datum.store_fits first
    obtain ⟨entries, storedAll, loadedAll⟩ := ih others
    refine ⟨e :: entries, by rw [storeAll, stored, Outcome.returned_bind, storedAll]; rfl, ?_⟩
    intro type typed
    obtain ⟨here, there⟩ := List.forall_mem_cons.mp typed
    rw [here] at loaded
    rw [loadAll, loaded, Outcome.returned_bind, loadedAll type there]
    rfl

theorem fits_of_storeAll {kind : AvpDataType} {values : List Datum} {entries : List AvpContainerEntry}
    (stored : storeAll kind values = .returned entries) : ∀ d ∈ values, d.Fits kind := by
  induction values generalizing entries with
  | nil => simp
  | cons d values ih =>
    obtain ⟨e, first, rest⟩ := Outcome.bind_eq_returned.mp stored
    obtain ⟨more, others, -⟩ := Outcome.bind_eq_returned.mp rest
    exact List.forall_mem_cons.mpr ⟨Datum.fits_of_store first, ih others⟩

theorem copyTo_storable {kind : AvpDataType} {own : Attribute (List Datum)} (storable : Storable kind own) :
    ∃ entries, copyTo kind own = .returned entries ∧
      ∀ type, (∀ d ∈ own.value, d.type = type) → loadAll type entries = .returned own.value := by
  obtain ⟨entries, stored, loaded⟩ := storeAll_fits storable.2
  exact ⟨entries, by rw [copyTo, if_neg storable.1, stored], loaded⟩

theorem storable_of_copyTo {kind : AvpDataType} {own : Attribute (List Datum)} {entries : List AvpContainerEntry}
    (copied : copyTo kind own = .returned entries) : Storable kind own := by
  unfold copyTo at copied
  split at copied
  case isTrue => cases copied
  case isFalse known => exact ⟨known, fits_of_storeAll copied⟩

theorem encode_spec {rows : List (EncodeRow F)} {data : Data F} {acl : AvpContainerList}
    (encoded : encode rows data = .returned acl) (names : (rows.map EncodeRow.avpName).Nodup) :
    (∀ row ∈ rows, (data row.field).isSet = true → ∃ entries, copyTo row.kind (data row.field) = .returned entries ∧
        searchContainer acl row.avpName = some ⟨row.avpName, .optional, entries⟩) ∧
      ∀ name, (∀ row ∈ rows, row.avpName = name → (data row.field).isSet = false) → searchContainer acl name = none := by
  induction rows generalizing acl with
  | nil =>
    cases encoded
    exact ⟨by simp, fun _ _ => rfl⟩
  | cons row rows ih =>
    obtain ⟨fresh, later⟩ := List.nodup_cons.mp names
    rw [encode_cons] at encoded
    cases isSet : (data row.field).isSet with
    | false =>
      rw [isSet, if_neg Bool.false_ne_true] at encoded
      obtain ⟨found, missing⟩ := ih encoded later
      refine ⟨?_, fun name absent => missing name fun row' member => absent row' (List.mem_cons_of_mem _ member)⟩
      intro row' member set'
      rcases List.mem_cons.mp member with rfl | inRest
      · rw [isSet] at set'
        cases set'
      · exact found row' inRest set'
    | true =>
      rw [isSet, if_pos rfl] at encoded
      obtain ⟨entries, copied, rest⟩ := Outcome.bind_eq_returned.mp encoded
      obtain ⟨more, encodedRest, same⟩ := Outcome.bind_eq_returned.mp rest
      cases same
      obtain ⟨found, missing⟩ := ih encodedRest later
      have behind (name : String) (other : row.avpName ≠ name) :
          searchContainer (⟨row.avpName, .optional, entries⟩ :: more) name = searchContainer more name := by
        simp [searchContainer, other]
      refine ⟨?_, ?_⟩
      · intro row' member set'
        rcases List.mem_cons.mp member with rfl | inRest
        · exact ⟨entries, copied, by simp [searchContainer]⟩
        · obtain ⟨entries', copied', inMore⟩ := found row' inRest set'
          have other : row.avpName ≠ row'.avpName := fun same =>
            fresh (List.mem_map.mpr ⟨row', inRest, same.symm⟩)
          exact ⟨entries', copied', (behind _ other).trans inMore⟩
      · intro name absent
        have other : row.avpName ≠ name := by
          intro same
          have unset := absent row List.mem_cons_self same
          rw [isSet] at unset
          cases unset
        rw [behind name other]
        exact missing name fun row' member => absent row' (List.mem_cons_of_mem _ member)

theorem encode_returned_iff {rows : List (EncodeRow F)} {data : Data F} :
    (∃ acl, encode rows data = .returned acl) ↔
      ∀ row ∈ rows, (data row.field).isSet = true → Storable row.kind (data row.field) := by
  induction rows with
  | nil => exact ⟨by simp, fun _ => ⟨[], rfl⟩⟩
  | cons row rows ih =>
    rw [List.forall_mem_cons, ← ih, encode_cons]
    cases isSet : (data row.field).isSet with
    | false => simp
    | true =>
      constructor
      · rintro ⟨acl, encoded⟩
        rw [if_pos rfl] at encoded
        obtain ⟨entries, copied, rest⟩ := Outcome.bind_eq_returned.mp encoded
        obtain ⟨more, encodedRest, -⟩ := Outcome.bind_eq_returned.mp rest
        exact ⟨fun _ => storable_of_copyTo copied, more, encodedRest⟩
      · rintro ⟨storable, more, encodedRest⟩
        obtain ⟨entries, copied, -⟩ := copyTo_storable (storable rfl)
        exact ⟨⟨row.avpName, .optional, entries⟩ :: more, by rw [if_pos rfl, copied, Outcome.returned_bind, encodedRest]; rfl⟩

end Encoding

section Decoding

variable {F : Type} [DecidableEq F] {layout : Layout F} {acl : AvpContainerList}

def Delivers (layout : Layout F) (acl : AvpContainerList) (f : F) (before after : Attribute (List Datum)) (avpName : String) :
    Prop :=
  match searchContainer acl avpName with
  | none => after = before
  | some c => copyFrom (layout.vector f) (layout.type f) c.entries before = .returned after

def DecodeRow.Reads (layout : Layout F) (acl : AvpContainerList) (data : Data F) (row : DecodeRow F) : Prop :=
  match row.action with
  | .copyFrom f => ∃ own, Delivers layout acl f (data f) own row.avpName
  | .expect value =>
    ∀ c, searchContainer acl row.avpName = some c → ∃ e rest, c.entries = e :: rest ∧ loadWord (ε := MessageError) e = .returned value

theorem decode_row {row : DecodeRow F} {rows : List (DecodeRow F)} {data : Data F} (reads : row.Reads layout acl data) :
    ∃ next, decode layout acl (row :: rows) data = decode layout acl rows next ∧
      (∀ f, row.action = .copyFrom f → Delivers layout acl f (data f) (next f) row.avpName) ∧
      ∀ f, row.action ≠ .copyFrom f → next f = data f := by
  obtain ⟨avpName, action⟩ := row
  cases action with
  | copyFrom f =>
    obtain ⟨own, delivers⟩ := reads
    unfold Delivers at delivers
    dsimp only at delivers
    refine ⟨Function.update data f own, ?_, ?_, ?_⟩
    · rw [decode]
      dsimp only
      cases found : searchContainer acl avpName with
      | none =>
        rw [found] at delivers
        rw [delivers, Function.update_eq_self]
      | some c =>
        rw [found] at delivers
        dsimp only at delivers ⊢
        rw [delivers, Outcome.returned_bind]
    · intro g same
      cases same
      rw [Function.update_self]
      exact delivers
    · intro g other
      exact Function.update_of_ne (fun same => other (congrArg _ same.symm)) _ _
  | expect value =>
    refine ⟨data, ?_, (by intro f same; cases same), fun _ _ => rfl⟩
    rw [decode]
    dsimp only
    cases found : searchContainer acl avpName with
    | none => rfl
    | some c =>
      obtain ⟨e, rest, entries, loaded⟩ := reads c found
      dsimp only
      rw [entries]
      dsimp only
      rw [loaded, Outcome.returned_bind, if_pos rfl]

theorem decode_spec {rows : List (DecodeRow F)} {data : Data F} (reads : ∀ row ∈ rows, row.Reads layout acl data)
    (once : rows.Pairwise fun first second => ∀ f, first.action = .copyFrom f → second.action ≠ .copyFrom f) :
    ∃ result, decode layout acl rows data = .returned result ∧
      (∀ row ∈ rows, ∀ f, row.action = .copyFrom f → Delivers layout acl f (data f) (result f) row.avpName) ∧
      ∀ f, (∀ row ∈ rows, row.action ≠ .copyFrom f) → result f = data f := by
  induction rows generalizing data with
  | nil => exact ⟨data, rfl, by simp, fun _ _ => rfl⟩
  | cons row rows ih =>
    obtain ⟨here, there⟩ := List.forall_mem_cons.mp reads
    obtain ⟨apart, later⟩ := List.pairwise_cons.mp once
    obtain ⟨next, first, own, frame⟩ := @decode_row _ _ layout acl row rows data here
    have untouched : ∀ row' ∈ rows, ∀ f, row'.action = .copyFrom f → next f = data f := by
      intro row' member f action
      exact frame f fun same => apart row' member f same action
    have others : ∀ row' ∈ rows, row'.Reads layout acl next := by
      intro row' member
      have before := there row' member
      unfold DecodeRow.Reads at before ⊢
      cases action : row'.action with
      | copyFrom f =>
        rw [action] at before
        dsimp only at before ⊢
        rwa [untouched row' member f action]
      | expect value =>
        rw [action] at before
        exact before
    obtain ⟨result, decoded, delivered, rest⟩ := ih others later
    refine ⟨result, first.trans decoded, ?_, ?_⟩
    · intro row' member f action
      rcases List.mem_cons.mp member with rfl | inRest
      · have kept : result f = next f := rest f fun row' member => apart row' member f action
        rw [kept]
        exact own f action
      · have delivers := delivered row' inRest f action
        rwa [untouched row' inRest f action] at delivers
    · intro f absent
      obtain ⟨notHere, notThere⟩ := List.forall_mem_cons.mp absent
      exact (rest f notThere).trans (frame f notHere)

end Decoding

section Loading

variable {F : Type} {layout : Layout F}

structure Contents (layout : Layout F) where
  data : Data F
  typed : ∀ f, ∀ value ∈ (data f).value, value.type = layout.type f
  single : ∀ f, layout.vector f = false → ∃ value, (data f).value = [value]

theorem load_of_loadAll {type : DatumType} {entries : List AvpContainerEntry} {value : Datum} {values : List Datum}
    (loaded : loadAll type entries = .returned (value :: values)) :
    ∃ e rest, entries = e :: rest ∧ type.load e = .returned value := by
  cases entries with
  | nil => cases loaded
  | cons e rest =>
    obtain ⟨first, here, others⟩ := Outcome.bind_eq_returned.mp loaded
    obtain ⟨more, -, same⟩ := Outcome.bind_eq_returned.mp others
    cases same
    exact ⟨e, rest, rfl, here⟩

def DatumType.blank : DatumType → Datum
  | .text => .text []
  | .word => .word 0
  | .long => .long 0
  | .rule => .rule ⟨.permit, .into, 0, ⟨false, .any, [], 0, []⟩, ⟨false, .any, [], 0, []⟩, false, [], [], false, false, [], []⟩
  | .tunneling => .tunneling ⟨none, none, none, none, none, none, none, none, none⟩
  | .proxyInfo => .proxyInfo ⟨none, none, none⟩

theorem DatumType.type_blank (type : DatumType) : type.blank.type = type := by
  cases type <;> rfl

def Contents.blank (layout : Layout F) : Contents layout where
  data f := ⟨if layout.vector f then [] else [(layout.type f).blank], false⟩
  typed := by
    intro f value member
    cases shape : layout.vector f with
    | true => simp [shape] at member
    | false =>
      simp only [shape, Bool.false_eq_true, if_false, List.mem_singleton] at member
      rw [member]
      exact DatumType.type_blank _
  single := by
    intro f shape
    exact ⟨_, if_neg (by simp [shape])⟩

def Contents.fill [DecidableEq F] (contents : Contents layout) (f : F) (values : List Datum)
    (typed : ∀ value ∈ values, value.type = layout.type f)
    (single : layout.vector f = false → ∃ value, values = [value]) : Contents layout where
  data := Function.update contents.data f (.set values)
  typed := by
    intro g value member
    by_cases same : g = f
    · subst same
      rw [Function.update_self] at member
      exact typed value member
    · rw [Function.update_of_ne same] at member
      exact contents.typed g value member
  single := by
    intro g shape
    by_cases same : g = f
    · subst same
      rw [Function.update_self]
      exact single shape
    · rw [Function.update_of_ne same]
      exact contents.single g shape

def Contents.assign [DecidableEq F] (contents : Contents layout) (f : F) (value : Datum)
    (typed : value.type = layout.type f) : Contents layout :=
  contents.fill f [value] (by simp [typed]) fun _ => ⟨value, rfl⟩

theorem loadAll_of_copyTo (sent : Contents layout) {f : F} {kind : AvpDataType} {entries : List AvpContainerEntry}
    (copied : copyTo kind (sent.data f) = .returned entries) : loadAll (layout.type f) entries = .returned (sent.data f).value := by
  obtain ⟨entries', copied', loaded⟩ := copyTo_storable (storable_of_copyTo copied)
  cases copied.symm.trans copied'
  exact loaded _ (sent.typed f)

theorem copyFrom_of_copyTo (sent : Contents layout) {f : F} {kind : AvpDataType} {entries : List AvpContainerEntry}
    (copied : copyTo kind (sent.data f) = .returned entries) (own : Attribute (List Datum)) :
    copyFrom (layout.vector f) (layout.type f) entries own = .returned
      (if layout.vector f then .set ((sent.data f).value ++ own.value.drop (sent.data f).value.length)
        else .set (sent.data f).value) := by
  have loaded := loadAll_of_copyTo sent copied
  unfold copyFrom
  cases shape : layout.vector f with
  | true => rw [if_pos rfl, if_pos rfl, loaded, Outcome.returned_bind]
  | false =>
    obtain ⟨value, only⟩ := sent.single f shape
    rw [only] at loaded ⊢
    obtain ⟨e, rest, rfl, first⟩ := load_of_loadAll loaded
    simp [first]

def DatumType.matched : DatumType → AvpDataType → Bool
  | .text, .data | .text, .string | .text, .utf8String | .text, .diamId => true
  | .word, .integer32 | .word, .uinteger32 | .word, .enum | .word, .time => true
  | .long, .integer64 | .long, .uinteger64 => true
  | .rule, .ipFilterRule => true
  | .tunneling, .grouped => true
  | _, _ => false

theorem Datum.fits_of_matched {kind : AvpDataType} {d : Datum} (fitting : d.type.matched kind = true) : d.Fits kind := by
  cases d <;> cases kind <;> first | (simp [Datum.Fits]; done) | cases fitting

theorem storable_of_matched (sent : Contents layout) {f : F} {kind : AvpDataType} (fitting : (layout.type f).matched kind = true) :
    Storable kind (sent.data f) := by
  refine ⟨?_, fun d member => Datum.fits_of_matched ?_⟩
  · rintro rfl
    cases type : layout.type f <;> rw [type] at fitting <;> cases fitting
  · rw [sent.typed f d member]
    exact fitting

theorem not_storable_custom (own : Attribute (List Datum)) : ¬Storable .custom own := fun storable => storable.1 rfl

/-- A number of 64 bits has no place in an entry of 32. -/
theorem not_storable_long (sent : Contents layout) {f : F} (type : layout.type f = .long) (single : layout.vector f = false) :
    ¬Storable .uinteger32 (sent.data f) := by
  intro storable
  obtain ⟨value, only⟩ := sent.single f single
  have here : value ∈ (sent.data f).value := only ▸ List.mem_singleton_self _
  have fits := storable.2 value here
  have typed := (sent.typed f value here).trans type
  cases value with
  | long value => simp [Datum.Fits] at fits
  | text | word | rule | tunneling | proxyInfo => cases typed

def Plain (own : Attribute (List Datum)) : Prop :=
  ∀ info, .proxyInfo info ∈ own.value → info.avp = none

theorem storable_proxyInfo_iff (sent : Contents layout) {f : F} (type : layout.type f = .proxyInfo) :
    Storable .grouped (sent.data f) ↔ Plain (sent.data f) := by
  constructor
  · intro storable info member
    exact storable.2 _ member
  · intro plain
    refine ⟨by decide, fun d member => ?_⟩
    have typed := (sent.typed f d member).trans type
    cases d with
    | proxyInfo info => exact plain info member
    | text | word | long | rule | tunneling => cases typed

end Loading

section RoundTrip

variable {F : Type} [DecidableEq F]

/-- `DiameterDictionaryManager::getCommandCode`: the code and the application of a command. -/
abbrev CommandCodes := String → Option (UInt32 × UInt32)

structure Command where
  name : String
  request : Bool

def parseAppToRaw (command : Command) (layout : Layout F) (dm : CommandCodes) (data : Data F) (raw : DiameterMsg) :
    Outcome MessageError DiameterMsg :=
  match dm command.name with
  | none => .thrown .dictionaryError
  | some (code, appId) =>
    encode layout.encoded data >>= fun acl => .returned
      { hdr := ⟨1, 0, command.request, command.request, false, false, code, appId, 0, 0, none⟩, acl := raw.acl ++ acl }

def parseRawToApp (layout : Layout F) (raw : DiameterMsg) (data : Data F) : Outcome MessageError (Data F) :=
  decode layout raw.acl layout.decoded (layout.clear data)

def Same (first second : Attribute (List Datum)) : Prop :=
  first.isSet = second.isSet ∧ (second.isSet = true → first.value = second.value)

instance (first second : Attribute (List Datum)) : Decidable (Same first second) :=
  inferInstanceAs (Decidable (first.isSet = second.isSet ∧ (second.isSet = true → first.value = second.value)))

def RoundTrips (command : Command) (layout : Layout F) (dm : CommandCodes) (compared : F → Prop)
    (sent previous : Contents layout) : Prop :=
  ∃ msg received, parseAppToRaw command layout dm sent.data ⟨.blank, []⟩ = .returned msg ∧
    parseRawToApp layout msg previous.data = .returned received ∧ ∀ f, compared f → Same (received f) (sent.data f)

variable {layout : Layout F}

def Layout.Carried (layout : Layout F) (f : F) : Prop :=
  (∃ row ∈ layout.encoded, row.field = f) ∧ ∃ row ∈ layout.decoded, row.action = .copyFrom f

instance (f : F) : Decidable (layout.Carried f) :=
  inferInstanceAs (Decidable ((∃ row ∈ layout.encoded, row.field = f) ∧ ∃ row ∈ layout.decoded, row.action = .copyFrom f))

def DecodeAction.field : DecodeAction F → Option F
  | .copyFrom f => some f
  | .expect _ => none

structure Layout.Sound (layout : Layout F) : Prop where
  names : (layout.encoded.map EncodeRow.avpName).Nodup
  once : (layout.decoded.filterMap fun row => row.action.field).Nodup
  paired : ∀ row ∈ layout.decoded, ∀ f ∈ row.action.field, ∀ sent ∈ layout.encoded,
    sent.avpName = row.avpName ↔ sent.field = f

omit [DecidableEq F] in
theorem DecodeAction.field_eq_some {action : DecodeAction F} {f : F} (copies : action = .copyFrom f) : f ∈ action.field := by
  rw [copies]
  rfl

omit [DecidableEq F] in
theorem Layout.Sound.apart (sound : layout.Sound) :
    layout.decoded.Pairwise fun first second => ∀ f, first.action = .copyFrom f → second.action ≠ .copyFrom f :=
  (List.pairwise_filterMap.mp sound.once).imp fun distinct f left right =>
    distinct f (DecodeAction.field_eq_some left) f (DecodeAction.field_eq_some right) rfl

def Layout.transferred (layout : Layout F) (sent previous : Data F) (f : F) : Attribute (List Datum) :=
  let own := layout.clear previous f
  if layout.Carried f ∧ (sent f).isSet = true then
    if layout.vector f then .set ((sent f).value ++ own.value.drop (sent f).value.length) else .set (sent f).value
  else own

def Expected (layout : Layout F) (sent : Data F) : Prop :=
  ∀ row ∈ layout.decoded, ∀ value, row.action = .expect value →
    ∀ own ∈ layout.encoded, own.avpName = row.avpName → (sent own.field).isSet = true → (sent own.field).value = [.word value]

theorem decode_encoded (sound : layout.Sound) (sent : Contents layout) (expected : Expected layout sent.data) {acl : AvpContainerList}
    (encoded : encode layout.encoded sent.data = .returned acl) (previous : Data F) :
    decode layout acl layout.decoded (layout.clear previous) = .returned (layout.transferred sent.data previous) := by
  obtain ⟨found, missing⟩ := encode_spec encoded sound.names
  -- A row finds the container of its own attribute, or nothing.
  have delivers : ∀ row ∈ layout.decoded, ∀ f, row.action = .copyFrom f →
      Delivers layout acl f (layout.clear previous f) (layout.transferred sent.data previous f) row.avpName := by
    intro row member f action
    have own := sound.paired row member f (DecodeAction.field_eq_some action)
    unfold Delivers Layout.transferred
    by_cases carried : layout.Carried f ∧ (sent.data f).isSet = true
    · obtain ⟨⟨⟨out, listed, rfl⟩, -⟩, isSet⟩ := id carried
      obtain ⟨entries, copied, search⟩ := found out listed isSet
      rw [← (own out listed).mpr rfl, search]
      dsimp only
      rw [if_pos carried]
      exact copyFrom_of_copyTo sent copied _
    · have absent : searchContainer acl row.avpName = none := by
        refine missing _ fun out listed named => ?_
        have field := (own out listed).mp named
        have unset : ¬(sent.data f).isSet = true := fun isSet => carried ⟨⟨⟨out, listed, field⟩, row, member, action⟩, isSet⟩
        rw [field]
        exact Bool.eq_false_iff.mpr unset
      rw [absent]
      dsimp only
      rw [if_neg carried]
  have reads : ∀ row ∈ layout.decoded, row.Reads layout acl (layout.clear previous) := by
    intro row member
    unfold DecodeRow.Reads
    cases action : row.action with
    | copyFrom f => exact ⟨_, delivers row member f action⟩
    | expect value =>
      intro c search
      by_cases out : ∃ own ∈ layout.encoded, own.avpName = row.avpName ∧ (sent.data own.field).isSet = true
      · obtain ⟨own, listed, named, isSet⟩ := out
        have only := expected row member value action own listed named isSet
        obtain ⟨entries, copied, same⟩ := found own listed isSet
        rw [← named, same] at search
        cases search
        have loaded := loadAll_of_copyTo sent copied
        have type : layout.type own.field = .word :=
          (sent.typed own.field (.word value) (only ▸ List.mem_singleton_self _)).symm
        rw [type, only] at loaded
        obtain ⟨e, rest, shape, first⟩ := load_of_loadAll loaded
        obtain ⟨value', word, same'⟩ := Outcome.bind_eq_returned.mp first
        cases same'
        exact ⟨e, rest, shape, word⟩
      · have absent : searchContainer acl row.avpName = none := by
          refine missing _ fun own listed named => ?_
          exact Bool.eq_false_iff.mpr fun isSet => out ⟨own, listed, named, isSet⟩
        rw [absent] at search
        cases search
  obtain ⟨result, decoded, own, rest⟩ := decode_spec reads sound.apart
  have same : result = layout.transferred sent.data previous := by
    funext f
    by_cases read : ∃ row ∈ layout.decoded, row.action = .copyFrom f
    · obtain ⟨row, member, action⟩ := read
      have left := own row member f action
      have right := delivers row member f action
      unfold Delivers at left right
      cases search : searchContainer acl row.avpName with
      | none =>
        rw [search] at left right
        exact left.trans right.symm
      | some c =>
        rw [search] at left right
        exact Outcome.returned.inj (left.symm.trans right)
    · rw [rest f fun row member action => read ⟨row, member, action⟩, Layout.transferred, if_neg fun carried => read carried.1.2]
  rw [decoded, same]

omit [DecidableEq F] in
theorem parseAppToRaw_returned_iff {command : Command} {dm : CommandCodes} {data : Data F} {raw msg : DiameterMsg} :
    parseAppToRaw command layout dm data raw = .returned msg ↔
      ∃ code appId acl, dm command.name = some (code, appId) ∧ encode layout.encoded data = .returned acl ∧
        msg = ⟨⟨1, 0, command.request, command.request, false, false, code, appId, 0, 0, none⟩, raw.acl ++ acl⟩ := by
  unfold parseAppToRaw
  cases found : dm command.name with
  | none => simp
  | some ids =>
    simp only [Outcome.bind_eq_returned, Option.some.injEq, Outcome.returned.injEq]
    constructor
    · rintro ⟨acl, encoded, same⟩
      exact ⟨_, _, acl, rfl, encoded, same.symm⟩
    · rintro ⟨code, appId, acl, rfl, encoded, rfl⟩
      exact ⟨acl, encoded, rfl⟩

theorem roundTrips_iff_transferred {command : Command} {dm : CommandCodes} {compared : F → Prop} {sent previous : Contents layout}
    (sound : layout.Sound) (expected : Expected layout sent.data) :
    RoundTrips command layout dm compared sent previous ↔ (dm command.name).isSome ∧
      (∀ row ∈ layout.encoded, (sent.data row.field).isSet = true → Storable row.kind (sent.data row.field)) ∧
      ∀ f, compared f → Same (layout.transferred sent.data previous.data f) (sent.data f) := by
  rw [← encode_returned_iff]
  constructor
  · rintro ⟨msg, received, built, parsed, same⟩
    obtain ⟨code, appId, acl, found, encoded, rfl⟩ := parseAppToRaw_returned_iff.mp built
    have decoded := decode_encoded sound sent expected encoded previous.data
    cases decoded.symm.trans parsed
    exact ⟨by rw [found]; rfl, ⟨acl, encoded⟩, same⟩
  · rintro ⟨known, ⟨acl, encoded⟩, same⟩
    obtain ⟨⟨code, appId⟩, found⟩ := Option.isSome_iff_exists.mp known
    refine ⟨_, layout.transferred sent.data previous.data,
      parseAppToRaw_returned_iff.mpr ⟨code, appId, acl, found, encoded, rfl⟩, ?_, same⟩
    rw [parseRawToApp]
    exact decode_encoded sound sent expected encoded previous.data

/-- What of one attribute the receiver must not have had before, and the sender must not send. -/
def Survives (layout : Layout F) (sent previous : Data F) (f : F) : Prop :=
  if layout.Carried f then
    f ∈ layout.cleared ∨
      if (sent f).isSet then layout.vector f = true → (previous f).value.length ≤ (sent f).value.length
      else (previous f).isSet = false
  else if f ∈ layout.cleared then (sent f).isSet = false
  else Same (previous f) (sent f)

theorem same_set_iff (first : List Datum) (second : Attribute (List Datum)) (isSet : second.isSet = true) :
    Same (.set first) second ↔ first = second.value := by
  simp [Same, Attribute.set, isSet]

theorem same_unset_iff (first second : Attribute (List Datum)) (unset : second.isSet = false) :
    Same first second ↔ first.isSet = false := by
  simp [Same, unset]

theorem clear_of_cleared {f : F} (cleared : f ∈ layout.cleared) (previous : Data F) :
    (layout.clear previous f).isSet = false ∧ (layout.vector f = true → (layout.clear previous f).value = []) := by
  unfold Layout.clear
  rw [if_pos cleared]
  cases shape : layout.vector f with
  | true => exact ⟨rfl, fun _ => rfl⟩
  | false => exact ⟨rfl, fun vector => Bool.noConfusion vector⟩

theorem clear_of_kept {f : F} (kept : f ∉ layout.cleared) (previous : Data F) : layout.clear previous f = previous f :=
  if_neg kept

theorem same_transferred_iff (sent previous : Data F) (f : F) :
    Same (layout.transferred sent previous f) (sent f) ↔ Survives layout sent previous f := by
  unfold Survives Layout.transferred
  by_cases carried : layout.Carried f
  case neg =>
    rw [if_neg fun both => carried both.1, if_neg carried]
    by_cases cleared : f ∈ layout.cleared
    case neg => rw [if_neg cleared, clear_of_kept cleared]
    case pos =>
      obtain ⟨unset, -⟩ := clear_of_cleared cleared previous
      rw [if_pos cleared]
      cases isSet : (sent f).isSet <;> simp [Same, isSet, unset]
  case pos =>
    rw [if_pos carried]
    cases isSet : (sent f).isSet with
    | false =>
      rw [if_neg fun both => Bool.false_ne_true both.2, if_neg Bool.false_ne_true, same_unset_iff _ _ isSet]
      by_cases cleared : f ∈ layout.cleared
      · simp [cleared, (clear_of_cleared cleared previous).1]
      · simp [cleared, clear_of_kept cleared]
    | true =>
      rw [if_pos ⟨carried, rfl⟩, if_pos rfl]
      cases shape : layout.vector f with
      | false => simp [same_set_iff _ _ isSet]
      | true =>
        rw [if_pos rfl, same_set_iff _ _ isSet, List.append_right_eq_self, List.drop_eq_nil_iff]
        by_cases cleared : f ∈ layout.cleared
        · simp [cleared, (clear_of_cleared cleared previous).2 shape]
        · simp [cleared, clear_of_kept cleared]

theorem survives_cleared {sent previous : Data F} {f : F} (carried : layout.Carried f) (cleared : f ∈ layout.cleared) :
    Survives layout sent previous f := by
  rw [Survives, if_pos carried]
  exact .inl cleared

theorem survives_dropped_iff {sent previous : Data F} {f : F} (dropped : ¬layout.Carried f) (cleared : f ∈ layout.cleared) :
    Survives layout sent previous f ↔ (sent f).isSet = false := by
  rw [Survives, if_neg dropped, if_pos cleared]

theorem survives_unread_iff {sent previous : Data F} {f : F} (dropped : ¬layout.Carried f) (kept : f ∉ layout.cleared) :
    Survives layout sent previous f ↔ Same (previous f) (sent f) := by
  rw [Survives, if_neg dropped, if_neg kept]

theorem survives_kept_iff {sent previous : Data F} {f : F} (carried : layout.Carried f) (kept : f ∉ layout.cleared) :
    Survives layout sent previous f ↔
      if (sent f).isSet then layout.vector f = true → (previous f).value.length ≤ (sent f).value.length
      else (previous f).isSet = false := by
  rw [Survives, if_pos carried]
  exact or_iff_right kept

/-- Exactly when the compared attributes come through. -/
theorem roundTrips_iff {command : Command} {dm : CommandCodes} {compared : F → Prop} {sent previous : Contents layout}
    (sound : layout.Sound) (expected : Expected layout sent.data) :
    RoundTrips command layout dm compared sent previous ↔ (dm command.name).isSome ∧
      (∀ row ∈ layout.encoded, (sent.data row.field).isSet = true → Storable row.kind (sent.data row.field)) ∧
      ∀ f, compared f → Survives layout sent.data previous.data f := by
  rw [roundTrips_iff_transferred sound expected]
  simp only [same_transferred_iff]

end RoundTrip

end OpenDiameter.Access
