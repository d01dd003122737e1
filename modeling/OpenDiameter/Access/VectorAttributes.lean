import OpenDiameter.Access.Attributes
import OpenDiameter.Foundation.Lists

/-! Attributes with any number of values, copied from a container and into one.

The copy from a container makes the attribute longer where it has to, never shorter, and
then assigns the elements one by one; an element that is a group keeps the members that
its entry does not have.
-/

set_option autoImplicit false

namespace OpenDiameter.Access

open Foundation OpenDiameter.Parser

section Copies

structure VectorAttribute (α : Type) where
  elements : List α
  isSet : Bool
  deriving DecidableEq, Repr

/-- How the elements of an attribute are copied: what `resize` adds, the assignment from an
entry, what `CopyTo` acquires before its loop, and the entry that it makes of an element. -/
structure ElementKind (α : Type) where
  fresh : α
  into : α → AvpContainerEntry → Outcome MessageError α
  acquire : Outcome MessageError Unit
  store : α → Outcome MessageError AvpContainerEntry

def plainKind {α : Type} (fresh : α) (load : AvpContainerEntry → Outcome MessageError α)
    (acquire : Outcome MessageError Unit) (store : α → Outcome MessageError AvpContainerEntry) : ElementKind α where
  fresh := fresh
  into _ e := load e
  acquire := acquire
  store := store

def groupedKind {α : Type} (fresh : α) (copyFrom : α → AvpContainerList → Outcome MessageError α)
    (copyTo : α → Outcome MessageError AvpContainerList) : ElementKind α where
  fresh := fresh
  into old e := loadGroup e >>= fun cl => copyFrom old cl
  acquire := .returned ()
  store value := copyTo value >>= fun acl => .returned (.grouped acl)

variable {α : Type}

/-- `if (size() < count) resize(count)`. -/
def resize (fresh : α) (count : Nat) (elements : List α) : List α :=
  if elements.length < count then elements ++ List.replicate (count - elements.length) fresh else elements

namespace ElementKind

variable (kind : ElementKind α)

def copyLoop : List AvpContainerEntry → Nat → List α → Outcome MessageError (List α)
  | [], _, elements => .returned elements
  | e :: rest, i, elements =>
    match elements[i]? with
    | none => .fault
    | some old => kind.into old e >>= fun new => copyLoop rest (i + 1) (elements.set i new)

def storeLoop : List α → Outcome MessageError (List AvpContainerEntry)
  | [] => .returned []
  | value :: values => kind.store value >>= fun e => storeLoop values >>= fun entries => .returned (e :: entries)

end ElementKind

def VectorAttribute.copyFrom (kind : ElementKind α) (vector : VectorAttribute α) (cont : List AvpContainerEntry) :
    Outcome MessageError (VectorAttribute α) :=
  kind.copyLoop cont 0 (resize kind.fresh cont.length vector.elements) >>= fun elements => .returned ⟨elements, true⟩

def VectorAttribute.copyTo (kind : ElementKind α) (vector : VectorAttribute α) : Outcome MessageError (List AvpContainerEntry) :=
  kind.acquire >>= fun _ => kind.storeLoop vector.elements

/-- What a member of a group says: how its AVPs were bound to a rule does not matter. -/
def content (c : AvpContainer AvpContainerEntry) : String × List AvpContainerEntry := (c.avpName, c.entries)

def Alike : AvpContainerEntry → AvpContainerEntry → Prop
  | .grouped acl, .grouped acl' => (acl.map content).Perm (acl'.map content)
  | e, e' => e = e'

def Values (kind : ElementKind α) (cont : List AvpContainerEntry) (values : List α) : Prop :=
  List.Forall₂ (fun e value => kind.into kind.fresh e = .returned value) cont values

def Replaces (kind : ElementKind α) (vector : VectorAttribute α) (cont : List AvpContainerEntry) : Prop :=
  ∃ values, Values kind cont values ∧ vector.copyFrom kind cont = .returned ⟨values, true⟩ ∧
    ∃ cont', (VectorAttribute.mk values true).copyTo kind = .returned cont' ∧ List.Forall₂ Alike cont' cont

def Writes (kind : ElementKind α) (e : AvpContainerEntry) : Prop :=
  ∃ value e', kind.into kind.fresh e = .returned value ∧ kind.store value = .returned e' ∧ Alike e' e

end Copies

section Loops

variable {α : Type} {kind : ElementKind α}

def overlay (kind : ElementKind α) : List α → List AvpContainerEntry → Outcome MessageError (List α)
  | olds, [] => .returned olds
  | [], _ :: _ => .fault
  | old :: olds, e :: rest => kind.into old e >>= fun new => overlay kind olds rest >>= fun news => .returned (new :: news)

theorem copyLoop_append (before olds : List α) (cont : List AvpContainerEntry) :
    kind.copyLoop cont before.length (before ++ olds) = overlay kind olds cont >>= fun news => .returned (before ++ news) := by
  induction cont generalizing before olds with
  | nil => cases olds <;> rfl
  | cons e rest ih =>
    cases olds with
    | nil =>
      rw [ElementKind.copyLoop, List.append_nil, List.getElem?_eq_none (Nat.le_refl _)]
      rfl
    | cons old olds =>
      have here : (before ++ old :: olds)[before.length]? = some old := by simp
      rw [ElementKind.copyLoop, here]
      dsimp only [overlay]
      cases into : kind.into old e with
      | returned new =>
        have assigned : (before ++ old :: olds).set before.length new = (before ++ [new]) ++ olds := by simp
        have next := ih (before ++ [new]) olds
        rw [List.length_append, List.length_singleton] at next
        rw [Outcome.returned_bind, assigned, next, Outcome.returned_bind]
        cases overlay kind olds rest with
        | returned news => simp
        | thrown error => rfl
        | escaped => rfl
        | fault => rfl
      | thrown error => rfl
      | escaped => rfl
      | fault => rfl

theorem copyFrom_eq (vector : VectorAttribute α) (cont : List AvpContainerEntry) :
    vector.copyFrom kind cont =
      overlay kind (resize kind.fresh cont.length vector.elements) cont >>= fun elements => .returned ⟨elements, true⟩ := by
  have loop := @copyLoop_append α kind [] (resize kind.fresh cont.length vector.elements) cont
  simp only [List.length_nil, List.nil_append] at loop
  rw [VectorAttribute.copyFrom, loop, Outcome.bind_returned]

theorem overlay_fresh {cont : List AvpContainerEntry} {values : List α} (taken : Values kind cont values) :
    overlay kind (List.replicate cont.length kind.fresh) cont = .returned values := by
  induction taken with
  | nil => rfl
  | cons entry _ ih =>
    rw [List.length_cons, List.replicate_succ, overlay, entry, Outcome.returned_bind, ih]
    rfl

theorem overlay_resize_iff {cont : List AvpContainerEntry} {values : List α} (taken : Values kind cont values) (olds : List α) :
    overlay kind (resize kind.fresh cont.length olds) cont = .returned values ↔
      olds.length ≤ cont.length ∧
        ∀ (i : Nat) (old : α) (e : AvpContainerEntry), olds[i]? = some old → cont[i]? = some e → kind.into old e = kind.into kind.fresh e := by
  induction taken generalizing olds with
  | nil =>
    cases olds with
    | nil => exact iff_of_true rfl ⟨Nat.le_refl _, fun i old e found => by cases found⟩
    | cons old olds =>
      refine iff_of_false ?_ fun ⟨within, _⟩ => absurd within (by simp)
      simp [resize, overlay]
  | @cons e value cont values entry taken ih =>
    cases olds with
    | nil =>
      have fresh : overlay kind (resize kind.fresh (e :: cont).length []) (e :: cont) = .returned (value :: values) :=
        overlay_fresh (.cons entry taken)
      exact iff_of_true fresh ⟨Nat.zero_le _, fun i old e' found => by cases found⟩
    | cons old olds =>
      have resized : resize kind.fresh (e :: cont).length (old :: olds) = old :: resize kind.fresh cont.length olds := by
        by_cases shorter : olds.length < cont.length <;> simp [resize, shorter]
      have first : overlay kind (old :: resize kind.fresh cont.length olds) (e :: cont) = .returned (value :: values) ↔
          kind.into old e = kind.into kind.fresh e ∧ overlay kind (resize kind.fresh cont.length olds) cont = .returned values := by
        rw [overlay, entry, Outcome.bind_eq_returned]
        constructor
        · rintro ⟨new, assigned, rest⟩
          obtain ⟨news, later, same⟩ := Outcome.bind_eq_returned.mp rest
          cases same
          exact ⟨assigned, later⟩
        · rintro ⟨assigned, later⟩
          exact ⟨value, assigned, by rw [later]; rfl⟩
      rw [resized, first, ih olds, List.length_cons, List.length_cons, Nat.add_le_add_iff_right]
      constructor
      · rintro ⟨assigned, within, each⟩
        refine ⟨within, fun i old' e' found at' => ?_⟩
        cases i with
        | zero =>
          cases found
          cases at'
          exact assigned
        | succ i => exact each i old' e' found at'
      · rintro ⟨within, each⟩
        exact ⟨each 0 old e rfl rfl, within, fun i old' e' => each (i + 1) old' e'⟩

theorem storeLoop_returned_iff {values : List α} {cont : List AvpContainerEntry} :
    kind.storeLoop values = .returned cont ↔ List.Forall₂ (fun value e => kind.store value = .returned e) values cont := by
  induction values generalizing cont with
  | nil =>
    rw [ElementKind.storeLoop, List.forall₂_nil_left_iff, Outcome.returned.injEq, eq_comm]
  | cons value values ih =>
    rw [ElementKind.storeLoop, List.forall₂_cons_left_iff, Outcome.bind_eq_returned]
    constructor
    · rintro ⟨e, stored, rest⟩
      obtain ⟨entries, later, same⟩ := Outcome.bind_eq_returned.mp rest
      cases same
      exact ⟨e, entries, stored, ih.mp later, rfl⟩
    · rintro ⟨e, entries, stored, later, rfl⟩
      exact ⟨e, stored, by rw [ih.mpr later]; rfl⟩

theorem writes_of_back {values : List α} {cont cont' : List AvpContainerEntry} (taken : Values kind cont values)
    (stored : List.Forall₂ (fun value e => kind.store value = .returned e) values cont')
    (alike : List.Forall₂ Alike cont' cont) : ∀ e ∈ cont, Writes kind e := by
  induction taken generalizing cont' with
  | nil => exact List.forall_mem_nil _
  | @cons e value cont values entry _ ih =>
    obtain ⟨e', rest, own, later, rfl⟩ := List.forall₂_cons_left_iff.mp stored
    obtain ⟨first, others⟩ := List.forall₂_cons.mp alike
    exact List.forall_mem_cons.mpr ⟨⟨value, e', entry, own, first⟩, ih later others⟩

theorem back_of_writes {cont : List AvpContainerEntry} (writes : ∀ e ∈ cont, Writes kind e) :
    ∃ values cont', Values kind cont values ∧
      List.Forall₂ (fun value e => kind.store value = .returned e) values cont' ∧ List.Forall₂ Alike cont' cont := by
  induction cont with
  | nil => exact ⟨[], [], .nil, .nil, .nil⟩
  | cons e cont ih =>
    obtain ⟨⟨value, e', entry, own, first⟩, rest⟩ := List.forall_mem_cons.mp writes
    obtain ⟨values, cont', taken, stored, alike⟩ := ih rest
    exact ⟨value :: values, e' :: cont', .cons entry taken, .cons own stored, .cons first alike⟩

theorem replaces_iff (vector : VectorAttribute α) (cont : List AvpContainerEntry) :
    Replaces kind vector cont ↔
      kind.acquire = .returned () ∧ vector.elements.length ≤ cont.length ∧ (∀ e ∈ cont, Writes kind e) ∧
        ∀ (i : Nat) (old : α) (e : AvpContainerEntry),
          vector.elements[i]? = some old → cont[i]? = some e → kind.into old e = kind.into kind.fresh e := by
  -- The copy lays the entries over the old elements, as many of them as there are entries.
  have copied (values : List α) : vector.copyFrom kind cont = .returned ⟨values, true⟩ ↔
      overlay kind (resize kind.fresh cont.length vector.elements) cont = .returned values := by
    rw [copyFrom_eq, Outcome.bind_eq_returned]
    constructor
    · rintro ⟨elements, assigned, same⟩
      cases same
      exact assigned
    · intro assigned
      exact ⟨values, assigned, rfl⟩
  constructor
  · rintro ⟨values, taken, exact', cont', back, alike⟩
    obtain ⟨nothing, acquired, written⟩ := Outcome.bind_eq_returned.mp back
    obtain ⟨within, each⟩ := (overlay_resize_iff taken _).mp ((copied values).mp exact')
    exact ⟨acquired, within, writes_of_back taken (storeLoop_returned_iff.mp written) alike, each⟩
  · rintro ⟨acquired, within, writes, each⟩
    obtain ⟨values, cont', taken, stored, alike⟩ := back_of_writes writes
    refine ⟨values, taken, (copied values).mpr ((overlay_resize_iff taken _).mpr ⟨within, each⟩), cont', ?_, alike⟩
    rw [VectorAttribute.copyTo, acquired, Outcome.returned_bind]
    exact storeLoop_returned_iff.mpr stored

end Loops

section Groups

def entryKind : AvpContainerEntry → AvpDataType
  | .data _ => .data
  | .string _ => .string
  | .ipAddress .. => .ipAddress
  | .integer32 _ => .integer32
  | .integer64 _ => .integer64
  | .uinteger32 _ => .uinteger32
  | .uinteger64 _ => .uinteger64
  | .utf8String _ => .utf8String
  | .enum _ => .enum
  | .diamId _ => .diamId
  | .diamUri _ => .diamUri
  | .grouped _ => .grouped
  | .time _ => .time
  | .ipFilterRule _ => .ipFilterRule

def Fits (members : List (String × AvpDataType)) (c : AvpContainer AvpContainerEntry) : Prop :=
  ∃ member ∈ members, c.avpName = member.1 ∧ ∃ e, c.entries = [e] ∧ entryKind e = member.2

structure Group (members : List (String × AvpDataType)) (acl : AvpContainerList) : Prop where
  once : (acl.map AvpContainer.avpName).Nodup
  fits : ∀ c ∈ acl, Fits members c

def Tunneling.members : List (String × AvpDataType) :=
  [("Tunnel-Type", .enum), ("Tunnel-Medium-Type", .enum), ("Tunnel-Client-Endpoint", .utf8String),
    ("Tunnel-Server-Endpoint", .utf8String), ("Tunnel-Preference", .uinteger32), ("Tunnel-Client-Auth-Id", .uinteger32),
    ("Tunnel-Server-Auth-Id", .uinteger32), ("Tunnel-Password", .string), ("Tunnel-Private-Group-Id", .utf8String)]

/-- Without the `AVP` for which no entry is registered. -/
def ProxyInfo.members : List (String × AvpDataType) := [("Proxy-Host", .diamId), ("Proxy-State", .string)]

/-- A member that has no container keeps its value. -/
def Tunneling.over (old new : Tunneling) : Tunneling where
  tunnelType := new.tunnelType.or old.tunnelType
  tunnelMediumType := new.tunnelMediumType.or old.tunnelMediumType
  tunnelClientEndpoint := new.tunnelClientEndpoint.or old.tunnelClientEndpoint
  tunnelServerEndpoint := new.tunnelServerEndpoint.or old.tunnelServerEndpoint
  tunnelPreference := new.tunnelPreference.or old.tunnelPreference
  tunnelClientAuthId := new.tunnelClientAuthId.or old.tunnelClientAuthId
  tunnelServerAuthId := new.tunnelServerAuthId.or old.tunnelServerAuthId
  tunnelPassword := new.tunnelPassword.or old.tunnelPassword
  tunnelPrivateGroupId := new.tunnelPrivateGroupId.or old.tunnelPrivateGroupId

def Tunneling.fresh : Tunneling := ⟨none, none, none, none, none, none, none, none, none⟩

/-- `tunneling_t::CopyFrom`, into a structure with any values. -/
def Tunneling.copyInto (old : Tunneling) (cl : AvpContainerList) : Outcome MessageError Tunneling :=
  Tunneling.copyFrom cl >>= fun new => .returned (old.over new)

def tunnelingKind : ElementKind Tunneling := groupedKind .fresh Tunneling.copyInto Tunneling.copyTo

def ProxyInfo.fresh : ProxyInfo := ⟨none, none, none⟩

/-- `proxyinfo_t::CopyFrom`, into a structure with any values. -/
def ProxyInfo.copyInto (old : ProxyInfo) (cl : AvpContainerList) : Outcome MessageError ProxyInfo := do
  let proxyHost ← scalarFrom cl "Proxy-Host" loadText
  let proxyState ← scalarFrom cl "Proxy-State" loadText
  match searchContainer cl "AVP" with
  | none => return ⟨proxyHost.or old.proxyHost, proxyState.or old.proxyState, old.avp⟩
  | some cont =>
    let avp ← (plainKind [] loadText .escaped fun _ => .escaped).copyLoop cont.entries 0
      (resize [] cont.entries.length (old.avp.getD []))
    return ⟨proxyHost.or old.proxyHost, proxyState.or old.proxyState, some avp⟩

def proxyInfoKind : ElementKind ProxyInfo := groupedKind .fresh ProxyInfo.copyInto ProxyInfo.copyTo

def setNames (members : List (String × Bool)) : List String := (members.filter Prod.snd).map Prod.fst

def Tunneling.names (t : Tunneling) : List String :=
  setNames [("Tunnel-Type", t.tunnelType.isSome), ("Tunnel-Medium-Type", t.tunnelMediumType.isSome),
    ("Tunnel-Client-Endpoint", t.tunnelClientEndpoint.isSome), ("Tunnel-Server-Endpoint", t.tunnelServerEndpoint.isSome),
    ("Tunnel-Preference", t.tunnelPreference.isSome), ("Tunnel-Client-Auth-Id", t.tunnelClientAuthId.isSome),
    ("Tunnel-Server-Auth-Id", t.tunnelServerAuthId.isSome), ("Tunnel-Password", t.tunnelPassword.isSome),
    ("Tunnel-Private-Group-Id", t.tunnelPrivateGroupId.isSome)]

def ProxyInfo.names (p : ProxyInfo) : List String :=
  setNames [("Proxy-Host", p.proxyHost.isSome), ("Proxy-State", p.proxyState.isSome), ("AVP", p.avp.isSome)]

section Members

variable {members : List (String × AvpDataType)} {acl acl' : AvpContainerList}

theorem Group.of_perm (group : Group members acl') (alike : (acl'.map content).Perm (acl.map content)) : Group members acl := by
  have names (l : AvpContainerList) : l.map AvpContainer.avpName = (l.map content).map Prod.fst := by
    rw [List.map_map]
    rfl
  constructor
  · rw [names, ← (alike.map Prod.fst).nodup_iff, ← names]
    exact group.once
  · intro c inside
    obtain ⟨c', inside', same⟩ := List.mem_map.mp (alike.mem_iff.mpr (List.mem_map_of_mem inside))
    obtain ⟨member, listed, named, e, entries, kind⟩ := group.fits c' inside'
    injection same with sameName sameEntries
    exact ⟨member, listed, sameName.symm.trans named, e, sameEntries.symm.trans entries, kind⟩

theorem Group.nil : Group members [] := ⟨List.nodup_nil, List.forall_mem_nil _⟩

theorem Group.scalar {α : Type} (group : Group members acl) (name : String) (kind : AvpDataType)
    (entry : α → AvpContainerEntry) (value : Option α) (typed : ∀ v, entryKind (entry v) = kind)
    (fresh : name ∉ members.map Prod.fst) :
    Group ((name, kind) :: members) (scalarContainer name entry value ++ acl) := by
  have others : ∀ c ∈ acl, Fits ((name, kind) :: members) c := by
    intro c inside
    obtain ⟨member, listed, rest⟩ := group.fits c inside
    exact ⟨member, List.mem_cons_of_mem _ listed, rest⟩
  have absent : name ∉ acl.map AvpContainer.avpName := by
    intro named
    obtain ⟨c, inside, same⟩ := List.mem_map.mp named
    obtain ⟨member, listed, named, -⟩ := group.fits c inside
    exact fresh (List.mem_map.mpr ⟨member, listed, named.symm.trans same⟩)
  cases value with
  | none => exact ⟨group.once, others⟩
  | some v =>
    exact ⟨List.nodup_cons.mpr ⟨absent, group.once⟩,
      List.forall_mem_cons.mpr ⟨⟨_, List.mem_cons_self, rfl, entry v, rfl, typed v⟩, others⟩⟩

theorem search_of_mem (once : (acl.map AvpContainer.avpName).Nodup) {c : AvpContainer AvpContainerEntry} (inside : c ∈ acl) :
    searchContainer acl c.avpName = some c := by
  induction acl with
  | nil => cases inside
  | cons first rest ih =>
    obtain ⟨fresh, once⟩ := List.nodup_cons.mp once
    rcases List.mem_cons.mp inside with rfl | inside
    · exact List.find?_cons_of_pos (beq_self_eq_true _)
    · have differ : ¬(first.avpName == c.avpName) = true := fun same =>
        fresh (List.mem_map.mpr ⟨c, inside, (beq_iff_eq.mp same).symm⟩)
      exact (List.find?_cons_of_neg (p := fun own : AvpContainer AvpContainerEntry => own.avpName == c.avpName) differ).trans (ih once inside)

theorem search_some {name : String} {c : AvpContainer AvpContainerEntry} (found : searchContainer acl name = some c) :
    c ∈ acl ∧ c.avpName = name :=
  ⟨List.mem_of_find?_eq_some found, beq_iff_eq.mp (List.find?_some (p := fun own : AvpContainer AvpContainerEntry => own.avpName == name) found)⟩

theorem Group.searched (group : Group members acl) (distinct : (members.map Prod.fst).Nodup) :
    ((members.map Prod.fst).filterMap (searchContainer acl)).Perm acl := by
  have apart (name name' : String) (c : AvpContainer AvpContainerEntry) (found : c ∈ searchContainer acl name)
      (found' : c ∈ searchContainer acl name') : name = name' :=
    (search_some found).2.symm.trans (search_some found').2
  refine (List.perm_ext_iff_of_nodup (distinct.filterMap apart) (List.Nodup.of_map _ group.once)).mpr fun c => ?_
  rw [List.mem_filterMap]
  constructor
  · rintro ⟨name, -, found⟩
    exact (search_some found).1
  · intro inside
    obtain ⟨member, listed, named, -⟩ := group.fits c inside
    exact ⟨c.avpName, List.mem_map.mpr ⟨member, listed, named.symm⟩, search_of_mem group.once inside⟩

theorem Group.scalarFrom_eq {α : Type} {name : String} {kind : AvpDataType} {load : AvpContainerEntry → Outcome MessageError α}
    {entry : α → AvpContainerEntry} (group : Group members acl) (distinct : (members.map Prod.fst).Nodup)
    (listed : (name, kind) ∈ members) (typed : ∀ e, entryKind e = kind → ∃ v, e = entry v ∧ load e = .returned v) :
    ∃ value, scalarFrom acl name load = .returned value ∧
      (scalarContainer name entry value).map content = (searchContainer acl name).toList.map content := by
  cases found : searchContainer acl name with
  | none => exact ⟨none, by rw [scalarFrom, found], rfl⟩
  | some c =>
    obtain ⟨inside, rfl⟩ := search_some found
    obtain ⟨member, listed', named, e, entries, kind'⟩ := group.fits c inside
    have same : (c.avpName, kind) = member := (List.inj_on_of_nodup_map distinct) listed listed' named
    obtain ⟨v, rfl, loaded⟩ := typed e (kind'.trans (congrArg Prod.snd same).symm)
    refine ⟨some v, ?_, ?_⟩
    · rw [scalarFrom, found]
      dsimp only
      rw [entries]
      dsimp only
      rw [loaded]
      rfl
    · simp only [scalarContainer, Option.map_some, Option.toList_some, List.map_cons, List.map_nil, content, entries]

end Members

section Tunnels

def Tunneling.containers (t : Tunneling) : AvpContainerList :=
  scalarContainer "Tunnel-Type" .enum t.tunnelType ++ (scalarContainer "Tunnel-Medium-Type" .enum t.tunnelMediumType ++
    (scalarContainer "Tunnel-Client-Endpoint" .utf8String t.tunnelClientEndpoint ++
    (scalarContainer "Tunnel-Server-Endpoint" .utf8String t.tunnelServerEndpoint ++
    (scalarContainer "Tunnel-Preference" .uinteger32 t.tunnelPreference ++
    (scalarContainer "Tunnel-Client-Auth-Id" .uinteger32 t.tunnelClientAuthId ++
    (scalarContainer "Tunnel-Server-Auth-Id" .uinteger32 t.tunnelServerAuthId ++
    (scalarContainer "Tunnel-Password" .string t.tunnelPassword ++
    scalarContainer "Tunnel-Private-Group-Id" .utf8String t.tunnelPrivateGroupId)))))))

theorem Tunneling.copyTo_eq (t : Tunneling) : (t.copyTo : Outcome MessageError _) = .returned t.containers := by
  have enum : ∀ v, (storeWord .enum v : Outcome MessageError _) = .returned (.enum v) := fun _ => rfl
  have word : ∀ v, (storeWord .uinteger32 v : Outcome MessageError _) = .returned (.uinteger32 v) := fun _ => rfl
  have utf8 : ∀ v, (storeText .utf8String v : Outcome MessageError _) = .returned (.utf8String v) := fun _ => rfl
  have text : ∀ v, (storeText .string v : Outcome MessageError _) = .returned (.string v) := fun _ => rfl
  unfold Tunneling.copyTo
  rw [scalarTo_of_returned enum, scalarTo_of_returned enum, scalarTo_of_returned utf8, scalarTo_of_returned utf8,
    scalarTo_of_returned word, scalarTo_of_returned word, scalarTo_of_returned word, scalarTo_of_returned text,
    scalarTo_of_returned utf8]
  rfl

theorem Tunneling.group_containers (t : Tunneling) : Group Tunneling.members t.containers := by
  have last := (@Group.nil []).scalar "Tunnel-Private-Group-Id" .utf8String .utf8String t.tunnelPrivateGroupId (fun _ => rfl)
    (by decide)
  rw [List.append_nil] at last
  have auth := ((last.scalar "Tunnel-Password" .string .string t.tunnelPassword (fun _ => rfl) (by decide)).scalar
    "Tunnel-Server-Auth-Id" .uinteger32 .uinteger32 t.tunnelServerAuthId (fun _ => rfl) (by decide)).scalar
    "Tunnel-Client-Auth-Id" .uinteger32 .uinteger32 t.tunnelClientAuthId (fun _ => rfl) (by decide)
  have ends := ((auth.scalar "Tunnel-Preference" .uinteger32 .uinteger32 t.tunnelPreference (fun _ => rfl) (by decide)).scalar
    "Tunnel-Server-Endpoint" .utf8String .utf8String t.tunnelServerEndpoint (fun _ => rfl) (by decide)).scalar
    "Tunnel-Client-Endpoint" .utf8String .utf8String t.tunnelClientEndpoint (fun _ => rfl) (by decide)
  exact (ends.scalar "Tunnel-Medium-Type" .enum .enum t.tunnelMediumType (fun _ => rfl) (by decide)).scalar
    "Tunnel-Type" .enum .enum t.tunnelType (fun _ => rfl) (by decide)

theorem scalarContainer_names {α : Type} (name : String) (entry : α → AvpContainerEntry) (value : Option α) :
    (scalarContainer name entry value).map AvpContainer.avpName = setNames [(name, value.isSome)] := by
  cases value <;> rfl

theorem setNames_cons (member : String × Bool) (members : List (String × Bool)) :
    setNames (member :: members) = setNames [member] ++ setNames members := by
  obtain ⟨name, isSet⟩ := member
  cases isSet <;> rfl

theorem Tunneling.names_containers (t : Tunneling) : t.containers.map AvpContainer.avpName = t.names := by
  simp only [Tunneling.containers, List.map_append, scalarContainer_names, Tunneling.names]
  simp only [← setNames_cons]

theorem typed_enum (e : AvpContainerEntry) (kind : entryKind e = .enum) :
    ∃ v, e = .enum v ∧ (loadWord e : Outcome MessageError _) = .returned v := by
  cases e <;> first | exact ⟨_, rfl, rfl⟩ | cases kind

theorem typed_word (e : AvpContainerEntry) (kind : entryKind e = .uinteger32) :
    ∃ v, e = .uinteger32 v ∧ (loadWord e : Outcome MessageError _) = .returned v := by
  cases e <;> first | exact ⟨_, rfl, rfl⟩ | cases kind

theorem typed_utf8 (e : AvpContainerEntry) (kind : entryKind e = .utf8String) :
    ∃ v, e = .utf8String v ∧ (loadText e : Outcome MessageError _) = .returned v := by
  cases e <;> first | exact ⟨_, rfl, rfl⟩ | cases kind

theorem typed_string (e : AvpContainerEntry) (kind : entryKind e = .string) :
    ∃ v, e = .string v ∧ (loadText e : Outcome MessageError _) = .returned v := by
  cases e <;> first | exact ⟨_, rfl, rfl⟩ | cases kind

theorem typed_identity (e : AvpContainerEntry) (kind : entryKind e = .diamId) :
    ∃ v, e = .diamId v ∧ (loadText e : Outcome MessageError _) = .returned v := by
  cases e <;> first | exact ⟨_, rfl, rfl⟩ | cases kind

theorem Tunneling.copyFrom_group {acl : AvpContainerList} (group : Group Tunneling.members acl) :
    ∃ t : Tunneling, (Tunneling.copyFrom acl : Outcome MessageError _) = .returned t ∧
      (t.containers.map content).Perm (acl.map content) := by
  have distinct : (Tunneling.members.map Prod.fst).Nodup := by decide
  obtain ⟨a, readA, sameA⟩ := group.scalarFrom_eq distinct (by decide : ("Tunnel-Type", AvpDataType.enum) ∈ Tunneling.members) typed_enum
  obtain ⟨b, readB, sameB⟩ := group.scalarFrom_eq distinct (by decide : ("Tunnel-Medium-Type", AvpDataType.enum) ∈ Tunneling.members) typed_enum
  obtain ⟨c, readC, sameC⟩ := group.scalarFrom_eq distinct (by decide : ("Tunnel-Client-Endpoint", AvpDataType.utf8String) ∈ Tunneling.members) typed_utf8
  obtain ⟨d, readD, sameD⟩ := group.scalarFrom_eq distinct (by decide : ("Tunnel-Server-Endpoint", AvpDataType.utf8String) ∈ Tunneling.members) typed_utf8
  obtain ⟨e, readE, sameE⟩ := group.scalarFrom_eq distinct (by decide : ("Tunnel-Preference", AvpDataType.uinteger32) ∈ Tunneling.members) typed_word
  obtain ⟨f, readF, sameF⟩ := group.scalarFrom_eq distinct (by decide : ("Tunnel-Client-Auth-Id", AvpDataType.uinteger32) ∈ Tunneling.members) typed_word
  obtain ⟨g, readG, sameG⟩ := group.scalarFrom_eq distinct (by decide : ("Tunnel-Server-Auth-Id", AvpDataType.uinteger32) ∈ Tunneling.members) typed_word
  obtain ⟨h, readH, sameH⟩ := group.scalarFrom_eq distinct (by decide : ("Tunnel-Password", AvpDataType.string) ∈ Tunneling.members) typed_string
  obtain ⟨i, readI, sameI⟩ := group.scalarFrom_eq distinct (by decide : ("Tunnel-Private-Group-Id", AvpDataType.utf8String) ∈ Tunneling.members) typed_utf8
  refine ⟨⟨a, b, c, d, e, f, g, h, i⟩, ?_, ?_⟩
  · rw [Tunneling.copyFrom, readA, readB, readC, readD, readE, readF, readG, readH, readI]
    rfl
  · have searched := (group.searched distinct).map content
    refine List.Perm.trans (List.Perm.of_eq ?_) searched
    simp only [Tunneling.containers, List.map_append, sameA, sameB, sameC, sameD, sameE, sameF, sameG, sameH, sameI]
    simp only [Tunneling.members, List.map_cons, List.map_nil, filterMap_cons_toList, List.filterMap_nil, List.map_append,
      List.append_nil]

theorem mem_setNames_cons {name : String} {member : String × Bool} {members : List (String × Bool)} :
    name ∈ setNames (member :: members) ↔ (member.2 = true ∧ name = member.1) ∨ name ∈ setNames members := by
  obtain ⟨own, isSet⟩ := member
  cases isSet <;> simp [setNames]

/-- Old members show through unless they are in the new structure. -/
theorem Tunneling.over_eq_iff (new old : Tunneling) : old.over new = new ↔ ∀ name ∈ old.names, name ∈ new.names := by
  obtain ⟨a, b, c, d, e, f, g, h, i⟩ := new
  obtain ⟨a', b', c', d', e', f', g', h', i'⟩ := old
  have kept {α : Type} {value value' : Option α} : (value = none → value' = none) ↔ (value'.isSome = true → value.isSome = true) := by
    cases value <;> cases value' <;> simp
  simp only [Tunneling.over, Tunneling.mk.injEq, or_eq_left_iff, kept, Tunneling.names, mem_setNames_cons]
  simp [setNames, or_imp, forall_and]

theorem tunnelingKind_writes_iff (e : AvpContainerEntry) :
    Writes tunnelingKind e ↔ ∃ acl, e = .grouped acl ∧ Group Tunneling.members acl := by
  constructor
  · rintro ⟨t, e', taken, stored, alike⟩
    obtain ⟨acl, group, copied⟩ := Outcome.bind_eq_returned.mp taken
    cases e with
    | grouped acl' =>
      cases group
      have written : tunnelingKind.store t = t.copyTo >>= fun acl => .returned (.grouped acl) := rfl
      rw [written, Tunneling.copyTo_eq] at stored
      cases stored
      exact ⟨acl, rfl, t.group_containers.of_perm alike⟩
    | _ => cases group
  · rintro ⟨acl, rfl, group⟩
    obtain ⟨t, read, alike⟩ := Tunneling.copyFrom_group group
    refine ⟨t, .grouped t.containers, ?_, ?_, alike⟩
    · have plain : Tunneling.fresh.over t = t := (Tunneling.over_eq_iff t .fresh).mpr fun name set => by cases set
      have step : tunnelingKind.into tunnelingKind.fresh (.grouped acl) = Tunneling.copyInto .fresh acl := rfl
      rw [step, Tunneling.copyInto, read, Outcome.returned_bind, plain]
    · have written : tunnelingKind.store t = t.copyTo >>= fun acl => .returned (.grouped acl) := rfl
      rw [written, Tunneling.copyTo_eq]
      rfl

theorem tunnelingKind_into_iff {acl : AvpContainerList} (group : Group Tunneling.members acl) (old : Tunneling) :
    tunnelingKind.into old (.grouped acl) = tunnelingKind.into tunnelingKind.fresh (.grouped acl) ↔
      ∀ name ∈ old.names, name ∈ acl.map AvpContainer.avpName := by
  obtain ⟨t, read, alike⟩ := Tunneling.copyFrom_group group
  have into (old : Tunneling) : tunnelingKind.into old (.grouped acl) = .returned (old.over t) := by
    have step : tunnelingKind.into old (.grouped acl) = Tunneling.copyInto old acl := rfl
    rw [step, Tunneling.copyInto, read]
    rfl
  have plain : Tunneling.fresh.over t = t := (Tunneling.over_eq_iff t .fresh).mpr fun name set => by cases set
  have fresh : tunnelingKind.fresh = Tunneling.fresh := rfl
  have names (name : String) : name ∈ t.names ↔ name ∈ acl.map AvpContainer.avpName := by
    have named (l : AvpContainerList) : l.map AvpContainer.avpName = (l.map content).map Prod.fst := by
      rw [List.map_map]
      rfl
    rw [← Tunneling.names_containers, named, named]
    exact (alike.map Prod.fst).mem_iff
  rw [into, fresh, into, plain, Outcome.returned.injEq, Tunneling.over_eq_iff]
  simp only [names]

end Tunnels

section Proxies

def ProxyInfo.containers (p : ProxyInfo) : AvpContainerList :=
  scalarContainer "Proxy-Host" .diamId p.proxyHost ++ scalarContainer "Proxy-State" .string p.proxyState

theorem ProxyInfo.copyTo_eq (p : ProxyInfo) :
    (p.copyTo : Outcome MessageError _) = if p.avp.isSome then .escaped else .returned p.containers := by
  have identity : ∀ v, (storeText .diamId v : Outcome MessageError _) = .returned (.diamId v) := fun _ => rfl
  have text : ∀ v, (storeText .string v : Outcome MessageError _) = .returned (.string v) := fun _ => rfl
  unfold ProxyInfo.copyTo
  rw [scalarTo_of_returned identity, scalarTo_of_returned text]
  cases p.avp <;> rfl

theorem ProxyInfo.group_containers (p : ProxyInfo) : Group ProxyInfo.members p.containers := by
  have last := (@Group.nil []).scalar "Proxy-State" .string .string p.proxyState (fun _ => rfl) (by decide)
  rw [List.append_nil] at last
  exact last.scalar "Proxy-Host" .diamId .diamId p.proxyHost (fun _ => rfl) (by decide)

theorem Group.absent {members : List (String × AvpDataType)} {acl : AvpContainerList} (group : Group members acl)
    {name : String} (other : name ∉ members.map Prod.fst) : searchContainer acl name = none := by
  cases found : searchContainer acl name with
  | none => rfl
  | some c =>
    obtain ⟨inside, named⟩ := search_some found
    obtain ⟨member, listed, same, -⟩ := group.fits c inside
    exact absurd (List.mem_map.mpr ⟨member, listed, same.symm.trans named⟩) other

theorem ProxyInfo.copyInto_group {acl : AvpContainerList} (group : Group ProxyInfo.members acl) :
    ∃ host state, ((ProxyInfo.mk host state none).containers.map content).Perm (acl.map content) ∧
      ∀ old : ProxyInfo, old.copyInto acl = .returned ⟨host.or old.proxyHost, state.or old.proxyState, old.avp⟩ := by
  have distinct : (ProxyInfo.members.map Prod.fst).Nodup := by decide
  obtain ⟨host, readHost, sameHost⟩ := group.scalarFrom_eq distinct (by decide : ("Proxy-Host", AvpDataType.diamId) ∈ ProxyInfo.members) typed_identity
  obtain ⟨state, readState, sameState⟩ := group.scalarFrom_eq distinct (by decide : ("Proxy-State", AvpDataType.string) ∈ ProxyInfo.members) typed_string
  refine ⟨host, state, ?_, fun old => ?_⟩
  · refine List.Perm.trans (List.Perm.of_eq ?_) ((group.searched distinct).map content)
    simp only [ProxyInfo.containers, List.map_append, sameHost, sameState]
    simp only [ProxyInfo.members, List.map_cons, List.map_nil, filterMap_cons_toList, List.filterMap_nil, List.map_append,
      List.append_nil]
  · rw [ProxyInfo.copyInto, readHost, Outcome.returned_bind, readState, Outcome.returned_bind, group.absent (by decide)]
    rfl

theorem ProxyInfo.names_containers (p : ProxyInfo) (plain : p.avp = none) : p.containers.map AvpContainer.avpName = p.names := by
  obtain ⟨host, state, avp⟩ := p
  cases plain
  cases host <;> cases state <;> rfl

theorem proxyInfoKind_writes_iff (e : AvpContainerEntry) :
    Writes proxyInfoKind e ↔ ∃ acl, e = .grouped acl ∧ Group ProxyInfo.members acl := by
  have written (p : ProxyInfo) : proxyInfoKind.store p = p.copyTo >>= fun acl => .returned (.grouped acl) := rfl
  constructor
  · rintro ⟨p, e', taken, stored, alike⟩
    obtain ⟨acl, group, copied⟩ := Outcome.bind_eq_returned.mp taken
    cases e with
    | grouped acl' =>
      cases group
      rw [written, ProxyInfo.copyTo_eq] at stored
      split at stored
      · cases stored
      · cases stored
        exact ⟨acl, rfl, p.group_containers.of_perm alike⟩
    | _ => cases group
  · rintro ⟨acl, rfl, group⟩
    obtain ⟨host, state, alike, read⟩ := ProxyInfo.copyInto_group group
    refine ⟨⟨host, state, none⟩, .grouped (ProxyInfo.mk host state none).containers, ?_, ?_, alike⟩
    · have step : proxyInfoKind.into proxyInfoKind.fresh (.grouped acl) = ProxyInfo.copyInto .fresh acl := rfl
      rw [step, read]
      simp [ProxyInfo.fresh]
    · rw [written, ProxyInfo.copyTo_eq]
      rfl

theorem proxyInfoKind_into_iff {acl : AvpContainerList} (group : Group ProxyInfo.members acl) (old : ProxyInfo) :
    proxyInfoKind.into old (.grouped acl) = proxyInfoKind.into proxyInfoKind.fresh (.grouped acl) ↔
      ∀ name ∈ old.names, name ∈ acl.map AvpContainer.avpName := by
  obtain ⟨host, state, alike, read⟩ := ProxyInfo.copyInto_group group
  have into (old : ProxyInfo) : proxyInfoKind.into old (.grouped acl) = old.copyInto acl := rfl
  have fresh : proxyInfoKind.fresh = ProxyInfo.fresh := rfl
  have names (name : String) : name ∈ acl.map AvpContainer.avpName ↔ name ∈ (ProxyInfo.mk host state none).names := by
    have named (l : AvpContainerList) : l.map AvpContainer.avpName = (l.map content).map Prod.fst := by
      rw [List.map_map]
      rfl
    rw [← ProxyInfo.names_containers _ rfl, named, named]
    exact (alike.map Prod.fst).mem_iff.symm
  obtain ⟨host', state', avp'⟩ := old
  have kept {α : Type} {value value' : Option α} : (value = none → value' = none) ↔ (value'.isSome = true → value.isSome = true) := by
    cases value <;> cases value' <;> simp
  rw [into, fresh, into, read, read, Outcome.returned.injEq]
  simp only [names, ProxyInfo.fresh, Option.or_none, ProxyInfo.mk.injEq, or_eq_left_iff, kept, ProxyInfo.names, mem_setNames_cons]
  cases avp' <;> simp [setNames, or_imp, forall_and]

end Proxies

end Groups

section Result

variable {α : Type} {kind : ElementKind α}

theorem replaces_grouped_iff {members : List (String × AvpDataType)} {names : α → List String}
    (registered : kind.acquire = .returned ())
    (writes : ∀ e, Writes kind e ↔ ∃ acl, e = .grouped acl ∧ Group members acl)
    (into : ∀ acl, Group members acl → ∀ old, kind.into old (.grouped acl) = kind.into kind.fresh (.grouped acl) ↔
      ∀ name ∈ names old, name ∈ acl.map AvpContainer.avpName)
    (vector : VectorAttribute α) (cont : List AvpContainerEntry) :
    Replaces kind vector cont ↔ vector.elements.length ≤ cont.length ∧
      ∀ (i : Nat) (e : AvpContainerEntry), cont[i]? = some e → ∃ acl, e = .grouped acl ∧ Group members acl ∧
        ∀ old, vector.elements[i]? = some old → ∀ name ∈ names old, name ∈ acl.map AvpContainer.avpName := by
  rw [replaces_iff, and_iff_right registered]
  refine and_congr_right fun _ => ?_
  constructor
  · rintro ⟨written, same⟩ i e here
    obtain ⟨acl, rfl, group⟩ := (writes e).mp (written e (List.mem_of_getElem? here))
    exact ⟨acl, rfl, group, fun old found => (into acl group old).mp (same i old _ found here)⟩
  · intro each
    constructor
    · intro e inside
      obtain ⟨i, here⟩ := List.mem_iff_getElem?.mp inside
      obtain ⟨acl, grouped, group, -⟩ := each i e here
      exact (writes e).mpr ⟨acl, grouped, group⟩
    · intro i old e found here
      obtain ⟨acl, rfl, group, covered⟩ := each i e here
      exact (into acl group old).mpr (covered old found)

/-- What a copy replaces: everything, if no element was there too many and the entries are of the
attribute's type; in groups, if they have members of the structure only, each once, and every
member that is set in the element they are copied over. -/
theorem vectorAttribute_iff (cont : List AvpContainerEntry) :
    (∀ (α : Type) (fresh : α) (load : AvpContainerEntry → Outcome MessageError α) (acquire : Outcome MessageError Unit)
      (store : α → Outcome MessageError AvpContainerEntry) (vector : VectorAttribute α),
      Replaces (plainKind fresh load acquire store) vector cont ↔
        acquire = .returned () ∧ vector.elements.length ≤ cont.length ∧
          ∀ e ∈ cont, ∃ value e', load e = .returned value ∧ store value = .returned e' ∧ Alike e' e) ∧
    (∀ vector : VectorAttribute Tunneling, Replaces tunnelingKind vector cont ↔ vector.elements.length ≤ cont.length ∧
      ∀ (i : Nat) (e : AvpContainerEntry), cont[i]? = some e → ∃ acl, e = .grouped acl ∧ Group Tunneling.members acl ∧
        ∀ old, vector.elements[i]? = some old → ∀ name ∈ old.names, name ∈ acl.map AvpContainer.avpName) ∧
    ∀ vector : VectorAttribute ProxyInfo, Replaces proxyInfoKind vector cont ↔ vector.elements.length ≤ cont.length ∧
      ∀ (i : Nat) (e : AvpContainerEntry), cont[i]? = some e → ∃ acl, e = .grouped acl ∧ Group ProxyInfo.members acl ∧
        ∀ old, vector.elements[i]? = some old → ∀ name ∈ old.names, name ∈ acl.map AvpContainer.avpName := by
  refine ⟨?_, ?_, ?_⟩
  · intro α fresh load acquire store vector
    rw [replaces_iff]
    refine and_congr_right fun _ => and_congr_right fun _ => and_iff_left ?_
    exact fun i old e _ _ => rfl
  · exact fun vector => replaces_grouped_iff rfl tunnelingKind_writes_iff (fun _ => tunnelingKind_into_iff) vector cont
  · exact fun vector => replaces_grouped_iff rfl proxyInfoKind_writes_iff (fun _ => proxyInfoKind_into_iff) vector cont

/-- The values of `Class`. -/
def textKind : ElementKind Foundation.Octets := plainKind [] loadText (.returned ()) (storeText .string)

/-- A second message with one value leaves the second value of the first message in place. -/
theorem older_entry_kept :
    ¬∀ (vector : VectorAttribute Foundation.Octets) (cont : List AvpContainerEntry),
      (∀ e ∈ cont, Writes textKind e) → Replaces textKind vector cont := by
  intro claim
  obtain ⟨values, taken, exact', -⟩ := claim ⟨[[97], [98]], true⟩ [.string [99]]
    (List.forall_mem_singleton.mpr ⟨[99], .string [99], rfl, rfl, rfl⟩)
  have copied : VectorAttribute.copyFrom textKind ⟨[[97], [98]], true⟩ [.string [99]] = .returned ⟨[[99], [98]], true⟩ := rfl
  rw [copied] at exact'
  cases exact'
  cases taken with
  | cons _ rest => cases rest

end Result

end OpenDiameter.Access
