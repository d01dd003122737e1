import OpenDiameter.Eap.Policy
import OpenDiameter.Foundation.Machine

/-! The octets of a type, and of the types of a `Nak`.

The fields of a vendor specific type are written from variables of two octets, four at a
time. The readers of a `Nak` have loops that go over the list they are to fill.
-/

set_option autoImplicit false

namespace OpenDiameter.Eap

open Foundation

section Writing

/-- What lies behind the variables `vid` and `vty`. -/
structure Stack where
  afterVid : UInt16
  afterVty : UInt16
  deriving DecidableEq, Repr

def memory16 (x : UInt16) : Octets := [x.toUInt8, (x >>> 8).toUInt8]

def memory32 (x : UInt32) : Octets :=
  [x.toUInt8, (x >>> 8).toUInt8, (x >>> 16).toUInt8, (x >>> 24).toUInt8]

/-- `vendorId && 0x00ffffff`. -/
def vendorBit (vendorId : UInt16) : UInt32 := if vendorId ≠ 0 then 1 else 0

/-- What `EapRequestParser::parseAppToRaw` writes of the type. -/
def requestOctets (stack : Stack) (eapType : EapType) : Octets :=
  if eapType.type ≠ 254 then [eapType.type]
  else
    let vid := ntohs (vendorBit eapType.vendorId + eapType.type.toUInt32 <<< 24).toUInt16
    let vty := ntohs eapType.vendorType
    (memory16 vid ++ memory16 stack.afterVid) ++ (memory16 vty ++ memory16 stack.afterVty)

inductive EapNakDict where
  | legacyNak | extendedNak
  deriving DecidableEq, Repr

/-- An entry of an extended `Nak`: `ntohs` takes 16 bits of the vendor id. -/
def nakEntry (vendorId : UInt32) (vendorType : UInt16) : Octets :=
  memory32 (ntohs vendorId.toUInt16).toUInt32 ++ memory32 (ntohs vendorType).toUInt32

def extendedType (t : EapType) : EapType := if t.type ≠ 254 then .vendor 0 t.type.toUInt16 else t

/-- What `EapNakParser::parseAppToRaw` writes after the type. -/
def nakOctets (d : Option EapNakDict) (tList : List EapType) : Octets :=
  match d with
  | none | some .legacyNak => tList.map (·.type)
  | some .extendedNak =>
    nakEntry ((254 : UInt32) <<< 24) 3 ++ tList.flatMap fun t =>
      nakEntry (vendorBit (extendedType t).vendorId ||| (extendedType t).type.toUInt32 <<< 24) (extendedType t).vendorType

end Writing

section Reading

/-- The list that is filled, how far the loop is in it, and what the read pointer is before. -/
structure NakReader where
  tList : List EapType
  next : Nat
  rest : Octets
  deriving DecidableEq, Repr

/-- The address that `end()` of an allocated message block gives. -/
abbrev Address : Type := { address : Nat // address ≠ 0 }

def legacyTurn : Body NakReader Empty (List EapType) := fun s =>
  if s.next < s.tList.length then
    ([], .again { tList := s.tList ++ [{ type := s.rest.getD 0 0 }], next := s.next + 1, rest := s.rest.drop 1 })
  else ([], .done s.tList)

/-- `while (!msg->end())`. -/
def extendedTurn (finish : Address) : Body NakReader Empty (List EapType) := fun s =>
  if finish.val = 0 then
    let type := s.rest.getD 0 0
    if type = 254 then
      let vendorType := ntohs (charToUInt16 (s.rest.getD 4 0))
      let tList := if vendorType ≠ 3 then s.tList ++ [.vendor (ntohs 1) vendorType] else s.tList
      ([], .again { s with tList, rest := s.rest.drop 4 })
    else ([], .again { s with tList := s.tList ++ [{ type }], rest := s.rest.drop 1 })
  else ([], .done s.tList)

/-- `EapNakParser::parseRawToApp`. -/
def nakReads (d : Option EapNakDict) (finish : Address) : Body NakReader Empty (List EapType) :=
  match d with
  | none | some .legacyNak => legacyTurn
  | some .extendedNak => extendedTurn finish

end Reading

section RoundTrips

def TypeRoundTrips (stack : Stack) (code identifier : UInt8) (eapType : EapType) : Prop :=
  EapMessage.type ⟨code, identifier, requestOctets stack eapType⟩ = eapType

/-- What the list of a `Nak` is to be after it was written and read. -/
def nakExpected (d : Option EapNakDict) (tList : List EapType) : List EapType :=
  match d with
  | none | some .legacyNak => tList
  | some .extendedNak => tList.map extendedType

def NakRoundTrips (d : Option EapNakDict) (finish : Address) (tList : List EapType) : Prop :=
  ∃ events, (nakReads d finish).Ends ⟨[], 0, nakOctets d tList⟩ events (nakExpected d tList)

variable (stack : Stack) (d : Option EapNakDict) (finish : Address)

theorem getD_requestOctets {eapType : EapType} (extended : eapType.type = 254) :
    (requestOctets stack eapType).getD 0 0 = 0 := by
  have low : (ntohs (vendorBit eapType.vendorId + (254 : UInt8).toUInt32 <<< 24).toUInt16).toUInt8 = 0 := by
    unfold vendorBit
    split <;> decide
  rw [requestOctets, if_neg (not_not_intro extended), extended]
  exact low

theorem type_requestOctets (code identifier : UInt8) (eapType : EapType) :
    EapMessage.type ⟨code, identifier, requestOctets stack eapType⟩ =
      if eapType.type = 254 then { type := 0 } else { type := eapType.type } := by
  unfold EapMessage.type
  by_cases extended : eapType.type = 254
  · rw [getD_requestOctets stack extended, if_pos extended]
    rfl
  · rw [if_neg extended, requestOctets, if_pos extended]
    exact if_neg extended

theorem nakReads_empty (data : Octets) : (nakReads d finish).Ends ⟨[], 0, data⟩ [] [] := by
  refine .done ?_
  rcases d with _ | _ | _
  · rfl
  · rfl
  · exact if_neg finish.property

theorem legacyTurn_goes_on {tList : List EapType} (types : tList ≠ []) (data : Octets) (events : List Empty)
    (result : List EapType) :
    ¬legacyTurn.Ends ⟨tList, 0, data⟩ events result := by
  have ahead : ∀ s : NakReader, s.next < s.tList.length →
      ∃ events next, legacyTurn s = (events, .again next) ∧ next.next < next.tList.length := by
    intro s ahead
    refine ⟨[], _, if_pos ahead, ?_⟩
    rw [List.length_append]
    exact Nat.succ_lt_succ ahead
  exact Body.not_ends_of_invariant ahead (List.length_pos_iff.mpr types) events result

theorem nakReads_nakTypeList (msg : EapMessage) :
    (nakReads none finish).Ends ⟨[], 0, msg.typeData⟩ [] (nakTypeList msg) :=
  nakReads_empty none finish msg.typeData

theorem nakRoundTrips_eq_nil {tList : List EapType} : NakRoundTrips d finish tList ↔ tList = [] := by
  have expected : nakExpected d tList = [] ↔ tList = [] := by
    rcases d with _ | _ | _
    · exact Iff.rfl
    · exact Iff.rfl
    · exact List.map_eq_nil_iff
  rw [← expected]
  constructor
  · rintro ⟨events, ends⟩
    exact (ends.unique (nakReads_empty d finish _)).2
  · intro none
    refine ⟨[], ?_⟩
    rw [none]
    exact nakReads_empty d finish _

/-- The legacy types are read back as they were written, and nothing else is. -/
theorem typeCodec_iff :
    (∀ (code identifier : UInt8) (eapType : EapType),
      TypeRoundTrips stack code identifier eapType ↔ ∃ type : UInt8, type ≠ 254 ∧ eapType = { type }) ∧
    ∀ tList : List EapType, NakRoundTrips d finish tList ↔ tList = [] := by
  refine ⟨fun code identifier eapType => ?_, fun tList => nakRoundTrips_eq_nil d finish⟩
  rw [TypeRoundTrips, type_requestOctets]
  constructor
  · intro same
    by_cases extended : eapType.type = 254
    · rw [if_pos extended] at same
      rw [← same] at extended
      cases extended
    · rw [if_neg extended] at same
      exact ⟨eapType.type, extended, same.symm⟩
  · rintro ⟨type, legacy, rfl⟩
    exact if_neg legacy

/-- A `Nak` for MD5 is read as a `Nak` for nothing. -/
theorem nak_nothing_read :
    ¬∀ (d : Option EapNakDict) (finish : Address) (tList : List EapType), tList ≠ [] → NakRoundTrips d finish tList := by
  intro claim
  have types : ([{ type := 4 }] : List EapType) ≠ [] := List.cons_ne_nil _ _
  have finish : Address := ⟨1, Nat.one_ne_zero⟩
  exact types ((nakRoundTrips_eq_nil none finish).mp (claim none finish _ types))

end RoundTrips

end OpenDiameter.Eap
