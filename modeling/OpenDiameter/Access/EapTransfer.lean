import OpenDiameter.Access.EapClient
import OpenDiameter.Access.EapParsers

/-! The attributes of an EAP message as the machines see them.

The machines know an AVP by its meaning, the parsers by its row. What a machine holds after a
message has been rendered and parsed is what the rows of the parsers make of it.
-/

set_option autoImplicit false

namespace OpenDiameter.Access

open OpenDiameter.Parser
open Router (DiameterMsg)

section Views

variable {V W F : Type}

def Attribute.view (view : V → W) (own : Attribute V) : Attribute W := ⟨view own.value, own.isSet⟩

theorem Attribute.carried_view (view : V → W) (own : Attribute V) : (own.view view).carried = own.carried.map view := by
  unfold Attribute.carried Attribute.view
  cases own.isSet <;> rfl

def numberOf : List Datum → UInt32
  | [.word n] => n
  | _ => 0

variable (text : Datum → Octets)

def octetsOf (values : List Datum) : Octets := values.flatMap text

/-- The value of an attribute that a machine keeps with others. -/
def Layout.valueOf (layout : Layout F) (f : F) (values : List Datum) : Value :=
  if layout.vector f then .vector (values.map text)
  else
    match values with
    | [.word n] => .number n
    | values => .octets (octetsOf text values)

variable {text} {layout : Layout F} {f : F} {own : Attribute (List Datum)}

theorem valueOf_vector (shape : layout.vector f = true) (values : List Datum) :
    layout.valueOf text f values = .vector (values.map text) := if_pos shape

theorem valueOf_scalar (shape : layout.vector f = false) (values : List Datum) (os : List Octets) :
    layout.valueOf text f values ≠ .vector os := by
  unfold Layout.valueOf
  rw [if_neg (by rw [shape]; decide)]
  split <;> simp

theorem clearValue_vector (shape : layout.vector f = true) :
    clearValue (own.view (layout.valueOf text f)) = own.clearVector.view (layout.valueOf text f) := by
  simp only [clearValue, Attribute.view, valueOf_vector shape, Attribute.clearVector, List.map_nil]

theorem clearValue_scalar (shape : layout.vector f = false) :
    clearValue (own.view (layout.valueOf text f)) = own.clear.view (layout.valueOf text f) := by
  unfold clearValue
  split
  case h_1 os same => exact absurd same (valueOf_scalar shape _ os)
  case h_2 => rfl
  case h_3 => rfl

end Views

section Transfer

variable {F : Type} [DecidableEq F] {layout : Layout F} {sent previous : Data F} {f : F} {text : Datum → Octets}

/-- An attribute that is cleared, sent and read. -/
theorem view_transferred (carried : layout.Carried f) (cleared : f ∈ layout.cleared) :
    (layout.transferred sent previous f).view (layout.valueOf text f) =
      receiveValue ((previous f).view (layout.valueOf text f)) ((sent f).view (layout.valueOf text f)).carried := by
  rw [Attribute.carried_view, Layout.transferred, Layout.clear, if_pos cleared]
  cases isSet : (sent f).isSet with
  | true =>
    have given : (sent f).carried = some (sent f).value := if_pos isSet
    rw [if_pos ⟨carried, rfl⟩, given, Option.map_some]
    cases shape : layout.vector f with
    | true => simp [Attribute.clearVector, Attribute.set, Attribute.view, receiveValue]
    | false => simp [Attribute.set, Attribute.view, receiveValue]
  | false =>
    have given : (sent f).carried = none := if_neg (by rw [isSet]; decide)
    rw [if_neg fun both => Bool.false_ne_true both.2, given, Option.map_none]
    cases shape : layout.vector f with
    | true => exact (clearValue_vector shape).symm
    | false => exact (clearValue_scalar shape).symm

theorem view_transferred_kept (carried : layout.Carried f) (kept : f ∉ layout.cleared) :
    (layout.transferred sent previous f).view (layout.valueOf text f) =
      receiveUncleared ((previous f).view (layout.valueOf text f)) ((sent f).view (layout.valueOf text f)).carried := by
  rw [Attribute.carried_view, Layout.transferred, clear_of_kept kept]
  cases isSet : (sent f).isSet with
  | true =>
    have given : (sent f).carried = some (sent f).value := if_pos isSet
    rw [if_pos ⟨carried, rfl⟩, given, Option.map_some]
    cases shape : layout.vector f with
    | true =>
      simp only [valueOf_vector shape, Attribute.view, Attribute.set, receiveUncleared, Value.strings, List.map_append,
        List.map_drop, List.length_map, if_true]
    | false =>
      rw [if_neg Bool.false_ne_true]
      unfold receiveUncleared
      split
      case h_1 os same => exact absurd (Option.some.inj same) (valueOf_scalar shape _ os)
      case h_2 value _ same =>
        rw [← Option.some.inj same]
        rfl
      case h_3 same => cases same
  | false =>
    have given : (sent f).carried = none := if_neg (by rw [isSet]; decide)
    rw [if_neg fun both => Bool.false_ne_true both.2, given]
    rfl

theorem view_transferred_dropped (dropped : ¬layout.Carried f) (cleared : f ∈ layout.cleared) :
    (layout.transferred sent previous f).view (layout.valueOf text f) =
      clearValue ((previous f).view (layout.valueOf text f)) := by
  rw [Layout.transferred, if_neg fun both => dropped both.1, Layout.clear, if_pos cleared]
  cases shape : layout.vector f with
  | true => exact (clearValue_vector shape).symm
  | false => exact (clearValue_scalar shape).symm

theorem view_transferred_scalar {V : Type} {view : List Datum → V} (carried : layout.Carried f)
    (cleared : f ∈ layout.cleared) (shape : layout.vector f = false) :
    (layout.transferred sent previous f).view view =
      ((previous f).view view).receive ((sent f).view view).carried := by
  rw [Attribute.carried_view, Layout.transferred, Layout.clear, if_pos cleared, shape]
  cases isSet : (sent f).isSet with
  | true =>
    have given : (sent f).carried = some (sent f).value := if_pos isSet
    rw [if_pos ⟨carried, rfl⟩, given]
    rfl
  | false =>
    have given : (sent f).carried = none := if_neg (by rw [isSet]; decide)
    rw [if_neg fun both => Bool.false_ne_true both.2, given]
    rfl

theorem received_eq {command : Command} {dm : CommandCodes} {sent previous : Contents layout} {msg : DiameterMsg}
    {received : Data F} (sound : layout.Sound) (expected : Expected layout sent.data)
    (built : parseAppToRaw command layout dm sent.data ⟨.blank, []⟩ = .returned msg)
    (parsed : parseRawToApp layout msg previous.data = .returned received) :
    received = layout.transferred sent.data previous.data := by
  obtain ⟨code, appId, acl, -, encoded, rfl⟩ := parseAppToRaw_returned_iff.mp built
  have decoded := decode_encoded sound sent expected encoded previous.data
  cases decoded.symm.trans parsed
  rfl

end Transfer

section Request

/-- The attribute of `DER_Data` that an AVP of the machines is. -/
def derField : Avp → Option DerField
  | .originHost => some .originHost
  | .originRealm => some .originRealm
  | .nasPort => some .nasPort
  | .nasPortId => some .nasPortId
  | .originStateId => some .originStateId
  | .nasIdentifier => some .nasIdentifier
  | .nasIpAddress => some .nasIpAddress
  | .nasIpv6Address => some .nasIpv6Address
  | .nasPortType => some .nasPortType
  | .portLimit => some .portLimit
  | .serviceType => some .serviceType
  | .idleTimeout => some .idleTimeout
  | .authorizationLifetime => some .authorizationLifetime
  | .authGracePeriod => some .authGracePeriod
  | .authSessionState => some .authSessionState
  | .sessionTimeout => some .sessionTimeout
  | .callbackNumber => some .callbackNumber
  | .calledStationId => some .calledStationId
  | .callingStationId => some .callingStationId
  | .cls => some .cls
  | .originatingLineInfo => some .originatingLineInfo
  | .connectInfo => some .connectInfo
  | .framedCompression => some .framedCompression
  | .framedInterfaceId => some .framedInterfaceId
  | .framedIpAddress => some .framedIpAddress
  | .framedIpv6Prefix => some .framedIpv6Prefix
  | .framedIpNetmask => some .framedIpNetmask
  | .framedMtu => some .framedMtu
  | .framedProtocol => some .framedProtocol
  | .tunneling => some .tunneling
  | _ => none

variable (text : Datum → Octets)

/-- A machine has the contents of a DER. -/
structure DerSeen (data : Data DerField) (requestType : Attribute UInt32) (request : Avp → Attribute Value) (own : EapOwn) :
    Prop where
  requestType : requestType = (data .authRequestType).view numberOf
  request : ∀ avp f, derField avp = some f → request avp = (data f).view (derLayout.valueOf text f)
  userName : own.userName = (data .userName).view (octetsOf text)
  state : own.state = (data .state).view (octetsOf text)
  eapPayload : own.eapPayload = (data .eapPayload).view (octetsOf text)

theorem derField_rows (avp : Avp) (f : DerField) (field : derField avp = some f) :
    f ∈ derLayout.cleared ∧
      (avp ∈ derAvps ∧ derLayout.Carried f ∨ avp = .framedIpNetmask ∧ avp ∉ derAvps ∧ ¬derLayout.Carried f) := by
  cases avp <;> cases field <;> decide +kernel

theorem der_scalars : ∀ f ∈ [DerField.authRequestType, .userName, .state, .eapPayload],
    derLayout.Carried f ∧ f ∈ derLayout.cleared ∧ derLayout.vector f = false := by
  decide +kernel

variable {text}

/-- The machines of the two sides carry a DER as its parsers do. -/
theorem parseDER_renderDER {dm : CommandCodes} {sent previous : Contents derLayout} {msg : DiameterMsg}
    {received : Data DerField} {client : EapClientData} {server : EapData}
    (application : (sent.data .authApplicationId).isSet = true →
      (sent.data .authApplicationId).value = [.word eapApplicationId])
    (built : parseAppToRaw diameterEAPRequest derLayout dm sent.data ⟨.blank, []⟩ = .returned msg)
    (parsed : parseRawToApp derLayout msg previous.data = .returned received)
    (sender : DerSeen text sent.data client.requestType client.request client.own)
    (receiver : DerSeen text previous.data server.requestType server.request server.own) :
    let after := parseDER server (renderDER client)
    DerSeen text received after.requestType after.request after.own := by
  intro after
  rw [received_eq derLayout_sound (der_expected sent application) built parsed]
  have scalar {V : Type} (f : DerField) (view : List Datum → V)
      (listed : f ∈ [DerField.authRequestType, .userName, .state, .eapPayload]) :
      (derLayout.transferred sent.data previous.data f).view view =
        ((previous.data f).view view).receive ((sent.data f).view view).carried := by
    obtain ⟨carried, cleared, shape⟩ := der_scalars f listed
    exact view_transferred_scalar carried cleared shape
  constructor
  case requestType =>
    rw [scalar .authRequestType numberOf (by decide), ← sender.requestType, ← receiver.requestType]
    rfl
  case userName =>
    rw [scalar .userName (octetsOf text) (by decide), ← sender.userName, ← receiver.userName]
    rfl
  case state =>
    rw [scalar .state (octetsOf text) (by decide), ← sender.state, ← receiver.state]
    rfl
  case eapPayload =>
    rw [scalar .eapPayload (octetsOf text) (by decide), ← sender.eapPayload, ← receiver.eapPayload]
    rfl
  case request =>
    intro avp f field
    obtain ⟨cleared, ⟨listed, carried⟩ | ⟨-, unlisted, dropped⟩⟩ := derField_rows avp f field
    · have rendered : (renderDER client).avps avp = (client.request avp).carried := if_pos (Or.inr listed)
      change receiveValue (server.request avp) (if avp ∈ derAvps then (renderDER client).avps avp else none) = _
      rw [if_pos listed, rendered, view_transferred carried cleared, sender.request avp f field,
        receiver.request avp f field]
    · change receiveValue (server.request avp) (if avp ∈ derAvps then (renderDER client).avps avp else none) = _
      rw [if_neg unlisted, view_transferred_dropped dropped cleared, receiver.request avp f field]
      rfl

end Request

section Answer

/-- The attribute of `DEA_Data` that an AVP of the machines is. -/
def deaField : Avp → Option DeaField
  | .originStateId => some .originStateId
  | .multiRoundTimeOut => some .multiRoundTimeOut
  | .filterId => some .filterId
  | .portLimit => some .portLimit
  | .serviceType => some .serviceType
  | .cls => some .cls
  | .configurationToken => some .configurationToken
  | .acctInterimInterval => some .acctInterimInterval
  | .idleTimeout => some .idleTimeout
  | .authorizationLifetime => some .authorizationLifetime
  | .authGracePeriod => some .authGracePeriod
  | .authSessionState => some .authSessionState
  | .reAuthRequestType => some .reAuthRequestType
  | .sessionTimeout => some .sessionTimeout
  | .callbackId => some .callbackId
  | .callbackNumber => some .callbackNumber
  | .framedAppletalkLink => some .framedAppletalkLink
  | .framedAppletalkZone => some .framedAppletalkZone
  | .framedAppletalkNetwork => some .framedAppletalkNetwork
  | .framedCompression => some .framedCompression
  | .framedInterfaceId => some .framedInterfaceId
  | .framedIpAddress => some .framedIpAddress
  | .framedIpv6Prefix => some .framedIpv6Prefix
  | .framedIpv6Pool => some .framedIpv6Pool
  | .framedPool => some .framedPool
  | .framedIpv6Route => some .framedIpv6Route
  | .framedRoute => some .framedRoute
  | .framedIpNetmask => some .framedIpNetmask
  | .framedIpxNetwork => some .framedIpxNetwork
  | .framedMtu => some .framedMtu
  | .framedProtocol => some .framedProtocol
  | .framedRouting => some .framedRouting
  | .nasFilterRule => some .nasFilterRule
  | .tunneling => some .tunneling
  | .eapMasterSessionKey => some .eapMasterSessionKey
  | .accountingEapAuthMethod => some .accountingEapAuthMethod
  | _ => none

variable (text : Datum → Octets)

/-- A machine has the contents of a DEA, its result code apart. -/
structure DeaSeen (data : Data DeaField) (attributes : Avp → Attribute Value) (own : EapOwn) : Prop where
  attributes : ∀ avp f, deaField avp = some f → attributes avp = (data f).view (deaLayout.valueOf text f)
  userName : own.answerUserName = (data .userName).view (octetsOf text)
  state : own.answerState = (data .state).view (octetsOf text)
  eapPayload : own.answerPayload = (data .eapPayload).view (octetsOf text)
  reissuedPayload : own.reissuedPayload = (data .eapReissuedPayload).view (octetsOf text)
  replyMessage : own.replyMessage = (data .replyMessage).view (List.map text)

theorem deaField_rows (avp : Avp) (f : DeaField) (field : deaField avp = some f) :
    (avp ∈ deaUncleared ∧ deaLayout.Carried f ∧ f ∉ deaLayout.cleared) ∨
      (avp ∉ deaUncleared ∧ f ∈ deaLayout.cleared ∧
        (avp ∈ deaAvps ∧ deaLayout.Carried f ∨ avp ∉ deaAvps ∧ ¬deaLayout.Carried f)) := by
  cases avp <;> cases field <;> decide +kernel

theorem dea_scalars : ∀ f ∈ [DeaField.userName, .state, .eapPayload, .eapReissuedPayload],
    deaLayout.Carried f ∧ f ∈ deaLayout.cleared ∧ deaLayout.vector f = false := by
  decide +kernel

variable {text}

theorem parseDEA_renderDEA {dm : CommandCodes} {sent previous : Contents deaLayout} {msg : DiameterMsg}
    {received : Data DeaField} {client : EapClientData} {server : EapData} (code : ResultCode)
    (built : parseAppToRaw diameterEAPAnswer deaLayout dm sent.data ⟨.blank, []⟩ = .returned msg)
    (parsed : parseRawToApp deaLayout msg previous.data = .returned received)
    (sender : DeaSeen text sent.data server.granted server.own)
    (receiver : DeaSeen text previous.data client.answer client.own) :
    let after := parseDEA code (renderDEA server) client
    DeaSeen text received after.answer after.own := by
  intro after
  rw [received_eq deaLayout_sound (dea_expected sent) built parsed]
  have scalar {V : Type} (f : DeaField) (view : List Datum → V)
      (listed : f ∈ [DeaField.userName, .state, .eapPayload, .eapReissuedPayload]) :
      (deaLayout.transferred sent.data previous.data f).view view =
        ((previous.data f).view view).receive ((sent.data f).view view).carried := by
    obtain ⟨carried, cleared, shape⟩ := dea_scalars f listed
    exact view_transferred_scalar carried cleared shape
  constructor
  case userName =>
    rw [scalar .userName (octetsOf text) (by decide), ← sender.userName, ← receiver.userName]
    rfl
  case state =>
    rw [scalar .state (octetsOf text) (by decide), ← sender.state, ← receiver.state]
    rfl
  case eapPayload =>
    rw [scalar .eapPayload (octetsOf text) (by decide), ← sender.eapPayload, ← receiver.eapPayload]
    rfl
  case reissuedPayload =>
    rw [scalar .eapReissuedPayload (octetsOf text) (by decide), ← sender.reissuedPayload, ← receiver.reissuedPayload]
    rfl
  case replyMessage =>
    obtain ⟨dropped, kept⟩ := dea_unread .replyMessage (by decide)
    rw [Layout.transferred, if_neg fun both => dropped both.1, clear_of_kept kept, ← receiver.replyMessage]
    rfl
  case attributes =>
    intro avp f field
    have rendered : (renderDEA server).avps avp = (server.granted avp).carried := rfl
    rcases deaField_rows avp f field with ⟨uncleared, carried, kept⟩ | ⟨others, cleared, rest⟩
    · change (if avp ∈ deaUncleared then receiveUncleared (client.answer avp) ((renderDEA server).avps avp) else _) = _
      rw [if_pos uncleared, rendered, view_transferred_kept carried kept, sender.attributes avp f field,
        receiver.attributes avp f field]
    · change (if avp ∈ deaUncleared then _ else receiveValue (client.answer avp)
        (if avp ∈ deaAvps then (renderDEA server).avps avp else none)) = _
      rw [if_neg others]
      rcases rest with ⟨listed, carried⟩ | ⟨unlisted, dropped⟩
      · rw [if_pos listed, rendered, view_transferred carried cleared, sender.attributes avp f field,
          receiver.attributes avp f field]
      · rw [if_neg unlisted, view_transferred_dropped dropped cleared, receiver.attributes avp f field]
        rfl

end Answer

end OpenDiameter.Access
