import OpenDiameter.Access.Attributes
import OpenDiameter.Parser.DictionaryRuns

/-! The messages of the EAP application: their attributes, and the four lists of each.

Every attribute of a DER is cleared before a message is read. A DEA leaves some of them
from the message before, and in both there are attributes that are sent and not read.
-/

set_option autoImplicit false

namespace OpenDiameter.Access

section Request

inductive DerField where
  | sessionId | authApplicationId | originHost | originRealm | destinationRealm | authRequestType | nasPort
  | nasPortId | originStateId | destinationHost | nasIdentifier | nasIpAddress | nasIpv6Address | nasPortType
  | portLimit | userName | eapPayload | serviceType | idleTimeout | state | authorizationLifetime | authGracePeriod
  | authSessionState | sessionTimeout | callbackNumber | calledStationId | callingStationId | cls
  | originatingLineInfo | connectInfo | framedCompression | framedInterfaceId | framedIpAddress | framedIpv6Prefix
  | framedIpNetmask | framedMtu | framedProtocol | tunneling | proxyInfo | routeRecord | avp
  deriving DecidableEq, Repr

def eapApplicationId : UInt32 := 5

def DerField.vector : DerField → Bool
  | .cls | .framedCompression | .framedIpv6Prefix | .tunneling | .proxyInfo | .routeRecord | .avp => true
  | _ => false

def DerField.type : DerField → DatumType
  | .authApplicationId | .authRequestType | .nasPort | .originStateId | .nasPortType | .portLimit | .serviceType
  | .idleTimeout | .authorizationLifetime | .authGracePeriod | .authSessionState | .sessionTimeout
  | .framedCompression | .framedMtu | .framedProtocol => .word
  | .framedInterfaceId => .long
  | .tunneling => .tunneling
  | .proxyInfo => .proxyInfo
  | _ => .text

def derLayout : Layout DerField where
  vector := DerField.vector
  type := DerField.type
  cleared :=
    [.sessionId, .authApplicationId, .originHost, .originRealm, .destinationRealm, .authRequestType, .nasPort,
      .nasPortId, .originStateId, .destinationHost, .nasIdentifier, .nasIpAddress, .nasIpv6Address, .nasPortType,
      .portLimit, .userName, .eapPayload, .serviceType, .idleTimeout, .state, .authorizationLifetime,
      .authGracePeriod, .authSessionState, .sessionTimeout, .callbackNumber, .calledStationId, .callingStationId,
      .cls, .originatingLineInfo, .connectInfo, .framedCompression, .framedInterfaceId, .framedIpAddress,
      .framedIpv6Prefix, .framedIpNetmask, .framedMtu, .framedProtocol, .tunneling, .proxyInfo, .routeRecord, .avp]
  encoded :=
    [⟨.authApplicationId, "AuthApplicationId", .integer32⟩, ⟨.originHost, "OriginHost", .diamId⟩,
      ⟨.originRealm, "OriginRealm", .diamId⟩, ⟨.destinationRealm, "DestinationRealm", .diamId⟩,
      ⟨.authRequestType, "AuthRequestType", .enum⟩, ⟨.nasPort, "NasPort", .uinteger32⟩,
      ⟨.nasPortId, "NasPortId", .utf8String⟩, ⟨.originStateId, "OriginStateId", .uinteger32⟩,
      ⟨.destinationHost, "DestinationHost", .diamId⟩, ⟨.nasIdentifier, "NasIdentifier", .utf8String⟩,
      ⟨.nasIpAddress, "NasIPAddress", .string⟩, ⟨.nasIpv6Address, "NasIPv6Address", .string⟩,
      ⟨.nasPortType, "NasPortType", .enum⟩, ⟨.portLimit, "PortLimit", .uinteger32⟩,
      ⟨.userName, "UserName", .utf8String⟩, ⟨.eapPayload, "EAPPayload", .string⟩,
      ⟨.serviceType, "ServiceType", .enum⟩, ⟨.idleTimeout, "IdleTimeout", .uinteger32⟩, ⟨.state, "State", .string⟩,
      ⟨.authorizationLifetime, "AuthorizationLifetime", .uinteger32⟩,
      ⟨.authGracePeriod, "AuthGracePeriod", .uinteger32⟩, ⟨.authSessionState, "AuthSessionState", .uinteger32⟩,
      ⟨.sessionTimeout, "SessionTimeout", .uinteger32⟩, ⟨.callbackNumber, "CallbackNumber", .utf8String⟩,
      ⟨.calledStationId, "CalledStationId", .utf8String⟩, ⟨.callingStationId, "CallingStationId", .utf8String⟩,
      ⟨.cls, "Class", .string⟩, ⟨.originatingLineInfo, "OriginatingLineInfo", .string⟩,
      ⟨.connectInfo, "ConnectInfo", .utf8String⟩, ⟨.framedCompression, "FramedCompression", .enum⟩,
      ⟨.framedInterfaceId, "FramedInterfaceId", .uinteger32⟩, ⟨.framedIpAddress, "FramedIPAddress", .string⟩,
      ⟨.framedIpv6Prefix, "FramedIPv6Prefix", .string⟩, ⟨.framedIpNetmask, "FramedIPNetmask", .string⟩,
      ⟨.framedMtu, "FramedMTU", .uinteger32⟩, ⟨.framedProtocol, "FramedProtocol", .enum⟩,
      ⟨.tunneling, "Tunneling", .grouped⟩, ⟨.proxyInfo, "ProxyInfo", .grouped⟩,
      ⟨.routeRecord, "RouteRecord", .string⟩, ⟨.avp, "AVP", .custom⟩]
  decoded :=
    [⟨"SessionId", .copyFrom .sessionId⟩, ⟨"AuthApplicationId", .expect eapApplicationId⟩,
      ⟨"OriginHost", .copyFrom .originHost⟩, ⟨"OriginRealm", .copyFrom .originRealm⟩,
      ⟨"DestinationRealm", .copyFrom .destinationRealm⟩, ⟨"AuthRequestType", .copyFrom .authRequestType⟩,
      ⟨"NasPort", .copyFrom .nasPort⟩, ⟨"NasPortId", .copyFrom .nasPortId⟩,
      ⟨"OriginStateId", .copyFrom .originStateId⟩, ⟨"DestinationHost", .copyFrom .destinationHost⟩,
      ⟨"NasIdentifier", .copyFrom .nasIdentifier⟩, ⟨"NasIPAddress", .copyFrom .nasIpAddress⟩,
      ⟨"NasIPv6Address", .copyFrom .nasIpv6Address⟩, ⟨"NasPortType", .copyFrom .nasPortType⟩,
      ⟨"PortLimit", .copyFrom .portLimit⟩, ⟨"UserName", .copyFrom .userName⟩, ⟨"EAPPayload", .copyFrom .eapPayload⟩,
      ⟨"ServiceType", .copyFrom .serviceType⟩, ⟨"IdleTimeout", .copyFrom .idleTimeout⟩, ⟨"State", .copyFrom .state⟩,
      ⟨"AuthorizationLifetime", .copyFrom .authorizationLifetime⟩, ⟨"AuthGracePeriod", .copyFrom .authGracePeriod⟩,
      ⟨"AuthSessionState", .copyFrom .authSessionState⟩, ⟨"SessionTimeout", .copyFrom .sessionTimeout⟩,
      ⟨"CallbackNumber", .copyFrom .callbackNumber⟩, ⟨"CalledStationId", .copyFrom .calledStationId⟩,
      ⟨"CallingStationId", .copyFrom .callingStationId⟩, ⟨"Class", .copyFrom .cls⟩,
      ⟨"OriginatingLineInfo", .copyFrom .originatingLineInfo⟩, ⟨"ConnectInfo", .copyFrom .connectInfo⟩,
      ⟨"FramedCompression", .copyFrom .framedCompression⟩, ⟨"FramedInterfaceId", .copyFrom .framedInterfaceId⟩,
      ⟨"FramedIPAddress", .copyFrom .framedIpAddress⟩, ⟨"FramedIPv6Prefix", .copyFrom .framedIpv6Prefix⟩,
      ⟨"FramedMTU", .copyFrom .framedMtu⟩, ⟨"FramedProtocol", .copyFrom .framedProtocol⟩,
      ⟨"Tunneling", .copyFrom .tunneling⟩, ⟨"ProxyInfo", .copyFrom .proxyInfo⟩,
      ⟨"RouteRecord", .copyFrom .routeRecord⟩, ⟨"AVP", .copyFrom .avp⟩]

def diameterEAPRequest : Command := ⟨"DiameterEAPRequest", true⟩

end Request

section Answer

inductive DeaField where
  | sessionId | authApplicationId | authRequestType | originHost | originRealm | userName | eapPayload
  | eapReissuedPayload | eapMasterSessionKey | accountingEapAuthMethod | originStateId | portLimit | serviceType
  | idleTimeout | state | cls | authorizationLifetime | authGracePeriod | authSessionState | sessionTimeout
  | callbackNumber | framedCompression | framedInterfaceId | framedIpAddress | framedIpv6Prefix | framedIpNetmask
  | framedMtu | framedProtocol | nasFilterRule | tunneling | proxyInfo | avp | resultCode | multiRoundTimeOut
  | configurationToken | acctInterimInterval | errorMessage | errorReportingHost | reAuthRequestType | replyMessage
  | filterId | callbackId | framedAppletalkLink | framedAppletalkNetwork | framedAppletalkZone | framedIpv6Route
  | framedIpv6Pool | framedPool | framedIpxNetwork | framedRoute | framedRouting | redirectHost | redirectHostUsage
  | redirectMaxCacheTime
  deriving DecidableEq, Repr

def DeaField.vector : DeaField → Bool
  | .accountingEapAuthMethod | .cls | .framedCompression | .framedIpv6Prefix | .nasFilterRule | .tunneling
  | .proxyInfo | .avp | .configurationToken | .replyMessage | .filterId | .framedAppletalkNetwork
  | .framedIpv6Route | .framedRoute | .redirectHost => true
  | _ => false

def DeaField.type : DeaField → DatumType
  | .authApplicationId | .authRequestType | .originStateId | .portLimit | .serviceType | .idleTimeout
  | .authorizationLifetime | .authGracePeriod | .authSessionState | .sessionTimeout | .framedCompression
  | .framedMtu | .framedProtocol | .resultCode | .multiRoundTimeOut | .acctInterimInterval | .reAuthRequestType
  | .framedAppletalkLink | .framedAppletalkNetwork | .framedRouting | .redirectHostUsage
  | .redirectMaxCacheTime => .word
  | .accountingEapAuthMethod | .framedInterfaceId => .long
  | .nasFilterRule => .rule
  | .tunneling => .tunneling
  | .proxyInfo => .proxyInfo
  | _ => .text

def deaLayout : Layout DeaField where
  vector := DeaField.vector
  type := DeaField.type
  cleared :=
    [.userName, .eapPayload, .eapReissuedPayload, .eapMasterSessionKey, .multiRoundTimeOut, .accountingEapAuthMethod,
      .originStateId, .portLimit, .serviceType, .idleTimeout, .state, .cls, .authorizationLifetime, .authGracePeriod,
      .authSessionState, .sessionTimeout, .callbackNumber, .framedAppletalkLink, .framedAppletalkNetwork,
      .framedAppletalkZone, .framedCompression, .framedInterfaceId, .framedIpAddress, .framedIpv6Prefix,
      .framedIpv6Pool, .framedIpv6Route, .framedIpNetmask, .framedRoute, .framedPool, .framedIpxNetwork, .framedMtu,
      .framedProtocol, .framedRouting, .nasFilterRule, .tunneling, .redirectHost, .redirectHostUsage,
      .redirectMaxCacheTime, .proxyInfo, .avp]
  encoded :=
    [⟨.authApplicationId, "AuthApplicationId", .integer32⟩, ⟨.authRequestType, "AuthRequestType", .enum⟩,
      ⟨.originStateId, "OriginStateId", .uinteger32⟩, ⟨.portLimit, "PortLimit", .uinteger32⟩,
      ⟨.userName, "UserName", .utf8String⟩, ⟨.eapPayload, "EAPPayload", .string⟩,
      ⟨.eapReissuedPayload, "EAPReissuedPayload", .string⟩, ⟨.eapMasterSessionKey, "EAPMasterSessionKey", .string⟩,
      ⟨.accountingEapAuthMethod, "AccountingEapAuthMethod", .uinteger64⟩, ⟨.serviceType, "ServiceType", .enum⟩,
      ⟨.resultCode, "ResultCode", .uinteger32⟩, ⟨.multiRoundTimeOut, "MultiRoundTimeOut", .uinteger32⟩,
      ⟨.configurationToken, "ConfigurationToken", .string⟩,
      ⟨.acctInterimInterval, "AcctInterimInterval", .uinteger32⟩, ⟨.errorMessage, "ErrorMessage", .utf8String⟩,
      ⟨.errorReportingHost, "ErrorReportingHost", .diamId⟩, ⟨.reAuthRequestType, "ReAuthRequestType", .enum⟩,
      ⟨.replyMessage, "ReplyMessage", .utf8String⟩, ⟨.filterId, "FilterId", .utf8String⟩,
      ⟨.callbackId, "CallbackId", .utf8String⟩, ⟨.framedAppletalkLink, "FramedAppletalkLink", .uinteger32⟩,
      ⟨.framedAppletalkNetwork, "FramedAppletalkNetwork", .uinteger32⟩,
      ⟨.framedAppletalkZone, "FramedAppletalkZone", .string⟩, ⟨.framedIpv6Route, "FramedIPv6Route", .utf8String⟩,
      ⟨.framedIpv6Pool, "FramedIPv6Pool", .string⟩, ⟨.framedPool, "FramedPool", .string⟩,
      ⟨.framedIpxNetwork, "FramedIPXNetwork", .string⟩, ⟨.framedRoute, "FramedRoute", .utf8String⟩,
      ⟨.framedRouting, "FramedRouting", .enum⟩, ⟨.redirectHost, "RedirectHost", .diamId⟩,
      ⟨.redirectHostUsage, "RedirectHostUsage", .enum⟩, ⟨.redirectMaxCacheTime, "RedirectMaxCacheTime", .uinteger32⟩,
      ⟨.idleTimeout, "IdleTimeout", .uinteger32⟩, ⟨.state, "State", .string⟩,
      ⟨.authorizationLifetime, "AuthorizationLifetime", .uinteger32⟩,
      ⟨.authGracePeriod, "AuthGracePeriod", .uinteger32⟩, ⟨.authSessionState, "AuthSessionState", .uinteger32⟩,
      ⟨.sessionTimeout, "SessionTimeout", .uinteger32⟩, ⟨.callbackNumber, "CallbackNumber", .utf8String⟩,
      ⟨.cls, "Class", .string⟩, ⟨.framedCompression, "FramedCompression", .enum⟩,
      ⟨.framedInterfaceId, "FramedInterfaceId", .uinteger64⟩, ⟨.framedIpAddress, "FramedIPAddress", .string⟩,
      ⟨.framedIpv6Prefix, "FramedIPv6Prefix", .string⟩, ⟨.framedIpNetmask, "FramedIPNetmask", .string⟩,
      ⟨.framedMtu, "FramedMTU", .uinteger32⟩, ⟨.framedProtocol, "FramedProtocol", .enum⟩,
      ⟨.nasFilterRule, "NASFilterRule", .ipFilterRule⟩, ⟨.tunneling, "Tunneling", .grouped⟩,
      ⟨.proxyInfo, "ProxyInfo", .grouped⟩, ⟨.avp, "AVP", .custom⟩]
  decoded :=
    [⟨"SessionId", .copyFrom .sessionId⟩, ⟨"AuthApplicationId", .copyFrom .authApplicationId⟩,
      ⟨"OriginHost", .copyFrom .originHost⟩, ⟨"OriginRealm", .copyFrom .originRealm⟩,
      ⟨"OriginStateId", .copyFrom .originStateId⟩, ⟨"PortLimit", .copyFrom .portLimit⟩,
      ⟨"UserName", .copyFrom .userName⟩, ⟨"EAPPayload", .copyFrom .eapPayload⟩,
      ⟨"EAPReissuedPayload", .copyFrom .eapReissuedPayload⟩, ⟨"EAPMasterSessionKey", .copyFrom .eapMasterSessionKey⟩,
      ⟨"AccountingEapAuthMethod", .copyFrom .accountingEapAuthMethod⟩, ⟨"ServiceType", .copyFrom .serviceType⟩,
      ⟨"ResultCode", .copyFrom .resultCode⟩, ⟨"MultiRoundTimeOut", .copyFrom .multiRoundTimeOut⟩,
      ⟨"ConfigurationToken", .copyFrom .configurationToken⟩, ⟨"AcctInterimInterval", .copyFrom .acctInterimInterval⟩,
      ⟨"ErrorMessage", .copyFrom .errorMessage⟩, ⟨"ErrorReportingHost", .copyFrom .errorReportingHost⟩,
      ⟨"ReAuthRequestType", .copyFrom .reAuthRequestType⟩, ⟨"FilterId", .copyFrom .filterId⟩,
      ⟨"CallbackId", .copyFrom .callbackId⟩, ⟨"FramedAppletalkLink", .copyFrom .framedAppletalkLink⟩,
      ⟨"FramedAppletalkNetwork", .copyFrom .framedAppletalkNetwork⟩,
      ⟨"FramedAppletalkZone", .copyFrom .framedAppletalkZone⟩, ⟨"FramedIPv6Route", .copyFrom .framedIpv6Route⟩,
      ⟨"FramedIPv6Pool", .copyFrom .framedIpv6Pool⟩, ⟨"FramedPool", .copyFrom .framedPool⟩,
      ⟨"FramedIPXNetwork", .copyFrom .framedIpxNetwork⟩, ⟨"FramedRoute", .copyFrom .framedRoute⟩,
      ⟨"FramedRouting", .copyFrom .framedRouting⟩, ⟨"RedirectHost", .copyFrom .redirectHost⟩,
      ⟨"RedirectHostUsage", .copyFrom .redirectHostUsage⟩, ⟨"RedirectMaxCacheTime", .copyFrom .redirectMaxCacheTime⟩,
      ⟨"IdleTimeout", .copyFrom .idleTimeout⟩, ⟨"State", .copyFrom .state⟩,
      ⟨"AuthorizationLifetime", .copyFrom .authorizationLifetime⟩, ⟨"AuthGracePeriod", .copyFrom .authGracePeriod⟩,
      ⟨"AuthSessionState", .copyFrom .authSessionState⟩, ⟨"SessionTimeout", .copyFrom .sessionTimeout⟩,
      ⟨"CallbackNumber", .copyFrom .callbackNumber⟩, ⟨"Class", .copyFrom .cls⟩,
      ⟨"FramedCompression", .copyFrom .framedCompression⟩, ⟨"FramedInterfaceId", .copyFrom .framedInterfaceId⟩,
      ⟨"FramedIPAddress", .copyFrom .framedIpAddress⟩, ⟨"FramedIPv6Prefix", .copyFrom .framedIpv6Prefix⟩,
      ⟨"FramedMTU", .copyFrom .framedMtu⟩, ⟨"FramedProtocol", .copyFrom .framedProtocol⟩,
      ⟨"NASFilterRule", .copyFrom .nasFilterRule⟩, ⟨"Tunneling", .copyFrom .tunneling⟩,
      ⟨"ProxyInfo", .copyFrom .proxyInfo⟩, ⟨"AVP", .copyFrom .avp⟩]

def diameterEAPAnswer : Command := ⟨"DiameterEAPAnswer", false⟩

end Answer

section Lists

theorem derLayout_sound : derLayout.Sound where
  names := by decide +kernel
  once := by decide +kernel
  paired := by decide +kernel

theorem deaLayout_sound : deaLayout.Sound where
  names := by decide +kernel
  once := by decide +kernel
  paired := by decide +kernel

theorem der_carried (f : DerField) (ordinary : f ∉ [.sessionId, .authApplicationId, .framedIpNetmask]) :
    derLayout.Carried f ∧ f ∈ derLayout.cleared := by
  cases f <;> first | decide +kernel | simp at ordinary

theorem dea_carried (f : DeaField)
    (ordinary : f ∉ [.sessionId, .originHost, .originRealm, .authRequestType, .framedIpNetmask, .replyMessage]) :
    deaLayout.Carried f := by
  cases f <;> first | decide +kernel | simp at ordinary

/-- The entries have the layout of the members, with these exceptions. -/
theorem der_matched : ∀ row ∈ derLayout.encoded, row.field ∈ [DerField.framedInterfaceId, .proxyInfo, .avp] ∨
    (derLayout.type row.field).matched row.kind = true := by
  decide +kernel

theorem dea_matched : ∀ row ∈ deaLayout.encoded, row.field ∈ [DeaField.proxyInfo, .avp] ∨
    (deaLayout.type row.field).matched row.kind = true := by
  decide +kernel

def deaKept : List DeaField :=
  [.authApplicationId, .resultCode, .acctInterimInterval, .errorMessage, .errorReportingHost, .reAuthRequestType, .callbackId]

def deaKeptVectors : List DeaField := [.configurationToken, .filterId]

/-- The attributes of a DEA that are neither read nor cleared. -/
def deaUnread : List DeaField := [.authRequestType, .replyMessage]

theorem dea_cleared (f : DeaField) (ordinary : f ∉ [.sessionId, .originHost, .originRealm] ++ deaKept ++ deaKeptVectors ++ deaUnread) :
    f ∈ deaLayout.cleared := by
  cases f <;> first | decide +kernel | simp [deaKept, deaKeptVectors, deaUnread] at ordinary

theorem dea_kept : ∀ f ∈ deaKept, deaLayout.Carried f ∧ f ∉ deaLayout.cleared ∧ deaLayout.vector f = false := by
  decide +kernel

theorem dea_keptVectors : ∀ f ∈ deaKeptVectors, deaLayout.Carried f ∧ f ∉ deaLayout.cleared ∧ deaLayout.vector f = true := by
  decide +kernel

theorem dea_unread : ∀ f ∈ deaUnread, ¬deaLayout.Carried f ∧ f ∉ deaLayout.cleared := by
  decide +kernel

end Lists

section Messages

def DerCompared (f : DerField) : Prop := f ∉ [DerField.sessionId, .originHost, .originRealm, .authApplicationId]

instance : DecidablePred DerCompared := fun f =>
  inferInstanceAs (Decidable (f ∉ [DerField.sessionId, .originHost, .originRealm, .authApplicationId]))

def DeaCompared (f : DeaField) : Prop := f ∉ [DeaField.sessionId, .originHost, .originRealm]

instance : DecidablePred DeaCompared := fun f => inferInstanceAs (Decidable (f ∉ [DeaField.sessionId, .originHost, .originRealm]))

structure DerTransferable (sent : Contents derLayout) : Prop where
  framedInterfaceId : (sent.data .framedInterfaceId).isSet = false
  framedIpNetmask : (sent.data .framedIpNetmask).isSet = false
  avp : (sent.data .avp).isSet = false
  proxyInfo : (sent.data .proxyInfo).isSet = true → Plain (sent.data .proxyInfo)

/-- Besides, nothing of the answer before is in the way of this one. -/
structure DeaTransferable (sent previous : Contents deaLayout) : Prop where
  framedIpNetmask : (sent.data .framedIpNetmask).isSet = false
  avp : (sent.data .avp).isSet = false
  proxyInfo : (sent.data .proxyInfo).isSet = true → Plain (sent.data .proxyInfo)
  kept : ∀ f ∈ deaKept, (sent.data f).isSet = false → (previous.data f).isSet = false
  keptVectors : ∀ f ∈ deaKeptVectors, if (sent.data f).isSet then (previous.data f).value.length ≤ (sent.data f).value.length
    else (previous.data f).isSet = false
  unread : ∀ f ∈ deaUnread, Same (previous.data f) (sent.data f)

theorem der_storable_iff (sent : Contents derLayout) :
    (∀ row ∈ derLayout.encoded, (sent.data row.field).isSet = true → Storable row.kind (sent.data row.field)) ↔
      (sent.data .framedInterfaceId).isSet = false ∧ (sent.data .avp).isSet = false ∧
        ((sent.data .proxyInfo).isSet = true → Plain (sent.data .proxyInfo)) := by
  constructor
  · intro storable
    refine ⟨Bool.eq_false_iff.mpr ?_, Bool.eq_false_iff.mpr ?_, ?_⟩
    · intro isSet
      exact not_storable_long sent rfl rfl (storable ⟨.framedInterfaceId, "FramedInterfaceId", .uinteger32⟩ (by decide +kernel) isSet)
    · intro isSet
      exact not_storable_custom _ (storable ⟨.avp, "AVP", .custom⟩ (by decide +kernel) isSet)
    · intro isSet
      exact (storable_proxyInfo_iff sent rfl).mp (storable ⟨.proxyInfo, "ProxyInfo", .grouped⟩ (by decide +kernel) isSet)
  · rintro ⟨interfaceUnset, avpUnset, plain⟩ row member isSet
    have grouped : ∀ row ∈ derLayout.encoded, row.field = .proxyInfo → row.kind = .grouped := by decide +kernel
    rcases der_matched row member with hard | fitting
    case inr => exact storable_of_matched sent fitting
    case inl =>
      rcases List.mem_cons.mp hard with same | hard
      · rw [same, interfaceUnset] at isSet
        cases isSet
      rcases List.mem_cons.mp hard with same | hard
      · rw [grouped row member same, same]
        rw [same] at isSet
        exact (storable_proxyInfo_iff sent rfl).mpr (plain isSet)
      · rw [List.mem_singleton.mp hard, avpUnset] at isSet
        cases isSet

theorem dea_storable_iff (sent : Contents deaLayout) :
    (∀ row ∈ deaLayout.encoded, (sent.data row.field).isSet = true → Storable row.kind (sent.data row.field)) ↔
      (sent.data .avp).isSet = false ∧ ((sent.data .proxyInfo).isSet = true → Plain (sent.data .proxyInfo)) := by
  constructor
  · intro storable
    refine ⟨Bool.eq_false_iff.mpr ?_, ?_⟩
    · intro isSet
      exact not_storable_custom _ (storable ⟨.avp, "AVP", .custom⟩ (by decide +kernel) isSet)
    · intro isSet
      exact (storable_proxyInfo_iff sent rfl).mp (storable ⟨.proxyInfo, "ProxyInfo", .grouped⟩ (by decide +kernel) isSet)
  · rintro ⟨avpUnset, plain⟩ row member isSet
    have grouped : ∀ row ∈ deaLayout.encoded, row.field = .proxyInfo → row.kind = .grouped := by decide +kernel
    rcases dea_matched row member with hard | fitting
    case inr => exact storable_of_matched sent fitting
    case inl =>
      rcases List.mem_cons.mp hard with same | hard
      · rw [grouped row member same, same]
        rw [same] at isSet
        exact (storable_proxyInfo_iff sent rfl).mpr (plain isSet)
      · rw [List.mem_singleton.mp hard, avpUnset] at isSet
        cases isSet

theorem der_survives_iff (sent previous : Contents derLayout) :
    (∀ f, DerCompared f → Survives derLayout sent.data previous.data f) ↔ (sent.data .framedIpNetmask).isSet = false := by
  have dropped : ¬derLayout.Carried .framedIpNetmask ∧ DerField.framedIpNetmask ∈ derLayout.cleared := by decide +kernel
  constructor
  · intro survives
    exact (survives_dropped_iff dropped.1 dropped.2).mp (survives .framedIpNetmask (by decide))
  · intro unset f compared
    by_cases netmask : f = .framedIpNetmask
    · rw [netmask]
      exact (survives_dropped_iff dropped.1 dropped.2).mpr unset
    · obtain ⟨carried, cleared⟩ := der_carried f (by simp [DerCompared] at compared; simp [compared, netmask])
      exact survives_cleared carried cleared

theorem dea_survives_iff (sent previous : Contents deaLayout) :
    (∀ f, DeaCompared f → Survives deaLayout sent.data previous.data f) ↔
      (sent.data .framedIpNetmask).isSet = false ∧
      (∀ f ∈ deaKept, (sent.data f).isSet = false → (previous.data f).isSet = false) ∧
      (∀ f ∈ deaKeptVectors, if (sent.data f).isSet then (previous.data f).value.length ≤ (sent.data f).value.length
        else (previous.data f).isSet = false) ∧
      ∀ f ∈ deaUnread, Same (previous.data f) (sent.data f) := by
  have dropped : ¬deaLayout.Carried .framedIpNetmask ∧ DeaField.framedIpNetmask ∈ deaLayout.cleared := by decide +kernel
  have scalar : ∀ f ∈ deaKept, Survives deaLayout sent.data previous.data f ↔
      ((sent.data f).isSet = false → (previous.data f).isSet = false) := by
    intro f member
    obtain ⟨carried, kept, shape⟩ := dea_kept f member
    rw [survives_kept_iff carried kept, shape]
    cases (sent.data f).isSet <;> simp
  have vector : ∀ f ∈ deaKeptVectors, Survives deaLayout sent.data previous.data f ↔
      if (sent.data f).isSet then (previous.data f).value.length ≤ (sent.data f).value.length
        else (previous.data f).isSet = false := by
    intro f member
    obtain ⟨carried, kept, shape⟩ := dea_keptVectors f member
    rw [survives_kept_iff carried kept, shape]
    simp
  have unread : ∀ f ∈ deaUnread, Survives deaLayout sent.data previous.data f ↔ Same (previous.data f) (sent.data f) :=
    fun f member => survives_unread_iff (dea_unread f member).1 (dea_unread f member).2
  constructor
  · intro survives
    refine ⟨(survives_dropped_iff dropped.1 dropped.2).mp (survives .framedIpNetmask (by decide)), ?_, ?_, ?_⟩
    · exact fun f member => (scalar f member).mp (survives f (by revert f; decide))
    · exact fun f member => (vector f member).mp (survives f (by revert f; decide))
    · exact fun f member => (unread f member).mp (survives f (by revert f; decide))
  · rintro ⟨unset, scalars, vectors, others⟩ f compared
    by_cases netmask : f = .framedIpNetmask
    · rw [netmask]
      exact (survives_dropped_iff dropped.1 dropped.2).mpr unset
    by_cases inKept : f ∈ deaKept
    · exact (scalar f inKept).mpr (scalars f inKept)
    by_cases inVectors : f ∈ deaKeptVectors
    · exact (vector f inVectors).mpr (vectors f inVectors)
    by_cases inUnread : f ∈ deaUnread
    · exact (unread f inUnread).mpr (others f inUnread)
    -- The rest is sent, cleared and read.
    · refine survives_cleared (dea_carried f ?_) (dea_cleared f ?_)
      · simp [DeaCompared, deaUnread] at compared inUnread
        simp [compared, inUnread, netmask]
      · simp only [DeaCompared] at compared
        simp only [List.mem_append, compared, inKept, inVectors, inUnread, or_self, not_false_eq_true]

theorem der_expected (sent : Contents derLayout)
    (application : (sent.data .authApplicationId).isSet = true → (sent.data .authApplicationId).value = [.word eapApplicationId]) :
    Expected derLayout sent.data := by
  have only : ∀ row ∈ derLayout.decoded, row.action.field = none →
      row.action = .expect eapApplicationId ∧ ∀ own ∈ derLayout.encoded, own.avpName = row.avpName → own.field = .authApplicationId := by
    decide +kernel
  intro row member value action own listed named isSet
  obtain ⟨expects, field⟩ := only row member (by rw [action]; rfl)
  cases action.symm.trans expects
  rw [field own listed named] at isSet ⊢
  exact application isSet

theorem dea_expected (sent : Contents deaLayout) : Expected deaLayout sent.data := by
  have none : ∀ row ∈ deaLayout.decoded, row.action.field.isSome := by decide +kernel
  intro row member value action
  have read := none row member
  rw [action] at read
  cases read

/-- A message comes through exactly when the dictionary names the command, nothing is set that
is sent wrongly or not read, and, for an answer, nothing that is not cleared was set before. -/
theorem eapMessages_roundTrip_iff (dm : CommandCodes) :
    (∀ sent previous : Contents derLayout,
      ((sent.data .authApplicationId).isSet = true → (sent.data .authApplicationId).value = [.word eapApplicationId]) →
      (RoundTrips diameterEAPRequest derLayout dm DerCompared sent previous ↔
        (dm diameterEAPRequest.name).isSome ∧ DerTransferable sent)) ∧
    ∀ sent previous : Contents deaLayout,
      RoundTrips diameterEAPAnswer deaLayout dm DeaCompared sent previous ↔
        (dm diameterEAPAnswer.name).isSome ∧ DeaTransferable sent previous := by
  constructor
  · intro sent previous application
    rw [roundTrips_iff derLayout_sound (der_expected sent application), der_storable_iff, der_survives_iff]
    refine and_congr_right fun _ => ?_
    constructor
    · rintro ⟨⟨interface, avp, proxyInfo⟩, netmask⟩
      exact ⟨interface, netmask, avp, proxyInfo⟩
    · rintro ⟨interface, netmask, avp, proxyInfo⟩
      exact ⟨⟨interface, avp, proxyInfo⟩, netmask⟩
  · intro sent previous
    rw [roundTrips_iff deaLayout_sound (dea_expected sent), dea_storable_iff, dea_survives_iff]
    refine and_congr_right fun _ => ?_
    constructor
    · rintro ⟨⟨avp, proxyInfo⟩, netmask, kept, keptVectors, unread⟩
      exact ⟨netmask, avp, proxyInfo, kept, keptVectors, unread⟩
    · rintro ⟨netmask, avp, proxyInfo, kept, keptVectors, unread⟩
      exact ⟨⟨avp, proxyInfo⟩, netmask, kept, keptVectors, unread⟩

section Loaded

open OpenDiameter.Parser.DictionaryLoader

/-- `DiameterDictionaryManager::getCommandCode` with what has been loaded. -/
def loadedCommands (t : Tables) : CommandCodes := fun name =>
  (t.commandList.find? (·.name == name)).map fun com => (com.code, com.appId)

theorem loadedCommands_unknown {t : Tables} (suffixed : t.Suffixed) :
    loadedCommands t diameterEAPRequest.name = none ∧ loadedCommands t diameterEAPAnswer.name = none := by
  have unknown (name : String) (other : ∀ base : String, name ≠ base ++ "-Request" ∧ name ≠ base ++ "-Answer") :
      loadedCommands t name = none := by
    unfold loadedCommands
    rw [Option.map_eq_none_iff, List.find?_eq_none]
    intro com mem same
    obtain ⟨base, named⟩ := suffixed com mem
    rw [beq_iff_eq.mp same] at named
    exact named.elim (other base).1 (other base).2
  have differ (name suffix : String) (front : (name.toList.reverse).take suffix.length ≠ suffix.toList.reverse) (base : String) :
      name ≠ base ++ suffix := by
    rintro rfl
    apply front
    rw [String.toList_append, List.reverse_append, List.take_left']
    rw [List.length_reverse, String.length_toList]
  exact ⟨unknown _ fun base => ⟨differ _ _ (by decide) base, differ _ _ (by decide) base⟩,
    unknown _ fun base => ⟨differ _ _ (by decide) base, differ _ _ (by decide) base⟩⟩

/-- No message comes through with a dictionary that the loader has made. -/
theorem not_roundTrips_of_loads {env : Environment} {events : List Event} {loaded : Loader}
    (loads : Loader.parseXMLDictionary env events = .ok loaded) :
    (∀ sent previous : Contents derLayout,
      ¬RoundTrips diameterEAPRequest derLayout (loadedCommands loaded.tables) DerCompared sent previous) ∧
    ∀ sent previous : Contents deaLayout,
      ¬RoundTrips diameterEAPAnswer deaLayout (loadedCommands loaded.tables) DeaCompared sent previous := by
  obtain ⟨request, answer⟩ := loadedCommands_unknown (Loader.parseXMLDictionary_suffixed loads)
  constructor
  · rintro sent previous ⟨msg, received, built, -⟩
    obtain ⟨code, appId, acl, found, -⟩ := parseAppToRaw_returned_iff.mp built
    rw [request] at found
    cases found
  · rintro sent previous ⟨msg, received, built, -⟩
    obtain ⟨code, appId, acl, found, -⟩ := parseAppToRaw_returned_iff.mp built
    rw [answer] at found
    cases found

end Loaded

def eapCommands : CommandCodes := fun name =>
  if name = "DiameterEAPRequest" ∨ name = "DiameterEAPAnswer" then some (268, 5) else none

/-- An answer with `AAA_AUTHENTICATION_REJECTED`. -/
def rejected : Contents deaLayout := (Contents.blank deaLayout).assign .resultCode (.word 4001) rfl

def sampleTunneling : Tunneling := ⟨some 3, some 1, some [49], none, some 7, none, none, some [112], none⟩

def sampleDER : Contents derLayout :=
  let words := ((Contents.blank derLayout).assign .authApplicationId (.word eapApplicationId) rfl).assign .authRequestType
    (.word 3) rfl
  let texts := (words.assign .eapPayload (.text [2, 1, 0, 5, 1]) rfl).fill .cls [.text [1], .text [2]] (by decide)
    Bool.noConfusion
  let tunnels := texts.fill .tunneling [.tunneling sampleTunneling, .tunneling sampleTunneling] (by decide) Bool.noConfusion
  tunnels.fill .proxyInfo [.proxyInfo ⟨some [104], some [115], none⟩] (by decide) Bool.noConfusion

/-- What the object holds of the request before. -/
def earlierDER : Contents derLayout :=
  (((Contents.blank derLayout).assign .nasPort (.word 7) rfl).assign .framedIpNetmask (.text [255]) rfl).fill .cls
    [.text [7], .text [8], .text [9]] (by decide) Bool.noConfusion

def sampleDEA : Contents deaLayout :=
  (((Contents.blank deaLayout).assign .resultCode (.word 2001) rfl).fill .filterId
    [.text [1], .text [2], .text [3]] (by decide) Bool.noConfusion).fill .cls [.text [1]] (by decide) Bool.noConfusion

def earlierDEA : Contents deaLayout :=
  ((rejected.fill .filterId [.text [7], .text [8]] (by decide) Bool.noConfusion).fill .cls [.text [7], .text [8]]
    (by decide) Bool.noConfusion).assign .eapPayload (.text [4]) rfl

theorem eapMessages_roundTrip_iff_reused :
    RoundTrips diameterEAPRequest derLayout eapCommands DerCompared sampleDER earlierDER ∧
      RoundTrips diameterEAPAnswer deaLayout eapCommands DeaCompared sampleDEA earlierDEA := by
  constructor
  · refine ((eapMessages_roundTrip_iff eapCommands).1 sampleDER earlierDER fun _ => rfl).mpr ⟨rfl, rfl, rfl, rfl, ?_⟩
    intro isSet info member
    have only : (sampleDER.data .proxyInfo).value = [.proxyInfo ⟨some [104], some [115], none⟩] := rfl
    rw [only] at member
    cases List.mem_singleton.mp member
    rfl
  · refine ((eapMessages_roundTrip_iff eapCommands).2 sampleDEA earlierDEA).mpr ?_
    exact ⟨rfl, rfl, rfl, fun isSet => Bool.noConfusion isSet, by decide +kernel, by decide +kernel, by decide +kernel⟩

/-- An answer without a result code is read as if it had the one before. -/
theorem resultCode_survives :
    ¬∀ dm : CommandCodes, (dm diameterEAPRequest.name).isSome → (dm diameterEAPAnswer.name).isSome →
      (∀ sent previous : Contents derLayout,
        (∀ f, derLayout.vector f = true → (sent.data f).isSet = true → (sent.data f).value ≠ []) →
        ((sent.data .authApplicationId).isSet = true → (sent.data .authApplicationId).value = [.word eapApplicationId]) →
        RoundTrips diameterEAPRequest derLayout dm DerCompared sent previous) ∧
      ∀ sent previous : Contents deaLayout,
        (∀ f, deaLayout.vector f = true → (sent.data f).isSet = true → (sent.data f).value ≠ []) →
        RoundTrips diameterEAPAnswer deaLayout dm DeaCompared sent previous := by
  intro claim
  have through := (claim eapCommands rfl rfl).2 (.blank deaLayout) rejected fun f _ isSet => Bool.noConfusion isSet
  obtain ⟨-, -, survives⟩ := (roundTrips_iff deaLayout_sound (dea_expected _)).mp through
  have unset := ((dea_survives_iff _ _).mp survives).2.1 .resultCode (by decide) rfl
  have isSet : (rejected.data .resultCode).isSet = true := rfl
  rw [isSet] at unset
  cases unset

end Messages

end OpenDiameter.Access
