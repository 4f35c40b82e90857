import OpenDiameter.Parser.AttributeCodecs

/-!
`DER_Data` and `DEA_Data`, with the groups that they hold, and what their parsers list.
-/

namespace OpenDiameter.DiameterEap

open OpenDiameter.Parser

/-- `EapApplicationId` -/
def eapApplicationId : UInt32 := 5

/-- How an attribute of a group is declared. -/
inductive MemberShape where
  | scholar (type : ValueType)
  | vector (type : ValueType)
  deriving DecidableEq, Repr

namespace MemberShape

@[reducible] def Content : MemberShape → Type
  | .scholar type => ScholarAttribute type.Value
  | .vector type => VectorAttribute type.Value

def codec : (shape : MemberShape) → AttributeCodec shape.Content
  | .scholar type => .scholar type
  | .vector type => .vector type

/-- An attribute of a new group. -/
def new : (shape : MemberShape) → shape.Content
  | .scholar type => ⟨type.new, false⟩
  | .vector _ => .unset

end MemberShape

/-- The attributes of `tunneling_t`. -/
inductive TunnelingAttribute where
  | tunnelType
  | tunnelMediumType
  | tunnelClientEndpoint
  | tunnelServerEndpoint
  | tunnelPreference
  | tunnelClientAuthId
  | tunnelServerAuthId
  | tunnelPassword
  | tunnelPrivateGroupId
  deriving DecidableEq, Repr

def TunnelingAttribute.shape : TunnelingAttribute → MemberShape
  | .tunnelType | .tunnelMediumType | .tunnelPreference | .tunnelClientAuthId | .tunnelServerAuthId =>
    .scholar .unsigned32
  | .tunnelClientEndpoint | .tunnelServerEndpoint | .tunnelPassword | .tunnelPrivateGroupId =>
    .scholar .string

abbrev Tunneling : Type := (attr : TunnelingAttribute) → attr.shape.Content

/-- `CopyTo` and `CopyFrom` of `tunneling_t`. -/
def tunnelingTable : RecordTable TunnelingAttribute where
  cleared := []
  writer :=
    [⟨"Tunnel-Type", .tunnelType, some .enum⟩,
      ⟨"Tunnel-Medium-Type", .tunnelMediumType, some .enum⟩,
      ⟨"Tunnel-Client-Endpoint", .tunnelClientEndpoint, some .utf8String⟩,
      ⟨"Tunnel-Server-Endpoint", .tunnelServerEndpoint, some .utf8String⟩,
      ⟨"Tunnel-Preference", .tunnelPreference, some .uinteger32⟩,
      ⟨"Tunnel-Client-Auth-Id", .tunnelClientAuthId, some .uinteger32⟩,
      ⟨"Tunnel-Server-Auth-Id", .tunnelServerAuthId, some .uinteger32⟩,
      ⟨"Tunnel-Password", .tunnelPassword, some .string⟩,
      ⟨"Tunnel-Private-Group-Id", .tunnelPrivateGroupId, some .utf8String⟩]
  reader :=
    [.copyFrom "Tunnel-Type" .tunnelType,
      .copyFrom "Tunnel-Medium-Type" .tunnelMediumType,
      .copyFrom "Tunnel-Client-Endpoint" .tunnelClientEndpoint,
      .copyFrom "Tunnel-Server-Endpoint" .tunnelServerEndpoint,
      .copyFrom "Tunnel-Preference" .tunnelPreference,
      .copyFrom "Tunnel-Client-Auth-Id" .tunnelClientAuthId,
      .copyFrom "Tunnel-Server-Auth-Id" .tunnelServerAuthId,
      .copyFrom "Tunnel-Password" .tunnelPassword,
      .copyFrom "Tunnel-Private-Group-Id" .tunnelPrivateGroupId]

/-- The attributes of `proxyinfo_t`. -/
inductive ProxyInfoAttribute where
  | proxyHost
  | proxyState
  | avp
  deriving DecidableEq, Repr

def ProxyInfoAttribute.shape : ProxyInfoAttribute → MemberShape
  | .proxyHost | .proxyState =>
    .scholar .string
  | .avp => .vector .string

abbrev ProxyInfo : Type := (attr : ProxyInfoAttribute) → attr.shape.Content

/-- `CopyTo` and `CopyFrom` of `proxyinfo_t`. There is no type `AAA_AVP_CUSTOM_TYPE` in the list of
types that entries are made of. -/
def proxyInfoTable : RecordTable ProxyInfoAttribute where
  cleared := []
  writer :=
    [⟨"Proxy-Host", .proxyHost, some .diamId⟩,
      ⟨"Proxy-State", .proxyState, some .string⟩,
      ⟨"AVP", .avp, none⟩]
  reader :=
    [.copyFrom "Proxy-Host" .proxyHost,
      .copyFrom "Proxy-State" .proxyState,
      .copyFrom "AVP" .avp]

/-- How an attribute is declared. -/
inductive AttributeShape where
  | scholar (type : ValueType)
  | vector (type : ValueType)
  | tunneling
  | proxyInfo
  deriving DecidableEq, Repr

namespace AttributeShape

@[reducible] def Content : AttributeShape → Type
  | .scholar type => ScholarAttribute type.Value
  | .vector type => VectorAttribute type.Value
  | .tunneling => VectorAttribute Tunneling
  | .proxyInfo => VectorAttribute ProxyInfo

def codec : (shape : AttributeShape) → AttributeCodec shape.Content
  | .scholar type => .scholar type
  | .vector type => .vector type
  | .tunneling => .group (fun attr => attr.shape.codec) tunnelingTable fun attr => attr.shape.new
  | .proxyInfo => .group (fun attr => attr.shape.codec) proxyInfoTable fun attr => attr.shape.new

/-- An attribute of a new record. -/
def new : (shape : AttributeShape) → shape.Content
  | .scholar type => ⟨type.new, false⟩
  | .vector _ => .unset
  | .tunneling => .unset
  | .proxyInfo => .unset

end AttributeShape

/-- The attributes of `DER_Data`. -/
inductive DerAttribute where
  | sessionId
  | authApplicationId
  | originHost
  | originRealm
  | destinationRealm
  | authRequestType
  | nasPort
  | nasPortId
  | originStateId
  | destinationHost
  | nasIdentifier
  | nasIpAddress
  | nasIpv6Address
  | nasPortType
  | portLimit
  | userName
  | eapPayload
  | serviceType
  | idleTimeout
  | state
  | authorizationLifetime
  | authGracePeriod
  | authSessionState
  | sessionTimeout
  | callbackNumber
  | calledStationId
  | callingStationId
  | class_
  | originatingLineInfo
  | connectInfo
  | framedCompression
  | framedInterfaceId
  | framedIpAddress
  | framedIpv6Prefix
  | framedIpNetmask
  | framedMtu
  | framedProtocol
  | tunneling
  | proxyInfo
  | routeRecord
  | avp
  deriving DecidableEq, Repr

def DerAttribute.shape : DerAttribute → AttributeShape
  | .sessionId | .originHost | .originRealm | .destinationRealm | .nasPortId | .destinationHost
  | .nasIdentifier | .nasIpAddress | .nasIpv6Address | .userName | .eapPayload | .state
  | .callbackNumber | .calledStationId | .callingStationId | .originatingLineInfo | .connectInfo
  | .framedIpAddress | .framedIpNetmask =>
    .scholar .string
  | .authApplicationId | .authRequestType | .nasPort | .originStateId | .nasPortType | .portLimit
  | .serviceType | .idleTimeout | .authorizationLifetime | .authGracePeriod | .authSessionState
  | .sessionTimeout | .framedMtu | .framedProtocol =>
    .scholar .unsigned32
  | .class_ | .framedIpv6Prefix | .routeRecord | .avp =>
    .vector .string
  | .framedCompression => .vector .unsigned32
  | .framedInterfaceId => .scholar .unsigned64
  | .tunneling => .tunneling
  | .proxyInfo => .proxyInfo

/-- `DER_Data` -/
abbrev DerData : Type := (attr : DerAttribute) → attr.shape.Content

abbrev DerData.new : DerData := fun attr => attr.shape.new

/-- `DER_Parser`, with `DER_Data::Clear`. -/
def derTable : RecordTable DerAttribute where
  cleared :=
    [.sessionId, .authApplicationId, .originHost, .originRealm, .destinationRealm,
      .authRequestType, .nasPort, .nasPortId, .originStateId, .destinationHost, .nasIdentifier,
      .nasIpAddress, .nasIpv6Address, .nasPortType, .portLimit, .userName, .eapPayload,
      .serviceType, .idleTimeout, .state, .authorizationLifetime, .authGracePeriod,
      .authSessionState, .sessionTimeout, .callbackNumber, .calledStationId, .callingStationId,
      .class_, .originatingLineInfo, .connectInfo, .framedCompression, .framedInterfaceId,
      .framedIpAddress, .framedIpv6Prefix, .framedIpNetmask, .framedMtu, .framedProtocol,
      .tunneling, .proxyInfo, .routeRecord, .avp]
  writer :=
    [⟨"Auth-Application-Id", .authApplicationId, some .integer32⟩,
      ⟨"Origin-Host", .originHost, some .diamId⟩,
      ⟨"Origin-Realm", .originRealm, some .diamId⟩,
      ⟨"Destination-Realm", .destinationRealm, some .diamId⟩,
      ⟨"Auth-Request-Type", .authRequestType, some .enum⟩,
      ⟨"Nas-Port", .nasPort, some .uinteger32⟩,
      ⟨"Nas-Port-Id", .nasPortId, some .utf8String⟩,
      ⟨"Origin-State-Id", .originStateId, some .uinteger32⟩,
      ⟨"Destination-Host", .destinationHost, some .diamId⟩,
      ⟨"Nas-Identifier", .nasIdentifier, some .utf8String⟩,
      ⟨"Nas-IP-Address", .nasIpAddress, some .string⟩,
      ⟨"Nas-IPv6-Address", .nasIpv6Address, some .string⟩,
      ⟨"Nas-Port-Type", .nasPortType, some .enum⟩,
      ⟨"Port-Limit", .portLimit, some .uinteger32⟩,
      ⟨"User-Name", .userName, some .utf8String⟩,
      ⟨"EAP-Payload", .eapPayload, some .string⟩,
      ⟨"Service-Type", .serviceType, some .enum⟩,
      ⟨"Idle-Timeout", .idleTimeout, some .uinteger32⟩,
      ⟨"State", .state, some .string⟩,
      ⟨"Authorization-Lifetime", .authorizationLifetime, some .uinteger32⟩,
      ⟨"Auth-Grace-Period", .authGracePeriod, some .uinteger32⟩,
      ⟨"Auth-Session-State", .authSessionState, some .uinteger32⟩,
      ⟨"Session-Timeout", .sessionTimeout, some .uinteger32⟩,
      ⟨"Callback-Number", .callbackNumber, some .utf8String⟩,
      ⟨"Called-Station-Id", .calledStationId, some .utf8String⟩,
      ⟨"Calling-Station-Id", .callingStationId, some .utf8String⟩,
      ⟨"Class", .class_, some .string⟩,
      ⟨"Originating-Line-Info", .originatingLineInfo, some .string⟩,
      ⟨"Connect-Info", .connectInfo, some .utf8String⟩,
      ⟨"Framed-Compression", .framedCompression, some .enum⟩,
      ⟨"Framed-Interface-Id", .framedInterfaceId, some .uinteger32⟩,
      ⟨"Framed-IP-Address", .framedIpAddress, some .string⟩,
      ⟨"Framed-IPv6-Prefix", .framedIpv6Prefix, some .string⟩,
      ⟨"Framed-IP-Netmask", .framedIpNetmask, some .string⟩,
      ⟨"Framed-MTU", .framedMtu, some .uinteger32⟩,
      ⟨"Framed-Protocol", .framedProtocol, some .enum⟩,
      ⟨"Tunneling", .tunneling, some .grouped⟩,
      ⟨"Proxy-Info", .proxyInfo, some .grouped⟩,
      ⟨"Route-Record", .routeRecord, some .string⟩,
      ⟨"AVP", .avp, none⟩]
  reader :=
    [.copyFrom "Session-Id" .sessionId,
      .expect "Auth-Application-Id" eapApplicationId,
      .copyFrom "Origin-Host" .originHost,
      .copyFrom "Origin-Realm" .originRealm,
      .copyFrom "Destination-Realm" .destinationRealm,
      .copyFrom "Auth-Request-Type" .authRequestType,
      .copyFrom "Nas-Port" .nasPort,
      .copyFrom "Nas-Port-Id" .nasPortId,
      .copyFrom "Origin-State-Id" .originStateId,
      .copyFrom "Destination-Host" .destinationHost,
      .copyFrom "Nas-Identifier" .nasIdentifier,
      .copyFrom "Nas-IP-Address" .nasIpAddress,
      .copyFrom "Nas-IPv6-Address" .nasIpv6Address,
      .copyFrom "Nas-Port-Type" .nasPortType,
      .copyFrom "Port-Limit" .portLimit,
      .copyFrom "User-Name" .userName,
      .copyFrom "EAP-Payload" .eapPayload,
      .copyFrom "Service-Type" .serviceType,
      .copyFrom "Idle-Timeout" .idleTimeout,
      .copyFrom "State" .state,
      .copyFrom "Authorization-Lifetime" .authorizationLifetime,
      .copyFrom "Auth-Grace-Period" .authGracePeriod,
      .copyFrom "Auth-Session-State" .authSessionState,
      .copyFrom "Session-Timeout" .sessionTimeout,
      .copyFrom "Callback-Number" .callbackNumber,
      .copyFrom "Called-Station-Id" .calledStationId,
      .copyFrom "Calling-Station-Id" .callingStationId,
      .copyFrom "Class" .class_,
      .copyFrom "Originating-Line-Info" .originatingLineInfo,
      .copyFrom "Connect-Info" .connectInfo,
      .copyFrom "Framed-Compression" .framedCompression,
      .copyFrom "Framed-Interface-Id" .framedInterfaceId,
      .copyFrom "Framed-IP-Address" .framedIpAddress,
      .copyFrom "Framed-IPv6-Prefix" .framedIpv6Prefix,
      .copyFrom "Framed-MTU" .framedMtu,
      .copyFrom "Framed-Protocol" .framedProtocol,
      .copyFrom "Tunneling" .tunneling,
      .copyFrom "Proxy-Info" .proxyInfo,
      .copyFrom "Route-Record" .routeRecord,
      .copyFrom "AVP" .avp]

/-- The attributes of `DEA_Data`. -/
inductive DeaAttribute where
  | sessionId
  | authApplicationId
  | authRequestType
  | originHost
  | originRealm
  | userName
  | eapPayload
  | eapReissuedPayload
  | eapMasterSessionKey
  | accountingEapAuthMethod
  | originStateId
  | portLimit
  | serviceType
  | idleTimeout
  | state
  | class_
  | authorizationLifetime
  | authGracePeriod
  | authSessionState
  | sessionTimeout
  | callbackNumber
  | framedCompression
  | framedInterfaceId
  | framedIpAddress
  | framedIpv6Prefix
  | framedIpNetmask
  | framedMtu
  | framedProtocol
  | nasFilterRule
  | tunneling
  | proxyInfo
  | avp
  | resultCode
  | multiRoundTimeOut
  | configurationToken
  | acctInterimInterval
  | errorMessage
  | errorReportingHost
  | reAuthRequestType
  | replyMessage
  | filterId
  | callbackId
  | framedAppletalkLink
  | framedAppletalkNetwork
  | framedAppletalkZone
  | framedIpv6Route
  | framedIpv6Pool
  | framedPool
  | framedIpxNetwork
  | framedRoute
  | framedRouting
  | redirectHost
  | redirectHostUsage
  | redirectMaxCacheTime
  deriving DecidableEq, Repr

def DeaAttribute.shape : DeaAttribute → AttributeShape
  | .sessionId | .originHost | .originRealm | .userName | .eapPayload | .eapReissuedPayload
  | .eapMasterSessionKey | .state | .callbackNumber | .framedIpAddress | .framedIpNetmask
  | .errorMessage | .errorReportingHost | .callbackId | .framedAppletalkZone | .framedIpv6Pool
  | .framedPool | .framedIpxNetwork =>
    .scholar .string
  | .authApplicationId | .authRequestType | .originStateId | .portLimit | .serviceType
  | .idleTimeout | .authorizationLifetime | .authGracePeriod | .authSessionState | .sessionTimeout
  | .framedMtu | .framedProtocol | .resultCode | .multiRoundTimeOut | .acctInterimInterval
  | .reAuthRequestType | .framedAppletalkLink | .framedRouting | .redirectHostUsage
  | .redirectMaxCacheTime =>
    .scholar .unsigned32
  | .accountingEapAuthMethod => .vector .unsigned64
  | .class_ | .framedIpv6Prefix | .avp | .configurationToken | .replyMessage | .filterId
  | .framedIpv6Route | .framedRoute | .redirectHost =>
    .vector .string
  | .framedCompression | .framedAppletalkNetwork =>
    .vector .unsigned32
  | .framedInterfaceId => .scholar .unsigned64
  | .nasFilterRule => .vector .ipFilterRule
  | .tunneling => .tunneling
  | .proxyInfo => .proxyInfo

/-- `DEA_Data` -/
abbrev DeaData : Type := (attr : DeaAttribute) → attr.shape.Content

abbrev DeaData.new : DeaData := fun attr => attr.shape.new

/-- `DEA_Parser`, with `DEA_Data::Clear`. -/
def deaTable : RecordTable DeaAttribute where
  cleared :=
    [.userName, .eapPayload, .eapReissuedPayload, .eapMasterSessionKey, .multiRoundTimeOut,
      .accountingEapAuthMethod, .originStateId, .portLimit, .serviceType, .idleTimeout, .state,
      .class_, .authorizationLifetime, .authGracePeriod, .authSessionState, .sessionTimeout,
      .callbackNumber, .framedAppletalkLink, .framedAppletalkNetwork, .framedAppletalkZone,
      .framedCompression, .framedInterfaceId, .framedIpAddress, .framedIpv6Prefix, .framedIpv6Pool,
      .framedIpv6Route, .framedIpNetmask, .framedRoute, .framedPool, .framedIpxNetwork, .framedMtu,
      .framedProtocol, .framedRouting, .nasFilterRule, .tunneling, .redirectHost,
      .redirectHostUsage, .redirectMaxCacheTime, .proxyInfo, .avp]
  writer :=
    [⟨"Auth-Application-Id", .authApplicationId, some .integer32⟩,
      ⟨"Auth-Request-Type", .authRequestType, some .enum⟩,
      ⟨"Origin-State-Id", .originStateId, some .uinteger32⟩,
      ⟨"Port-Limit", .portLimit, some .uinteger32⟩,
      ⟨"User-Name", .userName, some .utf8String⟩,
      ⟨"EAP-Payload", .eapPayload, some .string⟩,
      ⟨"EAP-Reissued-Payload", .eapReissuedPayload, some .string⟩,
      ⟨"EAP-Master-Session-Key", .eapMasterSessionKey, some .string⟩,
      ⟨"Accounting-Eap-Auth-Method", .accountingEapAuthMethod, some .uinteger64⟩,
      ⟨"Service-Type", .serviceType, some .enum⟩,
      ⟨"Result-Code", .resultCode, some .uinteger32⟩,
      ⟨"Multi-Round-Time-Out", .multiRoundTimeOut, some .uinteger32⟩,
      ⟨"Configuration-Token", .configurationToken, some .string⟩,
      ⟨"Acct-Interim-Interval", .acctInterimInterval, some .uinteger32⟩,
      ⟨"Error-Message", .errorMessage, some .utf8String⟩,
      ⟨"Error-Reporting-Host", .errorReportingHost, some .diamId⟩,
      ⟨"Re-Auth-Request-Type", .reAuthRequestType, some .enum⟩,
      ⟨"Reply-Message", .replyMessage, some .utf8String⟩,
      ⟨"Filter-Id", .filterId, some .utf8String⟩,
      ⟨"Callback-Id", .callbackId, some .utf8String⟩,
      ⟨"Framed-Appletalk-Link", .framedAppletalkLink, some .uinteger32⟩,
      ⟨"Framed-Appletalk-Network", .framedAppletalkNetwork, some .uinteger32⟩,
      ⟨"Framed-Appletalk-Zone", .framedAppletalkZone, some .string⟩,
      ⟨"Framed-IPv6-Route", .framedIpv6Route, some .utf8String⟩,
      ⟨"Framed-IPv6-Pool", .framedIpv6Pool, some .string⟩,
      ⟨"Framed-Pool", .framedPool, some .string⟩,
      ⟨"Framed-IPX-Network", .framedIpxNetwork, some .string⟩,
      ⟨"Framed-Route", .framedRoute, some .utf8String⟩,
      ⟨"Framed-Routing", .framedRouting, some .enum⟩,
      ⟨"Redirect-Host", .redirectHost, some .diamId⟩,
      ⟨"Redirect-Host-Usage", .redirectHostUsage, some .enum⟩,
      ⟨"Redirect-Max-Cache-Time", .redirectMaxCacheTime, some .uinteger32⟩,
      ⟨"Idle-Timeout", .idleTimeout, some .uinteger32⟩,
      ⟨"State", .state, some .string⟩,
      ⟨"Authorization-Lifetime", .authorizationLifetime, some .uinteger32⟩,
      ⟨"Auth-Grace-Period", .authGracePeriod, some .uinteger32⟩,
      ⟨"Auth-Session-State", .authSessionState, some .uinteger32⟩,
      ⟨"Session-Timeout", .sessionTimeout, some .uinteger32⟩,
      ⟨"Callback-Number", .callbackNumber, some .utf8String⟩,
      ⟨"Class", .class_, some .string⟩,
      ⟨"Framed-Compression", .framedCompression, some .enum⟩,
      ⟨"Framed-Interface-Id", .framedInterfaceId, some .uinteger64⟩,
      ⟨"Framed-IP-Address", .framedIpAddress, some .string⟩,
      ⟨"Framed-IPv6-Prefix", .framedIpv6Prefix, some .string⟩,
      ⟨"Framed-IP-Netmask", .framedIpNetmask, some .string⟩,
      ⟨"Framed-MTU", .framedMtu, some .uinteger32⟩,
      ⟨"Framed-Protocol", .framedProtocol, some .enum⟩,
      ⟨"NAS-Filter-Rule", .nasFilterRule, some .ipFilterRule⟩,
      ⟨"Tunneling", .tunneling, some .grouped⟩,
      ⟨"Proxy-Info", .proxyInfo, some .grouped⟩,
      ⟨"AVP", .avp, none⟩]
  reader :=
    [.copyFrom "Session-Id" .sessionId,
      .copyFrom "Auth-Application-Id" .authApplicationId,
      .copyFrom "Origin-Host" .originHost,
      .copyFrom "Origin-Realm" .originRealm,
      .copyFrom "Origin-State-Id" .originStateId,
      .copyFrom "Port-Limit" .portLimit,
      .copyFrom "User-Name" .userName,
      .copyFrom "EAP-Payload" .eapPayload,
      .copyFrom "EAP-Reissued-Payload" .eapReissuedPayload,
      .copyFrom "EAP-Master-Session-Key" .eapMasterSessionKey,
      .copyFrom "Accounting-Eap-Auth-Method" .accountingEapAuthMethod,
      .copyFrom "Service-Type" .serviceType,
      .copyFrom "Result-Code" .resultCode,
      .copyFrom "Multi-Round-Time-Out" .multiRoundTimeOut,
      .copyFrom "Configuration-Token" .configurationToken,
      .copyFrom "Acct-Interim-Interval" .acctInterimInterval,
      .copyFrom "Error-Message" .errorMessage,
      .copyFrom "Error-Reporting-Host" .errorReportingHost,
      .copyFrom "Re-Auth-Request-Type" .reAuthRequestType,
      .copyFrom "Filter-Id" .filterId,
      .copyFrom "Callback-Id" .callbackId,
      .copyFrom "Framed-Appletalk-Link" .framedAppletalkLink,
      .copyFrom "Framed-Appletalk-Network" .framedAppletalkNetwork,
      .copyFrom "Framed-Appletalk-Zone" .framedAppletalkZone,
      .copyFrom "Framed-IPv6-Route" .framedIpv6Route,
      .copyFrom "Framed-IPv6-Pool" .framedIpv6Pool,
      .copyFrom "Framed-Pool" .framedPool,
      .copyFrom "Framed-IPX-Network" .framedIpxNetwork,
      .copyFrom "Framed-Route" .framedRoute,
      .copyFrom "Framed-Routing" .framedRouting,
      .copyFrom "Redirect-Host" .redirectHost,
      .copyFrom "Redirect-Host-Usage" .redirectHostUsage,
      .copyFrom "Redirect-Max-Cache-Time" .redirectMaxCacheTime,
      .copyFrom "Idle-Timeout" .idleTimeout,
      .copyFrom "State" .state,
      .copyFrom "Authorization-Lifetime" .authorizationLifetime,
      .copyFrom "Auth-Grace-Period" .authGracePeriod,
      .copyFrom "Auth-Session-State" .authSessionState,
      .copyFrom "Session-Timeout" .sessionTimeout,
      .copyFrom "Callback-Number" .callbackNumber,
      .copyFrom "Class" .class_,
      .copyFrom "Framed-Compression" .framedCompression,
      .copyFrom "Framed-Interface-Id" .framedInterfaceId,
      .copyFrom "Framed-IP-Address" .framedIpAddress,
      .copyFrom "Framed-IPv6-Prefix" .framedIpv6Prefix,
      .copyFrom "Framed-MTU" .framedMtu,
      .copyFrom "Framed-Protocol" .framedProtocol,
      .copyFrom "NAS-Filter-Rule" .nasFilterRule,
      .copyFrom "Tunneling" .tunneling,
      .copyFrom "Proxy-Info" .proxyInfo,
      .copyFrom "AVP" .avp]

end OpenDiameter.DiameterEap
