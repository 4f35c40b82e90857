import OpenDiameter.Parser.Container
import OpenDiameter.Router.RouteTable

/-!
The messages that the router handles, and the widgets with which it reads and adds AVPs.
-/

namespace OpenDiameter.Router

open OpenDiameter.Parser

structure MsgFlags where
  r : Bool
  p : Bool
  e : Bool
  t : Bool
  deriving DecidableEq, Repr

/-- The `int` that the router makes of a hop-by-hop id. -/
abbrev HopId := Int32

structure MsgHeader where
  flags : MsgFlags
  code : UInt32
  appId : UInt32
  hh : HopId
  ee : UInt32
  deriving DecidableEq, Repr

/-- A `DiameterMsg` and the number of the object, which moves from one `auto_ptr` to
another. -/
structure Msg where
  object : Nat
  hdr : MsgHeader
  acl : AvpContainerList

namespace AvpName

def destHost : String := "Destination-Host"
def destRealm : String := "Destination-Realm"
def userName : String := "User-Name"
def originHost : String := "Origin-Host"
def originRealm : String := "Origin-Realm"
def originStateId : String := "Origin-State-Id"
def sessionId : String := "Session-Id"
def resultCode : String := "Result-Code"
def errorReportingHost : String := "Error-Reporting-Host"
def authAppId : String := "Auth-Application-Id"
def acctAppId : String := "Acct-Application-Id"
def vendorAppId : String := "Vendor-Specific-Application-Id"
def vendorId : String := "Vendor-Id"
def routeRecord : String := "Route-Record"
def redirectHost : String := "Redirect-Host"
def redirectHostUsage : String := "Redirect-Host-Usage"
def proxyInfo : String := "Proxy-Info"
def proxyHost : String := "Proxy-Host"
def proxyState : String := "Proxy-State"

end AvpName

section Widgets

variable (acl : AvpContainerList) (name : String)

/-- `GetAvp` of an AVP container widget. -/
def getAvp (index : Nat) : Option AvpValue :=
  (acl.search name).bind fun container => container.entries[index]?.map AvpContainerEntry.data

def getOctets (index : Nat) : Option Octets :=
  match getAvp acl name index with
  | some (.octets value) => some value
  | _ => none

def getUInt32 : Option UInt32 :=
  match getAvp acl name 0 with
  | some (.integer32 value) => some value
  | _ => none

def getGrouped : Option AvpContainerList :=
  match getAvp acl name 0 with
  | some (.grouped value) => some value
  | _ => none

/-- The first of two AVPs that is there. -/
def getUInt32Of (first second : String) : Option UInt32 :=
  (getUInt32 acl first).or (getUInt32 acl second)

/-- `DelAvp` -/
def delAvp : AvpContainerList :=
  acl.eraseP fun container => container.avpName == name

/-- The first value of the first container of the name is assigned. -/
def setFirst (value : AvpValue) : AvpContainerList → AvpContainerList
  | [] => []
  | container :: rest =>
    if container.avpName == name then
      match container.entries with
      | [] => container :: rest
      | entry :: entries =>
        { container with entries := { entry with data := value } :: entries } :: rest
    else container :: setFirst value rest

end Widgets

/-- The container of an AVP widget with one value. -/
def avpOf (name : String) (dataType : AvpDataType) (value : AvpValue) : AvpContainer where
  avpName := name
  entries := [⟨dataType, value⟩]

/-- A widget with one text. -/
def identityAvp (name : String) (value : Octets) : AvpContainer :=
  avpOf name .diamId (.octets value)

def uint32Avp (name : String) (value : UInt32) : AvpContainer :=
  avpOf name .uinteger32 (.integer32 value)

namespace ResultCode

def unableToDeliver : UInt32 := 3002
def loopDetected : UInt32 := 3005
def redirectIndication : UInt32 := 3006

end ResultCode

/-- `DiameterMsgResultCode::ResultCode` -/
def Msg.resultCode (msg : Msg) : UInt32 :=
  (getUInt32 msg.acl AvpName.resultCode).getD 0

/-- `RedirectAgent::IsRedirected` -/
def Msg.isRedirected (msg : Msg) : Bool :=
  !msg.hdr.flags.r && msg.hdr.flags.e && msg.resultCode == ResultCode.redirectIndication

/-- The Proxy-Info of an error answer. The host and the state of the request's are read
without a test. -/
def proxyInfoAnswer (proxyInfo : AvpContainerList) : Option AvpContainer :=
  match getOctets proxyInfo AvpName.proxyHost 0, getOctets proxyInfo AvpName.proxyState 0 with
  | some host, some state =>
    some (avpOf AvpName.proxyInfo .grouped (.grouped
      [identityAvp AvpName.proxyHost host, avpOf AvpName.proxyState .string (.octets state)]))
  | _, _ => none

/-- The Proxy-Info can be copied into an error answer. -/
def proxyInfoAnswers (acl : AvpContainerList) : Option (List AvpContainer) :=
  match getGrouped acl AvpName.proxyInfo with
  | none => some []
  | some proxyInfo => (proxyInfoAnswer proxyInfo).map fun container => [container]

/-- `DiameterErrorMsg::Generate`: no message where the Proxy-Info has no host or state,
whose null pointer is followed. -/
def Msg.errorAnswer (request : Msg) (object : Nat) (identity realm : Octets)
    (rcode : UInt32) : Option Msg :=
  (proxyInfoAnswers request.acl).map fun proxyInfo =>
    { object
      hdr := { request.hdr with flags := { request.hdr.flags with e := true, r := false } }
      acl :=
        ((getOctets request.acl AvpName.sessionId 0).toList.map fun value =>
            avpOf AvpName.sessionId .utf8String (.octets value)) ++
          ((getUInt32 request.acl AvpName.originStateId).toList.map
            (uint32Avp AvpName.originStateId)) ++
          proxyInfo ++
          [identityAvp AvpName.originHost identity, identityAvp AvpName.originRealm realm,
            uint32Avp AvpName.resultCode rcode,
            identityAvp AvpName.errorReportingHost identity] }

end OpenDiameter.Router
