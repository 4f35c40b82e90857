/-!
The routing table: for each realm what to do with its requests and, for each
application, the servers to send them to.
-/

namespace OpenDiameter.Router

/-- The octets of a `std::string`. -/
abbrev Octets := List UInt8

/-- `tolower` of the C locale. -/
def toLower (octet : UInt8) : UInt8 :=
  if 65 ≤ octet ∧ octet ≤ 90 then octet + 32 else octet

/-- What the C library sees of a string. -/
def cString (text : Octets) : Octets :=
  text.takeWhile (· ≠ 0)

/-- `strcasecmp(left, right) == 0` -/
def sameIgnoringCase (left right : Octets) : Bool :=
  (cString left).map toLower == (cString right).map toLower

inductive RouteAction where
  | actionLocal
  | actionRelay
  | actionProxy
  | actionRedirect
  deriving DecidableEq, Repr

/-- `DiameterRouteApplication`, with the names of its servers by metric. -/
structure RouteApplication where
  applicationId : UInt32
  vendorId : UInt32
  servers : List Octets

structure RouteEntry where
  realm : Octets
  action : RouteAction
  redirectUsage : UInt32
  applications : List RouteApplication

/-- `DiameterRouteEntry::Lookup` -/
def RouteEntry.lookup (entry : RouteEntry) (appId vendorId : UInt32) :
    Option RouteApplication :=
  entry.applications.find? fun application =>
    application.vendorId == vendorId && application.applicationId == appId

structure RouteTable where
  routes : List RouteEntry
  defaultRoute : Option RouteEntry

/-- `DiameterRouteTable::Lookup` -/
def RouteTable.lookup (table : RouteTable) (realm : Octets) : Option RouteEntry :=
  (table.routes.find? fun entry => sameIgnoringCase entry.realm realm).or table.defaultRoute

end OpenDiameter.Router
