import OpenDiameter.Parser.Dictionary

namespace OpenDiameter.Parser

/-- `diameter_uri_t`. -/
structure DiameterUri where
  fqdn : List UInt8
  port : UInt16
  transport : Int
  protocol : Int
  scheme : Int
  deriving DecidableEq, Repr

/-- `DiameterIPFilterRuleSrcDst`. -/
structure IPFilterRuleSrcDst where
  modifier : Bool
  representation : UInt8
  ipno : List UInt8
  bits : UInt8
  portRangeList : List (UInt16 × UInt16)
  deriving DecidableEq, Repr

/-- `diameter_ipfilter_rule_t`. -/
structure IPFilterRule where
  action : UInt8
  dir : UInt8
  proto : UInt8
  src : IPFilterRuleSrcDst
  dst : IPFilterRuleSrcDst
  frag : Bool
  ipOptionList : List Int
  tcpOptionList : List Int
  established : Bool
  setup : Bool
  tcpFlagList : List Int
  icmpTypeRangeList : List (Int8 × Int8)
  deriving DecidableEq, Repr

/-!
An entry of a container is a value of the C++ type that belongs to the AVP's
data type: `std::string`, a 32 or 64 bit integer, an address, a URI, a filter
rule, or the container list of a grouped AVP.
-/

mutual

inductive AvpValue where
  | octets (value : List UInt8)
  | integer32 (value : UInt32)
  | integer64 (value : UInt64)
  | address (type : UInt16) (value : List UInt8)
  | uri (value : DiameterUri)
  | ipFilterRule (value : IPFilterRule)
  | grouped (value : List AvpContainer)

structure AvpContainerEntry where
  dataType : AvpDataType
  data : AvpValue

structure AvpContainer where
  avpName : String
  entries : List AvpContainerEntry

end

abbrev AvpContainerList := List AvpContainer

/-- `AAAAvpContainerList::search`: the first container of that name. -/
def AvpContainerList.search (acl : AvpContainerList) (name : String) :
    Option AvpContainer :=
  acl.find? fun container => container.avpName == name

end OpenDiameter.Parser
