import OpenDiameter.Peer.PeerMachine
import OpenDiameter.Router.RouterMsg

/-!
The AVPs of a capabilities exchange, as `AssembleCE` writes and `DisassembleCE` reads them.
An application id that a Vendor-Specific-Application-Id does not have is 0.
-/

namespace OpenDiameter.Peer

open OpenDiameter.Parser OpenDiameter.Router

namespace AvpName

def hostIp : String := "Host-IP-Address"
def productName : String := "Product-Name"
def firmwareRev : String := "Firmware-Revision"
def inbandSecId : String := "Inband-Security-Id"
def supportedVendorId : String := "Supported-Vendor-Id"
def errorMessage : String := "Error-Message"

end AvpName

/-- `DiameterDataVendorSpecificApplicationId` -/
structure VendorSpecificApplicationId where
  vendorId : UInt32
  authAppId : UInt32
  acctAppId : UInt32
deriving DecidableEq, Repr

/-- What `DiameterDataRoot` and the peer data of the connection have for a CER or CEA. -/
structure CapabilityConfig where
  product : Octets
  version : UInt32
  vendor : UInt32
  supportedVendorIdLst : List UInt32
  authAppIdLst : List UInt32
  acctAppIdLst : List UInt32
  vendorSpecificId : List VendorSpecificApplicationId
  identity : Octets
  realm : Octets
  advertisedHostname : List Octets
  originStateId : Int32
  tls : Bool
  /-- `TransportProtocolInUse` is SCTP. -/
  sctp : Bool
  /-- The octets of the address that an `ACE_INET_Addr` is constructed with. -/
  constructAddr : Octets → Octets
  /-- Those that `set` finds for a host name. -/
  setAddr : Octets → Option Octets

structure HostAddress where
  type : UInt16
  value : Octets
deriving DecidableEq, Repr

/-- `DiameterPeerCapabilities` without the message ids. -/
structure PeerCapabilities where
  host : Octets
  realm : Octets
  productName : Octets
  vendorId : UInt32
  inbandSecurityId : UInt32
  originStateId : UInt32
  firmwareRevision : UInt32
  supportedVendorIdLst : List UInt32
  authAppIdLst : List UInt32
  hostIpLst : List HostAddress
  acctAppIdLst : List UInt32
  vendorSpecificId : List VendorSpecificApplicationId
deriving DecidableEq, Repr

def addressIp : UInt16 := 1

namespace CapabilityConfig

variable (config : CapabilityConfig)

/-- The own address, and over SCTP those of the advertised host names that resolve. -/
def hostAddresses : List Octets :=
  config.constructAddr config.identity ::
    if config.sctp then config.advertisedHostname.filterMap config.setAddr else []

/-- A widget with a value for each id, which is not added when there is none. -/
def idAvps (name : String) (ids : List UInt32) : AvpContainerList :=
  if ids.isEmpty then [] else [⟨name, ids.map fun id => ⟨.uinteger32, .integer32 id⟩⟩]

def idAvpIf (name : String) (id : UInt32) : AvpContainerList :=
  if id > 0 then [uint32Avp name id] else []

/-- The group of one Vendor-Specific-Application-Id. -/
def vendorSpecificGroup (vid : VendorSpecificApplicationId) : AvpContainerList :=
  idAvpIf Router.AvpName.authAppId vid.authAppId ++
    idAvpIf Router.AvpName.acctAppId vid.acctAppId ++
    idAvpIf Router.AvpName.vendorId vid.vendorId

def vendorSpecificAvps (ids : List VendorSpecificApplicationId) : AvpContainerList :=
  if ids.isEmpty then []
  else [⟨Router.AvpName.vendorAppId, ids.map fun vid =>
    ⟨.grouped, .grouped (vendorSpecificGroup vid)⟩⟩]

/-- The AVPs that are always there. -/
def hostAvps : AvpContainerList :=
  [identityAvp Router.AvpName.originHost config.identity,
    identityAvp Router.AvpName.originRealm config.realm,
    ⟨AvpName.hostIp, config.hostAddresses.map fun value =>
      ⟨.address, .address addressIp value⟩⟩,
    uint32Avp Router.AvpName.vendorId config.vendor,
    avpOf AvpName.productName .utf8String (.octets config.product),
    uint32Avp Router.AvpName.originStateId config.originStateId.toUInt32,
    uint32Avp AvpName.firmwareRev config.version,
    uint32Avp AvpName.inbandSecId config.tls.toUInt32]

/-- The AVPs of `AssembleCE`. -/
def assembleCe : AvpContainerList :=
  idAvps AvpName.supportedVendorId config.supportedVendorIdLst ++
    (idAvps Router.AvpName.authAppId config.authAppIdLst ++
      (idAvps Router.AvpName.acctAppId config.acctAppIdLst ++
        (vendorSpecificAvps config.vendorSpecificId ++ config.hostAvps)))

/-- The AVPs that `SendCEA` adds: the result code, and the text of an error. -/
def resultAvps : Option (UInt32 × Octets) → AvpContainerList
  | none => []
  | some (rcode, message) =>
    uint32Avp Router.AvpName.resultCode rcode ::
      if message ≠ [] ∧ rcode / 1000 ≠ 2 then
        [avpOf AvpName.errorMessage .utf8String (.octets message)]
      else []

/-- The AVPs of a CER, or of a CEA with a result code and a text. -/
def sentCe (result : Option (UInt32 × Octets)) : AvpContainerList :=
  config.assembleCe ++ resultAvps result

/-- What a peer should know of the configuration. -/
def advertised : PeerCapabilities where
  host := config.identity
  realm := config.realm
  productName := config.product
  vendorId := config.vendor
  inbandSecurityId := config.tls.toUInt32
  originStateId := config.originStateId.toUInt32
  firmwareRevision := config.version
  supportedVendorIdLst := config.supportedVendorIdLst
  authAppIdLst := config.authAppIdLst
  hostIpLst := config.hostAddresses.map fun value => ⟨addressIp, value⟩
  acctAppIdLst := config.acctAppIdLst
  vendorSpecificId := config.vendorSpecificId

end CapabilityConfig

/-! `DisassembleCE` -/

def readUInt32 : AvpValue → Option UInt32
  | .integer32 value => some value
  | _ => none

def readAddress : AvpValue → Option HostAddress
  | .address type value => some ⟨type, value⟩
  | _ => none

def readGrouped : AvpValue → Option AvpContainerList
  | .grouped value => some value
  | _ => none

/-- The loop over `GetAvp` with one index after the other, until there is none. -/
def readEntries (read : AvpValue → Option α) : List AvpContainerEntry → List α
  | [] => []
  | entry :: rest =>
    match read entry.data with
    | none => []
    | some value => value :: readEntries read rest

def readAvps (read : AvpValue → Option α) (acl : AvpContainerList) (name : String) : List α :=
  match acl.search name with
  | none => []
  | some container => readEntries read container.entries

/-- One Vendor-Specific-Application-Id. The accounting id is looked for only where there is no
authentication id, and without any of them the entry is left out. -/
def readVendorSpecific (grouped : AvpContainerList) : Option VendorSpecificApplicationId :=
  let vendorId := (getUInt32 grouped Router.AvpName.vendorId).getD 0
  let vsid : VendorSpecificApplicationId :=
    match getUInt32 grouped Router.AvpName.authAppId with
    | some authAppId => ⟨vendorId, authAppId, 0⟩
    | none => ⟨vendorId, 0, (getUInt32 grouped Router.AvpName.acctAppId).getD 0⟩
  if vsid.acctAppId ≠ 0 ∨ vsid.authAppId ≠ 0 then some vsid else none

def disassembleCe (acl : AvpContainerList) : PeerCapabilities where
  host := (getOctets acl Router.AvpName.originHost 0).getD []
  realm := (getOctets acl Router.AvpName.originRealm 0).getD []
  productName := (getOctets acl AvpName.productName 0).getD []
  vendorId := (getUInt32 acl Router.AvpName.vendorId).getD 0
  inbandSecurityId := (getUInt32 acl AvpName.inbandSecId).getD 0
  originStateId := (getUInt32 acl Router.AvpName.originStateId).getD 0
  firmwareRevision := (getUInt32 acl AvpName.firmwareRev).getD 0
  supportedVendorIdLst := readAvps readUInt32 acl AvpName.supportedVendorId
  authAppIdLst := readAvps readUInt32 acl Router.AvpName.authAppId
  hostIpLst := readAvps readAddress acl AvpName.hostIp
  acctAppIdLst := readAvps readUInt32 acl Router.AvpName.acctAppId
  vendorSpecificId :=
    (readAvps readGrouped acl Router.AvpName.vendorAppId).filterMap readVendorSpecific

/-! The containers of a message by their names. -/

section

variable {name other : String} {first rest : AvpContainerList}

theorem search_skip (absent : first.search name = none) :
    AvpContainerList.search (first ++ rest) name = rest.search name := by
  rw [AvpContainerList.search] at absent
  rw [AvpContainerList.search, List.find?_append, absent, Option.none_or]
  rfl

theorem search_found {container : AvpContainer} (found : first.search name = some container) :
    AvpContainerList.search (first ++ rest) name = some container := by
  rw [AvpContainerList.search] at found
  rw [AvpContainerList.search, List.find?_append, found, Option.some_or]

theorem search_single_other {container : AvpContainer}
    (differs : (container.avpName == name) = false) :
    AvpContainerList.search [container] name = none := by
  rw [AvpContainerList.search, List.find?_cons, differs, List.find?_nil]

theorem search_single (entries : List AvpContainerEntry) :
    AvpContainerList.search [⟨name, entries⟩] name = some ⟨name, entries⟩ := by
  rw [AvpContainerList.search, List.find?_cons, beq_self_eq_true]

theorem idAvps_other (differs : (other == name) = false) (ids : List UInt32) :
    (CapabilityConfig.idAvps other ids).search name = none := by
  cases ids with
  | nil => rfl
  | cons id ids => exact search_single_other differs

theorem vendorSpecificAvps_other (differs : (Router.AvpName.vendorAppId == name) = false)
    (ids : List VendorSpecificApplicationId) :
    (CapabilityConfig.vendorSpecificAvps ids).search name = none := by
  cases ids with
  | nil => rfl
  | cons id ids => exact search_single_other differs

theorem idAvpIf_other (differs : (other == name) = false) (id : UInt32) :
    (CapabilityConfig.idAvpIf other id).search name = none := by
  rw [CapabilityConfig.idAvpIf]
  split
  · exact search_single_other differs
  · rfl

theorem readEntries_map (read : AvpValue → Option α) (write : β → AvpContainerEntry)
    (value : β → α) (reads : ∀ item, read (write item).data = some (value item))
    (items : List β) : readEntries read (items.map write) = items.map value := by
  induction items with
  | nil => rfl
  | cons item items induction =>
    rw [List.map_cons, readEntries, reads item, List.map_cons, ← induction]

/-- The values of a container that is found first are those that were written. -/
theorem readAvps_written (read : AvpValue → Option α) (write : β → AvpContainerEntry)
    (value : β → α) (reads : ∀ item, read (write item).data = some (value item))
    (items : List β) :
    readAvps read (⟨name, items.map write⟩ :: rest) name = items.map value := by
  rw [readAvps, ← List.singleton_append, search_found (search_single _)]
  exact readEntries_map read write value reads items

/-- The ids of a widget are read as they are, where nothing behind it has its name. -/
theorem readAvps_idAvps (ids : List UInt32) (absent : rest.search name = none) :
    readAvps readUInt32 (CapabilityConfig.idAvps name ids ++ rest) name = ids := by
  cases ids with
  | nil =>
    rw [readAvps, search_skip rfl, absent]
  | cons id ids =>
    exact (readAvps_written readUInt32 _ (fun id => id) (fun _ => rfl) _).trans
      (List.map_id _)

theorem readAvps_vendorSpecificAvps (ids : List VendorSpecificApplicationId)
    (absent : rest.search Router.AvpName.vendorAppId = none) :
    readAvps readGrouped (CapabilityConfig.vendorSpecificAvps ids ++ rest)
        Router.AvpName.vendorAppId =
      ids.map CapabilityConfig.vendorSpecificGroup := by
  cases ids with
  | nil =>
    rw [readAvps, search_skip rfl, absent]
    rfl
  | cons id ids =>
    exact readAvps_written readGrouped _ CapabilityConfig.vendorSpecificGroup (fun _ => rfl) _

end

/-! The group of one Vendor-Specific-Application-Id. -/

section

variable (vid : VendorSpecificApplicationId)

theorem getUInt32_idAvpIf (name : String) (id : UInt32) (absent : rest.search name = none) :
    (getUInt32 (CapabilityConfig.idAvpIf name id ++ rest) name) =
      if id = 0 then none else some id := by
  rw [CapabilityConfig.idAvpIf]
  by_cases zero : id = 0
  · rw [if_pos zero, if_neg (by rw [zero]; exact UInt32.lt_irrefl 0), List.nil_append, getUInt32,
      getAvp, absent]
    rfl
  · have found : AvpContainerList.search [uint32Avp name id] name = some (uint32Avp name id) :=
      search_single _
    rw [if_neg zero, if_pos (UInt32.pos_iff_ne_zero.2 zero), getUInt32, getAvp,
      search_found found]
    rfl

theorem getUInt32_skip {first rest : AvpContainerList} {name : String}
    (absent : first.search name = none) :
    getUInt32 (first ++ rest) name = getUInt32 rest name := by
  rw [getUInt32, getUInt32, getAvp, getAvp, search_skip absent]

theorem group_authAppId :
    getUInt32 (CapabilityConfig.vendorSpecificGroup vid) Router.AvpName.authAppId =
      if vid.authAppId = 0 then none else some vid.authAppId := by
  rw [CapabilityConfig.vendorSpecificGroup, List.append_assoc]
  apply getUInt32_idAvpIf
  rw [search_skip (idAvpIf_other (by decide) _)]
  exact idAvpIf_other (by decide) _

theorem group_acctAppId :
    getUInt32 (CapabilityConfig.vendorSpecificGroup vid) Router.AvpName.acctAppId =
      if vid.acctAppId = 0 then none else some vid.acctAppId := by
  rw [CapabilityConfig.vendorSpecificGroup, List.append_assoc,
    getUInt32_skip (idAvpIf_other (by decide) _)]
  apply getUInt32_idAvpIf
  exact idAvpIf_other (by decide) _

theorem group_vendorId :
    (getUInt32 (CapabilityConfig.vendorSpecificGroup vid) Router.AvpName.vendorId).getD 0 =
      vid.vendorId := by
  rw [CapabilityConfig.vendorSpecificGroup, List.append_assoc,
    getUInt32_skip (idAvpIf_other (by decide) _), getUInt32_skip (idAvpIf_other (by decide) _),
    ← List.append_nil (CapabilityConfig.idAvpIf _ _), getUInt32_idAvpIf _ _ rfl]
  split
  · rename_i zero
    exact zero.symm
  · rfl

/-- The authentication id hides the accounting id of its group. -/
theorem readVendorSpecific_group :
    readVendorSpecific (CapabilityConfig.vendorSpecificGroup vid) =
      if vid.authAppId ≠ 0 then some { vid with acctAppId := 0 }
      else if vid.acctAppId ≠ 0 then some vid
      else none := by
  rw [readVendorSpecific, group_authAppId, group_acctAppId, group_vendorId]
  obtain ⟨vendorId, authAppId, acctAppId⟩ := vid
  by_cases noAuth : authAppId = 0
  · subst noAuth
    by_cases noAcct : acctAppId = 0
    · subst noAcct
      rfl
    · rw [if_pos rfl, if_neg noAcct, if_neg (Classical.not_not.2 rfl), if_pos noAcct]
      exact if_pos (.inl noAcct)
  · rw [if_neg noAuth, if_pos noAuth]
    exact if_pos (.inr noAuth)

/-- A group comes back as it was when it has exactly one application id. -/
theorem readVendorSpecific_eq_iff :
    readVendorSpecific (CapabilityConfig.vendorSpecificGroup vid) = some vid ↔
      (vid.authAppId = 0 ↔ vid.acctAppId ≠ 0) := by
  rw [readVendorSpecific_group]
  obtain ⟨vendorId, authAppId, acctAppId⟩ := vid
  by_cases noAuth : authAppId = 0
  · by_cases noAcct : acctAppId = 0
    · rw [if_neg (Classical.not_not.2 noAuth), if_neg (Classical.not_not.2 noAcct)]
      exact iff_of_false (fun same => nomatch same) (fun one => one.1 noAuth noAcct)
    · rw [if_neg (Classical.not_not.2 noAuth), if_pos noAcct]
      exact iff_of_true rfl (iff_of_true noAuth noAcct)
  · rw [if_pos noAuth]
    constructor
    · intro same
      have noAcct : 0 = acctAppId :=
        congrArg VendorSpecificApplicationId.acctAppId (Option.some.inj same)
      exact iff_of_false noAuth (Classical.not_not.2 noAcct.symm)
    · intro one
      have noAcct : acctAppId = 0 := Classical.not_not.1 fun isAcct => noAuth (one.2 isAcct)
      rw [noAcct]

end

/-! The AVPs of a CER or CEA by their names. -/

section

variable {name : String} (config : CapabilityConfig) (result : Option (UInt32 × Octets))

namespace CapabilityConfig

theorem resultAvps_other (noCode : (Router.AvpName.resultCode == name) = false)
    (noText : (AvpName.errorMessage == name) = false) :
    (resultAvps result).search name = none := by
  cases result with
  | none => rfl
  | some answer =>
    obtain ⟨rcode, message⟩ := answer
    rw [resultAvps]
    split
    · simp only [AvpContainerList.search, List.find?_cons, uint32Avp, avpOf, noCode, noText,
        List.find?_nil]
    · simp only [AvpContainerList.search, List.find?_cons, uint32Avp, avpOf, noCode,
        List.find?_nil]

/-- An AVP that is always there is found behind the lists of ids. -/
theorem search_hostAvps {container : AvpContainer}
    (isNone : (AvpName.supportedVendorId == name) = false ∧
      (Router.AvpName.authAppId == name) = false ∧ (Router.AvpName.acctAppId == name) = false ∧
      (Router.AvpName.vendorAppId == name) = false)
    (found : config.hostAvps.search name = some container) :
    (config.sentCe result).search name = some container := by
  rw [sentCe, assembleCe]
  apply search_found
  rw [search_skip (idAvps_other isNone.1 _), search_skip (idAvps_other isNone.2.1 _),
    search_skip (idAvps_other isNone.2.2.1 _),
    search_skip (vendorSpecificAvps_other isNone.2.2.2 _), found]

theorem sentCe_octets {value : Octets} {dataType : AvpDataType}
    (isNone : (AvpName.supportedVendorId == name) = false ∧
      (Router.AvpName.authAppId == name) = false ∧ (Router.AvpName.acctAppId == name) = false ∧
      (Router.AvpName.vendorAppId == name) = false)
    (found : config.hostAvps.search name = some (avpOf name dataType (.octets value))) :
    (getOctets (config.sentCe result) name 0).getD [] = value := by
  rw [getOctets, getAvp, search_hostAvps config result isNone found]
  rfl

theorem sentCe_uint32 {value : UInt32}
    (isNone : (AvpName.supportedVendorId == name) = false ∧
      (Router.AvpName.authAppId == name) = false ∧ (Router.AvpName.acctAppId == name) = false ∧
      (Router.AvpName.vendorAppId == name) = false)
    (found : config.hostAvps.search name = some (uint32Avp name value)) :
    (getUInt32 (config.sentCe result) name).getD 0 = value := by
  rw [getUInt32, getAvp, search_hostAvps config result isNone found]
  rfl

theorem sentCe_hostIp :
    readAvps readAddress (config.sentCe result) AvpName.hostIp =
      config.hostAddresses.map fun value => ⟨addressIp, value⟩ := by
  rw [readAvps, search_hostAvps config result (by decide) rfl]
  exact readEntries_map readAddress _ _ (fun _ => rfl) _

theorem readAvps_skip {read : AvpValue → Option α} {first rest : AvpContainerList}
    (absent : first.search name = none) :
    readAvps read (first ++ rest) name = readAvps read rest name := by
  rw [readAvps, readAvps, search_skip absent]

theorem sentCe_eq :
    config.sentCe result =
      idAvps AvpName.supportedVendorId config.supportedVendorIdLst ++
        (idAvps Router.AvpName.authAppId config.authAppIdLst ++
          (idAvps Router.AvpName.acctAppId config.acctAppIdLst ++
            (vendorSpecificAvps config.vendorSpecificId ++
              (config.hostAvps ++ resultAvps result)))) := by
  rw [sentCe, assembleCe, List.append_assoc, List.append_assoc, List.append_assoc,
    List.append_assoc]

/-- The name of a list of ids does not come back in what follows the lists. -/
theorem afterIds_absent (notGroup : (Router.AvpName.vendorAppId == name) = false)
    (notHost : config.hostAvps.search name = none)
    (noCode : (Router.AvpName.resultCode == name) = false)
    (noText : (AvpName.errorMessage == name) = false) :
    AvpContainerList.search
      (vendorSpecificAvps config.vendorSpecificId ++ (config.hostAvps ++ resultAvps result))
      name = none := by
  rw [search_skip (vendorSpecificAvps_other notGroup _), search_skip notHost,
    resultAvps_other _ noCode noText]

theorem sentCe_supportedVendorId :
    readAvps readUInt32 (config.sentCe result) AvpName.supportedVendorId =
      config.supportedVendorIdLst := by
  rw [sentCe_eq]
  apply readAvps_idAvps
  rw [search_skip (idAvps_other (by decide) _), search_skip (idAvps_other (by decide) _)]
  exact afterIds_absent config result (by decide) rfl (by decide) (by decide)

theorem sentCe_authAppId :
    readAvps readUInt32 (config.sentCe result) Router.AvpName.authAppId =
      config.authAppIdLst := by
  rw [sentCe_eq, readAvps_skip (idAvps_other (by decide) _)]
  apply readAvps_idAvps
  rw [search_skip (idAvps_other (by decide) _)]
  exact afterIds_absent config result (by decide) rfl (by decide) (by decide)

theorem sentCe_acctAppId :
    readAvps readUInt32 (config.sentCe result) Router.AvpName.acctAppId =
      config.acctAppIdLst := by
  rw [sentCe_eq, readAvps_skip (idAvps_other (by decide) _),
    readAvps_skip (idAvps_other (by decide) _)]
  apply readAvps_idAvps
  exact afterIds_absent config result (by decide) rfl (by decide) (by decide)

theorem sentCe_vendorAppId :
    readAvps readGrouped (config.sentCe result) Router.AvpName.vendorAppId =
      config.vendorSpecificId.map vendorSpecificGroup := by
  rw [sentCe_eq, readAvps_skip (idAvps_other (by decide) _),
    readAvps_skip (idAvps_other (by decide) _), readAvps_skip (idAvps_other (by decide) _)]
  apply readAvps_vendorSpecificAvps
  rw [search_skip rfl, resultAvps_other _ (by decide) (by decide)]

/-- Everything but the Vendor-Specific-Application-Ids comes back as it was advertised. -/
theorem disassembleCe_sentCe :
    disassembleCe (config.sentCe result) =
      { config.advertised with
        vendorSpecificId := (config.vendorSpecificId.map vendorSpecificGroup).filterMap
          readVendorSpecific } := by
  rw [disassembleCe, sentCe_octets config result (by decide) rfl,
    sentCe_octets config result (by decide) rfl, sentCe_octets config result (by decide) rfl,
    sentCe_uint32 config result (by decide) rfl, sentCe_uint32 config result (by decide) rfl,
    sentCe_uint32 config result (by decide) rfl, sentCe_uint32 config result (by decide) rfl,
    sentCe_supportedVendorId, sentCe_authAppId, sentCe_hostIp, sentCe_acctAppId,
    sentCe_vendorAppId]
  rfl

end CapabilityConfig

theorem filterMap_eq_self_iff {read : α → Option α} {items : List α} :
    items.filterMap read = items ↔ ∀ item ∈ items, read item = some item := by
  constructor
  · intro same
    induction items with
    | nil => exact fun item isIn => nomatch isIn
    | cons item items induction =>
      cases outcome : read item with
      | none =>
        -- one item less cannot be made up for
        rw [List.filterMap_cons_none outcome] at same
        have shorter := List.length_filterMap_le read items
        rw [same] at shorter
        exact absurd shorter (Nat.not_succ_le_self _)
      | some value =>
        rw [List.filterMap_cons_some outcome] at same
        have parts := List.cons.inj same
        intro other isIn
        cases isIn with
        | head => rw [outcome, parts.1]
        | tail _ isIn => exact induction parts.2 other isIn
  · intro kept
    induction items with
    | nil => rfl
    | cons item items induction =>
      rw [List.filterMap_cons_some (kept item List.mem_cons_self),
        induction fun other isIn => kept other (List.mem_cons_of_mem item isIn)]

variable {config result} in
theorem disassembleCe_eq_advertised
    (one : ∀ vid ∈ config.vendorSpecificId, vid.authAppId = 0 ↔ vid.acctAppId ≠ 0) :
    disassembleCe (config.sentCe result) = config.advertised := by
  have kept : config.vendorSpecificId.filterMap
      (readVendorSpecific ∘ CapabilityConfig.vendorSpecificGroup) = config.vendorSpecificId :=
    filterMap_eq_self_iff.2 fun vid isIn => (readVendorSpecific_eq_iff vid).2 (one vid isIn)
  rw [config.disassembleCe_sentCe, List.filterMap_map, kept]
  rfl

/-- A peer learns what was advertised exactly when each Vendor-Specific-Application-Id carries
one application id. -/
theorem disassembleCe_advertised_iff :
    disassembleCe (config.sentCe result) = config.advertised ↔
      ∀ vid ∈ config.vendorSpecificId, vid.authAppId = 0 ↔ vid.acctAppId ≠ 0 := by
  constructor
  · intro same vid isIn
    rw [config.disassembleCe_sentCe, List.filterMap_map] at same
    have kept := filterMap_eq_self_iff.1 (congrArg PeerCapabilities.vendorSpecificId same)
    exact (readVendorSpecific_eq_iff vid).1 (kept vid isIn)
  · exact disassembleCe_eq_advertised

end

/-- A configuration with one Vendor-Specific-Application-Id. -/
def configWith (vid : VendorSpecificApplicationId) : CapabilityConfig where
  product := []
  version := 1
  vendor := 0
  supportedVendorIdLst := [1, 2]
  authAppIdLst := [1]
  acctAppIdLst := []
  vendorSpecificId := [vid]
  identity := [97]
  realm := [98]
  advertisedHostname := []
  originStateId := 0
  tls := false
  sctp := false
  constructAddr := fun _ => [127, 0, 0, 1]
  setAddr := fun _ => none

/-- Of an entry with both application ids the accounting id is lost. -/
theorem both_ids_lose_acct :
    disassembleCe ((configWith ⟨10415, 4, 3⟩).sentCe none) ≠
      (configWith ⟨10415, 4, 3⟩).advertised := fun same =>
  absurd (congrArg PeerCapabilities.vendorSpecificId same) (by decide)

end OpenDiameter.Peer
