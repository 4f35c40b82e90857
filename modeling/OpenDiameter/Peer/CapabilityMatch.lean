import OpenDiameter.Peer.Capabilities

/-!
`ValidatePeer`: the application ids of two nodes are compared whatever list they are in, and
then the security settings are.
-/

namespace OpenDiameter.Peer

/-- The application ids of a node, of its configuration or of its CER or CEA. -/
structure Applications where
  authAppIdLst : List UInt32
  acctAppIdLst : List UInt32
  vendorSpecificId : List VendorSpecificApplicationId

def CapabilityConfig.applications (config : CapabilityConfig) : Applications where
  authAppIdLst := config.authAppIdLst
  acctAppIdLst := config.acctAppIdLst
  vendorSpecificId := config.vendorSpecificId

def PeerCapabilities.applications (cap : PeerCapabilities) : Applications where
  authAppIdLst := cap.authAppIdLst
  acctAppIdLst := cap.acctAppIdLst
  vendorSpecificId := cap.vendorSpecificId

/-- `DIAMETER_RELAY_APPLICATION_ID` -/
def relayApplicationId : UInt32 := 0xffffffff

namespace ApplicationIdLookup

/-- `AAA_ApplicationIdLookup::Find` in a list of ids. -/
def find (id : UInt32) (lst : List UInt32) : Bool :=
  lst.any fun other => id == relayApplicationId || other == relayApplicationId || other == id

/-- `Find` in several lists. -/
def findIn (id : UInt32) (lists : List (List UInt32)) : Bool :=
  lists.any (find id)

/-- `Find` in a list of Vendor-Specific-Application-Ids. -/
def findVendorSpecific (id : UInt32) (lst : List VendorSpecificApplicationId) : Bool :=
  lst.any fun entry =>
    entry.authAppId == id || entry.acctAppId == id ||
      entry.authAppId == relayApplicationId || entry.acctAppId == relayApplicationId ||
      id == relayApplicationId || id == relayApplicationId

end ApplicationIdLookup

open ApplicationIdLookup in
/-- The search of `ValidatePeer` for a common application. -/
def commonApplication (ours theirs : Applications) : Bool :=
  let localIdList := [ours.authAppIdLst, ours.acctAppIdLst]
  let found := [theirs.authAppIdLst, theirs.acctAppIdLst].any fun idList =>
    idList.any fun id => findIn id localIdList || findVendorSpecific id ours.vendorSpecificId
  found ||
    theirs.vendorSpecificId.any fun entry =>
      findIn entry.authAppId localIdList || findIn entry.acctAppId localIdList ||
        findVendorSpecific entry.authAppId ours.vendorSpecificId ||
        findVendorSpecific entry.acctAppId ours.vendorSpecificId

def validatePeer (config : CapabilityConfig) (cap : PeerCapabilities) : Validation :=
  if commonApplication config.applications cap.applications = false then .noCommonApplication
  else if config.tls.toUInt32 ≠ cap.inbandSecurityId then .noCommonSecurity
  else .success

namespace Applications

/-- Every id that is compared, with the 0 of an id that an entry does not have. -/
def ids (apps : Applications) : List UInt32 :=
  apps.authAppIdLst ++ apps.acctAppIdLst ++
    apps.vendorSpecificId.flatMap fun entry => [entry.authAppId, entry.acctAppId]

/-- An id is in one of the lists, or an entry has it. -/
def Advertises (apps : Applications) (id : UInt32) : Prop :=
  id ∈ apps.authAppIdLst ∨ id ∈ apps.acctAppIdLst ∨
    id ≠ 0 ∧ ∃ entry ∈ apps.vendorSpecificId, entry.authAppId = id ∨ entry.acctAppId = id

def Relays (apps : Applications) : Prop := apps.Advertises relayApplicationId

/-- The nodes have an application in common, or one of them is a relay. -/
def Share (ours theirs : Applications) : Prop :=
  (∃ id, ours.Advertises id ∧ theirs.Advertises id) ∨ ours.Relays ∨ theirs.Relays

/-- Nothing depends on ids that entries do not have, and a relay meets some application. -/
structure Plain (ours theirs : Applications) : Prop where
  absent : 0 ∈ ours.ids → 0 ∈ theirs.ids → ∃ id, ours.Advertises id ∧ theirs.Advertises id
  relay : ours.Relays ∨ theirs.Relays → ours.ids ≠ [] ∧ theirs.ids ≠ []

/-- The nodes share an application of one kind, and of one vendor where it is specific. -/
def ShareKind (ours theirs : Applications) : Prop :=
  (∃ id ∈ ours.authAppIdLst, id ∈ theirs.authAppIdLst) ∨
    (∃ id ∈ ours.acctAppIdLst, id ∈ theirs.acctAppIdLst) ∨
    (∃ entry ∈ ours.vendorSpecificId, ∃ other ∈ theirs.vendorSpecificId,
      entry.vendorId = other.vendorId ∧
        (entry.authAppId ≠ 0 ∧ entry.authAppId = other.authAppId ∨
          entry.acctAppId ≠ 0 ∧ entry.acctAppId = other.acctAppId)) ∨
    ours.Relays ∨ theirs.Relays

end Applications

/-! The searches as one comparison of all ids. -/

/-- Two ids that are compared match. -/
def IdsMatch (id other : UInt32) : Prop :=
  id = relayApplicationId ∨ other = relayApplicationId ∨ other = id

section

variable {id : UInt32} {ours theirs : Applications}

open ApplicationIdLookup

theorem find_iff {lst : List UInt32} : find id lst = true ↔ ∃ other ∈ lst, IdsMatch id other := by
  simp [find, IdsMatch, or_assoc]

theorem findIn_iff :
    findIn id [ours.authAppIdLst, ours.acctAppIdLst] = true ↔
      ∃ other ∈ ours.authAppIdLst ++ ours.acctAppIdLst, IdsMatch id other := by
  simp [findIn, find_iff, or_and_right, exists_or]

theorem findVendorSpecific_iff {lst : List VendorSpecificApplicationId} :
    findVendorSpecific id lst = true ↔
      ∃ other ∈ lst.flatMap fun entry => [entry.authAppId, entry.acctAppId],
        IdsMatch id other := by
  rw [findVendorSpecific, List.any_eq_true]
  constructor
  · rintro ⟨entry, isIn, found⟩
    simp only [Bool.or_eq_true, beq_iff_eq] at found
    have auth : entry.authAppId ∈ lst.flatMap fun entry => [entry.authAppId, entry.acctAppId] :=
      List.mem_flatMap.2 ⟨entry, isIn, List.mem_cons_self⟩
    have acct : entry.acctAppId ∈ lst.flatMap fun entry => [entry.authAppId, entry.acctAppId] :=
      List.mem_flatMap.2 ⟨entry, isIn, List.mem_cons_of_mem _ List.mem_cons_self⟩
    rcases found with ((((isAuth | isAcct) | authRelay) | acctRelay) | relay) | relay
    · exact ⟨_, auth, .inr (.inr isAuth)⟩
    · exact ⟨_, acct, .inr (.inr isAcct)⟩
    · exact ⟨_, auth, .inr (.inl authRelay)⟩
    · exact ⟨_, acct, .inr (.inl acctRelay)⟩
    · exact ⟨_, auth, .inl relay⟩
    · exact ⟨_, auth, .inl relay⟩
  · rintro ⟨other, isIn, isMatch⟩
    obtain ⟨entry, isEntry, isOf⟩ := List.mem_flatMap.1 isIn
    refine ⟨entry, isEntry, ?_⟩
    simp only [Bool.or_eq_true, beq_iff_eq]
    simp only [List.mem_cons, List.not_mem_nil, or_false] at isOf
    rcases isOf with rfl | rfl <;> rcases isMatch with relay | otherRelay | same <;> simp [*]

/-- An id is looked for in all of our lists. -/
theorem lookup_iff :
    (findIn id [ours.authAppIdLst, ours.acctAppIdLst] ||
        findVendorSpecific id ours.vendorSpecificId) = true ↔
      ∃ other ∈ ours.ids, IdsMatch id other := by
  rw [Bool.or_eq_true, findIn_iff, findVendorSpecific_iff, Applications.ids]
  constructor
  · rintro (⟨other, isIn, isMatch⟩ | ⟨other, isIn, isMatch⟩)
    · exact ⟨other, List.mem_append_left _ isIn, isMatch⟩
    · exact ⟨other, List.mem_append_right _ isIn, isMatch⟩
  · rintro ⟨other, isIn, isMatch⟩
    rcases List.mem_append.1 isIn with isIn | isIn
    · exact .inl ⟨other, isIn, isMatch⟩
    · exact .inr ⟨other, isIn, isMatch⟩

theorem commonApplication_iff :
    commonApplication ours theirs = true ↔
      ∃ id ∈ theirs.ids, ∃ other ∈ ours.ids, IdsMatch id other := by
  simp only [← lookup_iff]
  rw [commonApplication, Applications.ids]
  simp only [List.any_cons, List.any_nil, Bool.or_false, Bool.or_eq_true, List.any_eq_true,
    List.mem_append, List.mem_flatMap, List.mem_cons, List.not_mem_nil, or_false]
  constructor
  · rintro ((⟨id, isIn, found⟩ | ⟨id, isIn, found⟩) | ⟨entry, isIn, found⟩)
    · exact ⟨id, .inl (.inl isIn), found⟩
    · exact ⟨id, .inl (.inr isIn), found⟩
    · rcases found with ((auth | acct) | auth) | acct
      · exact ⟨_, .inr ⟨entry, isIn, .inl rfl⟩, .inl auth⟩
      · exact ⟨_, .inr ⟨entry, isIn, .inr rfl⟩, .inl acct⟩
      · exact ⟨_, .inr ⟨entry, isIn, .inl rfl⟩, .inr auth⟩
      · exact ⟨_, .inr ⟨entry, isIn, .inr rfl⟩, .inr acct⟩
  · rintro ⟨id, (isIn | isIn) | ⟨entry, isIn, rfl | rfl⟩, found⟩
    · exact .inl (.inl ⟨id, isIn, found⟩)
    · exact .inl (.inr ⟨id, isIn, found⟩)
    · rcases found with inLists | inEntries
      · exact .inr ⟨entry, isIn, .inl (.inl (.inl inLists))⟩
      · exact .inr ⟨entry, isIn, .inl (.inr inEntries)⟩
    · rcases found with inLists | inEntries
      · exact .inr ⟨entry, isIn, .inl (.inl (.inr inLists))⟩
      · exact .inr ⟨entry, isIn, .inr inEntries⟩

namespace Applications

variable {apps : Applications}

theorem Advertises.mem_ids (advertises : apps.Advertises id) :
    id ∈ apps.ids := by
  rw [ids]
  rcases advertises with auth | acct | ⟨-, entry, isIn, isOf⟩
  · exact List.mem_append_left _ (List.mem_append_left _ auth)
  · exact List.mem_append_left _ (List.mem_append_right _ acct)
  · apply List.mem_append_right
    rcases isOf with rfl | rfl
    · exact List.mem_flatMap.2 ⟨entry, isIn, List.mem_cons_self⟩
    · exact List.mem_flatMap.2 ⟨entry, isIn, List.mem_cons_of_mem _ List.mem_cons_self⟩

/-- Every id but 0 that is compared is one that is advertised. -/
theorem advertises_of_mem_ids (isIn : id ∈ apps.ids) (present : id ≠ 0) :
    apps.Advertises id := by
  rw [ids] at isIn
  rcases List.mem_append.1 isIn with isIn | isIn
  · rcases List.mem_append.1 isIn with auth | acct
    · exact .inl auth
    · exact .inr (.inl acct)
  · obtain ⟨entry, isEntry, isOf⟩ := List.mem_flatMap.1 isIn
    simp only [List.mem_cons, List.not_mem_nil, or_false] at isOf
    exact .inr (.inr ⟨present, entry, isEntry, isOf.imp Eq.symm Eq.symm⟩)

theorem relays_of_mem_ids (isIn : id ∈ apps.ids) (relay : id = relayApplicationId) :
    apps.Relays := by
  subst relay
  exact advertises_of_mem_ids isIn (by decide)

/-- The search finds what the nodes share. -/
theorem Plain.commonApplication_iff (plain : Plain ours theirs) :
    commonApplication ours theirs = true ↔ Share ours theirs := by
  rw [Peer.commonApplication_iff]
  constructor
  · rintro ⟨id, isIn, other, isOther, relay | otherRelay | same⟩
    · exact .inr (.inr (relays_of_mem_ids isIn relay))
    · exact .inr (.inl (relays_of_mem_ids isOther otherRelay))
    · subst same
      by_cases absent : other = 0
      · subst absent
        exact .inl (plain.absent isOther isIn)
      · exact .inl ⟨other, advertises_of_mem_ids isOther absent,
          advertises_of_mem_ids isIn absent⟩
  · intro share
    rcases share with ⟨id, advertises, advertised⟩ | relays | relays
    · exact ⟨id, advertised.mem_ids, id, advertises.mem_ids, .inr (.inr rfl)⟩
    · obtain ⟨id, isIn⟩ := List.exists_mem_of_ne_nil _ (plain.relay (.inl relays)).2
      exact ⟨id, isIn, relayApplicationId, relays.mem_ids, .inr (.inl rfl)⟩
    · obtain ⟨id, isIn⟩ := List.exists_mem_of_ne_nil _ (plain.relay (.inr relays)).1
      exact ⟨relayApplicationId, relays.mem_ids, id, isIn, .inl rfl⟩

end Applications

variable {config : CapabilityConfig} {cap : PeerCapabilities}

theorem validatePeer_eq_success_iff :
    validatePeer config cap = .success ↔
      commonApplication config.applications cap.applications = true ∧
        config.tls.toUInt32 = cap.inbandSecurityId := by
  rw [validatePeer]
  cases commonApplication config.applications cap.applications with
  | false => exact iff_of_false (fun same => nomatch same) (fun both => nomatch both.1)
  | true =>
    rw [if_neg (fun same => nomatch same)]
    by_cases agree : config.tls.toUInt32 = cap.inbandSecurityId
    · rw [if_neg (Classical.not_not.2 agree)]
      exact iff_of_true rfl ⟨rfl, agree⟩
    · rw [if_pos agree]
      exact iff_of_false (fun same => nomatch same) (fun both => agree both.2)

/-- A peer is accepted exactly when an application is shared and the security settings agree. -/
theorem validatePeer_accepts_iff (plain : config.applications.Plain cap.applications) :
    validatePeer config cap = .success ↔
      config.applications.Share cap.applications ∧
        config.tls.toUInt32 = cap.inbandSecurityId := by
  rw [validatePeer_eq_success_iff, plain.commonApplication_iff]

theorem IdsMatch.symm {id other : UInt32} (isMatch : IdsMatch id other) : IdsMatch other id := by
  rcases isMatch with relay | otherRelay | same
  · exact .inr (.inl relay)
  · exact .inl otherRelay
  · exact .inr (.inr same.symm)

theorem commonApplication_symm (found : commonApplication ours theirs = true) :
    commonApplication theirs ours = true := by
  rw [commonApplication_iff] at found ⊢
  obtain ⟨id, isIn, other, isOther, isMatch⟩ := found
  exact ⟨other, isOther, id, isIn, isMatch.symm⟩

/-- What the peer state machine takes from a configuration. -/
def CapabilityConfig.peerConfig (config : CapabilityConfig) :
    PeerConfig Parser.AvpContainerList where
  identity := config.identity.map UInt8.toInt8
  avps := config.assembleCe
  validatePeer := fun msg => validatePeer config (disassembleCe (msg.avps.getD []))

/-- Of two nodes that advertise one id in each Vendor-Specific-Application-Id, both accept the
messages of the other one or none does. -/
theorem validatePeer_mutual {theirs : CapabilityConfig} (request : Bool) (id : MsgId)
    (rcode : Nat) (one : ∀ vid ∈ theirs.vendorSpecificId, vid.authAppId = 0 ↔ vid.acctAppId ≠ 0)
    (ourOne : ∀ vid ∈ config.vendorSpecificId, vid.authAppId = 0 ↔ vid.acctAppId ≠ 0) :
    config.peerConfig.validatePeer (theirs.peerConfig.assembleCe request id rcode) = .success ↔
      theirs.peerConfig.validatePeer (config.peerConfig.assembleCe request id rcode) =
        .success := by
  have sent (config : CapabilityConfig) : config.assembleCe = config.sentCe none :=
    (List.append_nil _).symm
  show validatePeer config (disassembleCe theirs.assembleCe) = _ ↔
    validatePeer theirs (disassembleCe config.assembleCe) = _
  rw [sent, sent, disassembleCe_eq_advertised one, disassembleCe_eq_advertised ourOne,
    validatePeer_eq_success_iff, validatePeer_eq_success_iff]
  constructor
  · exact fun accepted => ⟨commonApplication_symm accepted.1, accepted.2.symm⟩
  · exact fun accepted => ⟨commonApplication_symm accepted.1, accepted.2.symm⟩

end

theorem validatePeer_mutual_kinds :
    (configWith ⟨10415, 4, 0⟩).peerConfig.validatePeer
        ((configWith ⟨10415, 0, 3⟩).peerConfig.assembleCe true ⟨1, 2⟩ 0) = .success ↔
      (configWith ⟨10415, 0, 3⟩).peerConfig.validatePeer
        ((configWith ⟨10415, 4, 0⟩).peerConfig.assembleCe true ⟨1, 2⟩ 0) = .success :=
  validatePeer_mutual true ⟨1, 2⟩ 0 (by decide) (by decide)

/-- A node accepts one with its own configuration. -/
theorem validatePeer_accepts_same :
    validatePeer (configWith ⟨10415, 4, 0⟩) (configWith ⟨10415, 4, 0⟩).advertised = .success ↔
      (configWith ⟨10415, 4, 0⟩).applications.Share
          (configWith ⟨10415, 4, 0⟩).advertised.applications ∧
        false.toUInt32 = (configWith ⟨10415, 4, 0⟩).advertised.inbandSecurityId :=
  validatePeer_accepts_iff
    ⟨fun _ _ => ⟨1, .inl (by decide), .inl (by decide)⟩, fun _ => by decide⟩

/-- A node that advertises the application ids given and nothing else. -/
def peerWith (acctAppIdLst : List UInt32) (vendorSpecificId : List VendorSpecificApplicationId) :
    PeerCapabilities :=
  { (configWith ⟨10415, 4, 0⟩).advertised with
    authAppIdLst := []
    acctAppIdLst
    vendorSpecificId }

/-- An accounting id is accepted for our authentication id, and entries of two vendors that have
no accounting id are for each other. -/
theorem other_kinds_accepted :
    ¬(validatePeer (configWith ⟨10415, 4, 0⟩) (peerWith [1] []) = .success ↔
        (configWith ⟨10415, 4, 0⟩).applications.ShareKind (peerWith [1] []).applications ∧
          false.toUInt32 = (peerWith [1] []).inbandSecurityId) ∧
      ¬(validatePeer (configWith ⟨10415, 4, 0⟩) (peerWith [] [⟨9, 5, 0⟩]) = .success ↔
        (configWith ⟨10415, 4, 0⟩).applications.ShareKind (peerWith [] [⟨9, 5, 0⟩]).applications ∧
          false.toUInt32 = (peerWith [] [⟨9, 5, 0⟩]).inbandSecurityId) := by
  unfold Applications.ShareKind Applications.Relays Applications.Advertises
  constructor <;> decide

end OpenDiameter.Peer
