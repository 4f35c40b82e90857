import OpenDiameter.Eap.AuthMachine

/-!
`eap_md5.cxx`: the method MD5-Challenge of a peer and of an authenticator. The digest, the random
challenge and the passphrase that the application gives are parameters.
-/

namespace OpenDiameter.Eap

open OpenDiameter.Foundation

structure Md5Settings where
  md5 : EapOctets → EapOctets
  challenge : EapOctets
  passphrase : EapOctets
  myName : EapOctets

structure EapMD5Challenge where
  value : EapOctets
  name : EapOctets := []
  deriving DecidableEq

/-- `EapRequestMD5ChallengeParser::parseRawToApp`, of what is behind the type. The length of the
name is a signed number of 16 bits; where it is negative, the string is too long, which throws. -/
def EapMD5Challenge.parseRawToApp (raw : EapOctets) : Option EapMD5Challenge :=
  let valueSize := (raw.getD 0 0).toNat
  let nameLength := (raw.length + 65536 - (valueSize + 1)) % 65536
  if valueSize = 0 then none
  else if 32768 ≤ nameLength then none
  else some
    { value := octetsAt raw 1 valueSize
      name := octetsAt raw (1 + valueSize) nameLength }

/-- The value of a message, nothing where it is not read. -/
def readMd5Value (msg : EapOctets) : Option EapOctets :=
  (EapMD5Challenge.parseRawToApp (typeData msg)).map (·.value)

/-- `EapRequestMD5ChallengeParser::parseAppToRaw` -/
def writeMd5 (value name : EapOctets) : EapOctets :=
  writeType .md5Challenge ++ [UInt8.ofNat value.length] ++ value ++ name

section Methods

variable (settings : Md5Settings)

def md5Response (identifier : UInt8) (challenge : EapOctets) : EapOctets :=
  settings.md5 ([identifier] ++ settings.passphrase ++ challenge)

inductive Md5PeerState where
  /-- `StInitialize` -/
  | initializing
  | success
  deriving DecidableEq, Repr

/-- `EapPeerMD5ChallengeStateTable_S`, a Request being processed in one step. -/
def serveMd5Peer (event : EapMethodEvent) (request : Option EapOctets) (identifier : UInt8) :
    Md5PeerState → Md5PeerState × PeerReply
  | .initializing =>
    match event, request.bind readMd5Value with
    | .sgTunnelProcess, _ => (.initializing, { outcome := .none })
    | .sgIntegrityCheck, none => (.initializing, { outcome := .invalid false })
    | .sgIntegrityCheck, some value =>
      if settings.passphrase.isEmpty then (.initializing, { outcome := .invalid false })
      else
        (.success,
          { decision := some .uncondSucc
            outcome := .valid
              ((writeMd5 (md5Response settings identifier value) settings.myName).drop 4)
              false })
  | .success => (.success, { outcome := .none })

/-- The method table of a peer that has MD5-Challenge alone. -/
def md5PeerMethods : PeerMethods Md5PeerState where
  create type := if type = .md5Challenge then some .initializing else none
  serve := serveMd5Peer settings
  keyData _ := []
  utf8 _ _ := true

inductive Md5AuthState where
  /-- `StInitialize` -/
  | initializing
  | waitResponse
  | success
  | failure
  deriving DecidableEq, Repr

/-- `EapAuthMD5ChallengeStateTable_S`, a Response being processed in one step. -/
def serveMd5Auth (event : EapMethodEvent) (response : Option EapOctets) (identifier : UInt8)
    (state : Md5AuthState) : Md5AuthState × AuthReply :=
  match event, state with
  | .sgIntegrityCheck, .initializing =>
    (.waitResponse,
      { txMessage := some (some (writeMd5 settings.challenge settings.myName))
        signal := some .validResp })
  | .sgIntegrityCheck, .waitResponse =>
    if settings.passphrase.isEmpty = false ∧
        response.bind readMd5Value = some (md5Response settings identifier settings.challenge) then
      (.success, { update := some .policyOnSuccess, signal := some .validResp })
    else (.failure, { update := some .policyOnFailure, signal := some .validResp })
  | _, state => (state, {})

/-- The method table of an authenticator that has MD5-Challenge alone. -/
def md5AuthMethods : AuthMethods Md5AuthState where
  create type := if type = .md5Challenge then some .initializing else none
  serve := serveMd5Auth settings
  isDone state := state = .success || state = .failure
  keyData _ := []
  getNextIdentifier _ identifier := identifier + 1

end Methods

/-- A node whose passphrase is the octet 7, with a digest of sixteen octets. -/
def sampleMd5 : Md5Settings where
  md5 octets := (octets ++ List.replicate 16 0).take 16
  challenge := List.replicate 16 5
  passphrase := [7]
  myName := []

end OpenDiameter.Eap
