import MatterDissector.Message.Decrypt
import MatterDissector.Security.Case
import MatterDissector.Security.Hkdf

/-!
# CASE session keys

`RecoverCASESessionKey` (`packet-matter-security.cpp`), which the response calls behind its message
hash, and `HKDF_extract` (`HKDF.c`). OpenSSL is a parameter, as for `HKDF_expand`.

Left out is `recoveredSessionKey`, which nothing reads.
-/

namespace Matter.Security

open Prog Message

def configConfig2 : Nat := 0x235A0002
def curveIdPrime192v1 : Nat := 0x235A0015
def curveIdSecp224r1 : Nat := 0x235A0025
def curveIdPrime256v1 : Nat := 0x235A001B

/-- `CASE_MAX_HASH_SIZE` -/
def caseMaxHashSize : Nat := 32

def prime192v1G : List UInt8 :=
  [0x04,
    0x18, 0x8d, 0xa8, 0x0e, 0xb0, 0x30, 0x90, 0xf6, 0x7c, 0xbf, 0x20, 0xeb, 0x43, 0xa1, 0x88, 0x00,
    0xf4, 0xff, 0x0a, 0xfd, 0x82, 0xff, 0x10, 0x12,
    0x07, 0x19, 0x2b, 0x95, 0xff, 0xc8, 0xda, 0x78, 0x63, 0x10, 0x11, 0xed, 0x6b, 0x24, 0xcd, 0xd5,
    0x73, 0xf9, 0x77, 0xa1, 0x1e, 0x79, 0x48, 0x11]

def secp224r1G : List UInt8 :=
  [0x04,
    0xb7, 0x0e, 0x0c, 0xbd, 0x6b, 0xb4, 0xbf, 0x7f, 0x32, 0x13, 0x90, 0xb9, 0x4a, 0x03, 0xc1, 0xd3,
    0x56, 0xc2, 0x11, 0x22, 0x34, 0x32, 0x80, 0xd6, 0x11, 0x5c, 0x1d, 0x21,
    0xbd, 0x37, 0x63, 0x88, 0xb5, 0xf7, 0x23, 0xfb, 0x4c, 0x22, 0xdf, 0xe6, 0xcd, 0x43, 0x75, 0xa0,
    0x5a, 0x07, 0x47, 0x64, 0x44, 0xd5, 0x81, 0x99, 0x85, 0x00, 0x7e, 0x34]

def prime256v1G : List UInt8 :=
  [0x04,
    0x6b, 0x17, 0xd1, 0xf2, 0xe1, 0x2c, 0x42, 0x47, 0xf8, 0xbc, 0xe6, 0xe5, 0x63, 0xa4, 0x40, 0xf2,
    0x77, 0x03, 0x7d, 0x81, 0x2d, 0xeb, 0x33, 0xa0, 0xf4, 0xa1, 0x39, 0x45, 0xd8, 0x98, 0xc2, 0x96,
    0x4f, 0xe3, 0x42, 0xe2, 0xfe, 0x1a, 0x7f, 0x9b, 0x8e, 0xe7, 0xeb, 0x4a, 0x7c, 0x0f, 0x9e, 0x16,
    0x2b, 0xce, 0x33, 0x57, 0x6b, 0x31, 0x5e, 0xce, 0xcb, 0xb6, 0x40, 0x68, 0x37, 0xbf, 0x51, 0xf5]

/-- The generator of a curve that `IsCurveGenerator` knows. -/
def curveGenerator (curveId : Nat) : Option (List UInt8) :=
  if curveId = curveIdPrime192v1 then some prime192v1G
  else if curveId = curveIdSecp224r1 then some secp224r1G
  else if curveId = curveIdPrime256v1 then some prime256v1G
  else none

/-- `IsCurveGenerator`. -/
def isCurveGenerator (curveId : Nat) (encodedPoint : List UInt8) : Bool :=
  match curveGenerator curveId with
  | some generator => encodedPoint == generator
  | none => false

/-- OpenSSL's digests, whether `HMAC` succeeds on a key and data, and what is on the stack where
`sessionKeyData` is. -/
structure KdfEnv where
  openSSL : OpenSSL
  sha1 : EvpMd
  sha256 : EvpMd
  hmacSucceeds : List UInt8 → List UInt8 → Bool
  stack : List UInt8
  size_sha1 : sha1.size = 20
  size_sha256 : sha256.size = 32
  length_stack : stack.length = dataEncKeyLengthAES128CCM + caseMaxHashSize

/-- `HKDF_extract`: `prKeyBuf`, or 0. -/
def hkdfExtract (env : KdfEnv) (md : EvpMd) (salt inKey : List UInt8) : Option (List UInt8) :=
  if env.hmacSucceeds salt inKey then some (md.hmac salt inKey) else none

/-- `memcpy` from a message hash, an array of `CASE_MAX_HASH_SIZE` bytes that was cleared. -/
def hashBytes (msgHash : List UInt8) (hashLen : Nat) : List UInt8 :=
  (msgHash ++ List.replicate (caseMaxHashSize - msgHash.length) 0).take hashLen

/-- The digest of a configuration. -/
def KdfEnv.hashAlgo (env : KdfEnv) (config : Nat) : EvpMd :=
  if config = configConfig1 then env.sha1 else env.sha256

/-- `HKDF_expand` into `sessionKeyData`; `none` when it fails. -/
def expandSessionKey (env : KdfEnv) (md : EvpMd) (masterKey : List UInt8) :
    DecryptM (Option (List UInt8)) :=
  match (hkdfExpand env.openSSL md masterKey none 0
      (dataEncKeyLengthAES128CCM + caseMaxHashSize)).run env.stack with
  | .ok res sessionKeyData => pure (if res = 1 then some sessionKeyData else none)
  | .err _ _ => pure none
  | .fault f => stop f

/-- `DeriveCASESessionKey`. -/
def deriveCASESessionKey (env : KdfEnv) (caseExchangeRec : CASEExchangeRecord)
    (sharedSecret : List UInt8) : DecryptM Unit := do
  if caseExchangeRec.sessionType ≠ encryptionTypeAES128CCM then pure ()
  else
    let hashAlgo := env.hashAlgo caseExchangeRec.config
    let salt := hashBytes caseExchangeRec.reqMsgHash hashAlgo.size ++
      hashBytes caseExchangeRec.respMsgHash hashAlgo.size
    match hkdfExtract env hashAlgo salt sharedSecret with
    | none => pure ()
    | some masterKey =>
      match ← expandSessionKey env hashAlgo masterKey with
      | none => pure ()
      | some sessionKeyData =>
        addKey
          { keyId := caseExchangeRec.keyId
            sessionType := caseExchangeRec.sessionType
            dataEncKey := sessionKeyData.take dataEncKeyLengthAES128CCM
            srcNodeId := 0 }

/-- `sharedSecretLen` bytes of a public key, behind the first one. -/
def xOfPublicKey (ecdhPublicKey : List UInt8) (ecdhPublicKeyLen : Nat) : List UInt8 :=
  (ecdhPublicKey.drop 1).take ((ecdhPublicKeyLen - 1) / 2)

/-- `RecoverCASESessionKey`. -/
def recoverCASESessionKey (env : KdfEnv) (r : CASEExchangeRecord) : DecryptM Unit :=
  if r.config ≠ configConfig1 ∧ r.config ≠ configConfig2 then pure ()
  else if r.curveId ≠ curveIdPrime192v1 ∧ r.curveId ≠ curveIdSecp224r1 ∧
      r.curveId ≠ curveIdPrime256v1 then pure ()
  else if r.reqECDHPublicKey.length ≠ r.respECDHPublicKey.length then pure ()
  else if isCurveGenerator r.curveId r.reqECDHPublicKey then
    deriveCASESessionKey env r (xOfPublicKey r.respECDHPublicKey r.reqECDHPublicKey.length)
  else if isCurveGenerator r.curveId r.respECDHPublicKey then
    deriveCASESessionKey env r (xOfPublicKey r.reqECDHPublicKey r.reqECDHPublicKey.length)
  else pure ()

/-! ## The response -/

structure RecoveryState where
  case : CaseState
  decrypt : DecryptState

/-- The record that a response completes: it had none before, and has found one. -/
def recordCompleted (own : Option Nat) (s : CaseState) : Option CASEExchangeRecord :=
  if own = none then s.caseExchangeRec.bind (s.records[·]?) else none

/-- `dissectResponse` with the call at its end. -/
def recoveringResponse (tvb : Tvb) (env : CaseEnv) (kdf : KdfEnv) :
    Prog CaseStop Fault RecoveryState Unit := do
  let own ← gets (·.case.caseExchangeRec)
  zoom RecoveryState.case (fun case s => { s with case }) (dissectResponse tvb env)
  match ← gets fun s => recordCompleted own s.case with
  | some r =>
    zoom RecoveryState.decrypt (fun decrypt s => { s with decrypt })
      (mapError CaseStop.thrown (recoverCASESessionKey kdf r))
  | none => pure ()

end Matter.Security
