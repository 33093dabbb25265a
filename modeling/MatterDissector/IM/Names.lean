import MatterDissector.TLV.Dissector
import Mathlib.Data.List.Infix

/-!
# What the interaction model dissector looks up

The name tables (`im_name_tables.inc`) and their lookups (`packet-matter-im.cpp`), the names of
numbers in certificates, and what OpenSSL tells of a certificate, a signing request or a signed
message. The contents of the tables, which a script generates, and OpenSSL are parameters.
-/

namespace Matter.IM

open TLV

/-! ## The name tables -/

structure ClusterNameEntry where
  clusterId : Nat
  name : Text
  deriving DecidableEq, Repr

structure ScopedNameEntry where
  clusterId : Nat
  id : Nat
  name : Text
  deriving DecidableEq, Repr

structure CommandFieldNameEntry where
  clusterId : Nat
  commandId : Nat
  tag : Nat
  isRequest : Bool
  name : Text
  deriving DecidableEq, Repr

structure EventFieldNameEntry where
  clusterId : Nat
  eventId : Nat
  tag : Nat
  name : Text
  deriving DecidableEq, Repr

structure AttributeStructFieldNameEntry where
  clusterId : Nat
  attributeId : Nat
  tag : Nat
  name : Text
  deriving DecidableEq, Repr

structure AttributeEnumValueNameEntry where
  clusterId : Nat
  attributeId : Nat
  value : Nat
  name : Text
  deriving DecidableEq, Repr

/-- The tables of `im_name_tables.inc`. -/
structure NameTables where
  clusterNameTable : List ClusterNameEntry := []
  attributeNameTable : List ScopedNameEntry := []
  commandNameTable : List ScopedNameEntry := []
  eventNameTable : List ScopedNameEntry := []
  commandFieldNameTable : List CommandFieldNameEntry := []
  eventFieldNameTable : List EventFieldNameEntry := []
  attributeStructFieldNameTable : List AttributeStructFieldNameEntry := []
  attributeEnumValueNameTable : List AttributeEnumValueNameEntry := []

def findScopedName (table : List ScopedNameEntry) (clusterId id : Nat) : Option Text :=
  (table.find? fun entry => entry.clusterId = clusterId ∧ entry.id = id).map (·.name)

namespace NameTables

variable (names : NameTables)

def getClusterNameById (clusterId : Nat) : Option Text :=
  (names.clusterNameTable.find? (·.clusterId = clusterId)).map (·.name)

def getCommandNameById : Nat → Nat → Option Text := findScopedName names.commandNameTable
def getAttributeNameById : Nat → Nat → Option Text := findScopedName names.attributeNameTable
def getEventNameById : Nat → Nat → Option Text := findScopedName names.eventNameTable

def getCommandFieldNameByTag (clusterId commandId tag : Nat) (isRequest : Bool) : Option Text :=
  (names.commandFieldNameTable.find? fun entry => entry.clusterId = clusterId ∧
    entry.commandId = commandId ∧ entry.tag = tag ∧ entry.isRequest = isRequest).map (·.name)

def getEventFieldNameByTag (clusterId eventId tag : Nat) : Option Text :=
  (names.eventFieldNameTable.find? fun entry =>
    entry.clusterId = clusterId ∧ entry.eventId = eventId ∧ entry.tag = tag).map (·.name)

def getAttributeStructFieldNameByTag (clusterId attributeId tag : Nat) : Option Text :=
  (names.attributeStructFieldNameTable.find? fun entry =>
    entry.clusterId = clusterId ∧ entry.attributeId = attributeId ∧ entry.tag = tag).map (·.name)

def getAttributeEnumValueName (clusterId attributeId value : Nat) : Option Text :=
  (names.attributeEnumValueNameTable.find? fun entry => entry.clusterId = clusterId ∧
    entry.attributeId = attributeId ∧ entry.value = value).map (·.name)

end NameTables

/-! ## Names in certificates -/

/-- `strstr`: the bytes of `part` occur in a row. -/
def occursIn (part name : Text) : Bool := decide (part <:+: name)

def isMatterCertificateLikeFieldName (fieldName : Text) : Bool :=
  fieldName ≠ Text.lit "CertificationDeclaration" &&
    (occursIn (Text.lit "Certificate") fieldName || fieldName = Text.lit "NOCValue" ||
      fieldName = Text.lit "ICACValue" || fieldName = Text.lit "RCACValue")

def lookupMatterCertSignatureAlgorithmName : Nat → Option Text
  | 1 => some (Text.lit "ECDSAWithSHA256")
  | _ => none

def lookupMatterCertPublicKeyAlgorithmName : Nat → Option Text
  | 1 => some (Text.lit "ECPublicKey")
  | _ => none

def lookupMatterCertCurveName : Nat → Option Text
  | 1 => some (Text.lit "prime256v1")
  | _ => none

def lookupMatterCertExtendedKeyUsageName : Nat → Option Text
  | 1 => some (Text.lit "ServerAuth")
  | 2 => some (Text.lit "ClientAuth")
  | 3 => some (Text.lit "CodeSigning")
  | 4 => some (Text.lit "EmailProtection")
  | 5 => some (Text.lit "TimeStamping")
  | 6 => some (Text.lit "OCSPSigning")
  | _ => none

/-- The bits of a key usage and their labels. -/
def keyUsageBits : List (Nat × String) :=
  [(0x01, "digitalSignature"), (0x02, "nonRepudiation"), (0x04, "keyEncipherment"),
    (0x08, "dataEncipherment"), (0x10, "keyAgreement"), (0x20, "keyCertSign"), (0x40, "cRLSign"),
    (0x80, "encipherOnly"), (0x100, "decipherOnly")]

/-- The labels of the bits that are set, if any are. -/
def keyUsageLabels (value : Nat) : Option Text :=
  let labels := (keyUsageBits.filter fun bit => value &&& bit.1 ≠ 0).map fun bit => Text.lit bit.2
  if labels = [] then none else some ([124].intercalate labels)  -- "|"

def getCertDNAttrNameForIM : Nat → Option Text
  | 0 => some (Text.lit "Unspecified")
  | 1 => some (Text.lit "CommonName")
  | 2 => some (Text.lit "Surname")
  | 3 => some (Text.lit "SerialNumber")
  | 4 => some (Text.lit "CountryName")
  | 5 => some (Text.lit "LocalityName")
  | 6 => some (Text.lit "StateOrProvinceName")
  | 7 => some (Text.lit "OrganizationName")
  | 8 => some (Text.lit "OrganizationalUnitName")
  | 9 => some (Text.lit "Title")
  | 10 => some (Text.lit "Name")
  | 11 => some (Text.lit "GivenName")
  | 12 => some (Text.lit "Initials")
  | 13 => some (Text.lit "GenerationQualifier")
  | 14 => some (Text.lit "DNQualifier")
  | 15 => some (Text.lit "Pseudonym")
  | 16 => some (Text.lit "DomainComponent")
  | 17 => some (Text.lit "NodeId")
  | 18 => some (Text.lit "ServiceEndpointId")
  | 19 => some (Text.lit "FabricId")
  | 20 => some (Text.lit "SoftwarePublisherId")
  | 21 => some (Text.lit "CASEAuthTag")
  | _ => none

def lookupCertificationTypeName : Nat → Option Text
  | 0 => some (Text.lit "DevelopmentAndTest")
  | 1 => some (Text.lit "Provisional")
  | 2 => some (Text.lit "Official")
  | 3 => some (Text.lit "Reserved")
  | _ => none

/-- `BytesToHex(data, len, maxLen)`. -/
def bytesToHex (data : List UInt8) (maxLen : Nat) : Text :=
  (data.take maxLen).flatMap (fun b => Text.zeroPad 2 (Text.hexUpper b.toNat)) ++
    (if data.length > maxLen then Text.lit "..." else [])

/-! ## OpenSSL -/

/-- The name of the key's type, if it has one, and its length. -/
structure PublicKey where
  typeName : Option Text
  bits : Int
  deriving DecidableEq, Repr

/-- The texts that are shown of a certificate; each may be missing. -/
structure X509 where
  subject : Option Text
  issuer : Option Text
  serialNumber : Option Text
  notBefore : Option Text
  notAfter : Option Text
  signatureAlgorithm : Option Text
  publicKey : Option PublicKey
  deriving DecidableEq, Repr

structure X509Request where
  subject : Option Text
  publicKey : Option PublicKey
  signatureAlgorithm : Option Text
  deriving DecidableEq, Repr

structure CmsSigner where
  signatureAlgorithm : Option Text
  /-- empty if there is none -/
  keyId : List UInt8
  deriving DecidableEq, Repr

structure CmsContentInfo where
  contentType : Option Text
  signerCount : Nat
  firstSigner : Option CmsSigner
  certificateCount : Nat
  /-- empty if there is none -/
  content : List UInt8
  deriving DecidableEq, Repr

/-- The `d2i_` functions; `none` for `NULL`. -/
structure OpenSSL where
  d2iX509 : List UInt8 → Option X509
  d2iX509Req : List UInt8 → Option X509Request
  d2iCmsContentInfo : List UInt8 → Option CmsContentInfo

/-- What the dissector runs with. -/
structure Env where
  host : Host
  names : NameTables
  openssl : OpenSSL

end Matter.IM
