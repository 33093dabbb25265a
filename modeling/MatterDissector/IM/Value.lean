import MatterDissector.IM.Path

/-!
# Named values and the decoders inside them

`AddNamedCommandValue` shows the value of a field. The byte strings of some fields have a decoder
of their own, which runs a second dissector on the bytes and shows named values again: of
attestation elements down to the certification declaration, its certificate id and the fields of
that certificate. `addNamedCommandValueTo` is this recursion to a number of levels, and each
decoder is a function of the recursive call, `named`. OpenSSL certificates have no TLV inside.
-/

namespace Matter.IM

open Prog TLV Display TLV.Dissect

variable {α : Type}

/-- Runs `x` on another dissector, which is dropped at the end; what `x` shows stays. -/
def decodeIn (other : TLVDissector) (x : DissectM α) : DissectM α :=
  zoom (fun s => { s with tlv := other }) (fun s' s => { s with log := s'.log }) x

variable (env : Env)

/-- `AddSubTreeItemF` as `hf_DataElem_PropertyData`. -/
def addDataTree (tree : ProtoNode) (text : Text) : DissectM ProtoNode :=
  addSubTreeItemF tree .dataElemPropertyData .dataElem text

/-! ## Numbers -/

/-- A number, and its name if it has one. -/
def numberText (fieldName : Text) (lookupName : Nat → Option Text) (value : Nat) : Text :=
  fieldName ++ Text.lit "=" ++ Text.dec value ++
    ((lookupName value).map fun name => Text.lit " (" ++ name ++ Text.lit ")").getD []

/-- The number of the element, with its name; an element that is none is left to `other`. -/
def addNumberOr (tree : ProtoNode) (fieldName : Text) (lookupName : Nat → Option Text)
    (other : DissectM Unit) : DissectM Unit := do
  match ← getType with
  | .unsignedInteger => do
    let value ← onReader TLVReader.getUInt64
    addField tree (numberText fieldName lookupName value)
  | .signedInteger => do
    let value ← onReader TLVReader.getInt64
    addField tree (if value < 0 then fieldName ++ Text.lit "=" ++ Text.decInt value
      else numberText fieldName lookupName value.toNat)
  | _ => other

/-- The number of an unsigned element that `Get` succeeds on. -/
def unsignedValue : DissectM (Option Nat) := do
  let type ← getType
  if type = .unsignedInteger then
    match ← attempt (onReader TLVReader.getUInt64) with
    | .ok value => pure (some value)
    | .error _ => pure none
  else pure none

/-! ## Matter certificates -/

section
variable (named : ProtoNode → Text → DissectM Unit)

def addMatterCertEnumOrRaw (tree : ProtoNode) (fieldName : Text)
    (lookupName : Nat → Option Text) : DissectM Unit :=
  addNumberOr tree fieldName lookupName (named tree fieldName)

def addMatterCertKeyUsage (tree : ProtoNode) : DissectM Unit :=
  addNumberOr tree (Text.lit "KeyUsage") keyUsageLabels (named tree (Text.lit "KeyUsage"))

/-- The name of an attribute of a distinguished name. -/
def dnAttrName (attrTag : Nat) : Text :=
  let attrTagBase := attrTag &&& 0x7F
  (getCertDNAttrNameForIM attrTagBase).getD
    (Text.snprintf 32 (Text.lit "DNAttr_" ++ Text.dec attrTagBase))

def dnMember (dnTree : ProtoNode) : DissectM Unit := do
  let tag ← getTag
  if isContextTag tag then
    decodeOr (named dnTree (dnAttrName (tagNumFromTag tag))) (addUnknown env dnTree)
  else addUnknown env dnTree

def addDecodedMatterCertificateDN (tree : ProtoNode) (label : Text) : DissectM Unit := do
  let type ← getType
  verify (type = .path ∨ type = .struct) .unexpectedTLVElement
  let dnTree ← addDataTree tree label
  overMembers (fun () => dnMember env named dnTree) ()

/-- `kTag_ECDSASignature_r` and `_s`. -/
def ecdsaFieldName : Nat → Option Text
  | 1 => some (Text.lit "r")
  | 2 => some (Text.lit "s")
  | _ => none

def ecdsaMember (sigTree : ProtoNode) : DissectM Unit := do
  let tag ← getTag
  match if isContextTag tag then ecdsaFieldName (tagNumFromTag tag) else none with
  | some fieldName => decodeOr (named sigTree fieldName) (addUnknown env sigTree)
  | none => addUnknown env sigTree

def addDecodedMatterECDSASignature (tree : ProtoNode) : DissectM Unit := do
  let type ← getType
  verify (type = .struct) .unexpectedTLVElement
  let sigTree ← addDataTree tree (Text.lit "Signature")
  overMembers (fun () => ecdsaMember env named sigTree) ()

def basicConstraintsMember (bcTree : ProtoNode) : DissectM Unit := do
  let tag ← getTag
  if isContextTag tag ∨ isProfileTag tag then
    match tagNumFromTag tag with
    | 1 => named bcTree (Text.lit "IsCA")
    | 2 => named bcTree (Text.lit "PathLenConstraint")
    | _ => addUnknown env bcTree
  else addUnknown env bcTree

/-- The extension with tag 1. -/
def addBasicConstraints (extTree : ProtoNode) : DissectM Unit := do
  let type ← getType
  if type = .struct then do
    let bcTree ← addDataTree extTree (Text.lit "BasicConstraints")
    overMembers (fun () => basicConstraintsMember env named bcTree) ()
  else named extTree (Text.lit "BasicConstraints")

/-- The extension with tag 3. -/
def addExtendedKeyUsage (extTree : ProtoNode) : DissectM Unit := do
  let type ← getType
  if type = .array ∨ type = .path then do
    let ekuTree ← addDataTree extTree (Text.lit "ExtendedKeyUsage")
    overMembers (fun () => addNumberOr ekuTree (Text.lit "Usage")
      lookupMatterCertExtendedKeyUsageName (addUnknown env ekuTree)) ()
  else named extTree (Text.lit "ExtendedKeyUsage")

def extensionsMember (extTree : ProtoNode) : DissectM Unit := do
  let tag ← getTag
  if isContextTag tag ∨ isProfileTag tag then
    match tagNumFromTag tag with
    | 1 => addBasicConstraints env named extTree
    | 2 => addMatterCertKeyUsage named extTree
    | 3 => addExtendedKeyUsage env named extTree
    | 4 => named extTree (Text.lit "AuthorityKeyIdentifier")
    | 5 => named extTree (Text.lit "SubjectKeyIdentifier")
    | _ => addUnknown env extTree
  else addUnknown env extTree

def addDecodedMatterCertificateExtensions (tree : ProtoNode) : DissectM Unit := do
  let type ← getType
  verify (type = .path ∨ type = .struct) .unexpectedTLVElement
  let extTree ← addDataTree tree (Text.lit "Extensions")
  overMembers (fun () => extensionsMember env named extTree) ()

def certificateMember (certTree : ProtoNode) : DissectM Unit := do
  let certTag ← getTag
  let type ← getType
  if isContextTag certTag ∨ isProfileTag certTag then
    match tagNumFromTag certTag with
    | 1 => named certTree (Text.lit "SerialNumber")
    | 2 =>
      addMatterCertEnumOrRaw named certTree (Text.lit "SignatureAlgorithm")
        lookupMatterCertSignatureAlgorithmName
    | 3 => addDecodedMatterCertificateDN env named certTree (Text.lit "Issuer")
    | 4 => named certTree (Text.lit "NotBefore")
    | 5 => named certTree (Text.lit "NotAfter")
    | 6 => addDecodedMatterCertificateDN env named certTree (Text.lit "Subject")
    | 7 =>
      addMatterCertEnumOrRaw named certTree (Text.lit "PublicKeyAlgorithm")
        lookupMatterCertPublicKeyAlgorithmName
    | 8 =>
      addMatterCertEnumOrRaw named certTree (Text.lit "EllipticCurveIdentifier")
        lookupMatterCertCurveName
    | 9 => named certTree (Text.lit "PublicKey")
    | 10 => addDecodedMatterCertificateExtensions env named certTree
    | 11 =>
      if type = .struct then addDecodedMatterECDSASignature env named certTree
      else named certTree (Text.lit "Signature")
    | _ => addUnknown env certTree
  else addUnknown env certTree

/-- `kMatterProfile_Security`. -/
def securityProfileId : Nat := 0x1004

/-- `kTag_MatterCertificate`. -/
def matterCertificateTag : Nat := 1

/-- `certDissector` after `Init`, with its `ImplicitProfileId`. -/
def certDissector (value : List UInt8) (valueOffset : Nat) : TLVDissector :=
  let d := TLVDissector.init value value.length valueOffset
  { d with reader := { d.reader with implicitProfileId := securityProfileId } }

/-- A certificate with the profile's tag, or from the start again one without a tag. -/
def startCertificate (value : List UInt8) (valueOffset : Nat) : DissectM Unit := do
  match ← attempt (onTlv (TLVDissector.nextExpecting .struct
      (profileTag securityProfileId matterCertificateTag))) with
  | .ok () => pure ()
  | .error _ => do
    modify fun s => { s with tlv := certDissector value valueOffset }
    onTlv (TLVDissector.nextExpecting .struct anonymousTag)

def addDecodedMatterCertificate (fieldName : Text) (value : List UInt8) (valueOffset : Nat)
    (tree : ProtoNode) : DissectM Unit :=
  decodeIn (certDissector value valueOffset) do
    startCertificate value valueOffset
    let certTree ← addDataTree tree (fieldName ++ Text.lit " Decoded")
    overMembers (fun () => certificateMember env named certTree) ()

end

/-! ## OpenSSL certificates -/

/-- A text that is shown if it is there. -/
def addFieldIf (tree : ProtoNode) (label : String) : Option Text → DissectM Unit
  | some text => addField tree (Text.lit label ++ Text.lit "=" ++ text)
  | none => pure ()

def addPublicKey (tree : ProtoNode) : Option PublicKey → DissectM Unit
  | some pubKey => do
    addFieldIf tree "PublicKeyType" pubKey.typeName
    addField tree (Text.lit "PublicKeyBits=" ++ Text.decInt pubKey.bits)
  | none => pure ()

def addDecodedX509Certificate (tree : ProtoNode) (fieldName : Text) (value : List UInt8) :
    DissectM Unit := do
  match env.openssl.d2iX509 value with
  | none => throw .unexpectedTLVElement
  | some cert => do
    let certTree ← addDataTree tree (fieldName ++ Text.lit " Decoded (X.509)")
    addFieldIf certTree "Subject" cert.subject
    addFieldIf certTree "Issuer" cert.issuer
    addFieldIf certTree "SerialNumber" cert.serialNumber
    addFieldIf certTree "NotBefore" cert.notBefore
    addFieldIf certTree "NotAfter" cert.notAfter
    addFieldIf certTree "SignatureAlgorithm" cert.signatureAlgorithm
    addPublicKey certTree cert.publicKey

def addDecodedX509CSR (tree : ProtoNode) (fieldName : Text) (value : List UInt8) :
    DissectM Unit := do
  match env.openssl.d2iX509Req value with
  | none => throw .unexpectedTLVElement
  | some req => do
    let csrTree ← addDataTree tree (fieldName ++ Text.lit " Decoded (X.509 CSR)")
    addFieldIf csrTree "Subject" req.subject
    addPublicKey csrTree req.publicKey
    addFieldIf csrTree "SignatureAlgorithm" req.signatureAlgorithm

/-! ## Attestation -/

section
variable (named : ProtoNode → Text → DissectM Unit)

/-- `inner.Next(kTLVType_Structure, AnonymousTag)`, whose error becomes another. -/
def startInner : DissectM Unit := do
  match ← attempt (onTlv (TLVDissector.nextExpecting .struct anonymousTag)) with
  | .ok () => pure ()
  | .error _ => throw .unexpectedTLVElement

def attestationFieldName : Nat → Option Text
  | 1 => some (Text.lit "CertificationDeclaration")
  | 2 => some (Text.lit "AttestationNonce")
  | 3 => some (Text.lit "Timestamp")
  | 4 => some (Text.lit "FirmwareInfo")
  | _ => none

/-- An element with a profile tag. -/
def vendorReservedText (tag : Nat) (length : Option Nat) : Text :=
  Text.lit "VendorReserved Profile=0x" ++ Text.zeroPad 8 (Text.hexUpper (profileIdFromTag tag)) ++
    Text.lit " Tag=" ++ Text.dec (tagNumFromTag tag) ++
    (length.map fun len => Text.lit " [" ++ Text.dec len ++ Text.lit " bytes]").getD []

def attestationMember (elementsTree : ProtoNode) : DissectM Unit := do
  let tag ← getTag
  let type ← getType
  let length ← getLength
  if isContextTag tag then
    match attestationFieldName (tagNumFromTag tag) with
    | some fieldName => named elementsTree fieldName
    | none => addUnknown env elementsTree
  else if isProfileTag tag then
    addField elementsTree
      (vendorReservedText tag (if type = .byteString then some length else none))
  else addUnknown env elementsTree

def addDecodedAttestationElements (value : List UInt8) (valueOffset : Nat) (tree : ProtoNode) :
    DissectM Unit := do
  let parent ← gets (·.tlv)
  decodeIn (.init value value.length valueOffset) do
    startInner
    let elementsTree ← decodeIn parent
      (addDataTree tree (Text.lit "AttestationElements Decoded"))
    overMembers (fun () => attestationMember env named elementsTree) ()

def nocsrFieldName : Nat → Option Text
  | 2 => some (Text.lit "CSRNonce")
  | 3 => some (Text.lit "VendorReserved1")
  | 4 => some (Text.lit "VendorReserved2")
  | 5 => some (Text.lit "VendorReserved3")
  | _ => none

/-- The certificate signing request behind its line. -/
def addCSR (parent : TLVDissector) (elementsTree : ProtoNode) : DissectM Unit := do
  let type ← getType
  let length ← getLength
  let elemLen ← gets (·.tlv.elemLen)
  if type = .byteString ∧ length ≤ elemLen then do
    let csrValue ← dataBytes
    let _ ← attempt (decodeIn parent
      (addDecodedX509CSR env elementsTree (Text.lit "CSR") csrValue))
    pure ()
  else pure ()

def nocsrMember (parent : TLVDissector) (elementsTree : ProtoNode) : DissectM Unit := do
  let tag ← getTag
  if isContextTag tag then
    if tagNumFromTag tag = 1 then do
      named elementsTree (Text.lit "CSR")
      addCSR env parent elementsTree
    else
      match nocsrFieldName (tagNumFromTag tag) with
      | some fieldName => named elementsTree fieldName
      | none => addUnknown env elementsTree
  else addUnknown env elementsTree

def addDecodedNOCSRElements (value : List UInt8) (valueOffset : Nat) (tree : ProtoNode) :
    DissectM Unit := do
  let parent ← gets (·.tlv)
  decodeIn (.init value value.length valueOffset) do
    startInner
    let elementsTree ← decodeIn parent (addDataTree tree (Text.lit "NOCSRElements Decoded"))
    overMembers (fun () => nocsrMember env named parent elementsTree) ()

/-! ## Certification declarations -/

/-- A field that is only named. -/
def declarationFieldName : Nat → Option Text
  | 0 => some (Text.lit "FormatVersion")
  | 1 => some (Text.lit "VendorId")
  | 3 => some (Text.lit "DeviceTypeId")
  | 4 => some (Text.lit "CertificateId")
  | 5 => some (Text.lit "SecurityLevel")
  | 6 => some (Text.lit "SecurityInformation")
  | 7 => some (Text.lit "VersionNumber")
  | 9 => some (Text.lit "DACOriginVendorId")
  | 10 => some (Text.lit "DACOriginProductId")
  | _ => none

/-- The members of an array, up to the first error; `ExitContainer` may fail as well. -/
def scanArray (body : α → DissectM α) (a : α) : DissectM (Except MatterError α) := do
  match ← attempt enterContainer with
  | .error e => pure (.error e)
  | .ok () => do
    let (a, e) ← scanMembers body a
    let _ ← attempt exitContainer
    pure (if e = .endOfTLV then .ok a else .error e)

def productMember (products : Text) : DissectM Text := do
  match ← unsignedValue with
  | some productId =>
    pure (products ++ (if products = [] then [] else Text.lit ",") ++ Text.dec productId)
  | none => pure products

def addProductIds (parent : TLVDissector) (cdTree : ProtoNode) : DissectM Unit := do
  let type ← getType
  if type = .array then do
    let products := match ← scanArray productMember [] with
      | .ok products => products
      | .error _ => Text.lit "decode error"
    decodeIn parent (addField cdTree (Text.lit "ProductIds=[" ++ products ++ Text.lit "]"))
  else named cdTree (Text.lit "ProductIds")

def addCertificationType (parent : TLVDissector) (cdTree : ProtoNode) : DissectM Unit := do
  match ← unsignedValue with
  | some v =>
    decodeIn parent
      (addField cdTree (numberText (Text.lit "CertificationType") lookupCertificationTypeName v))
  | none => named cdTree (Text.lit "CertificationType")

/-- `GetDataPtr` and the bytes it points at, if it succeeds. -/
def dataBytesIf : DissectM (Option (List UInt8)) := do
  match ← attempt dataBytes with
  | .ok bytes => pure (some bytes)
  | .error _ => pure none

def paaMember (parent : TLVDissector) (paaTree : ProtoNode) (index : Nat) : DissectM Nat := do
  let type ← getType
  if type = .byteString then
    match ← dataBytesIf with
    | some item => do
      decodeIn parent (addField paaTree (Text.lit "PAA[" ++ Text.dec index ++ Text.lit "]=" ++
        bytesToHex item 20))
      pure ((index + 1) % 2 ^ 32)
    | none => pure index
  else pure index

def addAuthorizedPAAList (parent : TLVDissector) (cdTree : ProtoNode) : DissectM Unit := do
  let type ← getType
  if type = .array then do
    let paaTree ← decodeIn parent (addDataTree cdTree (Text.lit "AuthorizedPAAList"))
    match ← scanArray (paaMember parent paaTree) 0 with
    | .ok _ => pure ()
    | .error _ =>
      decodeIn parent (addField paaTree (Text.lit "AuthorizedPAAList decode failed"))
  else named cdTree (Text.lit "AuthorizedPAAList")

def declarationMember (parent : TLVDissector) (cdTree : ProtoNode) : DissectM Unit := do
  let tag ← getTag
  if isContextTag tag then
    match tagNumFromTag tag with
    | 2 => addProductIds named parent cdTree
    | 8 => addCertificationType named parent cdTree
    | 11 => addAuthorizedPAAList named parent cdTree
    | tagNum =>
      match declarationFieldName tagNum with
      | some fieldName => named cdTree fieldName
      | none =>
        decodeIn parent
          (addField cdTree (Text.lit "UnknownTag[" ++ Text.dec tagNum ++ Text.lit "]"))
  else pure ()

/-- `AddDecodedCertificationDeclarationTLV`, called on the dissector of the message. -/
def addDecodedCertificationDeclarationTLV (content : List UInt8) (tree : ProtoNode) :
    DissectM Unit := do
  let parent ← gets (·.tlv)
  decodeIn (.init content content.length 0) do
    startInner
    let cdTree ← decodeIn parent
      (addDataTree tree (Text.lit "CertificationDeclaration Content"))
    overMembers (fun () => declarationMember named parent cdTree) ()

def addCmsSigner (cmsTree : ProtoNode) : Option CmsSigner → DissectM Unit
  | some si => do
    addFieldIf cmsTree "SignerSignatureAlgorithm" si.signatureAlgorithm
    addFieldIf cmsTree "SignerKeyId" (if si.keyId = [] then none else some (bytesToHex si.keyId 20))
  | none => pure ()

/-- The signed content, whose decoder may fail. -/
def addCmsContent (cmsTree : ProtoNode) (content : List UInt8) : DissectM Unit :=
  if content = [] then pure ()
  else do
    addField cmsTree (Text.lit "ContentLength=" ++ Text.dec content.length)
    let _ ← attempt (addDecodedCertificationDeclarationTLV named content cmsTree)
    pure ()

def addDecodedCertificationDeclarationCMS (value : List UInt8) (tree : ProtoNode) :
    DissectM Unit := do
  match env.openssl.d2iCmsContentInfo value with
  | none => throw .unexpectedTLVElement
  | some cms => do
    let cmsTree ← addDataTree tree (Text.lit "CertificationDeclaration Decoded (CMS)")
    addFieldIf cmsTree "ContentTypeOID" cms.contentType
    addField cmsTree (Text.lit "SignerCount=" ++ Text.dec cms.signerCount)
    addCmsSigner cmsTree (if cms.signerCount = 0 then none else cms.firstSigner)
    addField cmsTree (Text.lit "EmbeddedCertificateCount=" ++ Text.dec cms.certificateCount)
    addCmsContent named cmsTree cms.content

end

/-! ## Named values -/

section
variable (named : ProtoNode → Text → DissectM Unit)

/-- The X.509 decoder, and the Matter decoder if that fails. -/
def addCertificate (tree : ProtoNode) (fieldName : Text) (value : List UInt8)
    (valueOffset : Nat) : DissectM Unit := do
  match ← attempt (addDecodedX509Certificate env tree fieldName value) with
  | .ok () => pure ()
  | .error _ => do
    let _ ← attempt (addDecodedMatterCertificate env named fieldName value valueOffset tree)
    pure ()

/-- What is decoded of the byte string `value` of a field. -/
def addDecodedBytes (tree : ProtoNode) (fieldName : Text) (value : List UInt8)
    (elemStart elemLen : Nat) : DissectM Unit :=
  let valueOffset := (elemStart + (elemLen - value.length)) % 2 ^ 32
  if value = [] then pure ()
  else if fieldName = Text.lit "CertificationDeclaration" then do
    let _ ← attempt (addDecodedCertificationDeclarationCMS env named value tree)
    pure ()
  else if elemLen < value.length then pure ()
  else if isMatterCertificateLikeFieldName fieldName then
    addCertificate env named tree fieldName value valueOffset
  else if fieldName = Text.lit "AttestationElements" then do
    let _ ← attempt (addDecodedAttestationElements env named value valueOffset tree)
    pure ()
  else if fieldName = Text.lit "NOCSRElements" then do
    let _ ← attempt (addDecodedNOCSRElements env named value valueOffset tree)
    pure ()
  else pure ()

/-- `AddNamedCommandValue`, whose decoders show their fields by `named`. -/
def addNamedCommandValueBy (tree : ProtoNode) (fieldName : Text) : DissectM Unit := do
  let line := fun text => addField tree (fieldName ++ Text.lit "=" ++ text)
  match ← getType with
  | .signedInteger => do line (Text.decInt (← onReader TLVReader.getInt64))
  | .unsignedInteger => do line (Text.dec (← onReader TLVReader.getUInt64))
  | .boolean => do
    let value ← onReader TLVReader.getBool
    line (Text.lit (if value then "true" else "false"))
  | .floatingPointNumber => do line (env.host.formatG (← onReader TLVReader.getDouble))
  | .utf8String => do
    let value ← onReader TLVReader.dupString
    line (Text.lit "\"" ++ Text.cString value ++ Text.lit "\"")
  | .byteString => do
    let valueLen ← getLength
    let value ← dataBytes
    line (Text.lit "[" ++ Text.dec valueLen ++ Text.lit " bytes]")
    let d ← gets (·.tlv)
    addDecodedBytes env named tree fieldName value d.elemStart d.elemLen
  | .null => line (Text.lit "null")
  | .struct | .array | .path => do
    line []
    addGenericTLVItem env.host tree .imCommonUnknown true
  | _ => throw .unexpectedTLVElement

end

/-- `AddNamedCommandValue`, with at most `levels` decoders inside one another. -/
def addNamedCommandValueTo : Nat → ProtoNode → Text → DissectM Unit
  | 0, _, _ => stop .outOfFuel
  | levels + 1, tree, fieldName =>
    addNamedCommandValueBy env (addNamedCommandValueTo levels) tree fieldName

/-- `AddNamedCommandValue`: attestation elements are the field with the most levels. -/
def addNamedCommandValue (tree : ProtoNode) (fieldName : Text) : DissectM Unit :=
  addNamedCommandValueTo env 4 tree fieldName

/-- The member of a structure whose fields have names: by its name, or generically. -/
def addFieldBy (tree : ProtoNode) (getFieldName : Nat → Option Text) : DissectM Unit := do
  let tag ← getTag
  match if isContextTag tag then getFieldName (tagNumFromTag tag) else none with
  | some fieldName => addNamedCommandValue env tree fieldName
  | none => addUnknown env tree

end Matter.IM
