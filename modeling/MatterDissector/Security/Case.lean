import MatterDissector.IM.Path
import MatterDissector.Message.Tvb

/-!
# CASE messages

`DissectCASEBeginSessionRequest` and `DissectCASEBeginSessionResponse`
(`packet-matter-security.cpp`). The buffer is the payload, which is `msgInfo.payloadLen` bytes
long. Its sections are shown one after another; two of them are TLV structures, on which a
`TLVDissector` of their own is at work.

Left out is `RecoverCASESessionKey`, which the response calls behind its message hash, and the
links from a `CASEExchangeRecord` to its messages, which nothing reads.
-/

namespace Matter.Security

open Prog Display TLV TLV.Dissect Message
open IM (overMembers)

/-- What ends a dissector: a `MATTER_ERROR`, an exception of Wireshark's, or a fault of the TLV
dissector. -/
inductive CaseStop where
  | code (e : MatterError)
  | thrown (e : TvbError)
  | crashed (f : Fault)
  deriving DecidableEq, Repr

structure CASEExchangeRecord where
  config : Nat := 0
  curveId : Nat := 0
  keyId : Nat := 0
  sessionType : Nat := 0
  reqECDHPublicKey : List UInt8 := []
  respECDHPublicKey : List UInt8 := []
  reqMsgHash : List UInt8 := []
  respMsgHash : List UInt8 := []
  deriving DecidableEq, Repr

/-- The calls that show items and the messages that are hashed, and the exchange records: the
record of this message, if it has one, and those of the messages before it in its exchange. -/
structure CaseState where
  log : List Drawn := []
  hashed : List (List UInt8) := []
  records : List CASEExchangeRecord
  caseExchangeRec : Option Nat
  prevByExchange : List (Option Nat)
  deriving DecidableEq, Repr

/-- The messages have a record, or not, and so have those before them. -/
def CaseState.start (records : List CASEExchangeRecord) (caseExchangeRec : Option Nat)
    (prevByExchange : List (Option Nat)) : CaseState :=
  { records, caseExchangeRec, prevByExchange }

abbrev CaseM := Prog CaseStop Fault CaseState

/-- The host of the TLV dissectors, and OpenSSL's hashes. -/
structure CaseEnv where
  host : Host
  sha1 : List UInt8 → List UInt8
  sha256 : List UInt8 → List UInt8

/-! ## Certificates -/

/-- `GetCertDNAttrName`. -/
def getCertDNAttrName : Nat → Text
  | 1 => Text.lit "CommonName"
  | 2 => Text.lit "Surname"
  | 3 => Text.lit "SerialNumber"
  | 4 => Text.lit "CountryName"
  | 5 => Text.lit "LocalityName"
  | 6 => Text.lit "StateOrProvinceName"
  | 7 => Text.lit "OrganizationName"
  | 8 => Text.lit "OrganizationalUnitName"
  | 9 => Text.lit "Title"
  | 10 => Text.lit "Name"
  | 11 => Text.lit "GivenName"
  | 12 => Text.lit "Initials"
  | 13 => Text.lit "GenerationQualifier"
  | 14 => Text.lit "DNQualifier"
  | 15 => Text.lit "Pseudonym"
  | 16 => Text.lit "DomainComponent"
  | 17 => Text.lit "NodeId"
  | 18 => Text.lit "ServiceEndpointId"
  | 19 => Text.lit "FabricId"
  | 20 => Text.lit "SoftwarePublisherId"
  | _ => Text.lit "UnknownAttr"

section
variable (host : Host)

/-- A member of the distinguished name. -/
def certDNMember (dnTree : ProtoNode) (hfAttr : HeaderField) : DissectM Unit := do
  let tag ← getTag
  let attrName := getCertDNAttrName (tagNumFromTag tag)
  match ← getType with
  | .utf8String => do
    let val ← onReader TLVReader.dupString
    addStringItemF dnTree hfAttr (attrName ++ Text.lit ": " ++ Text.cString val)
  | .unsignedInteger => do
    let val ← onReader TLVReader.getUInt64
    addStringItemF dnTree hfAttr (attrName ++ Text.lit ": 0x" ++ Text.hexUpper val ++
      Text.lit " (" ++ Text.dec val ++ Text.lit ")")
  | _ => addGenericTLVItem host dnTree .certUnknown false

/-- `AddCertDN`. -/
def addCertDN (tree : ProtoNode) (hfContainer hfAttr : HeaderField) : DissectM Unit := do
  let type ← getType
  verify (type = .path ∨ type = .struct) .unexpectedTLVElement
  let dnTree ← addSubTreeItem tree hfContainer .certDN
  overMembers (fun () => certDNMember host dnTree hfAttr) ()

def certMember (certTree : ProtoNode) : DissectM Unit := do
  let tag ← getTag
  let type ← getType
  verify (isContextTag tag) .unexpectedTLVElement
  match tagNumFromTag tag with
  | 1 => addTypedItem certTree .certSerialNumber
  | 3 => addCertDN host certTree .certIssuer .certIssuerAttribute
  | 6 => addCertDN host certTree .certSubject .certSubjectAttribute
  | 4 => addTypedItem certTree .certNotBefore
  | 5 => addTypedItem certTree .certNotAfter
  | 7 => addTypedItem certTree .certPublicKeyAlgorithm
  | 8 => addTypedItem certTree .certEllipticCurveIdentifier
  | 10 => addTypedItem certTree .certEllipticCurvePublicKey
  | 12 => do
    verify (type = .struct) .unexpectedTLVElement
    addGenericTLVItem host certTree .certSignature false
  | _ => addGenericTLVItem host certTree .certUnknown false

/-- `AddCert`. -/
def addCert (hfindex : HeaderField) (tree : ProtoNode) : DissectM Unit := do
  let type ← getType
  verify (type = .struct) .unexpectedTLVElement
  let certTree ← addSubTreeItem tree hfindex .cert
  overMembers (fun () => certMember host certTree) ()

def certRefMember (certRefTree : ProtoNode) : DissectM Unit := do
  let tag ← getTag
  let type ← getType
  verify (isContextTag tag) .unexpectedTLVElement
  match tagNumFromTag tag with
  | 1 => do
    verify (type = .path ∨ type = .struct) .unexpectedTLVElement
    addCertDN host certRefTree .certRefSubject .certSubjectAttribute
  | 2 => do
    verify (type = .byteString) .unexpectedTLVElement
    addTypedItem certRefTree .certRefPublicSessionId
  | _ => addGenericTLVItem host certRefTree .certUnknown false

/-- `AddCertRef`. -/
def addCertRef (hfindex : HeaderField) (tree : ProtoNode) : DissectM Unit := do
  let type ← getType
  verify (type = .struct) .unexpectedTLVElement
  let certRefTree ← addSubTreeItem tree hfindex .certRef
  overMembers (fun () => certRefMember host certRefTree) ()

def certInfoMember (certInfoTree : ProtoNode) : DissectM Unit := do
  let tag ← getTag
  let type ← getType
  verify (isContextTag tag) .unexpectedTLVElement
  match tagNumFromTag tag with
  | 1 => do
    verify (type = .struct) .unexpectedTLVElement
    addCert host .certInfoEntityCert certInfoTree
  | 2 => do
    verify (type = .struct) .unexpectedTLVElement
    addCertRef host .certInfoEntityCertRef certInfoTree
  | 3 => do
    verify (type = .path) .unexpectedTLVElement
    addListItem certInfoTree .certInfoRelatedCertsList .certInfoRelatedCertsList
      (addCert host .cert)
  | 4 => do
    verify (type = .path) .unexpectedTLVElement
    addListItem certInfoTree .certInfoTrustAnchorsList .certInfoTrustAnchorsList
      (addCertRef host .certRef)
  | _ => throw .unexpectedTLVElement

end

def ecdsaSigMember (sigTree : ProtoNode) : DissectM Unit := do
  let tag ← getTag
  let type ← getType
  verify (isContextTag tag) .unexpectedTLVElement
  match tagNumFromTag tag with
  | 1 => do
    verify (type = .byteString) .unexpectedTLVElement
    addTypedItem sigTree .ecdsaSigR
  | 2 => do
    verify (type = .byteString) .unexpectedTLVElement
    addTypedItem sigTree .ecdsaSigS
  | _ => throw .unexpectedTLVElement

/-! ## Sections -/

def profileSecurity : Nat := 0x1004
def tagMatterCASECertificateInformation : Nat := 7
def tagMatterCASESignature : Nat := 8

section
variable {α : Type}

/-- An access to the buffer. -/
def onTvb (x : Prog TvbError Fault CaseState α) : CaseM α := mapError CaseStop.thrown x

/-- A TLV dissector at work. A fault ends everything: what it has shown is not in the log. -/
def onTlv (tlv : TLVDissector) (x : DissectM α) : CaseM (α × TLVDissector) := ⟨fun s =>
  match x.run { tlv, log := s.log, retried := 0 } with
  | .ok a t => .ok (a, t.tlv) { s with log := t.log }
  | .err e t => .err (.code e) { s with log := t.log }
  | .fault f => .err (.crashed f) s⟩

def drawCase (call : Drawn) : CaseM ProtoNode := do
  let n ← gets (·.log.length)
  modify fun s => { s with log := s.log ++ [call] }
  pure (.drawn n)

variable (tvb : Tvb)

/-- `proto_tree_add_item`. The item of a field without a type is cut short at the end of the
buffer; any other range has to be in it. -/
def addItem (tree : ProtoNode) (hfindex : HeaderField) (start length : Nat) : CaseM ProtoNode := do
  let itemLength := if hfindex.ftype = .none then min length (tvb.bytes.length - start) else length
  let _ ← onTvb (tvb.getBytes start itemLength)
  drawCase (.add tree hfindex start itemLength .item)

/-- `proto_tree_add_bytes_item`. -/
def addBytesItem (tree : ProtoNode) (hfindex : HeaderField) (start length : Nat) :
    CaseM ProtoNode := do
  let _ ← onTvb (tvb.getBytes start length)
  drawCase (.add tree hfindex start length .bytesItem)

/-- `proto_tree_add_uint_format_value`. -/
def addUintFormatValue (tree : ProtoNode) (hfindex : HeaderField) (start length value : Nat)
    (text : Text) : CaseM ProtoNode := do
  let _ ← onTvb (tvb.getBytes start length)
  drawCase (.add tree hfindex start length (.uintFormatValue value text))

/-- The dissector of a section. -/
def sectionDissector (data : List UInt8) (offset : Nat) : TLVDissector :=
  let tlv := TLVDissector.init data data.length offset
  { tlv with reader := { tlv.reader with implicitProfileId := profileSecurity } }

/-- The structure that a section begins with. -/
def addStructure (tagNum : Nat) (hfindex : HeaderField) (ett : Ett) : DissectM ProtoNode := do
  Dissect.onTlv (TLVDissector.nextExpecting .struct (profileTag profileSecurity tagNum))
  addSubTreeItem .messageTree hfindex ett

/-- What `AddCertInfo` and `AddECDSASig` share: a section that is a structure. -/
def addSection (tagNum offset length : Nat) (hfindex : HeaderField) (ett : Ett)
    (member : ProtoNode → DissectM Unit) : CaseM Unit := do
  let data ← onTvb (tvb.memdup offset length)
  let (tree, tlv) ← onTlv (sectionDissector data offset) (addStructure tagNum hfindex ett)
  let _ ← onTlv tlv (overMembers (fun () => member tree) ())

/-- `AddCertInfo`. -/
def addCertInfo (host : Host) (certInfoOffset certInfoLen : Nat) (hfindex : HeaderField) :
    CaseM Unit :=
  addSection tvb tagMatterCASECertificateInformation certInfoOffset certInfoLen hfindex
    .caseRequestCertInfo (certInfoMember host)

/-- `AddECDSASig`. -/
def addECDSASig (sigOffset sigLen : Nat) (hfindex : HeaderField) : CaseM Unit :=
  addSection tvb tagMatterCASESignature sigOffset sigLen hfindex .caseRequestSignature
    ecdsaSigMember

/-! ### The sections that both messages have -/

/-- The certificate information, if there is any; the new parse point. -/
def showCertInfo (host : Host) (hfindex : HeaderField) (parsePoint certInfoLen : Nat) :
    CaseM Nat :=
  if 0 < certInfoLen then do
    addCertInfo tvb host parsePoint certInfoLen hfindex
    pure (parsePoint + certInfoLen)
  else pure parsePoint

def showCasePayload (hfindex : HeaderField) (parsePoint payloadLen : Nat) : CaseM Nat :=
  if 0 < payloadLen then do
    let _ ← addBytesItem tvb .messageTree hfindex parsePoint payloadLen
    pure (parsePoint + payloadLen)
  else pure parsePoint

def showSignature (hfindex : HeaderField) (parsePoint sigLen : Nat) : CaseM Nat :=
  if 0 < sigLen then do
    addECDSASig tvb parsePoint sigLen hfindex
    pure (parsePoint + sigLen)
  else pure parsePoint

/-- The fields of the sections that both messages have. -/
structure CommonFields where
  ecdhPublicKey : HeaderField
  certInfo : HeaderField
  payload : HeaderField
  deriving DecidableEq, Repr

/-- The sections from the public key to the payload; the new parse point. -/
def showCommon (host : Host) (fields : CommonFields)
    (parsePoint ecdhPublicKeyLen certInfoLen payloadLen : Nat) : CaseM Nat := do
  let _ ← addBytesItem tvb .messageTree fields.ecdhPublicKey parsePoint ecdhPublicKeyLen
  let parsePoint := parsePoint + ecdhPublicKeyLen
  let parsePoint ← showCertInfo tvb host fields.certInfo parsePoint certInfoLen
  showCasePayload tvb fields.payload parsePoint payloadLen

/-! ## Exchange records -/

def configConfig1 : Nat := 0x235A0001

/-- `ComputeCASEMessageHash`. -/
def computeCASEMessageHash (env : CaseEnv) (msgLenWithoutSig config : Nat) :
    CaseM (List UInt8) := do
  let msgWithoutSig ← onTvb (tvb.memdup 0 msgLenWithoutSig)
  modify fun s => { s with hashed := s.hashed ++ [msgWithoutSig] }
  pure (if config = configConfig1 then env.sha1 msgWithoutSig else env.sha256 msgWithoutSig)

/-- `FindCASEExchangeRecord`, when the message has no record itself. -/
def findCASEExchangeRecord (s : CaseState) : Option Nat :=
  s.caseExchangeRec <|> s.prevByExchange.findSome? id

end

/-! ## `CASEBeginSessionRequest` -/

structure CASEBeginSessionRequest where
  proposedEncType : Nat
  altConfigCount : Nat
  altCurveCount : Nat
  ecdhPublicKeyLen : Nat
  certInfoLen : Nat
  payloadLen : Nat
  proposedConfig : Nat
  proposedCurveId : Nat
  proposedSessionId : Nat
  deriving DecidableEq, Repr

namespace CASEBeginSessionRequest

/-- A `uint16_t`. -/
def msgLenWithoutSig (m : CASEBeginSessionRequest) : Nat :=
  (18 + m.altConfigCount * 4 + m.altCurveCount * 4 + m.ecdhPublicKeyLen + m.certInfoLen +
    m.payloadLen) % 2 ^ 16

end CASEBeginSessionRequest

section
variable (tvb : Tvb)

/-- The header of 18 bytes. -/
def readRequest : CaseM CASEBeginSessionRequest := do
  let control ← onTvb (tvb.getGuint8 0)
  let _ ← addItem tvb .messageTree .caseRequestControlHeader 0 1
  let _ ← addItem tvb .messageTree .caseRequestEncType 0 1
  let _ ← addItem tvb .messageTree .caseRequestPerformKeyConfirmFlag 0 1
  let altConfigCount ← onTvb (tvb.getGuint8 1)
  let altCurveCount ← onTvb (tvb.getGuint8 2)
  let ecdhPublicKeyLen ← onTvb (tvb.getGuint8 3)
  let certInfoLen ← onTvb (tvb.getLetohs 4)
  let payloadLen ← onTvb (tvb.getLetohs 6)
  let proposedConfig ← onTvb (tvb.getLetohl 8)
  let _ ← addItem tvb .messageTree .caseRequestProposedConfig 8 4
  let proposedCurveId ← onTvb (tvb.getLetohl 12)
  let _ ← addItem tvb .messageTree .caseRequestProposedCurve 12 4
  let proposedSessionId ← onTvb (tvb.getLetohs 16)
  let _ ← addItem tvb .messageTree .caseRequestProposedSessionId 16 2
  pure { proposedEncType := control &&& 0x0F, altConfigCount, altCurveCount, ecdhPublicKeyLen
         certInfoLen, payloadLen, proposedConfig, proposedCurveId, proposedSessionId }

/-- The elements of an alternate list, four bytes each. -/
def addListElems (listTree : ProtoNode) (hfindex : HeaderField) (parsePoint : Nat) :
    Nat → CaseM Nat
  | 0 => pure parsePoint
  | count + 1 => do
    let _ ← addItem tvb listTree hfindex parsePoint 4
    addListElems listTree hfindex (parsePoint + 4) count

/-- An alternate list, whose item is said to have `itemCount` elements; the new parse point. -/
def showAltList (hfindex hfElem : HeaderField) (ett : Ett) (parsePoint itemCount count : Nat) :
    CaseM Nat := do
  let list ← addItem tvb .messageTree hfindex parsePoint (itemCount * 4)
  let _ ← drawCase (.addSubtree list ett)
  let parsePoint ← addListElems tvb list hfElem parsePoint count
  let _ ← drawCase (.appendText list (Text.lit " (" ++ Text.dec count ++ Text.lit ")"))
  pure parsePoint

def requestFields : CommonFields :=
  ⟨.caseRequestECDHPublicKey, .caseRequestCertInfo, .caseRequestPayload⟩

/-- Both lists; the new parse point, where the public key is. -/
def showAltLists (m : CASEBeginSessionRequest) : CaseM Nat := do
  let parsePoint ← showAltList tvb .caseRequestAltConfigList .caseRequestAltConfigListElem
    .caseRequestAltConfigList 18 m.altConfigCount m.altConfigCount
  -- the item of the curves has the length of the configs
  showAltList tvb .caseRequestAltCurveList .caseRequestAltCurveListElem
    .caseRequestAltCurveList parsePoint m.altConfigCount m.altCurveCount

/-- A record for the exchange, unless the message has one. -/
def recordRequest (env : CaseEnv) (m : CASEBeginSessionRequest) (ecdhPublicKeyOffset : Nat) :
    CaseM Unit := do
  if (← gets (·.caseExchangeRec)) = none then do
    let reqECDHPublicKey ← onTvb (tvb.memdup ecdhPublicKeyOffset m.ecdhPublicKeyLen)
    let reqMsgHash ← computeCASEMessageHash tvb env m.msgLenWithoutSig m.proposedConfig
    modify fun s => { s with
      records := s.records ++ [{ config := m.proposedConfig, curveId := m.proposedCurveId
                                 keyId := m.proposedSessionId, sessionType := m.proposedEncType
                                 reqECDHPublicKey, reqMsgHash }]
      caseExchangeRec := some s.records.length }
  else pure ()

/-- The header, and whether the message is as long as it says. -/
def beginRequest : CaseM CASEBeginSessionRequest := do
  let _ ← drawCase (.appendText .messageParent (Text.lit ": CASE Begin Session Request"))
  verify (18 < tvb.bytes.length) (.code .messageIncomplete)
  let m ← readRequest tvb
  verify (m.msgLenWithoutSig < tvb.bytes.length) (.code .messageIncomplete)
  pure m

def dissectRequest (env : CaseEnv) : CaseM Unit := do
  let m ← beginRequest tvb
  let sigLen := tvb.bytes.length - m.msgLenWithoutSig
  let ecdhPublicKeyOffset ← showAltLists tvb m
  let parsePoint ← showCommon tvb env.host requestFields ecdhPublicKeyOffset m.ecdhPublicKeyLen
    m.certInfoLen m.payloadLen
  let _ ← showSignature tvb .caseRequestSignature parsePoint sigLen
  recordRequest tvb env m ecdhPublicKeyOffset

/-- `exit:` the error code is ignored. -/
def ignoringCode (x : CaseM Unit) : CaseM Nat := do
  match ← attempt x with
  | .error (.thrown e) => throw (.thrown e)
  | .error (.crashed f) => throw (.crashed f)
  | _ => pure tvb.bytes.length

/-- `DissectCASEBeginSessionRequest`. -/
def dissectCASEBeginSessionRequest (env : CaseEnv) : CaseM Nat :=
  ignoringCode tvb (dissectRequest tvb env)

/-! ## `CASEBeginSessionResponse` -/

structure CASEBeginSessionResponse where
  keyConfirmHashLen : Nat
  ecdhPublicKeyLen : Nat
  certInfoLen : Nat
  payloadLen : Nat
  deriving DecidableEq, Repr

namespace CASEBeginSessionResponse

/-- A `uint16_t`. -/
def signedMsgLen (m : CASEBeginSessionResponse) : Nat :=
  (6 + m.ecdhPublicKeyLen + m.certInfoLen + m.payloadLen) % 2 ^ 16

/-- A `uint16_t`. -/
def msgLenWithoutSig (m : CASEBeginSessionResponse) : Nat :=
  (m.signedMsgLen + m.keyConfirmHashLen) % 2 ^ 16

end CASEBeginSessionResponse

/-- `kCASEHeader_KeyConfirmHashLengthMask` of the control header. -/
def keyConfirmHashLength (control : Nat) : Option Nat :=
  match control &&& 0xC0 with
  | 0x00 => some 0
  | 0x80 => some 20
  | 0x40 => some 32
  | _ => none

/-- The length of the hash, or `MATTER_ERROR_INVALID_ARGUMENT`. -/
def checkKeyConfirmHashLength (control : Nat) : CaseM Nat :=
  match keyConfirmHashLength control with
  | some keyConfirmHashLen => pure keyConfirmHashLen
  | none => throw (.code .invalidArgument)

/-- The header of 6 bytes. The first item is a field of the request. -/
def readResponse : CaseM CASEBeginSessionResponse := do
  let control ← onTvb (tvb.getGuint8 0)
  let keyConfirmHashLen ← checkKeyConfirmHashLength control
  let _ ← addItem tvb .messageTree .caseRequestControlHeader 0 1
  let _ ← addUintFormatValue tvb .messageTree .caseResponseKeyConfirmHashLength 0 1
    (control &&& 0xC0) (Text.dec keyConfirmHashLen)
  let ecdhPublicKeyLen ← onTvb (tvb.getGuint8 1)
  let certInfoLen ← onTvb (tvb.getLetohs 2)
  let payloadLen ← onTvb (tvb.getLetohs 4)
  pure { keyConfirmHashLen, ecdhPublicKeyLen, certInfoLen, payloadLen }

def responseFields : CommonFields :=
  ⟨.caseResponseECDHPublicKey, .caseResponseCertInfo, .caseResponsePayload⟩

def showKeyConfirmHash (parsePoint keyConfirmHashLen : Nat) : CaseM Unit :=
  if 0 < keyConfirmHashLen then do
    let _ ← addBytesItem tvb .messageTree .caseResponseKeyConfirmHash parsePoint keyConfirmHashLen
  else pure ()

/-- What the response adds to the record at `p`. -/
def recordResponseAt (env : CaseEnv) (m : CASEBeginSessionResponse) (p : Nat) : CaseM Unit := do
  modify fun s => { s with caseExchangeRec := some p }
  let respECDHPublicKey ← onTvb (tvb.memdup 6 m.ecdhPublicKeyLen)
  let config ← gets fun s => (s.records[p]?.map (·.config)).getD 0
  let respMsgHash ← computeCASEMessageHash tvb env m.signedMsgLen config
  modify fun s => { s with
    records := s.records.modify p fun r => { r with respECDHPublicKey, respMsgHash } }

/-- The record of the exchange, unless the message has one. -/
def recordResponse (env : CaseEnv) (m : CASEBeginSessionResponse) : CaseM Unit := do
  let own ← gets (·.caseExchangeRec)
  let found ← gets findCASEExchangeRecord
  match if own = none then found else none with
  | some p => recordResponseAt tvb env m p
  | none => pure ()

/-- The header, and whether the message is as long as it says. -/
def beginResponse : CaseM CASEBeginSessionResponse := do
  let _ ← drawCase (.appendText .messageParent (Text.lit ": CASE Begin Session Response"))
  verify (6 < tvb.bytes.length) (.code .messageIncomplete)
  let m ← readResponse tvb
  verify (m.msgLenWithoutSig < tvb.bytes.length) (.code .messageIncomplete)
  pure m

def dissectResponse (env : CaseEnv) : CaseM Unit := do
  let m ← beginResponse tvb
  let sigLen := tvb.bytes.length - m.msgLenWithoutSig
  let parsePoint ← showCommon tvb env.host responseFields 6 m.ecdhPublicKeyLen m.certInfoLen
    m.payloadLen
  let parsePoint ← showSignature tvb .caseResponseSignature parsePoint sigLen
  showKeyConfirmHash tvb parsePoint m.keyConfirmHashLen
  recordResponse tvb env m

/-- `DissectCASEBeginSessionResponse`. -/
def dissectCASEBeginSessionResponse (env : CaseEnv) : CaseM Nat :=
  ignoringCode tvb (dissectResponse tvb env)

end

end Matter.Security
