import MatterDissector.Tracker.Subscription

/-!
# Secure channel messages

`packet-matter-common.cpp`. Nine of its dissectors go over the members of a TLV structure, and
return their `MATTER_ERROR` where the others return a number of bytes; to the caller both are an
`int`. The result here keeps apart what C does not: which of the two was returned, and whether the
message has been decoded.

The texts of the columns and of the status codes are left out.
-/

namespace Matter.SecureChannel

open Prog Message Display TLV TLV.Dissect IM Tracker

/-! ## Members -/

/-- The member of a structure: it must have a context tag, whose number chooses what is done. -/
def contextMember (member : Nat → DissectM Unit) : DissectM Unit := do
  let tag ← getTag
  verify (isContextTag tag) .unexpectedTLVElement
  member (tagNumFromTag tag)

/-- What `AddSessionParameters` and `AddPBKDFParameterSet` share. -/
def addParameters (containerHf : HeaderField) (ett : Ett)
    (member : ProtoNode → Nat → DissectM Unit) (tree : ProtoNode) : DissectM Unit := do
  let type ← getType
  verify (type = .struct) .unexpectedTLVElement
  let paramsTree ← addSubTreeItem tree containerHf ett
  overMembers (fun () => contextMember (member paramsTree)) ()

section
variable (host : Host)

def sessionParameter (paramsTree : ProtoNode) : Nat → DissectM Unit
  | 1 => addTypedItem paramsTree .sessionIdleRetransTimeout
  | 2 => addTypedItem paramsTree .sessionActiveRetransTimeout
  | 3 => addTypedItem paramsTree .sessionActiveThreshold
  | 4 => addTypedItem paramsTree .sessionDataModelRevision
  | 5 => addTypedItem paramsTree .sessionInteractionModelRevision
  | 6 => addTypedItem paramsTree .sessionSpecificationVersion
  | 7 => addTypedItem paramsTree .sessionMaxPathsPerInvoke
  | _ => addGenericTLVItem host paramsTree .sessionUnknownParam false

/-- `AddSessionParameters`. -/
def addSessionParameters (tree : ProtoNode) (containerHf : HeaderField) : DissectM Unit :=
  addParameters containerHf .sessionParameters (sessionParameter host) tree

def pbkdfParameter (pbkdfTree : ProtoNode) : Nat → DissectM Unit
  | 1 => addTypedItem pbkdfTree .pbkdfParamResponsePbkdfIterationCount
  | 2 => addTypedItem pbkdfTree .pbkdfParamResponsePbkdfSalt
  | _ => addGenericTLVItem host pbkdfTree .sessionUnknownParam false

/-- `AddPBKDFParameterSet`. -/
def addPBKDFParameterSet (tree : ProtoNode) : DissectM Unit :=
  addParameters .pbkdfParamResponsePbkdfParameters .pbkdfParameters (pbkdfParameter host) tree

end

/-- `proto_tree_add_item` on a range of the message. -/
def addItem (tree : ProtoNode) (hfindex : HeaderField) (start length : Nat) : DissectM Unit := do
  let _ ← draw (.add tree hfindex start length .item)
  pure ()

/-- The last 16 bytes are the integrity check; `valueOffset` is the value's in the message. -/
def addEncryptedBytes (encryptedTree : ProtoNode) (valueOffset valueLen : Nat) : DissectM Unit :=
  if valueLen = 0 then pure ()
  else if valueLen > 16 then do
    addItem encryptedTree .sessionEncryptedCiphertext valueOffset (valueLen - 16)
    addItem encryptedTree .sessionEncryptedMic (valueOffset + (valueLen - 16)) 16
  else addItem encryptedTree .sessionEncryptedMic valueOffset valueLen

/-- `AddEncryptedField`: `msgData` begins with the message. -/
def addEncryptedField (tree : ProtoNode) (containerHf : HeaderField) : DissectM Unit := do
  let valueLen ← getLength
  let encryptedTree ← addSubTreeItem tree containerHf .sessionEncrypted
  let valuePtr ← onReader TLVReader.getDataPtr
  addEncryptedBytes encryptedTree valuePtr valueLen

/-! ## TLV messages -/

/-- `ImplicitProfileId = kMatterProfile_Common` behind `Init`. -/
def initCommon (msgData : List UInt8) (payloadLen : Nat) : TLVDissector :=
  let d := TLVDissector.init msgData payloadLen 0
  { d with reader := { d.reader with implicitProfileId := profileCommon } }

/-- What the nine functions share. -/
def dissectMembers (title : String) (member : Nat → DissectM Unit) : DissectM Unit := do
  let _ ← draw (.appendText .messageParent (Text.lit title))
  next
  overMembers (fun () => contextMember member) ()

section
variable (host : Host)

def pbkdfParamRequestMember (tree : ProtoNode) : Nat → DissectM Unit
  | 1 => addOfType .byteString (addTypedItem tree .pbkdfParamRequestInitiatorRandom)
  | 2 => addOfType .unsignedInteger (addTypedItem tree .pbkdfParamRequestLocalSessionId)
  | 3 => addOfType .unsignedInteger (addTypedItem tree .pbkdfParamRequestPasscodeId)
  | 4 => addOfType .boolean (addTypedItem tree .pbkdfParamRequestHasPbkdfParams)
  | 5 => addSessionParameters host tree .pbkdfParamRequestMrpParams
  | _ => throw .unexpectedTLVElement

def pbkdfParamResponseMember (tree : ProtoNode) : Nat → DissectM Unit
  | 1 => addOfType .byteString (addTypedItem tree .pbkdfParamRequestInitiatorRandom)
  | 2 => addOfType .byteString (addTypedItem tree .pbkdfParamResponseResponderRandom)
  | 3 => addOfType .unsignedInteger (addTypedItem tree .pbkdfParamResponseResponderSessionId)
  | 4 => addPBKDFParameterSet host tree
  | 5 => addSessionParameters host tree .pbkdfParamResponseMrpParams
  | _ => throw .unexpectedTLVElement

def pasePake1Member (tree : ProtoNode) : Nat → DissectM Unit
  | 1 => addOfType .byteString (addTypedItem tree .pake1PA)
  | _ => throw .unexpectedTLVElement

def pasePake2Member (tree : ProtoNode) : Nat → DissectM Unit
  | 1 => addOfType .byteString (addTypedItem tree .pake2PB)
  | 2 => addOfType .byteString (addTypedItem tree .pake2CB)
  | _ => throw .unexpectedTLVElement

def pasePake3Member (tree : ProtoNode) : Nat → DissectM Unit
  | 1 => addOfType .byteString (addTypedItem tree .pake3CA)
  | _ => throw .unexpectedTLVElement

/-- The random number and the session id are shown as those of a PBKDF request. -/
def caseSigma1Member (tree : ProtoNode) : Nat → DissectM Unit
  | 1 => addOfType .byteString (addTypedItem tree .pbkdfParamRequestInitiatorRandom)
  | 2 => addOfType .unsignedInteger (addTypedItem tree .pbkdfParamRequestLocalSessionId)
  | 3 => addOfType .byteString (addTypedItem tree .sessionDestinationId)
  | 4 => addOfType .byteString (addTypedItem tree .sessionEphPublicKey)
  | 5 => addSessionParameters host tree .sessionSleepyParams
  | 6 => addOfType .byteString (addTypedItem tree .sessionResumptionId)
  | 7 => addOfType .byteString (addTypedItem tree .sessionResumeMic)
  | _ => throw .unexpectedTLVElement

def caseSigma2Member (tree : ProtoNode) : Nat → DissectM Unit
  | 1 => addOfType .byteString (addTypedItem tree .pbkdfParamResponseResponderRandom)
  | 2 => addOfType .unsignedInteger (addTypedItem tree .pbkdfParamRequestLocalSessionId)
  | 3 => addOfType .byteString (addTypedItem tree .sessionEphPublicKey)
  | 4 => addOfType .byteString (addEncryptedField tree .sessionEncrypted2)
  | 5 => addSessionParameters host tree .sessionSleepyParams
  | _ => throw .unexpectedTLVElement

def caseSigma3Member (tree : ProtoNode) : Nat → DissectM Unit
  | 1 => addOfType .byteString (addEncryptedField tree .sessionEncrypted3)
  | _ => throw .unexpectedTLVElement

def caseSigma2ResumeMember (tree : ProtoNode) : Nat → DissectM Unit
  | 1 => addOfType .byteString (addTypedItem tree .sessionResumptionId)
  | 2 => addOfType .byteString (addTypedItem tree .sessionResumeMic)
  | 3 => addOfType .unsignedInteger (addTypedItem tree .pbkdfParamRequestLocalSessionId)
  | 4 => addSessionParameters host tree .sessionSleepyParams
  | _ => throw .unexpectedTLVElement

/-- The messages that are a TLV structure. -/
inductive TLVMessage where
  | pbkdfParamRequest
  | pbkdfParamResponse
  | pasePake1
  | pasePake2
  | pasePake3
  | caseSigma1
  | caseSigma2
  | caseSigma3
  | caseSigma2Resume
  deriving DecidableEq, Repr

/-- `DissectPBKDFParamRequest` to `DissectPasePake3`, and `DissectCaseSigma1` to
`DissectCaseSigma2Resume`, behind `Init`. -/
def dissectTLVMessage : TLVMessage → DissectM Unit
  | .pbkdfParamRequest =>
    dissectMembers ": PASE PBKDF Param Request" (pbkdfParamRequestMember host .messageTree)
  | .pbkdfParamResponse =>
    dissectMembers ": PASE PBKDF Param Response" (pbkdfParamResponseMember host .messageTree)
  | .pasePake1 => dissectMembers ": PASE Pake1" (pasePake1Member .messageTree)
  | .pasePake2 => dissectMembers ": PASE Pake2" (pasePake2Member .messageTree)
  | .pasePake3 => dissectMembers ": PASE Pake3" (pasePake3Member .messageTree)
  | .caseSigma1 => dissectMembers ": CASE Sigma1" (caseSigma1Member host .messageTree)
  | .caseSigma2 => dissectMembers ": CASE Sigma2" (caseSigma2Member host .messageTree)
  | .caseSigma3 => dissectMembers ": CASE Sigma3" (caseSigma3Member .messageTree)
  | .caseSigma2Resume =>
    dissectMembers ": CASE Sigma2 Resume" (caseSigma2ResumeMember host .messageTree)

end

/-! ## What is returned -/

/-- The `int` of a dissector, by where it comes from. -/
inductive Returned where
  /-- `return err` -/
  | err (err : Except MatterError Unit)
  /-- a number of bytes -/
  | bytes (n : Nat)

/-- The `int` itself; `MATTER_NO_ERROR` is 0. -/
def Returned.value : Returned → Nat
  | .err (.ok ()) => 0
  | .err (.error e) => e.code
  | .bytes n => n

/-- The end of a dissector: what it returns, and whether it has decoded the message, that is, has
one for the opcode and has met no error. -/
structure Ended where
  returned : Returned
  decoded : Bool

/-- One of the nine functions. -/
def dissectTLVPayload (host : Host) (tvb : Tvb) (payloadLen : Nat) (msg : TLVMessage) :
    TrackerM Ended := do
  let msgData ← tvb.memdup 0 payloadLen
  let err ← dissectTlv (dissectTLVMessage host msg) (initCommon msgData payloadLen)
  pure ⟨.err err, err.isOk⟩

/-- `DissectStatusReport`: an error of the TLV part is dropped. -/
def endStatusReport (host : Host) (tvb : Tvb) (payloadLen : Nat) (msgRec : RecordRef) :
    TrackerM Ended := do
  let imSubscription ← dissectStatusReport host tvb payloadLen msgRec
  pure ⟨.bytes payloadLen, imSubscription.isSome⟩

/-- `DissectStandaloneAck`. -/
def endStandaloneAck (msgRec : RecordRef) : TrackerM Ended := do
  let _ ← dissectStandaloneAck msgRec
  pure ⟨.bytes 1, true⟩

/-- The range of an item: `proto_tree_add_item` throws where it is not in the buffer. -/
def ensureItem (tvb : Tvb) (start length : Nat) : TrackerM Unit := do
  let _ ← tvb.getBytes start length
  pure ()

/-- The error code, and the data behind it. -/
def showPakeError (tvb : Tvb) (payloadLen : Nat) : TrackerM Unit :=
  if payloadLen ≥ 1 then do
    let _errorCode ← tvb.getGuint8 0
    if payloadLen > 1 then ensureItem tvb 1 (payloadLen - 1) else pure ()
  else pure ()

/-- `DissectPasePakeError`. -/
def dissectPasePakeError (tvb : Tvb) (payloadLen : Nat) : TrackerM Ended := do
  showPakeError tvb payloadLen
  pure ⟨.bytes payloadLen, true⟩

def showCheckIn (tvb : Tvb) (payloadLen : Nat) : TrackerM Unit :=
  if payloadLen > 0 then ensureItem tvb 0 payloadLen else pure ()

/-- `DissectICDCheckIn`. -/
def dissectICDCheckIn (tvb : Tvb) (payloadLen : Nat) : TrackerM Ended := do
  showCheckIn tvb payloadLen
  pure ⟨.bytes payloadLen, true⟩

/-! ## Dispatch -/

/-- The messages that the switch of `DissectMatterCommon` knows. -/
inductive MsgType where
  | statusReport
  | standaloneAck
  | icdCheckIn
  | pasePakeError
  | tlv (msg : TLVMessage)
  deriving DecidableEq, Repr

/-- `kMsgType_` of the secure channel. -/
def MsgType.ofOpcode : Nat → Option MsgType
  | 0x10 => some .standaloneAck
  | 0x20 => some (.tlv .pbkdfParamRequest)
  | 0x21 => some (.tlv .pbkdfParamResponse)
  | 0x22 => some (.tlv .pasePake1)
  | 0x23 => some (.tlv .pasePake2)
  | 0x24 => some (.tlv .pasePake3)
  | 0x2F => some .pasePakeError
  | 0x30 => some (.tlv .caseSigma1)
  | 0x31 => some (.tlv .caseSigma2)
  | 0x32 => some (.tlv .caseSigma3)
  | 0x33 => some (.tlv .caseSigma2Resume)
  | 0x40 => some .statusReport
  | 0x50 => some .icdCheckIn
  | _ => none

/-- `DissectMatterCommon`. -/
def dissectMatterCommon (host : Host) (tvb : Tvb) (payloadLen msgType : Nat)
    (msgRec : RecordRef) : TrackerM Ended :=
  match MsgType.ofOpcode msgType with
  | some .statusReport => endStatusReport host tvb payloadLen msgRec
  | some .standaloneAck => endStandaloneAck msgRec
  | some .icdCheckIn => dissectICDCheckIn tvb payloadLen
  | some .pasePakeError => dissectPasePakeError tvb payloadLen
  | some (.tlv msg) => dissectTLVPayload host tvb payloadLen msg
  | none => pure ⟨.bytes 0, false⟩

end Matter.SecureChannel
