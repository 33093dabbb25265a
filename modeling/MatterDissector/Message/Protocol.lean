import MatterDissector.Message.Decrypt

/-!
# The protocol header

The part of `DissectMatter` (`packet-matter.cpp`) that works on the decrypted or unsecured message:
the protocol header, which it goes over twice (to read the fields, and to show them), the payload
and the integrity check. `ProtocolState.items` has the ranges that the items of the tree show.

Left out are the names of protocols and opcodes and the texts made of them.
-/

namespace Matter.Message

open Prog

def exchangeFlagInitiator : Nat := 0x01
def exchangeFlagAckId : Nat := 0x02
def exchangeFlagVendorProtocol : Nat := 0x10

def cryptoTagLength : Nat := 16

/-- The members of `MatterMessageInfo` that come from the protocol header. -/
structure ProtocolInfo where
  exchHeader : Nat := 0
  msgType : Nat := 0
  exchId : Nat := 0
  msgProtocolId : Nat := 0
  msgProtocolVendorId : Nat := 0
  ackMsgCntr : Nat := 0
  payloadLen : Nat := 0
  trailerLen : Nat := 0
  deriving DecidableEq, Repr

/-- The fields `hf_Matter_` of the protocol header and of what follows it. -/
inductive ProtocolField where
  | exchangeHeader
  | vFlag
  | sxFlag
  | rFlag
  | aFlag
  | iFlag
  | protocolOpcode
  | exchangeId
  | protocolId
  | protocolVendorId
  | ackMsgCntr
  | payload
  | integrityCheck
  deriving DecidableEq, Repr

/-- An item of the tree and the bytes it covers. -/
structure ProtocolItem where
  field : ProtocolField
  start : Nat
  bytes : List UInt8
  deriving DecidableEq, Repr

structure ProtocolState where
  info : ProtocolInfo := {}
  items : List ProtocolItem := []
  deriving DecidableEq, Repr

abbrev ProtocolM := Prog TvbError Fault ProtocolState

/-- A `proto_tree_add_` function on a range of the buffer. -/
def addItem (tvb : Tvb) (field : ProtocolField) (start length : Nat) : ProtocolM Unit := do
  let bytes ← tvb.getBytes start length
  modify fun s => { s with items := s.items ++ [⟨field, start, bytes⟩] }

def setInfo (f : ProtocolInfo → ProtocolInfo) : ProtocolM Unit :=
  modify fun s => { s with info := f s.info }

/-- The vendor id, if there is one; the new parse point. -/
def readVendorId (tvb : Tvb) (exchHeader parsePoint : Nat) : ProtocolM Nat :=
  if exchHeader &&& exchangeFlagVendorProtocol ≠ 0 then do
    let msgProtocolVendorId ← tvb.getLetohs parsePoint
    setInfo fun info => { info with msgProtocolVendorId }
    pure (parsePoint + 2)
  else pure parsePoint

/-- The first pass over the protocol header: the exchange flags and the end of the header. -/
def readProtocolHeader (tvb : Tvb) : ProtocolM (Nat × Nat) := do
  let parsePoint := 0
  let exchHeader ← tvb.getGuint8 parsePoint
  setInfo fun info => { info with exchHeader }
  [.exchangeHeader, .vFlag, .sxFlag, .rFlag, .aFlag, .iFlag].forM
    fun field => addItem tvb field parsePoint 1
  let parsePoint := parsePoint + 1
  let msgType ← tvb.getGuint8 parsePoint
  setInfo fun info => { info with msgType }
  let parsePoint := parsePoint + 1
  let exchId ← tvb.getLetohs parsePoint
  setInfo fun info => { info with exchId }
  let parsePoint := parsePoint + 2
  let msgProtocolId ← tvb.getLetohs parsePoint
  setInfo fun info => { info with msgProtocolId }
  let parsePoint := parsePoint + 2
  let parsePoint ← readVendorId tvb exchHeader parsePoint
  pure (exchHeader, parsePoint)

def showVendorId (tvb : Tvb) (exchHeader parsePoint : Nat) : ProtocolM Nat :=
  if exchHeader &&& exchangeFlagVendorProtocol ≠ 0 then do
    addItem tvb .protocolVendorId parsePoint 2
    pure (parsePoint + 2)
  else pure parsePoint

/-- "Back up and add annotations": the second pass, and its end. -/
def showProtocolHeader (tvb : Tvb) (exchHeader : Nat) : ProtocolM Nat := do
  let parsePoint := 1
  addItem tvb .protocolOpcode parsePoint 1
  let parsePoint := parsePoint + 1
  addItem tvb .exchangeId parsePoint 2
  let parsePoint := parsePoint + 2
  addItem tvb .protocolId parsePoint 2
  let parsePoint := parsePoint + 2
  showVendorId tvb exchHeader parsePoint

/-- The acknowledged message counter, if there is one; the new parse point. -/
def dissectAckMsgCntr (tvb : Tvb) (exchHeader parsePoint : Nat) : ProtocolM Nat :=
  if exchHeader &&& exchangeFlagAckId ≠ 0 then do
    let ackMsgCntr ← tvb.getLetohl parsePoint
    setInfo fun info => { info with ackMsgCntr }
    addItem tvb .ackMsgCntr parsePoint 4
    pure (parsePoint + 4)
  else pure parsePoint

def showPayload (tvb : Tvb) (parsePoint payloadLen : Nat) : ProtocolM Unit :=
  if payloadLen ≠ 0 then addItem tvb .payload parsePoint payloadLen else pure ()

def showIntegrityCheck (tvb : Tvb) (encrypted : Bool) (parsePoint : Nat) : ProtocolM Unit :=
  if encrypted then addItem tvb .integrityCheck parsePoint cryptoTagLength else pure ()

/-- The payload, all but the trailer behind the header, and the integrity check behind it. -/
def dissectPayload (tvb : Tvb) (encrypted : Bool) (payloadOffset : Nat) : ProtocolM Unit := do
  let trailerLen ← gets (·.info.trailerLen)
  let payloadLen := sub32 tvb.bytes.length (payloadOffset + trailerLen) % 2 ^ 16
  setInfo fun info => { info with payloadLen }
  showPayload tvb payloadOffset payloadLen
  showIntegrityCheck tvb encrypted (payloadOffset + payloadLen)

/-- What `DissectMatter` does with the decrypted or unsecured message `tvb`. The result is
`payloadOffset`. -/
def dissectProtocol (tvb : Tvb) (encrypted : Bool) : ProtocolM Nat := do
  let (exchHeader, _) ← readProtocolHeader tvb
  let parsePoint ← showProtocolHeader tvb exchHeader
  let payloadOffset ← dissectAckMsgCntr tvb exchHeader parsePoint
  dissectPayload tvb encrypted payloadOffset
  pure payloadOffset

/-! ## Behind the message header -/

structure BodyState where
  decrypt : DecryptState
  protocol : ProtocolState

abbrev BodyM := Prog TvbError Fault BodyState

namespace BodyM

def decrypt {α : Type} (x : DecryptM α) : BodyM α :=
  zoom BodyState.decrypt (fun decrypt s => { s with decrypt }) x

def protocol {α : Type} (x : ProtocolM α) : BodyM α :=
  zoom BodyState.protocol (fun protocol s => { s with protocol }) x

end BodyM

/-- The decrypted message, whose trailer is the tag. -/
def decryptedMessage (env : DecryptEnv) (tvb : Tvb) (msgInfo : MatterMessageInfo) :
    BodyM (Option Tvb) := do
  match ← BodyM.decrypt (tryDecryptMessage env tvb msgInfo.headerLen msgInfo) with
  | some unencMsgTVB => do
    BodyM.protocol <| setInfo fun info =>
      { info with trailerLen := info.trailerLen + cryptoTagLength }
    pure (some unencMsgTVB)
  | none => pure none

/-- `unencMsgTVB`. -/
def unencryptedMessage (env : DecryptEnv) (tvb : Tvb) (msgInfo : MatterMessageInfo) :
    BodyM (Option Tvb) :=
  if messageIsEncrypted msgInfo then decryptedMessage env tvb msgInfo
  else some <$> tvb.newSubsetRemaining msgInfo.headerLen

/-- `DissectMatter` from the end of the message header to the integrity check: the buffer of the
protocol header and `payloadOffset`, unless the message stays encrypted. -/
def dissectBody (env : DecryptEnv) (tvb : Tvb) (msgInfo : MatterMessageInfo) :
    BodyM (Option (Tvb × Nat)) := do
  match ← unencryptedMessage env tvb msgInfo with
  | some unencMsgTVB => do
    let payloadOffset ← BodyM.protocol
      (dissectProtocol unencMsgTVB (messageIsEncrypted msgInfo))
    pure (some (unencMsgTVB, payloadOffset))
  | none => pure none

end Matter.Message
