import MatterDissector.IM.Message
import MatterDissector.Tracker.Tracker

/-!
# Subscriptions

What `DissectMatter` does with a message behind the tracker's annotations: it picks a payload
dissector by protocol and opcode. `DissectStatusReport` and `DissectStandaloneAck`
(`packet-matter-common.cpp`) look for the subscription of the exchange with
`AssociateWithIMSubscription` (`packet-matter-im.cpp`); `DissectIM` is the one of `IM.Message`. The
other protocols and opcodes do nothing with a subscription.
-/

namespace Matter.Tracker

open Prog Message Display TLV IM

/-! ## The subscription of an exchange -/

/-- A round of a loop of `AssociateWithIMSubscription`: the subscription of `p` ends it. -/
def associateRound (next : MatterMessageRecord → Option RecordRef) (msgRec : RecordRef) :
    Option RecordRef → TrackerM (Option RecordRef ⊕ Unit)
  | none => pure (.inr ())
  | some p => do
    let r ← load p
    if r.imSubscription ≠ 0 then do
      update msgRec fun m => { m with imSubscription := r.imSubscription }
      pure (.inr ())
    else pure (.inl (next r))

/-- A loop of `AssociateWithIMSubscription`. -/
def associateFrom (next : MatterMessageRecord → Option RecordRef) (msgRec : RecordRef)
    (first : Option RecordRef) : TrackerM Unit :=
  whileLoop (fun _ s => s.records.length) .outOfFuel (associateRound next msgRec) first

/-- `if (msgRec->imSubscription == 0)` and a loop. -/
def associateIfUnset (next first : MatterMessageRecord → Option RecordRef) (msgRec : RecordRef) :
    TrackerM Unit := do
  let r ← load msgRec
  if r.imSubscription = 0 then associateFrom next msgRec (first r) else pure ()

/-- `AssociateWithIMSubscription`: the value of the hidden item. -/
def associateWithIMSubscription (msgRec : RecordRef) : TrackerM Nat := do
  associateIfUnset byExchange.prev (fun _ => some msgRec) msgRec
  associateIfUnset byExchange.next (·.nextByExchange) msgRec
  let r ← load msgRec
  pure r.imSubscription

/-! ## Payload dissectors -/

/-- A TLV dissector at work on a payload: its error, if it ends with one. -/
def dissectTlv {α : Type} (x : DissectM α) (tlv : TLVDissector) :
    TrackerM (Except MatterError α) :=
  match x.run (.start tlv) with
  | .ok a _ => pure (.ok a)
  | .err e _ => pure (.error e)
  | .fault f => stop f

/-- What is behind the three numbers of a status report. -/
def dissectStatusReportTLV (host : Host) (tvb : Tvb) (parsePoint payloadLen : Nat) :
    TrackerM (Except MatterError Unit) :=
  if parsePoint < payloadLen then do
    let msgData ← tvb.memdup parsePoint (payloadLen - parsePoint)
    dissectTlv (do
      Dissect.next
      Dissect.addGenericTLVItem host .messageTree .statusReportTLV false)
      (.init msgData (payloadLen - parsePoint) parsePoint)
  else pure (.ok ())

/-- `DissectStatusReport`: the subscription, if it gets that far. -/
def dissectStatusReport (host : Host) (tvb : Tvb) (payloadLen : Nat) (msgRec : RecordRef) :
    TrackerM (Option Nat) := do
  let parsePoint := 0
  let _generalCode ← tvb.getLetohs parsePoint
  let parsePoint := parsePoint + 2
  let _profileId ← tvb.getLetohl parsePoint
  let parsePoint := parsePoint + 4
  let _statusCode ← tvb.getLetohs parsePoint
  let parsePoint := parsePoint + 2
  match ← dissectStatusReportTLV host tvb parsePoint payloadLen with
  | .ok () => some <$> associateWithIMSubscription msgRec
  | .error _ => pure none

/-- `DissectStandaloneAck`. -/
def dissectStandaloneAck (msgRec : RecordRef) : TrackerM (Option Nat) :=
  some <$> associateWithIMSubscription msgRec

/-- `kMsgType_` of the interaction model. -/
def msgTypeOf : Nat → Option MsgType
  | 0x01 => some .statusResponse
  | 0x02 => some .readRequest
  | 0x03 => some .subscribeRequest
  | 0x04 => some .subscribeResponse
  | 0x05 => some .reportData
  | 0x06 => some .writeRequest
  | 0x07 => some .writeResponse
  | 0x08 => some .invokeRequest
  | 0x09 => some .invokeResponse
  | 0x0A => some .timedRequest
  | _ => none

/-- A message dissector of `DissectIM` on a payload. -/
def dissectIMPayload (env : Env) (tvb : Tvb) (payloadLen : Nat) (msgType : MsgType) :
    TrackerM (Option Nat) := do
  let msgData ← tvb.memdup 0 payloadLen
  let _err ← dissectTlv (dissectIMMessage env msgType) (.init msgData payloadLen 0)
  pure none

/-! ## Dispatch -/

/-- The protocols that `GetProtocolName` knows. -/
def namedProtocols : List Nat :=
  [0x0000, 0x0001, 0x0002, 0x0003, 0x0004, 0x1004, 0x0005, 0x0006, 0x0007, 0x000B, 0x000C, 0x000E,
    0x000F, 0x0011, 0x0021]

/-- `dispatchProtocolId`: an unknown protocol is looked up with its bytes swapped, too. -/
def dispatchProtocolId (msgProtocolId : Nat) : Nat :=
  let swappedProtocolId := (msgProtocolId <<< 8 ||| msgProtocolId >>> 8) % 2 ^ 16
  if msgProtocolId ∉ namedProtocols ∧ swappedProtocolId ∈ namedProtocols then swappedProtocolId
  else msgProtocolId

def profileCommon : Nat := 0x0000
def profileInteractionModel : Nat := 0x0001

def msgTypeStandaloneAck : Nat := 0x10
def msgTypeStatusReport : Nat := 0x40

/-- The payload dissectors that `matter.profile_id` leads to: the subscription of the record, if
`AssociateWithIMSubscription` has been called. -/
def dispatchPayload (env : Env) (msgInfo : DecodedMessageInfo) (payloadTVB : Tvb)
    (msgRec : RecordRef) : TrackerM (Option Nat) :=
  let protocolId := dispatchProtocolId msgInfo.msgProtocolId
  if protocolId = profileCommon then
    if msgInfo.msgType = msgTypeStatusReport then
      dissectStatusReport env.host payloadTVB msgInfo.payloadLen msgRec
    else if msgInfo.msgType = msgTypeStandaloneAck then dissectStandaloneAck msgRec
    else pure none
  else if protocolId = profileInteractionModel then
    match msgTypeOf msgInfo.msgType with
    | some msgType => dissectIMPayload env payloadTVB msgInfo.payloadLen msgType
    | none => pure none
  else pure none

/-- A message as `DissectMatter` has it behind the integrity check, with its payload in the
buffer. -/
structure Dissection where
  message : TrackedMessage
  unencMsgTVB : Tvb
  payloadOffset : Nat
  payload_le : payloadOffset + message.msgInfo.payloadLen ≤ unencMsgTVB.bytes.length

/-- What has been done with a message: its record, and the result of
`AssociateWithIMSubscription` if that was called. -/
structure Dissected where
  msgRec : RecordRef
  imSubscription : Option Nat
  deriving DecidableEq, Repr

/-- `DissectMatter` from the tracker to the end of the payload. -/
def dissectMatterPayload (trackerEnv : TrackerEnv) (env : Env) (d : Dissection) :
    TrackerM Dissected := do
  let annotations ← trackMessage trackerEnv d.message
  let payloadTVB ← d.unencMsgTVB.newSubsetLength d.payloadOffset d.message.msgInfo.payloadLen
  let imSubscription ← dispatchPayload env d.message.msgInfo payloadTVB annotations.msgRec
  pure { msgRec := annotations.msgRec, imSubscription }

/-- A run of the dissector. An exception ends only the dissection of its own message. -/
def dissectAll (trackerEnv : TrackerEnv) (env : Env) :
    List Dissection → TrackerM (List (Except TvbError Dissected))
  | [] => pure []
  | d :: run => do
    let result ← attempt (dissectMatterPayload trackerEnv env d)
    let results ← dissectAll trackerEnv env run
    pure (result :: results)

/-- `IMSubscriptionFilter_IsValid`. -/
def imSubscriptionFilterIsValid (pinfo : PacketInfo) : TrackerM Bool := do
  match ← findMessageRecord pinfo with
  | some msgRec => do
    let r ← load msgRec
    pure (r.imSubscription ≠ 0)
  | none => pure false

end Matter.Tracker
