import MatterDissector.Message.Proof.Keys
import MatterDissector.Security.Dissect
import MatterDissector.Tracker.Subscription

/-!
# Packets

`DissectMatter` (`packet-matter.cpp`) as a whole: the message header, the body, the tracker's
annotations and the payload dissector, on the state that Wireshark keeps between packets. A capture
is a run over packets in the order in which they are dissected: a packet may come again, and one
that throws ends only its own dissection. What it has shown by then stays on the screen.

Left out are the columns and the items of the message header. Of the payload dissectors that
`matter.profile_id` leads to, those that only show items are left out, too: Echo, UDC and, of the
common protocol, all but status reports and standalone acknowledgements.
-/

namespace Matter.Capture

open Prog Message Tracker Security

/-- What is kept between packets: keys, message records, and the CASE records with the message
records that have one. -/
structure DissectorState where
  decrypt : DecryptState
  tracker : TrackerState
  caseRecords : List CASEExchangeRecord
  caseExchangeRec : RecordRef → Option Nat

/-- No message has come. -/
def DissectorState.start (decrypt : DecryptState) : DissectorState where
  decrypt
  tracker := .empty
  caseRecords := []
  caseExchangeRec _ := none

abbrev DissectorM := Prog TvbError Fault DissectorState

structure DissectorEnv where
  decrypt : DecryptEnv
  tracker : TrackerEnv
  im : IM.Env
  case : CaseEnv
  kdf : KdfEnv

namespace DissectorM

variable {α : Type}

/-- The body of a message, with `msgInfo` and a tree of its own. -/
def body (x : BodyM α) : DissectorM (α × ProtocolState) := ⟨fun s =>
  match x.run ⟨s.decrypt, {}⟩ with
  | .ok a b => .ok (a, b.protocol) { s with decrypt := b.decrypt }
  | .err e b => .err e { s with decrypt := b.decrypt }
  | .fault f => .fault f⟩

def tracker (x : TrackerM α) : DissectorM α :=
  zoom DissectorState.tracker (fun tracker s => { s with tracker }) x

end DissectorM

/-! ## Security messages -/

/-- `msg->prevByExchange` and so on, from the record `msgRec`. -/
def prevsByExchange (msgRec : RecordRef) : TrackerM (List RecordRef) := do
  let r ← load msgRec
  forRecords byExchange.prev (fun found p => pure (found ++ [p])) r.prevByExchange []

namespace DissectorState

/-- What a security message finds. -/
def recovery (s : DissectorState) (msgRec : RecordRef) (prevs : List RecordRef) :
    RecoveryState where
  case := .start s.caseRecords (s.caseExchangeRec msgRec) (prevs.map s.caseExchangeRec)
  decrypt := s.decrypt

/-- What it leaves. -/
def recovered (s : DissectorState) (msgRec : RecordRef) (t : RecoveryState) : DissectorState :=
  { s with
    decrypt := t.decrypt
    caseRecords := t.case.records
    caseExchangeRec := Function.update s.caseExchangeRec msgRec t.case.caseExchangeRec }

end DissectorState

/-- A dissector of a security message, and its `exit:`, where an error code is ignored. -/
def DissectorM.security (msgRec : RecordRef) (prevs : List RecordRef) (x : SecurityM Unit) :
    DissectorM Unit := ⟨fun s =>
  match x.run (s.recovery msgRec prevs) with
  | .ok () t => .ok () (s.recovered msgRec t)
  | .err (.code _) t => .ok () (s.recovered msgRec t)
  | .err (.thrown e) t => .err e (s.recovered msgRec t)
  | .err (.crashed f) _ => .fault f
  | .fault f => .fault f⟩

/-! ## What is shown -/

/-- The items that refer to frames: the start of the exchange, the retransmissions (the frame, the
number of this one and of all), the reused counter and the two sides of an acknowledgement. -/
structure FrameItems where
  exchangeStart : Nat
  startsHere : Bool
  retransmission : Option (Nat × Nat × Nat)
  msgCntrReuse : Option Nat
  ackMsg : Option Nat
  ackedBy : Option Nat
  deriving DecidableEq, Repr

/-- The payload as its dissector got it, and the subscription that it has shown. -/
structure Payload where
  bytes : List UInt8
  imSubscription : Option Nat
  deriving DecidableEq, Repr

/-- What `DissectMatter` shows of a packet: encrypted data, or a message. Behind its items the
payload dissector may throw. -/
inductive Shown where
  | encrypted (msgInfo : MatterMessageInfo) (encData : List UInt8)
  | message (msgInfo : DecodedMessageInfo) (items : List ProtocolItem) (frames : FrameItems)
      (payload : Except TvbError Payload)

/-! ## `DissectMatter` -/

def frameOf (p : RecordRef) : TrackerM Nat := do
  let r ← load p
  pure r.frameNum

def frameOfAny : Option RecordRef → TrackerM (Option Nat)
  | some p => some <$> frameOf p
  | none => pure none

/-- The items made of the annotations. -/
def frameItems (a : Annotations) : TrackerM FrameItems := do
  let exchangeStart ← frameOf a.exchangeStartMsg
  let retransOfMsg ← frameOfAny a.retransmissions.retransOfMsg
  let msgCntrReuse ← frameOfAny a.reusesMsgCntrFrom
  let ackMsg ← frameOfAny a.ackedMsg
  let r ← load a.msgRec
  let ackedBy ← frameOfAny r.ackedByMsgRec
  pure
    { exchangeStart, msgCntrReuse, ackMsg, ackedBy
      startsHere := a.exchangeStartMsg = a.msgRec
      retransmission := retransOfMsg.map
        (·, a.retransmissions.retransNum, a.retransmissions.totalRetrans) }

section
variable (env : DissectorEnv)

/-- The payload dissectors that `matter.profile_id` leads to: the subscription that they show. -/
def dissectPayload (msgInfo : DecodedMessageInfo) (payloadTVB : Tvb) (msgRec : RecordRef) :
    DissectorM (Option Nat) :=
  if dispatchProtocolId msgInfo.msgProtocolId = profileSecurity then do
    let prevs ← .tracker (prevsByExchange msgRec)
    .security msgRec prevs (dissectMatterSecurity env.case env.kdf msgInfo.msgType payloadTVB)
    pure none
  else .tracker (dispatchPayload env.im msgInfo payloadTVB msgRec)

/-- The payload goes to its dissector. -/
def showPayload (msgInfo : DecodedMessageInfo) (unencMsgTVB : Tvb) (payloadOffset : Nat)
    (msgRec : RecordRef) : DissectorM Payload := do
  let payloadTVB ← unencMsgTVB.newSubsetLength payloadOffset msgInfo.payloadLen
  let imSubscription ← dissectPayload env msgInfo payloadTVB msgRec
  pure { bytes := payloadTVB.bytes, imSubscription }

/-- The part behind the integrity check. -/
def dissectDecoded (m : TrackedMessage) (unencMsgTVB : Tvb) (payloadOffset : Nat)
    (items : List ProtocolItem) : DissectorM Shown := do
  let annotations ← .tracker (trackMessage env.tracker m)
  let frames ← .tracker (frameItems annotations)
  let payload ← attempt (showPayload env m.msgInfo unencMsgTVB payloadOffset annotations.msgRec)
  pure (.message m.msgInfo items frames payload)

/-- A message that stays encrypted. -/
def showEncrypted (tvb : Tvb) (msgInfo : MatterMessageInfo) : DissectorM Shown := do
  let encDataLen := sub32 msgInfo.msgLen msgInfo.headerLen % 2 ^ 16
  let encData ← tvb.getBytes msgInfo.headerLen encDataLen
  pure (.encrypted msgInfo encData)

/-- `DissectMatter`. -/
def dissectMatter (pinfo : PacketInfo) (frame : Tvb) : DissectorM Shown := do
  let (tvb, msgInfo) ← dissectMessage pinfo.ptype frame
  let (decoded, protocol) ← .body (dissectBody env.decrypt tvb msgInfo)
  match decoded with
  | some (unencMsgTVB, payloadOffset) =>
    dissectDecoded env ⟨tvb, pinfo, { msgInfo, protocol.info with }⟩ unencMsgTVB payloadOffset
      protocol.items
  | none => showEncrypted tvb msgInfo

/-! ## Captures -/

/-- A packet, and what may be different each time it is dissected. -/
structure Packet where
  pinfo : PacketInfo
  frame : Tvb
  call : CallEnv

variable (file : Option (List MatterProxyHintKey))

/-- `DissectMatter` with the hints of `file`. -/
def dissectPacket (packet : Packet) : DissectorM Shown := do
  let st ← gets DissectorState.decrypt
  dissectMatter { env with decrypt := env.decrypt.forCall file packet.call st } packet.pinfo
    packet.frame

def dissectCapture : List Packet → DissectorM (List (Except TvbError Shown))
  | [] => pure []
  | packet :: capture => do
    let result ← attempt (dissectPacket env file packet)
    let results ← dissectCapture capture
    pure (result :: results)

end

end Matter.Capture
