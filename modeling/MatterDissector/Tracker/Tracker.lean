import MatterDissector.Message.Protocol

/-!
# The message tracker

`MatterMessageTracker.cpp`. A record lives at an address, its place in the order of creation
(nothing frees one), and is linked into two intrusive lists: the messages with its counter and the
messages of its exchange. The tables map key arrays to the heads of the lists, `protoData` a frame
to the record attached to it (`p_add_proto_data`).

A record is created here once its fingerprint is known: one whose fingerprint throws is nowhere
attached. CRC-32 is a parameter.
-/

namespace Matter.Tracker

open Prog Message

def encryptionTypeNone : Nat := 0

/-! ## Records -/

/-- The address of a record. -/
abbrev RecordRef := Nat

/-- `MatterMessageRecord`, without the CASE record. `NULL` is `none`. -/
structure MatterMessageRecord where
  frameNum : Nat
  fingerprint : Nat
  isInitiator : Bool
  imSubscription : Nat := 0
  ackedByMsgRec : Option RecordRef := none
  nextByMsgCntr : Option RecordRef := none
  prevByMsgCntr : Option RecordRef := none
  nextByExchange : Option RecordRef := none
  prevByExchange : Option RecordRef := none
  deriving DecidableEq, Repr

/-- The links of one of the lists that a record is in. -/
structure Links where
  next : MatterMessageRecord → Option RecordRef
  prev : MatterMessageRecord → Option RecordRef
  setNext : RecordRef → MatterMessageRecord → MatterMessageRecord
  setPrev : RecordRef → MatterMessageRecord → MatterMessageRecord

def byMsgCntr : Links where
  next := MatterMessageRecord.nextByMsgCntr
  prev := MatterMessageRecord.prevByMsgCntr
  setNext p r := { r with nextByMsgCntr := some p }
  setPrev p r := { r with prevByMsgCntr := some p }

def byExchange : Links where
  next := MatterMessageRecord.nextByExchange
  prev := MatterMessageRecord.prevByExchange
  setNext p r := { r with nextByExchange := some p }
  setPrev p r := { r with prevByExchange := some p }

/-! ## Keys and tables -/

/-- `gMessageIdTable_`. -/
inductive MessageIdTable where
  | unencryptedUDP
  | sessionEncryptedUDP
  | groupEncryptedUDP
  | unencryptedTCP
  | sessionEncryptedTCP
  | groupEncryptedTCP
  deriving DecidableEq, Repr

/-- The 32-bit words of a key array. -/
abbrev Key := List Nat

/-- A table and a key in it. -/
abbrev MessageIdKey := MessageIdTable × Key

/-- `(guint32 *)&nodeId`, two words. -/
def words64 (v : Nat) : Key := [v % 2 ^ 32, v / 2 ^ 32]

namespace MatterSessionId

def maskSessionType : Nat := 0x0F
def typeSession : Nat := 0x00002000

/-- `GetType`. -/
def getType (keyId : Nat) : Nat := keyId &&& maskSessionType

end MatterSessionId

/-- `GetMessageIdTableAndKey`. -/
def getMessageIdTableAndKey (srcNodeId msgId msgEncType msgSessionId : Nat) (isTCP : Bool)
    (tcpStreamId : Nat) : MessageIdKey :=
  let msgIdKey := words64 srcNodeId ++ [msgId]
  if isTCP then
    let msgIdKey := msgIdKey ++ [tcpStreamId]
    if msgEncType = encryptionTypeNone then (.unencryptedTCP, msgIdKey)
    else if MatterSessionId.getType msgSessionId = MatterSessionId.typeSession then
      (.sessionEncryptedTCP, msgIdKey ++ [msgSessionId])
    else (.groupEncryptedTCP, msgIdKey)
  else
    if msgEncType = encryptionTypeNone then (.unencryptedUDP, msgIdKey)
    else if MatterSessionId.getType msgSessionId = MatterSessionId.typeSession then
      (.sessionEncryptedUDP, msgIdKey ++ [msgSessionId])
    else (.groupEncryptedUDP, msgIdKey)

/-- The key of `AddMessageToExchangeTable` and `GetMessagesByExchange`. -/
def getExchangeKey (initiatorNodeId respNodeId exchangeId : Nat) : Key :=
  words64 initiatorNodeId ++ words64 respNodeId ++ [exchangeId]

structure TrackerState where
  records : List MatterMessageRecord
  messageIdTable : MessageIdKey → Option RecordRef
  exchangeTable : Key → Option RecordRef
  protoData : Nat → Option RecordRef

namespace TrackerState

/-- `InitTables`. -/
def empty : TrackerState where
  records := []
  messageIdTable _ := none
  exchangeTable _ := none
  protoData _ := none

/-- The link of the record at an address, `none` where there is no record. -/
def link (s : TrackerState) (field : MatterMessageRecord → Option RecordRef) (p : RecordRef) :
    Option RecordRef := s.records[p]?.bind field

end TrackerState

abbrev TrackerM := Prog TvbError Fault TrackerState

/-- The record at an address. -/
def load (p : RecordRef) : TrackerM MatterMessageRecord := do
  match ← gets (·.records[p]?) with
  | some r => pure r
  | none => stop .outOfBoundsRead

def update (p : RecordRef) (f : MatterMessageRecord → MatterMessageRecord) : TrackerM Unit :=
  modify fun s => { s with records := s.records.modify p f }

section
variable {β : Type}

/-- One round of `forRecords`. -/
def recordRound (next : MatterMessageRecord → Option RecordRef) (body : β → RecordRef → TrackerM β)
    (b : Option RecordRef × β) : TrackerM ((Option RecordRef × β) ⊕ β) :=
  match b with
  | (none, b) => pure (.inr b)
  | (some p, b) => do
    let b ← body b p
    let r ← load p
    pure (.inl (next r, b))

/-- `for (p = first; p != NULL; p = p->next) body`. -/
def forRecords (next : MatterMessageRecord → Option RecordRef) (body : β → RecordRef → TrackerM β)
    (first : Option RecordRef) (b : β) : TrackerM β :=
  whileLoop (fun _ s => s.records.length) .outOfFuel (recordRound next body) (first, b)

end

/-! ## Adding a message -/

/-- `packet_info`: what the tracker reads of it. -/
structure PacketInfo where
  num : Nat
  ptype : PortType
  tcpStream : Nat
  deriving DecidableEq, Repr

def PacketInfo.isTCP (pinfo : PacketInfo) : Bool := pinfo.ptype == .tcp

/-- `MatterMessageInfo` once the protocol header has been read. -/
structure DecodedMessageInfo extends MatterMessageInfo, ProtocolInfo where
  deriving DecidableEq, Repr

def DecodedMessageInfo.isInitiator (msgInfo : DecodedMessageInfo) : Bool :=
  msgInfo.exchHeader &&& exchangeFlagInitiator ≠ 0

/-- The end of the list from `msgs` on. -/
def lastRecord (links : Links) (msgs : Option RecordRef) : TrackerM (Option RecordRef) :=
  forRecords links.next (fun _ p => pure (some p)) msgs none

/-- "Add the new message to the end of the list" that `msgs` begins, or start one. -/
def addToList (links : Links) (msgs : Option RecordRef) (insert : TrackerM Unit)
    (msgRec : RecordRef) : TrackerM Unit := do
  match ← lastRecord links msgs with
  | some lastMsgRec => do
    update lastMsgRec (links.setNext msgRec)
    update msgRec (links.setPrev lastMsgRec)
  | none => insert

/-- `AddMessageToMessageIdTable`, with the key already made. -/
def addMessageToMessageIdTable (msgIdKey : MessageIdKey) (msgRec : RecordRef) : TrackerM Unit := do
  let msgsByMsgCntr ← gets (·.messageIdTable msgIdKey)
  addToList byMsgCntr msgsByMsgCntr
    (modify fun s => { s with
      messageIdTable := fun key => if key = msgIdKey then some msgRec else s.messageIdTable key })
    msgRec

/-- `AddMessageToExchangeTable`, with the key already made. -/
def addMessageToExchangeTable (exchangeKey : Key) (msgRec : RecordRef) : TrackerM Unit := do
  let msgsByExchange ← gets (·.exchangeTable exchangeKey)
  addToList byExchange msgsByExchange
    (modify fun s => { s with
      exchangeTable := fun key => if key = exchangeKey then some msgRec else s.exchangeTable key })
    msgRec

/-- `crc32_ccitt_seed`: bytes and seed. -/
structure TrackerEnv where
  crc32CcittSeed : List UInt8 → Nat → Nat

/-- One bit of CRC-32. -/
def crc32Round (crc : Nat) : Nat :=
  if crc % 2 = 1 then (crc >>> 1) ^^^ 0xEDB88320 else crc >>> 1

/-- Wireshark's CRC-32, for concrete captures. -/
def crc32Ccitt : TrackerEnv where
  crc32CcittSeed bytes seed :=
    2 ^ 32 - 1 - bytes.foldl (fun crc b => crc32Round^[8] (crc ^^^ b.toNat)) seed

/-- The bytes of `PseudoHeader`, padding included. -/
def pseudoHeader (msgInfo : DecodedMessageInfo) : List UInt8 :=
  LE.bytes 1 msgInfo.msgFlags ++ LE.bytes 1 0 ++ LE.bytes 2 msgInfo.sessionId ++
    LE.bytes 1 msgInfo.secFlags ++ LE.bytes 3 0 ++ LE.bytes 4 msgInfo.msgId ++ LE.bytes 4 0 ++
    LE.bytes 8 msgInfo.srcNodeId ++ LE.bytes 8 msgInfo.destNodeId ++
    LE.bytes 2 msgInfo.payloadLen ++ LE.bytes 1 msgInfo.msgVersion ++
    LE.bytes 1 msgInfo.sessionType ++ LE.bytes 4 0

section
variable (env : TrackerEnv)

/-- `ComputeMessageFingerprint`. -/
def computeMessageFingerprint {σ : Type} (tvb : Tvb) (msgInfo : DecodedMessageInfo) :
    Prog TvbError Fault σ Nat := do
  let fingerprint := env.crc32CcittSeed (pseudoHeader msgInfo) (2 ^ 32 - 1)
  let message ← tvb.getBytes msgInfo.headerLen (sub32 msgInfo.msgLen msgInfo.headerLen)
  pure (env.crc32CcittSeed message (2 ^ 32 - 1 - fingerprint))

/-- A message as the tracker gets it. -/
structure TrackedMessage where
  tvb : Tvb
  pinfo : PacketInfo
  msgInfo : DecodedMessageInfo

namespace TrackedMessage

/-- The table and the key that the message is filed under by its counter. -/
def msgIdKey (m : TrackedMessage) : MessageIdKey :=
  getMessageIdTableAndKey m.msgInfo.srcNodeId m.msgInfo.msgId m.msgInfo.sessionType
    m.msgInfo.sessionId m.pinfo.isTCP (if m.pinfo.isTCP then m.pinfo.tcpStream else 0)

/-- The key of its exchange: the node id of the initiator, that of the responder, the id. -/
def exchangeKey (m : TrackedMessage) : Key :=
  getExchangeKey
    (if m.msgInfo.isInitiator then m.msgInfo.srcNodeId else m.msgInfo.destNodeId)
    (if m.msgInfo.isInitiator then m.msgInfo.destNodeId else m.msgInfo.srcNodeId)
    m.msgInfo.exchId

end TrackedMessage

/-- A new record. -/
def newRecord (r : MatterMessageRecord) : TrackerM RecordRef := do
  let msgRec ← gets (·.records.length)
  modify fun s => { s with records := s.records ++ [r] }
  pure msgRec

/-- `FindMessageRecord`. -/
def findMessageRecord (pinfo : PacketInfo) : TrackerM (Option RecordRef) :=
  gets (·.protoData pinfo.num)

/-- The record for a message of a frame that has none. -/
def createMessageRecord (m : TrackedMessage) : TrackerM RecordRef := do
  let fingerprint ← computeMessageFingerprint env m.tvb m.msgInfo
  let msgRec ← newRecord
    { frameNum := m.pinfo.num
      fingerprint
      isInitiator := m.msgInfo.isInitiator }
  addMessageToMessageIdTable m.msgIdKey msgRec
  addMessageToExchangeTable m.exchangeKey msgRec
  modify fun s => { s with
    protoData := fun num => if num = m.pinfo.num then some msgRec else s.protoData num }
  pure msgRec

/-- `FindOrCreateMessageRecord`. -/
def findOrCreateMessageRecord (m : TrackedMessage) : TrackerM RecordRef := do
  match ← findMessageRecord m.pinfo with
  | some msgRec => pure msgRec
  | none => createMessageRecord env m

end

/-- A run of `FindOrCreateMessageRecord`. An exception ends only its own call. -/
def findOrCreateAll (env : TrackerEnv) :
    List TrackedMessage → TrackerM (List (Except TvbError RecordRef))
  | [] => pure []
  | m :: run => do
    let result ← attempt (findOrCreateMessageRecord env m)
    let results ← findOrCreateAll env run
    pure (result :: results)

/-! ## Questions about a message -/

/-- `if (best == NULL || better(p, best)) best = p`, by frame numbers. -/
def keepBetter (better : Nat → Nat → Bool) (best : Option RecordRef) (p : RecordRef) :
    TrackerM (Option RecordRef) := do
  match best with
  | none => pure (some p)
  | some q => do
    let r ← load p
    let other ← load q
    pure (some (if better r.frameNum other.frameNum then p else q))

/-- `retransOfMsg`, `retransNum` and `totalRetrans`; a list has at most one record for each of
the 2^32 frame numbers, so the numbers do not wrap. -/
structure Retransmissions where
  retransOfMsg : Option RecordRef := none
  retransNum : Nat := 0
  totalRetrans : Nat := 0
  deriving DecidableEq, Repr

/-- The earlier message `p`, in the first loop of `FindRetransmissions`. -/
def retransmissionBefore (msgFingerprint : Nat) (found : Retransmissions) (p : RecordRef) :
    TrackerM Retransmissions := do
  let r ← load p
  if msgFingerprint = r.fingerprint then do
    let retransOfMsg ← keepBetter (· < ·) found.retransOfMsg p
    pure ⟨retransOfMsg, found.retransNum + 1, found.totalRetrans + 1⟩
  else pure found

/-- The later message `p`, in the second loop. -/
def retransmissionAfter (msgFingerprint : Nat) (found : Retransmissions) (p : RecordRef) :
    TrackerM Retransmissions := do
  let r ← load p
  pure (if msgFingerprint = r.fingerprint then
    { found with totalRetrans := found.totalRetrans + 1 } else found)

/-- `FindRetransmissions`. -/
def findRetransmissions (msgRec : RecordRef) : TrackerM Retransmissions := do
  let r ← load msgRec
  let found ← forRecords byMsgCntr.prev (retransmissionBefore r.fingerprint) r.prevByMsgCntr {}
  forRecords byMsgCntr.next (retransmissionAfter r.fingerprint) r.nextByMsgCntr found

/-- The earlier message `p`, in the loop of `FindReusedMessageIds`. -/
def reuseBefore (msgFingerprint : Nat) (reusesMsgCntrFrom : Option RecordRef) (p : RecordRef) :
    TrackerM (Option RecordRef) := do
  let r ← load p
  if msgFingerprint ≠ r.fingerprint then keepBetter (· < ·) reusesMsgCntrFrom p
  else pure reusesMsgCntrFrom

/-- `FindReusedMessageIds`: `reusesMsgCntrFrom`. -/
def findReusedMessageIds (msgRec : RecordRef) : TrackerM (Option RecordRef) := do
  let r ← load msgRec
  forRecords byMsgCntr.prev (reuseBefore r.fingerprint) r.prevByMsgCntr none

/-- `GetMessagesByMessageId`. -/
def getMessagesByMessageId (srcNodeId msgId msgEncType msgSessionId : Nat) (isTCP : Bool)
    (tcpStreamId : Nat) : TrackerM (Option RecordRef) :=
  gets (·.messageIdTable
    (getMessageIdTableAndKey srcNodeId msgId msgEncType msgSessionId isTCP tcpStreamId))

/-- `p->ackedByMsgRec == NULL || frameNum < p->ackedByMsgRec->frameNum`. -/
def acksEarlier (frameNum : Nat) : Option RecordRef → TrackerM Bool
  | none => pure true
  | some ackedBy => do
    let r ← load ackedBy
    pure (frameNum < r.frameNum)

def setAckedBy (msgRec p : RecordRef) (earlier : Bool) : TrackerM Unit :=
  if earlier then update p fun r => { r with ackedByMsgRec := some msgRec } else pure ()

/-- The message `p` with the acknowledged counter, in the loop of `FindAckedMessages`. -/
def ackMessage (msgRec : RecordRef) (frameNum : Nat) (ackedMsg : Option RecordRef) (p : RecordRef) :
    TrackerM (Option RecordRef) := do
  let r ← load p
  if r.frameNum < frameNum then do
    let earlier ← acksEarlier frameNum r.ackedByMsgRec
    setAckedBy msgRec p earlier
    keepBetter (· > ·) ackedMsg p
  else pure ackedMsg

/-- `FindAckedMessages`: `ackedMsg`. -/
def findAckedMessages (pinfo : PacketInfo) (msgRec : RecordRef) (msgInfo : DecodedMessageInfo) :
    TrackerM (Option RecordRef) :=
  if pinfo.ptype = .udp ∧ msgInfo.msgVersion > 1 ∧ msgInfo.exchHeader &&& exchangeFlagAckId ≠ 0
  then do
    let ackMsgRecList ← getMessagesByMessageId msgInfo.destNodeId msgInfo.ackMsgCntr
      msgInfo.sessionType msgInfo.sessionId false 0
    let r ← load msgRec
    forRecords byMsgCntr.next (ackMessage msgRec r.frameNum) ackMsgRecList none
  else pure none

/-- One round of the loop that folds retransmissions of the initiator. -/
def foldRound (start : RecordRef) : TrackerM (RecordRef ⊕ RecordRef) := do
  let r ← load start
  match r.prevByExchange with
  | none => pure (.inr start)
  | some p => do
    let prev ← load p
    pure (if prev.isInitiator ∧ prev.fingerprint = r.fingerprint then .inl p else .inr start)

/-- "Fold contiguous initiator retransmissions with identical fingerprint into one start frame." -/
def foldRetransmissions (p : RecordRef) : TrackerM RecordRef :=
  whileLoop (fun _ s => s.records.length) .outOfFuel foldRound p

/-- One round of `FindStartOfExchange`: the record `p`, or the next one back. -/
def startRound (p : RecordRef) : TrackerM (RecordRef ⊕ RecordRef) := do
  let r ← load p
  if r.isInitiator then Sum.inr <$> foldRetransmissions p
  else
    match r.prevByExchange with
    | some prev => pure (.inl prev)
    | none => pure (.inr p)

/-- `FindStartOfExchange`. -/
def findStartOfExchange (msgRec : RecordRef) : TrackerM RecordRef :=
  whileLoop (fun _ s => s.records.length) .outOfFuel startRound msgRec

/-- What `DissectMatter` asks the tracker about a message. -/
structure Annotations where
  msgRec : RecordRef
  exchangeStartMsg : RecordRef
  retransmissions : Retransmissions
  reusesMsgCntrFrom : Option RecordRef
  ackedMsg : Option RecordRef
  deriving DecidableEq, Repr

/-- The calls of `DissectMatter`, in its order. -/
def trackMessage (env : TrackerEnv) (m : TrackedMessage) : TrackerM Annotations := do
  let msgRec ← findOrCreateMessageRecord env m
  let exchangeStartMsg ← findStartOfExchange msgRec
  let retransmissions ← findRetransmissions msgRec
  let reusesMsgCntrFrom ← findReusedMessageIds msgRec
  let ackedMsg ← findAckedMessages m.pinfo msgRec m.msgInfo
  pure { msgRec, exchangeStartMsg, retransmissions, reusesMsgCntrFrom, ackedMsg }

/-- A run of the dissector. An exception ends only the dissection of its own message. -/
def trackAll (env : TrackerEnv) :
    List TrackedMessage → TrackerM (List (Except TvbError Annotations))
  | [] => pure []
  | m :: run => do
    let result ← attempt (trackMessage env m)
    let results ← trackAll env run
    pure (result :: results)

/-- `MatterExchangeFilter_BuildFilterString`: the frame number in the filter. -/
def exchangeFilterFrame (pinfo : PacketInfo) : TrackerM (Option Nat) := do
  match ← findMessageRecord pinfo with
  | some msgRec => do
    let start ← findStartOfExchange msgRec
    let r ← load start
    pure (some r.frameNum)
  | none => pure none

end Matter.Tracker
