import MatterDissector.Message.Tvb

/-!
# The message header

The header part of `DissectMatter` (`packet-matter.cpp`), up to the choice between the plain and
the decrypted payload. `MatterMessageInfo` has the members that the modelled functions use; its
integers are the unsigned numbers the buffer accessors return.
-/

namespace Matter.Message

open Prog

def matterTCPMessageLengthFieldSize : Nat := 2

def messageFlagSourceNodeId : Nat := 0x04
def messageFlagDestGroupId : Nat := 0x02
def messageFlagDestNodeId : Nat := 0x01

def messageVersionMask : Nat := 0xF0
def messageVersionShift : Nat := 4
def encryptionTypeMask : Nat := 0x03
def encryptionTypeShift : Nat := 0

def sessionTypeUnicast : Nat := 0
def sessionIdUnsecured : Nat := 0

/-- `pinfo->ptype`. -/
inductive PortType where
  | tcp
  | udp
  deriving DecidableEq, Repr

structure MatterMessageInfo where
  msgVersion : Nat
  msgFlags : Nat
  secFlags : Nat
  srcNodeId : Nat
  destNodeId : Nat
  msgId : Nat
  sessionType : Nat
  sessionId : Nat
  msgLen : Nat
  headerLen : Nat
  deriving DecidableEq, Repr

section
variable {σ : Type}

/-- The message behind the transport: over TCP its length comes first. -/
def transportMessage (ptype : PortType) (tvb : Tvb) : Prog TvbError Fault σ (Nat × Tvb) :=
  match ptype with
  | .tcp => do
    let msgLen ← tvb.getLetohs 0
    let tvb ← tvb.newSubsetRemaining matterTCPMessageLengthFieldSize
    pure (msgLen, tvb)
  | .udp => pure (tvb.reportedLength % 2 ^ 16, tvb)

/-- A node id, read when `flag` says so: the id and `nodeIdLen`. -/
def dissectNodeId (tvb : Tvb) (msgFlags flag parsePoint : Nat) :
    Prog TvbError Fault σ (Nat × Nat) :=
  if msgFlags &&& flag ≠ 0 then do return (← tvb.getLetoh64 parsePoint, 8)
  else pure (0, 0)

/-- The header of a message of `msgLen` bytes. -/
def dissectHeader (msgLen : Nat) (tvb : Tvb) : Prog TvbError Fault σ MatterMessageInfo := do
  let msgFlags ← tvb.getGuint8 0
  let sessionId ← tvb.getLetohs 1
  let secFlags ← tvb.getGuint8 3
  let msgId ← tvb.getLetohl 4
  let parsePoint := 8
  let (srcNodeId, nodeIdLen) ← dissectNodeId tvb msgFlags messageFlagSourceNodeId parsePoint
  let parsePoint := parsePoint + nodeIdLen
  let (destNodeId, nodeIdLen) ← dissectNodeId tvb msgFlags messageFlagDestNodeId parsePoint
  let parsePoint := parsePoint + nodeIdLen
  pure
    { msgVersion := (msgFlags &&& messageVersionMask) >>> messageVersionShift
      msgFlags, secFlags, srcNodeId, destNodeId, msgId
      sessionType := (secFlags &&& encryptionTypeMask) >>> encryptionTypeShift
      sessionId, msgLen
      headerLen := parsePoint }

/-- `DissectMatter` up to `headerLen`: the buffer of the message, and what was read. -/
def dissectMessage (ptype : PortType) (tvb : Tvb) :
    Prog TvbError Fault σ (Tvb × MatterMessageInfo) := do
  let (msgLen, tvb) ← transportMessage ptype tvb
  let msgInfo ← dissectHeader msgLen tvb
  pure (tvb, msgInfo)

end

/-! ## The wire format -/

/-- The destination: `dsizTypeNames` gives the values of the size field. -/
inductive Destination where
  | none
  | nodeId (id : UInt64)
  | groupId (id : UInt16)
  deriving DecidableEq, Repr

namespace Destination

/-- `MatterDestSizeType`. -/
def dsiz : Destination → Nat
  | .none => 0
  | .nodeId _ => 1
  | .groupId _ => 2

def encode : Destination → List UInt8
  | .none => []
  | .nodeId id => LE.bytes 8 id.toNat
  | .groupId id => LE.bytes 2 id.toNat

/-- The bytes of the field. -/
def size : Destination → Nat
  | .none => 0
  | .nodeId _ => 8
  | .groupId _ => 2

/-- The destination node id, 0 when there is none. -/
def nodeIdOrZero : Destination → Nat
  | .nodeId id => id.toNat
  | _ => 0

def isGroupId : Destination → Bool
  | .groupId _ => true
  | _ => false

end Destination

/-- A message header without extensions. `reserved` is the one unassigned bit of the flags. -/
structure MessageHeader where
  version : Fin 16
  reserved : Bool
  sessionId : UInt16
  secFlags : UInt8
  counter : UInt32
  source : Option UInt64
  destination : Destination
  noExtensions : secFlags &&& 0x20 = 0
  deriving DecidableEq

namespace MessageHeader

def flags (h : MessageHeader) : Nat :=
  h.version * 16 + (if h.reserved then 8 else 0) + (if h.source.isSome then 4 else 0) +
    h.destination.dsiz

def encodeSource (h : MessageHeader) : List UInt8 :=
  match h.source with
  | none => []
  | some id => LE.bytes 8 id.toNat

def encode (h : MessageHeader) : List UInt8 :=
  LE.bytes 1 h.flags ++ LE.bytes 2 h.sessionId.toNat ++ LE.bytes 1 h.secFlags.toNat ++
    LE.bytes 4 h.counter.toNat ++ h.encodeSource ++ h.destination.encode

/-- The length of the source field. -/
def sourceLen (h : MessageHeader) : Nat := if h.source.isSome then 8 else 0

/-- `info` has the fields and the end of the header `h`. -/
structure Recovered (h : MessageHeader) (info : MatterMessageInfo) : Prop where
  sessionId_eq : info.sessionId = h.sessionId.toNat
  msgFlags_eq : info.msgFlags = h.flags
  secFlags_eq : info.secFlags = h.secFlags.toNat
  msgId_eq : info.msgId = h.counter.toNat
  srcNodeId_eq : info.srcNodeId = h.source.elim 0 UInt64.toNat
  destNodeId_eq : info.destNodeId = h.destination.nodeIdOrZero
  headerLen_eq : info.headerLen = 8 + h.sourceLen + h.destination.size

end MessageHeader

/-- A message behind its length, as TCP carries it. -/
def frameMessage (msg : List UInt8) : List UInt8 :=
  LE.bytes matterTCPMessageLengthFieldSize msg.length ++ msg

/-- A message as the transport hands it to `DissectMatter`. -/
def PortType.frame (ptype : PortType) (msg : List UInt8) : Tvb :=
  match ptype with
  | .tcp => Tvb.ofBytes (frameMessage msg)
  | .udp => Tvb.ofBytes msg

end Matter.Message
