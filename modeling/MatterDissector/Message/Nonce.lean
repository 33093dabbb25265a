import MatterDissector.Message.Proof.Candidates

/-!
# The nonce

`TryDecryptMessage_AES128CCM` (`packet-matter-decrypt.cpp`) shifts the bytes of the nonce out of
the parsed header, and `MessageNodeId_copy_cb` (`UserNodeIdPrefs.cpp`) shifts the bytes of a row of
the user's table into the node id that may take the place of the header's.
-/

namespace Matter.Message

/-- `(uint8_t) (v >> (k * 8))`. -/
def byteOf (v k : Nat) : UInt8 := UInt8.ofNat (v >>> (k * 8))

/-- `nonce`, as `TryDecryptMessage_AES128CCM` fills it. -/
def shiftedNonce (msgInfo : MatterMessageInfo) : List UInt8 :=
  [UInt8.ofNat msgInfo.secFlags,
    byteOf msgInfo.msgId 0,
    byteOf msgInfo.msgId 1,
    byteOf msgInfo.msgId 2,
    byteOf msgInfo.msgId 3,
    byteOf msgInfo.srcNodeId 0,
    byteOf msgInfo.srcNodeId 1,
    byteOf msgInfo.srcNodeId 2,
    byteOf msgInfo.srcNodeId 3,
    byteOf msgInfo.srcNodeId 4,
    byteOf msgInfo.srcNodeId 5,
    byteOf msgInfo.srcNodeId 6,
    byteOf msgInfo.srcNodeId 7]

/-- The two assemblies of the nonce agree. -/
theorem ccmNonce_eq_shifted (msgInfo : MatterMessageInfo) :
    ccmNonce msgInfo = shiftedNonce msgInfo := by
  simp [ccmNonce, shiftedNonce, byteOf, LE.bytes, Nat.shiftRight_eq_div_pow,
    Nat.div_div_eq_div_mul]

/-! ## The user's node ids -/

/-- `kNodeIdLength`. -/
def nodeIdLength : Nat := 8

/-- `MessageNodeId`: a row of the table; `dataNodeIdLen` is the length of the list. -/
structure MessageNodeId where
  dataNodeId : List UInt8
  nodeId : Nat
  deriving DecidableEq, Repr

namespace MessageNodeId

/-- `MessageNodeId_nodeId_check_cb`. -/
def nodeIdCheckCb (dataNodeId : List UInt8) : Bool := dataNodeId.length == nodeIdLength

/-- `(uint64_t)(uint8_t)b << (k * 8)`. -/
def shifted (b : UInt8) (k : Nat) : Nat := b.toNat <<< (k * 8)

/-- `MessageNodeId_copy_cb`. -/
def copyCb (d o : MessageNodeId) : Except Fault MessageNodeId :=
  match o.dataNodeId with
  | [] => .ok d
  | b₀ :: b₁ :: b₂ :: b₃ :: b₄ :: b₅ :: b₆ :: b₇ :: _ =>
    .ok
      { dataNodeId := o.dataNodeId
        nodeId := shifted b₀ 7 ||| shifted b₁ 6 ||| shifted b₂ 5 ||| shifted b₃ 4 |||
          shifted b₄ 3 ||| shifted b₅ 2 ||| shifted b₆ 1 ||| b₇.toNat }
  | _ => .error .outOfBoundsRead

/-- The rows as the table keeps them, each copied to a fresh record. -/
def copyRows (rows : List (List UInt8)) : Except Fault (List MessageNodeId) :=
  rows.mapM fun row => copyCb ⟨[], 0⟩ ⟨row, 0⟩

end MessageNodeId

end Matter.Message
