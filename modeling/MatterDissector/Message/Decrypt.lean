import MatterDissector.Message.Header

/-!
# Decryption

`TryDecryptMessage` (`packet-matter.cpp`), `TryDecryptMessage_AES128CCM` and `AES_CCM_decrypt`
(`packet-matter-decrypt.cpp`) and the key table (`MessageEncryptionKey.cpp`). OpenSSL is a
parameter (`DecryptEnv.evpDecrypt`); every call that reaches the slicing of the encrypted data is
kept in `DecryptState.calls`.

The text of the hint file is parsed in `Message.HintFile`: the type `HintFile` is what
`RefreshMatterProxyHintKeys` finds at the path of the preference.
-/

namespace Matter.Message

open Prog

def dataEncKeyLengthAES128CCM : Nat := 16
def encryptionTypeAES128CCM : Nat := 1
def aesBlockSize : Nat := 16
def intMax : Nat := 2 ^ 31 - 1

/-! ## Keys -/

/-- `MessageEncryptionKey`: `dataEncKeyLen` is the length of the list, `nextKey` the next entry
of the table's list. -/
structure MessageEncryptionKey where
  keyId : Nat
  sessionType : Nat
  dataEncKey : List UInt8
  srcNodeId : Nat
  deriving DecidableEq, Repr

def MessageEncryptionKey.isSameKey (key other : MessageEncryptionKey) : Bool :=
  key.sessionType == other.sessionType && key.dataEncKey == other.dataEncKey

/-- `MatterProxyHintKey`; `key` is an array of 16 bytes. -/
structure MatterProxyHintKey where
  hasKeyId : Bool
  keyId : Nat
  hasSrcNodeId : Bool
  srcNodeId : Nat
  key : List UInt8
  length_key : key.length = dataEncKeyLengthAES128CCM
  deriving DecidableEq

/-- `MessageEncryptionKeyTable`: the list of every key id. -/
abbrev KeyTable := Nat → List MessageEncryptionKey

/-- `FindKeysById`. -/
def KeyTable.findKeysById (table : KeyTable) (keyId : Nat) : List MessageEncryptionKey :=
  table keyId

/-- `AddKey`: at the head of its list, unless the list has it. -/
def KeyTable.addKey (table : KeyTable) (keyData : MessageEncryptionKey) : KeyTable :=
  let existingKeys := table keyData.keyId
  if existingKeys.any (·.isSameKey keyData) then table
  else fun id => if id = keyData.keyId then keyData :: existingKeys else table id

/-! ## The cipher -/

/-- The arguments that `TryDecryptMessage_AES128CCM` passes to `AES_CCM_decrypt`; `tag` is the
offset of the tag in `encData`. -/
structure CcmCall where
  encData : List UInt8
  encDataLen : Nat
  ciphertextLength : Nat
  tag : Int
  aad : List UInt8
  nonce : List UInt8
  key : List UInt8
  deriving DecidableEq, Repr

namespace CcmCall

/-- The argument checks of `AES_CCM_decrypt` that come before the first OpenSSL call. -/
def checkArgs (call : CcmCall) : Bool :=
  !call.encData.isEmpty && decide (0 < call.ciphertextLength) &&
    (call.key.length == 16 || call.key.length == 32)

/-- `CanCastTo<int>(ciphertext_length)`, checked once the tag has been handed over. -/
def checkLength (call : CcmCall) : Bool := call.ciphertextLength ≤ intMax

/-- The ranges of `encData` that the OpenSSL calls read: offset and length. -/
def reads (call : CcmCall) : List (Int × Nat) :=
  if call.checkArgs then
    (call.tag, aesBlockSize) ::
      if call.checkLength then [(0, call.ciphertextLength)] else []
  else []

/-- The tag and the ciphertext are slices of the encrypted data. -/
structure InBounds (call : CcmCall) : Prop where
  tag_nonneg : 0 ≤ call.tag
  tag_le : call.tag + aesBlockSize ≤ call.encData.length
  ciphertextLength_eq : call.ciphertextLength + aesBlockSize = call.encDataLen
  reads_nonneg : ∀ range ∈ call.reads, 0 ≤ range.1

end CcmCall

/-- What `RefreshMatterProxyHintKeys` finds: no file, the one it has read, or a new one. -/
inductive HintFile where
  | missing
  | unchanged
  | loaded (hints : List MatterProxyHintKey)

/-- What the run depends on: the preferences, the hint file, the memory that `g_malloc` returns
and the cipher (key, nonce, AAD, tag, ciphertext). -/
structure DecryptEnv where
  userKeys : List MessageEncryptionKey
  userNodeIds : List Nat
  hintFile : HintFile
  malloc : Nat → List UInt8
  evpDecrypt : List UInt8 → List UInt8 → List UInt8 → List UInt8 → List UInt8 →
    Option (List UInt8)

structure DecryptState where
  keyTable : KeyTable
  hintKeysFromFile : List MatterProxyHintKey
  hintKeysFromDSB : List MatterProxyHintKey
  calls : List CcmCall

abbrev DecryptM := Prog TvbError Fault DecryptState

/-- `AES_CCM_decrypt`. -/
def aesCcmDecrypt (env : DecryptEnv) (call : CcmCall) : Option (List UInt8) :=
  if call.checkArgs && call.checkLength then
    env.evpDecrypt call.key call.nonce call.aad
      ((call.encData.drop call.tag.toNat).take aesBlockSize)
      (call.encData.take call.ciphertextLength)
  else none

/-- The nonce: security flags, message counter and source node id. -/
def ccmNonce (msgInfo : MatterMessageInfo) : List UInt8 :=
  LE.bytes 1 msgInfo.secFlags ++ LE.bytes 4 msgInfo.msgId ++ LE.bytes 8 msgInfo.srcNodeId

/-- `TryDecryptMessage_AES128CCM`. -/
def tryDecryptMessageAES128CCM (env : DecryptEnv) (encData : List UInt8) (encDataLen : Nat)
    (aad : List UInt8) (msgInfo : MatterMessageInfo) (key : MessageEncryptionKey) :
    DecryptM (Option (List UInt8)) := do
  if key.dataEncKey.length ≠ dataEncKeyLengthAES128CCM then pure none
  else
    let call : CcmCall :=
      { encData, encDataLen, aad
        ciphertextLength := sub32 encDataLen aesBlockSize
        tag := encDataLen - aesBlockSize
        nonce := ccmNonce msgInfo
        key := key.dataEncKey }
    modify fun st => { st with calls := st.calls ++ [call] }
    pure (aesCcmDecrypt env call)

/-! ## The search for a key -/

def addKey (key : MessageEncryptionKey) : DecryptM Unit :=
  modify fun st => { st with keyTable := st.keyTable.addKey key }

/-- `PreloadHintKeyBySessionId`. -/
def KeyTable.preloadHintKey (table : KeyTable) (hint : MatterProxyHintKey) : KeyTable :=
  if hint.hasKeyId then
    table.addKey
      { keyId := hint.keyId
        sessionType := encryptionTypeAES128CCM
        dataEncKey := hint.key
        srcNodeId := if hint.hasSrcNodeId then hint.srcNodeId else 0 }
  else table

/-- `RefreshMatterProxyHintKeys`. -/
def DecryptState.refreshMatterProxyHintKeys (st : DecryptState) : HintFile → DecryptState
  | .missing => { st with hintKeysFromFile := [] }
  | .unchanged => st
  | .loaded hints =>
    { st with
      hintKeysFromFile := hints
      keyTable := hints.foldl KeyTable.preloadHintKey st.keyTable }

/-- `MessageIsEncrypted`. -/
def messageIsEncrypted (msgInfo : MatterMessageInfo) : Bool :=
  !(msgInfo.sessionType == sessionTypeUnicast && msgInfo.sessionId == sessionIdUnsecured)

section
/- one attempt: message info (with the source node id to use) and key -/
variable (attempt : MatterMessageInfo → MessageEncryptionKey → DecryptM (Option (List UInt8)))
  (msgInfo : MatterMessageInfo)

/-- The loop over the keys of the session id. -/
def tryTableKeys : List MessageEncryptionKey → DecryptM (Option (List UInt8))
  | [] => pure none
  | key :: keys =>
    (if key.srcNodeId ≠ 0 ∧ msgInfo.srcNodeId = 0 then
      attempt { msgInfo with srcNodeId := key.srcNodeId } key
    else attempt msgInfo key).orElse (tryTableKeys keys)

/-- The loop over the user's node ids for one of his keys. -/
def tryUserNodeIds (userPrefKey : MessageEncryptionKey) :
    List Nat → DecryptM (Option (List UInt8 × MessageEncryptionKey))
  | [] => pure none
  | nodeId :: nodeIds =>
    ((attempt { msgInfo with srcNodeId := nodeId } userPrefKey).mapFound
      (·, { userPrefKey with srcNodeId := nodeId })).orElse
    (tryUserNodeIds userPrefKey nodeIds)

/-- The loop over the user's keys: the plaintext and the key that gave it. -/
def tryUserKeys (nodeIds : List Nat) :
    List MessageEncryptionKey → DecryptM (Option (List UInt8 × MessageEncryptionKey))
  | [] => pure none
  | key :: keys =>
    let userPrefKey := { key with srcNodeId := msgInfo.srcNodeId }
    ((attempt msgInfo userPrefKey).mapFound (·, userPrefKey)).orElse <|
      (if msgInfo.srcNodeId = 0 then tryUserNodeIds attempt msgInfo userPrefKey nodeIds
      else pure none).orElse <|
      tryUserKeys nodeIds keys

/-- The key that a hint stands for in the session of the message. -/
def hintKeyFor (hint : MatterProxyHintKey) : MessageEncryptionKey where
  keyId := msgInfo.sessionId
  sessionType := encryptionTypeAES128CCM
  dataEncKey := hint.key
  srcNodeId := if hint.hasSrcNodeId then hint.srcNodeId else msgInfo.srcNodeId

/-- The loop over the hint keys. -/
def tryHintKeys : List MatterProxyHintKey → DecryptM (Option (List UInt8 × MessageEncryptionKey))
  | [] => pure none
  | hint :: hints =>
    if hint.hasKeyId ∧ hint.keyId ≠ msgInfo.sessionId then tryHintKeys hints
    else
      let hintKey := hintKeyFor msgInfo hint
      ((attempt msgInfo hintKey).mapFound (·, hintKey)).orElse <|
        (if msgInfo.srcNodeId = 0 ∧ hint.hasSrcNodeId then
          (attempt { msgInfo with srcNodeId := hint.srcNodeId } hintKey).mapFound (·, hintKey)
        else pure none).orElse <|
        tryHintKeys hints

/-- A key found outside the table is added to it under the session id. -/
def learnKey (search : DecryptM (Option (List UInt8 × MessageEncryptionKey))) :
    DecryptM (Option (List UInt8)) := do
  match ← search with
  | some (unencData, key) =>
    addKey { key with keyId := msgInfo.sessionId }
    pure (some unencData)
  | none => pure none

/-- The search of `TryDecryptMessage`: the table, the user's keys, the hint keys. -/
def searchKeys (env : DecryptEnv) : DecryptM (Option (List UInt8)) :=
  (get >>= fun st =>
    tryTableKeys attempt msgInfo (st.keyTable.findKeysById msgInfo.sessionId)).orElse <|
  (learnKey msgInfo (tryUserKeys attempt msgInfo env.userNodeIds env.userKeys)).orElse <|
  (get >>= fun st =>
    learnKey msgInfo (tryHintKeys attempt msgInfo (st.hintKeysFromFile ++ st.hintKeysFromDSB)))

end

/-- `TryDecryptMessage`: the decrypted buffer, which keeps what `g_malloc` left behind the
plaintext. -/
def tryDecryptMessage (env : DecryptEnv) (tvb : Tvb) (encDataOffset : Nat)
    (msgInfo : MatterMessageInfo) : DecryptM (Option Tvb) := do
  if messageIsEncrypted msgInfo then
    modify (·.refreshMatterProxyHintKeys env.hintFile)
    let dataLen := sub32 msgInfo.msgLen encDataOffset
    let encData ← tvb.memdup encDataOffset dataLen
    let aadData ← tvb.memdup 0 encDataOffset
    let unencData := env.malloc dataLen
    match ← searchKeys (tryDecryptMessageAES128CCM env encData dataLen aadData) msgInfo env with
    | some plaintext =>
      pure (some ⟨plaintext ++ unencData.drop plaintext.length, dataLen⟩)
    | none => pure none
  else pure none

end Matter.Message
