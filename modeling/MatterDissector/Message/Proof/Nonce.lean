import MatterDissector.Message.Nonce
import MatterDissector.Message.Proof.Decrypt
import Mathlib.Data.List.Forall2

/-!
# The nonce is made of wire bytes

The header is read little-endian and the nonce is written little-endian, so the nonce of a message
with a source node id consists of its bytes (`shiftedNonce_wire`). A row of the user's table is
read big-endian, so it comes out reversed (`copyCb_checked`).
-/

namespace Matter.Message

open Prog

/-! ## Rows of the table -/

/-- One byte above a number that is short enough. -/
theorem shifted_or {b : UInt8} {k low : Nat} (h : low < 256 ^ k) :
    MessageNodeId.shifted b k ||| low = b.toNat * 256 ^ k + low ∧
      b.toNat * 256 ^ k + low < 256 ^ (k + 1) := by
  have hpow : (256 : Nat) ^ k = 2 ^ (k * 8) := by
    rw [Nat.mul_comm, Nat.pow_mul]
  have hb : b.toNat + 1 ≤ 256 := b.toNat_lt
  refine ⟨?_, ?_⟩
  · rw [MessageNodeId.shifted, ← Nat.shiftLeft_add_eq_or_of_lt (hpow ▸ h), Nat.shiftLeft_eq, hpow]
  · have hmul := Nat.mul_le_mul_right (256 ^ k) hb
    rw [Nat.add_mul, Nat.one_mul] at hmul
    rw [Nat.pow_succ]
    omega

/-- A row that the check admits is read from its end. -/
theorem copyCb_checked {row : List UInt8} (d : MessageNodeId)
    (h : MessageNodeId.nodeIdCheckCb row = true) :
    MessageNodeId.copyCb d ⟨row, 0⟩ = .ok ⟨row, LE.value row.reverse⟩ := by
  have hlen : row.length = 8 := by simpa [MessageNodeId.nodeIdCheckCb, nodeIdLength] using h
  match row, hlen with
  | [b₀, b₁, b₂, b₃, b₄, b₅, b₆, b₇], _ =>
    have h₇ : b₇.toNat < 256 ^ 1 := b₇.toNat_lt
    obtain ⟨e₆, h₆⟩ := @shifted_or b₆ 1 _ h₇
    obtain ⟨e₅, h₅⟩ := @shifted_or b₅ 2 _ h₆
    obtain ⟨e₄, h₄⟩ := @shifted_or b₄ 3 _ h₅
    obtain ⟨e₃, h₃⟩ := @shifted_or b₃ 4 _ h₄
    obtain ⟨e₂, h₂⟩ := @shifted_or b₂ 5 _ h₃
    obtain ⟨e₁, h₁⟩ := @shifted_or b₁ 6 _ h₂
    obtain ⟨e₀, -⟩ := @shifted_or b₀ 7 _ h₁
    simp only [MessageNodeId.copyCb, Nat.or_assoc, e₆, e₅, e₄, e₃, e₂, e₁, e₀]
    simp only [List.reverse_cons, List.reverse_nil, List.nil_append, List.cons_append, LE.value]
    congr 2
    omega

theorem copyRows_checked {rows : List (List UInt8)}
    (h : ∀ row ∈ rows, MessageNodeId.nodeIdCheckCb row = true) :
    MessageNodeId.copyRows rows = .ok (rows.map fun row => ⟨row, LE.value row.reverse⟩) := by
  induction rows with
  | nil => rfl
  | cons row rows ih =>
    have hrow := copyCb_checked ⟨[], 0⟩ (h row List.mem_cons_self)
    have hrows := ih fun row hmem => h row (List.mem_cons_of_mem _ hmem)
    rw [MessageNodeId.copyRows] at hrows
    rw [MessageNodeId.copyRows, List.mapM_cons, hrow, hrows]
    rfl

/-! ## The parsed header -/

/-- The bytes of a field of the message. -/
def wireField (msg : Tvb) (offset length : Nat) : List UInt8 :=
  (msg.bytes.drop offset).take length

/-- The S flag. -/
def hasSourceNodeId (msg : Tvb) : Prop :=
  LE.value (wireField msg 0 1) &&& messageFlagSourceNodeId ≠ 0

instance (msg : Tvb) : Decidable (hasSourceNodeId msg) :=
  inferInstanceAs (Decidable (_ ≠ _))

/-- Security flags and counter as they are in the message, and a node id. -/
def wireNonce (msg : Tvb) (nodeId : List UInt8) : List UInt8 :=
  wireField msg 3 1 ++ wireField msg 4 4 ++ nodeId

theorem length_wireField {msg : Tvb} {offset length : Nat}
    (h : offset + length ≤ msg.bytes.length) : (wireField msg offset length).length = length := by
  rw [wireField, List.length_take, List.length_drop]
  omega

theorem bytes_wireField {msg : Tvb} {offset length : Nat}
    (h : offset + length ≤ msg.bytes.length) :
    LE.bytes length (LE.value (wireField msg offset length)) = wireField msg offset length := by
  have hbytes := LE.bytes_value (wireField msg offset length)
  rwa [length_wireField h] at hbytes

section
variable {σ : Type} {s s' : σ} {ptype : PortType} {tvb msg : Tvb} {info : MatterMessageInfo}

/-- The fields of the nonce are numbers read off the message. -/
structure ReadFrom (msg : Tvb) (info : MatterMessageInfo) : Prop where
  fixed_le : 8 ≤ msg.bytes.length
  secFlags_eq : info.secFlags = LE.value (wireField msg 3 1)
  msgId_eq : info.msgId = LE.value (wireField msg 4 4)
  source : hasSourceNodeId msg →
    16 ≤ msg.bytes.length ∧ info.srcNodeId = LE.value (wireField msg 8 8)
  noSource : ¬ hasSourceNodeId msg → info.srcNodeId = 0

theorem dissectHeader_readFrom {msgLen : Nat}
    (h : (dissectHeader msgLen msg).run s = .ok info s') : ReadFrom msg info := by
  obtain ⟨msgFlags, _, hflags, h⟩ := bind_eq_ok.1 h
  obtain ⟨sessionId, _, -, h⟩ := bind_eq_ok.1 h
  obtain ⟨secFlags, _, hsecFlags, h⟩ := bind_eq_ok.1 h
  obtain ⟨msgId, _, hmsgId, h⟩ := bind_eq_ok.1 h
  obtain ⟨⟨srcNodeId, srcLen⟩, _, hsource, h⟩ := bind_eq_ok.1 h
  obtain ⟨⟨destNodeId, destLen⟩, _, -, h⟩ := bind_eq_ok.1 h
  cases h
  obtain ⟨-, hflags⟩ := Tvb.getLE_ok hflags
  obtain ⟨-, hsecFlags⟩ := Tvb.getLE_ok hsecFlags
  obtain ⟨hle, hmsgId⟩ := Tvb.getLE_ok hmsgId
  have hflag : (msgFlags &&& messageFlagSourceNodeId ≠ 0) = hasSourceNodeId msg := by
    rw [hflags]
    rfl
  unfold dissectNodeId at hsource
  refine ⟨hle, hsecFlags, hmsgId, fun hS => ?_, fun hS => ?_⟩
  · rw [if_pos (hflag ▸ hS)] at hsource
    obtain ⟨nodeId, _, hread, hpure⟩ := bind_eq_ok.1 hsource
    cases hpure
    exact Tvb.getLE_ok hread
  · rw [if_neg (hflag ▸ hS)] at hsource
    cases hsource
    rfl

theorem dissectMessage_readFrom (h : (dissectMessage ptype tvb).run s = .ok (msg, info) s') :
    ReadFrom msg info := by
  obtain ⟨⟨msgLen, msg'⟩, _, -, h⟩ := bind_eq_ok.1 h
  obtain ⟨info', _, hheader, h⟩ := bind_eq_ok.1 h
  cases h
  exact dissectHeader_readFrom hheader

namespace ReadFrom

theorem secFlags_lt (h : ReadFrom msg info) : info.secFlags < 256 ^ 1 := by
  have hlt := LE.value_lt (wireField msg 3 1)
  have hle := h.fixed_le
  rw [length_wireField (by omega)] at hlt
  rw [h.secFlags_eq]
  exact hlt

theorem msgId_lt (h : ReadFrom msg info) : info.msgId < 256 ^ 4 := by
  have hlt := LE.value_lt (wireField msg 4 4)
  have hle := h.fixed_le
  rw [length_wireField (by omega)] at hlt
  rw [h.msgId_eq]
  exact hlt

/-- A nonce with another node id than the header's. -/
theorem ccmNonce_eq (h : ReadFrom msg info) (nodeId : Nat) :
    ccmNonce { info with srcNodeId := nodeId } = wireNonce msg (LE.bytes 8 nodeId) := by
  have hle := h.fixed_le
  rw [ccmNonce, wireNonce, h.secFlags_eq, h.msgId_eq, bytes_wireField (by omega),
    bytes_wireField (by omega)]

end ReadFrom

theorem findSome?_congr {α β : Type} {f g : α → Option β} :
    ∀ {as : List α}, (∀ a ∈ as, f a = g a) → as.findSome? f = as.findSome? g
  | [], _ => rfl
  | a :: as, h => by
    rw [findSome?_cons_eq_or, findSome?_cons_eq_or, h a List.mem_cons_self,
      findSome?_congr fun b hb => h b (List.mem_cons_of_mem a hb)]

/-- `TryDecryptMessage_AES128CCM` with the nonce as an argument. -/
def decryptUnder (env : DecryptEnv) (encData : List UInt8) (encDataLen : Nat)
    (aad key nonce : List UInt8) : Option (List UInt8) :=
  if key.length ≠ dataEncKeyLengthAES128CCM then none
  else aesCcmDecrypt env
    { encData, encDataLen, aad, nonce, key
      ciphertextLength := sub32 encDataLen aesBlockSize
      tag := encDataLen - aesBlockSize }

/-- A key of the right length makes one call, with the nonce of the header. -/
theorem tryDecryptMessageAES128CCM_nonce (env : DecryptEnv) (encData : List UInt8)
    (encDataLen : Nat) (aad : List UInt8) (msgInfo : MatterMessageInfo)
    {key : MessageEncryptionKey} (st : DecryptState)
    (hkey : key.dataEncKey.length = dataEncKeyLengthAES128CCM) :
    ∃ call r, (tryDecryptMessageAES128CCM env encData encDataLen aad msgInfo key).run st =
      .ok r { st with calls := st.calls ++ [call] } ∧ call.nonce = shiftedNonce msgInfo := by
  unfold tryDecryptMessageAES128CCM
  rw [if_neg (not_not.2 hkey)]
  exact ⟨_, _, rfl, ccmNonce_eq_shifted msgInfo⟩

namespace ReadFrom

theorem shiftedNonce_source (h : ReadFrom msg info) (hS : hasSourceNodeId msg) :
    shiftedNonce info = wireNonce msg (wireField msg 8 8) := by
  obtain ⟨hle, heq⟩ := h.source hS
  calc shiftedNonce info
      = ccmNonce { info with srcNodeId := info.srcNodeId } := (ccmNonce_eq_shifted info).symm
    _ = wireNonce msg (LE.bytes 8 info.srcNodeId) := h.ccmNonce_eq info.srcNodeId
    _ = wireNonce msg (wireField msg 8 8) := by rw [heq, bytes_wireField (by omega)]

/-- The node id of a row comes out as the row reversed. -/
theorem ccmNonce_row (h : ReadFrom msg info) {row : List UInt8}
    (hrow : MessageNodeId.nodeIdCheckCb row = true) :
    ccmNonce { info with srcNodeId := LE.value row.reverse } = wireNonce msg row.reverse := by
  have hlen : row.reverse.length = 8 := by
    simpa [MessageNodeId.nodeIdCheckCb, nodeIdLength] using hrow
  have hbytes := LE.bytes_value row.reverse
  rw [hlen] at hbytes
  rw [h.ccmNonce_eq, hbytes]

theorem tryUserNodeIds_rows (h : ReadFrom msg info) {rows : List (List UInt8)}
    (hrows : ∀ row ∈ rows, MessageNodeId.nodeIdCheckCb row = true) (env : DecryptEnv)
    (encData : List UInt8) (encDataLen : Nat) (aad : List UInt8) (key : MessageEncryptionKey) :
    Finds (tryUserNodeIds (tryDecryptMessageAES128CCM env encData encDataLen aad) info key
        (rows.map fun row => LE.value row.reverse))
      (rows.findSome? fun row =>
        (decryptUnder env encData encDataLen aad key.dataEncKey (wireNonce msg row.reverse)).map
          (·, { key with srcNodeId := LE.value row.reverse })) := by
  have hfinds := @tryUserNodeIds_finds (tryDecryptMessageAES128CCM env encData encDataLen aad)
    (decryptWith env encData encDataLen aad info) info
    (fun nodeId key => tryDecryptMessageAES128CCM_finds env encData encDataLen aad
      { info with srcNodeId := nodeId } key) key (rows.map fun row => LE.value row.reverse)
  have hsame : ∀ row ∈ rows,
      decryptWith env encData encDataLen aad info (key.dataEncKey, LE.value row.reverse) =
        decryptUnder env encData encDataLen aad key.dataEncKey (wireNonce msg row.reverse) := by
    intro row hrow
    rw [decryptWith, decryptUnder, h.ccmNonce_row (hrows row hrow)]
  rw [List.findSome?_map] at hfinds
  rwa [findSome?_congr (g := fun row => (decryptUnder env encData encDataLen aad key.dataEncKey
    (wireNonce msg row.reverse)).map (·, { key with srcNodeId := LE.value row.reverse }))
    fun row hrow => by rw [Function.comp_apply, hsame row hrow]] at hfinds

theorem eq_of_ccmNonce_eq (h : ReadFrom msg info) {msg' : Tvb} {info' : MatterMessageInfo}
    (h' : ReadFrom msg' info') {nodeId nodeId' : Nat} (hid : nodeId < 2 ^ 64)
    (hid' : nodeId' < 2 ^ 64)
    (heq : ccmNonce { info with srcNodeId := nodeId } =
      ccmNonce { info' with srcNodeId := nodeId' }) :
    info.secFlags = info'.secFlags ∧ info.msgId = info'.msgId ∧ nodeId = nodeId' := by
  obtain ⟨hfront, hback⟩ := List.append_inj heq (by simp)
  obtain ⟨hsec, hctr⟩ := List.append_inj hfront (by simp)
  exact ⟨LE.bytes_injective h.secFlags_lt h'.secFlags_lt hsec,
    LE.bytes_injective h.msgId_lt h'.msgId_lt hctr, LE.bytes_injective hid hid' hback⟩

end ReadFrom

/-- The nonce of a message with a source node id is security flags, counter and source node id as
they are in the message; a row of the user's table takes the place of the id reversed; and nonces
tell messages apart by these three. -/
theorem nonce_wireBytes (h : (dissectMessage ptype tvb).run s = .ok (msg, info) s') :
    (hasSourceNodeId msg →
      ∀ (env : DecryptEnv) (encData : List UInt8) (encDataLen : Nat) (aad : List UInt8)
        (key : MessageEncryptionKey) (st : DecryptState),
        key.dataEncKey.length = dataEncKeyLengthAES128CCM →
        ∃ call r, (tryDecryptMessageAES128CCM env encData encDataLen aad info key).run st =
            .ok r { st with calls := st.calls ++ [call] } ∧
          call.nonce = wireNonce msg (wireField msg 8 8) ∧ call.nonce.length = 13) ∧
    (¬ hasSourceNodeId msg → info.srcNodeId = 0 ∧
      ∀ rows : List (List UInt8), (∀ row ∈ rows, MessageNodeId.nodeIdCheckCb row = true) →
        ∃ ids, MessageNodeId.copyRows rows = .ok ids ∧
          List.Forall₂ (fun row id =>
            shiftedNonce { info with srcNodeId := id.nodeId } = wireNonce msg row.reverse) rows ids ∧
          ∀ (env : DecryptEnv) (encData : List UInt8) (encDataLen : Nat) (aad : List UInt8)
            (key : MessageEncryptionKey),
            Finds (tryUserNodeIds (tryDecryptMessageAES128CCM env encData encDataLen aad) info key
                (ids.map MessageNodeId.nodeId))
              (rows.findSome? fun row =>
                (decryptUnder env encData encDataLen aad key.dataEncKey
                  (wireNonce msg row.reverse)).map
                  (·, { key with srcNodeId := LE.value row.reverse }))) ∧
    ∀ {ptype' : PortType} {tvb' msg' : Tvb} {info' : MatterMessageInfo} {t t' : σ},
      (dissectMessage ptype' tvb').run t = .ok (msg', info') t' →
      ∀ nodeId nodeId' : UInt64,
        shiftedNonce { info with srcNodeId := nodeId.toNat } =
            shiftedNonce { info' with srcNodeId := nodeId'.toNat } →
          info.secFlags = info'.secFlags ∧ info.msgId = info'.msgId ∧ nodeId = nodeId' := by
  have hread := dissectMessage_readFrom h
  have hle := hread.fixed_le
  refine ⟨fun hS env encData encDataLen aad key st hkey => ?_, fun hS => ?_, ?_⟩
  · obtain ⟨call, r, hrun, hnonce⟩ :=
      tryDecryptMessageAES128CCM_nonce env encData encDataLen aad info st hkey
    have hlength : (shiftedNonce info).length = 13 := rfl
    exact ⟨call, r, hrun, hnonce.trans (hread.shiftedNonce_source hS), hnonce ▸ hlength⟩
  · refine ⟨hread.noSource hS, fun rows hrows => ⟨_, copyRows_checked hrows, ?_, ?_⟩⟩
    · rw [List.forall₂_map_right_iff, List.forall₂_same]
      intro row hrow
      exact (ccmNonce_eq_shifted _).symm.trans (hread.ccmNonce_row (hrows row hrow))
    · intro env encData encDataLen aad key
      rw [List.map_map]
      exact hread.tryUserNodeIds_rows hrows env encData encDataLen aad key
  · intro ptype' tvb' msg' info' t t' h' nodeId nodeId' heq
    rw [← ccmNonce_eq_shifted, ← ccmNonce_eq_shifted] at heq
    obtain ⟨hsec, hctr, hid⟩ := hread.eq_of_ccmNonce_eq (dissectMessage_readFrom h')
      nodeId.toNat_lt nodeId'.toNat_lt heq
    exact ⟨hsec, hctr, UInt64.toNat_inj.1 hid⟩

end

/-- A message of node 0x0807060504030201. -/
def sourceMessage : Tvb :=
  Tvb.ofBytes [0x04, 0x01, 0x00, 0x80, 0x07, 0x00, 0x00, 0x00, 1, 2, 3, 4, 5, 6, 7, 8]

/-- The message without the source node id. -/
def anonymousMessage : Tvb := Tvb.ofBytes [0x00, 0x01, 0x00, 0x80, 0x07, 0x00, 0x00, 0x00]

def anonymousInfo : MatterMessageInfo where
  msgVersion := 0
  msgFlags := 0
  secFlags := 0x80
  srcNodeId := 0
  destNodeId := 0
  msgId := 7
  sessionType := 0
  sessionId := 1
  msgLen := 8
  headerLen := 8

/-- The header's node id and the row that the user enters for it give one nonce; another row does
not. -/
theorem nonce_wireBytes_row :
    (∃ call r, (tryDecryptMessageAES128CCM oneKeyEnv [] 0 []
        { anonymousInfo with
          msgFlags := 4, srcNodeId := 0x0807060504030201, msgLen := 16, headerLen := 16 }
        ⟨1, encryptionTypeAES128CCM, List.replicate 16 0, 0⟩).run emptyDecryptState =
          .ok r { emptyDecryptState with calls := emptyDecryptState.calls ++ [call] } ∧
        call.nonce = [0x80, 7, 0, 0, 0, 1, 2, 3, 4, 5, 6, 7, 8] ∧ call.nonce.length = 13) ∧
      (∃ ids, MessageNodeId.copyRows [[8, 7, 6, 5, 4, 3, 2, 1]] = .ok ids ∧
        List.Forall₂ (fun row id =>
          shiftedNonce { anonymousInfo with srcNodeId := id.nodeId } =
            wireNonce anonymousMessage row.reverse) [[8, 7, 6, 5, 4, 3, 2, 1]] ids) ∧
      shiftedNonce { anonymousInfo with srcNodeId := 1 } ≠
        shiftedNonce { anonymousInfo with srcNodeId := 2 } := by
  have hsource : (dissectMessage .udp sourceMessage).run () =
      .ok (sourceMessage, { anonymousInfo with
        msgFlags := 4, srcNodeId := 0x0807060504030201, msgLen := 16, headerLen := 16 }) () := by
    decide +kernel
  have hanonymous : (dissectMessage .udp anonymousMessage).run () =
      .ok (anonymousMessage, anonymousInfo) () := by decide +kernel
  refine ⟨?_, ?_, fun heq => ?_⟩
  · exact (nonce_wireBytes hsource).1 (by decide +kernel) oneKeyEnv [] 0 []
      ⟨1, encryptionTypeAES128CCM, List.replicate 16 0, 0⟩ emptyDecryptState (by decide +kernel)
  · obtain ⟨-, hrows⟩ := (nonce_wireBytes hanonymous).2.1 (by decide +kernel)
    obtain ⟨ids, hcopy, hnonces, -⟩ := hrows [[8, 7, 6, 5, 4, 3, 2, 1]] (by decide)
    exact ⟨ids, hcopy, hnonces⟩
  · obtain ⟨-, -, hid⟩ := (nonce_wireBytes hanonymous).2.2 hanonymous 1 2 heq
    exact absurd hid (by decide)

end Matter.Message
