import MatterDissector.Message.Proof.Keys
import MatterDissector.Message.Protocol

/-!
# The bytes behind the plaintext

The decrypted buffer is as long as the encrypted data, and the cipher writes all but the last 16
bytes (`length_of_findPlaintext`); those are what `g_malloc` has left there. The last item that
`DissectMatter` shows of the buffer ends among them, whatever the plaintext
(`dissectProtocol_tail`): it is the integrity check, or, where the plaintext is shorter than the
protocol header, the end of the header. So what is shown of a message that decrypts always depends
on them (`not_independentOfMalloc`).
-/

namespace Matter.Message

open Prog

/-! ## What is shown last -/

/-- The trailer is the tag. -/
def HasTrailer (s : ProtocolState) : Prop := s.info.trailerLen = cryptoTagLength

/-- The last item shown ends before `parsePoint`. -/
def EndsAt (tvb : Tvb) (parsePoint : Nat) (s : ProtocolState) : Prop :=
  ∃ item, s.items.getLast? = some item ∧ item.bytes.getLast? = tvb.bytes[parsePoint - 1]?

/-- The last item shown ends in the 16 bytes behind the first `n`. -/
def EndsBehind (tvb : Tvb) (n : Nat) (s : ProtocolState) : Prop :=
  ∃ parsePoint, n < parsePoint ∧ parsePoint ≤ n + cryptoTagLength ∧ EndsAt tvb parsePoint s

section
variable {tvb : Tvb} {E : TvbError → ProtocolState → Prop}

theorem getLast?_slice {bytes : List UInt8} {start length : Nat} (hlength : 0 < length)
    (hle : start + length ≤ bytes.length) :
    ((bytes.drop start).take length).getLast? = bytes[start + length - 1]? := by
  have hlen : ((bytes.drop start).take length).length = length := by
    rw [List.length_take, List.length_drop]
    omega
  rw [List.getLast?_eq_getElem?, hlen, List.getElem?_take_of_lt (by omega), List.getElem?_drop]
  congr 1
  omega

theorem getLE_triple {P : ProtocolState → Prop} {k offset : Nat}
    (hle : offset + k ≤ tvb.bytes.length) :
    Triple P (Tvb.getLE k tvb offset) (fun _ => P) E := by
  rw [Tvb.getLE, if_pos hle]
  exact .pure fun _ hs => hs

theorem setInfo_bind {α : Type} {f : ProtocolInfo → ProtocolInfo} {k : Unit → ProtocolM α}
    {Q : α → ProtocolState → Prop} (hf : ∀ info, (f info).trailerLen = info.trailerLen)
    (hk : Triple HasTrailer (k ()) Q E) : Triple HasTrailer (setInfo f >>= k) Q E := by
  have hset : Triple HasTrailer (setInfo f) (fun _ => HasTrailer) E :=
    .modify fun s hs => (hf s.info).trans hs
  exact hset.bind fun _ => hk

theorem addItem_triple {field : ProtocolField} {start length : Nat} (hlength : 0 < length)
    (hle : start + length ≤ tvb.bytes.length) :
    Triple HasTrailer (addItem tvb field start length)
      (fun _ s => HasTrailer s ∧ EndsAt tvb (start + length) s) E := by
  unfold addItem Tvb.getBytes
  rw [if_pos hle]
  refine .modify fun s hs => ⟨hs, ⟨field, start, (tvb.bytes.drop start).take length⟩, ?_, ?_⟩
  · exact List.getLast?_concat
  · exact getLast?_slice hlength hle

/-- An item that is not the last. -/
theorem addItem_keeps {field : ProtocolField} {start length : Nat} (hlength : 0 < length)
    (hle : start + length ≤ tvb.bytes.length) :
    Triple HasTrailer (addItem tvb field start length) (fun _ => HasTrailer) E :=
  (addItem_triple hlength hle).conseq (fun _ hs => hs) (fun _ _ hs => hs.1) fun _ _ hs => hs

theorem forM_triple {α : Type} {P : ProtocolState → Prop} {f : α → ProtocolM PUnit}
    (hf : ∀ a, Triple P (f a) (fun _ => P) E) (as : List α) :
    Triple P (as.forM f) (fun _ => P) E := by
  induction as with
  | nil => exact .pure fun _ hs => hs
  | cons a as ih => exact (hf a).bind fun _ => ih

/-! ## The header -/

theorem readVendorId_triple {exchHeader parsePoint : Nat}
    (hle : parsePoint + 2 ≤ tvb.bytes.length) :
    Triple HasTrailer (readVendorId tvb exchHeader parsePoint) (fun _ => HasTrailer) E := by
  unfold readVendorId
  refine .ite (fun _ => ?_) fun _ => .pure fun _ hs => hs
  refine (getLE_triple hle).bind fun msgProtocolVendorId => ?_
  refine setInfo_bind (fun _ => rfl) ?_
  exact .pure fun _ hs => hs

theorem readProtocolHeader_triple (hlen : 8 ≤ tvb.bytes.length) :
    Triple HasTrailer (readProtocolHeader tvb) (fun _ => HasTrailer) E := by
  unfold readProtocolHeader
  refine (getLE_triple (by omega)).bind fun exchHeader => ?_
  refine setInfo_bind (fun _ => rfl) ?_
  refine (forM_triple (fun field => addItem_keeps Nat.one_pos (by omega)) _).bind fun _ => ?_
  refine (getLE_triple (by omega)).bind fun msgType => ?_
  refine setInfo_bind (fun _ => rfl) ?_
  refine (getLE_triple (by omega)).bind fun exchId => ?_
  refine setInfo_bind (fun _ => rfl) ?_
  refine (getLE_triple (by omega)).bind fun msgProtocolId => ?_
  refine setInfo_bind (fun _ => rfl) ?_
  refine (readVendorId_triple (by omega)).bind fun parsePoint => ?_
  exact .pure fun _ hs => hs

/-- After the second pass the items end where the pass does. -/
theorem showProtocolHeader_triple (exchHeader : Nat) (hlen : 8 ≤ tvb.bytes.length) :
    Triple HasTrailer (showProtocolHeader tvb exchHeader)
      (fun parsePoint s => HasTrailer s ∧ EndsAt tvb parsePoint s ∧ parsePoint ≤ 8) E := by
  unfold showProtocolHeader
  refine (addItem_keeps Nat.one_pos (by omega)).bind fun _ => ?_
  refine (addItem_keeps Nat.two_pos (by omega)).bind fun _ => ?_
  refine (addItem_triple Nat.two_pos (by omega)).bind fun _ => ?_
  unfold showVendorId
  refine .ite (fun _ => ?_) fun _ => ?_
  · have hkeep : Triple (fun s => HasTrailer s ∧ EndsAt tvb (1 + 1 + 2 + 2) s)
        (addItem tvb .protocolVendorId (1 + 1 + 2 + 2) 2)
        (fun _ s => HasTrailer s ∧ EndsAt tvb (1 + 1 + 2 + 2 + 2) s) E :=
      (addItem_triple Nat.two_pos (by omega)).conseq (fun _ hs => hs.1) (fun _ _ hs => hs)
        fun _ _ hs => hs
    exact hkeep.bind fun _ => .pure fun _ hs => ⟨hs.1, hs.2, Nat.le_refl _⟩
  · exact .pure fun _ hs => ⟨hs.1, hs.2, by omega⟩

theorem dissectAckMsgCntr_triple (exchHeader : Nat) {parsePoint : Nat} (hpoint : parsePoint ≤ 8)
    (hlen : 12 ≤ tvb.bytes.length) :
    Triple (fun s => HasTrailer s ∧ EndsAt tvb parsePoint s)
      (dissectAckMsgCntr tvb exchHeader parsePoint)
      (fun payloadOffset s => HasTrailer s ∧ EndsAt tvb payloadOffset s ∧ payloadOffset ≤ 12)
      E := by
  unfold dissectAckMsgCntr
  refine .ite (fun _ => ?_) fun _ => .pure fun _ hs => ⟨hs.1, hs.2, by omega⟩
  have hread : Triple (fun s => HasTrailer s ∧ EndsAt tvb parsePoint s)
      (tvb.getLetohl parsePoint) (fun _ => HasTrailer) E :=
    (getLE_triple (by omega)).conseq (fun _ hs => hs.1) (fun _ _ hs => hs) fun _ _ hs => hs
  refine hread.bind fun ackMsgCntr => ?_
  refine setInfo_bind (fun _ => rfl) ?_
  refine (addItem_triple (by omega) (by omega)).bind fun _ => ?_
  exact .pure fun _ hs => ⟨hs.1, hs.2, by omega⟩

/-! ## Behind the header -/

theorem addItem_err {field : ProtocolField} {start length : Nat} (s : ProtocolState)
    (h : tvb.bytes.length < start + length) :
    (addItem tvb field start length).run s = .err .outOfRange s := by
  unfold addItem Tvb.getBytes
  rw [if_neg (by omega)]
  rfl

/-- The length of the payload: it wraps where the header is longer than the plaintext. -/
theorem payloadLen_eq {n payloadOffset : Nat} (hn : n < 2 ^ 16) (hoffset : payloadOffset ≤ 12) :
    sub32 (n + 16) (payloadOffset + 16) % 2 ^ 16 =
      if payloadOffset ≤ n then n - payloadOffset else 2 ^ 16 + n - payloadOffset := by
  unfold sub32
  split <;> omega

theorem dissectPayload_tail {n payloadOffset : Nat} (hn : n < 2 ^ 16)
    (hlen : tvb.bytes.length = n + cryptoTagLength) (hoffset : payloadOffset ≤ 12) :
    Triple (fun s => HasTrailer s ∧ EndsAt tvb payloadOffset s)
      (dissectPayload tvb true payloadOffset)
      (fun _ => EndsBehind tvb n) (fun _ => EndsBehind tvb n) := by
  unfold cryptoTagLength at hlen
  refine .of_each fun _ hs => ?_
  rintro s rfl
  obtain ⟨htrailer, hends⟩ := hs
  have hpayload : sub32 tvb.bytes.length (payloadOffset + s.info.trailerLen) % 2 ^ 16 =
      if payloadOffset ≤ n then n - payloadOffset else 2 ^ 16 + n - payloadOffset := by
    rw [htrailer, hlen]
    exact payloadLen_eq hn hoffset
  unfold dissectPayload
  rw [gets_bind, hpayload]
  by_cases hshort : payloadOffset ≤ n
  · rw [if_pos hshort]
    -- the payload, if there is one, and the integrity check right behind the plaintext
    have hrest : Triple HasTrailer (showPayload tvb payloadOffset (n - payloadOffset) >>= fun _ =>
        showIntegrityCheck tvb true (payloadOffset + (n - payloadOffset)))
        (fun _ => EndsBehind tvb n) (fun _ => EndsBehind tvb n) := by
      have hshow : Triple HasTrailer (showPayload tvb payloadOffset (n - payloadOffset))
          (fun _ => HasTrailer) (fun _ => EndsBehind tvb n) := by
        unfold showPayload
        refine .ite (fun hne => ?_) fun _ => .pure fun _ hs => hs
        exact addItem_keeps (by omega) (by omega)
      refine hshow.bind fun _ => ?_
      have hend : payloadOffset + (n - payloadOffset) = n := by omega
      rw [hend]
      have hcheck : Triple HasTrailer (addItem tvb .integrityCheck n cryptoTagLength)
          (fun _ s => HasTrailer s ∧ EndsAt tvb (n + cryptoTagLength) s)
          (fun _ => EndsBehind tvb n) :=
        addItem_triple (by decide) (by rw [hlen]; exact Nat.le_refl _)
      exact hcheck.conseq (fun _ hs => hs)
        (fun _ _ hs => ⟨n + cryptoTagLength, Nat.lt_add_of_pos_right (by decide), Nat.le_refl _,
          hs.2⟩) fun _ _ hs => hs
    have hset : Triple HasTrailer
        (setInfo (fun info => { info with payloadLen := n - payloadOffset }) >>= fun _ =>
          showPayload tvb payloadOffset (n - payloadOffset) >>= fun _ =>
            showIntegrityCheck tvb true (payloadOffset + (n - payloadOffset)))
        (fun _ => EndsBehind tvb n) (fun _ => EndsBehind tvb n) :=
      setInfo_bind (fun _ => rfl) hrest
    exact hset s htrailer
  · rw [if_neg hshort]
    -- the range of the payload is out of the buffer
    have hthrows : ∀ s', (showPayload tvb payloadOffset (2 ^ 16 + n - payloadOffset)).run s' =
        .err .outOfRange s' := fun s' => by
      unfold showPayload
      rw [if_pos (by omega)]
      exact addItem_err s' (by omega)
    unfold setInfo
    rw [modify_bind, bind_err (hthrows _)]
    have hle : payloadOffset ≤ n + cryptoTagLength := by
      unfold cryptoTagLength
      omega
    exact ⟨payloadOffset, Nat.lt_of_not_le hshort, hle, hends⟩

/-- Whatever the plaintext of `n` bytes says, the last item ends behind it. -/
theorem dissectProtocol_tail {n : Nat} (hpos : 0 < n) (hn : n < 2 ^ 16)
    (hlen : tvb.bytes.length = n + cryptoTagLength) :
    Triple HasTrailer (dissectProtocol tvb true)
      (fun _ => EndsBehind tvb n) (fun _ => EndsBehind tvb n) := by
  have hlen' : 17 ≤ tvb.bytes.length := by
    rw [hlen]
    unfold cryptoTagLength
    omega
  unfold dissectProtocol
  refine (readProtocolHeader_triple (by omega)).bind fun ⟨exchHeader, _⟩ => ?_
  refine (showProtocolHeader_triple exchHeader (by omega)).bind fun parsePoint => ?_
  refine .of_each fun s hs => ?_
  obtain ⟨htrailer, hends, hpoint⟩ := hs
  refine Triple.at (P := fun s => HasTrailer s ∧ EndsAt tvb parsePoint s) ?_ ⟨htrailer, hends⟩
  refine (dissectAckMsgCntr_triple exchHeader hpoint (by omega)).bind fun payloadOffset => ?_
  refine .of_each fun s hs => ?_
  obtain ⟨htrailer, hends, hoffset⟩ := hs
  refine Triple.at (P := fun s => HasTrailer s ∧ EndsAt tvb payloadOffset s) ?_ ⟨htrailer, hends⟩
  exact (dissectPayload_tail hn hlen hoffset).bind fun _ => .pure fun _ hs => hs

end

/-! ## The decrypted buffer -/

/-- A cipher whose plaintexts are as long as their ciphertexts, as in CCM. -/
def KeepsLength (env : DecryptEnv) : Prop :=
  ∀ key nonce aad tag ciphertext plaintext,
    env.evpDecrypt key nonce aad tag ciphertext = some plaintext →
      plaintext.length = ciphertext.length

section
variable {env : DecryptEnv} {st : DecryptState} {tvb : Tvb} {encDataOffset : Nat}
  {msgInfo : MatterMessageInfo} {plaintext : List UInt8}

/-- What is copied without the cast to `int` going wrong has its length. -/
theorem length_of_copied {encData : List UInt8} {length : Nat} (hlength : length < 2 ^ 32 - 1)
    (h : tvb.copied encDataOffset length = some encData) :
    encData.length = length ∧ length < 2 ^ 31 := by
  unfold Tvb.copied at h
  rw [if_neg (by omega : ¬ length = 2 ^ 32 - 1)] at h
  split at h
  · cases h
  · split at h
    · rename_i hfit
      cases h
      rw [List.length_take, List.length_drop]
      omega
    · cases h

/-- The checks before the cipher leave at least a byte, and the 16 bytes of the tag. -/
theorem length_of_decryptWith (hcipher : KeepsLength env) {encData aad : List UInt8}
    {encDataLen : Nat} (hlt : encDataLen < 2 ^ 32) {c : Candidate}
    (h : decryptWith env encData encDataLen aad msgInfo c = some plaintext) :
    17 ≤ encDataLen ∧ encDataLen ≤ 2 ^ 31 + 15 ∧
      plaintext.length = min (encDataLen - 16) encData.length := by
  unfold decryptWith at h
  split at h
  · cases h
  unfold aesCcmDecrypt at h
  split at h
  · rename_i hchecks
    have hlen := hcipher _ _ _ _ _ _ h
    simp only [CcmCall.checkArgs, CcmCall.checkLength, Bool.and_eq_true, decide_eq_true_eq]
      at hchecks
    have hpos : 0 < sub32 encDataLen aesBlockSize := hchecks.1.1.2
    have hmax : sub32 encDataLen aesBlockSize ≤ intMax := hchecks.2
    unfold sub32 aesBlockSize at hpos hmax
    unfold intMax at hmax
    have hge : 16 ≤ encDataLen := by omega
    rw [List.length_take, aesBlockSize, sub32_of_le hge hlt] at hlen
    exact ⟨by omega, by omega, hlen⟩
  · cases h

/-- What decrypts leaves 16 bytes of the encrypted data for the tag. -/
theorem length_of_findPlaintext (hcipher : KeepsLength env)
    (h : findPlaintext env st tvb encDataOffset msgInfo = some plaintext) :
    0 < plaintext.length ∧
      sub32 msgInfo.msgLen encDataOffset = plaintext.length + cryptoTagLength ∧
      sub32 msgInfo.msgLen encDataOffset < 2 ^ 31 := by
  obtain ⟨c, -, hauth⟩ := exists_of_findKey h
  unfold decryptMessageWith at hauth
  split at hauth
  · rename_i encData aadData hdata haad
    have hlt : sub32 msgInfo.msgLen encDataOffset < 2 ^ 32 := Nat.mod_lt _ (by decide)
    obtain ⟨hge, hle, hlen⟩ := length_of_decryptWith hcipher hlt hauth
    obtain ⟨hencData, hfit⟩ := length_of_copied (by omega) hdata
    unfold cryptoTagLength
    omega
  · cases hauth

end

/-! ## A message that decrypts -/

/-- What is derived from the decrypted buffer: the fields of the protocol header, the length of
the payload, and the items with their ranges and bytes. -/
def derived {α : Type} : Outcome TvbError Fault BodyState α → Option ProtocolState
  | .ok _ s => some s.protocol
  | .err _ s => some s.protocol
  | .fault _ => none

/-- What is derived if `g_malloc` returns `malloc`. -/
def derivedWith (env : DecryptEnv) (st : DecryptState) (tvb : Tvb) (msgInfo : MatterMessageInfo)
    (malloc : Nat → List UInt8) : Option ProtocolState :=
  derived ((dissectBody { env with malloc := malloc } tvb msgInfo).run ⟨st, {}⟩)

/-- Buffers of the lengths that were asked for. -/
def IsMalloc (malloc : Nat → List UInt8) : Prop := ∀ n, (malloc n).length = n

/-- What the buffer had in it before makes no difference, and the integrity check that is shown
is the end of the message. -/
structure IndependentOfMalloc (env : DecryptEnv) (st : DecryptState) (tvb : Tvb)
    (msgInfo : MatterMessageInfo) : Prop where
  derivedWith_eq : ∀ malloc malloc', IsMalloc malloc → IsMalloc malloc' →
    derivedWith env st tvb msgInfo malloc = derivedWith env st tvb msgInfo malloc'
  integrityCheck_eq : ∀ malloc, IsMalloc malloc → ∀ s,
    derivedWith env st tvb msgInfo malloc = some s → ∀ item ∈ s.items,
      item.field = .integrityCheck →
        item.bytes =
          (tvb.bytes.drop (msgInfo.msgLen - cryptoTagLength)).take cryptoTagLength

section
variable {env : DecryptEnv} {st : DecryptState} {tvb : Tvb} {msgInfo : MatterMessageInfo}
  {plaintext : List UInt8} {malloc : Nat → List UInt8}

/-- The trailer of a message that has been decrypted is its tag. -/
theorem decryptedMessage_run {unencMsgTVB : Tvb} {st' : DecryptState}
    (h : (tryDecryptMessage env tvb msgInfo.headerLen msgInfo).run st =
      .ok (some unencMsgTVB) st') :
    (decryptedMessage env tvb msgInfo).run ⟨st, {}⟩ =
      .ok (some unencMsgTVB) ⟨st', { info := { trailerLen := cryptoTagLength } }⟩ := by
  have hdecrypt : (BodyM.decrypt (tryDecryptMessage env tvb msgInfo.headerLen msgInfo)).run
      ⟨st, {}⟩ = .ok (some unencMsgTVB) ⟨st', {}⟩ := by
    rw [BodyM.decrypt, run_zoom, h]
  rw [decryptedMessage, bind_ok hdecrypt]
  rfl

/-- What is derived ends behind the plaintext. -/
theorem derivedWith_tail (hcipher : KeepsLength env) (hmsgLen : msgInfo.msgLen < 2 ^ 16)
    (hheaderLen : msgInfo.headerLen ≤ 24) (henc : messageIsEncrypted msgInfo = true)
    (hfind : findPlaintext env st tvb msgInfo.headerLen msgInfo = some plaintext)
    (hmalloc : IsMalloc malloc) :
    ∃ s, derivedWith env st tvb msgInfo malloc = some s ∧
      EndsBehind (unencBuffer { env with malloc := malloc } msgInfo msgInfo.headerLen plaintext)
        plaintext.length s := by
  obtain ⟨hpos, hdataLen, hfit⟩ := length_of_findPlaintext hcipher hfind
  have hshort : plaintext.length < 2 ^ 16 := by
    unfold sub32 cryptoTagLength at hdataLen
    unfold sub32 at hfit
    omega
  have hbuffer : (unencBuffer { env with malloc := malloc } msgInfo msgInfo.headerLen
      plaintext).bytes.length = plaintext.length + cryptoTagLength := by
    unfold unencBuffer
    rw [List.length_append, List.length_drop, hmalloc, hdataLen]
    omega
  have hmalloced : findPlaintext { env with malloc := malloc } st tvb msgInfo.headerLen msgInfo =
      some plaintext := hfind
  obtain ⟨calls, hrun⟩ := tryDecryptMessage_found henc hmalloced
  generalize unencBuffer { env with malloc := malloc } msgInfo msgInfo.headerLen plaintext =
    unencMsgTVB at *
  have hunencrypted := decryptedMessage_run hrun
  have htail := dissectProtocol_tail hpos hshort hbuffer
    { info := { trailerLen := cryptoTagLength } } rfl
  unfold derivedWith
  rw [dissectBody, unencryptedMessage, if_pos henc, bind_ok hunencrypted, henc]
  dsimp only
  rw [run_bind, BodyM.protocol, run_zoom]
  dsimp only
  cases hprotocol : (dissectProtocol unencMsgTVB true).run
      { info := { trailerLen := cryptoTagLength } } with
  | ok payloadOffset s =>
    rw [hprotocol] at htail
    exact ⟨s, rfl, htail⟩
  | err e s =>
    rw [hprotocol] at htail
    exact ⟨s, rfl, htail⟩
  | fault f =>
    rw [hprotocol] at htail
    exact htail.elim

/-- Memory that is full of `b` shows at the end of the last item. -/
theorem last_eq_of_endsBehind {b : UInt8} {s : ProtocolState}
    (hdataLen : sub32 msgInfo.msgLen msgInfo.headerLen = plaintext.length + cryptoTagLength)
    (h : EndsBehind (unencBuffer { env with malloc := fun n => List.replicate n b } msgInfo
      msgInfo.headerLen plaintext) plaintext.length s) :
    ∃ item, s.items.getLast? = some item ∧ item.bytes.getLast? = some b := by
  obtain ⟨parsePoint, hlt, hle, item, hitem, hbytes⟩ := h
  refine ⟨item, hitem, hbytes.trans ?_⟩
  unfold unencBuffer
  rw [List.getElem?_append_right (by omega), List.getElem?_drop, List.getElem?_replicate]
  rw [if_pos (by omega)]

end

/-! ## The lengths that a header can give -/

section
variable {frame tvb : Tvb} {msgInfo : MatterMessageInfo}

theorem getLE_lt {k offset v : Nat} (h : (frame.getLE k offset).run () = .ok v ()) :
    v < 256 ^ k := by
  unfold Tvb.getLE at h
  split at h
  · rename_i hfit
    cases h
    have hlt := LE.value_lt ((frame.bytes.drop offset).take k)
    rwa [List.length_take, List.length_drop, Nat.min_eq_left (by omega)] at hlt
  · cases h

theorem transportMessage_lt {ptype : PortType} {msgLen : Nat}
    (h : (transportMessage ptype frame).run () = .ok (msgLen, tvb) ()) : msgLen < 2 ^ 16 := by
  cases ptype with
  | udp =>
    cases h
    exact Nat.mod_lt _ (by decide)
  | tcp =>
    obtain ⟨msgLen', _, hread, hrest⟩ := bind_eq_ok.1 h
    obtain ⟨tvb', _, -, hpure⟩ := bind_eq_ok.1 hrest
    cases hpure
    exact getLE_lt hread

theorem nodeIdLen_le {msgFlags flag parsePoint srcNodeId nodeIdLen : Nat}
    (h : (dissectNodeId tvb msgFlags flag parsePoint).run () = .ok (srcNodeId, nodeIdLen) ()) :
    nodeIdLen ≤ 8 := by
  unfold dissectNodeId at h
  split at h
  · obtain ⟨nodeId, _, -, hpure⟩ := bind_eq_ok.1 h
    cases hpure
    exact Nat.le_refl _
  · cases h
    exact Nat.zero_le _

theorem dissectHeader_lengths {msgLen : Nat}
    (h : (dissectHeader msgLen tvb).run () = .ok msgInfo ()) :
    msgInfo.msgLen = msgLen ∧ msgInfo.headerLen ≤ 24 := by
  obtain ⟨msgFlags, _, -, h⟩ := bind_eq_ok.1 h
  obtain ⟨sessionId, _, -, h⟩ := bind_eq_ok.1 h
  obtain ⟨secFlags, _, -, h⟩ := bind_eq_ok.1 h
  obtain ⟨msgId, _, -, h⟩ := bind_eq_ok.1 h
  obtain ⟨⟨srcNodeId, srcLen⟩, _, hsrc, h⟩ := bind_eq_ok.1 h
  obtain ⟨⟨destNodeId, destLen⟩, _, hdest, h⟩ := bind_eq_ok.1 h
  have hsrcLen := nodeIdLen_le hsrc
  have hdestLen := nodeIdLen_le hdest
  cases h
  refine ⟨rfl, ?_⟩
  show 8 + srcLen + destLen ≤ 24
  omega

theorem dissectMessage_lengths {ptype : PortType}
    (h : (dissectMessage ptype frame).run () = .ok (tvb, msgInfo) ()) :
    msgInfo.msgLen < 2 ^ 16 ∧ msgInfo.headerLen ≤ 24 := by
  obtain ⟨⟨msgLen, tvb'⟩, _, htransport, h⟩ := bind_eq_ok.1 h
  obtain ⟨msgInfo', _, hheader, h⟩ := bind_eq_ok.1 h
  cases h
  obtain ⟨hmsgLen, hheaderLen⟩ := dissectHeader_lengths hheader
  rw [hmsgLen]
  exact ⟨transportMessage_lt htransport, hheaderLen⟩

end

/-- What `DissectMatter` shows of a message that decrypts depends on what the memory for the
plaintext had in it before. -/
theorem not_independentOfMalloc {ptype : PortType} {frame tvb : Tvb}
    {msgInfo : MatterMessageInfo} {env : DecryptEnv} {st st' : DecryptState} {unencMsgTVB : Tvb}
    (hmsg : (dissectMessage ptype frame).run () = .ok (tvb, msgInfo) ())
    (hcipher : KeepsLength env)
    (h : (tryDecryptMessage env tvb msgInfo.headerLen msgInfo).run st =
      .ok (some unencMsgTVB) st') :
    ¬ IndependentOfMalloc env st tvb msgInfo := by
  intro hindependent
  obtain ⟨hmsgLen, hheaderLen⟩ := dissectMessage_lengths hmsg
  obtain ⟨henc, plaintext, -, hfind, -, -⟩ := plaintext_of_tryDecryptMessage h
  obtain ⟨-, hdataLen, -⟩ := length_of_findPlaintext hcipher hfind
  have hfilled : ∀ b : UInt8, IsMalloc fun n => List.replicate n b := fun b n =>
    List.length_replicate
  have hlast : ∀ b : UInt8, ∃ s, derivedWith env st tvb msgInfo (fun n => List.replicate n b) =
      some s ∧ ∃ item, s.items.getLast? = some item ∧ item.bytes.getLast? = some b := by
    intro b
    obtain ⟨s, hs, htail⟩ :=
      derivedWith_tail hcipher hmsgLen hheaderLen henc hfind (hfilled b)
    exact ⟨s, hs, last_eq_of_endsBehind hdataLen htail⟩
  obtain ⟨s₀, hs₀, item₀, hitem₀, hbytes₀⟩ := hlast 0
  obtain ⟨s₁, hs₁, item₁, hitem₁, hbytes₁⟩ := hlast 1
  have hstate : s₀ = s₁ := by
    have heq := hindependent.derivedWith_eq _ _ (hfilled 0) (hfilled 1)
    rw [hs₀, hs₁] at heq
    exact Option.some.inj heq
  have hitem : item₀ = item₁ := by
    rw [hstate, hitem₁] at hitem₀
    exact (Option.some.inj hitem₀).symm
  rw [hitem, hbytes₁] at hbytes₀
  exact absurd (Option.some.inj hbytes₀) (by decide)

theorem keepsLength_sealedEnv : KeepsLength sealedEnv := by
  intro key nonce aad tag ciphertext plaintext h
  unfold sealedEnv sealedCipher at h
  dsimp only at h
  split at h
  · rename_i hcall
    rw [hcall.2.2.2.2, ← Option.some.inj h]
    rfl
  · cases h

theorem not_independentOfMalloc_sealed :
    ∃ unencMsgTVB st',
      (tryDecryptMessage sealedEnv sealedMessage sealedInfo.headerLen sealedInfo).run
        emptyDecryptState = .ok (some unencMsgTVB) st' ∧
      ¬ IndependentOfMalloc sealedEnv emptyDecryptState sealedMessage sealedInfo := by
  have hmsg : (dissectMessage .udp sealedMessage).run () = .ok (sealedMessage, sealedInfo) () := by
    decide
  exact ⟨_, _, rfl, not_independentOfMalloc hmsg keepsLength_sealedEnv rfl⟩

/-- The integrity check of the message, over memory of zeros and over memory of ones. -/
theorem integrityCheck_sealed :
    (dissectMessage .udp sealedMessage).run () = .ok (sealedMessage, sealedInfo) () ∧
    (findPlaintext sealedEnv emptyDecryptState sealedMessage sealedInfo.headerLen sealedInfo).isSome
      = true ∧
    ¬ IndependentOfMalloc sealedEnv emptyDecryptState sealedMessage sealedInfo := by
  refine ⟨by decide, by decide, fun h => ?_⟩
  have hsame := h.derivedWith_eq (fun n => List.replicate n 0) (fun n => List.replicate n 1)
    (fun _ => List.length_replicate) fun _ => List.length_replicate
  exact absurd hsame (by decide)

end Matter.Message
