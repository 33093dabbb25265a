import MatterDissector.Message.Proof.Candidates
import MatterDissector.Message.Proof.Decrypt

/-!
# Learning keys

Lists of the key table only grow (`KeyTable.Sub`), under `AddKey` and under `TryDecryptMessage`
(`KeyEvent.run_grown`), so a history takes no candidate away (`isCandidate_grown`): the keys that
a new hint file puts into the table are candidates as hints, too. A message that is decrypted is
decrypted after any history (`tryDecryptMessage_afterHistory`).
-/

namespace Matter.Message

open Prog

/-! ## Tables that grow -/

/-- Every key of `table` is in `table'`. -/
def KeyTable.Sub (table table' : KeyTable) : Prop :=
  ∀ keyId, ∀ key ∈ table.findKeysById keyId, key ∈ table'.findKeysById keyId

namespace KeyTable

variable {table table' table'' : KeyTable} {key keyData : MessageEncryptionKey} {keyId : Nat}

theorem Sub.refl (table : KeyTable) : table.Sub table := fun _ _ h => h

theorem Sub.trans (h : table.Sub table') (h' : table'.Sub table'') : table.Sub table'' :=
  fun keyId key hkey => h' keyId key (h keyId key hkey)

theorem sub_addKey (table : KeyTable) (keyData : MessageEncryptionKey) :
    table.Sub (table.addKey keyData) := by
  intro keyId key hkey
  unfold addKey findKeysById
  dsimp only
  split
  · exact hkey
  · dsimp only
    split
    · rename_i heq
      subst heq
      exact List.mem_cons_of_mem _ hkey
    · exact hkey

/-- A key of the table is an old one, or the new one under its id. -/
theorem mem_addKey (h : key ∈ (table.addKey keyData).findKeysById keyId) :
    key ∈ table.findKeysById keyId ∨ key = keyData ∧ keyId = keyData.keyId := by
  unfold addKey findKeysById at h
  dsimp only at h
  split at h
  · exact .inl h
  · dsimp only at h
    split at h
    · rename_i heq
      subst heq
      rcases List.mem_cons.1 h with rfl | h
      · exact .inr ⟨rfl, rfl⟩
      · exact .inl h
    · exact .inl h

theorem sub_learn (table : KeyTable) (sessionId : Nat)
    (found : Option (List UInt8 × MessageEncryptionKey)) :
    table.Sub (table.learn sessionId found) := by
  cases found with
  | none => exact .refl _
  | some found => exact sub_addKey _ _

theorem sub_preloadHintKey (table : KeyTable) (hint : MatterProxyHintKey) :
    table.Sub (table.preloadHintKey hint) := by
  unfold preloadHintKey
  split
  · exact sub_addKey _ _
  · exact .refl _

theorem sub_foldl_preloadHintKey (hints : List MatterProxyHintKey) (table : KeyTable) :
    table.Sub (hints.foldl preloadHintKey table) := by
  induction hints generalizing table with
  | nil => exact .refl _
  | cons hint hints ih => exact (sub_preloadHintKey table hint).trans (ih _)

/-- The key that a hint for a session stands for in the table. -/
def IsPreloaded (hint : MatterProxyHintKey) (keyId : Nat) (key : MessageEncryptionKey) : Prop :=
  hint.hasKeyId = true ∧ hint.keyId = keyId ∧ key.dataEncKey = hint.key ∧
    key.srcNodeId = if hint.hasSrcNodeId then hint.srcNodeId else 0

theorem mem_preloadHintKey {hint : MatterProxyHintKey}
    (h : key ∈ (table.preloadHintKey hint).findKeysById keyId) :
    key ∈ table.findKeysById keyId ∨ IsPreloaded hint keyId key := by
  unfold preloadHintKey at h
  split at h
  · rename_i hhas
    rcases mem_addKey h with h | ⟨rfl, rfl⟩
    · exact .inl h
    · exact .inr ⟨hhas, rfl, rfl, rfl⟩
  · exact .inl h

theorem mem_foldl_preloadHintKey {hints : List MatterProxyHintKey} {table : KeyTable}
    (h : key ∈ (hints.foldl preloadHintKey table).findKeysById keyId) :
    key ∈ table.findKeysById keyId ∨ ∃ hint ∈ hints, IsPreloaded hint keyId key := by
  induction hints generalizing table with
  | nil => exact .inl h
  | cons hint hints ih =>
    rcases ih h with h | ⟨hint', hmem, hpre⟩
    · rcases mem_preloadHintKey h with h | hpre
      · exact .inl h
      · exact .inr ⟨hint, List.mem_cons_self, hpre⟩
    · exact .inr ⟨hint', List.mem_cons_of_mem _ hmem, hpre⟩

end KeyTable

/-! ## Calls with fixed hints -/

/-- What may differ from one call of `TryDecryptMessage` to the next: the hint file may look new,
and the memory for the plaintext. -/
structure CallEnv where
  reload : Bool
  malloc : Nat → List UInt8

/-- What `RefreshMatterProxyHintKeys` finds of the hints of `file`: those that it has already
need not be read again. -/
def hintFileSeen (file : Option (List MatterProxyHintKey)) (reload : Bool)
    (st : DecryptState) : HintFile :=
  match file with
  | none => .missing
  | some hints =>
    if reload = false ∧ st.hintKeysFromFile = hints then .unchanged else .loaded hints

def DecryptEnv.forCall (env : DecryptEnv) (file : Option (List MatterProxyHintKey))
    (call : CallEnv) (st : DecryptState) : DecryptEnv :=
  { env with hintFile := hintFileSeen file call.reload st, malloc := call.malloc }

section
variable (env : DecryptEnv) (file : Option (List MatterProxyHintKey))

/-- `TryDecryptMessage` with the hints of `file`. -/
def tryDecryptMessageWith (call : CallEnv) (tvb : Tvb) (encDataOffset : Nat)
    (msgInfo : MatterMessageInfo) : DecryptM (Option Tvb) := do
  let st ← get
  tryDecryptMessage (env.forCall file call st) tvb encDataOffset msgInfo

inductive KeyEvent where
  | decrypt (call : CallEnv) (tvb : Tvb) (encDataOffset : Nat) (msgInfo : MatterMessageInfo)
  | addKey (keyData : MessageEncryptionKey)

/-- One event; what `tvb_memdup` throws is caught by the caller of the dissector. -/
def KeyEvent.run : KeyEvent → DecryptM Unit
  | .decrypt call tvb encDataOffset msgInfo => do
    let _ ← attempt (tryDecryptMessageWith env file call tvb encDataOffset msgInfo)
    pure ()
  | .addKey keyData => Message.addKey keyData

def runHistory : List KeyEvent → DecryptM Unit
  | [] => pure ()
  | event :: history => do
    event.run env file
    runHistory history

end

section
variable {env : DecryptEnv} {file : Option (List MatterProxyHintKey)} {call : CallEnv}
  {st st₁ st₂ : DecryptState}

/-- `st₁` comes after `st`. -/
structure Grown (st st₁ : DecryptState) : Prop where
  keyTable : st.keyTable.Sub st₁.keyTable
  hintKeysFromDSB : st₁.hintKeysFromDSB = st.hintKeysFromDSB

theorem Grown.refl (st : DecryptState) : Grown st st := ⟨.refl _, rfl⟩

theorem Grown.trans (h : Grown st st₁) (h' : Grown st₁ st₂) : Grown st st₂ :=
  ⟨h.keyTable.trans h'.keyTable, h'.hintKeysFromDSB.trans h.hintKeysFromDSB⟩

theorem grown_refreshed (env : DecryptEnv) (st : DecryptState) : Grown st (st.refreshed env) := by
  unfold DecryptState.refreshed DecryptState.refreshMatterProxyHintKeys
  split
  · exact ⟨.refl _, rfl⟩
  · exact .refl st
  · exact ⟨KeyTable.sub_foldl_preloadHintKey _ _, rfl⟩

theorem grown_searched (env : DecryptEnv) (tvb : Tvb) (encDataOffset : Nat)
    (msgInfo : MatterMessageInfo) (st : DecryptState) (calls : List CcmCall) :
    Grown st (st.searched env tvb encDataOffset msgInfo calls) :=
  (grown_refreshed env st).trans ⟨KeyTable.sub_learn _ _ _, rfl⟩

/-- An event always comes back, and only adds keys. -/
theorem KeyEvent.run_grown (env : DecryptEnv) (file : Option (List MatterProxyHintKey))
    (event : KeyEvent) (st : DecryptState) :
    ∃ st₁, (event.run env file).run st = .ok () st₁ ∧ Grown st st₁ := by
  cases event with
  | addKey keyData => exact ⟨_, rfl, KeyTable.sub_addKey _ _, rfl⟩
  | decrypt call tvb encDataOffset msgInfo =>
    have hcall : (tryDecryptMessageWith env file call tvb encDataOffset msgInfo).run st =
        (tryDecryptMessage (env.forCall file call st) tvb encDataOffset msgInfo).run st := rfl
    rcases tryDecryptMessage_cases (env.forCall file call st) tvb encDataOffset msgInfo st with
      ⟨-, calls, hrun⟩ | ⟨-, hrun⟩ | ⟨-, hrun⟩
    · refine ⟨_, ?_, grown_searched (env.forCall file call st) tvb encDataOffset msgInfo st calls⟩
      rw [KeyEvent.run, bind_ok (attempt_ok (hcall.trans hrun))]
      rfl
    · refine ⟨_, ?_, grown_refreshed (env.forCall file call st) st⟩
      rw [KeyEvent.run, bind_ok (attempt_err (hcall.trans hrun))]
      rfl
    · refine ⟨_, ?_, .refl st⟩
      rw [KeyEvent.run, bind_ok (attempt_ok (hcall.trans hrun))]
      rfl

theorem runHistory_grown (env : DecryptEnv) (file : Option (List MatterProxyHintKey))
    (history : List KeyEvent) (st : DecryptState) :
    ∃ st₁, (runHistory env file history).run st = .ok () st₁ ∧ Grown st st₁ := by
  induction history generalizing st with
  | nil => exact ⟨st, rfl, .refl st⟩
  | cons event history ih =>
    obtain ⟨st₁, hevent, hgrown⟩ := event.run_grown env file st
    obtain ⟨st₂, hhistory, hgrown'⟩ := ih st₁
    exact ⟨st₂, by rw [runHistory, bind_ok hevent, hhistory], hgrown.trans hgrown'⟩

/-! ## Candidates do not get lost -/

theorem hintKeysFromFile_refreshed (st : DecryptState) :
    (st.refreshed (env.forCall file call st)).hintKeysFromFile = file.getD [] := by
  unfold DecryptState.refreshed DecryptEnv.forCall hintFileSeen
  cases file with
  | none => rfl
  | some hints =>
    dsimp only
    split
    · rename_i hseen
      exact hseen.2
    · rfl

theorem hintKeysFromDSB_refreshed (st : DecryptState) :
    (st.refreshed env).hintKeysFromDSB = st.hintKeysFromDSB :=
  (grown_refreshed env st).hintKeysFromDSB

/-- The refreshed table has the keys of the table, and those of the hints. -/
theorem mem_refreshed {key : MessageEncryptionKey} {keyId : Nat}
    (h : key ∈ (st.refreshed (env.forCall file call st)).keyTable.findKeysById keyId) :
    key ∈ st.keyTable.findKeysById keyId ∨
      ∃ hint ∈ file.getD [], KeyTable.IsPreloaded hint keyId key := by
  unfold DecryptState.refreshed DecryptEnv.forCall hintFileSeen at h
  cases file with
  | none => exact .inl h
  | some hints =>
    dsimp only at h
    split at h
    · exact .inl h
    · exact KeyTable.mem_foldl_preloadHintKey h

/-- A hint gives the candidate of the key that it stands for in the table. -/
theorem tableCandidate_of_isPreloaded {hint : MatterProxyHintKey} {key : MessageEncryptionKey}
    {msgInfo : MatterMessageInfo} (h : KeyTable.IsPreloaded hint msgInfo.sessionId key) :
    mayHint msgInfo hint = true ∧ ∃ nodeId ∈ hintNodeIdsFor msgInfo hint,
      tableCandidate msgInfo key = (hint.key, nodeId) := by
  obtain ⟨-, hkeyId, hkey, hsrc⟩ := h
  refine ⟨mayHint_iff.2 fun h => h.2 hkeyId, ?_⟩
  unfold tableCandidate hintNodeIdsFor
  rw [hkey, hsrc]
  by_cases hzero : msgInfo.srcNodeId = 0
  · cases hint.hasSrcNodeId with
    | false => exact ⟨_, List.mem_cons_self, by simp⟩
    | true =>
      by_cases hnode : hint.srcNodeId = 0
      · exact ⟨_, List.mem_cons_self, by simp [hnode]⟩
      · exact ⟨hint.srcNodeId, by simp [hzero], by simp [hzero, hnode]⟩
  · exact ⟨_, List.mem_cons_self, by simp [hzero]⟩

/-- What is a candidate for a message stays one. -/
theorem isCandidate_grown {call' : CallEnv} {msgInfo : MatterMessageInfo} {c : Candidate}
    (hgrown : Grown st st₁)
    (hc : IsCandidate env (st.refreshed (env.forCall file call st)) msgInfo c) :
    IsCandidate env (st₁.refreshed (env.forCall file call' st₁)) msgInfo c := by
  have hhints : (st₁.refreshed (env.forCall file call' st₁)).hintKeysFromFile ++
      (st₁.refreshed (env.forCall file call' st₁)).hintKeysFromDSB =
      (st.refreshed (env.forCall file call st)).hintKeysFromFile ++
      (st.refreshed (env.forCall file call st)).hintKeysFromDSB := by
    rw [hintKeysFromFile_refreshed, hintKeysFromFile_refreshed, hintKeysFromDSB_refreshed,
      hintKeysFromDSB_refreshed, hgrown.hintKeysFromDSB]
  rcases hc with ⟨key, hkey, rfl⟩ | huser | hhint
  · rcases mem_refreshed hkey with hkey | ⟨hint, hmem, hpre⟩
    · have hgrown' := hgrown.trans (grown_refreshed (env.forCall file call' st₁) st₁)
      exact .inl ⟨key, hgrown'.keyTable _ _ hkey, rfl⟩
    · right; right
      refine ⟨hint, List.mem_append_left _ ?_, tableCandidate_of_isPreloaded hpre⟩
      rw [hintKeysFromFile_refreshed]
      exact hmem
  · exact .inr (.inl huser)
  · right; right
    rw [hhints]
    exact hhint

/-! ## After a history -/

/-- At most one candidate decrypts the message. -/
def AtMostOneDecrypts (env : DecryptEnv) (st : DecryptState) (tvb : Tvb) (encDataOffset : Nat)
    (msgInfo : MatterMessageInfo) : Prop :=
  ∀ c c', IsCandidate env st msgInfo c → IsCandidate env st msgInfo c' →
    (decryptMessageWith env tvb encDataOffset msgInfo c).isSome = true →
    (decryptMessageWith env tvb encDataOffset msgInfo c').isSome = true → c = c'

/-- A message that is decrypted is also decrypted after a history, and to the same plaintext if
at most one candidate decrypts it. -/
theorem tryDecryptMessage_afterHistory (env : DecryptEnv)
    (file : Option (List MatterProxyHintKey)) (history : List KeyEvent) (st : DecryptState)
    (before after : CallEnv) (tvb : Tvb) (encDataOffset : Nat) (msgInfo : MatterMessageInfo)
    {unencMsgTVB : Tvb} {st' : DecryptState}
    (h : (tryDecryptMessageWith env file before tvb encDataOffset msgInfo).run st =
      .ok (some unencMsgTVB) st') :
    ∃ st₁, (runHistory env file history).run st = .ok () st₁ ∧
      ∃ unencMsgTVB₁ st₁',
        (tryDecryptMessageWith env file after tvb encDataOffset msgInfo).run st₁ =
          .ok (some unencMsgTVB₁) st₁' ∧
        (AtMostOneDecrypts env (st₁.refreshed (env.forCall file after st₁)) tvb encDataOffset
            msgInfo →
          ∃ plaintext,
            unencMsgTVB =
              unencBuffer { env with malloc := before.malloc } msgInfo encDataOffset plaintext ∧
            unencMsgTVB₁ =
              unencBuffer { env with malloc := after.malloc } msgInfo encDataOffset plaintext) := by
  obtain ⟨st₁, hhistory, hgrown⟩ := runHistory_grown env file history st
  have hbefore : (tryDecryptMessage (env.forCall file before st) tvb encDataOffset msgInfo).run st =
      .ok (some unencMsgTVB) st' := h
  obtain ⟨henc, plaintext, -, hfind, hbuffer, -⟩ := plaintext_of_tryDecryptMessage hbefore
  obtain ⟨c, hc, hauth⟩ := exists_of_findKey hfind
  have hc₁ : IsCandidate env (st₁.refreshed (env.forCall file after st₁)) msgInfo c :=
    isCandidate_grown hgrown hc
  have hdecrypts : (decryptMessageWith env tvb encDataOffset msgInfo c).isSome = true :=
    Option.isSome_iff_exists.2 ⟨plaintext, hauth⟩
  obtain ⟨plaintext₁, hfind₁⟩ := Option.isSome_iff_exists.1 (findKey_isSome hc₁ hdecrypts)
  obtain ⟨c₁, hcand₁, hauth₁⟩ := exists_of_findKey hfind₁
  have hafter : findPlaintext (env.forCall file after st₁) st₁ tvb encDataOffset msgInfo =
      some plaintext₁ := hfind₁
  obtain ⟨calls, hrun⟩ := tryDecryptMessage_found henc hafter
  refine ⟨st₁, hhistory, _, _, hrun, fun honly => ⟨plaintext, hbuffer, ?_⟩⟩
  have heq : c = c₁ := honly c c₁ hc₁ hcand₁ hdecrypts
    (Option.isSome_iff_exists.2 ⟨plaintext₁, hauth₁⟩)
  have hsame : some plaintext₁ = some plaintext := by
    rw [← hauth₁, ← heq]
    exact hauth
  rw [Option.some.inj hsame]
  rfl

end

/-! ## A message of session 1 -/

/-- The bytes of a shared key. -/
def sharedKey : List UInt8 := [0, 1, 2, 3, 4, 5, 6, 7, 8, 9, 10, 11, 12, 13, 14, 15]

/-- The header of the message. -/
def sealedHeader : List UInt8 := [0x00, 0x01, 0x00, 0x00, 0x07, 0x00, 0x00, 0x00]

/-- A protocol header, and an empty structure behind it. -/
def sealedPlaintext : List UInt8 := [0x01, 0x20, 0x01, 0x00, 0x00, 0x00, 0x15, 0x18]

def sealedCiphertext : List UInt8 := [0x0D, 0x32, 0xFC, 0xF8, 0x44, 0x3D, 0x54, 0xE4]

def sealedTag : List UInt8 :=
  [0x7E, 0xB3, 0x61, 0x45, 0xE4, 0x5B, 0x9C, 0x49, 0xAB, 0x92, 0x55, 0x29, 0xD7, 0xD8, 0x8F, 0xC9]

/-- The message, which node 2 has sealed with the shared key. -/
def sealedMessage : Tvb := Tvb.ofBytes (sealedHeader ++ sealedCiphertext ++ sealedTag)

def sealedInfo : MatterMessageInfo :=
  { oneByteInfo with msgLen := 32 }

/-- AES-CCM, as far as the message goes: of all keys and nonces here, this pair fits its tag. -/
def sealedCipher (key nonce aad tag ciphertext : List UInt8) : Option (List UInt8) :=
  if key = sharedKey ∧ nonce = ccmNonce { sealedInfo with srcNodeId := 2 } ∧ aad = sealedHeader ∧
      tag = sealedTag ∧ ciphertext = sealedCiphertext then
    some sealedPlaintext
  else none

/-- A user with the shared key and two nodes. -/
def sealedEnv : DecryptEnv where
  userKeys := [⟨0, encryptionTypeAES128CCM, sharedKey, 0⟩]
  userNodeIds := [1, 2]
  hintFile := .missing
  malloc := fun n => List.replicate n 0
  evpDecrypt := sealedCipher

/-- Others use the shared key in session 1 before the message comes again. -/
def sharedHistory : List KeyEvent :=
  [.addKey ⟨1, encryptionTypeAES128CCM, sharedKey, 1⟩,
    .decrypt ⟨true, sealedEnv.malloc⟩ oneByteMessage 8 oneByteInfo]

theorem tryDecryptMessage_afterHistory_sealed :
    ∃ st₁, (runHistory sealedEnv none sharedHistory).run emptyDecryptState = .ok () st₁ ∧
      ∃ unencMsgTVB₁ st₁',
        (tryDecryptMessageWith sealedEnv none ⟨false, sealedEnv.malloc⟩ sealedMessage 8
          sealedInfo).run st₁ = .ok (some unencMsgTVB₁) st₁' ∧
        (AtMostOneDecrypts sealedEnv
            (st₁.refreshed (sealedEnv.forCall none ⟨false, sealedEnv.malloc⟩ st₁)) sealedMessage 8
            sealedInfo →
          ∃ plaintext,
            ⟨sealedPlaintext ++ List.replicate 16 0, 24⟩ =
              unencBuffer { sealedEnv with malloc := sealedEnv.malloc } sealedInfo 8 plaintext ∧
            unencMsgTVB₁ =
              unencBuffer { sealedEnv with malloc := sealedEnv.malloc } sealedInfo 8 plaintext) :=
  tryDecryptMessage_afterHistory sealedEnv none sharedHistory emptyDecryptState
    ⟨true, sealedEnv.malloc⟩ ⟨false, sealedEnv.malloc⟩ sealedMessage 8 sealedInfo rfl

end Matter.Message
