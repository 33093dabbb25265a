import MatterDissector.Message.Decrypt
import Mathlib.Data.List.Basic

/-!
# The slices of the encrypted data

Every attempt to decrypt a message slices the same encrypted data (`MadeFrom`), and the search
for a key makes one exactly when there is a key of 16 bytes to try (`searchKeys_attempts`). The
slices are inside the data exactly when it has room for the tag (`MadeFrom.inBounds_iff`), so
they are for a message if and only if its encrypted part has 16 bytes, or it is cut short in the
capture, or there is no key to try (`tryDecryptMessage_inBounds_iff`).
-/

namespace Matter.Message

open Prog

/-- A call that slices `encData`, of length `encDataLen`. -/
structure MadeFrom (encData : List UInt8) (encDataLen : Nat) (call : CcmCall) : Prop where
  encData_eq : call.encData = encData
  encDataLen_eq : call.encDataLen = encDataLen
  ciphertextLength_eq : call.ciphertextLength = sub32 encDataLen aesBlockSize
  tag_eq : call.tag = encDataLen - aesBlockSize

theorem MadeFrom.inBounds_iff {encData : List UInt8} {call : CcmCall}
    (hlen : encData.length < 2 ^ 32) (h : MadeFrom encData encData.length call) :
    call.InBounds ↔ aesBlockSize ≤ encData.length := by
  refine ⟨fun hin => ?_, fun hle => ?_⟩
  · have := hin.tag_nonneg
    rw [h.tag_eq] at this
    omega
  · have hct : call.ciphertextLength = encData.length - aesBlockSize := by
      rw [h.ciphertextLength_eq, sub32_of_le hle hlen]
    have htag : call.tag = encData.length - aesBlockSize := h.tag_eq
    refine ⟨by omega, by rw [h.encData_eq]; omega, by rw [h.encDataLen_eq]; omega, ?_⟩
    intro range hrange
    unfold CcmCall.reads at hrange
    split at hrange
    · rcases List.mem_cons.1 hrange with rfl | hrange
      · show 0 ≤ call.tag
        omega
      · split at hrange
        · rw [List.mem_singleton.1 hrange]
        · exact absurd hrange List.not_mem_nil
    · exact absurd hrange List.not_mem_nil

/-! ## Attempts -/

/-- A search from `st` has made the calls `new`; there is one if and only if `c` holds, and without
one nothing is found. Nothing but the record of calls changes unless something is found. -/
structure Searched {α : Type} (encData : List UInt8) (encDataLen : Nat) (c : Prop)
    (st : DecryptState) (found : Option α) (st' : DecryptState) (new : List CcmCall) : Prop where
  calls_eq : st'.calls = st.calls ++ new
  madeFrom : ∀ call ∈ new, MadeFrom encData encDataLen call
  nil_iff : new = [] ↔ ¬ c
  of_none : found = none → st' = { st with calls := st.calls ++ new }
  of_some : found.isSome = true → c

/-- `x` is a search with these calls from any state that differs from `st` in `calls` only. -/
def Attempts {α : Type} (encData : List UInt8) (encDataLen : Nat) (st : DecryptState) (c : Prop)
    (x : DecryptM (Option α)) : Prop :=
  ∀ calls, ∃ found st' new, x.run { st with calls := calls } = .ok found st' ∧
    Searched encData encDataLen c { st with calls := calls } found st' new

section
variable {α β : Type} {encData : List UInt8} {encDataLen : Nat} {c d : Prop} {st : DecryptState}

theorem Attempts.skip (h : ¬ c) :
    Attempts encData encDataLen st c (pure none : DecryptM (Option α)) := fun _ =>
  ⟨none, _, [], rfl, {
    calls_eq := (List.append_nil _).symm
    madeFrom := fun _ h => absurd h List.not_mem_nil
    nil_iff := ⟨fun _ => h, fun _ => rfl⟩
    of_none := fun _ => by rw [List.append_nil]
    of_some := fun h => by cases h }⟩

theorem Attempts.congr {x : DecryptM (Option α)} (hx : Attempts encData encDataLen st c x)
    (hcd : c ↔ d) : Attempts encData encDataLen st d x := by
  rwa [← propext hcd]

/-- Two searches in a row, the second one when the first finds nothing. -/
theorem Searched.trans {st₀ st₁ st₂ : DecryptState} {found : Option β} {new₁ new₂ : List CcmCall}
    (h₁ : Searched encData encDataLen c st₀ (none : Option α) st₁ new₁)
    (h₂ : Searched encData encDataLen d st₁ found st₂ new₂) :
    Searched encData encDataLen (c ∨ d) st₀ found st₂ (new₁ ++ new₂) where
  calls_eq := by rw [h₂.calls_eq, h₁.calls_eq, List.append_assoc]
  madeFrom := fun call hcall => (List.mem_append.1 hcall).elim (h₁.madeFrom call) (h₂.madeFrom call)
  nil_iff := by rw [List.append_eq_nil_iff, h₁.nil_iff, h₂.nil_iff, not_or]
  of_none := fun h => by
    rw [h₂.of_none h, h₁.of_none rfl]
    simp only [List.append_assoc]
  of_some := fun h => .inr (h₂.of_some h)

/-- The first search has found something. -/
theorem Searched.found {st₀ st' : DecryptState} {a : α} {new : List CcmCall}
    (h : Searched encData encDataLen c st₀ (some a) st' new) (b : β) :
    Searched encData encDataLen (c ∨ d) st₀ (some b) st' new where
  calls_eq := h.calls_eq
  madeFrom := h.madeFrom
  nil_iff := by
    rw [h.nil_iff]
    exact iff_of_false (fun hc => hc (h.of_some rfl)) (fun hc => hc (.inl (h.of_some rfl)))
  of_none := fun h => by cases h
  of_some := fun _ => .inl (h.of_some rfl)

theorem Attempts.orElse {x y : DecryptM (Option α)} (hx : Attempts encData encDataLen st c x)
    (hy : Attempts encData encDataLen st d y) :
    Attempts encData encDataLen st (c ∨ d) (x.orElse y) := by
  intro calls
  obtain ⟨found, st₁, new₁, hrun, h₁⟩ := hx calls
  cases found with
  | some a => exact ⟨some a, st₁, new₁, orElse_some hrun, h₁.found a⟩
  | none =>
    have hst₁ := h₁.of_none rfl
    obtain ⟨found₂, st₂, new₂, hrun₂, h₂⟩ := hy (calls ++ new₁)
    rw [hst₁] at h₁ hrun
    exact ⟨found₂, st₂, new₁ ++ new₂, (orElse_none hrun).trans hrun₂, h₁.trans h₂⟩

theorem Attempts.mapFound {x : DecryptM (Option α)} (f : α → β)
    (hx : Attempts encData encDataLen st c x) :
    Attempts encData encDataLen st c (x.mapFound f) := by
  intro calls
  obtain ⟨found, st₁, new₁, hrun, h₁⟩ := hx calls
  refine ⟨found.map f, st₁, new₁, mapFound_ok hrun, h₁.calls_eq, h₁.madeFrom, h₁.nil_iff, ?_, ?_⟩
  · exact fun h => h₁.of_none (Option.map_eq_none_iff.1 h)
  · exact fun h => h₁.of_some (by rwa [Option.isSome_map] at h)

theorem Attempts.ite {b : Prop} [Decidable b] {x : DecryptM (Option α)}
    (hx : Attempts encData encDataLen st c x) :
    Attempts encData encDataLen st (b ∧ c) (if b then x else pure none) := by
  by_cases hb : b
  · rw [if_pos hb]
    exact hx.congr ⟨fun h => ⟨hb, h⟩, And.right⟩
  · rw [if_neg hb]
    exact Attempts.skip fun h => hb h.1

end

section
variable {env : DecryptEnv} {encData aad : List UInt8} {encDataLen : Nat}
  {st : DecryptState}

/-- A key the cipher takes. -/
def Usable (key : MessageEncryptionKey) : Prop :=
  key.dataEncKey.length = dataEncKeyLengthAES128CCM

theorem tryDecryptMessageAES128CCM_attempts (msgInfo : MatterMessageInfo)
    (key : MessageEncryptionKey) :
    Attempts encData encDataLen st (Usable key)
      (tryDecryptMessageAES128CCM env encData encDataLen aad msgInfo key) := by
  unfold tryDecryptMessageAES128CCM
  by_cases hkey : key.dataEncKey.length = dataEncKeyLengthAES128CCM
  · rw [if_neg (not_not.2 hkey)]
    refine fun calls => ⟨_, _, [_], rfl, rfl, fun call hcall => ?_, ?_, fun _ => rfl, fun _ => hkey⟩
    · rw [List.mem_singleton.1 hcall]
      exact ⟨rfl, rfl, rfl, rfl⟩
    · exact iff_of_false (List.cons_ne_nil _ _) (fun h => h hkey)
  · rw [if_pos hkey]
    exact Attempts.skip hkey

variable {attempt : MatterMessageInfo → MessageEncryptionKey → DecryptM (Option (List UInt8))}
  (hattempt : ∀ msgInfo key, Attempts encData encDataLen st (Usable key) (attempt msgInfo key))
  (msgInfo : MatterMessageInfo)
include hattempt

theorem tryTableKeys_attempts (keys : List MessageEncryptionKey) :
    Attempts encData encDataLen st (∃ key ∈ keys, Usable key)
      (tryTableKeys attempt msgInfo keys) := by
  induction keys with
  | nil => exact Attempts.skip (by simp)
  | cons key keys ih =>
    rw [tryTableKeys]
    refine (Attempts.orElse (c := Usable key) ?_ ih).congr (by simp)
    split
    · exact hattempt _ key
    · exact hattempt _ key

theorem tryUserNodeIds_attempts (userPrefKey : MessageEncryptionKey) (nodeIds : List Nat) :
    Attempts encData encDataLen st (nodeIds ≠ [] ∧ Usable userPrefKey)
      (tryUserNodeIds attempt msgInfo userPrefKey nodeIds) := by
  induction nodeIds with
  | nil => exact Attempts.skip (by simp)
  | cons nodeId nodeIds ih =>
    rw [tryUserNodeIds]
    refine (((hattempt _ userPrefKey).mapFound _).orElse ih).congr ?_
    simp only [ne_eq, List.cons_ne_nil, not_false_eq_true, true_and, or_iff_left_iff_imp]
    exact And.right

theorem tryUserKeys_attempts (nodeIds : List Nat) (keys : List MessageEncryptionKey) :
    Attempts encData encDataLen st (∃ key ∈ keys, Usable key)
      (tryUserKeys attempt msgInfo nodeIds keys) := by
  induction keys with
  | nil => exact Attempts.skip (by simp)
  | cons key keys ih =>
    rw [tryUserKeys]
    have hkey : Attempts encData encDataLen st (Usable key)
        (attempt msgInfo { key with srcNodeId := msgInfo.srcNodeId }) := hattempt _ _
    have hnodes := (tryUserNodeIds_attempts hattempt msgInfo
      { key with srcNodeId := msgInfo.srcNodeId } nodeIds).ite
        (b := msgInfo.srcNodeId = 0)
    refine ((hkey.mapFound _).orElse (hnodes.orElse ih)).congr ?_
    rw [List.exists_mem_cons_iff]
    refine ⟨fun h => ?_, fun h => h.imp_right .inr⟩
    rcases h with h | ⟨-, -, h⟩ | h
    · exact .inl h
    · exact .inl h
    · exact .inr h

/-- The hints that may be for the session. -/
def Eligible (hint : MatterProxyHintKey) : Prop :=
  ¬ (hint.hasKeyId = true ∧ hint.keyId ≠ msgInfo.sessionId)

theorem tryHintKeys_attempts (hints : List MatterProxyHintKey) :
    Attempts encData encDataLen st (∃ hint ∈ hints, Eligible msgInfo hint)
      (tryHintKeys attempt msgInfo hints) := by
  induction hints with
  | nil => exact Attempts.skip (by simp)
  | cons hint hints ih =>
    rw [tryHintKeys]
    by_cases helig : hint.hasKeyId = true ∧ hint.keyId ≠ msgInfo.sessionId
    · rw [if_pos helig]
      refine ih.congr ?_
      rw [List.exists_mem_cons_iff]
      exact ⟨.inr, fun h => h.resolve_left fun hn => hn helig⟩
    · rw [if_neg helig]
      have hkey : ∀ info, Attempts encData encDataLen st True
          (attempt info (hintKeyFor msgInfo hint)) := fun info =>
        (hattempt info _).congr (iff_true_intro hint.length_key)
      refine (((hkey msgInfo).mapFound _).orElse
        ((((hkey _).mapFound _).ite).orElse ih)).congr ?_
      rw [List.exists_mem_cons_iff]
      exact iff_of_true (.inl trivial) (.inl helig)

omit hattempt in
theorem learnKey_attempts {c : Prop}
    {search : DecryptM (Option (List UInt8 × MessageEncryptionKey))}
    (h : Attempts encData encDataLen st c search) :
    Attempts encData encDataLen st c (learnKey msgInfo search) := by
  intro calls
  obtain ⟨found, st₁, new, hrun, hs⟩ := h calls
  cases found with
  | some result =>
    have hlearn : (learnKey msgInfo search).run { st with calls := calls } = .ok (some result.1)
        { st₁ with
          keyTable := st₁.keyTable.addKey { result.2 with keyId := msgInfo.sessionId } } := by
      rw [learnKey, bind_ok hrun]; rfl
    exact ⟨_, _, new, hlearn, hs.calls_eq, hs.madeFrom, hs.nil_iff, (fun h => by cases h),
      fun _ => hs.of_some rfl⟩
  | none =>
    have hlearn : (learnKey msgInfo search).run { st with calls := calls } = .ok none st₁ := by
      rw [learnKey, bind_ok hrun]; rfl
    exact ⟨_, _, new, hlearn, hs.calls_eq, hs.madeFrom, hs.nil_iff, fun _ => hs.of_none rfl,
      fun h => by cases h⟩

/-- There is a key to try in the state `st`. -/
def HasCandidate (env : DecryptEnv) (st : DecryptState) : Prop :=
  (∃ key ∈ st.keyTable.findKeysById msgInfo.sessionId, Usable key) ∨
    (∃ key ∈ env.userKeys, Usable key) ∨
    ∃ hint ∈ st.hintKeysFromFile ++ st.hintKeysFromDSB, Eligible msgInfo hint

theorem searchKeys_attempts :
    Attempts encData encDataLen st (HasCandidate msgInfo env st)
      (searchKeys attempt msgInfo env) := by
  have htable : Attempts encData encDataLen st
      (∃ key ∈ st.keyTable.findKeysById msgInfo.sessionId, Usable key)
      (get >>= fun st => tryTableKeys attempt msgInfo
        (st.keyTable.findKeysById msgInfo.sessionId)) :=
    fun calls => tryTableKeys_attempts hattempt msgInfo _ calls
  have hhints : Attempts encData encDataLen st
      (∃ hint ∈ st.hintKeysFromFile ++ st.hintKeysFromDSB, Eligible msgInfo hint)
      (get >>= fun st => learnKey msgInfo
        (tryHintKeys attempt msgInfo (st.hintKeysFromFile ++ st.hintKeysFromDSB))) :=
    fun calls => learnKey_attempts msgInfo (tryHintKeys_attempts hattempt msgInfo _) calls
  exact htable.orElse ((learnKey_attempts msgInfo
    (tryUserKeys_attempts hattempt msgInfo env.userNodeIds env.userKeys)).orElse hhints)

end

/-! ## A message -/

/-- Every call that `TryDecryptMessage` makes for a message is in bounds. -/
def SlicesInBounds (env : DecryptEnv) (st : DecryptState) (tvb : Tvb)
    (msgInfo : MatterMessageInfo) : Prop :=
  ∀ st', ((∃ r, (tryDecryptMessage env tvb msgInfo.headerLen msgInfo).run
        { st with calls := [] } = .ok r st') ∨
      ∃ e, (tryDecryptMessage env tvb msgInfo.headerLen msgInfo).run
        { st with calls := [] } = .err e st') →
    ∀ call ∈ st'.calls, call.InBounds

section
variable (env : DecryptEnv) (st : DecryptState) (tvb : Tvb) (msgInfo : MatterMessageInfo)

theorem memdup_ok {offset length : Nat} (hlen : length < 2 ^ 31)
    (h : offset + length ≤ tvb.bytes.length) :
    (tvb.memdup offset length).run st = .ok ((tvb.bytes.drop offset).take length) st := by
  rw [Tvb.memdup, if_neg (by omega), if_neg (by omega), if_pos ⟨hlen, h⟩]
  rfl

theorem memdup_err {offset length : Nat} (hlen : length < 2 ^ 31)
    (h : tvb.bytes.length < offset + length) :
    (tvb.memdup offset length).run st = .err .outOfRange st := by
  unfold Tvb.memdup
  by_cases hoff : tvb.bytes.length < offset
  · rw [if_pos hoff]; rfl
  · rw [if_neg hoff, if_neg (by omega), if_neg (by omega)]; rfl

/-- A message that the capture has cut short is not sliced. -/
theorem tryDecryptMessage_short (hmsg : msgInfo.msgLen < 2 ^ 16)
    (henc : messageIsEncrypted msgInfo = true) (hlen : msgInfo.headerLen ≤ msgInfo.msgLen)
    (hshort : tvb.bytes.length < msgInfo.msgLen) :
    (tryDecryptMessage env tvb msgInfo.headerLen msgInfo).run st =
      .err .outOfRange (st.refreshMatterProxyHintKeys env.hintFile) := by
  rw [tryDecryptMessage, if_pos henc, modify_bind, sub32_of_le hlen (by omega)]
  exact bind_err (memdup_err _ _ (by omega) (by omega))

theorem calls_refresh (file : HintFile) :
    (st.refreshMatterProxyHintKeys file).calls = st.calls := by
  cases file <;> rfl

/-- The search for a key of a completely captured message. -/
theorem tryDecryptMessage_search (hmsg : msgInfo.msgLen < 2 ^ 16)
    (henc : messageIsEncrypted msgInfo = true) (hlen : msgInfo.headerLen ≤ msgInfo.msgLen)
    (hcap : msgInfo.msgLen ≤ tvb.bytes.length) :
    ∃ encData r st' new, encData.length = msgInfo.msgLen - msgInfo.headerLen ∧
      (tryDecryptMessage env tvb msgInfo.headerLen msgInfo).run st = .ok r st' ∧
      st'.calls = st.calls ++ new ∧ (∀ call ∈ new, MadeFrom encData encData.length call) ∧
      (new = [] ↔ ¬ HasCandidate msgInfo env (st.refreshMatterProxyHintKeys env.hintFile)) := by
  have hdata : ((tvb.bytes.drop msgInfo.headerLen).take
      (msgInfo.msgLen - msgInfo.headerLen)).length = msgInfo.msgLen - msgInfo.headerLen := by
    rw [List.length_take, List.length_drop]; omega
  generalize hst : st.refreshMatterProxyHintKeys env.hintFile = st₀
  have hcalls : st₀.calls = st.calls := by rw [← hst]; exact calls_refresh st _
  obtain ⟨found, st', new, hrun, hs⟩ := @searchKeys_attempts env _ _ st₀ _
    (fun info key => @tryDecryptMessageAES128CCM_attempts env
      ((tvb.bytes.drop msgInfo.headerLen).take (msgInfo.msgLen - msgInfo.headerLen))
      ((tvb.bytes.drop 0).take msgInfo.headerLen) (msgInfo.msgLen - msgInfo.headerLen) st₀
        info key) msgInfo st₀.calls
  have htail : ∃ r, (tryDecryptMessage env tvb msgInfo.headerLen msgInfo).run st = .ok r st' := by
    rw [tryDecryptMessage, if_pos henc, modify_bind, hst, sub32_of_le hlen (by omega)]
    dsimp only
    rw [bind_ok (memdup_ok _ _ (by omega) (by omega)),
      bind_ok (memdup_ok _ _ (by omega) (by omega)), bind_ok hrun]
    cases found <;> exact ⟨_, rfl⟩
  obtain ⟨r, hr⟩ := htail
  exact ⟨_, r, st', new, hdata, hr, hcalls ▸ hs.calls_eq, hdata.symm ▸ hs.madeFrom, hs.nil_iff⟩

/-- The slices for a message are in bounds exactly when its encrypted part has room for the tag,
or it is cut short in the capture, or there is no key to try. -/
theorem tryDecryptMessage_inBounds_iff (hmsg : msgInfo.msgLen < 2 ^ 16)
    (henc : messageIsEncrypted msgInfo = true) (hlen : msgInfo.headerLen ≤ msgInfo.msgLen) :
    SlicesInBounds env st tvb msgInfo ↔
      aesBlockSize ≤ msgInfo.msgLen - msgInfo.headerLen ∨
        tvb.bytes.length < msgInfo.msgLen ∨
        ¬ HasCandidate msgInfo env (st.refreshMatterProxyHintKeys env.hintFile) := by
  unfold SlicesInBounds
  by_cases hshort : tvb.bytes.length < msgInfo.msgLen
  · refine iff_of_true (fun st' hrun call hcall => ?_) (.inr (.inl hshort))
    rw [tryDecryptMessage_short env _ tvb msgInfo hmsg henc hlen hshort] at hrun
    obtain ⟨r, hr⟩ | ⟨e, he⟩ := hrun
    · cases hr
    · cases he
      rw [calls_refresh] at hcall
      exact absurd hcall List.not_mem_nil
  obtain ⟨encData, r, st₁, new, hdata, hr, hcalls, hmade, hnil⟩ :=
    tryDecryptMessage_search env { st with calls := [] } tvb msgInfo hmsg henc hlen (by omega)
  have hcand : HasCandidate msgInfo env
      (DecryptState.refreshMatterProxyHintKeys { st with calls := [] } env.hintFile) ↔
      HasCandidate msgInfo env (st.refreshMatterProxyHintKeys env.hintFile) := by
    cases env.hintFile <;> rfl
  have hfit : encData.length < 2 ^ 32 := by omega
  rw [hcand] at hnil
  refine ⟨fun h => ?_, fun h st' hrun call hcall => ?_⟩
  · by_cases hnew : new = []
    · exact .inr (.inr (hnil.1 hnew))
    · obtain ⟨call, hcall⟩ := List.exists_mem_of_ne_nil _ hnew
      have hin := h st₁ (.inl ⟨r, hr⟩) call (by rw [hcalls]; exact hcall)
      rw [(hmade call hcall).inBounds_iff hfit, hdata] at hin
      exact .inl hin
  · have hst' : st' = st₁ := by
      rw [hr] at hrun
      obtain ⟨r', h'⟩ | ⟨e, h'⟩ := hrun <;> cases h'
      rfl
    rw [hst', hcalls] at hcall
    rw [(hmade call hcall).inBounds_iff hfit, hdata]
    rcases h with h | h | h
    · exact h
    · exact absurd h hshort
    · rw [hnil.2 h] at hcall
      exact absurd hcall List.not_mem_nil

end

/-- One key of the user's, of 16 bytes. -/
def oneKeyEnv : DecryptEnv where
  userKeys := [⟨0, encryptionTypeAES128CCM, List.replicate 16 0, 0⟩]
  userNodeIds := []
  hintFile := .missing
  malloc := fun n => List.replicate n 0
  evpDecrypt := fun _ _ _ _ _ => none

def emptyDecryptState : DecryptState := ⟨fun _ => [], [], [], []⟩

/-- A datagram of session 1: a header, and one byte behind it. -/
def oneByteMessage : Tvb := Tvb.ofBytes [0x00, 0x01, 0x00, 0x00, 0x07, 0x00, 0x00, 0x00, 0xAA]

def oneByteInfo : MatterMessageInfo where
  msgVersion := 0
  msgFlags := 0
  secFlags := 0
  srcNodeId := 0
  destNodeId := 0
  msgId := 7
  sessionType := 0
  sessionId := 1
  msgLen := 9
  headerLen := 8

theorem tryDecryptMessage_inBounds_short :
    (oneByteInfo.msgLen < 2 ^ 16 ∧ messageIsEncrypted oneByteInfo = true ∧
      oneByteInfo.headerLen ≤ oneByteInfo.msgLen) ∧
    (SlicesInBounds oneKeyEnv emptyDecryptState oneByteMessage oneByteInfo ↔
      aesBlockSize ≤ oneByteInfo.msgLen - oneByteInfo.headerLen ∨
        oneByteMessage.bytes.length < oneByteInfo.msgLen ∨
        ¬ HasCandidate oneByteInfo oneKeyEnv
          (emptyDecryptState.refreshMatterProxyHintKeys oneKeyEnv.hintFile)) :=
  ⟨by decide, tryDecryptMessage_inBounds_iff _ _ _ _ (by decide) (by decide) (by decide)⟩

/-- Its tag is looked for 15 bytes before the encrypted data. -/
theorem tryDecryptMessage_oneByte :
    (dissectMessage .udp oneByteMessage).run () = .ok (oneByteMessage, oneByteInfo) () ∧
      messageIsEncrypted oneByteInfo = true ∧ oneByteInfo.headerLen ≤ oneByteInfo.msgLen ∧
      ¬ SlicesInBounds oneKeyEnv emptyDecryptState oneByteMessage oneByteInfo := by
  refine ⟨by decide, by decide, by decide, fun h => ?_⟩
  have hin := h _ (.inl ⟨none, rfl⟩) _ List.mem_cons_self
  exact absurd hin.tag_nonneg (by decide)

end Matter.Message
