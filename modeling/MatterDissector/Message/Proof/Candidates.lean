import MatterDissector.Message.Decrypt

/-!
# The search for a key, as a function

`TryDecryptMessage_AES128CCM` depends on the bytes of a key and on the node id that goes into the
nonce (`Candidate`, `decryptWith`); it changes nothing but the record of the calls (`Finds`). So
the search goes through a list of candidates (`candidates`) up to the first that decrypts the
message, and the only lasting change is the key that is learned (`searchKeys_run`,
`tryDecryptMessage_run`).
-/

namespace Matter.Message

open Prog

/-- The bytes of a key and the source node id for the nonce. -/
abbrev Candidate := List UInt8 × Nat

/-- `TryDecryptMessage_AES128CCM` as a function. -/
def decryptWith (env : DecryptEnv) (encData : List UInt8) (encDataLen : Nat) (aad : List UInt8)
    (msgInfo : MatterMessageInfo) (c : Candidate) : Option (List UInt8) :=
  if c.1.length ≠ dataEncKeyLengthAES128CCM then none
  else aesCcmDecrypt env
    { encData, encDataLen, aad
      ciphertextLength := sub32 encDataLen aesBlockSize
      tag := encDataLen - aesBlockSize
      nonce := ccmNonce { msgInfo with srcNodeId := c.2 }
      key := c.1 }

/-- `x` finds `r` in every state, and changes nothing but the record of the calls. -/
def Finds {α : Type} (x : DecryptM (Option α)) (r : Option α) : Prop :=
  ∀ st, ∃ calls, x.run st = .ok r { st with calls := calls }

section
variable {α β : Type} {x y : DecryptM (Option α)} {r r' : Option α}

theorem Finds.pure (r : Option α) : Finds (Pure.pure r) r := fun st => ⟨st.calls, rfl⟩

theorem Finds.orElse (hx : Finds x r) (hy : Finds y r') : Finds (x.orElse y) (r.or r') := by
  intro st
  obtain ⟨calls, hrun⟩ := hx st
  cases r with
  | some a => exact ⟨calls, orElse_some hrun⟩
  | none =>
    obtain ⟨calls', hrun'⟩ := hy { st with calls := calls }
    exact ⟨calls', (orElse_none hrun).trans hrun'⟩

theorem Finds.mapFound (hx : Finds x r) (f : α → β) : Finds (x.mapFound f) (r.map f) := by
  intro st
  obtain ⟨calls, hrun⟩ := hx st
  exact ⟨calls, mapFound_ok hrun⟩

theorem Finds.ite {c : Prop} [Decidable c] (hx : Finds x r) (hy : Finds y r') :
    Finds (if c then x else y) (if c then r else r') := by
  split
  · exact hx
  · exact hy

end

theorem findSome?_cons_eq_or {α β : Type} (f : α → Option β) (a : α) (as : List α) :
    (a :: as).findSome? f = (f a).or (as.findSome? f) := by
  rw [List.findSome?_cons]
  cases f a <;> rfl

theorem tryDecryptMessageAES128CCM_finds (env : DecryptEnv) (encData : List UInt8)
    (encDataLen : Nat) (aad : List UInt8) (msgInfo : MatterMessageInfo)
    (key : MessageEncryptionKey) :
    Finds (tryDecryptMessageAES128CCM env encData encDataLen aad msgInfo key)
      (decryptWith env encData encDataLen aad msgInfo (key.dataEncKey, msgInfo.srcNodeId)) := by
  intro st
  unfold tryDecryptMessageAES128CCM decryptWith
  by_cases hlen : key.dataEncKey.length ≠ dataEncKeyLengthAES128CCM
  · rw [if_pos hlen, if_pos hlen]
    exact ⟨st.calls, rfl⟩
  · rw [if_neg hlen, if_neg hlen]
    exact ⟨_, rfl⟩

/-! ## The three searches -/

section
variable (auth : Candidate → Option (List UInt8)) (msgInfo : MatterMessageInfo)

/-- The candidate of a key of the table. -/
def tableCandidate (key : MessageEncryptionKey) : Candidate :=
  (key.dataEncKey,
    if key.srcNodeId ≠ 0 ∧ msgInfo.srcNodeId = 0 then key.srcNodeId else msgInfo.srcNodeId)

/-- The node ids that are tried with a key of the user's. -/
def userNodeIdsFor (nodeIds : List Nat) : List Nat :=
  msgInfo.srcNodeId :: if msgInfo.srcNodeId = 0 then nodeIds else []

/-- The node ids that are tried with a hint. -/
def hintNodeIdsFor (hint : MatterProxyHintKey) : List Nat :=
  msgInfo.srcNodeId ::
    if msgInfo.srcNodeId = 0 ∧ hint.hasSrcNodeId then [hint.srcNodeId] else []

/-- The hint may be for the session. -/
def mayHint (hint : MatterProxyHintKey) : Bool :=
  !(hint.hasKeyId && hint.keyId != msgInfo.sessionId)

variable {msgInfo} in
theorem mayHint_iff {hint : MatterProxyHintKey} : mayHint msgInfo hint = true ↔
    ¬ (hint.hasKeyId = true ∧ hint.keyId ≠ msgInfo.sessionId) := by
  unfold mayHint
  cases hint.hasKeyId <;> simp

/-- What a key of the user's finds: the plaintext, and the key with the node id. -/
def findWithUserKey (nodeIds : List Nat) (key : MessageEncryptionKey) :
    Option (List UInt8 × MessageEncryptionKey) :=
  (userNodeIdsFor msgInfo nodeIds).findSome? fun nodeId =>
    (auth (key.dataEncKey, nodeId)).map (·, { key with srcNodeId := nodeId })

/-- What a hint finds: the plaintext, and the key it stands for. -/
def findWithHint (hint : MatterProxyHintKey) : Option (List UInt8 × MessageEncryptionKey) :=
  if mayHint msgInfo hint then
    (hintNodeIdsFor msgInfo hint).findSome? fun nodeId =>
      (auth (hint.key, nodeId)).map (·, hintKeyFor msgInfo hint)
  else none

end

section
variable {attempt : MatterMessageInfo → MessageEncryptionKey → DecryptM (Option (List UInt8))}
  {auth : Candidate → Option (List UInt8)} {msgInfo : MatterMessageInfo}
  (hattempt : ∀ nodeId key,
    Finds (attempt { msgInfo with srcNodeId := nodeId } key) (auth (key.dataEncKey, nodeId)))
include hattempt

theorem tryTableKeys_finds (keys : List MessageEncryptionKey) :
    Finds (tryTableKeys attempt msgInfo keys)
      (keys.findSome? fun key => auth (tableCandidate msgInfo key)) := by
  induction keys with
  | nil => exact .pure none
  | cons key keys ih =>
    rw [tryTableKeys, findSome?_cons_eq_or]
    refine .orElse ?_ ih
    unfold tableCandidate
    split
    · exact hattempt key.srcNodeId key
    · exact hattempt msgInfo.srcNodeId key

theorem tryUserNodeIds_finds (userPrefKey : MessageEncryptionKey) (nodeIds : List Nat) :
    Finds (tryUserNodeIds attempt msgInfo userPrefKey nodeIds)
      (nodeIds.findSome? fun nodeId => (auth (userPrefKey.dataEncKey, nodeId)).map
        (·, { userPrefKey with srcNodeId := nodeId })) := by
  induction nodeIds with
  | nil => exact .pure none
  | cons nodeId nodeIds ih =>
    rw [tryUserNodeIds, findSome?_cons_eq_or]
    exact ((hattempt nodeId userPrefKey).mapFound _).orElse ih

theorem tryUserKeys_finds (nodeIds : List Nat) (keys : List MessageEncryptionKey) :
    Finds (tryUserKeys attempt msgInfo nodeIds keys)
      (keys.findSome? (findWithUserKey auth msgInfo nodeIds)) := by
  induction keys with
  | nil => exact .pure none
  | cons key keys ih =>
    let userPrefKey := { key with srcNodeId := msgInfo.srcNodeId }
    have hown := (hattempt msgInfo.srcNodeId userPrefKey).mapFound (·, userPrefKey)
    have hids := (tryUserNodeIds_finds hattempt userPrefKey nodeIds).ite
      (c := msgInfo.srcNodeId = 0) (.pure none)
    have hfind : findWithUserKey auth msgInfo nodeIds key =
        ((auth (userPrefKey.dataEncKey, msgInfo.srcNodeId)).map (·, userPrefKey)).or
          (if msgInfo.srcNodeId = 0 then
            nodeIds.findSome? fun nodeId => (auth (userPrefKey.dataEncKey, nodeId)).map
              (·, { userPrefKey with srcNodeId := nodeId })
          else none) := by
      rw [findWithUserKey, userNodeIdsFor, findSome?_cons_eq_or]
      split <;> rfl
    rw [tryUserKeys, findSome?_cons_eq_or, hfind, Option.or_assoc]
    exact hown.orElse (hids.orElse ih)

theorem tryHintKeys_finds (hints : List MatterProxyHintKey) :
    Finds (tryHintKeys attempt msgInfo hints) (hints.findSome? (findWithHint auth msgInfo)) := by
  induction hints with
  | nil => exact .pure none
  | cons hint hints ih =>
    rw [tryHintKeys, findSome?_cons_eq_or]
    by_cases hskip : hint.hasKeyId = true ∧ hint.keyId ≠ msgInfo.sessionId
    · have hmay : ¬ mayHint msgInfo hint = true := fun h => mayHint_iff.1 h hskip
      rw [if_pos hskip, findWithHint, if_neg hmay]
      exact ih
    · have hmay : mayHint msgInfo hint = true := mayHint_iff.2 hskip
      have hown := (hattempt msgInfo.srcNodeId (hintKeyFor msgInfo hint)).mapFound
        (·, hintKeyFor msgInfo hint)
      have hhinted := ((hattempt hint.srcNodeId (hintKeyFor msgInfo hint)).mapFound
        (·, hintKeyFor msgInfo hint)).ite
        (c := msgInfo.srcNodeId = 0 ∧ hint.hasSrcNodeId = true) (.pure none)
      have hfind : findWithHint auth msgInfo hint =
          ((auth (hint.key, msgInfo.srcNodeId)).map (·, hintKeyFor msgInfo hint)).or
            (if msgInfo.srcNodeId = 0 ∧ hint.hasSrcNodeId = true then
              (auth (hint.key, hint.srcNodeId)).map (·, hintKeyFor msgInfo hint)
            else none) := by
        rw [findWithHint, if_pos hmay, hintNodeIdsFor, findSome?_cons_eq_or]
        split
        · rw [findSome?_cons_eq_or, List.findSome?_nil, Option.or_none]
        · rfl
      rw [if_neg hskip, hfind, Option.or_assoc]
      exact hown.orElse (hhinted.orElse ih)

/-! ## The whole search -/

omit hattempt in
/-- The table once `found` has been learned. -/
def KeyTable.learn (table : KeyTable) (sessionId : Nat) :
    Option (List UInt8 × MessageEncryptionKey) → KeyTable
  | some (_, key) => table.addKey { key with keyId := sessionId }
  | none => table

omit hattempt in
variable (msgInfo) in
theorem learnKey_run {search : DecryptM (Option (List UInt8 × MessageEncryptionKey))}
    {found : Option (List UInt8 × MessageEncryptionKey)} (hsearch : Finds search found)
    (st : DecryptState) :
    ∃ calls, (learnKey msgInfo search).run st = .ok (found.map Prod.fst)
      { st with keyTable := st.keyTable.learn msgInfo.sessionId found, calls := calls } := by
  obtain ⟨calls, hrun⟩ := hsearch st
  refine ⟨calls, ?_⟩
  rw [learnKey, bind_ok hrun]
  cases found <;> rfl

end

section
variable (auth : Candidate → Option (List UInt8)) (env : DecryptEnv) (st : DecryptState)
  (msgInfo : MatterMessageInfo)

/-- What the loop over the table finds. -/
def findInTable : Option (List UInt8) :=
  (st.keyTable.findKeysById msgInfo.sessionId).findSome? fun key =>
    auth (tableCandidate msgInfo key)

/-- What is found outside the table. -/
def findOutside : Option (List UInt8 × MessageEncryptionKey) :=
  (env.userKeys.findSome? (findWithUserKey auth msgInfo env.userNodeIds)).or
    ((st.hintKeysFromFile ++ st.hintKeysFromDSB).findSome? (findWithHint auth msgInfo))

/-- What the whole search finds. -/
def findKey : Option (List UInt8) :=
  (findInTable auth st msgInfo).or ((findOutside auth env st msgInfo).map Prod.fst)

/-- The key to learn: none if the table has one. -/
def learned : Option (List UInt8 × MessageEncryptionKey) :=
  if (findInTable auth st msgInfo).isSome then none else findOutside auth env st msgInfo

end

theorem searchKeys_run {attempt : MatterMessageInfo → MessageEncryptionKey →
    DecryptM (Option (List UInt8))} {auth : Candidate → Option (List UInt8)}
    {msgInfo : MatterMessageInfo}
    (hattempt : ∀ nodeId key,
      Finds (attempt { msgInfo with srcNodeId := nodeId } key) (auth (key.dataEncKey, nodeId)))
    (env : DecryptEnv) (st : DecryptState) :
    ∃ calls, (searchKeys attempt msgInfo env).run st = .ok
      (findKey auth env st msgInfo)
      { st with
        keyTable := st.keyTable.learn msgInfo.sessionId (learned auth env st msgInfo)
        calls := calls } := by
  obtain ⟨calls, htable⟩ : ∃ calls, (get >>= fun st : DecryptState =>
      tryTableKeys attempt msgInfo (st.keyTable.findKeysById msgInfo.sessionId)).run st =
      .ok (findInTable auth st msgInfo) { st with calls := calls } :=
    tryTableKeys_finds hattempt _ st
  unfold learned findKey findOutside
  cases hfound : findInTable auth st msgInfo with
  | some plaintext =>
    rw [hfound] at htable
    exact ⟨calls, orElse_some htable⟩
  | none =>
    rw [hfound] at htable
    obtain ⟨calls₁, huser⟩ := learnKey_run msgInfo
      (tryUserKeys_finds hattempt env.userNodeIds env.userKeys) { st with calls := calls }
    rw [searchKeys, orElse_none htable, if_neg (by simp)]
    cases hfoundUser : env.userKeys.findSome? (findWithUserKey auth msgInfo env.userNodeIds) with
    | some found =>
      rw [hfoundUser] at huser
      exact ⟨calls₁, orElse_some huser⟩
    | none =>
      rw [hfoundUser] at huser
      obtain ⟨calls₂, hhints⟩ := learnKey_run msgInfo
        (tryHintKeys_finds hattempt (st.hintKeysFromFile ++ st.hintKeysFromDSB))
        { st with calls := calls₁ }
      rw [orElse_none huser]
      exact ⟨calls₂, hhints⟩

/-! ## Candidates -/

section
variable (env : DecryptEnv) (st : DecryptState) (msgInfo : MatterMessageInfo)

/-- The candidates that the search goes through. -/
def IsCandidate (c : Candidate) : Prop :=
  (∃ key ∈ st.keyTable.findKeysById msgInfo.sessionId, c = tableCandidate msgInfo key) ∨
  (∃ key ∈ env.userKeys, ∃ nodeId ∈ userNodeIdsFor msgInfo env.userNodeIds,
    c = (key.dataEncKey, nodeId)) ∨
  ∃ hint ∈ st.hintKeysFromFile ++ st.hintKeysFromDSB, mayHint msgInfo hint = true ∧
    ∃ nodeId ∈ hintNodeIdsFor msgInfo hint, c = (hint.key, nodeId)

variable {env st msgInfo} {auth : Candidate → Option (List UInt8)} {c : Candidate}
  {plaintext : List UInt8}

/-- What is found is what a candidate decrypts. -/
theorem exists_of_findKey (h : findKey auth env st msgInfo = some plaintext) :
    ∃ c, IsCandidate env st msgInfo c ∧ auth c = some plaintext := by
  unfold findKey at h
  rcases Option.or_eq_some_iff.1 h with htable | ⟨-, houtside⟩
  · obtain ⟨key, hkey, hauth⟩ := List.exists_of_findSome?_eq_some htable
    exact ⟨_, .inl ⟨key, hkey, rfl⟩, hauth⟩
  obtain ⟨⟨plaintext', found⟩, hfound, rfl⟩ := Option.map_eq_some_iff.1 houtside
  rcases Option.or_eq_some_iff.1 hfound with huser | ⟨-, hhint⟩
  · obtain ⟨key, hkey, hfind⟩ := List.exists_of_findSome?_eq_some huser
    obtain ⟨nodeId, hnodeId, hauth⟩ := List.exists_of_findSome?_eq_some hfind
    obtain ⟨plaintext, hdecrypts, heq⟩ := Option.map_eq_some_iff.1 hauth
    cases heq
    exact ⟨_, .inr (.inl ⟨key, hkey, nodeId, hnodeId, rfl⟩), hdecrypts⟩
  · obtain ⟨hint, hmem, hfind⟩ := List.exists_of_findSome?_eq_some hhint
    unfold findWithHint at hfind
    split at hfind
    · rename_i hmay
      obtain ⟨nodeId, hnodeId, hauth⟩ := List.exists_of_findSome?_eq_some hfind
      obtain ⟨plaintext, hdecrypts, heq⟩ := Option.map_eq_some_iff.1 hauth
      cases heq
      exact ⟨_, .inr (.inr ⟨hint, hmem, hmay, nodeId, hnodeId, rfl⟩), hdecrypts⟩
    · cases hfind

/-- A candidate that decrypts the message is enough for the search. -/
theorem findKey_isSome (hc : IsCandidate env st msgInfo c) (hauth : (auth c).isSome = true) :
    (findKey auth env st msgInfo).isSome = true := by
  unfold findKey
  rw [Option.isSome_or, Bool.or_eq_true]
  rcases hc with ⟨key, hkey, rfl⟩ | ⟨key, hkey, nodeId, hnodeId, rfl⟩ |
    ⟨hint, hmem, hmay, nodeId, hnodeId, rfl⟩
  · exact .inl (List.findSome?_isSome_iff.2 ⟨key, hkey, hauth⟩)
  · right
    rw [Option.isSome_map, findOutside, Option.isSome_or, Bool.or_eq_true]
    left
    refine List.findSome?_isSome_iff.2 ⟨key, hkey, ?_⟩
    exact List.findSome?_isSome_iff.2 ⟨nodeId, hnodeId, by rw [Option.isSome_map]; exact hauth⟩
  · right
    rw [Option.isSome_map, findOutside, Option.isSome_or, Bool.or_eq_true]
    right
    refine List.findSome?_isSome_iff.2 ⟨hint, hmem, ?_⟩
    rw [findWithHint, if_pos hmay]
    exact List.findSome?_isSome_iff.2 ⟨nodeId, hnodeId, by rw [Option.isSome_map]; exact hauth⟩

end

/-! ## A message -/

/-- What `tvb_memdup` returns, if it does not throw. -/
def Tvb.copied (tvb : Tvb) (offset length : Nat) : Option (List UInt8) :=
  if tvb.bytes.length < offset then none
  else if length = 2 ^ 32 - 1 then some (tvb.bytes.drop offset)
  else if length < 2 ^ 31 ∧ offset + length ≤ tvb.bytes.length then
    some ((tvb.bytes.drop offset).take length)
  else none

theorem memdup_run {σ : Type} (tvb : Tvb) (offset length : Nat) (s : σ) :
    (tvb.memdup offset length).run s = match tvb.copied offset length with
      | some bytes => .ok bytes s
      | none => .err .outOfRange s := by
  unfold Tvb.memdup Tvb.copied
  split
  · rfl
  · split
    · rfl
    · split <;> rfl

/-- `TryDecryptMessage_AES128CCM` for a message: nothing decrypts one that is cut short. -/
def decryptMessageWith (env : DecryptEnv) (tvb : Tvb) (encDataOffset : Nat)
    (msgInfo : MatterMessageInfo) (c : Candidate) : Option (List UInt8) :=
  match tvb.copied encDataOffset (sub32 msgInfo.msgLen encDataOffset), tvb.copied 0 encDataOffset
  with
  | some encData, some aadData =>
    decryptWith env encData (sub32 msgInfo.msgLen encDataOffset) aadData msgInfo c
  | _, _ => none

section
variable {env : DecryptEnv} {tvb : Tvb} {encDataOffset : Nat} {msgInfo : MatterMessageInfo}
  {encData aadData : List UInt8}
  (hdata : tvb.copied encDataOffset (sub32 msgInfo.msgLen encDataOffset) = some encData)
  (haad : tvb.copied 0 encDataOffset = some aadData)
include hdata haad

/-- An attempt on the copies of the message. -/
theorem decryptMessageWith_finds (nodeId : Nat) (key : MessageEncryptionKey) :
    Finds (tryDecryptMessageAES128CCM env encData (sub32 msgInfo.msgLen encDataOffset) aadData
      { msgInfo with srcNodeId := nodeId } key)
      (decryptMessageWith env tvb encDataOffset msgInfo (key.dataEncKey, nodeId)) := by
  rw [decryptMessageWith, hdata, haad]
  exact tryDecryptMessageAES128CCM_finds env encData _ aadData
    { msgInfo with srcNodeId := nodeId } key

/-- The message is copied. -/
theorem copy_bind {α : Type} (k : List UInt8 → List UInt8 → DecryptM α) (st : DecryptState) :
    (do
      let encData ← tvb.memdup encDataOffset (sub32 msgInfo.msgLen encDataOffset)
      let aadData ← tvb.memdup 0 encDataOffset
      k encData aadData : DecryptM α).run st = (k encData aadData).run st := by
  have hcopy : (tvb.memdup encDataOffset (sub32 msgInfo.msgLen encDataOffset)).run st =
      .ok encData st := by rw [memdup_run, hdata]
  have hcopyAad : (tvb.memdup 0 encDataOffset).run st = .ok aadData st := by
    rw [memdup_run, haad]
  rw [bind_ok hcopy, bind_ok hcopyAad]

end

/-- The state in which the keys are searched. -/
def DecryptState.refreshed (st : DecryptState) (env : DecryptEnv) : DecryptState :=
  st.refreshMatterProxyHintKeys env.hintFile

/-- The plaintext that `TryDecryptMessage` finds. -/
def findPlaintext (env : DecryptEnv) (st : DecryptState) (tvb : Tvb) (encDataOffset : Nat)
    (msgInfo : MatterMessageInfo) : Option (List UInt8) :=
  findKey (decryptMessageWith env tvb encDataOffset msgInfo) env (st.refreshed env) msgInfo

/-- The buffer for a plaintext. -/
def unencBuffer (env : DecryptEnv) (msgInfo : MatterMessageInfo) (encDataOffset : Nat)
    (plaintext : List UInt8) : Tvb :=
  let dataLen := sub32 msgInfo.msgLen encDataOffset
  ⟨plaintext ++ (env.malloc dataLen).drop plaintext.length, dataLen⟩

/-- `TryDecryptMessage` of an encrypted message, where it does not throw. -/
theorem tryDecryptMessage_run {env : DecryptEnv} {tvb : Tvb} {encDataOffset : Nat}
    {msgInfo : MatterMessageInfo} (henc : messageIsEncrypted msgInfo = true) (st : DecryptState)
    {encData aadData : List UInt8}
    (hdata : tvb.copied encDataOffset (sub32 msgInfo.msgLen encDataOffset) = some encData)
    (haad : tvb.copied 0 encDataOffset = some aadData) :
    ∃ calls, (tryDecryptMessage env tvb encDataOffset msgInfo).run st = .ok
      ((findPlaintext env st tvb encDataOffset msgInfo).map
        (unencBuffer env msgInfo encDataOffset))
      { st.refreshed env with
        keyTable := (st.refreshed env).keyTable.learn msgInfo.sessionId
          (learned (decryptMessageWith env tvb encDataOffset msgInfo) env (st.refreshed env)
            msgInfo)
        calls := calls } := by
  obtain ⟨calls, hsearch⟩ :=
    searchKeys_run (decryptMessageWith_finds hdata haad) env (st.refreshed env)
  refine ⟨calls, ?_⟩
  rw [tryDecryptMessage, if_pos henc, modify_bind]
  refine (copy_bind hdata haad _ (st.refreshed env)).trans ?_
  show (searchKeys _ msgInfo env >>= _).run (st.refreshed env) = _
  rw [bind_ok hsearch]
  unfold findPlaintext
  cases findKey _ env (st.refreshed env) msgInfo <;> rfl

/-- A message that is cut short throws. -/
theorem tryDecryptMessage_throws {env : DecryptEnv} {tvb : Tvb} {encDataOffset : Nat}
    {msgInfo : MatterMessageInfo} (henc : messageIsEncrypted msgInfo = true) (st : DecryptState)
    (h : tvb.copied encDataOffset (sub32 msgInfo.msgLen encDataOffset) = none ∨
      tvb.copied 0 encDataOffset = none) :
    (tryDecryptMessage env tvb encDataOffset msgInfo).run st =
      .err .outOfRange (st.refreshed env) := by
  rw [tryDecryptMessage, if_pos henc, modify_bind]
  show (tvb.memdup encDataOffset (sub32 msgInfo.msgLen encDataOffset) >>= _).run
    (st.refreshed env) = _
  cases hdata : tvb.copied encDataOffset (sub32 msgInfo.msgLen encDataOffset) with
  | none =>
    rw [bind_err]
    rw [memdup_run, hdata]
  | some encData =>
    have hcopy : (tvb.memdup encDataOffset (sub32 msgInfo.msgLen encDataOffset)).run
        (st.refreshed env) = .ok encData (st.refreshed env) := by rw [memdup_run, hdata]
    have haad : tvb.copied 0 encDataOffset = none := h.resolve_left (by rw [hdata]; simp)
    rw [bind_ok hcopy, bind_err]
    rw [memdup_run, haad]

theorem tryDecryptMessage_unencrypted {env : DecryptEnv} {tvb : Tvb} {encDataOffset : Nat}
    {msgInfo : MatterMessageInfo} (henc : messageIsEncrypted msgInfo = false)
    (st : DecryptState) :
    (tryDecryptMessage env tvb encDataOffset msgInfo).run st = .ok none st := by
  rw [tryDecryptMessage, henc]
  rfl

section
variable {env : DecryptEnv} {tvb : Tvb} {encDataOffset : Nat} {msgInfo : MatterMessageInfo}
  {st st' : DecryptState}

/-- The state after the search. -/
def DecryptState.searched (st : DecryptState) (env : DecryptEnv) (tvb : Tvb) (encDataOffset : Nat)
    (msgInfo : MatterMessageInfo) (calls : List CcmCall) : DecryptState :=
  { st.refreshed env with
    keyTable := (st.refreshed env).keyTable.learn msgInfo.sessionId
      (learned (decryptMessageWith env tvb encDataOffset msgInfo) env (st.refreshed env) msgInfo)
    calls }

/-- The message is copied where something decrypts it. -/
theorem copied_of_decrypts {c : Candidate}
    (h : (decryptMessageWith env tvb encDataOffset msgInfo c).isSome = true) :
    ∃ encData aadData, tvb.copied encDataOffset (sub32 msgInfo.msgLen encDataOffset) =
      some encData ∧ tvb.copied 0 encDataOffset = some aadData := by
  unfold decryptMessageWith at h
  split at h
  · rename_i encData aadData hdata haad
    exact ⟨encData, aadData, hdata, haad⟩
  · cases h

/-- A message that is found to have a plaintext. -/
theorem tryDecryptMessage_found (henc : messageIsEncrypted msgInfo = true)
    {plaintext : List UInt8}
    (hfind : findPlaintext env st tvb encDataOffset msgInfo = some plaintext) :
    ∃ calls, (tryDecryptMessage env tvb encDataOffset msgInfo).run st =
      .ok (some (unencBuffer env msgInfo encDataOffset plaintext))
        (st.searched env tvb encDataOffset msgInfo calls) := by
  obtain ⟨c, -, hauth⟩ := exists_of_findKey hfind
  obtain ⟨encData, aadData, hdata, haad⟩ := copied_of_decrypts (by rw [hauth]; rfl)
  obtain ⟨calls, hrun⟩ := tryDecryptMessage_run henc st hdata haad
  rw [hfind] at hrun
  exact ⟨calls, hrun⟩

/-- `TryDecryptMessage` always comes back, and decrypts where there is a plaintext to be found. -/
theorem tryDecryptMessage_cases (env : DecryptEnv) (tvb : Tvb) (encDataOffset : Nat)
    (msgInfo : MatterMessageInfo) (st : DecryptState) :
    (messageIsEncrypted msgInfo = true ∧ ∃ calls,
      (tryDecryptMessage env tvb encDataOffset msgInfo).run st = .ok
        ((findPlaintext env st tvb encDataOffset msgInfo).map
          (unencBuffer env msgInfo encDataOffset))
        (st.searched env tvb encDataOffset msgInfo calls)) ∨
    (messageIsEncrypted msgInfo = true ∧
      (tryDecryptMessage env tvb encDataOffset msgInfo).run st =
        .err .outOfRange (st.refreshed env)) ∨
    (messageIsEncrypted msgInfo = false ∧
      (tryDecryptMessage env tvb encDataOffset msgInfo).run st = .ok none st) := by
  cases henc : messageIsEncrypted msgInfo with
  | false => exact .inr (.inr ⟨rfl, tryDecryptMessage_unencrypted henc st⟩)
  | true =>
    cases hdata : tvb.copied encDataOffset (sub32 msgInfo.msgLen encDataOffset) with
    | none => exact .inr (.inl ⟨rfl, tryDecryptMessage_throws henc st (.inl hdata)⟩)
    | some encData =>
      cases haad : tvb.copied 0 encDataOffset with
      | none => exact .inr (.inl ⟨rfl, tryDecryptMessage_throws henc st (.inr haad)⟩)
      | some aadData => exact .inl ⟨rfl, tryDecryptMessage_run henc st hdata haad⟩

/-- A message that is decrypted. -/
theorem plaintext_of_tryDecryptMessage {unencMsgTVB : Tvb}
    (h : (tryDecryptMessage env tvb encDataOffset msgInfo).run st =
      .ok (some unencMsgTVB) st') :
    messageIsEncrypted msgInfo = true ∧ ∃ plaintext calls,
      findPlaintext env st tvb encDataOffset msgInfo = some plaintext ∧
      unencMsgTVB = unencBuffer env msgInfo encDataOffset plaintext ∧
      st' = st.searched env tvb encDataOffset msgInfo calls := by
  rcases tryDecryptMessage_cases env tvb encDataOffset msgInfo st with
    ⟨henc, calls, hrun⟩ | ⟨-, hrun⟩ | ⟨-, hrun⟩
  · rw [h] at hrun
    obtain ⟨hresult, hst'⟩ := Outcome.ok.inj hrun
    obtain ⟨plaintext, hfind, hbuffer⟩ := Option.map_eq_some_iff.1 hresult.symm
    exact ⟨henc, plaintext, calls, hfind, hbuffer.symm, hst'⟩
  · rw [h] at hrun
    cases hrun
  · rw [h] at hrun
    cases hrun

end

end Matter.Message
