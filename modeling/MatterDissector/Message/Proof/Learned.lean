import MatterDissector.Message.Proof.Keys

/-!
# The learned key

A key that is found outside the table is added to it, so that the loop over the table finds it
the next time. It does not if the table has the same bytes already (`IsSameKey` does not look at
the node id, and the key that stays may have another one), or if the node id of a hint takes the
place of the one that worked (`findsAgain_iff`).
-/

namespace Matter.Message

open Prog

/-- A search is a search for the element, and what is found there. -/
theorem findSome?_eq_bind_find? {α β : Type} (f : α → Option β) (as : List α) :
    as.findSome? f = (as.find? fun a => (f a).isSome).bind f := by
  induction as with
  | nil => rfl
  | cons a as ih =>
    rw [List.findSome?_cons, List.find?_cons]
    cases h : f a with
    | none => exact ih
    | some b => exact h.symm

/-- The loop over the keys of the table alone. -/
def tableLoop (env : DecryptEnv) (tvb : Tvb) (encDataOffset : Nat)
    (msgInfo : MatterMessageInfo) : DecryptM (Option (List UInt8)) := do
  let dataLen := sub32 msgInfo.msgLen encDataOffset
  let encData ← tvb.memdup encDataOffset dataLen
  let aadData ← tvb.memdup 0 encDataOffset
  let st ← get
  tryTableKeys (tryDecryptMessageAES128CCM env encData dataLen aadData) msgInfo
    (st.keyTable.findKeysById msgInfo.sessionId)

/-- The loop over the table decrypts the message. -/
def TableDecrypts (env : DecryptEnv) (st : DecryptState) (tvb : Tvb) (encDataOffset : Nat)
    (msgInfo : MatterMessageInfo) : Prop :=
  ∃ plaintext st', (tableLoop env tvb encDataOffset msgInfo).run st = .ok (some plaintext) st'

section
variable {env : DecryptEnv} {st : DecryptState} {tvb : Tvb} {encDataOffset : Nat}
  {msgInfo : MatterMessageInfo}

theorem tableDecrypts_iff {encData aadData : List UInt8}
    (hdata : tvb.copied encDataOffset (sub32 msgInfo.msgLen encDataOffset) = some encData)
    (haad : tvb.copied 0 encDataOffset = some aadData) :
    TableDecrypts env st tvb encDataOffset msgInfo ↔
      (findInTable (decryptMessageWith env tvb encDataOffset msgInfo) st msgInfo).isSome =
        true := by
  obtain ⟨calls, htable⟩ := tryTableKeys_finds (decryptMessageWith_finds hdata haad)
    (st.keyTable.findKeysById msgInfo.sessionId) st
  have hrun : (tableLoop env tvb encDataOffset msgInfo).run st =
      .ok (findInTable (decryptMessageWith env tvb encDataOffset msgInfo) st msgInfo)
        { st with calls := calls } := by
    rw [tableLoop]
    exact (copy_bind hdata haad _ st).trans htable
  unfold TableDecrypts
  rw [hrun, Option.isSome_iff_exists]
  constructor
  · rintro ⟨plaintext, st', hok⟩
    exact ⟨plaintext, (Outcome.ok.inj hok).1⟩
  · rintro ⟨plaintext, hfind⟩
    exact ⟨plaintext, _, by rw [hfind]⟩

end

/-! ## The key that works -/

section
variable (auth : Candidate → Option (List UInt8)) (env : DecryptEnv) (st : DecryptState)
  (msgInfo : MatterMessageInfo)

/-- The key decrypts the message with one of the node ids. -/
def userKeyWorks (key : MessageEncryptionKey) : Bool :=
  (userNodeIdsFor msgInfo env.userNodeIds).any fun nodeId => (auth (key.dataEncKey, nodeId)).isSome

def hintWorks (hint : MatterProxyHintKey) : Bool :=
  mayHint msgInfo hint &&
    (hintNodeIdsFor msgInfo hint).any fun nodeId => (auth (hint.key, nodeId)).isSome

/-- The table has the key, as `IsSameKey` compares, for the session. -/
def KeyTable.hasSameKey (table : KeyTable) (sessionId : Nat) (key : MessageEncryptionKey) : Bool :=
  (table.findKeysById sessionId).any (·.isSameKey key)

/-- The first key of the user's that works, or else the first hint, is new to the session; and
where the message does not say its source, the node id of the hint is the one that works. -/
structure IsLearnable : Prop where
  userKey : ∀ key, env.userKeys.find? (userKeyWorks auth env msgInfo) = some key →
    st.keyTable.hasSameKey msgInfo.sessionId key = false
  hint : env.userKeys.find? (userKeyWorks auth env msgInfo) = none →
    ∀ hint, (st.hintKeysFromFile ++ st.hintKeysFromDSB).find? (hintWorks auth msgInfo) = some hint →
      st.keyTable.hasSameKey msgInfo.sessionId (hintKeyFor msgInfo hint) = false ∧
      (msgInfo.srcNodeId = 0 → hint.hasSrcNodeId = true → hint.srcNodeId ≠ 0 →
        (auth (hint.key, hint.srcNodeId)).isSome = true)

end

section
variable {auth : Candidate → Option (List UInt8)} {env : DecryptEnv} {st : DecryptState}
  {msgInfo : MatterMessageInfo}

theorem isSome_findSome?_map {α β : Type} (f : α → Option (List UInt8)) (g : α → β)
    (as : List α) :
    (as.findSome? fun a => (f a).map (·, g a)).isSome = as.any fun a => (f a).isSome := by
  induction as with
  | nil => rfl
  | cons a as ih =>
    rw [List.findSome?_cons, List.any_cons]
    cases h : f a with
    | none => exact ih
    | some b => rfl

theorem isSome_findWithUserKey (key : MessageEncryptionKey) :
    (findWithUserKey auth msgInfo env.userNodeIds key).isSome =
      userKeyWorks auth env msgInfo key :=
  isSome_findSome?_map _ _ _

theorem isSome_findWithHint (hint : MatterProxyHintKey) :
    (findWithHint auth msgInfo hint).isSome = hintWorks auth msgInfo hint := by
  unfold findWithHint hintWorks
  cases mayHint msgInfo hint with
  | false => rfl
  | true => exact isSome_findSome?_map _ _ _

/-- With a key of the user's, what is learned has its bytes and the node id that worked. -/
theorem tableCandidate_findWithUserKey {key found : MessageEncryptionKey}
    {plaintext : List UInt8}
    (h : findWithUserKey auth msgInfo env.userNodeIds key = some (plaintext, found)) :
    (auth (tableCandidate msgInfo found)).isSome = true ∧
      ∀ other, MessageEncryptionKey.isSameKey other found = other.isSameKey key := by
  obtain ⟨nodeId, hnodeId, hfind⟩ := List.exists_of_findSome?_eq_some h
  obtain ⟨plaintext', hauth, heq⟩ := Option.map_eq_some_iff.1 hfind
  cases heq
  refine ⟨?_, fun _ => rfl⟩
  have hcandidate : tableCandidate msgInfo { key with srcNodeId := nodeId } =
      (key.dataEncKey, nodeId) := by
    unfold tableCandidate
    unfold userNodeIdsFor at hnodeId
    by_cases hzero : msgInfo.srcNodeId = 0
    · by_cases hnode : nodeId = 0
      · simp [hzero, hnode]
      · simp [hzero, hnode]
    · rw [if_neg hzero, List.mem_singleton] at hnodeId
      simp [hzero, hnodeId]
  rw [hcandidate, hauth]
  rfl

/-- With a hint, the node id of the hint may hide the one that worked. -/
theorem tableCandidate_findWithHint {hint : MatterProxyHintKey} {found : MessageEncryptionKey}
    {plaintext : List UInt8} (h : findWithHint auth msgInfo hint = some (plaintext, found)) :
    found = hintKeyFor msgInfo hint ∧
      ((auth (tableCandidate msgInfo found)).isSome = true ↔
        (msgInfo.srcNodeId = 0 → hint.hasSrcNodeId = true → hint.srcNodeId ≠ 0 →
          (auth (hint.key, hint.srcNodeId)).isSome = true)) := by
  unfold findWithHint at h
  split at h
  · obtain ⟨nodeId, hnodeId, hfind⟩ := List.exists_of_findSome?_eq_some h
    obtain ⟨plaintext', hauth, heq⟩ := Option.map_eq_some_iff.1 hfind
    cases heq
    refine ⟨rfl, ?_⟩
    have hworks : (auth (hint.key, nodeId)).isSome = true := by rw [hauth]; rfl
    unfold hintNodeIdsFor at hnodeId
    by_cases hown : msgInfo.srcNodeId = 0 ∧ hint.hasSrcNodeId = true ∧ hint.srcNodeId ≠ 0
    · obtain ⟨hzero, hhas, hnode⟩ := hown
      have hcandidate : tableCandidate msgInfo (hintKeyFor msgInfo hint) =
          (hint.key, hint.srcNodeId) := by
        simp [tableCandidate, hintKeyFor, hzero, hhas, hnode]
      rw [hcandidate]
      exact ⟨fun h _ _ _ => h, fun h => h hzero hhas hnode⟩
    · -- the two node ids that are tried are the same
      have hnodeId' : nodeId = msgInfo.srcNodeId := by
        rcases List.mem_cons.1 hnodeId with h | h
        · exact h
        · split at h
          · rename_i hzero
            have hnode : hint.srcNodeId = 0 := by
              by_contra hne
              exact hown ⟨hzero.1, hzero.2, hne⟩
            rw [List.mem_singleton.1 h, hnode, hzero.1]
          · exact absurd h List.not_mem_nil
      have hcandidate : tableCandidate msgInfo (hintKeyFor msgInfo hint) =
          (hint.key, msgInfo.srcNodeId) := by
        unfold tableCandidate hintKeyFor
        dsimp only
        by_cases hhas : hint.hasSrcNodeId = true
        · rw [if_pos hhas, if_neg fun h => hown ⟨h.2, hhas, h.1⟩]
        · rw [if_neg hhas, if_neg fun h => h.1 h.2]
      rw [hcandidate, ← hnodeId']
      exact iff_of_true hworks fun hzero hhas hne => absurd ⟨hnodeId' ▸ hzero, hhas, hne⟩ hown
  · cases h

/-- After the key `found` has been learned, the table decrypts the message if the key is new to
the session and decrypts the message the way the table is searched. -/
theorem findInTable_learn {found : MessageEncryptionKey} {plaintext : List UInt8}
    {st' : DecryptState} (hnone : findInTable auth st msgInfo = none)
    (htable : st'.keyTable = st.keyTable.learn msgInfo.sessionId (some (plaintext, found))) :
    (findInTable auth st' msgInfo).isSome = true ↔
      st.keyTable.hasSameKey msgInfo.sessionId found = false ∧
        (auth (tableCandidate msgInfo found)).isSome = true := by
  have hsame : (st.keyTable.findKeysById msgInfo.sessionId).any
      (·.isSameKey { found with keyId := msgInfo.sessionId }) =
      st.keyTable.hasSameKey msgInfo.sessionId found := rfl
  unfold findInTable
  rw [htable]
  cases hhas : st.keyTable.hasSameKey msgInfo.sessionId found with
  | true =>
    have hlearn : st.keyTable.learn msgInfo.sessionId (some (plaintext, found)) = st.keyTable := by
      rw [KeyTable.learn, KeyTable.addKey]
      exact if_pos (hsame.trans hhas)
    rw [hlearn]
    unfold findInTable at hnone
    rw [hnone]
    simp
  | false =>
    have hlearn : (st.keyTable.learn msgInfo.sessionId (some (plaintext, found))).findKeysById
        msgInfo.sessionId = { found with keyId := msgInfo.sessionId } ::
          st.keyTable.findKeysById msgInfo.sessionId := by
      have hnew : ¬ (st.keyTable.findKeysById msgInfo.sessionId).any
          (·.isSameKey { found with keyId := msgInfo.sessionId }) = true := by
        rw [hsame, hhas]
        exact Bool.false_ne_true
      rw [KeyTable.learn, KeyTable.addKey]
      show (if (st.keyTable.findKeysById msgInfo.sessionId).any _ = true then _ else _ : KeyTable)
        msgInfo.sessionId = _
      rw [if_neg hnew]
      exact if_pos rfl
    unfold findInTable at hnone
    rw [hlearn, findSome?_cons_eq_or, hnone, Option.or_none]
    exact ⟨fun h => ⟨rfl, h⟩, fun h => h.2⟩

/-- What is found outside the table decrypts the message from the table, if it is learnable. -/
theorem learnable_iff {found : MessageEncryptionKey} {plaintext : List UInt8}
    (h : findOutside auth env st msgInfo = some (plaintext, found)) :
    (st.keyTable.hasSameKey msgInfo.sessionId found = false ∧
      (auth (tableCandidate msgInfo found)).isSome = true) ↔ IsLearnable auth env st msgInfo := by
  have huserKey : (fun key => (findWithUserKey auth msgInfo env.userNodeIds key).isSome) =
      userKeyWorks auth env msgInfo := funext isSome_findWithUserKey
  have hhint : (fun hint => (findWithHint auth msgInfo hint).isSome) = hintWorks auth msgInfo :=
    funext isSome_findWithHint
  unfold findOutside at h
  rw [findSome?_eq_bind_find?, findSome?_eq_bind_find?, huserKey, hhint] at h
  cases hfirst : env.userKeys.find? (userKeyWorks auth env msgInfo) with
  | some key =>
    have hfound : findWithUserKey auth msgInfo env.userNodeIds key = some (plaintext, found) := by
      have hworks : (findWithUserKey auth msgInfo env.userNodeIds key).isSome = true := by
        rw [isSome_findWithUserKey]
        exact List.find?_some hfirst
      rw [hfirst, Option.bind_some, Option.or_of_isSome hworks] at h
      exact h
    obtain ⟨hauth, hsame⟩ := tableCandidate_findWithUserKey hfound
    have hhas : st.keyTable.hasSameKey msgInfo.sessionId found =
        st.keyTable.hasSameKey msgInfo.sessionId key :=
      congrArg (List.any _) (funext hsame)
    rw [hhas]
    constructor
    · rintro ⟨hnew, -⟩
      refine ⟨fun key' hkey' => ?_, fun hnone => ?_⟩
      · rw [hfirst] at hkey'
        rwa [← Option.some.inj hkey']
      · rw [hfirst] at hnone
        cases hnone
    · exact fun hlearn => ⟨hlearn.userKey key hfirst, hauth⟩
  | none =>
    rw [hfirst, Option.bind_none, Option.none_or] at h
    obtain ⟨hint, hfirstHint, hfound⟩ := Option.bind_eq_some_iff.1 h
    obtain ⟨rfl, hauth⟩ := tableCandidate_findWithHint hfound
    rw [hauth]
    constructor
    · rintro ⟨hnew, hworks⟩
      refine ⟨fun key hkey => ?_, fun _ hint' hhint' => ?_⟩
      · rw [hfirst] at hkey
        cases hkey
      · rw [hfirstHint] at hhint'
        rw [← Option.some.inj hhint']
        exact ⟨hnew, hworks⟩
    · exact fun hlearn => hlearn.hint hfirst hint hfirstHint

end

/-! ## The next time -/

/-- For a message that is decrypted with a key from outside the table, the table alone decrypts it
afterwards exactly when that key was learnable. -/
theorem findsAgain_iff {env : DecryptEnv} {st st' : DecryptState} {tvb unencMsgTVB : Tvb}
    {encDataOffset : Nat} {msgInfo : MatterMessageInfo}
    (h : (tryDecryptMessage env tvb encDataOffset msgInfo).run st = .ok (some unencMsgTVB) st')
    (htable : ¬ TableDecrypts env (st.refreshed env) tvb encDataOffset msgInfo) :
    TableDecrypts env st' tvb encDataOffset msgInfo ↔
      IsLearnable (decryptMessageWith env tvb encDataOffset msgInfo) env (st.refreshed env)
        msgInfo := by
  obtain ⟨-, plaintext, calls, hfind, -, rfl⟩ := plaintext_of_tryDecryptMessage h
  obtain ⟨c, -, hauth⟩ := exists_of_findKey hfind
  obtain ⟨encData, aadData, hdata, haad⟩ := copied_of_decrypts (by rw [hauth]; rfl)
  rw [tableDecrypts_iff hdata haad] at htable ⊢
  have hnone : findInTable (decryptMessageWith env tvb encDataOffset msgInfo) (st.refreshed env)
      msgInfo = none := Option.not_isSome_iff_eq_none.1 htable
  unfold findPlaintext findKey at hfind
  rw [hnone, Option.none_or] at hfind
  obtain ⟨⟨plaintext', found⟩, hfound, -⟩ := Option.map_eq_some_iff.1 hfind
  have hlearned : learned (decryptMessageWith env tvb encDataOffset msgInfo) env
      (st.refreshed env) msgInfo = some (plaintext', found) := by
    rw [learned, hnone]
    exact hfound
  have hst' : (st.searched env tvb encDataOffset msgInfo calls).keyTable =
      (st.refreshed env).keyTable.learn msgInfo.sessionId (some (plaintext', found)) := by
    rw [← hlearned]
    rfl
  rw [findInTable_learn hnone hst']
  exact learnable_iff hfound

theorem findsAgain_iff_sealed :
    ∃ unencMsgTVB st',
      (tryDecryptMessage sealedEnv sealedMessage 8 sealedInfo).run emptyDecryptState =
        .ok (some unencMsgTVB) st' ∧
      (TableDecrypts sealedEnv st' sealedMessage 8 sealedInfo ↔
        IsLearnable (decryptMessageWith sealedEnv sealedMessage 8 sealedInfo) sealedEnv
          (emptyDecryptState.refreshed sealedEnv) sealedInfo) := by
  refine ⟨_, _, rfl, findsAgain_iff rfl ?_⟩
  rintro ⟨plaintext, st', h⟩
  cases h

/-- The shared key has been learned from node 1 of session 1. -/
def sharedState : DecryptState :=
  { emptyDecryptState with
    keyTable := emptyDecryptState.keyTable.addKey ⟨1, encryptionTypeAES128CCM, sharedKey, 1⟩ }

/-- The message of node 2 is decrypted with the key of the user's, and not from the table
afterwards. -/
theorem findsAgain_sharedKey :
    ∃ unencMsgTVB st',
      (tryDecryptMessage sealedEnv sealedMessage 8 sealedInfo).run sharedState =
        .ok (some unencMsgTVB) st' ∧
      ¬ TableDecrypts sealedEnv (sharedState.refreshed sealedEnv) sealedMessage 8 sealedInfo ∧
      ¬ TableDecrypts sealedEnv st' sealedMessage 8 sealedInfo := by
  refine ⟨_, _, rfl, ?_, ?_⟩
  · rintro ⟨plaintext, st', h⟩
    cases h
  · rintro ⟨plaintext, st', h⟩
    cases h

end Matter.Message
