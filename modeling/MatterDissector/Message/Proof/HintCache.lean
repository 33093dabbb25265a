import MatterDissector.Lib.StampCache
import MatterDissector.Message.HintCache
import MatterDissector.Message.Proof.KeyTable
import MatterDissector.Message.Proof.Keys

/-!
# The hint file between calls

`RefreshMatterProxyHintKeys` keeps a stamped cache of the hint file: the stamp is the path with the
modification time (`HintState.cache_refresh`). A file that is missing voids it and leaves the time
0. A hint whose key is in the table already is not put there again, and the hints that are kept
have theirs there (`Preloaded`); so a run of events gives the same as one that reads the file at
every call exactly if what the calls see is coherent: `runEvents_eq_iff`.
-/

namespace Matter.Message

open Prog StampCache

/-! ## Keys of hints -/

/-- The key of a hint, if it has a key id, is in the table. -/
def KeyTable.Holds (table : KeyTable) (hint : MatterProxyHintKey) : Prop :=
  hint.hasKeyId = true → ∃ entry ∈ table.findKeysById hint.keyId,
    entry.sessionType = encryptionTypeAES128CCM ∧ entry.dataEncKey = hint.key

namespace KeyTable

variable {table table' : KeyTable} {hint : MatterProxyHintKey} {hints : List MatterProxyHintKey}

theorem Holds.mono (h : table.Holds hint) (hsub : table.Sub table') : table'.Holds hint :=
  fun hid => by
    obtain ⟨entry, hentry, hsame⟩ := h hid
    exact ⟨entry, hsub _ _ hentry, hsame⟩

theorem Holds.preloadHintKey (h : table.Holds hint) : table.preloadHintKey hint = table := by
  unfold KeyTable.preloadHintKey
  split
  · next hid =>
    obtain ⟨entry, hentry, hsame⟩ := h hid
    exact addKey_known ⟨entry, hentry, MessageEncryptionKey.isSameKey_iff.2 hsame⟩
  · rfl

theorem holds_preloadHintKey (table : KeyTable) (hint : MatterProxyHintKey) :
    (table.preloadHintKey hint).Holds hint := by
  intro hid
  rw [KeyTable.preloadHintKey, if_pos hid]
  obtain ⟨entry, hentry, hsame⟩ := exists_sameKey_addKey table _
  exact ⟨entry, hentry, MessageEncryptionKey.isSameKey_iff.1 hsame⟩

theorem holds_foldl_preloadHintKey (table : KeyTable) :
    ∀ hint ∈ hints, (hints.foldl KeyTable.preloadHintKey table).Holds hint := by
  induction hints generalizing table with
  | nil => exact fun _ h => nomatch h
  | cons first hints ih =>
    intro hint hmem
    rcases List.mem_cons.1 hmem with rfl | hmem
    · exact (holds_preloadHintKey table hint).mono (sub_foldl_preloadHintKey hints _)
    · exact ih _ hint hmem

theorem foldl_preloadHintKey_eq (h : ∀ hint ∈ hints, table.Holds hint) :
    hints.foldl KeyTable.preloadHintKey table = table := by
  induction hints with
  | nil => rfl
  | cons first hints ih =>
    rw [List.foldl_cons, (h first List.mem_cons_self).preloadHintKey]
    exact ih fun hint hmem => h hint (List.mem_cons_of_mem _ hmem)

end KeyTable

/-- The hints of the file have their keys in the table. -/
def Preloaded (st : DecryptState) : Prop := ∀ hint ∈ st.hintKeysFromFile, st.keyTable.Holds hint

section
variable {st st' : DecryptState}

theorem Preloaded.grown (h : Preloaded st) (hhints : st'.hintKeysFromFile = st.hintKeysFromFile)
    (hsub : st.keyTable.Sub st'.keyTable) : Preloaded st' := by
  intro hint hmem
  rw [hhints] at hmem
  exact (h hint hmem).mono hsub

theorem Preloaded.refresh (h : Preloaded st) (hintFile : HintFile) :
    Preloaded (st.refreshMatterProxyHintKeys hintFile) := by
  cases hintFile with
  | missing => exact fun _ hmem => nomatch hmem
  | unchanged => exact h
  | loaded hints => exact KeyTable.holds_foldl_preloadHintKey st.keyTable

end

/-! ## The cache -/

/-- What a look at the files has to say of the hints: nothing is kept where there is no file. -/
def HintLook.seen (look : HintLook) : Look (Text × Int) (List MatterProxyHintKey) :=
  if look.path = [] then { stamp := ([], 0), value := [], void := true }
  else
    match look.stat look.path with
    | none => { stamp := (look.path, 0), value := [], void := true }
    | some fs => { stamp := (look.path, fs.mtime), value := fs.parsed, void := false }

theorem HintLook.seen_value (look : HintLook) : look.seen.value = look.hints.getD [] := by
  unfold seen hints
  split
  · rfl
  · cases look.stat look.path <;> rfl

/-- Where there is no file, nothing is kept. -/
theorem HintLook.void_of_missing {look : HintLook} (h : look.hints = none) :
    look.seen.void = true := by
  unfold hints at h
  unfold seen
  split
  · rfl
  · next hpath =>
    rw [if_neg hpath, Option.map_eq_none_iff] at h
    rw [h]

namespace HintState

variable {s : HintState} {look : HintLook}

def cache (s : HintState) : Cache (Text × Int) (List MatterProxyHintKey) where
  stamp := (s.matterProxyHintPath, s.matterProxyHintMTime)
  value := s.decrypt.hintKeysFromFile

/-- What one call finds: `refreshMatterProxyHintKeys` of the key store, as a whole. -/
def hintFile (s : HintState) (look : HintLook) : HintFile :=
  if s.cache.Keeps look.seen then .unchanged
  else
    match look.hints with
    | some hints => .loaded hints
    | none => .missing

theorem cache_decrypt {st : DecryptState}
    (h : st.hintKeysFromFile = s.decrypt.hintKeysFromFile) :
    ({ s with decrypt := st } : HintState).cache = s.cache := by
  rw [cache, cache, h]

theorem decrypt_refresh (s : HintState) (look : HintLook) :
    (s.refreshMatterProxyHintKeys look).decrypt =
      s.decrypt.refreshMatterProxyHintKeys (s.hintFile look) := by
  unfold HintState.refreshMatterProxyHintKeys hintFile HintLook.seen HintLook.hints
  by_cases hpath : look.path = []
  · simp [hpath, Cache.Keeps, DecryptState.refreshMatterProxyHintKeys]
  · cases hstat : look.stat look.path with
    | none => simp [hpath, hstat, Cache.Keeps, DecryptState.refreshMatterProxyHintKeys]
    | some fs =>
      simp only [hpath, hstat, Cache.Keeps, cache, if_false, Option.map_some, Prod.mk.injEq,
        true_and]
      split <;> rfl

theorem cache_refresh (s : HintState) (look : HintLook) :
    (s.refreshMatterProxyHintKeys look).cache = s.cache.refresh look.seen := by
  unfold HintState.refreshMatterProxyHintKeys HintLook.seen Cache.refresh
  by_cases hpath : look.path = []
  · simp [hpath, Cache.Keeps, cache]
  · cases hstat : look.stat look.path with
    | none => simp [hpath, hstat, Cache.Keeps, cache]
    | some fs =>
      simp only [hpath, hstat, Cache.Keeps, cache, if_false, Prod.mk.injEq, true_and]
      split <;> rfl

/-- Hints that are kept, and fit, are those of the file. -/
theorem hints_of_keeps (h : s.cache.Fits look.seen) (hkeeps : s.cache.Keeps look.seen) :
    look.hints = some s.decrypt.hintKeysFromFile := by
  have hvalue : s.decrypt.hintKeysFromFile = look.hints.getD [] := by
    rw [← look.seen_value]
    exact h hkeeps
  cases hhints : look.hints with
  | none =>
    have hvoid := look.void_of_missing hhints
    rw [hkeeps.1] at hvoid
    cases hvoid
  | some hints =>
    rw [hhints, Option.getD_some] at hvalue
    rw [hvalue]

/-- Reading the hints anew does what it does to a store that has them, and their keys. -/
theorem decrypt_refresh_of_fits (h : s.cache.Fits look.seen) (hpre : Preloaded s.decrypt) :
    (s.refreshMatterProxyHintKeys look).decrypt = (s.readHintKeys look).decrypt := by
  rw [decrypt_refresh, hintFile, readHintKeys]
  by_cases hkeeps : s.cache.Keeps look.seen
  · rw [if_pos hkeeps, hints_of_keeps h hkeeps]
    exact congrArg (fun keyTable => { s.decrypt with keyTable })
      (KeyTable.foldl_preloadHintKey_eq hpre).symm
  · exact congrArg s.decrypt.refreshMatterProxyHintKeys (if_neg hkeeps)

/-- A cache that fits finds what `hintFileSeen` allows of the hints of the file. -/
theorem hintFile_of_fits (h : s.cache.Fits look.seen) :
    ∃ reload, s.hintFile look = hintFileSeen look.hints reload s.decrypt := by
  unfold hintFile hintFileSeen
  by_cases hkeeps : s.cache.Keeps look.seen
  · rw [if_pos hkeeps, hints_of_keeps h hkeeps]
    exact ⟨false, (if_pos ⟨rfl, rfl⟩).symm⟩
  · rw [if_neg hkeeps]
    refine ⟨true, ?_⟩
    cases look.hints <;> rfl

theorem hintKeysFromFile_readHintKeys (s : HintState) (look : HintLook) :
    (s.readHintKeys look).decrypt.hintKeysFromFile = look.seen.value := by
  rw [look.seen_value, readHintKeys]
  cases look.hints <;> rfl

end HintState

/-! ## Events -/

/-- What a call of `TryDecryptMessage` looks at, where it refreshes the hints. -/
def HintEvent.look : HintEvent → Option HintLook
  | .decrypt look _ _ _ msgInfo => if messageIsEncrypted msgInfo then some look else none
  | _ => none

/-- The state behind the refresh. -/
def HintEvent.refreshed (refresh : HintLook → HintState → HintState) (event : HintEvent)
    (s : HintState) : HintState := event.look.elim s (refresh · s)

/-- The rest of an event, which knows nothing of files. -/
def HintEvent.onKeys (env : DecryptEnv) : HintEvent → DecryptM (Option DecryptResult)
  | .decrypt _ malloc tvb encDataOffset msgInfo => do
    let unencMsgTVB ← attempt
      (tryDecryptMessage { env with malloc, hintFile := .unchanged } tvb encDataOffset msgInfo)
    let hintKeysFromFile ← gets (·.hintKeysFromFile)
    pure (some { hintKeysFromFile, unencMsgTVB })
  | .addKey keyData => do
    Message.addKey keyData
    pure none
  | .secretsBlock secrets => do
    modify (·.matterProxyHintSecretsBlockCallback secrets)
    pure none

section
variable {env : DecryptEnv} {refresh : HintLook → HintState → HintState} {s : HintState}

/-- `TryDecryptMessage` with hints that need no refresh. -/
theorem attempt_tryDecryptMessage (henv : env.hintFile = .unchanged) (tvb : Tvb)
    (encDataOffset : Nat) (msgInfo : MatterMessageInfo) (st : DecryptState) : ∃ r st',
    (attempt (tryDecryptMessage env tvb encDataOffset msgInfo)).run st = .ok r st' ∧
      st'.hintKeysFromFile = st.hintKeysFromFile ∧ st.keyTable.Sub st'.keyTable := by
  have hrefreshed : st.refreshed env = st := by
    rw [DecryptState.refreshed, henv]
    rfl
  have hhints : (st.refreshed env).hintKeysFromFile = st.hintKeysFromFile := by rw [hrefreshed]
  rcases tryDecryptMessage_cases env tvb encDataOffset msgInfo st with
    ⟨-, calls, hrun⟩ | ⟨-, hrun⟩ | ⟨-, hrun⟩
  · exact ⟨_, _, attempt_ok hrun, hhints, (grown_searched env tvb encDataOffset msgInfo st calls).1⟩
  · exact ⟨_, _, attempt_err hrun, hhints, (grown_refreshed env st).1⟩
  · exact ⟨_, _, attempt_ok hrun, rfl, .refl _⟩

/-- The rest of an event always comes back, leaves the hints of the file alone and only adds keys. A
call that has refreshed the hints shows them. -/
theorem HintEvent.onKeys_ok (env : DecryptEnv) (event : HintEvent) (st : DecryptState) :
    ∃ result st', (event.onKeys env).run st = .ok result st' ∧
      st'.hintKeysFromFile = st.hintKeysFromFile ∧ st.keyTable.Sub st'.keyTable ∧
      (event.look.isSome = true →
        result.map DecryptResult.hintKeysFromFile = some st.hintKeysFromFile) := by
  cases event with
  | decrypt look malloc tvb encDataOffset msgInfo =>
    have henv : { env with malloc, hintFile := .unchanged }.hintFile = .unchanged := rfl
    obtain ⟨r, st', hrun, hhints, hsub⟩ :=
      attempt_tryDecryptMessage henv tvb encDataOffset msgInfo st
    refine ⟨some ⟨st'.hintKeysFromFile, r⟩, st', ?_, hhints, hsub, fun _ => congrArg some hhints⟩
    rw [HintEvent.onKeys, bind_ok hrun]
    rfl
  | addKey keyData => exact ⟨none, _, rfl, rfl, KeyTable.sub_addKey _ _, fun h => nomatch h⟩
  | secretsBlock secrets =>
    exact ⟨none, _, rfl, rfl, KeyTable.sub_foldl_preloadHintKey _ _, fun h => nomatch h⟩

theorem tryDecryptMessageOn_run (look : HintLook) (tvb : Tvb) (encDataOffset : Nat)
    (msgInfo : MatterMessageInfo) : (tryDecryptMessageOn refresh env look tvb encDataOffset
      msgInfo).run s = (HintM.decrypt (tryDecryptMessage { env with hintFile := .unchanged } tvb
        encDataOffset msgInfo)).run (if messageIsEncrypted msgInfo then refresh look s else s) := by
  unfold tryDecryptMessageOn
  split <;> rfl

/-- A call on the files is one with what its cache finds of them. -/
theorem tryDecryptMessageOn_hintFile (look : HintLook) (tvb : Tvb) (encDataOffset : Nat)
    (msgInfo : MatterMessageInfo) (henc : messageIsEncrypted msgInfo = true) :
    (tryDecryptMessageOn HintState.refreshMatterProxyHintKeys env look tvb encDataOffset
      msgInfo).run s =
        (HintM.decrypt (tryDecryptMessage { env with hintFile := s.hintFile look } tvb
          encDataOffset msgInfo)).run
            { s.refreshMatterProxyHintKeys look with decrypt := s.decrypt } := by
  rw [tryDecryptMessageOn_run, if_pos henc, HintM.decrypt, HintM.decrypt, run_zoom, run_zoom,
    HintState.decrypt_refresh]
  unfold tryDecryptMessage
  rw [if_pos henc, if_pos henc, modify_bind, modify_bind]
  rfl

/-- An event refreshes the hints, and goes on with the key store. -/
theorem HintEvent.run_eq (event : HintEvent) : (event.run refresh env).run s =
    (HintM.decrypt (event.onKeys env)).run (event.refreshed refresh s) := by
  cases event with
  | decrypt look malloc tvb encDataOffset msgInfo =>
    have hrefreshed :
        (HintEvent.decrypt look malloc tvb encDataOffset msgInfo).refreshed refresh s =
          if messageIsEncrypted msgInfo then refresh look s else s := by
      rw [HintEvent.refreshed, HintEvent.look]
      cases messageIsEncrypted msgInfo <;> rfl
    rw [hrefreshed, HintEvent.run, run_bind, run_attempt, tryDecryptMessageOn_run,
      HintEvent.onKeys, HintM.decrypt, HintM.decrypt, run_zoom, run_zoom, run_bind, run_attempt]
    generalize (if messageIsEncrypted msgInfo then refresh look s else s) = s₁
    cases (tryDecryptMessage _ tvb encDataOffset msgInfo).run s₁.decrypt <;> rfl
  | addKey keyData => rfl
  | secretsBlock secrets => rfl

/-- An event comes back with what it does to the refreshed key store. -/
theorem HintEvent.run_ok {event : HintEvent} {result : Option DecryptResult} {st' : DecryptState}
    (h : (event.onKeys env).run (event.refreshed refresh s).decrypt = .ok result st') :
    (event.run refresh env).run s =
      .ok result { event.refreshed refresh s with decrypt := st' } := by
  rw [event.run_eq, HintM.decrypt, run_zoom, h]

theorem runEvents_cons {event : HintEvent} {events : List HintEvent}
    {result : Option DecryptResult} {results : List (Option DecryptResult)} {st' : DecryptState}
    {s' : HintState}
    (h : (event.onKeys env).run (event.refreshed refresh s).decrypt = .ok result st')
    (hs : (runEvents refresh env events).run { event.refreshed refresh s with decrypt := st' } =
      .ok results s') :
    (runEvents refresh env (event :: events)).run s = .ok (result :: results) s' := by
  rw [runEvents, bind_ok (HintEvent.run_ok h), bind_ok hs, run_pure]

theorem runEvents_ok (refresh : HintLook → HintState → HintState) (env : DecryptEnv)
    (events : List HintEvent) (s : HintState) :
    ∃ results s', (runEvents refresh env events).run s = .ok results s' := by
  induction events generalizing s with
  | nil => exact ⟨[], s, rfl⟩
  | cons event events ih =>
    obtain ⟨result, st', hrun, -⟩ := event.onKeys_ok env (event.refreshed refresh s).decrypt
    obtain ⟨results, s', hruns⟩ := ih { event.refreshed refresh s with decrypt := st' }
    exact ⟨result :: results, s', runEvents_cons hrun hruns⟩

end

/-! ## Runs -/

section
variable {env : DecryptEnv} {s s₁ : HintState}

/-- The looks of a run. -/
def looks (events : List HintEvent) : List (Look (Text × Int) (List MatterProxyHintKey)) :=
  (events.filterMap HintEvent.look).map HintLook.seen

/-- What the runs from `s` with the cache and from `s₁` without it have to do with each other. -/
def Agree (env : DecryptEnv) (events : List HintEvent) (s s₁ : HintState) : Prop :=
  ∃ results s' results₁ s₁',
    (runEvents HintState.refreshMatterProxyHintKeys env events).run s = .ok results s' ∧
    (runEvents HintState.readHintKeys env events).run s₁ = .ok results₁ s₁' ∧
    (results = results₁ ↔ Coherent s.cache (looks events)) ∧
    (results = results₁ → s'.decrypt = s₁'.decrypt)

/-- An event that does the same to both stores. -/
theorem Agree.cons {event : HintEvent} {events : List HintEvent} {result : Option DecryptResult}
    {st st' : DecryptState} {s₂ s₃ : HintState}
    (hs : event.refreshed HintState.refreshMatterProxyHintKeys s = s₂) (hst : s₂.decrypt = st)
    (hs₁ : event.refreshed HintState.readHintKeys s₁ = s₃) (hst₁ : s₃.decrypt = st)
    (hrun : (event.onKeys env).run st = .ok result st')
    (hlooks : Coherent s.cache (looks (event :: events)) ↔
      Coherent { s₂ with decrypt := st' }.cache (looks events))
    (h : Agree env events { s₂ with decrypt := st' } { s₃ with decrypt := st' }) :
    Agree env (event :: events) s s₁ := by
  obtain ⟨results, s', results₁, s₁', hruns, hruns₁, hiff, hsame⟩ := h
  subst hs hs₁ hst
  refine ⟨result :: results, s', result :: results₁, s₁', runEvents_cons hrun hruns,
    runEvents_cons (by rw [hst₁]; exact hrun) hruns₁, ?_, fun heq => ?_⟩
  · rw [hlooks, ← hiff, List.cons_inj_right]
  · exact hsame (List.cons_inj_right result |>.1 heq)

theorem runEvents_agree (env : DecryptEnv) (events : List HintEvent) (hs : s.decrypt = s₁.decrypt)
    (hpre : Preloaded s.decrypt) : Agree env events s s₁ := by
  induction events generalizing s s₁ with
  | nil => exact ⟨[], s, [], s₁, rfl, rfl, ⟨fun _ => trivial, fun _ => rfl⟩, fun _ => hs⟩
  | cons event events ih =>
    cases hlook : event.look with
    | none =>
      have hrefreshed : ∀ refresh s, event.refreshed refresh s = s := by
        intro refresh s
        rw [HintEvent.refreshed, hlook]
        rfl
      obtain ⟨result, st', hrun, hhints, hsub, -⟩ := event.onKeys_ok env s.decrypt
      refine Agree.cons (hrefreshed _ s) rfl (hrefreshed _ s₁) hs.symm hrun ?_
        (ih rfl (hpre.grown hhints hsub))
      rw [looks, List.filterMap_cons_none hlook, HintState.cache_decrypt hhints]
      rfl
    | some look =>
      have hrefreshed : ∀ refresh s, event.refreshed refresh s = refresh look s := by
        intro refresh s
        rw [HintEvent.refreshed, hlook]
        rfl
      have hlooks : looks (event :: events) = look.seen :: looks events := by
        rw [looks, List.filterMap_cons_some hlook]
        rfl
      have hread : (s₁.readHintKeys look).decrypt = (s.readHintKeys look).decrypt := by
        rw [HintState.readHintKeys, ← hs]
        rfl
      by_cases hfits : s.cache.Fits look.seen
      · have heq := HintState.decrypt_refresh_of_fits hfits hpre
        have hpre' : Preloaded (s.refreshMatterProxyHintKeys look).decrypt := by
          rw [HintState.decrypt_refresh]
          exact hpre.refresh _
        obtain ⟨result, st', hrun, hhints, hsub, -⟩ :=
          event.onKeys_ok env (s.refreshMatterProxyHintKeys look).decrypt
        refine Agree.cons (hrefreshed _ s) rfl (hrefreshed _ s₁) (hread.trans heq.symm) hrun ?_
          (ih rfl (hpre'.grown hhints hsub))
        rw [hlooks, Coherent, HintState.cache_decrypt hhints, HintState.cache_refresh,
          hfits.refresh]
        exact and_iff_right hfits
      · -- the two calls show other hints
        obtain ⟨result, st', hrun, -, -, hshown⟩ := event.onKeys_ok env
          (event.refreshed HintState.refreshMatterProxyHintKeys s).decrypt
        obtain ⟨result₁, st₁', hrun₁, -, -, hshown₁⟩ := event.onKeys_ok env
          (event.refreshed HintState.readHintKeys s₁).decrypt
        obtain ⟨results, s', hruns⟩ := runEvents_ok HintState.refreshMatterProxyHintKeys env events
          { event.refreshed HintState.refreshMatterProxyHintKeys s with decrypt := st' }
        obtain ⟨results₁, s₁', hruns₁⟩ := runEvents_ok HintState.readHintKeys env events
          { event.refreshed HintState.readHintKeys s₁ with decrypt := st₁' }
        have hother : result :: results ≠ result₁ :: results₁ := by
          intro heq
          have hsome : event.look.isSome = true := by rw [hlook]; rfl
          have hsame := hshown hsome
          rw [(List.cons.inj heq).1, hshown₁ hsome, hrefreshed, hrefreshed, hread,
            HintState.hintKeysFromFile_readHintKeys] at hsame
          refine hfits (Cache.fits_iff.2 ?_)
          rw [← HintState.cache_refresh]
          exact (Option.some.inj hsame).symm
        refine ⟨_, s', _, s₁', runEvents_cons hrun hruns, runEvents_cons hrun₁ hruns₁,
          iff_of_false hother fun h => ?_, fun heq => absurd heq hother⟩
        rw [hlooks] at h
        exact hfits h.1

/-- The dissector gives in every run what it would give if it read the hint file at every call that
needs the hints, exactly if no call finds the path and the modification time of the call before
with other hints. A missing file counts as one of time 0, but its hints are always dropped. -/
theorem runEvents_eq_iff (env : DecryptEnv) (keyTable : KeyTable)
    (hintKeysFromDSB : List MatterProxyHintKey) (events : List HintEvent) :
    ∃ results s results₁ s₁,
      (runEvents HintState.refreshMatterProxyHintKeys env events).run
        (.start keyTable hintKeysFromDSB) = .ok results s ∧
      (runEvents HintState.readHintKeys env events).run (.start keyTable hintKeysFromDSB) =
        .ok results₁ s₁ ∧
      (results = results₁ ↔ Coherent ⟨([], 0), []⟩ (looks events)) ∧
      (results = results₁ → s.decrypt = s₁.decrypt) :=
  runEvents_agree env events rfl fun _ hmem => nomatch hmem

end

end Matter.Message
