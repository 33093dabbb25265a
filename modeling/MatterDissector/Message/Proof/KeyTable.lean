import Mathlib.Data.List.Perm.Subperm
import MatterDissector.Lib.Intrusive
import MatterDissector.Message.KeyTable

/-!
# The lists of the key table

`addKeys_keyLists`: after any run of `AddKey`, every key id has a finite list without a cycle, with
each key that was added under it once, newest first, and `AddKey` of a key that the list has
changes nothing. The list of an id is that of `KeyTable` (`Represents.addKey`), and what it
contains is shown there (`IsKeyList.snoc_same`, `IsKeyList.snoc_new`).
-/

namespace Matter.Message

open Prog Intrusive

section
variable {key other keyData entry : MessageEncryptionKey} {run keys : List MessageEncryptionKey}
  {keyId : Nat}

/-! ## The keys of a run -/

theorem MessageEncryptionKey.isSameKey_iff : key.isSameKey other = true ↔
    key.sessionType = other.sessionType ∧ key.dataEncKey = other.dataEncKey := by
  simp [MessageEncryptionKey.isSameKey]

theorem MessageEncryptionKey.isSameKey_refl (key : MessageEncryptionKey) :
    key.isSameKey key = true := isSameKey_iff.2 ⟨rfl, rfl⟩

theorem MessageEncryptionKey.isSameKey_symm (h : key.isSameKey other = true) :
    other.isSameKey key = true := by
  rw [isSameKey_iff] at h ⊢
  exact ⟨h.1.symm, h.2.symm⟩

theorem MessageEncryptionKey.isSameKey_trans (h : key.isSameKey other = true)
    (h' : other.isSameKey entry = true) : key.isSameKey entry = true := by
  rw [isSameKey_iff] at h h' ⊢
  exact ⟨h.1.trans h'.1, h.2.trans h'.2⟩

open MessageEncryptionKey (isSameKey_refl isSameKey_symm isSameKey_trans)

/-- The call of `run` that added `key` first: its place, the length of `run` if there is none. -/
def firstCall (run : List MessageEncryptionKey) (key : MessageEncryptionKey) : Nat :=
  run.findIdx fun added => added.keyId == key.keyId && added.isSameKey key

/-- `run` has added `key` under its id. -/
def Added (run : List MessageEncryptionKey) (key : MessageEncryptionKey) : Prop :=
  ∃ added ∈ run, added.keyId = key.keyId ∧ added.isSameKey key = true

/-- The list of `keyId` after the calls `run`. -/
structure IsKeyList (run : List MessageEncryptionKey) (keyId : Nat)
    (keys : List MessageEncryptionKey) : Prop where
  keyId_eq : ∀ key ∈ keys, key.keyId = keyId
  different : keys.Pairwise fun key other => key.isSameKey other = false
  newest_first : keys.Pairwise fun key other => firstCall run other < firstCall run key
  first_data : ∀ key ∈ keys, run[firstCall run key]? = some key
  complete : ∀ key ∈ run, key.keyId = keyId → ∃ entry ∈ keys, entry.isSameKey key = true

theorem firstCall_lt : firstCall run key < run.length ↔ Added run key := by
  simp [firstCall, Added, List.findIdx_lt_length]

/-- Later calls are not the first one. -/
theorem firstCall_snoc (h : firstCall run key < run.length) :
    firstCall (run ++ [keyData]) key = firstCall run key := by
  rw [firstCall, List.findIdx_append]
  exact if_pos h

theorem firstCall_snoc_new (h : ¬ Added run keyData) :
    firstCall (run ++ [keyData]) keyData = run.length := by
  have hnone := mt firstCall_lt.1 h
  rw [firstCall] at hnone
  rw [firstCall, List.findIdx_append, if_neg hnone]
  simp [List.findIdx_cons, isSameKey_refl]

theorem IsKeyList.nil (keyId : Nat) : IsKeyList [] keyId [] where
  keyId_eq _ h := by cases h
  different := .nil
  newest_first := .nil
  first_data _ h := by cases h
  complete _ h := by cases h

theorem IsKeyList.firstCall_lt (h : IsKeyList run keyId keys) (hkey : key ∈ keys) :
    firstCall run key < run.length :=
  (List.getElem?_eq_some_iff.1 (h.first_data key hkey)).1

/-- A key is in the list of its id exactly if it was added. -/
theorem IsKeyList.added_iff (h : IsKeyList run keyData.keyId keys) :
    Added run keyData ↔ ∃ entry ∈ keys, entry.isSameKey keyData = true := by
  constructor
  · rintro ⟨added, hrun, hid, hsame⟩
    obtain ⟨entry, hentry, hsame'⟩ := h.complete added hrun hid
    exact ⟨entry, hentry, isSameKey_trans hsame' hsame⟩
  · rintro ⟨entry, hentry, hsame⟩
    exact ⟨entry, List.mem_of_getElem? (h.first_data entry hentry), h.keyId_eq entry hentry, hsame⟩

/-- What a further call leaves of the old entries. -/
theorem IsKeyList.newest_first_snoc (h : IsKeyList run keyId keys)
    (keyData : MessageEncryptionKey) : keys.Pairwise fun key other =>
      firstCall (run ++ [keyData]) other < firstCall (run ++ [keyData]) key :=
  h.newest_first.imp_of_mem fun hkey hother hlt => by
    rwa [firstCall_snoc (h.firstCall_lt hkey), firstCall_snoc (h.firstCall_lt hother)]

theorem IsKeyList.first_data_snoc (h : IsKeyList run keyId keys) (keyData : MessageEncryptionKey)
    (hkey : key ∈ keys) : (run ++ [keyData])[firstCall (run ++ [keyData]) key]? = some key := by
  have hlt := h.firstCall_lt hkey
  rw [firstCall_snoc hlt, List.getElem?_append_left hlt, h.first_data key hkey]

/-- A call with a key of another id, or with one that the list has. -/
theorem IsKeyList.snoc_same (h : IsKeyList run keyId keys)
    (hsame : keyData.keyId = keyId → ∃ entry ∈ keys, entry.isSameKey keyData = true) :
    IsKeyList (run ++ [keyData]) keyId keys where
  keyId_eq := h.keyId_eq
  different := h.different
  newest_first := h.newest_first_snoc keyData
  first_data _ hkey := h.first_data_snoc keyData hkey
  complete key hkey hid := by
    rcases List.mem_append.1 hkey with hkey | hkey
    · exact h.complete key hkey hid
    · rw [List.mem_singleton.1 hkey] at hid ⊢
      exact hsame hid

/-- A call with a new key. -/
theorem IsKeyList.snoc_new (h : IsKeyList run keyData.keyId keys)
    (hnew : ∀ entry ∈ keys, entry.isSameKey keyData = false) :
    IsKeyList (run ++ [keyData]) keyData.keyId (keyData :: keys) where
  keyId_eq key hkey := by
    rcases List.mem_cons.1 hkey with rfl | hkey
    · rfl
    · exact h.keyId_eq key hkey
  different := List.pairwise_cons.2 ⟨fun key hkey => by
    rw [← Bool.not_eq_true]
    exact fun hsame => absurd (isSameKey_symm hsame) (by simp [hnew key hkey]), h.different⟩
  newest_first := by
    have hnot : ¬ Added run keyData := fun hadded => by
      obtain ⟨entry, hentry, hsame⟩ := h.added_iff.1 hadded
      rw [hnew entry hentry] at hsame
      cases hsame
    refine List.pairwise_cons.2 ⟨fun key hkey => ?_, h.newest_first_snoc keyData⟩
    rw [firstCall_snoc_new hnot, firstCall_snoc (h.firstCall_lt hkey)]
    exact h.firstCall_lt hkey
  first_data key hkey := by
    rcases List.mem_cons.1 hkey with rfl | hkey
    · have hnot : ¬ Added run key := fun hadded => by
        obtain ⟨entry, hentry, hsame⟩ := h.added_iff.1 hadded
        rw [hnew entry hentry] at hsame
        cases hsame
      rw [firstCall_snoc_new hnot]
      simp
    · exact h.first_data_snoc keyData hkey
  complete key hkey hid := by
    rcases List.mem_append.1 hkey with hkey | hkey
    · obtain ⟨entry, hentry, hsame⟩ := h.complete key hkey hid
      exact ⟨entry, List.mem_cons_of_mem _ hentry, hsame⟩
    · rw [List.mem_singleton.1 hkey]
      exact ⟨keyData, List.mem_cons_self, isSameKey_refl _⟩

section
variable {table : KeyTable}

/-- `AddKey` of a key that the list of its id has. -/
theorem KeyTable.addKey_known
    (h : ∃ entry ∈ table.findKeysById keyData.keyId, entry.isSameKey keyData = true) :
    table.addKey keyData = table := if_pos (List.any_eq_true.2 h)

theorem KeyTable.addKey_new
    (h : ∀ entry ∈ table.findKeysById keyData.keyId, entry.isSameKey keyData = false)
    (keyId : Nat) : (table.addKey keyData).findKeysById keyId =
      if keyId = keyData.keyId then keyData :: table.findKeysById keyData.keyId
      else table.findKeysById keyId := by
  have hany : ¬ (table.findKeysById keyData.keyId).any (·.isSameKey keyData) = true :=
    fun hany => by
      obtain ⟨entry, hentry, hsame⟩ := List.any_eq_true.1 hany
      rw [h entry hentry] at hsame
      cases hsame
  exact congrFun (if_neg hany) keyId

/-- The key that was added is in the list of its id, or one like it. -/
theorem KeyTable.exists_sameKey_addKey (table : KeyTable) (keyData : MessageEncryptionKey) :
    ∃ entry ∈ (table.addKey keyData).findKeysById keyData.keyId,
      entry.isSameKey keyData = true := by
  by_cases h : ∃ entry ∈ table.findKeysById keyData.keyId, entry.isSameKey keyData = true
  · rw [addKey_known h]
    exact h
  · have hnew : ∀ entry ∈ table.findKeysById keyData.keyId, entry.isSameKey keyData = false :=
      fun entry hentry => Bool.eq_false_iff.2 fun hsame => h ⟨entry, hentry, hsame⟩
    rw [addKey_new hnew, if_pos rfl]
    exact ⟨keyData, List.mem_cons_self, keyData.isSameKey_refl⟩

end

/-- The lists of `KeyTable`. -/
theorem isKeyList_foldl (run : List MessageEncryptionKey) (keyId : Nat) :
    IsKeyList run keyId (KeyTable.findKeysById (run.foldl KeyTable.addKey fun _ => []) keyId) := by
  induction run using List.reverseRecOn generalizing keyId with
  | nil => exact .nil keyId
  | append_singleton run keyData ih =>
    rw [List.foldl_concat]
    generalize run.foldl KeyTable.addKey (fun _ => []) = table at ih ⊢
    by_cases hany : ∃ entry ∈ table.findKeysById keyData.keyId, entry.isSameKey keyData = true
    · rw [KeyTable.addKey_known hany]
      refine (ih keyId).snoc_same fun hid => ?_
      rw [← hid]
      exact hany
    · simp only [not_exists, not_and, Bool.not_eq_true] at hany
      rw [KeyTable.addKey_new hany]
      by_cases hid : keyId = keyData.keyId
      · subst hid
        rw [if_pos rfl]
        exact (ih keyData.keyId).snoc_new hany
      · rw [if_neg hid]
        exact (ih keyId).snoc_same fun hid' => absurd hid'.symm hid

end

/-! ## The table in memory -/

/-- From `first` on there are the entries `refs`, with the data `keys`. -/
structure KeyMemory.HasList (mem : KeyMemory) (first : Option KeyRef) (refs : List KeyRef)
    (keys : List MessageEncryptionKey) : Prop where
  path : Path mem.nextKey first refs
  nodup : refs.Nodup
  keys_eq : refs.map mem.keyAt = keys.map some

/-- The memory has the lists of `table`. -/
def KeyMemory.Represents (mem : KeyMemory) (table : KeyTable) : Prop :=
  ∀ keyId, ∃ refs, mem.HasList (mem.sKeys keyId) refs (table.findKeysById keyId)

namespace KeyMemory

variable {mem : KeyMemory} {first : Option KeyRef} {refs : List KeyRef}
  {keys : List MessageEncryptionKey} {key keyData : MessageEncryptionKey} {p : KeyRef}
  {table : KeyTable}

/-- A new entry, the head of the list of its id. -/
def inserted (mem : KeyMemory) (keyData : MessageEncryptionKey) : KeyMemory where
  entries := mem.entries ++ [{ keyData with nextKey := mem.sKeys keyData.keyId }]
  sKeys keyId := if keyId = keyData.keyId then some mem.entries.length else mem.sKeys keyId

theorem HasList.exists_key (h : mem.HasList first refs keys) (hp : p ∈ refs) :
    ∃ key ∈ keys, mem.keyAt p = some key := by
  have hmem : mem.keyAt p ∈ keys.map some := h.keys_eq ▸ List.mem_map_of_mem hp
  obtain ⟨key, hkey, heq⟩ := List.mem_map.1 hmem
  exact ⟨key, hkey, heq.symm⟩

theorem lt_of_keyAt (h : mem.keyAt p = some key) : p < mem.entries.length := by
  obtain ⟨entry, hentry, -⟩ := Option.map_eq_some_iff.1 h
  exact (List.getElem?_eq_some_iff.1 hentry).1

theorem HasList.lt (h : mem.HasList first refs keys) (hp : p ∈ refs) : p < mem.entries.length := by
  obtain ⟨key, -, hkey⟩ := h.exists_key hp
  exact lt_of_keyAt hkey

theorem HasList.length_le (h : mem.HasList first refs keys) : refs.length ≤ mem.entries.length := by
  have hsubset : refs ⊆ List.range mem.entries.length := fun p hp => List.mem_range.2 (h.lt hp)
  have hle := (List.Nodup.subperm h.nodup hsubset).length_le
  rwa [List.length_range] at hle

theorem HasList.tail {q : KeyRef} {entry : KeyEntry}
    (h : mem.HasList (some p) (q :: refs) (key :: keys)) (hentry : mem.entries[p]? = some entry) :
    q = p ∧ entry.toMessageEncryptionKey = key ∧ mem.HasList entry.nextKey refs keys := by
  obtain ⟨hhead, hpath⟩ := h.path
  obtain rfl : p = q := Option.some.inj hhead
  have hkeys := h.keys_eq
  rw [List.map_cons, List.map_cons, List.cons.injEq] at hkeys
  rw [keyAt, hentry] at hkeys
  rw [nextKey, hentry] at hpath
  exact ⟨rfl, Option.some.inj hkeys.1, hpath, (List.nodup_cons.1 h.nodup).2, hkeys.2⟩

/-! ### One insertion -/

theorem keyAt_inserted (h : p < mem.entries.length) :
    (mem.inserted keyData).keyAt p = mem.keyAt p := by
  rw [keyAt, inserted, List.getElem?_append_left h, keyAt]

theorem nextKey_inserted (h : p < mem.entries.length) :
    (mem.inserted keyData).nextKey p = mem.nextKey p := by
  rw [nextKey, inserted, List.getElem?_append_left h, nextKey]

theorem keyAt_inserted_new : (mem.inserted keyData).keyAt mem.entries.length = some keyData := by
  rw [keyAt, inserted, List.getElem?_concat_length]
  rfl

theorem nextKey_inserted_new :
    (mem.inserted keyData).nextKey mem.entries.length = mem.sKeys keyData.keyId := by
  rw [nextKey, inserted, List.getElem?_concat_length]
  rfl

theorem sKeys_inserted {keyId : Nat} (h : keyId ≠ keyData.keyId) :
    (mem.inserted keyData).sKeys keyId = mem.sKeys keyId := if_neg h

theorem sKeys_inserted_new :
    (mem.inserted keyData).sKeys keyData.keyId = some mem.entries.length := if_pos rfl

/-- An old list stays as it is. -/
theorem HasList.inserted (h : mem.HasList first refs keys) (keyData : MessageEncryptionKey) :
    (mem.inserted keyData).HasList first refs keys where
  path := h.path.congr fun _ hp => nextKey_inserted (h.lt hp)
  nodup := h.nodup
  keys_eq := (List.map_congr_left fun _ hp => keyAt_inserted (h.lt hp)).trans h.keys_eq

/-- The list of the new entry. -/
theorem HasList.inserted_new (h : mem.HasList (mem.sKeys keyData.keyId) refs keys) :
    (mem.inserted keyData).HasList (some mem.entries.length) (mem.entries.length :: refs)
      (keyData :: keys) where
  path := by
    refine ⟨rfl, ?_⟩
    rw [nextKey_inserted_new]
    exact (h.inserted keyData).path
  nodup := List.nodup_cons.2 ⟨fun hp => Nat.lt_irrefl _ (h.lt hp), h.nodup⟩
  keys_eq := by
    rw [List.map_cons, List.map_cons, keyAt_inserted_new, (h.inserted keyData).keys_eq]

end KeyMemory

namespace MessageEncryptionKeyTable

open KeyMemory

variable {mem mem' : KeyMemory} {first : Option KeyRef} {refs : List KeyRef}
  {keys : List MessageEncryptionKey} {key keyData : MessageEncryptionKey} {p : KeyRef}
  {table : KeyTable}

theorem load_run {entry : KeyEntry} (h : mem.entries[p]? = some entry) :
    (load p).run mem = .ok entry mem := by
  rw [load, gets_bind, h]
  rfl

/-- The loop of `AddKey` finds an entry with the key, if the list has one. -/
theorem findSameKey_loop {fuel : Nat} (h : mem.HasList first refs keys)
    (hfuel : refs.length < fuel) :
    (∃ p ∈ refs, ∃ key, mem.keyAt p = some key ∧ key.isSameKey keyData = true ∧
      (loop .outOfFuel (sameKeyRound keyData) fuel first).run mem = .ok (some p) mem) ∨
    ((∀ key ∈ keys, key.isSameKey keyData = false) ∧
      (loop .outOfFuel (sameKeyRound keyData) fuel first).run mem = .ok none mem) := by
  induction refs generalizing first keys fuel with
  | nil =>
    obtain ⟨fuel, rfl⟩ := Nat.exists_eq_succ_of_ne_zero (Nat.ne_of_gt (Nat.zero_lt_of_lt hfuel))
    have hkeys := h.keys_eq
    rw [List.map_nil, List.nil_eq, List.map_eq_nil_iff] at hkeys
    subst hkeys
    refine .inr ⟨fun key hkey => by (cases hkey), ?_⟩
    rw [show first = none from h.path]
    rfl
  | cons q refs ih =>
    obtain ⟨fuel, rfl⟩ := Nat.exists_eq_succ_of_ne_zero (Nat.ne_of_gt (Nat.zero_lt_of_lt hfuel))
    obtain ⟨rfl, -⟩ := h.path
    cases keys with
    | nil => exact absurd h.keys_eq (by simp)
    | cons key keys =>
      obtain ⟨entry, hentry⟩ : ∃ entry, mem.entries[q]? = some entry :=
        ⟨_, List.getElem?_eq_getElem (h.lt List.mem_cons_self)⟩
      obtain ⟨-, rfl, htail⟩ := h.tail hentry
      have hround : (sameKeyRound keyData (some q)).run mem =
          .ok (if entry.isSameKey keyData then .inr (some q) else .inl entry.nextKey) mem := by
        rw [sameKeyRound, bind_ok (load_run hentry)]
        rfl
      rw [loop_succ, bind_ok hround]
      by_cases hsame : entry.isSameKey keyData = true
      · rw [if_pos hsame]
        refine .inl ⟨q, List.mem_cons_self, entry.toMessageEncryptionKey, ?_, hsame, rfl⟩
        rw [keyAt, hentry]
        rfl
      · rw [if_neg hsame]
        rcases ih htail (by simpa using hfuel) with ⟨p, hp, key, hkey, hfound, hrun⟩ | ⟨hnone, hrun⟩
        · exact .inl ⟨p, List.mem_cons_of_mem q hp, key, hkey, hfound, hrun⟩
        · refine .inr ⟨fun key hkey => ?_, hrun⟩
          rcases List.mem_cons.1 hkey with rfl | hkey
          · simpa using hsame
          · exact hnone key hkey

/-- `AddKey` returns the entry that has the key and changes nothing, or inserts a new one. -/
theorem addKey_run (keyData : MessageEncryptionKey)
    (h : mem.HasList (mem.sKeys keyData.keyId) refs keys) :
    (∃ p ∈ refs, ∃ key, mem.keyAt p = some key ∧ key.isSameKey keyData = true ∧
      (addKey keyData).run mem = .ok p mem) ∨
    ((∀ key ∈ keys, key.isSameKey keyData = false) ∧
      (addKey keyData).run mem = .ok mem.entries.length (mem.inserted keyData)) := by
  rw [addKey, findKeysById, gets_bind]
  rcases findSameKey_loop h (Nat.lt_succ_of_le h.length_le) with
    ⟨p, hp, key, hkey, hsame, hrun⟩ | ⟨hnone, hrun⟩
  · refine .inl ⟨p, hp, key, hkey, hsame, ?_⟩
    rw [bind_ok (show (findSameKey _ _).run mem = _ from hrun)]
    rfl
  · refine .inr ⟨hnone, ?_⟩
    rw [bind_ok (show (findSameKey _ _).run mem = _ from hrun)]
    rfl

/-- `AddKey` in memory is `AddKey` of the lists. -/
theorem addKey_represents (keyData : MessageEncryptionKey) (h : mem.Represents table) :
    ∃ p mem', (addKey keyData).run mem = .ok p mem' ∧
      mem'.Represents (table.addKey keyData) := by
  obtain ⟨refs, hlist⟩ := h keyData.keyId
  rcases addKey_run keyData hlist with ⟨p, hp, key, hkey, hsame, hrun⟩ | ⟨hnone, hrun⟩
  · refine ⟨p, mem, hrun, ?_⟩
    obtain ⟨key', hkey', heq⟩ := hlist.exists_key hp
    rw [hkey] at heq
    obtain rfl := Option.some.inj heq
    rw [KeyTable.addKey_known ⟨key, hkey', hsame⟩]
    exact h
  · refine ⟨_, _, hrun, fun keyId => ?_⟩
    rw [KeyTable.addKey_new hnone]
    by_cases hid : keyId = keyData.keyId
    · rw [if_pos hid, hid, sKeys_inserted_new]
      exact ⟨_, hlist.inserted_new⟩
    · rw [if_neg hid, sKeys_inserted hid]
      obtain ⟨refs', hlist'⟩ := h keyId
      exact ⟨refs', hlist'.inserted keyData⟩

theorem addKeys_represents (run : List MessageEncryptionKey) {mem : KeyMemory} {table : KeyTable}
    (h : mem.Represents table) :
    ∃ mem', (addKeys run).run mem = .ok () mem' ∧
      mem'.Represents (run.foldl KeyTable.addKey table) := by
  induction run generalizing mem table with
  | nil => exact ⟨mem, rfl, h⟩
  | cons keyData run ih =>
    obtain ⟨p, mem₁, hrun, h₁⟩ := addKey_represents keyData h
    obtain ⟨mem₂, hrun₂, h₂⟩ := ih h₁
    exact ⟨mem₂, by rw [addKeys, bind_ok hrun, hrun₂], h₂⟩

/-- What one more call does after the calls `run`. -/
def AddsOnce (run : List MessageEncryptionKey) (mem : KeyMemory) (keyData : MessageEncryptionKey) :
    Prop :=
  ∃ p mem', (addKey keyData).run mem = .ok p mem' ∧
    (Added run keyData → mem' = mem ∧ ∃ refs keys,
      mem.HasList (mem.sKeys keyData.keyId) refs keys ∧ p ∈ refs ∧
        ∃ key, mem.keyAt p = some key ∧ key.isSameKey keyData = true) ∧
    ∀ keyId ≠ keyData.keyId, ∀ refs keys, mem.HasList (mem.sKeys keyId) refs keys →
      mem'.HasList (mem'.sKeys keyId) refs keys

theorem addsOnce_of_represents {run : List MessageEncryptionKey}
    (h : mem.Represents (run.foldl KeyTable.addKey fun _ => [])) (keyData : MessageEncryptionKey) :
    AddsOnce run mem keyData := by
  obtain ⟨refs, hlist⟩ := h keyData.keyId
  have hkeys := isKeyList_foldl run keyData.keyId
  rcases addKey_run keyData hlist with ⟨p, hp, key, hkey, hsame, hrun⟩ | ⟨hnone, hrun⟩
  · exact ⟨p, mem, hrun, fun _ => ⟨rfl, refs, _, hlist, hp, key, hkey, hsame⟩,
      fun _ _ _ _ hother => hother⟩
  · refine ⟨_, _, hrun, fun hadded => ?_, fun keyId hid refs' keys' hother => ?_⟩
    · obtain ⟨entry, hentry, hsame⟩ := hkeys.added_iff.1 hadded
      rw [hnone entry hentry] at hsame
      cases hsame
    · rw [sKeys_inserted hid]
      exact hother.inserted keyData

/-- The table after any run of `AddKey`. -/
theorem addKeys_keyLists (run : List MessageEncryptionKey) :
    ∃ mem, (addKeys run).run .empty = .ok () mem ∧
      (∀ keyId, ∃ first refs keys, (findKeysById keyId).run mem = .ok first mem ∧
        mem.HasList first refs keys ∧ IsKeyList run keyId keys) ∧
      ∀ keyData, AddsOnce run mem keyData := by
  have hempty : KeyMemory.empty.Represents fun _ => [] := fun _ => ⟨[], rfl, .nil, rfl⟩
  obtain ⟨mem, hrun, h⟩ := addKeys_represents run hempty
  refine ⟨mem, hrun, fun keyId => ?_, addsOnce_of_represents h⟩
  obtain ⟨refs, hlist⟩ := h keyId
  exact ⟨mem.sKeys keyId, refs, _, rfl, hlist, isKeyList_foldl run keyId⟩

end MessageEncryptionKeyTable

end Matter.Message
