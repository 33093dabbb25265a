import MatterDissector.Tracker.Proof.Lists

/-!
# The records of a run

What the tracker should know after a run is the list of the messages recorded (`recorded`): of
every frame the first one whose fingerprint could be computed. `Represents env msgs s`: the state
`s` knows the messages `msgs`, and no more. Record `p` is the one of `msgs[p]`; the tables and links
make up one list for every message-counter key and one for every exchange key, each in the order
of recording; a frame has the record of its message.

`findOrCreate_represents`: `FindOrCreateMessageRecord` keeps this, and returns the record of the
frame; `findOrCreateAll_represents` is the same for a run.
-/

namespace Matter.Tracker

open Prog Message Intrusive

/-! ## The list of the messages recorded -/

namespace TrackedMessage

/-- The frame of the message. -/
def frameNum (m : TrackedMessage) : Nat := m.pinfo.num

def isInitiator (m : TrackedMessage) : Bool := m.msgInfo.isInitiator

/-- The length that the fingerprint covers behind the header. -/
def bodyLen (m : TrackedMessage) : Nat := sub32 m.msgInfo.msgLen m.msgInfo.headerLen

/-- The capture has all that the fingerprint covers. -/
def complete (m : TrackedMessage) : Bool :=
  m.msgInfo.headerLen + m.bodyLen ≤ m.tvb.bytes.length

/-- The fingerprint, where it can be computed. -/
def fingerprint (env : TrackerEnv) (m : TrackedMessage) : Nat :=
  env.crc32CcittSeed ((m.tvb.bytes.drop m.msgInfo.headerLen).take m.bodyLen)
    (2 ^ 32 - 1 - env.crc32CcittSeed (pseudoHeader m.msgInfo) (2 ^ 32 - 1))

/-- The frame is not in the fingerprint. -/
theorem fingerprint_congr {env : TrackerEnv} {m m' : TrackedMessage} (htvb : m.tvb = m'.tvb)
    (hinfo : m.msgInfo = m'.msgInfo) : m.fingerprint env = m'.fingerprint env := by
  rw [fingerprint, fingerprint, bodyLen, bodyLen, htvb, hinfo]

/-- What the record of the message says of it. -/
def content (env : TrackerEnv) (m : TrackedMessage) : Nat × Nat × Bool :=
  (m.frameNum, m.fingerprint env, m.isInitiator)

end TrackedMessage

def MatterMessageRecord.content (r : MatterMessageRecord) : Nat × Nat × Bool :=
  (r.frameNum, r.fingerprint, r.isInitiator)

/-- One more message: recorded if it is complete and the first one of its frame. -/
def recordMessage (msgs : List TrackedMessage) (m : TrackedMessage) : List TrackedMessage :=
  if m.complete ∧ m.frameNum ∉ msgs.map TrackedMessage.frameNum then msgs ++ [m] else msgs

/-- The messages recorded in a run. -/
def recorded (run : List TrackedMessage) : List TrackedMessage := run.foldl recordMessage []

/-- The place of a frame's message. -/
def placeOf (msgs : List TrackedMessage) (frameNum : Nat) : Option Nat :=
  msgs.findIdx? fun m => m.frameNum = frameNum

section
variable {env : TrackerEnv} {msgs : List TrackedMessage} {m : TrackedMessage}

theorem mem_frames_iff {num : Nat} :
    num ∈ msgs.map TrackedMessage.frameNum ↔ ∃ m ∈ msgs, m.frameNum = num := List.mem_map

theorem placeOf_eq_none {num : Nat} :
    placeOf msgs num = none ↔ num ∉ msgs.map TrackedMessage.frameNum := by
  rw [placeOf, List.findIdx?_eq_none_iff, mem_frames_iff]
  simp

theorem placeOf_append {num : Nat} : placeOf (msgs ++ [m]) num =
    (placeOf msgs num).or (if m.frameNum = num then some msgs.length else none) := by
  rw [placeOf, List.findIdx?_append, placeOf]
  by_cases h : m.frameNum = num <;> simp [List.findIdx?_cons, h]

/-- A frame's message stays where it is. -/
theorem placeOf_recordMessage {num : Nat} {p : Nat} (h : placeOf msgs num = some p) :
    placeOf (recordMessage msgs m) num = some p := by
  unfold recordMessage
  split
  · rw [placeOf_append, h]; rfl
  · exact h

theorem placeOf_spec {num : Nat} {p : Nat} (h : placeOf msgs num = some p) :
    ∃ m, msgs[p]? = some m ∧ m.frameNum = num := by
  obtain ⟨hp, hm, -⟩ := List.findIdx?_eq_some_iff_getElem.1 h
  exact ⟨msgs[p], List.getElem?_eq_getElem hp, by simpa using hm⟩

/-- No two messages have the same frame. -/
theorem nodup_recordMessage (h : (msgs.map TrackedMessage.frameNum).Nodup) (m : TrackedMessage) :
    ((recordMessage msgs m).map TrackedMessage.frameNum).Nodup := by
  unfold recordMessage
  split
  · rename_i hnew
    rw [List.map_append, List.nodup_append]
    refine ⟨h, by simp, fun a ha b hb hab => ?_⟩
    rw [List.map_singleton, List.mem_singleton] at hb
    exact hnew.2 (hb ▸ hab ▸ ha)
  · exact h

/-- A run's messages, after those recorded before. -/
theorem nodup_foldl_recordMessage (h : (msgs.map TrackedMessage.frameNum).Nodup)
    (run : List TrackedMessage) :
    ((run.foldl recordMessage msgs).map TrackedMessage.frameNum).Nodup := by
  induction run generalizing msgs with
  | nil => exact h
  | cons m run ih => exact ih (nodup_recordMessage h m)

theorem nodup_recorded (run : List TrackedMessage) :
    ((recorded run).map TrackedMessage.frameNum).Nodup := by
  have hnil : (([] : List TrackedMessage).map TrackedMessage.frameNum).Nodup := List.nodup_nil
  exact nodup_foldl_recordMessage hnil run

theorem placeOf_of_getElem (h : (msgs.map TrackedMessage.frameNum).Nodup) {p : Nat}
    (hm : msgs[p]? = some m) : placeOf msgs m.frameNum = some p := by
  have hframe : (msgs.map TrackedMessage.frameNum)[p]? = some m.frameNum := by
    rw [List.getElem?_map, hm, Option.map_some]
  cases hplace : placeOf msgs m.frameNum with
  | none => exact absurd (List.mem_of_getElem? hframe) (placeOf_eq_none.1 hplace)
  | some q =>
    obtain ⟨m', hm', hframe'⟩ := placeOf_spec hplace
    have hlt : p < (msgs.map TrackedMessage.frameNum).length :=
      (List.getElem?_eq_some_iff.1 hframe).1
    refine congrArg some ((List.getElem?_inj hlt h).1 ?_).symm
    rw [hframe, List.getElem?_map, hm', Option.map_some, hframe']

/-! ## States that know a list of messages -/

/-- The tracker knows the messages `msgs`, in the order of recording. -/
structure Represents (env : TrackerEnv) (msgs : List TrackedMessage) (s : TrackerState) :
    Prop where
  content_eq : s.records.map MatterMessageRecord.content = msgs.map (TrackedMessage.content env)
  byMsgCntr : Chained TrackedMessage.msgIdKey msgs s.messageIdTable (s.link byMsgCntr.next)
    (s.link byMsgCntr.prev)
  byExchange : Chained TrackedMessage.exchangeKey msgs s.exchangeTable (s.link byExchange.next)
    (s.link byExchange.prev)
  protoData_eq : s.protoData = placeOf msgs

theorem Represents.empty (env : TrackerEnv) : Represents env [] .empty where
  content_eq := rfl
  byMsgCntr := .nil
  byExchange := .nil
  protoData_eq := rfl

variable {s s' : TrackerState} {p : RecordRef}

theorem Represents.length_eq (h : Represents env msgs s) : s.records.length = msgs.length := by
  simpa using congrArg List.length h.content_eq

/-- The record of a message. -/
theorem Represents.record (h : Represents env msgs s) (hm : msgs[p]? = some m) :
    ∃ r, s.records[p]? = some r ∧ r.frameNum = m.frameNum ∧ r.fingerprint = m.fingerprint env ∧
      r.isInitiator = m.isInitiator := by
  have hp := congrArg (·[p]?) h.content_eq
  simp only [List.getElem?_map, hm, Option.map_some] at hp
  obtain ⟨r, hr, hcontent⟩ := Option.map_eq_some_iff.1 hp
  rw [MatterMessageRecord.content, TrackedMessage.content, Prod.mk.injEq, Prod.mk.injEq] at hcontent
  exact ⟨r, hr, hcontent⟩

/-! ## Adding to a table -/

section
variable {xs : List RecordRef} {n : RecordRef}

theorem addMessageToMessageIdTable_run {key : MessageIdKey}
    (hpath : Path (s.link byMsgCntr.next) (s.messageIdTable key) xs)
    (hbound : ∀ p ∈ xs, p < s.records.length) (hnodup : xs.Nodup) :
    (addMessageToMessageIdTable key n).run s = .ok () { s with
      records := linkBehind byMsgCntr xs.getLast? n s.records
      messageIdTable := fun k => if key = k ∧ xs = [] then some n else s.messageIdTable k } := by
  rw [addMessageToMessageIdTable, gets_bind, addToList_path hpath hbound hnodup]
  by_cases hxs : xs = []
  · subst hxs
    simp only [if_true, run_modify, and_true, eq_comm]
    rfl
  · simp only [hxs, if_false, and_false]

theorem addMessageToExchangeTable_run {key : Key}
    (hpath : Path (s.link byExchange.next) (s.exchangeTable key) xs)
    (hbound : ∀ p ∈ xs, p < s.records.length) (hnodup : xs.Nodup) :
    (addMessageToExchangeTable key n).run s = .ok () { s with
      records := linkBehind byExchange xs.getLast? n s.records
      exchangeTable := fun k => if key = k ∧ xs = [] then some n else s.exchangeTable k } := by
  rw [addMessageToExchangeTable, gets_bind, addToList_path hpath hbound hnodup]
  by_cases hxs : xs = []
  · subst hxs
    simp only [if_true, run_modify, and_true, eq_comm]
    rfl
  · simp only [hxs, if_false, and_false]

end

/-! ## A new record -/

theorem byExchange_keeps_content : byExchange.Keeps MatterMessageRecord.content :=
  ⟨fun _ _ => rfl, fun _ _ => rfl⟩

theorem byMsgCntr_keeps_content : byMsgCntr.Keeps MatterMessageRecord.content :=
  ⟨fun _ _ => rfl, fun _ _ => rfl⟩

/-- The records after `fresh` has been linked into its two lists. -/
def linkedRecords (lastByMsgCntr lastByExchange : Option RecordRef)
    (records : List MatterMessageRecord) (fresh : MatterMessageRecord) :
    List MatterMessageRecord :=
  linkBehind byExchange lastByExchange records.length
    (linkBehind byMsgCntr lastByMsgCntr records.length (records ++ [fresh]))

/-- What both kinds of links leave alone is that of the old records and the new one. -/
theorem map_linkedRecords {γ : Type} {g : MatterMessageRecord → γ} (hc : byMsgCntr.Keeps g)
    (he : byExchange.Keeps g) {lastByMsgCntr lastByExchange : Option RecordRef}
    {records : List MatterMessageRecord} {fresh : MatterMessageRecord} :
    (linkedRecords lastByMsgCntr lastByExchange records fresh).map g =
      records.map g ++ [g fresh] := by
  rw [linkedRecords, map_linkBehind he, map_linkBehind hc, List.map_append, List.map_singleton]

/-- One kind of list: `s'` has the links of `rs` with the new record behind the last one of its
key, and `rs` those of `s` with a record in no list. -/
theorem chained_linkBehind {κ : Type} [DecidableEq κ] {key : TrackedMessage → κ} {links : Links}
    {head head' : κ → Option Nat} (fresh : MatterMessageRecord) {rs : List MatterMessageRecord}
    (hlawful : links.Lawful) (h : Chained key msgs head (s.link links.next) (s.link links.prev))
    (hlen : s.records.length = msgs.length) (hnext : links.next fresh = none)
    (hprev : links.prev fresh = none)
    (hhead : ∀ k, head' k =
      if key m = k ∧ positions key msgs k = [] then some msgs.length else head k)
    (hrs : ∀ field, field = links.next ∨ field = links.prev →
      rs.map field = (s.records ++ [fresh]).map field)
    (hs' : ∀ field, field = links.next ∨ field = links.prev → s'.records.map field =
      (linkBehind links (positions key msgs (key m)).getLast? msgs.length rs).map field) :
    Chained key (msgs ++ [m]) head' (s'.link links.next) (s'.link links.prev) := by
  have hbase : ∀ field, field = links.next ∨ field = links.prev → ∀ p < msgs.length,
      rs[p]?.bind field = s.link field p := fun field hfield p hp => by
    rw [bind_of_map_eq (hrs field hfield), List.getElem?_append_left (hlen ▸ hp)]
    rfl
  have hfresh : ∀ field, field = links.next ∨ field = links.prev → field fresh = none →
      rs[msgs.length]?.bind field = none := fun field hfield hnone => by
    rw [bind_of_map_eq (hrs field hfield), ← hlen, List.getElem?_concat_length, Option.bind_some,
      hnone]
  have hlink : ∀ field, field = links.next ∨ field = links.prev → ∀ p, s'.link field p =
      (linkBehind links (positions key msgs (key m)).getLast? msgs.length rs)[p]?.bind field :=
    fun field hfield p => bind_of_map_eq (hs' field hfield) p
  have hnew : msgs.length < rs.length := by
    rw [length_of_map_eq (hrs _ (.inl rfl)), List.length_append, hlen]
    exact Nat.lt_succ_self _
  refine h.snoc hhead (fun p hp hlast => ?_) (fun p hlast => ?_) ?_ (fun p hp => ?_) ?_
  · rw [hlink _ (.inl rfl), next_linkBehind hlawful hlast, hbase _ (.inl rfl) p hp]
  · have hp := lt_of_mem_positions (List.mem_of_getLast? hlast)
    rw [hlink _ (.inl rfl), hlast, next_linkBehind_last hlawful (Nat.lt_trans hp hnew)]
  · have hne : (positions key msgs (key m)).getLast? ≠ some msgs.length := fun hlast =>
      Nat.lt_irrefl _ (lt_of_mem_positions (List.mem_of_getLast? hlast))
    rw [hlink _ (.inl rfl), next_linkBehind hlawful hne, hfresh _ (.inl rfl) hnext]
  · rw [hlink _ (.inr rfl), prev_linkBehind hlawful (Nat.ne_of_lt hp), hbase _ (.inr rfl) p hp]
  · rw [hlink _ (.inr rfl), prev_linkBehind_new hlawful hnew (hfresh _ (.inr rfl) hprev)]

theorem byMsgCntr_keeps_byExchange (field : MatterMessageRecord → Option RecordRef)
    (h : field = byExchange.next ∨ field = byExchange.prev) : byMsgCntr.Keeps field := by
  rcases h with rfl | rfl <;> exact ⟨fun _ _ => rfl, fun _ _ => rfl⟩

theorem byExchange_keeps_byMsgCntr (field : MatterMessageRecord → Option RecordRef)
    (h : field = byMsgCntr.next ∨ field = byMsgCntr.prev) : byExchange.Keeps field := by
  rcases h with rfl | rfl <;> exact ⟨fun _ _ => rfl, fun _ _ => rfl⟩

/-! ## Recording a message -/

theorem computeMessageFingerprint_run (s : TrackerState) :
    (computeMessageFingerprint env m.tvb m.msgInfo).run s =
      if m.complete then .ok (m.fingerprint env) s else .err .outOfRange s := by
  unfold computeMessageFingerprint TrackedMessage.complete Tvb.getBytes TrackedMessage.bodyLen
  by_cases h : m.msgInfo.headerLen + sub32 m.msgInfo.msgLen m.msgInfo.headerLen ≤
    m.tvb.bytes.length
  · rw [if_pos h, if_pos (by simpa using h)]
    rfl
  · rw [if_neg h, if_neg (by simpa using h)]
    rfl

/-- The new record of a message. -/
def freshRecord (env : TrackerEnv) (m : TrackedMessage) : MatterMessageRecord where
  frameNum := m.frameNum
  fingerprint := m.fingerprint env
  isInitiator := m.isInitiator

/-- The state in which `m` has been recorded, after the messages `msgs`. -/
def recordState (env : TrackerEnv) (msgs : List TrackedMessage) (m : TrackedMessage)
    (s : TrackerState) : TrackerState where
  records := linkedRecords (positions TrackedMessage.msgIdKey msgs m.msgIdKey).getLast?
    (positions TrackedMessage.exchangeKey msgs m.exchangeKey).getLast? s.records
    (freshRecord env m)
  messageIdTable key :=
    if m.msgIdKey = key ∧ positions TrackedMessage.msgIdKey msgs m.msgIdKey = [] then
      some msgs.length
    else s.messageIdTable key
  exchangeTable key :=
    if m.exchangeKey = key ∧ positions TrackedMessage.exchangeKey msgs m.exchangeKey = [] then
      some msgs.length
    else s.exchangeTable key
  protoData num := if num = m.frameNum then some msgs.length else s.protoData num

/-- A list of the tracker, once a record has been added that is not in it. -/
theorem Represents.path_fresh {κ : Type} [DecidableEq κ] {key : TrackedMessage → κ}
    {field : MatterMessageRecord → Option RecordRef} {first : Option RecordRef} {k : κ}
    (h : Represents env msgs s) (hpath : Path (s.link field) first (positions key msgs k))
    (fresh : MatterMessageRecord) (s' : TrackerState)
    (hs' : s'.records.map field = (s.records ++ [fresh]).map field) :
    Path (s'.link field) first (positions key msgs k) ∧
      ∀ p ∈ positions key msgs k, p < s'.records.length := by
  have hlen : s'.records.length = msgs.length + 1 := by
    rw [length_of_map_eq hs', List.length_append, h.length_eq]
    rfl
  refine ⟨hpath.congr fun p hp => ?_, fun p hp => ?_⟩
  · have hp := lt_of_mem_positions hp
    rw [TrackerState.link, bind_of_map_eq hs',
      List.getElem?_append_left (by rw [h.length_eq]; exact hp)]
    rfl
  · have := lt_of_mem_positions hp
    omega

theorem createMessageRecord_run (h : Represents env msgs s) (hm : m.complete = true) :
    (createMessageRecord env m).run s = .ok msgs.length (recordState env msgs m s) := by
  have hfingerprint : (computeMessageFingerprint env m.tvb m.msgInfo).run s =
      .ok (m.fingerprint env) s := by rw [computeMessageFingerprint_run, if_pos hm]
  have hnew : (newRecord (freshRecord env m)).run s =
      .ok msgs.length { s with records := s.records ++ [freshRecord env m] } := by
    rw [newRecord, gets_bind, modify_bind, run_pure, h.length_eq]
  obtain ⟨hpath, hbound⟩ := h.path_fresh (h.byMsgCntr.path m.msgIdKey) (freshRecord env m)
    { s with records := s.records ++ [freshRecord env m] } rfl
  have hcounter := addMessageToMessageIdTable_run (n := msgs.length) hpath hbound nodup_positions
  -- the exchange table has not changed so far, nor have the links of its lists
  obtain ⟨hpath', hbound'⟩ := h.path_fresh (h.byExchange.path m.exchangeKey) (freshRecord env m)
    { s with
      records := linkBehind byMsgCntr (positions TrackedMessage.msgIdKey msgs m.msgIdKey).getLast?
        msgs.length (s.records ++ [freshRecord env m])
      messageIdTable := _ }
    (map_linkBehind (byMsgCntr_keeps_byExchange _ (.inl rfl)))
  have hexchange := addMessageToExchangeTable_run (n := msgs.length) hpath' hbound'
    nodup_positions
  rw [createMessageRecord, bind_ok hfingerprint]
  show (newRecord (freshRecord env m) >>= _).run s = _
  rw [bind_ok hnew, bind_ok hcounter, bind_ok hexchange, modify_bind, run_pure]
  rw [recordState, linkedRecords, h.length_eq]
  rfl

theorem Represents.recordState (h : Represents env msgs s)
    (hnew : m.frameNum ∉ msgs.map TrackedMessage.frameNum) :
    Represents env (msgs ++ [m]) (recordState env msgs m s) where
  content_eq := by
    rw [Tracker.recordState, map_linkedRecords byMsgCntr_keeps_content byExchange_keeps_content,
      h.content_eq, List.map_append]
    rfl
  byMsgCntr := by
    refine chained_linkBehind (freshRecord env m) byMsgCntr_lawful h.byMsgCntr h.length_eq rfl rfl
      (fun k => ?_) (fun _ _ => rfl) fun field hfield => ?_
    · by_cases hk : m.msgIdKey = k
      · subst hk; rfl
      · simp only [Tracker.recordState, hk, false_and, if_false]
    · rw [Tracker.recordState, linkedRecords,
        map_linkBehind (byExchange_keeps_byMsgCntr field hfield), h.length_eq]
  byExchange := by
    have hbefore : ∀ field, field = Tracker.byExchange.next ∨ field = Tracker.byExchange.prev →
        (linkBehind Tracker.byMsgCntr
          (positions TrackedMessage.msgIdKey msgs m.msgIdKey).getLast? msgs.length
          (s.records ++ [freshRecord env m])).map field =
        (s.records ++ [freshRecord env m]).map field := fun field hfield =>
      map_linkBehind (byMsgCntr_keeps_byExchange field hfield)
    refine chained_linkBehind (freshRecord env m) byExchange_lawful h.byExchange h.length_eq rfl
      rfl (fun k => ?_) hbefore fun field hfield => ?_
    · by_cases hk : m.exchangeKey = k
      · subst hk; rfl
      · simp only [Tracker.recordState, hk, false_and, if_false]
    · rw [Tracker.recordState, linkedRecords, h.length_eq]
  protoData_eq := by
    funext num
    rw [placeOf_append, ← h.protoData_eq]
    by_cases hnum : m.frameNum = num
    · subst hnum
      rw [h.protoData_eq, placeOf_eq_none.2 hnew]
      simp [Tracker.recordState]
    · rw [if_neg hnum, Option.or_none]
      exact if_neg (Ne.symm hnum)

/-! ## `FindOrCreateMessageRecord` -/

/-- What a call for `m` returns once the messages `msgs` are recorded, `m` perhaps among them. -/
def resultOf (msgs : List TrackedMessage) (m : TrackedMessage) : Except TvbError RecordRef :=
  match placeOf msgs m.frameNum with
  | some p => .ok p
  | none => .error .outOfRange

/-- The state after a call for `m`. -/
def afterMessage (env : TrackerEnv) (msgs : List TrackedMessage) (m : TrackedMessage)
    (s : TrackerState) : TrackerState :=
  if m.complete ∧ m.frameNum ∉ msgs.map TrackedMessage.frameNum then recordState env msgs m s
  else s

theorem Represents.afterMessage (h : Represents env msgs s) (m : TrackedMessage) :
    Represents env (recordMessage msgs m) (afterMessage env msgs m s) := by
  unfold recordMessage Tracker.afterMessage
  by_cases hc : m.complete ∧ m.frameNum ∉ msgs.map TrackedMessage.frameNum
  · rw [if_pos hc, if_pos hc]
    exact h.recordState hc.2
  · rw [if_neg hc, if_neg hc]
    exact h

/-- A frame that has a record: it is returned, and nothing changes. -/
theorem findOrCreate_known (h : s.protoData m.frameNum = some p) :
    (findOrCreateMessageRecord env m).run s = .ok p s := by
  have hfind : s.protoData m.pinfo.num = some p := h
  rw [findOrCreateMessageRecord, findMessageRecord, gets_bind, hfind]
  rfl

theorem findOrCreate_unknown (h : s.protoData m.frameNum = none) :
    (findOrCreateMessageRecord env m).run s = (createMessageRecord env m).run s := by
  have hfind : s.protoData m.pinfo.num = none := h
  rw [findOrCreateMessageRecord, findMessageRecord, gets_bind, hfind]

theorem findOrCreate_run (h : Represents env msgs s) (m : TrackedMessage) :
    (attempt (findOrCreateMessageRecord env m)).run s =
      .ok (resultOf (recordMessage msgs m) m) (afterMessage env msgs m s) := by
  unfold afterMessage resultOf recordMessage
  cases hplace : placeOf msgs m.frameNum with
  | some p =>
    have hold : ¬ (m.complete ∧ m.frameNum ∉ msgs.map TrackedMessage.frameNum) := fun hc => by
      rw [placeOf_eq_none.2 hc.2] at hplace
      cases hplace
    rw [attempt_ok (findOrCreate_known (by rw [h.protoData_eq, hplace])), if_neg hold,
      if_neg hold, hplace]
  | none =>
    have hnew := placeOf_eq_none.1 hplace
    rw [run_attempt, findOrCreate_unknown (by rw [h.protoData_eq, hplace])]
    by_cases hm : m.complete = true
    · rw [createMessageRecord_run h hm, if_pos ⟨hm, hnew⟩, if_pos ⟨hm, hnew⟩, placeOf_append,
        hplace, if_pos rfl]
      rfl
    · -- the fingerprint reads behind the captured bytes
      have hthrow : (createMessageRecord env m).run s = .err .outOfRange s := by
        rw [createMessageRecord, bind_err]
        rw [computeMessageFingerprint_run, if_neg hm]
      rw [hthrow, if_neg fun hc => hm hc.1, if_neg fun hc => hm hc.1, hplace]

/-- The results of a run, from a state that knows `msgs`. -/
def resultsOf : List TrackedMessage → List TrackedMessage → List (Except TvbError RecordRef)
  | _, [] => []
  | msgs, m :: run => resultOf (recordMessage msgs m) m :: resultsOf (recordMessage msgs m) run

theorem findOrCreateAll_represents (h : Represents env msgs s) (run : List TrackedMessage) :
    ∃ s', (findOrCreateAll env run).run s = .ok (resultsOf msgs run) s' ∧
      Represents env (run.foldl recordMessage msgs) s' := by
  induction run generalizing msgs s with
  | nil => exact ⟨s, rfl, h⟩
  | cons m run ih =>
    obtain ⟨s', hrun, hs'⟩ := ih (h.afterMessage m)
    refine ⟨s', ?_, hs'⟩
    rw [findOrCreateAll, bind_ok (findOrCreate_run h m), bind_ok hrun]
    rfl

/-- A run of the tracker. -/
theorem findOrCreateAll_run (env : TrackerEnv) (run : List TrackedMessage) :
    ∃ s, (findOrCreateAll env run).run .empty = .ok (resultsOf [] run) s ∧
      Represents env (recorded run) s :=
  findOrCreateAll_represents (.empty env) run

/-- What holds after a run, by what the state knows then. -/
theorem exists_findOrCreateAll_iff {run : List TrackedMessage} {c : Prop}
    {P : List (Except TvbError RecordRef) → TrackerState → Prop}
    (h : ∀ s, Represents env (recorded run) s → (P (resultsOf [] run) s ↔ c)) :
    (∃ results s, (findOrCreateAll env run).run .empty = .ok results s ∧ P results s) ↔ c := by
  obtain ⟨s, hrun, hs⟩ := findOrCreateAll_run env run
  rw [← h s hs]
  constructor
  · rintro ⟨results, s', hrun', hP⟩
    rw [hrun] at hrun'
    cases hrun'
    exact hP
  · exact fun hP => ⟨_, s, hrun, hP⟩

theorem placeOf_foldl {num p : Nat} (h : placeOf msgs num = some p) (run : List TrackedMessage) :
    placeOf (run.foldl recordMessage msgs) num = some p := by
  induction run generalizing msgs with
  | nil => exact h
  | cons m run ih => exact ih (placeOf_recordMessage h)

/-! ## What has been recorded -/

section
variable {run : List TrackedMessage}

theorem placeOf_isSome (h : m ∈ msgs) : ∃ p, placeOf msgs m.frameNum = some p := by
  cases hplace : placeOf msgs m.frameNum with
  | some p => exact ⟨p, rfl⟩
  | none => exact absurd (List.mem_map_of_mem h) (placeOf_eq_none.1 hplace)

/-- A complete message leaves its frame with a record. -/
theorem frame_recorded (hm : m.complete = true) :
    ∃ p, placeOf (recordMessage msgs m) m.frameNum = some p := by
  unfold recordMessage
  by_cases hnew : m.frameNum ∈ msgs.map TrackedMessage.frameNum
  · rw [if_neg fun hc => hc.2 hnew]
    obtain ⟨m', hm', hframe⟩ := mem_frames_iff.1 hnew
    exact hframe ▸ placeOf_isSome hm'
  · rw [if_pos ⟨hm, hnew⟩]
    exact placeOf_isSome (List.mem_append_right _ (List.mem_singleton_self m))

/-- A message recorded is complete and has come in the run. -/
theorem mem_foldl_recordMessage (h : m ∈ run.foldl recordMessage msgs) :
    m ∈ msgs ∨ m ∈ run ∧ m.complete = true := by
  induction run generalizing msgs with
  | nil => exact .inl h
  | cons m₁ run ih =>
    rcases ih h with h | ⟨h, hm⟩
    · unfold recordMessage at h
      split at h
      · rename_i hc
        rcases List.mem_append.1 h with h | h
        · exact .inl h
        · rw [List.mem_singleton.1 h]
          exact .inr ⟨List.mem_cons_self, hc.1⟩
      · exact .inl h
    · exact .inr ⟨List.mem_cons_of_mem m₁ h, hm⟩

/-- The frame of a complete message has a record after the run. -/
theorem placeOf_of_mem (h : m ∈ run) (hm : m.complete = true) :
    ∃ p, placeOf (run.foldl recordMessage msgs) m.frameNum = some p := by
  induction run generalizing msgs with
  | nil => cases h
  | cons m₁ run ih =>
    rcases List.mem_cons.1 h with rfl | h
    · obtain ⟨p, hp⟩ : ∃ p, placeOf (recordMessage msgs m) m.frameNum = some p :=
        frame_recorded hm
      exact ⟨p, placeOf_foldl hp run⟩
    · exact ih h

/-- What has been recorded stays where it is. -/
theorem getElem?_foldl_recordMessage (h : msgs[p]? = some m) (run : List TrackedMessage) :
    (run.foldl recordMessage msgs)[p]? = some m := by
  induction run generalizing msgs with
  | nil => exact h
  | cons m₁ run ih =>
    refine ih ?_
    unfold recordMessage
    split
    · rw [List.getElem?_append_left (List.getElem?_eq_some_iff.1 h).1, h]
    · exact h

theorem mem_recorded (h : m ∈ recorded run) : m ∈ run ∧ m.complete = true :=
  (mem_foldl_recordMessage h).resolve_left List.not_mem_nil

theorem recorded_concat : recorded (run ++ [m]) = recordMessage (recorded run) m := by
  rw [recorded, List.foldl_append]
  rfl

end

/-- What a call has returned is the place of its frame at the end of the run. -/
theorem placeOf_of_resultsOf {run : List TrackedMessage} {n : Nat} (hm : run[n]? = some m)
    (h : (resultsOf msgs run)[n]? = some (.ok p)) :
    placeOf (run.foldl recordMessage msgs) m.frameNum = some p := by
  induction run generalizing msgs n with
  | nil => cases hm
  | cons m₁ run ih =>
    cases n with
    | succ n => exact ih hm h
    | zero =>
      cases hm
      refine placeOf_foldl ?_ run
      have hresult : resultOf (recordMessage msgs m) m = .ok p := Option.some.inj h
      unfold resultOf at hresult
      split at hresult
      · rename_i q hq
        cases hresult
        exact hq
      · cases hresult

/-! ## The lists of a state -/

/-- The messages with a counter key, oldest first. -/
def TrackerState.counterList (s : TrackerState) (key : MessageIdKey) : List RecordRef :=
  walk (s.link Tracker.byMsgCntr.next) s.records.length (s.messageIdTable key)

/-- The messages of an exchange, oldest first. -/
def TrackerState.exchangeList (s : TrackerState) (key : Key) : List RecordRef :=
  walk (s.link Tracker.byExchange.next) s.records.length (s.exchangeTable key)

theorem Represents.counterList_eq (h : Represents env msgs s) (key : MessageIdKey) :
    s.counterList key = positions TrackedMessage.msgIdKey msgs key :=
  (h.byMsgCntr.path key).walk_eq (h.length_eq ▸ length_positions_le)

theorem Represents.exchangeList_eq (h : Represents env msgs s) (key : Key) :
    s.exchangeList key = positions TrackedMessage.exchangeKey msgs key :=
  (h.byExchange.path key).walk_eq (h.length_eq ▸ length_positions_le)

end

/-! ## Concrete messages -/

/-- The header of an unsecured message without node ids. -/
def shortHeader : DecodedMessageInfo where
  msgVersion := 0
  msgFlags := 0
  secFlags := 0
  srcNodeId := 0
  destNodeId := 0
  msgId := 0
  sessionType := 0
  sessionId := 0
  msgLen := 14
  headerLen := 8

/-- The acknowledged counter on the wire, if there is one. -/
def ackBytes (msgInfo : DecodedMessageInfo) : List UInt8 :=
  if msgInfo.exchHeader &&& exchangeFlagAckId ≠ 0 then LE.bytes 4 msgInfo.ackMsgCntr else []

/-- A message of frame `num` with a header like `shortHeader` and no payload. -/
def shortMessage (ptype : PortType) (num : Nat) (msgInfo : DecodedMessageInfo) :
    TrackedMessage where
  tvb := .ofBytes (LE.bytes 1 msgInfo.msgFlags ++ LE.bytes 2 msgInfo.sessionId ++
    LE.bytes 1 msgInfo.secFlags ++ LE.bytes 4 msgInfo.msgId ++ LE.bytes 1 msgInfo.exchHeader ++
    LE.bytes 1 msgInfo.msgType ++ LE.bytes 2 msgInfo.exchId ++
    LE.bytes 2 msgInfo.msgProtocolId ++ ackBytes msgInfo)
  pinfo := { num, ptype, tcpStream := 0 }
  msgInfo := { msgInfo with msgLen := 14 + (ackBytes msgInfo).length }

end Matter.Tracker
