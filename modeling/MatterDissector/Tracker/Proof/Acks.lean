import MatterDissector.Tracker.Proof.Sessions

/-!
# Acknowledgements

`FindAckedMessages` of a message looks up the acknowledged counter (`LooksUp`), reports the highest
frame it finds and makes the message the acknowledger of all of them that have none with a lower
frame. In a run over UDP messages in frame order every record has the lowest frame that looks it up
for its acknowledger, and dissecting a frame again changes nothing (`Acked`, `trackAll_acked`).

What a message acknowledges (`Acknowledges`) is another matter: the lookup is made for message
versions above 1 only, and its key has no session. In a run in which no step meets one of these
differences (`AckFound`) the annotations are right (`findAckedMessages_tracked`).
-/

namespace Matter.Tracker

open Prog Message Intrusive Extremum

section
variable {env : TrackerEnv} {s s' : TrackerState} {p q : RecordRef} {xs : List RecordRef}
  {best : Option RecordRef}

/-! ## The loop -/

/-- The record after the message of `p` has acknowledged it. -/
def ackRecord (frameNum : RecordRef → Nat) (p : RecordRef) (r : MatterMessageRecord) :
    MatterMessageRecord :=
  if r.frameNum < frameNum p then
    { r with ackedByMsgRec := keepBest (fun u v => decide (u < v)) frameNum r.ackedByMsgRec p }
  else r

/-- The records after the message of `p` has acknowledged those of `xs`. -/
def ackRecords (frameNum : RecordRef → Nat) (p : RecordRef) (xs : List RecordRef)
    (records : List MatterMessageRecord) : List MatterMessageRecord :=
  xs.foldl (fun records q => records.modify q (ackRecord frameNum p)) records

/-- Acknowledgers are records. -/
def AckBound (s : TrackerState) : Prop :=
  ∀ r ∈ s.records, ∀ a, r.ackedByMsgRec = some a → a < s.records.length

/-- An acknowledgement is seen in one field only. -/
theorem ackRecord_keeps {γ : Type} {g : MatterMessageRecord → γ}
    (hg : ∀ r a, g { r with ackedByMsgRec := a } = g r) (frameNum : RecordRef → Nat)
    (p : RecordRef) (r : MatterMessageRecord) : g (ackRecord frameNum p r) = g r := by
  unfold ackRecord
  split
  · exact hg r _
  · rfl

theorem map_ackRecords {γ : Type} {g : MatterMessageRecord → γ}
    (hg : ∀ r a, g { r with ackedByMsgRec := a } = g r) (frameNum : RecordRef → Nat)
    (p : RecordRef) (xs : List RecordRef) (records : List MatterMessageRecord) :
    (ackRecords frameNum p xs records).map g = records.map g := by
  unfold ackRecords
  induction xs generalizing records with
  | nil => rfl
  | cons q xs ih =>
    rw [List.foldl_cons, ih, map_modify_of_keeps (ackRecord_keeps hg frameNum p)]

theorem frameNum_of_map_eq
    (h : s'.records.map MatterMessageRecord.frameNum = s.records.map MatterMessageRecord.frameNum) :
    s'.frameNum = s.frameNum := by
  funext p
  have hp := congrArg (·[p]?) h
  simp only [List.getElem?_map] at hp
  rw [TrackerState.frameNum, hp, TrackerState.frameNum]

/-- A change to one record depends on what it does to that record. -/
theorem modify_congr {records : List MatterMessageRecord}
    {f g : MatterMessageRecord → MatterMessageRecord}
    (h : ∀ r, records[q]? = some r → f r = g r) : records.modify q f = records.modify q g := by
  refine List.ext_getElem? fun n => ?_
  rw [List.getElem?_modify, List.getElem?_modify]
  cases hr : records[n]? with
  | none => rfl
  | some r =>
    by_cases hn : q = n
    · subst hn
      simp [h r hr]
    · simp [hn]

theorem acksEarlier_run {r : MatterMessageRecord} (hacked : AckBound s) (hr : r ∈ s.records) :
    ∃ earlier, (acksEarlier (s.frameNum p) r.ackedByMsgRec).run s = .ok earlier s ∧
      keepBest (fun u v => decide (u < v)) s.frameNum r.ackedByMsgRec p =
        if earlier then some p else r.ackedByMsgRec := by
  cases hby : r.ackedByMsgRec with
  | none => exact ⟨true, rfl, rfl⟩
  | some a =>
    obtain ⟨r', hload, -, hframe, -⟩ := load_fields (hacked r hr a hby)
    refine ⟨decide (s.frameNum p < s.frameNum a), ?_, ?_⟩
    · rw [acksEarlier, bind_ok hload, hframe, run_pure]
    · rw [keepBest]
      split <;> rfl

theorem setAckedBy_run {earlier : Bool} {f : MatterMessageRecord → MatterMessageRecord}
    {r : MatterMessageRecord} (hr : s.records[q]? = some r)
    (hf : f r = { r with ackedByMsgRec := if earlier then some p else r.ackedByMsgRec }) :
    (setAckedBy p q earlier).run s = .ok () { s with records := s.records.modify q f } := by
  cases earlier with
  | true =>
    have hrecords : (s.records.modify q fun r => { r with ackedByMsgRec := some p }) =
        s.records.modify q f :=
      modify_congr fun r' hr' => by
        cases hr.symm.trans hr'
        exact hf.symm
    rw [← hrecords]
    rfl
  | false =>
    have hrecords : s.records.modify q id = s.records.modify q f := modify_congr fun r' hr' => by
      cases hr.symm.trans hr'
      exact hf.symm
    rw [← hrecords, List.modify_id]
    rfl

/-- One round of the loop. -/
theorem ackMessage_run (hq : q < s.records.length) (hacked : AckBound s)
    (hbest : ∀ a, best = some a → a < s.records.length) :
    (ackMessage p (s.frameNum p) best q).run s = .ok
      (if s.frameNum q < s.frameNum p then
        keepBest (fun u v => decide (u > v)) s.frameNum best q else best)
      { s with records := s.records.modify q (ackRecord s.frameNum p) } := by
  obtain ⟨r, hload, hr, hframe, -⟩ := load_fields hq
  rw [ackMessage, bind_ok hload, hframe]
  by_cases hlt : s.frameNum q < s.frameNum p
  · obtain ⟨earlier, hearlier, hkeep⟩ := acksEarlier_run (p := p) hacked (List.mem_of_getElem? hr)
    have hset : (setAckedBy p q earlier).run s = .ok ()
        { s with records := s.records.modify q (ackRecord s.frameNum p) } := setAckedBy_run hr
      (by rw [ackRecord, hframe, if_pos hlt, hkeep])
    have hframes : ({ s with records := s.records.modify q (ackRecord s.frameNum p) } :
        TrackerState).frameNum = s.frameNum :=
      frameNum_of_map_eq (map_modify_of_keeps
        (ackRecord_keeps (fun _ _ => rfl) s.frameNum p) q)
    rw [if_pos hlt, if_pos hlt, bind_ok hearlier, bind_ok hset, keepBetter_run, hframes]
    · simpa using hq
    · simpa using hbest
  · have hsame : s.records.modify q (ackRecord s.frameNum p) = s.records.modify q id :=
      modify_congr fun r' hr' => by
        cases hr.symm.trans hr'
        rw [ackRecord, hframe, if_neg hlt]
        rfl
    rw [if_neg hlt, if_neg hlt, hsame, List.modify_id]
    rfl

theorem AckBound.modify (h : AckBound s) (hp : p < s.records.length) :
    AckBound { s with records := s.records.modify q (ackRecord s.frameNum p) } := by
  intro r hr a ha
  obtain ⟨n, hn⟩ := List.mem_iff_getElem?.1 hr
  rw [List.getElem?_modify] at hn
  obtain ⟨r', hr', hn⟩ := Option.map_eq_some_iff.1 hn
  have hold : ∀ a, r'.ackedByMsgRec = some a → a < s.records.length :=
    h r' (List.mem_of_getElem? hr')
  have hlen : (s.records.modify q (ackRecord s.frameNum p)).length = s.records.length :=
    List.length_modify ..
  show a < (s.records.modify q (ackRecord s.frameNum p)).length
  rw [hlen]
  split at hn
  · subst hn
    by_cases hlt : r'.frameNum < s.frameNum p
    · rw [ackRecord, if_pos hlt] at ha
      have ha : keepBest (fun u v => decide (u < v)) s.frameNum r'.ackedByMsgRec p = some a := ha
      exact keepBest_bound hp hold a ha
    · rw [ackRecord, if_neg hlt] at ha
      exact hold a ha
  · subst hn
    exact hold a ha

theorem AckBound.ackRecords (h : AckBound s) (hp : p < s.records.length) (xs : List RecordRef) :
    AckBound { s with records := ackRecords s.frameNum p xs s.records } := by
  induction xs generalizing s with
  | nil => exact h
  | cons q xs ih =>
    let s₁ : TrackerState := { s with records := s.records.modify q (ackRecord s.frameNum p) }
    have hlen : s₁.records.length = s.records.length := List.length_modify ..
    have hframes : s₁.frameNum = s.frameNum :=
      frameNum_of_map_eq (map_modify_of_keeps
        (ackRecord_keeps (fun _ _ => rfl) s.frameNum p) q)
    have hrest := ih (s := s₁) (h.modify hp) (hlen ▸ hp)
    rw [hframes] at hrest
    exact hrest

theorem leaves_ackMessage (frameNum : Nat) (best : Option RecordRef) (q : RecordRef) :
    Leaves (fun s : TrackerState => s.records.map byMsgCntr.next)
      (ackMessage p frameNum best q) := by
  refine (leaves_load q _).bind fun r => .ite (.bind ?_ fun earlier => .bind ?_ fun _ =>
    leaves_keepBetter _ _ _ _) (.pure _)
  · cases r.ackedByMsgRec with
    | none => exact .pure _
    | some a => exact (leaves_load a _).bind fun _ => .pure _
  · cases earlier with
    | true =>
      have hnext : ∀ r, byMsgCntr.next { r with ackedByMsgRec := some p } = byMsgCntr.next r :=
        fun _ => rfl
      exact .modify fun s => map_modify_of_keeps hnext q
    | false => exact .pure _

/-- The loop over the messages `xs`. -/
theorem ackMessages_run (hp : p < s.records.length) (hxs : ∀ q ∈ xs, q < s.records.length)
    (hacked : AckBound s) (hbest : ∀ a, best = some a → a < s.records.length) :
    (xs.foldlM (ackMessage p (s.frameNum p)) best).run s = .ok
      (xs.foldl (fun best q => if s.frameNum q < s.frameNum p then
        keepBest (fun u v => decide (u > v)) s.frameNum best q else best) best)
      { s with records := ackRecords s.frameNum p xs s.records } := by
  induction xs generalizing s best with
  | nil => rfl
  | cons q xs ih =>
    have hq := hxs q List.mem_cons_self
    let s₁ : TrackerState := { s with records := s.records.modify q (ackRecord s.frameNum p) }
    have hlen : s₁.records.length = s.records.length := List.length_modify ..
    have hframes : s₁.frameNum = s.frameNum :=
      frameNum_of_map_eq (map_modify_of_keeps
        (ackRecord_keeps (fun _ _ => rfl) s.frameNum p) q)
    have hbest' : ∀ a, (if s.frameNum q < s.frameNum p then
        keepBest (fun u v => decide (u > v)) s.frameNum best q else best) = some a →
        a < s₁.records.length := by
      rw [hlen]
      split
      · exact keepBest_bound hq hbest
      · exact hbest
    have htail := ih (s := s₁) (hlen ▸ hp)
      (fun q' hq' => hlen ▸ hxs q' (List.mem_cons_of_mem q hq')) (hacked.modify hp) hbest'
    rw [hframes] at htail
    rw [List.foldlM_cons, bind_ok (ackMessage_run hq hacked hbest)]
    exact htail

/-- What the loop does to each record. -/
theorem getElem?_ackRecords {frameNum : RecordRef → Nat} {records : List MatterMessageRecord}
    (hnodup : xs.Nodup) (n : Nat) : (ackRecords frameNum p xs records)[n]? =
      if n ∈ xs then records[n]?.map (ackRecord frameNum p) else records[n]? := by
  unfold ackRecords
  induction xs generalizing records with
  | nil => rfl
  | cons q xs ih =>
    obtain ⟨hq, hxs⟩ := List.nodup_cons.1 hnodup
    rw [List.foldl_cons, ih hxs, List.getElem?_modify]
    by_cases hn : q = n
    · subst hn
      simp [hq]
    · have hn' : n ≠ q := Ne.symm hn
      by_cases hmem : n ∈ xs <;> cases records[n]? <;> simp [hn, hn', hmem]

end

/-! ## What is looked up -/

namespace TrackedMessage

/-- The A flag. -/
def hasAck (m : TrackedMessage) : Prop := m.msgInfo.exchHeader &&& exchangeFlagAckId ≠ 0

/-- The key that `FindAckedMessages` looks up. -/
def ackKey (m : TrackedMessage) : MessageIdKey :=
  getMessageIdTableAndKey m.msgInfo.destNodeId m.msgInfo.ackMsgCntr m.msgInfo.sessionType
    m.msgInfo.sessionId false 0

/-- `FindAckedMessages` is run for the message. -/
def TracksAck (m : TrackedMessage) : Prop :=
  m.pinfo.ptype = .udp ∧ m.msgInfo.msgVersion > 1 ∧ m.hasAck

theorem tracksAck_iff {m : TrackedMessage} : m.TracksAck ↔ m.pinfo.ptype = .udp ∧
    m.msgInfo.msgVersion > 1 ∧ m.msgInfo.exchHeader &&& exchangeFlagAckId ≠ 0 := Iff.rfl

/-- `FindAckedMessages` of `m` takes `x` for a message that `m` acknowledges. -/
def LooksUp (m x : TrackedMessage) : Prop :=
  m.TracksAck ∧ x.msgIdKey = m.ackKey ∧ x.frameNum < m.frameNum

/-- `m` acknowledges `x`. -/
def Acknowledges (m x : TrackedMessage) : Prop :=
  m.hasAck ∧ x.frameNum < m.frameNum ∧ x.msgInfo.srcNodeId = m.msgInfo.destNodeId ∧
    x.msgInfo.msgId = m.msgInfo.ackMsgCntr ∧ x.msgInfo.sessionType = m.msgInfo.sessionType ∧
    x.msgInfo.sessionId = m.msgInfo.sessionId

instance (m : TrackedMessage) : Decidable m.hasAck := inferInstanceAs (Decidable (_ ≠ _))

instance (m : TrackedMessage) : Decidable m.TracksAck := inferInstanceAs (Decidable (_ ∧ _ ∧ _))

instance : DecidableRel LooksUp := fun _ _ => inferInstanceAs (Decidable (_ ∧ _ ∧ _))

instance : DecidableRel Acknowledges := fun _ _ =>
  inferInstanceAs (Decidable (_ ∧ _ ∧ _ ∧ _ ∧ _ ∧ _))

end TrackedMessage

open TrackedMessage

/-- The records of the messages with a property. -/
def places (P : TrackedMessage → Prop) [DecidablePred P] (msgs : List TrackedMessage) :
    List RecordRef := msgs.findIdxs fun m => P m

section
variable {env : TrackerEnv} {msgs : List TrackedMessage} {s s' : TrackerState}
  {m : TrackedMessage} {p q : RecordRef} {P : TrackedMessage → Prop} [DecidablePred P]

theorem mem_places : p ∈ places P msgs ↔ ∃ m, msgs[p]? = some m ∧ P m := by
  rw [places, List.mem_findIdxs_iff_exists_getElem_pos]
  constructor
  · rintro ⟨hp, hm⟩
    exact ⟨msgs[p], List.getElem?_eq_getElem hp, of_decide_eq_true hm⟩
  · rintro ⟨m, hm, hP⟩
    obtain ⟨hp, rfl⟩ := List.getElem?_eq_some_iff.1 hm
    exact ⟨hp, decide_eq_true hP⟩

theorem places_append : places P (msgs ++ [m]) =
    places P msgs ++ if P m then [msgs.length] else [] := by
  rw [places, List.findIdxs_append, places, Nat.zero_add]
  by_cases h : P m <;> simp [h]

/-- `FindAckedMessages` for the record `p`, where it is run; `p` may be the record of another
message of the frame. -/
theorem findAckedMessages_ackRecords (h : Represents env msgs s) (hacked : AckBound s)
    (hp : p < s.records.length) (htracks : m.TracksAck) :
    ∃ ackedMsg, (findAckedMessages m.pinfo p m.msgInfo).run s = .ok ackedMsg { s with
        records := ackRecords s.frameNum p (positions msgIdKey msgs m.ackKey) s.records } ∧
      IsExtremal (· ≥ ·) s.frameNum
        ((positions msgIdKey msgs m.ackKey).filter (s.frameNum · < s.frameNum p)) ackedMsg := by
  obtain ⟨r, hload, -, hframe, -⟩ := load_fields hp
  have hbound : ∀ q ∈ positions msgIdKey msgs m.ackKey, q < s.records.length := fun q hq => by
    rw [h.length_eq]
    exact lt_of_mem_positions hq
  have hloop : (forRecords byMsgCntr.next (ackMessage p (s.frameNum p))
      (s.messageIdTable m.ackKey) none).run s = _ :=
    (forRecords_path (leaves_ackMessage (s.frameNum p)) none
      (h.byMsgCntr.path m.ackKey) hbound nodup_positions).trans
      (ackMessages_run hp hbound hacked (fun _ hq => by cases hq))
  refine ⟨_, Eq.trans ?_ hloop, ?_⟩
  · rw [findAckedMessages, if_pos (tracksAck_iff.1 htracks), getMessagesByMessageId, gets_bind,
      bind_ok hload,
      hframe]
    rfl
  · exact highest_foldl s.frameNum (s.frameNum · < s.frameNum p) (positions msgIdKey msgs m.ackKey)

/-- `FindAckedMessages`, where it is run. -/
theorem findAckedMessages_run (h : Represents env msgs s) (hacked : AckBound s)
    (hm : msgs[p]? = some m) (htracks : m.TracksAck) :
    ∃ ackedMsg, (findAckedMessages m.pinfo p m.msgInfo).run s = .ok ackedMsg { s with
        records := ackRecords s.frameNum p (positions msgIdKey msgs m.ackKey) s.records } ∧
      IsExtremal (· ≥ ·) s.frameNum (places m.LooksUp msgs) ackedMsg := by
  have hp : p < s.records.length := h.length_eq ▸ (List.getElem?_eq_some_iff.1 hm).1
  obtain ⟨ackedMsg, hrun, hhighest⟩ := findAckedMessages_ackRecords h hacked hp htracks
  refine ⟨ackedMsg, hrun, hhighest.congr fun q => ?_⟩
  rw [List.mem_filter, mem_positions, mem_places, (h.fields hm).1, decide_eq_true_eq]
  constructor
  · rintro ⟨hkey, hlt⟩
    obtain ⟨x, hx, hkey⟩ := Option.map_eq_some_iff.1 hkey
    exact ⟨x, hx, htracks, hkey, (h.fields hx).1 ▸ hlt⟩
  · rintro ⟨x, hx, -, hkey, hlt⟩
    exact ⟨by rw [hx, Option.map_some, hkey], by rw [(h.fields hx).1]; exact hlt⟩

/-- `FindAckedMessages`, where it is not run. -/
theorem findAckedMessages_none (p : RecordRef) (s : TrackerState) (msgs : List TrackedMessage)
    (htracks : ¬ m.TracksAck) :
    (findAckedMessages m.pinfo p m.msgInfo).run s = .ok none s ∧
      IsExtremal (· ≥ ·) s.frameNum (places m.LooksUp msgs) none := by
  constructor
  · rw [findAckedMessages, if_neg fun hguard => htracks (tracksAck_iff.2 hguard)]
    rfl
  · refine List.eq_nil_iff_forall_not_mem.2 fun q hq => ?_
    obtain ⟨x, -, hx, -⟩ := mem_places.1 hq
    exact htracks hx

/-! ## The acknowledgers of a state -/

/-- The tracker knows `msgs`, and of those in `done` what they acknowledge. -/
structure Acked (env : TrackerEnv) (msgs done : List TrackedMessage) (s : TrackerState) : Prop where
  represents : Represents env msgs s
  length_le : done.length ≤ msgs.length
  ackedBy : ∀ (p : RecordRef) x, msgs[p]? = some x → ∃ r, s.records[p]? = some r ∧
    IsExtremal (· ≤ ·) s.frameNum (places (LooksUp · x) done) r.ackedByMsgRec

variable {done : List TrackedMessage}

theorem Acked.empty (env : TrackerEnv) : Acked env [] [] .empty where
  represents := .empty env
  length_le := Nat.le_refl _
  ackedBy p x hx := by cases hx

theorem lt_of_mem_places (h : p ∈ places P msgs) : p < msgs.length := by
  obtain ⟨m, hm, -⟩ := mem_places.1 h
  exact (List.getElem?_eq_some_iff.1 hm).1

theorem Acked.bound (h : Acked env msgs done s) : AckBound s := by
  intro r hr a ha
  obtain ⟨n, hn⟩ := List.mem_iff_getElem?.1 hr
  have hlt : n < msgs.length := h.represents.length_eq ▸ (List.getElem?_eq_some_iff.1 hn).1
  obtain ⟨r', hr', hlowest⟩ := h.ackedBy n msgs[n] (List.getElem?_eq_getElem hlt)
  cases hn.symm.trans hr'
  rw [ha] at hlowest
  rw [h.represents.length_eq]
  exact Nat.lt_of_lt_of_le (lt_of_mem_places hlowest.mem) h.length_le

theorem link_ackRecords {field : MatterMessageRecord → Option RecordRef}
    (hfield : ∀ r a, field { r with ackedByMsgRec := a } = field r) (p : RecordRef)
    (xs : List RecordRef) :
    ({ s with records := ackRecords s.frameNum p xs s.records } : TrackerState).link field =
      s.link field :=
  link_of_map_eq (map_ackRecords hfield s.frameNum p xs s.records)

theorem Represents.ackRecords (h : Represents env msgs s) (p : RecordRef) (xs : List RecordRef) :
    Represents env msgs { s with records := ackRecords s.frameNum p xs s.records } where
  content_eq := by rw [map_ackRecords (fun _ _ => rfl), h.content_eq]
  byMsgCntr := by
    rw [link_ackRecords (fun _ _ => rfl), link_ackRecords (fun _ _ => rfl)]
    exact h.byMsgCntr
  byExchange := by
    rw [link_ackRecords (fun _ _ => rfl), link_ackRecords (fun _ _ => rfl)]
    exact h.byExchange
  protoData_eq := h.protoData_eq

theorem frameNum_ackRecords (p : RecordRef) (xs : List RecordRef) :
    ({ s with records := ackRecords s.frameNum p xs s.records } : TrackerState).frameNum =
      s.frameNum :=
  frameNum_of_map_eq (map_ackRecords (fun _ _ => rfl) s.frameNum p xs s.records)

theorem lower_iff (u v : Nat) : decide (u < v) = true ↔ ¬ v ≤ u := by simp

/-- A message that is looked up, as a record of the list. -/
theorem lookedUp_iff (h : Represents env msgs s) (hm : msgs[p]? = some m) {x : TrackedMessage}
    (hx : msgs[q]? = some x) (htracks : m.TracksAck) :
    m.LooksUp x ↔ q ∈ positions msgIdKey msgs m.ackKey ∧ s.frameNum q < s.frameNum p := by
  rw [mem_positions, hx, Option.map_some, Option.some.injEq, (h.fields hx).1, (h.fields hm).1]
  exact ⟨fun hl => hl.2, fun hl => ⟨htracks, hl⟩⟩

/-- The acknowledger of a record after a call of `FindAckedMessages` for `m`. -/
theorem ackRecord_lowest (h : Represents env msgs s) (hm : msgs[p]? = some m)
    {x : TrackedMessage} (hx : msgs[q]? = some x) (htracks : m.TracksAck)
    {r : MatterMessageRecord} (hr : s.records[q]? = some r) {as : List RecordRef}
    (hlowest : IsExtremal (· ≤ ·) s.frameNum as r.ackedByMsgRec) :
    ∃ r' : MatterMessageRecord,
      (ackRecords s.frameNum p (positions msgIdKey msgs m.ackKey) s.records)[q]? = some r' ∧
      IsExtremal (· ≤ ·) s.frameNum (as ++ if m.LooksUp x then [p] else [])
        r'.ackedByMsgRec := by
  have hframe : r.frameNum = s.frameNum q := by
    rw [TrackerState.frameNum, hr]
    rfl
  rw [getElem?_ackRecords nodup_positions, hr]
  by_cases hmem : q ∈ positions msgIdKey msgs m.ackKey
  · rw [if_pos hmem, Option.map_some]
    by_cases hlt : s.frameNum q < s.frameNum p
    · have hlooks : m.LooksUp x := (lookedUp_iff h hm hx htracks).2 ⟨hmem, hlt⟩
      refine ⟨_, rfl, ?_⟩
      rw [ackRecord, hframe, if_pos hlt, if_pos hlooks]
      exact hlowest.keepBest Nat.le_total (fun _ _ _ => Nat.le_trans) lower_iff p
    · have hlooks : ¬ m.LooksUp x := fun hl => hlt ((lookedUp_iff h hm hx htracks).1 hl).2
      have hsame : ackRecord s.frameNum p r = r := by rw [ackRecord, hframe, if_neg hlt]
      rw [if_neg hlooks, List.append_nil]
      exact ⟨_, rfl, hsame.symm ▸ hlowest⟩
  · have hlooks : ¬ m.LooksUp x := fun hl => hmem ((lookedUp_iff h hm hx htracks).1 hl).1
    rw [if_neg hmem, if_neg hlooks, List.append_nil]
    exact ⟨r, rfl, hlowest⟩

/-- `FindAckedMessages` of the message recorded last. -/
theorem Acked.findAcked_new (h : Acked env (msgs ++ [m]) msgs s) :
    ∃ ackedMsg s', (findAckedMessages m.pinfo msgs.length m.msgInfo).run s = .ok ackedMsg s' ∧
      Acked env (msgs ++ [m]) (msgs ++ [m]) s' ∧
      IsExtremal (· ≥ ·) s'.frameNum (places m.LooksUp (msgs ++ [m])) ackedMsg := by
  have hm : (msgs ++ [m])[msgs.length]? = some m := by simp
  by_cases htracks : m.TracksAck
  · obtain ⟨ackedMsg, hrun, hhighest⟩ := findAckedMessages_run h.represents h.bound hm htracks
    refine ⟨ackedMsg, _, hrun, ⟨h.represents.ackRecords _ _, Nat.le_refl _, fun q x hx => ?_⟩, ?_⟩
    · obtain ⟨r, hr, hlowest⟩ := h.ackedBy q x hx
      obtain ⟨r', hr', hlowest'⟩ := ackRecord_lowest h.represents hm hx htracks hr hlowest
      rw [frameNum_ackRecords, places_append]
      exact ⟨r', hr', hlowest'⟩
    · rw [frameNum_ackRecords]
      exact hhighest
  · obtain ⟨hrun, hhighest⟩ := findAckedMessages_none msgs.length s (msgs ++ [m]) htracks
    refine ⟨none, s, hrun, ⟨h.represents, Nat.le_refl _, fun q x hx => ?_⟩, hhighest⟩
    have hlooks : ¬ m.LooksUp x := fun hl => htracks hl.1
    rw [places_append, if_neg hlooks, List.append_nil]
    exact h.ackedBy q x hx

/-- Again for a message whose acknowledgements are known: nothing changes. -/
theorem Acked.findAcked_again (h : Acked env msgs msgs s) (hm : msgs[p]? = some m) :
    ∃ ackedMsg, (findAckedMessages m.pinfo p m.msgInfo).run s = .ok ackedMsg s ∧
      IsExtremal (· ≥ ·) s.frameNum (places m.LooksUp msgs) ackedMsg := by
  by_cases htracks : m.TracksAck
  · obtain ⟨ackedMsg, hrun, hhighest⟩ := findAckedMessages_run h.represents h.bound hm htracks
    have hsame : ackRecords s.frameNum p (positions msgIdKey msgs m.ackKey) s.records =
        s.records := by
      refine List.ext_getElem? fun n => ?_
      rw [getElem?_ackRecords nodup_positions]
      split
      · rename_i hn
        obtain ⟨x, hx, -⟩ := Option.map_eq_some_iff.1 (mem_positions.1 hn)
        obtain ⟨r, hr, hlowest⟩ := h.ackedBy n x hx
        have hframe : r.frameNum = s.frameNum n := by
          rw [TrackerState.frameNum, hr]
          rfl
        rw [hr, Option.map_some]
        refine congrArg some ?_
        by_cases hlt : r.frameNum < s.frameNum p
        · have hlooks : m.LooksUp x :=
            (lookedUp_iff h.represents hm hx htracks).2 ⟨hn, hframe ▸ hlt⟩
          rw [ackRecord, if_pos hlt,
            hlowest.keepBest_of_mem lower_iff (mem_places.2 ⟨m, hm, hlooks⟩)]
        · rw [ackRecord, if_neg hlt]
      · rfl
    rw [hsame] at hrun
    exact ⟨ackedMsg, hrun, hhighest⟩
  · obtain ⟨hrun, hhighest⟩ := findAckedMessages_none p s msgs htracks
    exact ⟨none, hrun, hhighest⟩

/-! ## One message -/

theorem byMsgCntr_keeps_ackedBy : byMsgCntr.Keeps MatterMessageRecord.ackedByMsgRec :=
  ⟨fun _ _ => rfl, fun _ _ => rfl⟩

theorem byExchange_keeps_ackedBy : byExchange.Keeps MatterMessageRecord.ackedByMsgRec :=
  ⟨fun _ _ => rfl, fun _ _ => rfl⟩

/-- A new record has no acknowledger, the others keep theirs. -/
theorem ackedBy_recordState (env : TrackerEnv) (msgs : List TrackedMessage) (m : TrackedMessage)
    (s : TrackerState) : (recordState env msgs m s).records.map
    MatterMessageRecord.ackedByMsgRec =
      s.records.map MatterMessageRecord.ackedByMsgRec ++ [none] :=
  map_linkedRecords byMsgCntr_keeps_ackedBy byExchange_keeps_ackedBy

theorem Acked.recordState (h : Acked env msgs msgs s)
    (hlast : ∀ m' ∈ msgs, m'.frameNum < m.frameNum) :
    Acked env (msgs ++ [m]) msgs (recordState env msgs m s) := by
  have hnew : m.frameNum ∉ msgs.map TrackedMessage.frameNum := fun hmem => by
    obtain ⟨m', hm', hframe⟩ := mem_frames_iff.1 hmem
    exact absurd hframe (Nat.ne_of_lt (hlast m' hm'))
  have hs := h.represents.recordState hnew
  refine ⟨hs, by simp, fun p x hx => ?_⟩
  obtain ⟨r, hr, -⟩ := hs.record hx
  refine ⟨r, hr, ?_⟩
  have hacked : some r.ackedByMsgRec =
      (s.records.map MatterMessageRecord.ackedByMsgRec ++ [none])[p]? := by
    rw [← ackedBy_recordState env msgs m, List.getElem?_map, hr,
      Option.map_some]
  rcases Nat.lt_or_ge p msgs.length with hp | hp
  · -- an old record has kept its acknowledger, and the frames are as before
    rw [List.getElem?_append_left hp] at hx
    obtain ⟨r', hr', hlowest⟩ := h.ackedBy p x hx
    rw [List.getElem?_append_left (by simpa [h.represents.length_eq] using hp), List.getElem?_map,
      hr', Option.map_some, Option.some.injEq] at hacked
    rw [hacked]
    refine hlowest.congr_value fun a ha => ?_
    obtain ⟨m', hm', -⟩ := mem_places.1 ha
    have hlt := lt_of_mem_places ha
    rw [(hs.fields ((List.getElem?_append_left hlt).trans hm')).1, (h.represents.fields hm').1]
  · -- the new record is the last one of all frames, so nothing acknowledges it yet
    have hlen : p = msgs.length := by
      have hlt := (List.getElem?_eq_some_iff.1 hx).1
      rw [List.length_append, List.length_singleton] at hlt
      exact Nat.le_antisymm (Nat.le_of_lt_succ hlt) hp
    subst hlen
    rw [List.getElem?_concat_length, Option.some.injEq] at hx
    subst hx
    rw [← h.represents.length_eq, ← List.length_map (f := MatterMessageRecord.ackedByMsgRec),
      List.getElem?_concat_length, Option.some.injEq] at hacked
    rw [hacked]
    refine List.eq_nil_iff_forall_not_mem.2 fun a ha => ?_
    obtain ⟨m', hm', hlooks⟩ := mem_places.1 ha
    have hlt := hlast m' (List.mem_of_getElem? hm')
    exact absurd hlooks.2.2 (Nat.lt_asymm hlt)

/-- The questions in front of `FindAckedMessages` only read. -/
theorem Represents.trackMessage_run (h : Represents env msgs s) (hm : msgs[p]? = some m)
    {s₀ : TrackerState} (hcreate : (findOrCreateMessageRecord env m).run s₀ = .ok p s)
    {ackedMsg : Option RecordRef}
    (hacked : (findAckedMessages m.pinfo p m.msgInfo).run s = .ok ackedMsg s') :
    ∃ annotations, (trackMessage env m).run s₀ = .ok annotations s' ∧
      annotations.msgRec = p ∧ annotations.ackedMsg = ackedMsg := by
  obtain ⟨start, hstart, -⟩ := h.start ((h.mem_exchangeList hm).2 rfl)
  obtain ⟨⟨found, hfound, -⟩, reused, hreused, -⟩ := h.reported hm
  refine ⟨⟨p, start, found, reused, ackedMsg⟩, ?_, rfl, rfl⟩
  rw [trackMessage, bind_ok hcreate, bind_ok hstart, bind_ok hfound, bind_ok hreused,
    bind_ok hacked, run_pure]

/-- Dissecting a message of a new frame behind all others. -/
theorem Acked.trackMessage_new (h : Acked env msgs msgs s) (hm : m.complete = true)
    (hlast : ∀ m' ∈ msgs, m'.frameNum < m.frameNum) :
    ∃ annotations s', (trackMessage env m).run s = .ok annotations s' ∧
      Acked env (msgs ++ [m]) (msgs ++ [m]) s' ∧
      IsExtremal (· ≥ ·) s'.frameNum (places m.LooksUp (msgs ++ [m])) annotations.ackedMsg := by
  have hnew : placeOf msgs m.frameNum = none := placeOf_eq_none.2 fun hmem => by
    obtain ⟨m', hm', hframe⟩ := mem_frames_iff.1 hmem
    exact absurd hframe (Nat.ne_of_lt (hlast m' hm'))
  have hcreate : (findOrCreateMessageRecord env m).run s =
      .ok msgs.length (Tracker.recordState env msgs m s) := by
    rw [findOrCreate_unknown (by rw [h.represents.protoData_eq, hnew]),
      createMessageRecord_run h.represents hm]
  have hrecord := h.recordState hlast
  obtain ⟨ackedMsg, s', hacked, hs', hhighest⟩ := hrecord.findAcked_new
  obtain ⟨annotations, hrun, -, rfl⟩ :=
    hrecord.represents.trackMessage_run List.getElem?_concat_length hcreate hacked
  exact ⟨annotations, s', hrun, hs', hhighest⟩

/-- Dissecting a message again. -/
theorem Acked.trackMessage_again (h : Acked env msgs msgs s) (hm : msgs[p]? = some m)
    (hplace : placeOf msgs m.frameNum = some p) :
    ∃ annotations, (trackMessage env m).run s = .ok annotations s ∧
      IsExtremal (· ≥ ·) s.frameNum (places m.LooksUp msgs) annotations.ackedMsg := by
  obtain ⟨ackedMsg, hacked, hhighest⟩ := h.findAcked_again hm
  have hcreate : (findOrCreateMessageRecord env m).run s = .ok p s :=
    findOrCreate_known (by rw [h.represents.protoData_eq, hplace])
  obtain ⟨annotations, hrun, -, rfl⟩ := h.represents.trackMessage_run hm hcreate hacked
  exact ⟨annotations, hrun, hhighest⟩

/-- Dissecting a message that is not complete. -/
theorem Acked.trackMessage_incomplete (h : Acked env msgs msgs s) (hm : ¬ m.complete = true)
    (hplace : placeOf msgs m.frameNum = none) :
    (trackMessage env m).run s = .err .outOfRange s := by
  rw [trackMessage, bind_err]
  rw [findOrCreate_unknown (by rw [h.represents.protoData_eq, hplace]), createMessageRecord,
    bind_err]
  rw [computeMessageFingerprint_run, if_neg hm]

end

/-! ## Runs in frame order -/

/-- The frames come in order; a frame that has come may come again. -/
def FramesInOrder (run : List TrackedMessage) : Prop :=
  ∀ n m, run[n]? = some m →
    m ∈ run.take n ∨ ∀ m' ∈ run.take n, m'.frameNum < m.frameNum

section
variable {env : TrackerEnv} {run : List TrackedMessage} {m m' x : TrackedMessage}
  {s s' : TrackerState}

theorem FramesInOrder.concat (h : FramesInOrder (run ++ [m])) : FramesInOrder run ∧
    (m ∈ run ∨ ∀ m' ∈ run, m'.frameNum < m.frameNum) := by
  constructor
  · intro n m' hm'
    have hlt : n < run.length := (List.getElem?_eq_some_iff.1 hm').1
    have hn := h n m' (by rw [List.getElem?_append_left hlt, hm'])
    rwa [List.take_append_of_le_length (Nat.le_of_lt hlt)] at hn
  · have hn := h run.length m List.getElem?_concat_length
    rwa [List.take_left] at hn

/-- A frame has one message. -/
theorem FramesInOrder.eq_of_frame (h : FramesInOrder run) (hm : m ∈ run) (hm' : m' ∈ run)
    (hframe : m.frameNum = m'.frameNum) : m = m' := by
  induction run using List.reverseRecOn generalizing m m' with
  | nil => cases hm
  | append_singleton run a ih =>
    obtain ⟨hrun, ha⟩ := h.concat
    have hold : ∀ b ∈ run, b.frameNum = a.frameNum → b = a := fun b hb hba => by
      rcases ha with ha | ha
      · exact ih hrun hb ha hba
      · exact absurd hba (Nat.ne_of_lt (ha b hb))
    rcases List.mem_append.1 hm with hmem | hmem <;>
      rcases List.mem_append.1 hm' with hmem' | hmem'
    · exact ih hrun hmem hmem' hframe
    · rw [List.mem_singleton.1 hmem'] at hframe ⊢
      exact hold m hmem hframe
    · rw [List.mem_singleton.1 hmem] at hframe ⊢
      exact (hold m' hmem' hframe.symm).symm
    · rw [List.mem_singleton.1 hmem, List.mem_singleton.1 hmem']

/-- A message that has come before changes nothing of what is recorded. -/
theorem FramesInOrder.recordMessage_again (h : FramesInOrder run) (hm : m ∈ run) :
    recordMessage (recorded run) m = recorded run ∧
      (m.complete = true → ∃ p, placeOf (recorded run) m.frameNum = some p ∧
        (recorded run)[p]? = some m) ∧
      (¬ m.complete = true → placeOf (recorded run) m.frameNum = none) := by
  have hplaced : ∀ p, placeOf (recorded run) m.frameNum = some p →
      (recorded run)[p]? = some m := fun p hp => by
    obtain ⟨m', hm', hframe⟩ := placeOf_spec hp
    rw [h.eq_of_frame hm (mem_recorded (List.mem_of_getElem? hm')).1 hframe.symm]
    exact hm'
  have hcomplete : m.complete = true → ∃ p, placeOf (recorded run) m.frameNum = some p :=
    placeOf_of_mem hm
  refine ⟨?_, fun hc => ?_, fun hc => ?_⟩
  · refine if_neg fun hnew => ?_
    obtain ⟨p, hp⟩ := hcomplete hnew.1
    rw [placeOf_eq_none.2 hnew.2] at hp
    cases hp
  · obtain ⟨p, hp⟩ := hcomplete hc
    exact ⟨p, hp, hplaced p hp⟩
  · cases hp : placeOf (recorded run) m.frameNum with
    | none => rfl
    | some p => exact absurd (mem_recorded (List.mem_of_getElem? (hplaced p hp))).2 hc

/-- A step of a run in frame order. -/
theorem Acked.step (h : Acked env (recorded run) (recorded run) s)
    (horder : FramesInOrder (run ++ [m])) :
    ∃ result s', (attempt (trackMessage env m)).run s = .ok result s' ∧
      Acked env (recorded (run ++ [m])) (recorded (run ++ [m])) s' ∧
      (m ∈ run → s' = s) ∧
      (m.complete = true → ∃ annotations, result = .ok annotations ∧
        IsExtremal (· ≥ ·) s'.frameNum (places m.LooksUp (recorded (run ++ [m])))
          annotations.ackedMsg) := by
  obtain ⟨hrun, hm⟩ := horder.concat
  rw [recorded_concat]
  rcases hm with hm | hm
  · -- the message has come before
    obtain ⟨hsame, hplaced, hunplaced⟩ := hrun.recordMessage_again hm
    rw [hsame]
    by_cases hcomplete : m.complete = true
    · obtain ⟨p, hplace, hp⟩ := hplaced hcomplete
      obtain ⟨annotations, htrack, hhighest⟩ := h.trackMessage_again hp hplace
      exact ⟨_, s, attempt_ok htrack, h, fun _ => rfl, fun _ => ⟨annotations, rfl, hhighest⟩⟩
    · have htrack := h.trackMessage_incomplete hcomplete (hunplaced hcomplete)
      exact ⟨_, s, attempt_err htrack, h, fun _ => rfl, fun hc => absurd hc hcomplete⟩
  · -- the frame is a new one
    have hlast : ∀ m' ∈ recorded run, m'.frameNum < m.frameNum := fun m' hm' =>
      hm m' (mem_recorded hm').1
    have hnew : m.frameNum ∉ (recorded run).map TrackedMessage.frameNum := fun hmem => by
      obtain ⟨m', hm', hframe⟩ := mem_frames_iff.1 hmem
      exact absurd hframe (Nat.ne_of_lt (hlast m' hm'))
    have hout : m ∉ run := fun hmem => Nat.lt_irrefl _ (hm m hmem)
    by_cases hcomplete : m.complete = true
    · obtain ⟨annotations, s', htrack, hs', hhighest⟩ := h.trackMessage_new hcomplete hlast
      rw [recordMessage, if_pos ⟨hcomplete, hnew⟩]
      exact ⟨_, s', attempt_ok htrack, hs', fun hmem => absurd hmem hout,
        fun _ => ⟨annotations, rfl, hhighest⟩⟩
    · have htrack := h.trackMessage_incomplete hcomplete (placeOf_eq_none.2 hnew)
      rw [recordMessage, if_neg fun hc => hcomplete hc.1]
      exact ⟨_, s, attempt_err htrack, h, fun _ => rfl, fun hc => absurd hc hcomplete⟩

theorem trackAll_concat {results : List (Except TvbError Annotations)}
    {result : Except TvbError Annotations} {s₀ : TrackerState}
    (hrun : (trackAll env run).run s₀ = .ok results s)
    (hstep : (attempt (trackMessage env m)).run s = .ok result s') :
    (trackAll env (run ++ [m])).run s₀ = .ok (results ++ [result]) s' := by
  induction run generalizing s₀ results with
  | nil =>
    cases hrun
    rw [List.nil_append, trackAll, bind_ok hstep]
    rfl
  | cons a run ih =>
    rw [trackAll] at hrun
    obtain ⟨first, s₁, hfirst, hrest⟩ := bind_eq_ok.1 hrun
    obtain ⟨rest, s₂, htail, hresults⟩ := bind_eq_ok.1 hrest
    cases hresults
    rw [List.cons_append, trackAll, bind_ok hfirst, bind_ok (ih htail)]
    rfl

/-- A run in frame order. -/
theorem trackAll_acked (env : TrackerEnv) (horder : FramesInOrder run) :
    ∃ results s, (trackAll env run).run .empty = .ok results s ∧
      Acked env (recorded run) (recorded run) s := by
  induction run using List.reverseRecOn with
  | nil => exact ⟨[], .empty, rfl, .empty env⟩
  | append_singleton run m ih =>
    obtain ⟨results, s, hrun, hs⟩ := ih horder.concat.1
    obtain ⟨result, s', hstep, hs', -⟩ := hs.step horder
    exact ⟨_, s', trackAll_concat hrun hstep, hs'⟩

/-! ## Acknowledgements and lookups -/

/-- Dissecting `m` behind the messages `msgs` meets no difference between what it acknowledges and
what is looked up: an old version acknowledges none of them, and the key of a newer one is not that
of a message of another session. -/
structure AckFound (msgs : List TrackedMessage) (m : TrackedMessage) : Prop where
  version : m.hasAck → m.msgInfo.msgVersion > 1 ∨ ∀ x ∈ msgs, ¬ m.Acknowledges x
  session : m.hasAck → m.msgInfo.msgVersion > 1 → ∀ x ∈ msgs, x.frameNum < m.frameNum →
    x.msgInfo.srcNodeId = m.msgInfo.destNodeId → x.msgInfo.msgId = m.msgInfo.ackMsgCntr →
    (x.msgInfo.sessionType = encryptionTypeNone ↔ m.msgInfo.sessionType = encryptionTypeNone) →
    x.msgInfo.sessionType = m.msgInfo.sessionType ∧ x.msgInfo.sessionId = m.msgInfo.sessionId

/-- The branch for session keys is never taken. -/
theorem getType_ne (keyId : Nat) : MatterSessionId.getType keyId ≠ MatterSessionId.typeSession := by
  have hle : MatterSessionId.getType keyId ≤ MatterSessionId.maskSessionType := Nat.and_le_right
  intro heq
  rw [heq] at hle
  exact absurd hle (by decide)

theorem getMessageIdTableAndKey_udp (srcNodeId msgId sessionType sessionId : Nat) :
    getMessageIdTableAndKey srcNodeId msgId sessionType sessionId false 0 =
      (if sessionType = encryptionTypeNone then .unencryptedUDP else .groupEncryptedUDP,
        words64 srcNodeId ++ [msgId]) := by
  rw [getMessageIdTableAndKey, if_neg (by simp), if_neg (getType_ne sessionId)]
  split <;> rfl

/-- The key that is looked up is that of a message. -/
theorem msgIdKey_eq_ackKey (hx : x.pinfo.ptype = .udp) : x.msgIdKey = m.ackKey ↔
    x.msgInfo.srcNodeId = m.msgInfo.destNodeId ∧ x.msgInfo.msgId = m.msgInfo.ackMsgCntr ∧
      (x.msgInfo.sessionType = encryptionTypeNone ↔
        m.msgInfo.sessionType = encryptionTypeNone) := by
  have hTCP : x.pinfo.isTCP = false := by
    rw [PacketInfo.isTCP, hx]
    rfl
  rw [msgIdKey, ackKey, hTCP, if_neg (by simp), getMessageIdTableAndKey_udp,
    getMessageIdTableAndKey_udp, Prod.mk.injEq, words64_append_inj, List.singleton_inj, and_comm,
    and_assoc]
  refine and_congr_right fun _ => and_congr_right fun _ => ?_
  by_cases hxt : x.msgInfo.sessionType = encryptionTypeNone <;>
    by_cases hmt : m.msgInfo.sessionType = encryptionTypeNone <;> simp [hxt, hmt]

theorem AckFound.looksUp_iff {msgs : List TrackedMessage} (h : AckFound msgs m)
    (hm : m.pinfo.ptype = .udp) (hmem : x ∈ msgs) (hx : x.pinfo.ptype = .udp) :
    m.LooksUp x ↔ m.Acknowledges x := by
  constructor
  · rintro ⟨⟨-, hversion, hack⟩, hkey, hlt⟩
    obtain ⟨hsrc, hcounter, htable⟩ := (msgIdKey_eq_ackKey hx).1 hkey
    obtain ⟨htype, hid⟩ := h.session hack hversion x hmem hlt hsrc hcounter htable
    exact ⟨hack, hlt, hsrc, hcounter, htype, hid⟩
  · intro hacks
    have ⟨hack, hlt, hsrc, hcounter, htype, _⟩ := hacks
    have hversion : m.msgInfo.msgVersion > 1 :=
      (h.version hack).resolve_right fun hnone => hnone x hmem hacks
    exact ⟨⟨hm, hversion, hack⟩, (msgIdKey_eq_ackKey hx).2 ⟨hsrc, hcounter, by rw [htype]⟩, hlt⟩

/-- In a run whose steps are all `AckFound`, lookups are acknowledgements. -/
theorem looksUp_iff_acknowledges (horder : FramesInOrder run)
    (hudp : ∀ m ∈ run, m.pinfo.ptype = .udp)
    (hsteps : ∀ n m, run[n]? = some m → AckFound (recorded (run.take n)) m) :
    ∀ m ∈ recorded run, ∀ x ∈ recorded run, m.LooksUp x ↔ m.Acknowledges x := by
  induction run using List.reverseRecOn with
  | nil => intro m hm; cases hm
  | append_singleton run a ih =>
    obtain ⟨hrun, ha⟩ := horder.concat
    have hold := ih hrun (fun m hm => hudp m (List.mem_append_left _ hm)) fun n m hm => by
      have hlt : n < run.length := (List.getElem?_eq_some_iff.1 hm).1
      have hstep := hsteps n m (by rw [List.getElem?_append_left hlt, hm])
      rwa [List.take_append_of_le_length (Nat.le_of_lt hlt)] at hstep
    have hstep := hsteps run.length a List.getElem?_concat_length
    rw [List.take_left] at hstep
    rw [recorded_concat]
    rcases ha with ha | ha
    · rw [(hrun.recordMessage_again ha).1]
      exact hold
    · have hlast : ∀ m ∈ recorded run, m.frameNum < a.frameNum := fun m hm =>
        ha m (mem_recorded hm).1
      -- a later frame is neither looked up nor acknowledged
      have hlate : ∀ m x : TrackedMessage, m.frameNum ≤ x.frameNum →
          (m.LooksUp x ↔ m.Acknowledges x) := fun m x hle =>
        ⟨fun hl => absurd hl.2.2 (Nat.not_lt_of_le hle),
          fun hl => absurd hl.2.1 (Nat.not_lt_of_le hle)⟩
      unfold recordMessage
      split
      · intro m hm x hx
        rcases List.mem_append.1 hx with hx | hx
        · rcases List.mem_append.1 hm with hm | hm
          · exact hold m hm x hx
          · rw [List.mem_singleton.1 hm]
            have hxrun := List.mem_append_left [a] (mem_recorded hx).1
            exact hstep.looksUp_iff (hudp a (by simp)) hx (hudp x hxrun)
        · rw [List.mem_singleton.1 hx]
          refine hlate m a ?_
          rcases List.mem_append.1 hm with hm | hm
          · exact Nat.le_of_lt (hlast m hm)
          · rw [List.mem_singleton.1 hm]
      · exact hold

theorem places_congr {P Q : TrackedMessage → Prop} [DecidablePred P] [DecidablePred Q]
    {msgs : List TrackedMessage} (h : ∀ m ∈ msgs, P m ↔ Q m) (p : RecordRef) :
    p ∈ places P msgs ↔ p ∈ places Q msgs := by
  rw [mem_places, mem_places]
  exact exists_congr fun m => and_congr_right fun hm => h m (List.mem_of_getElem? hm)

end

/-- The annotations of `m` and the acknowledgers of what it acknowledges are right. -/
structure AcksTracked (msgs : List TrackedMessage) (m : TrackedMessage)
    (ackedMsg : Option RecordRef) (s : TrackerState) : Prop where
  highest : IsExtremal (· ≥ ·) s.frameNum (places m.Acknowledges msgs) ackedMsg
  lowest : ∀ p ∈ places m.Acknowledges msgs, ∃ r x, s.records[p]? = some r ∧
    msgs[p]? = some x ∧
    IsExtremal (· ≤ ·) s.frameNum (places (Acknowledges · x) msgs) r.ackedByMsgRec

section
variable {env : TrackerEnv} {run : List TrackedMessage} {m m' : TrackedMessage}
  {s : TrackerState}

theorem FramesInOrder.again (h : FramesInOrder run) (hm : m ∈ run) :
    FramesInOrder (run ++ [m]) := by
  intro n m' hm'
  rcases Nat.lt_or_ge n run.length with hlt | hge
  · rw [List.getElem?_append_left hlt] at hm'
    rw [List.take_append_of_le_length (Nat.le_of_lt hlt)]
    exact h n m' hm'
  · have hlast : m' = m := by
      rw [List.getElem?_append_right hge] at hm'
      exact List.mem_singleton.1 (List.mem_of_getElem? hm')
    left
    rw [hlast, List.take_append, List.take_of_length_le hge]
    exact List.mem_append_left _ hm

theorem FramesInOrder.mem_recorded (h : FramesInOrder run) (hm : m ∈ run)
    (hcomplete : m.complete = true) : m ∈ recorded run := by
  obtain ⟨p, -, hp⟩ := (h.recordMessage_again hm).2.1 hcomplete
  exact List.mem_of_getElem? hp

/-- Dissecting a message of the run again. -/
theorem Acked.redissect (h : Acked env (recorded run) (recorded run) s)
    (horder : FramesInOrder run) (hm : m ∈ run) :
    (∃ result, (attempt (trackMessage env m)).run s = .ok result s) ∧
      (m.complete = true → ∃ annotations, (trackMessage env m).run s = .ok annotations s ∧
        IsExtremal (· ≥ ·) s.frameNum (places m.LooksUp (recorded run)) annotations.ackedMsg) := by
  constructor
  · obtain ⟨result, s', hstep, -, hsame, -⟩ := h.step (horder.again hm)
    rw [hsame hm] at hstep
    exact ⟨result, hstep⟩
  · intro hcomplete
    obtain ⟨p, hplace, hp⟩ := (horder.recordMessage_again hm).2.1 hcomplete
    exact h.trackMessage_again hp hplace

end

/-- In a run over UDP messages in frame order whose steps are all `AckFound`, acknowledgements are
tracked, and dissecting a message again changes nothing. -/
theorem findAckedMessages_tracked (env : TrackerEnv) (run : List TrackedMessage)
    (m : TrackedMessage) (horder : FramesInOrder (run ++ [m]))
    (hudp : ∀ m' ∈ run ++ [m], m'.pinfo.ptype = .udp)
    (hsteps : ∀ n m', (run ++ [m])[n]? = some m' → AckFound (recorded ((run ++ [m]).take n)) m')
    (hcomplete : m.complete = true) :
    ∃ results annotations s,
      (trackAll env (run ++ [m])).run .empty = .ok (results ++ [.ok annotations]) s ∧
      AcksTracked (recorded (run ++ [m])) m annotations.ackedMsg s ∧
      (∀ m' ∈ run ++ [m], ∃ result, (attempt (trackMessage env m')).run s = .ok result s) ∧
      ∃ again, (trackMessage env m).run s = .ok again s ∧
        again.ackedMsg = annotations.ackedMsg := by
  obtain ⟨results, s, hrun, hs⟩ := trackAll_acked env horder.concat.1
  obtain ⟨result, s', hstep, hs', -, hresult⟩ := hs.step horder
  obtain ⟨annotations, rfl, hhighest⟩ := hresult hcomplete
  have hacks := looksUp_iff_acknowledges horder hudp hsteps
  have hmem : m ∈ run ++ [m] := List.mem_append_right _ (List.mem_singleton_self m)
  have hm := horder.mem_recorded hmem hcomplete
  obtain ⟨again, hagain, hhighest'⟩ := (hs'.redissect horder hmem).2 hcomplete
  refine ⟨results, annotations, s', trackAll_concat hrun hstep, ⟨?_, fun p hp => ?_⟩,
    fun m' hm' => (hs'.redissect horder hm').1, again, hagain, ?_⟩
  · exact hhighest.congr (places_congr fun x hx => hacks m hm x hx)
  · obtain ⟨x, hx, -⟩ := mem_places.1 hp
    obtain ⟨r, hr, hlowest⟩ := hs'.ackedBy p x hx
    exact ⟨r, x, hr, hx, hlowest.congr (places_congr fun a ha =>
      hacks a ha x (List.mem_of_getElem? hx))⟩
  · exact hhighest'.unique (fun u v h h' => Nat.le_antisymm h' h)
      (fun a ha b hb => hs'.represents.frameNum_inj (nodup_recorded _) (lt_of_mem_places ha)
        (lt_of_mem_places hb)) hhighest

/-- A message in frame 1 and its acknowledgement in frame 2. -/
def acknowledged (msgVersion : Nat) : TrackedMessage :=
  shortMessage .udp 1 { shortHeader with
    msgVersion, msgFlags := msgVersion * 16, msgId := 1, exchHeader := 0x05 }

def acknowledgement (msgVersion : Nat) : TrackedMessage :=
  shortMessage .udp 2 { shortHeader with
    msgVersion, msgFlags := msgVersion * 16, msgId := 9, exchHeader := 0x02, ackMsgCntr := 1 }

theorem framesInOrder_acknowledgement (msgVersion : Nat) :
    FramesInOrder ([acknowledged msgVersion] ++ [acknowledgement msgVersion]) := by
  intro n m hm
  match n with
  | 0 => exact .inr fun m' hm' => absurd hm' List.not_mem_nil
  | 1 =>
    cases hm
    refine .inr fun m' hm' => ?_
    rw [List.mem_singleton.1 hm']
    show 1 < 2
    decide
  | n + 2 => cases hm

theorem udp_acknowledgement (msgVersion : Nat) :
    ∀ m ∈ [acknowledged msgVersion] ++ [acknowledgement msgVersion], m.pinfo.ptype = .udp := by
  intro m hm
  rcases List.mem_cons.1 hm with rfl | hm
  · rfl
  · rw [List.mem_singleton.1 hm]
    rfl

theorem findAckedMessages_tracked_version2 :
    places (acknowledgement 2).Acknowledges
      (recorded ([acknowledged 2] ++ [acknowledgement 2])) = [0] ∧
    ∃ results annotations s,
      (trackAll crc32Ccitt ([acknowledged 2] ++ [acknowledgement 2])).run .empty =
        .ok (results ++ [.ok annotations]) s ∧
      AcksTracked (recorded ([acknowledged 2] ++ [acknowledgement 2])) (acknowledgement 2)
        annotations.ackedMsg s ∧
      (∀ m ∈ [acknowledged 2] ++ [acknowledgement 2],
        ∃ result, (attempt (trackMessage crc32Ccitt m)).run s = .ok result s) ∧
      ∃ again, (trackMessage crc32Ccitt (acknowledgement 2)).run s = .ok again s ∧
        again.ackedMsg = annotations.ackedMsg := by
  refine ⟨by decide, findAckedMessages_tracked crc32Ccitt [acknowledged 2] (acknowledgement 2)
    (framesInOrder_acknowledgement 2) (udp_acknowledgement 2) (fun n m hm => ?_) rfl⟩
  match n with
  | 0 =>
    exact ⟨fun _ => .inr fun x hx => absurd hx List.not_mem_nil,
      fun _ _ x hx => absurd hx List.not_mem_nil⟩
  | 1 =>
    cases hm
    refine ⟨fun _ => .inl (by decide), fun _ _ x hx _ _ _ _ => ?_⟩
    rw [List.mem_singleton.1 hx]
    exact ⟨rfl, rfl⟩
  | n + 2 => cases hm

/-- Nothing is tracked for version 0. -/
theorem findAckedMessages_version0 : ¬ ∀ (env : TrackerEnv) (run : List TrackedMessage)
    (m : TrackedMessage), FramesInOrder (run ++ [m]) →
    (∀ m' ∈ run ++ [m], m'.pinfo.ptype = .udp) → m.complete = true →
    ∃ results annotations s,
      (trackAll env (run ++ [m])).run .empty = .ok (results ++ [.ok annotations]) s ∧
      AcksTracked (recorded (run ++ [m])) m annotations.ackedMsg s := by
  intro h
  have horder := framesInOrder_acknowledgement 0
  obtain ⟨results, annotations, s, hrun, htracked⟩ := h crc32Ccitt [acknowledged 0]
    (acknowledgement 0) horder (udp_acknowledgement 0) rfl
  obtain ⟨results', s₁, hrun', hs₁⟩ := trackAll_acked crc32Ccitt horder.concat.1
  obtain ⟨result, s₂, hstep, -, -, hresult⟩ := hs₁.step horder
  obtain ⟨annotations', rfl, hhighest⟩ := hresult rfl
  rw [trackAll_concat hrun' hstep] at hrun
  have hsame : annotations' = annotations := by
    have hlast := (snoc_inj (Outcome.ok.inj hrun).1).2
    exact Except.ok.inj hlast
  rw [hsame, show places (acknowledgement 0).LooksUp
    (recorded ([acknowledged 0] ++ [acknowledgement 0])) = [] from by decide] at hhighest
  have hacked := htracked.highest
  rw [show places (acknowledgement 0).Acknowledges
    (recorded ([acknowledged 0] ++ [acknowledgement 0])) = [0] from by decide] at hacked
  cases hnone : annotations.ackedMsg with
  | none =>
    rw [hnone] at hacked
    cases hacked
  | some p =>
    rw [hnone] at hhighest
    exact absurd hhighest.mem List.not_mem_nil

end Matter.Tracker
