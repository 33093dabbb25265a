import MatterDissector.Tracker.Proof.History

/-!
# Runs of the tracker

In any run the tracker says of every message what the history says, and the acknowledger of a
record is the lowest frame among those that have looked it up: `trackAll_refines`.

Wireshark dissects a frame again whenever it is shown, in any order. Once every message has its
record, a call of `trackMessage` changes nothing but acknowledgers (`AckedAfter`): what they are
after a run depends on which messages the run has, not on their order or number
(`AckedAfter.unique`). So the tracker settles, whatever the order of the frames was:
`trackAll_settles`.
-/

namespace Matter.Tracker

open Prog Message Intrusive Extremum TrackedMessage

section
variable {env : TrackerEnv} {msgs done : List TrackedMessage} {m : TrackedMessage}
  {s s₀ s' : TrackerState} {p q : RecordRef} {frameNum : RecordRef → Nat}

/-! ## States between messages -/

/-- More messages recorded, none of them on top of another. -/
theorem acknowledgersOf_append {frameNum' : RecordRef → Nat} (m : TrackedMessage)
    (hframe : ∀ q < msgs.length, frameNum' q = frameNum q)
    (h : p ∈ acknowledgersOf msgs frameNum q done) :
    p ∈ acknowledgersOf (msgs ++ [m]) frameNum' q done := by
  rw [mem_acknowledgersOf] at h ⊢
  obtain ⟨m', hm', hplace, htracks, hq, hlt⟩ := h
  refine ⟨m', hm', ?_, htracks, ?_, ?_⟩
  · rw [placeOf_append, hplace]
    rfl
  · rw [positions_append]
    exact List.mem_append_left _ hq
  · rw [hframe p (lt_of_placeOf hplace), hframe q (lt_of_mem_positions hq)]
    exact hlt

/-- The tracker knows `msgs`, one for each frame, and acknowledgers only from `done`. -/
structure Knows (env : TrackerEnv) (msgs done : List TrackedMessage) (s : TrackerState) :
    Prop where
  represents : Represents env msgs s
  nodup : (msgs.map TrackedMessage.frameNum).Nodup
  ackedBy : ∀ q r a, s.records[q]? = some r → r.ackedByMsgRec = some a →
    a ∈ acknowledgersOf msgs s.frameNum q done

theorem Knows.empty (env : TrackerEnv) : Knows env [] [] .empty where
  represents := .empty env
  nodup := List.nodup_nil
  ackedBy q r a hr := by cases hr

theorem Knows.bound (h : Knows env msgs done s) : AckBound s := by
  intro r hr a ha
  obtain ⟨q, hq⟩ := List.mem_iff_getElem?.1 hr
  rw [h.represents.length_eq]
  exact lt_of_mem_acknowledgersOf (h.ackedBy q r a hq ha)

theorem Knows.mono {done' : List TrackedMessage} (h : Knows env msgs done s)
    (hsub : done ⊆ done') : Knows env msgs done' s where
  represents := h.represents
  nodup := h.nodup
  ackedBy q r a hr ha := acknowledgersOf_mono hsub (h.ackedBy q r a hr ha)

/-- The frames of the old records. -/
theorem Represents.frameNum_recordState (h : Represents env msgs s)
    (hnew : m.frameNum ∉ msgs.map TrackedMessage.frameNum) (hq : q < msgs.length) :
    (Tracker.recordState env msgs m s).frameNum q = s.frameNum q := by
  have hm : msgs[q]? = some msgs[q] := List.getElem?_eq_getElem hq
  rw [(h.fields hm).1, ((h.recordState hnew).fields ((List.getElem?_append_left hq).trans hm)).1]

theorem Knows.recordState (h : Knows env msgs done s)
    (hnew : m.frameNum ∉ msgs.map TrackedMessage.frameNum) :
    Knows env (msgs ++ [m]) done (Tracker.recordState env msgs m s) := by
  refine ⟨h.represents.recordState hnew, ?_, ?_⟩
  · rw [List.map_append, List.nodup_append]
    refine ⟨h.nodup, by simp, ?_⟩
    intro a ha b hb hab
    rw [List.map_singleton, List.mem_singleton] at hb
    exact hnew (hb ▸ hab ▸ ha)
  · intro q r a hr ha
    have hacked : (s.records.map MatterMessageRecord.ackedByMsgRec ++ [none])[q]? =
        some (some a) := by
      rw [← ackedBy_recordState env msgs m, List.getElem?_map, hr, Option.map_some, ha]
    -- the new record has no acknowledger
    rcases Nat.lt_or_ge q s.records.length with hq | hq
    · rw [List.getElem?_append_left (by simpa using hq), List.getElem?_map] at hacked
      obtain ⟨r', hr', hacked⟩ := Option.map_eq_some_iff.1 hacked
      apply acknowledgersOf_append m _ (h.ackedBy q r' a hr' hacked)
      intro q hq
      exact h.represents.frameNum_recordState hnew hq
    · rw [List.getElem?_append_right (by simpa using hq)] at hacked
      have hmem := List.mem_of_getElem? hacked
      simp at hmem

theorem Knows.acknowledge (h : Knows env msgs done s)
    (hplace : placeOf msgs m.frameNum = some p) :
    Knows env msgs (done ++ [m]) (acknowledge msgs m p s) := by
  refine ⟨h.represents.acknowledge, h.nodup, ?_⟩
  intro q r' a hr' ha
  have hlt : q < s.records.length := by
    rw [← length_acknowledge]
    exact (List.getElem?_eq_some_iff.1 hr').1
  have hr : s.records[q]? = some s.records[q] := List.getElem?_eq_getElem hlt
  obtain ⟨r₁, hr₁, hacked⟩ := getElem?_acknowledge (s := s) hplace hr
  cases hr'.symm.trans hr₁
  rw [frameNum_acknowledge, acknowledgersOf, List.filterMap_append, List.mem_append]
  have hold : ∀ a, s.records[q].ackedByMsgRec = some a →
      a ∈ acknowledgersOf msgs s.frameNum q done := fun a ha => h.ackedBy q _ a hr ha
  cases hby : acknowledgerOf msgs s.frameNum q m with
  | none =>
    rw [hby, ha] at hacked
    exact .inl (hold a hacked.symm)
  | some p' =>
    rw [hby, ha] at hacked
    rcases keepBest_eq_some hacked.symm with rfl | hbest
    · exact .inr (by simp [hby])
    · exact .inl (hold a hbest)

/-! ## One message -/

theorem Knows.afterMessage (h : Knows env msgs done s) (m : TrackedMessage) :
    Knows env (recordMessage msgs m) done (Tracker.afterMessage env msgs m s) := by
  unfold recordMessage Tracker.afterMessage
  by_cases hc : m.complete ∧ m.frameNum ∉ msgs.map TrackedMessage.frameNum
  · rw [if_pos hc, if_pos hc]
    exact h.recordState hc.2
  · rw [if_neg hc, if_neg hc]
    exact h

/-- The state after a call for `m` whose frame may have a record. -/
def redissect (msgs : List TrackedMessage) (m : TrackedMessage) (s : TrackerState) :
    TrackerState :=
  match placeOf msgs m.frameNum with
  | some p => acknowledge msgs m p s
  | none => s

theorem Knows.redissect (h : Knows env msgs done s) (m : TrackedMessage) :
    Knows env msgs (done ++ [m]) (Tracker.redissect msgs m s) := by
  unfold Tracker.redissect
  cases hplace : placeOf msgs m.frameNum with
  | some p => exact h.acknowledge hplace
  | none => exact h.mono (List.subset_append_left done [m])

/-- A call for `m` says what the history says. -/
theorem Knows.track (h : Knows env msgs done s) (m : TrackedMessage) :
    (trackMessage env m).run s = match placeOf (recordMessage msgs m) m.frameNum with
      | some p => .ok (History.annotations env (recordMessage msgs m) p m)
          (Tracker.acknowledge (recordMessage msgs m) m p (Tracker.afterMessage env msgs m s))
      | none => .err .outOfRange (Tracker.afterMessage env msgs m s) := by
  have hcreate := findOrCreate_run h.represents m
  have hafter := h.afterMessage m
  cases hplace : placeOf (recordMessage msgs m) m.frameNum with
  | some p =>
    rw [resultOf, hplace] at hcreate
    rcases attempt_eq_ok.1 hcreate with ⟨p', hp, hcreate⟩ | ⟨e, hp, -⟩
    · cases hp
      exact hafter.represents.trackMessage_annotations (lt_of_placeOf hplace) hafter.nodup
        hafter.bound hcreate
    · cases hp
  | none =>
    rw [resultOf, hplace] at hcreate
    rcases attempt_eq_ok.1 hcreate with ⟨p', hp, -⟩ | ⟨e, hp, hcreate⟩
    · cases hp
    · cases hp
      rw [trackMessage, bind_err hcreate]

theorem Knows.step (h : Knows env msgs done s) (m : TrackedMessage) :
    (attempt (trackMessage env m)).run s = .ok (History.annotate env (recordMessage msgs m) m)
      (Tracker.redissect (recordMessage msgs m) m (Tracker.afterMessage env msgs m s)) := by
  have hrun := h.track m
  unfold History.annotate Tracker.redissect
  cases hplace : placeOf (recordMessage msgs m) m.frameNum with
  | some p =>
    rw [hplace] at hrun
    exact attempt_ok hrun
  | none =>
    rw [hplace] at hrun
    exact attempt_err hrun

/-! ## The acknowledgers of all records -/

/-- The acknowledger of a record is the lowest frame among its `acks`. -/
structure AckedBy (msgs : List TrackedMessage) (acks : RecordRef → List RecordRef)
    (s : TrackerState) : Prop where
  lowest : ∀ q r, s.records[q]? = some r →
    IsExtremal (· ≤ ·) s.frameNum (acks q) r.ackedByMsgRec
  bound : ∀ q, ∀ a ∈ acks q, q < msgs.length ∧ a < msgs.length

theorem AckedBy.empty : AckedBy [] (fun _ => []) .empty where
  lowest q r hr := by cases hr
  bound q a ha := by cases ha

/-- The acknowledgers that the records have. -/
def TrackerState.acks (s : TrackerState) (q : RecordRef) : List RecordRef :=
  (s.records[q]?.bind MatterMessageRecord.ackedByMsgRec).toList

theorem Knows.ackedBy_acks (h : Knows env msgs done s) : AckedBy msgs s.acks s where
  lowest q r hr := by
    rw [TrackerState.acks, hr, Option.bind_some]
    cases r.ackedByMsgRec with
    | none => exact rfl
    | some a =>
      refine ⟨List.mem_singleton_self a, fun b hb => ?_⟩
      rw [List.mem_singleton.1 hb]
  bound q a ha := by
    obtain ⟨r, hr, ha⟩ := Option.bind_eq_some_iff.1 (Option.mem_toList.1 ha)
    rw [← h.represents.length_eq]
    exact ⟨(List.getElem?_eq_some_iff.1 hr).1, h.bound r (List.mem_of_getElem? hr) a ha⟩

variable {acks : RecordRef → List RecordRef}

/-- A new record has no acknowledger. -/
theorem AckedBy.afterMessage (hs : AckedBy msgs acks s) (h : Represents env msgs s)
    (m : TrackedMessage) :
    AckedBy (recordMessage msgs m) acks (Tracker.afterMessage env msgs m s) := by
  unfold recordMessage Tracker.afterMessage
  by_cases hc : m.complete ∧ m.frameNum ∉ msgs.map TrackedMessage.frameNum
  · rw [if_pos hc, if_pos hc]
    constructor
    · intro q r hr
      have hacked : (s.records.map MatterMessageRecord.ackedByMsgRec ++ [none])[q]? =
          some r.ackedByMsgRec := by
        rw [← ackedBy_recordState env msgs m, List.getElem?_map, hr, Option.map_some]
      rcases Nat.lt_or_ge q s.records.length with hq | hq
      · rw [List.getElem?_append_left (by simpa using hq), List.getElem?_map] at hacked
        obtain ⟨r', hr', hacked⟩ := Option.map_eq_some_iff.1 hacked
        rw [← hacked]
        refine (hs.lowest q r' hr').congr_value fun a ha => ?_
        exact h.frameNum_recordState hc.2 (hs.bound q a ha).2
      · have hnone : acks q = [] := by
          apply List.eq_nil_iff_forall_not_mem.2
          intro a ha
          exact absurd (hs.bound q a ha).1 (Nat.not_lt.2 (h.length_eq ▸ hq))
        rw [List.getElem?_append_right (by simpa using hq)] at hacked
        have hacked : r.ackedByMsgRec = none := by
          simpa using List.mem_of_getElem? hacked
        rw [hnone, hacked]
        rfl
    · intro q a ha
      obtain ⟨hq, ha⟩ := hs.bound q a ha
      rw [List.length_append]
      exact ⟨Nat.lt_add_right 1 hq, Nat.lt_add_right 1 ha⟩
  · rw [if_neg hc, if_neg hc]
    exact hs

theorem AckedBy.redissect (hs : AckedBy msgs acks s) (m : TrackedMessage) :
    AckedBy msgs (fun q => acks q ++ (acknowledgerOf msgs s.frameNum q m).toList)
      (Tracker.redissect msgs m s) := by
  have hbound : ∀ q, ∀ a ∈ acks q ++ (acknowledgerOf msgs s.frameNum q m).toList,
      q < msgs.length ∧ a < msgs.length := by
    intro q a ha
    rcases List.mem_append.1 ha with ha | ha
    · exact hs.bound q a ha
    · obtain ⟨hplace, -, hq, -⟩ := acknowledgerOf_eq_some.1 (Option.mem_toList.1 ha)
      exact ⟨lt_of_mem_positions hq, lt_of_placeOf hplace⟩
  refine ⟨?_, hbound⟩
  unfold Tracker.redissect
  cases hplace : placeOf msgs m.frameNum with
  | none =>
    intro q r hr
    have hnone : acknowledgerOf msgs s.frameNum q m = none := by
      simp [acknowledgerOf, hplace]
    rw [hnone, Option.toList_none, List.append_nil]
    exact hs.lowest q r hr
  | some p =>
    intro q r' hr'
    have hlt : q < s.records.length := by
      rw [← length_acknowledge]
      exact (List.getElem?_eq_some_iff.1 hr').1
    have hr : s.records[q]? = some s.records[q] := List.getElem?_eq_getElem hlt
    obtain ⟨r₁, hr₁, hacked⟩ := getElem?_acknowledge (s := s) hplace hr
    cases hr'.symm.trans hr₁
    rw [frameNum_acknowledge, hacked]
    cases hby : acknowledgerOf msgs s.frameNum q m with
    | none =>
      rw [Option.toList_none, List.append_nil]
      exact hs.lowest q _ hr
    | some a =>
      exact (hs.lowest q _ hr).keepBest Nat.le_total (fun _ _ _ => Nat.le_trans) lower_iff a

/-! ## Any run -/

namespace History

/-- What is said in a run. -/
def annotateAll (env : TrackerEnv) : History → List TrackedMessage →
    List (Except TvbError Annotations)
  | _, [] => []
  | h, m :: run =>
    annotate env (recordMessage h m) m :: annotateAll env (recordMessage h m) run

/-- The messages of a run that look the message at `q` up, when it is there. -/
def lookUps (q : Nat) : History → List TrackedMessage → List Nat
  | _, [] => []
  | h, m :: run =>
    (acknowledgerOf (recordMessage h m) (History.frameNum (recordMessage h m)) q m).toList ++
      lookUps q (recordMessage h m) run

end History

/-- Any run. -/
theorem Knows.trackAll (h : Knows env msgs done s) (hs : AckedBy msgs acks s)
    (run : List TrackedMessage) :
    ∃ s', (trackAll env run).run s = .ok (History.annotateAll env msgs run) s' ∧
      Knows env (run.foldl recordMessage msgs) (done ++ run) s' ∧
      AckedBy (run.foldl recordMessage msgs) (fun q => acks q ++ History.lookUps q msgs run)
        s' := by
  induction run generalizing msgs done s acks with
  | nil =>
    refine ⟨s, rfl, (List.append_nil done).symm ▸ h, ?_⟩
    simp only [History.lookUps, List.append_nil]
    exact hs
  | cons m run ih =>
    have hafter := h.afterMessage m
    have hframe := hafter.represents.members.1
    have hacked := (hs.afterMessage h.represents m).redissect m
    obtain ⟨s', hrun, h', hs'⟩ := ih (hafter.redissect m) hacked
    refine ⟨s', ?_, ?_, ?_⟩
    · rw [Tracker.trackAll, bind_ok (h.step m), bind_ok hrun]
      rfl
    · rw [List.append_assoc] at h'
      exact h'
    · simp only [List.append_assoc] at hs'
      rw [← hframe] at hs'
      exact hs'

/-- The tracker refines the history: after any run its records are the recorded messages, each
linked in its two lists, it has said of every message what the history says, and the acknowledger
of each record is the lowest frame of those that have looked it up. -/
theorem trackAll_refines (env : TrackerEnv) (run : List TrackedMessage) :
    ∃ s, (trackAll env run).run .empty = .ok (History.annotateAll env [] run) s ∧
      Represents env (recorded run) s ∧
      ∀ q r, s.records[q]? = some r → r.ackedByMsgRec =
        (History.lookUps q [] run).argmin (History.frameNum (recorded run)) := by
  obtain ⟨s, hrun, hs, hacked⟩ := (Knows.empty env).trackAll .empty run
  have hs : Knows env (recorded run) run s := hs
  refine ⟨s, hrun, hs.represents, fun q r hr => ?_⟩
  rw [hs.represents.members.1]
  exact hs.represents.extremal_unique hs.nodup (fun _ _ => Nat.le_antisymm)
    (fun a ha => (hacked.bound q a ha).2) (hacked.lowest q r hr) (isExtremal_argmin _ _)

/-! ## Runs over messages that are known -/

/-- What a record is but for its acknowledger. -/
def MatterMessageRecord.unacked (r : MatterMessageRecord) : MatterMessageRecord :=
  { r with ackedByMsgRec := none }

/-- The state `s₀` but for acknowledgers, which are the lowest frames of `acks`. -/
structure AckedAfter (msgs : List TrackedMessage) (s₀ : TrackerState)
    (acks : RecordRef → List RecordRef) (s : TrackerState) : Prop where
  unacked_eq : s.records.map MatterMessageRecord.unacked =
    s₀.records.map MatterMessageRecord.unacked
  messageIdTable_eq : s.messageIdTable = s₀.messageIdTable
  exchangeTable_eq : s.exchangeTable = s₀.exchangeTable
  protoData_eq : s.protoData = s₀.protoData
  acked : AckedBy msgs acks s

theorem Knows.ackedAfter (h : Knows env msgs done s) : AckedAfter msgs s s.acks s :=
  ⟨rfl, rfl, rfl, rfl, h.ackedBy_acks⟩

theorem AckedAfter.frameNum_eq (h : AckedAfter msgs s₀ acks s) : s.frameNum = s₀.frameNum := by
  apply frameNum_of_map_eq
  have hmap := congrArg (List.map MatterMessageRecord.frameNum) h.unacked_eq
  rwa [List.map_map, List.map_map] at hmap

theorem redissect_keeps (msgs : List TrackedMessage) (m : TrackedMessage) (s : TrackerState) :
    (redissect msgs m s).records.map MatterMessageRecord.unacked =
      s.records.map MatterMessageRecord.unacked ∧
    (redissect msgs m s).messageIdTable = s.messageIdTable ∧
    (redissect msgs m s).exchangeTable = s.exchangeTable ∧
    (redissect msgs m s).protoData = s.protoData := by
  unfold redissect
  split
  · unfold acknowledge
    split
    · exact ⟨map_ackRecords (fun _ _ => rfl) s.frameNum _ _ s.records, rfl, rfl, rfl⟩
    · exact ⟨rfl, rfl, rfl, rfl⟩
  · exact ⟨rfl, rfl, rfl, rfl⟩

/-- One more message. -/
theorem AckedAfter.step (h : AckedAfter msgs s₀ acks s) (m : TrackedMessage) :
    AckedAfter msgs s₀ (fun q => acks q ++ (acknowledgerOf msgs s₀.frameNum q m).toList)
      (redissect msgs m s) := by
  obtain ⟨hunacked, hmsgs, hexchange, hdata⟩ := redissect_keeps msgs m s
  exact ⟨hunacked.trans h.unacked_eq, hmsgs.trans h.messageIdTable_eq,
    hexchange.trans h.exchangeTable_eq, hdata.trans h.protoData_eq,
    h.frameNum_eq ▸ h.acked.redissect m⟩

/-- What has been dissected again decides, not in which order or how often. -/
theorem AckedAfter.unique {acks' : RecordRef → List RecordRef} (h₀ : Knows env msgs done s₀)
    (h : AckedAfter msgs s₀ acks s) (h' : AckedAfter msgs s₀ acks' s')
    (hsame : ∀ q a, a ∈ acks' q ↔ a ∈ acks q) : s' = s := by
  have hlength : s'.records.length = s.records.length := by
    simpa using congrArg List.length (h'.unacked_eq.trans h.unacked_eq.symm)
  have hacked : ∀ (q : RecordRef) r r', s.records[q]? = some r → s'.records[q]? = some r' →
      r'.ackedByMsgRec = r.ackedByMsgRec := by
    intro q r r' hr hr'
    have hlowest := h.acked.lowest q r hr
    have hlowest' := (h'.acked.lowest q r' hr').congr (hsame q)
    rw [h.frameNum_eq] at hlowest
    rw [h'.frameNum_eq] at hlowest'
    exact h₀.represents.extremal_unique h₀.nodup (fun _ _ => Nat.le_antisymm)
      (fun a ha => (h.acked.bound q a ha).2) hlowest' hlowest
  have hrecords : s'.records = s.records := by
    refine List.ext_getElem hlength fun q hq' hq => ?_
    have hr := List.getElem?_eq_getElem hq
    have hr' := List.getElem?_eq_getElem hq'
    have hunacked := congrArg (·[q]?) (h'.unacked_eq.trans h.unacked_eq.symm)
    simp only [List.getElem?_map, hr, hr', Option.map_some, Option.some.injEq] at hunacked
    have hby := hacked q _ _ hr hr'
    -- a record is its acknowledger and what it is but for that
    have hwhole : ∀ r : MatterMessageRecord, r = { r.unacked with
        ackedByMsgRec := r.ackedByMsgRec } := fun _ => rfl
    rw [hwhole s'.records[q], hwhole s.records[q], hunacked, hby]
  cases s
  cases s'
  cases hrecords
  cases h.messageIdTable_eq.trans h'.messageIdTable_eq.symm
  cases h.exchangeTable_eq.trans h'.exchangeTable_eq.symm
  cases h.protoData_eq.trans h'.protoData_eq.symm
  rfl

/-- A message that is known, or cannot be recorded, leaves the records as they are. -/
theorem afterMessage_known (hm : recordMessage msgs m = msgs) :
    Tracker.afterMessage env msgs m s = s := by
  rw [Tracker.afterMessage, if_neg]
  intro hc
  rw [recordMessage, if_pos hc] at hm
  exact absurd (congrArg List.length hm) (by simp)

/-- A run over messages that have been recorded, or cannot be. -/
theorem Knows.redissectAll {run : List TrackedMessage} (h : Knows env msgs done s)
    (hs : AckedAfter msgs s₀ acks s) (hrun : ∀ m ∈ run, recordMessage msgs m = msgs) :
    ∃ s', (Tracker.trackAll env run).run s = .ok (run.map (History.annotate env msgs)) s' ∧
      Knows env msgs (done ++ run) s' ∧
      AckedAfter msgs s₀ (fun q => acks q ++ acknowledgersOf msgs s₀.frameNum q run) s' := by
  induction run generalizing acks done s with
  | nil =>
    refine ⟨s, rfl, (List.append_nil done).symm ▸ h, ?_⟩
    simpa only [acknowledgersOf, List.filterMap_nil, List.append_nil] using hs
  | cons m run ih =>
    obtain ⟨hm, hrun⟩ := List.forall_mem_cons.1 hrun
    have hstep := h.step m
    rw [hm, afterMessage_known hm] at hstep
    obtain ⟨s', hrest, h', hs'⟩ := ih (h.redissect m) (hs.step m) hrun
    refine ⟨s', ?_, ?_, ?_⟩
    · rw [Tracker.trackAll, bind_ok hstep, bind_ok hrest]
      rfl
    · rw [List.append_assoc] at h'
      exact h'
    · have hcons : ∀ q, acknowledgersOf msgs s₀.frameNum q (m :: run) =
          (acknowledgerOf msgs s₀.frameNum q m).toList ++
            acknowledgersOf msgs s₀.frameNum q run := by
        intro q
        unfold acknowledgersOf
        cases hby : acknowledgerOf msgs s₀.frameNum q m with
        | none => rw [List.filterMap_cons_none hby]; rfl
        | some a => rw [List.filterMap_cons_some hby]; rfl
      simp only [List.append_assoc, ← hcons] at hs'
      exact hs'

end

/-- A message that has come in a run is recorded, or cannot be. -/
theorem recordMessage_recorded {run : List TrackedMessage} {m : TrackedMessage} (h : m ∈ run) :
    recordMessage (recorded run) m = recorded run := by
  rw [recordMessage, if_neg]
  intro hc
  obtain ⟨p, hp⟩ : ∃ p, placeOf (recorded run) m.frameNum = some p := placeOf_of_mem h hc.1
  rw [placeOf_eq_none.2 hc.2] at hp
  cases hp

/-- The acknowledgers of the records are the lowest frames that look them up. -/
def AcksSettled (run : List TrackedMessage) (s : TrackerState) : Prop :=
  ∀ q r, s.records[q]? = some r →
    IsExtremal (· ≤ ·) s.frameNum (acknowledgersOf (recorded run) s.frameNum q run)
      r.ackedByMsgRec

/-- After any first run over a capture, dissecting any of its messages again, in any order and any
number of times, leads to one state, in which dissecting them once more changes nothing. All calls
after the first run say the same of a message. If the messages are all of the capture, every record
ends with the lowest of all frames that look it up for its acknowledger. -/
theorem trackAll_settles (env : TrackerEnv) (run again again' : List TrackedMessage)
    (hsub : again ⊆ run) (hsame : ∀ m, m ∈ again' ↔ m ∈ again) :
    ∃ results s annotations s', (trackAll env run).run .empty = .ok results s ∧
      (trackAll env again).run s = .ok (again.map annotations) s' ∧
      (trackAll env again').run s = .ok (again'.map annotations) s' ∧
      (∀ more, more ⊆ again → (trackAll env more).run s' = .ok (more.map annotations) s') ∧
      (run ⊆ again → AcksSettled run s') := by
  obtain ⟨s, hrun, hs, -⟩ := (Knows.empty env).trackAll .empty run
  have hs : Knows env (recorded run) run s := hs
  have hold : ∀ again, again ⊆ run →
      ∀ m ∈ again, recordMessage (recorded run) m = recorded run :=
    fun again hsub m hm => recordMessage_recorded (hsub hm)
  have hsub' : again' ⊆ run := fun m hm => hsub ((hsame m).1 hm)
  obtain ⟨s', hagain, hs', hacked⟩ := hs.redissectAll hs.ackedAfter (hold again hsub)
  obtain ⟨s₁, hagain', -, hacked'⟩ := hs.redissectAll hs.ackedAfter (hold again' hsub')
  cases hacked.unique hs hacked' fun q a => by simp only [List.mem_append, mem_acknowledgersOf,
    hsame]
  refine ⟨_, s, History.annotate env (recorded run), s', hrun, hagain, hagain',
    fun more hmore => ?_, fun hall q r hr => ?_⟩
  · obtain ⟨s₂, hmore', -, hacked₂⟩ :=
      hs'.redissectAll hacked (hold more fun m hm => hsub (hmore hm))
    cases hacked.unique hs hacked₂ fun q a => by
      rw [List.mem_append]
      exact or_iff_left_of_imp fun ha =>
        List.mem_append_right _ (acknowledgersOf_mono hmore ha)
    exact hmore'
  · have hframe := hacked.frameNum_eq
    have hlowest := hacked.acked.lowest q r hr
    rw [hframe] at hlowest ⊢
    refine hlowest.congr fun a => ?_
    rw [List.mem_append]
    constructor
    · rintro (ha | ha)
      · obtain ⟨r₀, hr₀, ha⟩ := Option.bind_eq_some_iff.1 (Option.mem_toList.1 ha)
        exact hs.ackedBy q r₀ a hr₀ ha
      · exact acknowledgersOf_mono hsub ha
    · exact fun ha => .inr (acknowledgersOf_mono hall ha)

/-- The acknowledgement is dissected first: only the second run finds what it acknowledges. -/
theorem trackAll_settles_lateMessage :
    acknowledgersOf (recorded [acknowledgement 2, acknowledged 2]) (fun p => 2 - p) 1
      [acknowledgement 2, acknowledged 2] = [0] ∧
    ∃ results s annotations s',
      (trackAll crc32Ccitt [acknowledgement 2, acknowledged 2]).run .empty = .ok results s ∧
      (trackAll crc32Ccitt [acknowledged 2, acknowledgement 2]).run s =
        .ok ([acknowledged 2, acknowledgement 2].map annotations) s' ∧
      (trackAll crc32Ccitt [acknowledgement 2, acknowledged 2, acknowledged 2]).run s =
        .ok ([acknowledgement 2, acknowledged 2, acknowledged 2].map annotations) s' ∧
      (∀ more, more ⊆ [acknowledged 2, acknowledgement 2] →
        (trackAll crc32Ccitt more).run s' = .ok (more.map annotations) s') ∧
      AcksSettled [acknowledgement 2, acknowledged 2] s' := by
  refine ⟨by decide, ?_⟩
  obtain ⟨results, s, annotations, s', hrun, hagain, hagain', hmore, hacks⟩ :=
    trackAll_settles crc32Ccitt [acknowledgement 2, acknowledged 2]
      [acknowledged 2, acknowledgement 2] [acknowledgement 2, acknowledged 2, acknowledged 2]
      (by simp) (by simp; tauto)
  exact ⟨results, s, annotations, s', hrun, hagain, hagain', hmore, hacks (by simp)⟩

end Matter.Tracker
