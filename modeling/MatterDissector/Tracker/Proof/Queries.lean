import MatterDissector.Lib.Extremum
import MatterDissector.Tracker.Proof.Records

/-!
# What the tracker finds

`FindRetransmissions` and `FindReusedMessageIds` as functions of the list that the record is in.
For a record `p` behind the records `ys` and in front of the records `zs` of its list,
`findRetransmissions_run` and `findReusedMessageIds_run` say what is reported in terms of `ys` and
`zs`.
-/

namespace Matter.Tracker

open Prog Message Intrusive Extremum

namespace TrackerState

/-- The members of the record at an address. -/
def frameNum (s : TrackerState) (p : RecordRef) : Nat :=
  (s.records[p]?.map MatterMessageRecord.frameNum).getD 0

def fingerprint (s : TrackerState) (p : RecordRef) : Nat :=
  (s.records[p]?.map MatterMessageRecord.fingerprint).getD 0

def isInitiator (s : TrackerState) (p : RecordRef) : Bool :=
  (s.records[p]?.map MatterMessageRecord.isInitiator).getD false

end TrackerState

section
variable {env : TrackerEnv} {msgs : List TrackedMessage} {m : TrackedMessage} {s : TrackerState}
  {p q : RecordRef} {xs ys zs : List RecordRef} {links : Links}

/-- A record and its members. -/
theorem load_fields (hp : p < s.records.length) :
    ∃ r, (load p).run s = .ok r s ∧ s.records[p]? = some r ∧ r.frameNum = s.frameNum p ∧
      r.fingerprint = s.fingerprint p ∧ r.isInitiator = s.isInitiator p := by
  obtain ⟨r, hr, hload⟩ := exists_load hp
  refine ⟨r, hload, hr, ?_, ?_, ?_⟩
  · rw [TrackerState.frameNum, hr]; rfl
  · rw [TrackerState.fingerprint, hr]; rfl
  · rw [TrackerState.isInitiator, hr]; rfl

theorem keepBetter_run {better : Nat → Nat → Bool} {best : Option RecordRef}
    (hp : p < s.records.length) (hbest : ∀ q, best = some q → q < s.records.length) :
    (keepBetter better best p).run s = .ok (keepBest better s.frameNum best p) s := by
  cases best with
  | none => rfl
  | some q =>
    obtain ⟨r, hload, -, hframe, -⟩ := load_fields hp
    obtain ⟨r', hload', -, hframe', -⟩ := load_fields (hbest q rfl)
    rw [keepBetter, bind_ok hload, bind_ok hload', hframe, hframe']
    rfl

/-- A better element comes from the list or is kept from before. -/
theorem keepBest_bound {better : Nat → Nat → Bool} {f : RecordRef → Nat} {best : Option RecordRef}
    {n : Nat} (hp : p < n) (hbest : ∀ q, best = some q → q < n) :
    ∀ q, keepBest better f best p = some q → q < n := by
  intro q hq
  cases best with
  | none => cases hq; exact hp
  | some b =>
    have hq : (if better (f p) (f b) then p else b) = q := Option.some.inj hq
    split at hq
    · exact hq ▸ hp
    · exact hq ▸ hbest b rfl

/-- The lowest of the elements that satisfy `P`. -/
theorem lowest_foldl (f : RecordRef → Nat) (P : RecordRef → Prop) [DecidablePred P]
    (xs : List RecordRef) :
    IsExtremal (· ≤ ·) f (xs.filter P) (xs.foldl (fun best p =>
      if P p then keepBest (fun u v => decide (u < v)) f best p else best) none) :=
  isExtremal_foldl Nat.le_total (fun _ _ _ => Nat.le_trans) (fun u v => by simp) f P xs

/-- The highest of the elements that satisfy `P`. -/
theorem highest_foldl (f : RecordRef → Nat) (P : RecordRef → Prop) [DecidablePred P]
    (xs : List RecordRef) :
    IsExtremal (· ≥ ·) f (xs.filter P) (xs.foldl (fun best p =>
      if P p then keepBest (fun u v => decide (u > v)) f best p else best) none) :=
  isExtremal_foldl (fun u v => Nat.le_total v u) (fun _ _ _ h h' => Nat.le_trans h' h)
    (fun u v => by simp) f P xs

/-! ## Retransmissions -/

theorem leaves_load (p : RecordRef) {γ : Type} (g : TrackerState → γ) : Leaves g (load p) := by
  refine Leaves.bind (.gets _) fun r => ?_
  cases r with
  | some r => exact .pure r
  | none => exact .stop _

theorem leaves_keepBetter {γ : Type} (g : TrackerState → γ) (better : Nat → Nat → Bool)
    (best : Option RecordRef) (p : RecordRef) : Leaves g (keepBetter better best p) := by
  cases best with
  | none => exact .pure _
  | some q => exact (leaves_load p g).bind fun _ => (leaves_load q g).bind fun _ => .pure _

theorem leaves_retransmissionBefore {γ : Type} (g : TrackerState → γ) (fp : Nat)
    (found : Retransmissions) (p : RecordRef) : Leaves g (retransmissionBefore fp found p) :=
  (leaves_load p g).bind fun _ =>
    .ite ((leaves_keepBetter g _ _ p).bind fun _ => .pure _) (.pure _)

theorem leaves_retransmissionAfter {γ : Type} (g : TrackerState → γ) (fp : Nat)
    (found : Retransmissions) (p : RecordRef) : Leaves g (retransmissionAfter fp found p) :=
  (leaves_load p g).bind fun _ => .pure _

theorem leaves_reuseBefore {γ : Type} (g : TrackerState → γ) (fp : Nat)
    (reused : Option RecordRef) (p : RecordRef) : Leaves g (reuseBefore fp reused p) :=
  (leaves_load p g).bind fun _ => .ite (leaves_keepBetter g _ _ p) (.pure _)

/-- The search for retransmissions among earlier records. -/
theorem retransmissionsBefore_run (fp : Nat) (found : Retransmissions)
    (hfound : ∀ q, found.retransOfMsg = some q → q < s.records.length)
    (hxs : ∀ p ∈ xs, p < s.records.length) :
    (xs.foldlM (retransmissionBefore fp) found).run s = .ok
      { retransOfMsg := xs.foldl (fun best p => if s.fingerprint p = fp then
          keepBest (fun u v => decide (u < v)) s.frameNum best p else best) found.retransOfMsg
        retransNum := found.retransNum + xs.countP (s.fingerprint · = fp)
        totalRetrans := found.totalRetrans + xs.countP (s.fingerprint · = fp) } s := by
  induction xs generalizing found with
  | nil => rfl
  | cons p xs ih =>
    have hp := hxs p List.mem_cons_self
    obtain ⟨r, hload, -, -, hfp, -⟩ := load_fields hp
    have htail : ∀ q ∈ xs, q < s.records.length := fun q hq => hxs q (List.mem_cons_of_mem p hq)
    rw [List.foldlM_cons]
    by_cases hsame : s.fingerprint p = fp
    · have hstep : (retransmissionBefore fp found p).run s = .ok
          ⟨keepBest (fun u v => decide (u < v)) s.frameNum found.retransOfMsg p,
            found.retransNum + 1, found.totalRetrans + 1⟩ s := by
        rw [retransmissionBefore, bind_ok hload, hfp, if_pos hsame.symm,
          bind_ok (keepBetter_run hp hfound)]
        rfl
      have hkeep : ∀ q, keepBest (fun u v => decide (u < v)) s.frameNum found.retransOfMsg p =
        some q → q < s.records.length := keepBest_bound hp hfound
      rw [bind_ok hstep, ih _ hkeep htail, List.foldl_cons, if_pos hsame,
        List.countP_cons_of_pos (by simpa using hsame)]
      simp only [Nat.add_assoc, Nat.add_comm 1]
    · have hstep : (retransmissionBefore fp found p).run s = .ok found s := by
        rw [retransmissionBefore, bind_ok hload, hfp, if_neg (Ne.symm hsame)]
        rfl
      rw [bind_ok hstep, ih _ hfound htail, List.foldl_cons, if_neg hsame,
        List.countP_cons_of_neg (by simpa using hsame)]

theorem retransmissionsAfter_run (fp : Nat) (found : Retransmissions)
    (hxs : ∀ p ∈ xs, p < s.records.length) :
    (xs.foldlM (retransmissionAfter fp) found).run s = .ok { found with
      totalRetrans := found.totalRetrans + xs.countP (s.fingerprint · = fp) } s := by
  induction xs generalizing found with
  | nil => rfl
  | cons p xs ih =>
    obtain ⟨r, hload, -, -, hfp, -⟩ := load_fields (hxs p List.mem_cons_self)
    have htail : ∀ q ∈ xs, q < s.records.length := fun q hq => hxs q (List.mem_cons_of_mem p hq)
    rw [List.foldlM_cons, retransmissionAfter, bind_assoc, bind_ok hload, hfp]
    by_cases hsame : s.fingerprint p = fp
    · rw [if_pos hsame.symm, List.countP_cons_of_pos (by simpa using hsame)]
      exact (ih _ htail).trans (by simp only [Nat.add_assoc, Nat.add_comm 1])
    · rw [if_neg (Ne.symm hsame), List.countP_cons_of_neg (by simpa using hsame)]
      exact ih _ htail

/-- The search for other uses of the counter among earlier records. -/
theorem reusesBefore_run (fp : Nat) (reused : Option RecordRef)
    (hreused : ∀ q, reused = some q → q < s.records.length)
    (hxs : ∀ p ∈ xs, p < s.records.length) :
    (xs.foldlM (reuseBefore fp) reused).run s = .ok
      (xs.foldl (fun best p => if s.fingerprint p ≠ fp then
        keepBest (fun u v => decide (u < v)) s.frameNum best p else best) reused) s := by
  induction xs generalizing reused with
  | nil => rfl
  | cons p xs ih =>
    have hp := hxs p List.mem_cons_self
    obtain ⟨r, hload, -, -, hfp, -⟩ := load_fields hp
    have htail : ∀ q ∈ xs, q < s.records.length := fun q hq => hxs q (List.mem_cons_of_mem p hq)
    rw [List.foldlM_cons, reuseBefore, bind_assoc, bind_ok hload, hfp, List.foldl_cons]
    by_cases hother : s.fingerprint p ≠ fp
    · rw [if_pos (Ne.symm hother), if_pos hother, bind_ok (keepBetter_run hp hreused)]
      exact ih _ (keepBest_bound hp hreused) htail
    · rw [if_neg fun h => hother (Ne.symm h), if_neg hother]
      exact ih _ hreused htail

/-- `p` in a list: behind `ys`, in front of `zs`. -/
structure InList (links : Links) (s : TrackerState) (ys : List RecordRef) (p : RecordRef)
    (zs : List RecordRef) : Prop where
  linked : Linked (s.link links.next) (s.link links.prev) (ys ++ p :: zs)
  bound : ∀ q ∈ ys ++ p :: zs, q < s.records.length

theorem InList.split (h : InList links s ys p zs) :
    p < s.records.length ∧ (∀ q ∈ ys.reverse, q < s.records.length) ∧
      (∀ q ∈ zs, q < s.records.length) ∧ ys.reverse.Nodup ∧ zs.Nodup := by
  obtain ⟨hys, hzs, -⟩ := List.nodup_append.1 h.linked.nodup
  exact ⟨h.bound p (by simp), fun q hq => h.bound q (by simp at hq; simp [hq]),
    fun q hq => h.bound q (by simp [hq]), List.nodup_reverse.2 hys, (List.nodup_cons.1 hzs).2⟩

theorem InList.path_prev (h : InList links s ys p zs) {r : MatterMessageRecord}
    (hr : s.records[p]? = some r) : Path (s.link links.prev) (links.prev r) ys.reverse := by
  have hprev : s.link links.prev p = links.prev r := link_eq hr
  rw [← hprev]
  exact h.linked.path_prev rfl

theorem InList.path_next (h : InList links s ys p zs) {r : MatterMessageRecord}
    (hr : s.records[p]? = some r) : Path (s.link links.next) (links.next r) zs := by
  have hnext : s.link links.next p = links.next r := link_eq hr
  rw [← hnext]
  exact h.linked.path_next rfl

/-- `FindRetransmissions`: `retransOfMsg` is the lowest frame among the earlier records of the
list with the fingerprint, and the numbers count the earlier ones, and all others. -/
theorem findRetransmissions_run (h : InList byMsgCntr s ys p zs) :
    ∃ found, (findRetransmissions p).run s = .ok found s ∧
      IsExtremal (· ≤ ·) s.frameNum (ys.filter (s.fingerprint · = s.fingerprint p))
        found.retransOfMsg ∧
      found.retransNum = ys.countP (s.fingerprint · = s.fingerprint p) ∧
      found.totalRetrans = ys.countP (s.fingerprint · = s.fingerprint p) +
        zs.countP (s.fingerprint · = s.fingerprint p) := by
  obtain ⟨hp, hys, hzs, hynodup, hznodup⟩ := h.split
  obtain ⟨r, hload, hr, -, hfp, -⟩ := load_fields hp
  have hbefore : (forRecords byMsgCntr.prev (retransmissionBefore r.fingerprint) r.prevByMsgCntr
      {}).run s = _ :=
    (forRecords_path (fun b q => leaves_retransmissionBefore _ r.fingerprint b q) {}
      (h.path_prev hr) hys hynodup).trans
      (retransmissionsBefore_run r.fingerprint {} (fun q hq => by cases hq) hys)
  have hafter : ∀ found, (forRecords byMsgCntr.next (retransmissionAfter r.fingerprint)
      r.nextByMsgCntr found).run s = _ := fun found =>
    (forRecords_path (fun b q => leaves_retransmissionAfter _ r.fingerprint b q) found
      (h.path_next hr) hzs hznodup).trans (retransmissionsAfter_run r.fingerprint found hzs)
  rw [hfp] at hbefore hafter
  have hboth := (bind_ok (k := fun found => forRecords byMsgCntr.next
    (retransmissionAfter (s.fingerprint p)) r.nextByMsgCntr found) hbefore).trans (hafter _)
  refine ⟨_, Eq.trans ?_ hboth, ?_, ?_, ?_⟩
  · rw [findRetransmissions, bind_ok hload, hfp]
  · refine (lowest_foldl s.frameNum (s.fingerprint · = s.fingerprint p) ys.reverse).congr ?_
    simp
  · simp
  · simp

/-- `FindReusedMessageIds`: the lowest frame among the earlier records of the list with another
fingerprint. -/
theorem findReusedMessageIds_run (h : InList byMsgCntr s ys p zs) :
    ∃ reused, (findReusedMessageIds p).run s = .ok reused s ∧
      IsExtremal (· ≤ ·) s.frameNum (ys.filter (s.fingerprint · ≠ s.fingerprint p)) reused := by
  obtain ⟨hp, hys, -, hynodup, -⟩ := h.split
  obtain ⟨r, hload, hr, -, hfp, -⟩ := load_fields hp
  have hbefore : (forRecords byMsgCntr.prev (reuseBefore r.fingerprint) r.prevByMsgCntr
      none).run s = _ :=
    (forRecords_path (fun b q => leaves_reuseBefore _ r.fingerprint b q) none
      (h.path_prev hr) hys hynodup).trans
      (reusesBefore_run r.fingerprint none (fun q hq => by cases hq) hys)
  rw [hfp] at hbefore
  have hlowest := lowest_foldl s.frameNum (s.fingerprint · ≠ s.fingerprint p) ys.reverse
  refine ⟨_, Eq.trans ?_ hbefore, ?_⟩
  · rw [findReusedMessageIds, bind_ok hload, hfp]
  · exact hlowest.congr fun q => by simp

/-- The place of a message in the list of its key. -/
theorem Represents.inCounterList (h : Represents env msgs s) {key : MessageIdKey}
    (hsplit : positions TrackedMessage.msgIdKey msgs key = ys ++ p :: zs) :
    InList Tracker.byMsgCntr s ys p zs where
  linked := hsplit ▸ h.byMsgCntr.linked key
  bound q hq := by
    rw [h.length_eq]
    exact lt_of_mem_positions (hsplit ▸ hq)

theorem Represents.inExchangeList (h : Represents env msgs s) {key : Key}
    (hsplit : positions TrackedMessage.exchangeKey msgs key = ys ++ p :: zs) :
    InList Tracker.byExchange s ys p zs where
  linked := hsplit ▸ h.byExchange.linked key
  bound q hq := by
    rw [h.length_eq]
    exact lt_of_mem_positions (hsplit ▸ hq)

/-- The members of a record are those of its message. -/
theorem Represents.fields (h : Represents env msgs s) (hm : msgs[p]? = some m) :
    s.frameNum p = m.frameNum ∧ s.fingerprint p = m.fingerprint env ∧
      s.isInitiator p = m.isInitiator := by
  obtain ⟨r, hr, hframe, hfp, hinit⟩ := h.record hm
  refine ⟨?_, ?_, ?_⟩
  · rw [TrackerState.frameNum, hr]; exact hframe
  · rw [TrackerState.fingerprint, hr]; exact hfp
  · rw [TrackerState.isInitiator, hr]; exact hinit

/-- A record is the one of its frame. -/
theorem Represents.protoData_frame (h : Represents env msgs s)
    (hnodup : (msgs.map TrackedMessage.frameNum).Nodup) (hp : p < msgs.length) :
    s.protoData (s.frameNum p) = some p := by
  have hm := List.getElem?_eq_getElem hp
  rw [(h.fields hm).1, h.protoData_eq]
  exact placeOf_of_getElem hnodup hm

theorem Represents.frameNum_inj (h : Represents env msgs s)
    (hnodup : (msgs.map TrackedMessage.frameNum).Nodup) (hp : p < msgs.length)
    (hq : q < msgs.length) (hframe : s.frameNum p = s.frameNum q) : p = q := by
  have hp := h.protoData_frame hnodup hp
  rw [hframe, h.protoData_frame hnodup hq] at hp
  exact (Option.some.inj hp).symm

theorem Represents.mem_counterList (h : Represents env msgs s) (hm : msgs[p]? = some m)
    {key : MessageIdKey} : p ∈ s.counterList key ↔ m.msgIdKey = key := by
  rw [h.counterList_eq, mem_positions, hm, Option.map_some, Option.some.injEq]

theorem Represents.mem_exchangeList (h : Represents env msgs s) (hm : msgs[p]? = some m)
    {key : Key} : p ∈ s.exchangeList key ↔ m.exchangeKey = key := by
  rw [h.exchangeList_eq, mem_positions, hm, Option.map_some, Option.some.injEq]

/-- A record in the list of its counter. -/
theorem Represents.split_counterList (h : Represents env msgs s) (hm : msgs[p]? = some m) :
    ∃ ys zs, s.counterList m.msgIdKey = ys ++ p :: zs ∧ InList Tracker.byMsgCntr s ys p zs := by
  obtain ⟨ys, zs, hsplit⟩ := List.append_of_mem ((h.mem_counterList hm).2 rfl)
  exact ⟨ys, zs, hsplit, h.inCounterList (h.counterList_eq _ ▸ hsplit)⟩

/-- What is reported for a message is in its list. -/
theorem Represents.reported (h : Represents env msgs s) (hm : msgs[p]? = some m) :
    (∃ found, (findRetransmissions p).run s = .ok found s ∧
      ∀ q, found.retransOfMsg = some q → q ∈ s.counterList m.msgIdKey) ∧
    ∃ reused, (findReusedMessageIds p).run s = .ok reused s ∧
      ∀ q, reused = some q → q ∈ s.counterList m.msgIdKey := by
  obtain ⟨ys, zs, hsplit, hin⟩ := h.split_counterList hm
  obtain ⟨found, hfound, hlowest, -⟩ := findRetransmissions_run hin
  obtain ⟨reused, hreused, hlowest'⟩ := findReusedMessageIds_run hin
  refine ⟨⟨found, hfound, fun q hq => ?_⟩, reused, hreused, fun q hq => ?_⟩
  · rw [hq] at hlowest
    rw [hsplit]
    exact List.mem_append_left _ (List.mem_filter.1 hlowest.mem).1
  · rw [hq] at hlowest'
    rw [hsplit]
    exact List.mem_append_left _ (List.mem_filter.1 hlowest'.mem).1

end

end Matter.Tracker
