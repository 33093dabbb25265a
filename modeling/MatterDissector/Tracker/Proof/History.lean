import MatterDissector.Tracker.Proof.Acks
import MatterDissector.Tracker.Proof.Stability

/-!
# The tracker as a history

The tracker keeps records in two kinds of linked lists, behind hash tables. What it stands for is
the list of the messages recorded so far (`History`), and everything `DissectMatter` asks is a
function of that list (`History.annotations`), without links, tables or loops. A call for a message
says what the history says, and makes the message the acknowledger of those that it looks up:
`Represents.trackMessage_annotations`.
-/

namespace Matter.Tracker

open Prog Message Intrusive Extremum TrackedMessage

/-! ## Histories -/

/-- The messages recorded so far, in their order. -/
abbrev History := List TrackedMessage

namespace History

/-- Where the exchange of the last one of `xs` starts: at the initiator's last message, or at the
first one of its copies right before it; without any message of the initiator, at the first of
all. -/
def startOf (isInitiator : Nat → Bool) (fingerprint : Nat → Nat) (xs : List Nat) : Option Nat :=
  match xs.reverse.dropWhile fun r => !isInitiator r with
  | q :: older =>
    some ((older.takeWhile fun r => isInitiator r && fingerprint r == fingerprint q).getLastD q)
  | [] => xs.head?

section
variable (env : TrackerEnv) (h : History)

def frameNum (p : Nat) : Nat := (h[p]?.map TrackedMessage.frameNum).getD 0

def fingerprint (p : Nat) : Nat := (h[p]?.map (TrackedMessage.fingerprint env)).getD 0

def isInitiator (p : Nat) : Bool := (h[p]?.map TrackedMessage.isInitiator).getD false

/-- The messages with the counter of the message at `p`. -/
def sameCounter (p : Nat) : List Nat :=
  h[p]?.elim [] fun m => positions msgIdKey h m.msgIdKey

def sameExchange (p : Nat) : List Nat :=
  h[p]?.elim [] fun m => positions exchangeKey h m.exchangeKey

/-- The message at `p` and its retransmissions. -/
def copies (p : Nat) : List Nat :=
  (h.sameCounter p).filter fun q => h.fingerprint env q = h.fingerprint env p

def exchangeStart (p : Nat) : Nat :=
  (startOf h.isInitiator (h.fingerprint env) ((h.sameExchange p).filter (· ≤ p))).getD p

def retransmissions (p : Nat) : Retransmissions where
  retransOfMsg := ((h.copies env p).filter (· < p)).argmin h.frameNum
  retransNum := ((h.copies env p).filter (· < p)).length
  totalRetrans := (h.copies env p).length - 1

def reusesMsgCntrFrom (p : Nat) : Option Nat :=
  ((h.sameCounter p).filter fun q =>
    q < p ∧ h.fingerprint env q ≠ h.fingerprint env p).argmin h.frameNum

/-- What the message `m` acknowledges when it comes in the frame of the message at `p`. -/
def ackedMsg (p : Nat) (m : TrackedMessage) : Option Nat :=
  if m.TracksAck then
    ((positions msgIdKey h m.ackKey).filter fun q =>
      h.frameNum q < h.frameNum p).argmax h.frameNum
  else none

/-- What `DissectMatter` is told about `m`. -/
def annotations (p : Nat) (m : TrackedMessage) : Annotations where
  msgRec := p
  exchangeStartMsg := h.exchangeStart env p
  retransmissions := h.retransmissions env p
  reusesMsgCntrFrom := h.reusesMsgCntrFrom env p
  ackedMsg := h.ackedMsg p m

/-- The history after `m`, and what is said of `m`. -/
def annotate (m : TrackedMessage) : Except TvbError Annotations :=
  match placeOf h m.frameNum with
  | some p => .ok (h.annotations env p m)
  | none => .error .outOfRange

end

end History

section
variable {env : TrackerEnv} {msgs done : List TrackedMessage} {m : TrackedMessage}
  {s : TrackerState} {p q : RecordRef} {xs ys zs : List RecordRef} {frameNum : RecordRef → Nat}

/-! ## The start of an exchange -/

/-- The start of an exchange, computed. -/
theorem StartOf.startOf_eq (h : StartOf s xs q) :
    History.startOf s.isInitiator s.fingerprint xs = some q := by
  unfold History.startOf
  cases h with
  | initiator as bs cs hxs hq hbs hcs has =>
    -- newest first: the answers, the copies with the start behind them, the rest
    have hreverse : xs.reverse = cs.reverse ++ (bs.reverse ++ [q] ++ as.reverse) := by
      rw [hxs]
      simp
    have hanswers : ∀ c ∈ cs.reverse, (!s.isInitiator c) = true := by
      intro c hc
      rw [hcs c (List.mem_reverse.1 hc)]
      rfl
    rw [hreverse, List.dropWhile_append_of_pos hanswers]
    obtain ⟨last, older, hlast⟩ : ∃ last older, bs.reverse ++ [q] = last :: older :=
      List.exists_cons_of_ne_nil (by simp)
    have hcopies : ∀ b ∈ last :: older,
        s.isInitiator b = true ∧ s.fingerprint b = s.fingerprint q := by
      intro b hb
      rw [← hlast, List.mem_append, List.mem_reverse, List.mem_singleton] at hb
      rcases hb with hb | rfl
      · exact hbs b hb
      · exact ⟨hq, rfl⟩
    obtain ⟨hinitiator, hfingerprint⟩ := hcopies last List.mem_cons_self
    rw [hlast, List.cons_append, List.dropWhile_cons_of_neg (by simp [hinitiator])]
    dsimp only
    have hrest : as.reverse.takeWhile (fun r => s.isInitiator r &&
        s.fingerprint r == s.fingerprint last) = [] := by
      cases hlast : as.getLast? with
      | none => simp [List.getLast?_eq_none_iff.1 hlast]
      | some a =>
        obtain ⟨as', rfl⟩ := List.getLast?_eq_some_iff.1 hlast
        have hother := has a hlast
        rw [List.reverse_append, List.reverse_singleton, List.singleton_append,
          List.takeWhile_cons_of_neg]
        simpa [hfingerprint] using hother
    have holder : ∀ b ∈ older,
        (s.isInitiator b && s.fingerprint b == s.fingerprint last) = true := by
      intro b hb
      obtain ⟨hb, hsame⟩ := hcopies b (List.mem_cons_of_mem last hb)
      simp [hb, hsame, hfingerprint]
    have hq : (last :: older).getLast? = some q := by
      rw [← hlast, List.getLast?_concat]
    rw [List.takeWhile_append_of_pos holder, hrest, List.append_nil, List.getLastD_eq_getLast?,
      ← List.getLast?_cons, hq]
  | oldest cs hxs hcs =>
    have hall : ∀ c ∈ xs.reverse, (!s.isInitiator c) = true := by
      intro c hc
      rw [hxs, List.mem_reverse] at hc
      rw [hcs c hc]
      rfl
    rw [← List.append_nil xs.reverse, List.dropWhile_append_of_pos hall, hxs]
    rfl

/-! ## Lists of places -/

/-- The places before one in its list, and those up to it. -/
theorem filter_positions {κ : Type} [DecidableEq κ] {key : TrackedMessage → κ} {k : κ}
    (hsplit : positions key msgs k = ys ++ p :: zs) :
    (positions key msgs k).filter (· < p) = ys ∧
      (positions key msgs k).filter (· ≤ p) = ys ++ [p] := by
  have hsorted : (ys ++ p :: zs).Pairwise (· < ·) := hsplit ▸ List.pairwise_findIdxs
  obtain ⟨-, hright, hcross⟩ := List.pairwise_append.1 hsorted
  have hbefore : ∀ q ∈ ys, q < p := fun q hq => hcross q hq p List.mem_cons_self
  have hbehind : ∀ q ∈ zs, p < q := (List.pairwise_cons.1 hright).1
  constructor
  · rw [hsplit, List.filter_append, List.filter_eq_self.2 (by simpa using hbefore),
      List.filter_eq_nil_iff.2, List.append_nil]
    intro q hq
    rcases List.mem_cons.1 hq with rfl | hq
    · simp
    · simpa using Nat.le_of_lt (hbehind q hq)
  · have hle : ∀ q ∈ ys, decide (q ≤ p) = true := fun q hq =>
      decide_eq_true (Nat.le_of_lt (hbefore q hq))
    rw [hsplit, List.filter_append, List.filter_eq_self.2 hle,
      List.filter_cons_of_pos (by simp), List.filter_eq_nil_iff.2]
    intro q hq
    simpa using hbehind q hq

/-- A history and a state that has recorded it agree on the members of the records. -/
theorem Represents.members (h : Represents env msgs s) :
    History.frameNum msgs = s.frameNum ∧ History.fingerprint env msgs = s.fingerprint ∧
      History.isInitiator msgs = s.isInitiator := by
  have hcontent : ∀ p : RecordRef, s.records[p]?.map MatterMessageRecord.content =
      msgs[p]?.map (TrackedMessage.content env) := by
    intro p
    rw [← List.getElem?_map, ← List.getElem?_map, h.content_eq]
  refine ⟨funext fun p => ?_, funext fun p => ?_, funext fun p => ?_⟩
  · have hp := congrArg (Option.map Prod.fst) (hcontent p)
    rw [Option.map_map, Option.map_map] at hp
    exact congrArg (Option.getD · 0) hp.symm
  · have hp := congrArg (Option.map fun c => c.2.1) (hcontent p)
    rw [Option.map_map, Option.map_map] at hp
    exact congrArg (Option.getD · 0) hp.symm
  · have hp := congrArg (Option.map fun c => c.2.2) (hcontent p)
    rw [Option.map_map, Option.map_map] at hp
    exact congrArg (Option.getD · false) hp.symm

theorem exists_split {κ : Type} [DecidableEq κ] (key : TrackedMessage → κ) (hp : p < msgs.length) :
    ∃ ys zs, positions key msgs (key msgs[p]) = ys ++ p :: zs := by
  apply List.append_of_mem
  rw [mem_positions, List.getElem?_eq_getElem hp]
  rfl

/-- At most one record is extremal by its frame. -/
theorem Represents.extremal_unique {le : Nat → Nat → Prop} {best best' : Option RecordRef}
    (h : Represents env msgs s) (hnodup : (msgs.map TrackedMessage.frameNum).Nodup)
    (hanti : ∀ u v, le u v → le v u → u = v) (hxs : ∀ q ∈ xs, q < msgs.length)
    (hbest : IsExtremal le s.frameNum xs best) (hbest' : IsExtremal le s.frameNum xs best') :
    best = best' :=
  hbest.unique hanti
    (fun a ha b hb => h.frameNum_inj hnodup (hxs a ha) (hxs b hb)) hbest'

/-! ## Acknowledgers -/

/-- The record that a call for `m` makes the acknowledger of the record `q`, if there is none with
a lower frame. -/
def acknowledgerOf (msgs : List TrackedMessage) (frameNum : RecordRef → Nat) (q : RecordRef)
    (m : TrackedMessage) : Option RecordRef :=
  (placeOf msgs m.frameNum).filter fun p =>
    m.TracksAck ∧ q ∈ positions msgIdKey msgs m.ackKey ∧ frameNum q < frameNum p

/-- The acknowledgers of `q` after calls for `done`. -/
def acknowledgersOf (msgs : List TrackedMessage) (frameNum : RecordRef → Nat) (q : RecordRef)
    (done : List TrackedMessage) : List RecordRef :=
  done.filterMap (acknowledgerOf msgs frameNum q)

theorem acknowledgerOf_eq_some : acknowledgerOf msgs frameNum q m = some p ↔
    placeOf msgs m.frameNum = some p ∧ m.TracksAck ∧ q ∈ positions msgIdKey msgs m.ackKey ∧
      frameNum q < frameNum p := by
  rw [acknowledgerOf, Option.filter_eq_some_iff, decide_eq_true_eq]

theorem mem_acknowledgersOf : p ∈ acknowledgersOf msgs frameNum q done ↔
    ∃ m ∈ done, placeOf msgs m.frameNum = some p ∧ m.TracksAck ∧
      q ∈ positions msgIdKey msgs m.ackKey ∧ frameNum q < frameNum p := by
  rw [acknowledgersOf, List.mem_filterMap]
  exact exists_congr fun m => and_congr_right fun _ => acknowledgerOf_eq_some

theorem lt_of_placeOf {num : Nat} (h : placeOf msgs num = some p) : p < msgs.length := by
  obtain ⟨m, hm, -⟩ := placeOf_spec h
  exact (List.getElem?_eq_some_iff.1 hm).1

theorem lt_of_mem_acknowledgersOf (h : p ∈ acknowledgersOf msgs frameNum q done) :
    p < msgs.length := by
  obtain ⟨m, -, hplace, -⟩ := mem_acknowledgersOf.1 h
  exact lt_of_placeOf hplace

theorem acknowledgersOf_mono {done' : List TrackedMessage} (hsub : done ⊆ done')
    (h : p ∈ acknowledgersOf msgs frameNum q done) :
    p ∈ acknowledgersOf msgs frameNum q done' := by
  rw [mem_acknowledgersOf] at h ⊢
  obtain ⟨m, hm, hacks⟩ := h
  exact ⟨m, hsub hm, hacks⟩

/-- What a call for `m`, whose frame has the record `p`, does to the acknowledgers. -/
def acknowledge (msgs : List TrackedMessage) (m : TrackedMessage) (p : RecordRef)
    (s : TrackerState) : TrackerState :=
  if m.TracksAck then
    { s with records := ackRecords s.frameNum p (positions msgIdKey msgs m.ackKey) s.records }
  else s

theorem frameNum_acknowledge : (acknowledge msgs m p s).frameNum = s.frameNum := by
  unfold acknowledge
  split
  · exact frameNum_ackRecords p _
  · rfl

/-- One record, by the acknowledger that the call is for. -/
theorem getElem?_acknowledge (hplace : placeOf msgs m.frameNum = some p)
    {r : MatterMessageRecord} (hr : s.records[q]? = some r) :
    ∃ r' : MatterMessageRecord, (acknowledge msgs m p s).records[q]? = some r' ∧
      r'.ackedByMsgRec = match acknowledgerOf msgs s.frameNum q m with
        | some p => keepBest (fun u v => decide (u < v)) s.frameNum r.ackedByMsgRec p
        | none => r.ackedByMsgRec := by
  have hframe : r.frameNum = s.frameNum q := by
    rw [TrackerState.frameNum, hr]
    rfl
  unfold acknowledge
  by_cases htracks : m.TracksAck
  · rw [if_pos htracks]
    show ∃ r', (ackRecords s.frameNum p _ s.records)[q]? = some r' ∧ _
    rw [getElem?_ackRecords nodup_positions, hr]
    by_cases hq : q ∈ positions msgIdKey msgs m.ackKey
    · refine ⟨_, by rw [if_pos hq, Option.map_some], ?_⟩
      by_cases hlt : s.frameNum q < s.frameNum p
      · rw [acknowledgerOf_eq_some.2 ⟨hplace, htracks, hq, hlt⟩, ackRecord, hframe, if_pos hlt]
      · have hnone : acknowledgerOf msgs s.frameNum q m = none := by
          simp [acknowledgerOf, hplace, Nat.le_of_not_lt hlt]
        rw [hnone, ackRecord, hframe, if_neg hlt]
    · have hnone : acknowledgerOf msgs s.frameNum q m = none := by
        simp [acknowledgerOf, hplace, hq]
      exact ⟨r, by rw [if_neg hq], by rw [hnone]⟩
  · have hnone : acknowledgerOf msgs s.frameNum q m = none := by
      simp [acknowledgerOf, hplace, htracks]
    exact ⟨r, by rw [if_neg htracks, hr], by rw [hnone]⟩

theorem length_acknowledge : (acknowledge msgs m p s).records.length = s.records.length := by
  unfold acknowledge
  split
  · have hmap := map_ackRecords (g := MatterMessageRecord.frameNum) (fun _ _ => rfl) s.frameNum p
      (positions msgIdKey msgs m.ackKey) s.records
    simpa using congrArg List.length hmap
  · rfl

theorem Represents.acknowledge (h : Represents env msgs s) :
    Represents env msgs (acknowledge msgs m p s) := by
  unfold Tracker.acknowledge
  split
  · exact h.ackRecords _ _
  · exact h

/-! ## One call -/

section
variable (h : Represents env msgs s) (hp : p < msgs.length)
include h hp

theorem Represents.exchangeStart_run :
    (findStartOfExchange p).run s = .ok (History.exchangeStart env msgs p) s := by
  obtain ⟨ys, zs, hsplit⟩ := exists_split exchangeKey hp
  obtain ⟨start, hrun, hstart⟩ := findStartOfExchange_run (h.inExchangeList hsplit)
  obtain ⟨-, hfingerprint, hinitiator⟩ := h.members
  rw [hrun, History.exchangeStart, hfingerprint, hinitiator, History.sameExchange,
    List.getElem?_eq_getElem hp, Option.elim_some, (filter_positions hsplit).2,
    hstart.startOf_eq, Option.getD_some]

variable (hnodup : (msgs.map TrackedMessage.frameNum).Nodup)
include hnodup

theorem Represents.retransmissions_run :
    (findRetransmissions p).run s = .ok (History.retransmissions env msgs p) s := by
  obtain ⟨ys, zs, hsplit⟩ := exists_split msgIdKey hp
  have hys : ∀ q ∈ ys, q < msgs.length := fun q hq =>
    lt_of_mem_positions (hsplit ▸ List.mem_append_left _ hq)
  obtain ⟨found, hrun, hlowest, hnum, htotal⟩ := findRetransmissions_run (h.inCounterList hsplit)
  obtain ⟨hframe, hfingerprint, -⟩ := h.members
  have hcopies : History.copies env msgs p = ys.filter (s.fingerprint · = s.fingerprint p) ++
      p :: zs.filter (s.fingerprint · = s.fingerprint p) := by
    rw [History.copies, hfingerprint, History.sameCounter, List.getElem?_eq_getElem hp,
      Option.elim_some, hsplit, List.filter_append, List.filter_cons_of_pos (by simp)]
  have hbefore : (History.copies env msgs p).filter (· < p) =
      ys.filter (s.fingerprint · = s.fingerprint p) := by
    rw [History.copies, hfingerprint, History.sameCounter, List.getElem?_eq_getElem hp,
      Option.elim_some, List.filter_comm, (filter_positions hsplit).1]
  have hretransOf : found.retransOfMsg =
      ((History.copies env msgs p).filter (· < p)).argmin (History.frameNum msgs) := by
    rw [hbefore, hframe]
    exact h.extremal_unique hnodup (fun _ _ => Nat.le_antisymm)
      (fun q hq => hys q (List.mem_filter.1 hq).1) hlowest (isExtremal_argmin _ _)
  rw [hrun, History.retransmissions, ← hretransOf, hbefore, hcopies, List.length_append,
    List.length_cons, ← List.countP_eq_length_filter, ← List.countP_eq_length_filter, ← hnum]
  rw [← hnum] at htotal
  cases found
  simp only at hnum htotal ⊢
  rw [htotal]
  rfl

theorem Represents.reusesMsgCntrFrom_run :
    (findReusedMessageIds p).run s = .ok (History.reusesMsgCntrFrom env msgs p) s := by
  obtain ⟨ys, zs, hsplit⟩ := exists_split msgIdKey hp
  have hys : ∀ q ∈ ys, q < msgs.length := fun q hq =>
    lt_of_mem_positions (hsplit ▸ List.mem_append_left _ hq)
  obtain ⟨reused, hrun, hlowest⟩ := findReusedMessageIds_run (h.inCounterList hsplit)
  obtain ⟨hframe, hfingerprint, -⟩ := h.members
  have hothers : (History.sameCounter msgs p).filter (fun q =>
      q < p ∧ s.fingerprint q ≠ s.fingerprint p) =
        ys.filter (s.fingerprint · ≠ s.fingerprint p) := by
    rw [History.sameCounter, List.getElem?_eq_getElem hp, Option.elim_some,
      ← (filter_positions hsplit).1, List.filter_filter]
    apply List.filter_congr
    intro q hq
    rw [Bool.decide_and, Bool.and_comm]
  rw [hrun, History.reusesMsgCntrFrom, hfingerprint, hothers, hframe]
  congr 1
  exact h.extremal_unique hnodup (fun _ _ => Nat.le_antisymm)
    (fun q hq => hys q (List.mem_filter.1 hq).1) hlowest (isExtremal_argmin _ _)

theorem Represents.ackedMsg_run (hacked : AckBound s) (m : TrackedMessage) :
    (findAckedMessages m.pinfo p m.msgInfo).run s =
      .ok (History.ackedMsg msgs p m) (Tracker.acknowledge msgs m p s) := by
  unfold Tracker.acknowledge History.ackedMsg
  by_cases htracks : m.TracksAck
  · have hlt : p < s.records.length := h.length_eq ▸ hp
    obtain ⟨ackedMsg, hrun, hhighest⟩ := findAckedMessages_ackRecords h hacked hlt htracks
    rw [if_pos htracks, if_pos htracks, hrun, h.members.1]
    congr 1
    exact h.extremal_unique hnodup (fun _ _ hle hge => Nat.le_antisymm hge hle)
      (fun q hq => lt_of_mem_positions (List.mem_filter.1 hq).1) hhighest (isExtremal_argmax _ _)
  · rw [if_neg htracks, if_neg htracks]
    exact (findAckedMessages_none p s msgs htracks).1

/-- A call for a message whose frame has the record `p` then. -/
theorem Represents.trackMessage_annotations (hacked : AckBound s) {s₁ : TrackerState}
    (hcreate : (findOrCreateMessageRecord env m).run s₁ = .ok p s) :
    (trackMessage env m).run s₁ =
      .ok (History.annotations env msgs p m) (Tracker.acknowledge msgs m p s) := by
  rw [trackMessage, bind_ok hcreate, bind_ok (h.exchangeStart_run hp),
    bind_ok (h.retransmissions_run hp hnodup), bind_ok (h.reusesMsgCntrFrom_run hp hnodup),
    bind_ok (h.ackedMsg_run hp hnodup hacked m), run_pure]
  rfl

end

/-! ## Within the history -/

/-- The retransmissions are of one of the first `n` records. -/
structure Retransmissions.Within (found : Retransmissions) (n : Nat) : Prop where
  retransOfMsg : ∀ q, found.retransOfMsg = some q → q < n ∧ 0 < found.retransNum
  retransNum_le : found.retransNum ≤ found.totalRetrans

/-- The annotations refer to the first `n` records, and an acknowledgement to a lower frame. -/
structure Annotations.Within (a : Annotations) (n : Nat) (frameNum : RecordRef → Nat) : Prop where
  msgRec : a.msgRec < n
  exchangeStartMsg : a.exchangeStartMsg < n
  retransmissions : a.retransmissions.Within n
  reusesMsgCntrFrom : ∀ q, a.reusesMsgCntrFrom = some q → q < n
  ackedMsg : ∀ q, a.ackedMsg = some q → q < n ∧ frameNum q < frameNum a.msgRec

theorem Represents.annotations_within (h : Represents env msgs s) (hp : p < msgs.length)
    (m : TrackedMessage) :
    (History.annotations env msgs p m).Within msgs.length (History.frameNum msgs) := by
  have hm := List.getElem?_eq_getElem hp
  have hcounter : ∀ q ∈ History.sameCounter msgs p, q < msgs.length := by
    intro q hq
    rw [History.sameCounter, hm] at hq
    exact lt_of_mem_positions hq
  have hcopies : ∀ q ∈ History.copies env msgs p, q < msgs.length := fun q hq =>
    hcounter q (List.mem_filter.1 hq).1
  refine ⟨hp, ?_, ⟨fun q hq => ?_, ?_⟩, fun q hq => ?_, fun q hq => ?_⟩
  · obtain ⟨ys, zs, hsplit⟩ := exists_split exchangeKey hp
    obtain ⟨start, hrun, hstart⟩ := findStartOfExchange_run (h.inExchangeList hsplit)
    rw [← (Outcome.ok.inj ((h.exchangeStart_run hp).symm.trans hrun)).1] at hstart
    have hmem : History.exchangeStart env msgs p ∈
        positions exchangeKey msgs msgs[p].exchangeKey := by
      rw [hsplit, List.append_cons]
      exact List.mem_append_left _ hstart.mem
    exact lt_of_mem_positions hmem
  · have hq : q ∈ (History.copies env msgs p).filter (· < p) := List.argmin_mem hq
    exact ⟨hcopies q (List.mem_filter.1 hq).1, List.length_pos_of_mem hq⟩
  · -- the message itself is none of its retransmissions
    have hself : p ∈ History.copies env msgs p := by
      rw [History.copies, List.mem_filter, History.sameCounter, hm]
      exact ⟨mem_positions.2 (by rw [hm]; rfl), decide_eq_true rfl⟩
    have hlt : ((History.copies env msgs p).filter (· < p)).length <
        (History.copies env msgs p).length :=
      List.length_filter_lt_length_iff_exists.2 ⟨p, hself, by simp⟩
    exact Nat.le_sub_one_of_lt hlt
  · have hq := List.argmin_mem hq
    exact hcounter q (List.mem_filter.1 hq).1
  · have hacked : History.ackedMsg msgs p m = some q := hq
    unfold History.ackedMsg at hacked
    split at hacked
    · obtain ⟨hmem, hlt⟩ := List.mem_filter.1 (List.argmax_mem hacked)
      exact ⟨lt_of_mem_positions hmem, of_decide_eq_true hlt⟩
    · cases hacked

end

end Matter.Tracker
