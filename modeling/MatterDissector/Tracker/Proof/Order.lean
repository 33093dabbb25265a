import MatterDissector.Tracker.Proof.Queries

/-!
# The order of recording

`FindRetransmissions` and `FindReusedMessageIds` take what was recorded earlier for what was sent
earlier. `AnnotatedByFrame` says what they should report, in terms of frame numbers. They report it
for all messages with a counter exactly if the list is in frame order as far as it matters
(`InFrameOrder`, `annotatedByFrame_iff`). A retransmission that is decrypted before the original
breaks it (`annotatedByFrame_lateKey`).
-/

namespace Matter.Tracker

open Prog Message Intrusive Extremum

/-! ## By frame numbers -/

/-- The annotations of the record `p` are those of its frame among the frames of `xs`. -/
structure AnnotatedByFrame (s : TrackerState) (xs : List RecordRef) (p : RecordRef) : Prop where
  retransmissions : ∃ found, (findRetransmissions p).run s = .ok found s ∧
    IsExtremal (· ≤ ·) s.frameNum
      (xs.filter fun q => s.fingerprint q = s.fingerprint p ∧ s.frameNum q < s.frameNum p)
      found.retransOfMsg ∧
    found.retransNum =
      xs.countP (fun q => s.fingerprint q = s.fingerprint p ∧ s.frameNum q < s.frameNum p) ∧
    found.totalRetrans =
      xs.countP (fun q => s.fingerprint q = s.fingerprint p ∧ s.frameNum q ≠ s.frameNum p)
  reuses : ∃ reused, (findReusedMessageIds p).run s = .ok reused s ∧
    IsExtremal (· ≤ ·) s.frameNum
      (xs.filter fun q => s.fingerprint q ≠ s.fingerprint p ∧ s.frameNum q < s.frameNum p) reused

/-- Messages with one fingerprint are recorded in the order of their frames. Of those with another
fingerprint than `p` the one with the lowest frame is recorded before `p` if it is the earlier one,
and none is if it is the later one. -/
structure InFrameOrder (s : TrackerState) (xs : List RecordRef) : Prop where
  retransmissions : xs.Pairwise fun p q =>
    s.fingerprint p = s.fingerprint q → s.frameNum p < s.frameNum q
  reuses : ∀ ys p zs, xs = ys ++ p :: zs →
    ∀ q, IsExtremal (· ≤ ·) s.frameNum (xs.filter (s.fingerprint · ≠ s.fingerprint p)) (some q) →
      if s.frameNum q < s.frameNum p then q ∈ ys
      else ∀ y ∈ ys, s.fingerprint y = s.fingerprint p

section
variable {s : TrackerState} {p q : RecordRef} {xs ys zs : List RecordRef}

theorem pairwise_of_split {R : RecordRef → RecordRef → Prop}
    (h : ∀ ys p zs, xs = ys ++ p :: zs → ∀ q ∈ zs, R p q) : xs.Pairwise R := by
  induction xs with
  | nil => exact .nil
  | cons p xs ih =>
    refine .cons (h [] p xs rfl) (ih fun ys q zs hxs => h (p :: ys) q zs ?_)
    rw [hxs]
    rfl

/-! ## Retransmissions -/

/-- The earlier and the later records, if those of one fingerprint are in order. -/
theorem InFrameOrder.sameFingerprint (h : InFrameOrder s xs) (hxs : xs = ys ++ p :: zs) :
    (∀ y ∈ ys, s.fingerprint y = s.fingerprint p → s.frameNum y < s.frameNum p) ∧
      ∀ z ∈ zs, s.fingerprint z = s.fingerprint p → s.frameNum p < s.frameNum z := by
  have hpairwise := h.retransmissions
  rw [hxs, List.pairwise_append] at hpairwise
  obtain ⟨-, htail, hcross⟩ := hpairwise
  exact ⟨fun y hy => hcross y hy p List.mem_cons_self,
    fun z hz hsame => (List.pairwise_cons.1 htail).1 z hz hsame.symm⟩

/-- If as many records are in front of each one as have lower frames, they are in order. -/
theorem pairwise_of_counts
    (h : ∀ ys p zs, xs = ys ++ p :: zs → ys.countP (s.fingerprint · = s.fingerprint p) =
      xs.countP fun q => s.fingerprint q = s.fingerprint p ∧ s.frameNum q < s.frameNum p) :
    xs.Pairwise fun p q => s.fingerprint p = s.fingerprint q → s.frameNum p < s.frameNum q := by
  refine pairwise_of_split fun ys p zs hxs q hq hsame => ?_
  obtain ⟨us, vs, rfl⟩ := List.append_of_mem hq
  have hp := h ys p (us ++ q :: vs) hxs
  have hq := h (ys ++ p :: us) q vs (by rw [hxs]; simp)
  rw [← hsame] at hq
  -- `p` itself is in front of `q`, so more records have lower frames than `q`
  have hmore : ys.countP (s.fingerprint · = s.fingerprint p) <
      (ys ++ p :: us).countP (s.fingerprint · = s.fingerprint p) := by
    rw [List.countP_append, List.countP_cons_of_pos (by simp)]
    omega
  by_contra hle
  have hfewer : xs.countP (fun x => s.fingerprint x = s.fingerprint p ∧ s.frameNum x < s.frameNum q)
      ≤ xs.countP fun x => s.fingerprint x = s.fingerprint p ∧ s.frameNum x < s.frameNum p := by
    refine List.countP_mono_left fun x _ hx => ?_
    simp only [decide_eq_true_eq] at hx ⊢
    exact ⟨hx.1, by omega⟩
  omega

section
variable (hinj : ∀ p ∈ xs, ∀ q ∈ xs, s.frameNum p = s.frameNum q → p = q)
include hinj

/-- All other records with the fingerprint, in front of `p` and behind it. -/
theorem count_others (hnodup : xs.Nodup) (hxs : xs = ys ++ p :: zs) :
    xs.countP (fun q => s.fingerprint q = s.fingerprint p ∧ s.frameNum q ≠ s.frameNum p) =
      ys.countP (s.fingerprint · = s.fingerprint p) +
        zs.countP (s.fingerprint · = s.fingerprint p) := by
  have hne : ∀ q ∈ ys ++ zs, s.frameNum q ≠ s.frameNum p := fun q hq hframe => by
    have hqxs : q ∈ xs := by rw [hxs]; simp at hq ⊢; tauto
    have hqp := hinj q hqxs p (by rw [hxs]; simp) hframe
    rw [hxs] at hnodup
    exact (List.nodup_middle.1 hnodup).notMem (hqp ▸ hq)
  have hcount : ∀ us : List RecordRef, (∀ q ∈ us, q ∈ ys ++ zs) →
      us.countP (fun q => s.fingerprint q = s.fingerprint p ∧ s.frameNum q ≠ s.frameNum p) =
        us.countP (s.fingerprint · = s.fingerprint p) := fun us hus => by
    refine List.countP_congr fun q hq => ?_
    simp [hne q (hus q hq)]
  conv_lhs => rw [hxs]
  rw [List.countP_append, List.countP_cons_of_neg (by simp), hcount ys (by simp +contextual),
    hcount zs (by simp +contextual)]

/-! ## Reuse of the counter -/

/-- The lowest frame with another fingerprint, if it is reported. -/
theorem reuses_of_reported {reused : Option RecordRef} (hxs : xs = ys ++ p :: zs)
    (hlist : IsExtremal (· ≤ ·) s.frameNum (ys.filter (s.fingerprint · ≠ s.fingerprint p)) reused)
    (hframe : IsExtremal (· ≤ ·) s.frameNum
      (xs.filter fun q => s.fingerprint q ≠ s.fingerprint p ∧ s.frameNum q < s.frameNum p) reused)
    (hq : IsExtremal (· ≤ ·) s.frameNum (xs.filter (s.fingerprint · ≠ s.fingerprint p)) (some q)) :
    if s.frameNum q < s.frameNum p then q ∈ ys
    else ∀ y ∈ ys, s.fingerprint y = s.fingerprint p := by
  obtain ⟨hqmem, hlowest⟩ := hq
  have hqmem := List.mem_filter.1 hqmem
  split
  · rename_i hlt
    have hqin : q ∈ xs.filter fun q =>
        s.fingerprint q ≠ s.fingerprint p ∧ s.frameNum q < s.frameNum p :=
      List.mem_filter.2 ⟨hqmem.1, by simpa [hlt] using hqmem.2⟩
    cases reused with
    | none => exact absurd hqin (by rw [show List.filter _ _ = [] from hframe]; simp)
    | some v =>
      -- both are the lowest one
      have hv := List.mem_filter.1 hlist.mem
      have hvxs : v ∈ xs := by rw [hxs]; exact List.mem_append_left _ hv.1
      have hvq := hframe.2 q hqin
      have hqv := hlowest v (List.mem_filter.2 ⟨hvxs, hv.2⟩)
      rw [hinj q hqmem.1 v hvxs (Nat.le_antisymm hqv hvq)]
      exact hv.1
  · rename_i hle
    intro y hy
    by_contra hother
    have hnone : reused = none := by
      cases reused with
      | none => rfl
      | some v =>
        have hv := List.mem_filter.1 hframe.mem
        have hv' := of_decide_eq_true hv.2
        have := hlowest v (List.mem_filter.2 ⟨hv.1, by simpa using hv'.1⟩)
        omega
    subst hnone
    have hyin : y ∈ ys.filter (s.fingerprint · ≠ s.fingerprint p) :=
      List.mem_filter.2 ⟨hy, by simpa using hother⟩
    exact absurd hyin (by rw [show List.filter _ _ = [] from hlist]; simp)

end

/-- What is reported for `p`, if the lowest frame with another fingerprint is where it should be. -/
theorem InFrameOrder.reported (h : InFrameOrder s xs) {reused : Option RecordRef}
    (hxs : xs = ys ++ p :: zs)
    (hlist : IsExtremal (· ≤ ·) s.frameNum (ys.filter (s.fingerprint · ≠ s.fingerprint p)) reused) :
    IsExtremal (· ≤ ·) s.frameNum
      (xs.filter fun q => s.fingerprint q ≠ s.fingerprint p ∧ s.frameNum q < s.frameNum p)
      reused := by
  obtain ⟨best, hbest⟩ := exists_isExtremal Nat.le_total (fun _ _ _ => Nat.le_trans) s.frameNum
    (xs.filter (s.fingerprint · ≠ s.fingerprint p))
  have hothers : ∀ q ∈ xs.filter fun q =>
      s.fingerprint q ≠ s.fingerprint p ∧ s.frameNum q < s.frameNum p,
      q ∈ xs.filter (s.fingerprint · ≠ s.fingerprint p) ∧ s.frameNum q < s.frameNum p :=
    fun q hq => by
      obtain ⟨hq, hcond⟩ := List.mem_filter.1 hq
      have hcond := of_decide_eq_true hcond
      exact ⟨List.mem_filter.2 ⟨hq, by simpa using hcond.1⟩, hcond.2⟩
  have hys : ∀ y ∈ ys.filter (s.fingerprint · ≠ s.fingerprint p),
      y ∈ xs.filter (s.fingerprint · ≠ s.fingerprint p) := fun y hy => by
    obtain ⟨hy, hother⟩ := List.mem_filter.1 hy
    exact List.mem_filter.2 ⟨by rw [hxs]; exact List.mem_append_left _ hy, hother⟩
  cases best with
  | none =>
    -- no record of the list has another fingerprint
    rw [show List.filter _ _ = [] from hbest] at hothers hys
    cases reused with
    | none => exact List.eq_nil_iff_forall_not_mem.2 fun q hq => by simpa using (hothers q hq).1
    | some v => exact absurd (hys v hlist.mem) List.not_mem_nil
  | some q =>
    have hplace := h.reuses ys p zs hxs q hbest
    have hq := List.mem_filter.1 hbest.mem
    split at hplace
    · rename_i hlt
      have hqys : q ∈ ys.filter (s.fingerprint · ≠ s.fingerprint p) :=
        List.mem_filter.2 ⟨hplace, hq.2⟩
      cases reused with
      | none => exact absurd hqys (by rw [show List.filter _ _ = [] from hlist]; simp)
      | some v =>
        have hvq := hlist.2 q hqys
        have hv := List.mem_filter.1 (hys v hlist.mem)
        refine ⟨List.mem_filter.2 ⟨hv.1, ?_⟩, fun b hb => ?_⟩
        · have hother : s.fingerprint v ≠ s.fingerprint p := by simpa using hv.2
          exact decide_eq_true ⟨hother, Nat.lt_of_le_of_lt hvq hlt⟩
        · exact Nat.le_trans hvq (hbest.2 b (hothers b hb).1)
    · rename_i hle
      cases reused with
      | none =>
        refine List.eq_nil_iff_forall_not_mem.2 fun b hb => ?_
        have := hbest.2 b (hothers b hb).1
        have := (hothers b hb).2
        omega
      | some v =>
        have hv := List.mem_filter.1 hlist.mem
        exact absurd (hplace v hv.1) (by simpa using hv.2)

/-! ## All messages with one counter -/

/-- Where the list is in order, the records with the fingerprint and a lower frame are those in
front. -/
theorem InFrameOrder.earlier (h : InFrameOrder s xs) (hxs : xs = ys ++ p :: zs) :
    xs.filter (fun q => s.fingerprint q = s.fingerprint p ∧ s.frameNum q < s.frameNum p) =
      ys.filter (s.fingerprint · = s.fingerprint p) := by
  obtain ⟨hys, hzs⟩ := h.sameFingerprint hxs
  have hfront : ys.filter (fun q =>
      s.fingerprint q = s.fingerprint p ∧ s.frameNum q < s.frameNum p) =
      ys.filter (s.fingerprint · = s.fingerprint p) := by
    refine List.filter_congr fun y hy => ?_
    rw [decide_eq_decide]
    exact ⟨And.left, fun hsame => ⟨hsame, hys y hy hsame⟩⟩
  have hbehind : zs.filter (fun q =>
      s.fingerprint q = s.fingerprint p ∧ s.frameNum q < s.frameNum p) = [] := by
    refine List.filter_eq_nil_iff.2 fun z hz hcond => ?_
    obtain ⟨hsame, hlt⟩ := of_decide_eq_true hcond
    have := hzs z hz hsame
    omega
  conv_lhs => rw [hxs]
  rw [List.filter_append, List.filter_cons_of_neg (by simp), hfront, hbehind, List.append_nil]

variable (hin : ∀ ys p zs, xs = ys ++ p :: zs → InList byMsgCntr s ys p zs)
  (hinj : ∀ p ∈ xs, ∀ q ∈ xs, s.frameNum p = s.frameNum q → p = q) (hnodup : xs.Nodup)
include hin hinj

theorem inFrameOrder_of_annotated (h : ∀ p ∈ xs, AnnotatedByFrame s xs p) : InFrameOrder s xs where
  retransmissions := by
    refine pairwise_of_counts fun ys p zs hxs => ?_
    obtain ⟨found, hrun, -, hnum, -⟩ := (h p (by rw [hxs]; simp)).retransmissions
    obtain ⟨found', hrun', -, hnum', -⟩ := findRetransmissions_run (hin ys p zs hxs)
    rw [hrun] at hrun'
    cases hrun'
    rw [← hnum', hnum]
  reuses ys p zs hxs q hq := by
    obtain ⟨reused, hrun, hframe⟩ := (h p (by rw [hxs]; simp)).reuses
    obtain ⟨reused', hrun', hlist⟩ := findReusedMessageIds_run (hin ys p zs hxs)
    rw [hrun] at hrun'
    cases hrun'
    exact reuses_of_reported hinj hxs hlist hframe hq

include hnodup

theorem InFrameOrder.annotated (h : InFrameOrder s xs) (hp : p ∈ xs) : AnnotatedByFrame s xs p := by
  obtain ⟨ys, zs, hxs⟩ := List.append_of_mem hp
  constructor
  · obtain ⟨found, hrun, hlowest, hnum, htotal⟩ := findRetransmissions_run (hin ys p zs hxs)
    refine ⟨found, hrun, ?_, ?_, ?_⟩
    · rw [h.earlier hxs]
      exact hlowest
    · rw [List.countP_eq_length_filter, h.earlier hxs, hnum, List.countP_eq_length_filter]
    · rw [htotal, count_others hinj hnodup hxs]
  · obtain ⟨reused, hrun, hlowest⟩ := findReusedMessageIds_run (hin ys p zs hxs)
    exact ⟨reused, hrun, h.reported hxs hlowest⟩

end

theorem Represents.annotated_iff {env : TrackerEnv} {msgs : List TrackedMessage}
    {s : TrackerState} (h : Represents env msgs s)
    (hnodup : (msgs.map TrackedMessage.frameNum).Nodup) (key : MessageIdKey) :
    (∀ p ∈ s.counterList key, AnnotatedByFrame s (s.counterList key) p) ↔
      InFrameOrder s (s.counterList key) := by
  have hlt : ∀ p ∈ s.counterList key, p < msgs.length := fun p hp =>
    lt_of_mem_positions (h.counterList_eq key ▸ hp)
  have hin : ∀ ys p zs, s.counterList key = ys ++ p :: zs → InList Tracker.byMsgCntr s ys p zs :=
    fun ys p zs hsplit => h.inCounterList (h.counterList_eq key ▸ hsplit)
  have hinj : ∀ p ∈ s.counterList key, ∀ q ∈ s.counterList key,
      s.frameNum p = s.frameNum q → p = q := fun p hp q hq =>
    h.frameNum_inj hnodup (hlt p hp) (hlt q hq)
  have hlist : (s.counterList key).Nodup := h.counterList_eq key ▸ nodup_positions
  exact ⟨inFrameOrder_of_annotated hin hinj, fun horder p hp =>
    horder.annotated hin hinj hlist hp⟩

/-- The annotations of the messages with a counter go by frames exactly if their records are in
frame order where it matters. -/
theorem annotatedByFrame_iff (env : TrackerEnv) (run : List TrackedMessage) :
    ∃ results s, (findOrCreateAll env run).run .empty = .ok results s ∧
      ∀ key, (∀ p ∈ s.counterList key, AnnotatedByFrame s (s.counterList key) p) ↔
        InFrameOrder s (s.counterList key) := by
  obtain ⟨s, hrun, hs⟩ := findOrCreateAll_run env run
  exact ⟨_, s, hrun, hs.annotated_iff (nodup_recorded run)⟩

/-- One message of session 1, in any frame. -/
def sameMessage (num : Nat) : TrackedMessage :=
  shortMessage .udp num { shortHeader with sessionId := 1, msgId := 5 }

/-- A message and its retransmission, the later frame first. -/
def lateKey : List TrackedMessage := [sameMessage 2, sameMessage 1]

/-- The original passes for the retransmission. -/
theorem annotatedByFrame_lateKey : ¬ ∀ (env : TrackerEnv) (run : List TrackedMessage),
    ∃ results s, (findOrCreateAll env run).run .empty = .ok results s ∧
      ∀ key, ∀ p ∈ s.counterList key, AnnotatedByFrame s (s.counterList key) p := by
  intro h
  obtain ⟨results, s, hrun, hall⟩ := h crc32Ccitt lateKey
  obtain ⟨s', hrun', hs⟩ := findOrCreateAll_run crc32Ccitt lateKey
  rw [hrun'] at hrun
  cases hrun
  rw [show recorded lateKey = lateKey from rfl] at hs
  have hlist : s.counterList (.unencryptedUDP, [0, 0, 5]) = [0, 1] := by
    rw [hs.counterList_eq]
    decide
  have hnodup : (lateKey.map TrackedMessage.frameNum).Nodup := by decide
  have horder := (hs.annotated_iff hnodup _).1 (hall (.unencryptedUDP, [0, 0, 5]))
  rw [hlist] at horder
  obtain ⟨hframe, hfingerprint, -⟩ := hs.fields (p := 0) (m := sameMessage 2) rfl
  obtain ⟨hframe', hfingerprint', -⟩ := hs.fields (p := 1) (m := sameMessage 1) rfl
  have hsame : s.fingerprint 0 = s.fingerprint 1 := by
    rw [hfingerprint, hfingerprint']
    exact TrackedMessage.fingerprint_congr rfl rfl
  have hlt := (List.pairwise_cons.1 horder.retransmissions).1 1 (.head _) hsame
  rw [hframe, hframe'] at hlt
  exact absurd hlt (by decide)

end Matter.Tracker
