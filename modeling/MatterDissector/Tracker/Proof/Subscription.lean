import MatterDissector.IM.Proof.Success
import MatterDissector.Tracker.Proof.Acks
import MatterDissector.Tracker.Subscription

/-!
# Subscriptions

`AssociateWithIMSubscription` gives a record the nearest subscription of its exchange, first among
the records in front of it, then among those behind (`associateWithIMSubscription_run`). But it
copies what a record already has, and no dissector ever gives one a subscription: neither the
dissector of the subscribe response nor that of the report data does anything with the id but show
it. So in every state that a run reaches no record has one (`dissectAll_unsubscribed`), and the
subscriptions are tracked exactly in the runs without any that could be
(`subscriptionsTracked_iff`).
-/

namespace Matter.Tracker

open Prog Message Intrusive TLV IM

/-- The subscription of the record at an address. -/
def TrackerState.imSubscription (s : TrackerState) (p : RecordRef) : Nat :=
  (s.records[p]?.map MatterMessageRecord.imSubscription).getD 0

/-- The state in which the record `p` has the subscription `id`. -/
def TrackerState.subscribe (s : TrackerState) (p : RecordRef) (id : Nat) : TrackerState :=
  { s with records := s.records.modify p fun r => { r with imSubscription := id } }

/-- The first subscription among the records `xs`. -/
def TrackerState.nearest (s : TrackerState) (xs : List RecordRef) : Nat :=
  ((xs.map s.imSubscription).find? (· ≠ 0)).getD 0

section
variable {env : TrackerEnv} {msgs : List TrackedMessage} {m : TrackedMessage}
  {s s' : TrackerState} {p q : RecordRef} {xs ys zs : List RecordRef}

theorem nearest_cons : s.nearest (p :: xs) =
    if s.imSubscription p = 0 then s.nearest xs else s.imSubscription p := by
  unfold TrackerState.nearest
  by_cases hp : s.imSubscription p = 0 <;> simp [hp]

theorem nearest_append : s.nearest (xs ++ ys) =
    if s.nearest xs = 0 then s.nearest ys else s.nearest xs := by
  induction xs with
  | nil => rfl
  | cons p xs ih =>
    rw [List.cons_append, nearest_cons, nearest_cons, ih]
    by_cases hp : s.imSubscription p = 0
    · simp [hp]
    · simp [hp]

theorem load_imSubscription (hp : p < s.records.length) :
    ∃ r, (load p).run s = .ok r s ∧ s.records[p]? = some r ∧
      r.imSubscription = s.imSubscription p := by
  obtain ⟨r, hr, hload⟩ := exists_load hp
  refine ⟨r, hload, hr, ?_⟩
  rw [TrackerState.imSubscription, hr]
  rfl

theorem subscribe_self (hp : p < s.records.length) (hid : s.imSubscription p = q) :
    s.subscribe p q = s := by
  obtain ⟨r, -, hr, hr'⟩ := load_imSubscription hp
  have hsame : (s.records.modify p fun r => { r with imSubscription := q }) =
      s.records.modify p id := modify_congr fun r' hr'' => by
    cases hr.symm.trans hr''
    rw [← hid, ← hr']
    rfl
  rw [TrackerState.subscribe, hsame, List.modify_id]

theorem imSubscription_subscribe (hp : p < s.records.length) :
    (s.subscribe p q).imSubscription p = q := by
  rw [TrackerState.imSubscription, TrackerState.subscribe, List.getElem?_modify,
    List.getElem?_eq_getElem hp]
  simp

/-! ## The nearest subscription -/

theorem associateRound_run {next : MatterMessageRecord → Option RecordRef}
    (hq : q < s.records.length) : (associateRound next p (some q)).run s =
      if s.imSubscription q = 0 then .ok (.inl (s.link next q)) s
      else .ok (.inr ()) (s.subscribe p (s.imSubscription q)) := by
  obtain ⟨r, hload, hr, hsub⟩ := load_imSubscription hq
  rw [associateRound, bind_ok hload, hsub, link_eq hr]
  by_cases hzero : s.imSubscription q = 0
  · simp [hzero]
  · simp only [hzero, ne_eq, not_false_eq_true, if_true, if_false]
    rfl

theorem associateFrom_loop {next : MatterMessageRecord → Option RecordRef}
    {first : Option RecordRef} {fuel : Nat} (hpath : Path (s.link next) first xs)
    (hbound : ∀ q ∈ xs, q < s.records.length) (hfuel : xs.length < fuel) :
    (loop .outOfFuel (associateRound next p) fuel first).run s =
      .ok () (if s.nearest xs = 0 then s else s.subscribe p (s.nearest xs)) := by
  induction xs generalizing first fuel with
  | nil =>
    obtain ⟨fuel, rfl⟩ := Nat.exists_eq_succ_of_ne_zero (Nat.ne_of_gt (Nat.zero_lt_of_lt hfuel))
    rw [show first = none from hpath]
    rfl
  | cons q xs ih =>
    obtain ⟨fuel, rfl⟩ := Nat.exists_eq_succ_of_ne_zero (Nat.ne_of_gt (Nat.zero_lt_of_lt hfuel))
    obtain ⟨rfl, hpath⟩ := hpath
    have hround : (associateRound next p (some q)).run s = _ :=
      associateRound_run (hbound q List.mem_cons_self)
    rw [loop_succ, nearest_cons]
    by_cases hzero : s.imSubscription q = 0
    · rw [if_pos hzero] at hround
      rw [bind_ok hround, if_pos hzero]
      exact ih hpath (fun q' hq' => hbound q' (List.mem_cons_of_mem q hq')) (by simpa using hfuel)
    · rw [if_neg hzero] at hround
      rw [bind_ok hround, if_neg hzero, if_neg hzero]
      rfl

/-- A loop finds the first subscription on its way. -/
theorem associateFrom_run {next : MatterMessageRecord → Option RecordRef}
    {first : Option RecordRef} (hpath : Path (s.link next) first xs)
    (hbound : ∀ q ∈ xs, q < s.records.length) (hnodup : xs.Nodup) :
    (associateFrom next p first).run s =
      .ok () (if s.nearest xs = 0 then s else s.subscribe p (s.nearest xs)) := by
  rw [associateFrom, run_whileLoop]
  exact associateFrom_loop hpath hbound (Nat.lt_succ_of_le (length_le_of_bound hbound hnodup))

/-- The record takes the first subscription of its own and of those on the way. -/
theorem associateIfUnset_run {next first : MatterMessageRecord → Option RecordRef}
    (hp : p < s.records.length)
    (hpath : ∀ r, s.records[p]? = some r → Path (s.link next) (first r) xs)
    (hbound : ∀ q ∈ xs, q < s.records.length) (hnodup : xs.Nodup) :
    (associateIfUnset next first p).run s = .ok () (s.subscribe p (s.nearest (p :: xs))) := by
  obtain ⟨r, hload, hr, hsub⟩ := load_imSubscription hp
  rw [associateIfUnset, bind_ok hload, hsub, nearest_cons]
  by_cases hown : s.imSubscription p = 0
  · rw [if_pos hown, if_pos hown, associateFrom_run (hpath r hr) hbound hnodup]
    by_cases hnone : s.nearest xs = 0
    · rw [if_pos hnone, hnone, subscribe_self hp hown]
    · rw [if_neg hnone]
  · rw [if_neg hown, if_neg hown, subscribe_self hp rfl]
    rfl

theorem link_subscribe {field : MatterMessageRecord → Option RecordRef}
    (hfield : ∀ r v, field { r with imSubscription := v } = field r) (id : Nat) :
    (s.subscribe p id).link field = s.link field :=
  link_of_map_eq (map_modify_of_keeps (fun r => hfield r id) p)

theorem nearest_subscribe (hp : p < s.records.length) (hxs : p ∉ xs) (id : Nat) :
    (s.subscribe p id).nearest (p :: xs) = if id = 0 then s.nearest xs else id := by
  have hothers : xs.map (s.subscribe p id).imSubscription = xs.map s.imSubscription := by
    refine List.map_congr_left fun q hq => ?_
    have hne : p ≠ q := fun heq => hxs (heq ▸ hq)
    rw [TrackerState.imSubscription, TrackerState.subscribe, List.getElem?_modify]
    simp [TrackerState.imSubscription, hne]
  rw [nearest_cons, imSubscription_subscribe hp, TrackerState.nearest, hothers]
  rfl

/-- `AssociateWithIMSubscription` of the record `p`, behind `ys` and in front of `zs` in its
exchange. -/
theorem associateWithIMSubscription_run (h : InList byExchange s ys p zs) :
    (associateWithIMSubscription p).run s = .ok (s.nearest (p :: ys.reverse ++ zs))
      (s.subscribe p (s.nearest (p :: ys.reverse ++ zs))) := by
  obtain ⟨hp, hys, hzs, hynodup, hznodup⟩ := h.split
  have hback : (associateIfUnset byExchange.prev (fun _ => some p) p).run s =
      .ok () (s.subscribe p (s.nearest (p :: ys.reverse))) := by
    have hpath : ∀ r, s.records[p]? = some r →
        Path (s.link byExchange.prev) (some p) (p :: ys.reverse) := fun r hr =>
      ⟨rfl, by rw [link_eq hr]; exact h.path_prev hr⟩
    have hbound : ∀ q ∈ p :: ys.reverse, q < s.records.length := by
      simpa [hp] using hys
    have hfront : p ∉ ys.reverse := fun hmem =>
      (List.nodup_append.1 h.linked.nodup).2.2 p (List.mem_reverse.1 hmem) p List.mem_cons_self rfl
    rw [associateIfUnset_run hp hpath hbound (List.nodup_cons.2 ⟨hfront, hynodup⟩), nearest_cons]
    by_cases hown : s.imSubscription p = 0
    · rw [if_pos hown]
    · rw [if_neg hown, nearest_cons, if_neg hown]
  -- the records behind, once the record has what is in front of it
  generalize hid : s.nearest (p :: ys.reverse) = id at hback
  have hlen : (s.subscribe p id).records.length = s.records.length := List.length_modify ..
  have hp' : p < (s.subscribe p id).records.length := hlen ▸ hp
  have hbehind : p ∉ zs := (List.nodup_cons.1 (List.nodup_append.1 h.linked.nodup).2.1).1
  have hforth : (associateIfUnset byExchange.next (·.nextByExchange) p).run (s.subscribe p id) =
      .ok () ((s.subscribe p id).subscribe p (if id = 0 then s.nearest zs else id)) := by
    have hlink : (s.subscribe p id).link byExchange.next = s.link byExchange.next :=
      link_subscribe (fun _ _ => rfl) id
    have hpath : ∀ r, (s.subscribe p id).records[p]? = some r →
        Path ((s.subscribe p id).link byExchange.next) r.nextByExchange zs := fun r hr => by
      have hnext : s.link byExchange.next p = r.nextByExchange := by
        rw [← hlink]
        exact link_eq hr
      rw [hlink, ← hnext]
      exact h.linked.path_next rfl
    rw [associateIfUnset_run hp' hpath (fun q hq => hlen ▸ hzs q hq) hznodup,
      nearest_subscribe hp hbehind]
  have hboth : (s.subscribe p id).subscribe p (if id = 0 then s.nearest zs else id) =
      s.subscribe p (s.nearest (p :: ys.reverse ++ zs)) := by
    rw [nearest_append, hid, TrackerState.subscribe, TrackerState.subscribe, List.modify_modify_eq]
    rfl
  have hp'' : p < (s.subscribe p (s.nearest (p :: ys.reverse ++ zs))).records.length := by
    simpa [TrackerState.subscribe] using hp
  obtain ⟨r, hload, -, hsub⟩ := load_imSubscription hp''
  rw [imSubscription_subscribe hp] at hsub
  rw [associateWithIMSubscription, bind_ok hback, bind_ok hforth, hboth, bind_ok hload, hsub,
    run_pure]

/-! ## Nothing gives a record a subscription -/

/-- The tracker knows `msgs`, and no record has a subscription. -/
structure Unsubscribed (env : TrackerEnv) (msgs : List TrackedMessage) (s : TrackerState) :
    Prop where
  represents : Represents env msgs s
  ackBound : AckBound s
  imSubscription_eq : ∀ id ∈ s.records.map MatterMessageRecord.imSubscription, id = 0

theorem Unsubscribed.empty (env : TrackerEnv) : Unsubscribed env [] .empty where
  represents := .empty env
  ackBound r hr := by cases hr
  imSubscription_eq id hid := by cases hid

theorem Unsubscribed.eq_zero (h : Unsubscribed env msgs s) (p : RecordRef) :
    s.imSubscription p = 0 := by
  unfold TrackerState.imSubscription
  cases hr : s.records[p]? with
  | none => rfl
  | some r => exact h.imSubscription_eq _ (List.mem_map_of_mem (List.mem_of_getElem? hr))

theorem Unsubscribed.nearest (h : Unsubscribed env msgs s) (xs : List RecordRef) :
    s.nearest xs = 0 := by
  induction xs with
  | nil => rfl
  | cons p xs ih => rw [nearest_cons, h.eq_zero p, if_pos rfl, ih]

/-- A new record has no subscription. -/
theorem imSubscription_recordState (env : TrackerEnv) (msgs : List TrackedMessage)
    (m : TrackedMessage) (s : TrackerState) :
    (recordState env msgs m s).records.map MatterMessageRecord.imSubscription =
      s.records.map MatterMessageRecord.imSubscription ++ [0] :=
  map_linkedRecords ⟨fun _ _ => rfl, fun _ _ => rfl⟩ ⟨fun _ _ => rfl, fun _ _ => rfl⟩

theorem Unsubscribed.record (h : Unsubscribed env msgs s) (m : TrackedMessage) :
    Unsubscribed env (recordMessage msgs m) (afterMessage env msgs m s) where
  represents := h.represents.afterMessage m
  ackBound := by
    unfold afterMessage
    split
    · intro r hr a ha
      have hacked : r.ackedByMsgRec ∈
          s.records.map MatterMessageRecord.ackedByMsgRec ++ [none] := by
        rw [← ackedBy_recordState env msgs m]
        exact List.mem_map_of_mem hr
      have hlen : s.records.length ≤ (recordState env msgs m s).records.length := by
        have := congrArg List.length (ackedBy_recordState env msgs m s)
        simp at this
        omega
      rw [ha] at hacked
      obtain ⟨r', hr', ha'⟩ := List.mem_map.1 (by simpa using hacked)
      exact Nat.lt_of_lt_of_le (h.ackBound r' hr' a ha') hlen
    · exact h.ackBound
  imSubscription_eq id hid := by
    unfold afterMessage at hid
    split at hid
    · rw [imSubscription_recordState, List.mem_append, List.mem_singleton] at hid
      exact hid.elim (h.imSubscription_eq id) fun hid => hid
    · exact h.imSubscription_eq id hid

theorem Unsubscribed.ackRecords (h : Unsubscribed env msgs s) (hp : p < s.records.length)
    (xs : List RecordRef) :
    Unsubscribed env msgs { s with records := ackRecords s.frameNum p xs s.records } where
  represents := h.represents.ackRecords p xs
  ackBound := h.ackBound.ackRecords hp xs
  imSubscription_eq := by
    rw [map_ackRecords (fun _ _ => rfl)]
    exact h.imSubscription_eq

theorem Unsubscribed.findAckedMessages (h : Unsubscribed env msgs s)
    (hp : p < s.records.length) (m : TrackedMessage) :
    ∃ ackedMsg s', (findAckedMessages m.pinfo p m.msgInfo).run s = .ok ackedMsg s' ∧
      Unsubscribed env msgs s' := by
  by_cases htracks : m.TracksAck
  · obtain ⟨ackedMsg, hrun, -⟩ :=
      findAckedMessages_ackRecords h.represents h.ackBound hp htracks
    exact ⟨ackedMsg, _, hrun, h.ackRecords hp _⟩
  · obtain ⟨hrun, -⟩ := findAckedMessages_none p s msgs htracks
    exact ⟨none, s, hrun, h⟩

/-- The calls of the tracker for a message: they find the record of its frame, or there is none. -/
theorem Unsubscribed.track (h : Unsubscribed env msgs s) (m : TrackedMessage) :
    (∃ annotations s', (trackMessage env m).run s = .ok annotations s' ∧
      Unsubscribed env (recordMessage msgs m) s' ∧
      placeOf (recordMessage msgs m) m.frameNum = some annotations.msgRec) ∨
    ((trackMessage env m).run s = .err .outOfRange (afterMessage env msgs m s) ∧
      placeOf (recordMessage msgs m) m.frameNum = none) := by
  have hcreate := findOrCreate_run h.represents m
  have hs := h.record m
  unfold resultOf at hcreate
  cases hplace : placeOf (recordMessage msgs m) m.frameNum with
  | none =>
    rw [hplace] at hcreate
    obtain ⟨a, ha, -⟩ | ⟨e, he, hrun⟩ := attempt_eq_ok.1 hcreate
    · cases ha
    · cases he
      exact .inr ⟨by rw [trackMessage, bind_err hrun], rfl⟩
  | some p =>
    rw [hplace] at hcreate
    obtain ⟨a, ha, hrun⟩ | ⟨e, he, -⟩ := attempt_eq_ok.1 hcreate
    · cases ha
      -- the record may be that of another message of the frame
      obtain ⟨m', hm', -⟩ := placeOf_spec hplace
      have hp : p < (afterMessage env msgs m s).records.length :=
        hs.represents.length_eq ▸ (List.getElem?_eq_some_iff.1 hm').1
      obtain ⟨start, hstart, -⟩ := hs.represents.start ((hs.represents.mem_exchangeList hm').2 rfl)
      obtain ⟨⟨found, hfound, -⟩, reused, hreused, -⟩ := hs.represents.reported hm'
      obtain ⟨ackedMsg, s', hacked, hs'⟩ := hs.findAckedMessages hp m
      refine .inl ⟨⟨p, start, found, reused, ackedMsg⟩, s', ?_, hs', rfl⟩
      rw [trackMessage, bind_ok hrun, bind_ok hstart, bind_ok hfound, bind_ok hreused,
        bind_ok hacked, run_pure]
    · cases he

/-! ## Payloads -/

/-- Where no record has a subscription, none is found. -/
theorem Unsubscribed.associate (h : Unsubscribed env msgs s) (hm : msgs[p]? = some m) :
    (associateWithIMSubscription p).run s = .ok 0 s := by
  obtain ⟨ys, zs, hsplit⟩ := List.append_of_mem ((h.represents.mem_exchangeList hm).2 rfl)
  rw [h.represents.exchangeList_eq] at hsplit
  have hin := h.represents.inExchangeList hsplit
  rw [associateWithIMSubscription_run hin, h.nearest, subscribe_self hin.split.1 (h.eq_zero p)]

theorem leaves_dissectTlv {α : Type} (x : DissectM α) (tlv : TLVDissector) :
    Leaves id (dissectTlv x tlv) := by
  unfold dissectTlv
  cases x.run (.start tlv) with
  | ok a _ => exact .pure _
  | err e _ => exact .pure _
  | fault f => exact .stop f

theorem leaves_getLE (k : Nat) (tvb : Tvb) (offset : Nat) :
    Leaves id (tvb.getLE k offset : TrackerM Nat) := .ite (.pure _) (.throw _)

theorem leaves_memdup (tvb : Tvb) (offset length : Nat) :
    Leaves id (tvb.memdup offset length : TrackerM (List UInt8)) :=
  .ite (.throw _) (.ite (.pure _) (.ite (.pure _) (.throw _)))

theorem leaves_newSubsetLength (tvb : Tvb) (offset length : Nat) :
    Leaves id (tvb.newSubsetLength offset length : TrackerM Tvb) := .ite (.pure _) (.throw _)

theorem Unsubscribed.dispatch (h : Unsubscribed env msgs s) (hm : msgs[p]? = some m) (imEnv : Env)
    (msgInfo : DecodedMessageInfo) (payloadTVB : Tvb) :
    StaysAt s (dispatchPayload imEnv msgInfo payloadTVB p) := by
  have hassociate : StaysAt s (some <$> associateWithIMSubscription p) :=
    (StaysAt.of_ok (h.associate hm)).bind fun _ => (Leaves.pure _).staysAt s
  have hreport : StaysAt s
      (dissectStatusReport imEnv.host payloadTVB msgInfo.payloadLen p) := by
    refine ((leaves_getLE _ _ _).staysAt s).bind fun _ =>
      ((leaves_getLE _ _ _).staysAt s).bind fun _ => ((leaves_getLE _ _ _).staysAt s).bind fun _ =>
      StaysAt.bind (.ite ?_ ((Leaves.pure _).staysAt s)) fun result => ?_
    · exact ((leaves_memdup _ _ _).bind fun _ => leaves_dissectTlv _ _).staysAt s
    · cases result with
      | ok => exact hassociate
      | error e => exact (Leaves.pure _).staysAt s
  have hpayload : ∀ msgType,
      StaysAt s (dissectIMPayload imEnv payloadTVB msgInfo.payloadLen msgType) := fun _ =>
    ((leaves_memdup _ _ _).bind fun _ => (leaves_dissectTlv _ _).bind fun _ => .pure _).staysAt s
  refine .ite (.ite hreport (.ite hassociate ((Leaves.pure _).staysAt s)))
    (.ite ?_ ((Leaves.pure _).staysAt s))
  cases msgTypeOf msgInfo.msgType with
  | some msgType => exact hpayload msgType
  | none => exact (Leaves.pure _).staysAt s

/-! ## Runs -/

/-- One message. -/
theorem Unsubscribed.step (h : Unsubscribed env msgs s) {imEnv : Env} {d : Dissection}
    {result : Except TvbError Dissected}
    (hrun : (attempt (dissectMatterPayload env imEnv d)).run s = .ok result s') :
    Unsubscribed env (recordMessage msgs d.message) s' := by
  rcases h.track d.message with ⟨annotations, s₁, htrack, hs₁, hplace⟩ | ⟨htrack, -⟩
  · obtain ⟨m, hm, -⟩ := placeOf_spec hplace
    have hstays : StaysAt s₁ (do
        let payloadTVB ← d.unencMsgTVB.newSubsetLength d.payloadOffset d.message.msgInfo.payloadLen
        let imSubscription ← dispatchPayload imEnv d.message.msgInfo payloadTVB annotations.msgRec
        pure { msgRec := annotations.msgRec, imSubscription } : TrackerM Dissected) :=
      ((leaves_newSubsetLength _ _ _).staysAt s₁).bind fun _ =>
        (hs₁.dispatch hm imEnv _ _).bind fun _ => (Leaves.pure _).staysAt s₁
    rcases attempt_eq_ok.1 hrun with ⟨a, -, hrun⟩ | ⟨e, -, hrun⟩ <;>
      rw [dissectMatterPayload, bind_ok htrack] at hrun
    · rw [hstays.ok hrun]
      exact hs₁
    · rw [hstays.err hrun]
      exact hs₁
  · rw [attempt_err (by rw [dissectMatterPayload, bind_err htrack])] at hrun
    cases hrun
    exact h.record d.message

theorem Unsubscribed.run (h : Unsubscribed env msgs s) {imEnv : Env} {run : List Dissection}
    {results : List (Except TvbError Dissected)}
    (hrun : (dissectAll env imEnv run).run s = .ok results s') :
    Unsubscribed env ((run.map Dissection.message).foldl recordMessage msgs) s' := by
  induction run generalizing msgs s results with
  | nil =>
    cases hrun
    exact h
  | cons d run ih =>
    rw [dissectAll] at hrun
    obtain ⟨result, s₁, hstep, hrest⟩ := bind_eq_ok.1 hrun
    obtain ⟨rest, s₂, htail, hresults⟩ := bind_eq_ok.1 hrest
    cases hresults
    exact ih (h.step hstep) htail

/-- In no state that a run reaches does a record have a subscription. -/
theorem dissectAll_unsubscribed {imEnv : Env} {run : List Dissection}
    {results : List (Except TvbError Dissected)}
    (hrun : (dissectAll env imEnv run).run .empty = .ok results s) :
    Unsubscribed env (recorded (run.map Dissection.message)) s :=
  (Unsubscribed.empty env).run hrun

/-- So the filter for a subscription is never offered. -/
theorem imSubscriptionFilterIsValid_run {imEnv : Env} {run : List Dissection}
    {results : List (Except TvbError Dissected)}
    (hrun : (dissectAll env imEnv run).run .empty = .ok results s) (pinfo : PacketInfo) :
    (imSubscriptionFilterIsValid pinfo).run s = .ok false s := by
  have hs := dissectAll_unsubscribed hrun
  rw [imSubscriptionFilterIsValid, findMessageRecord, gets_bind, hs.represents.protoData_eq]
  cases hplace : placeOf (recorded (run.map Dissection.message)) pinfo.num with
  | none => rfl
  | some p =>
    obtain ⟨m, hm, -⟩ := placeOf_spec hplace
    obtain ⟨r, hload, -, hsub⟩ := load_imSubscription (s := s)
      (hs.represents.length_eq ▸ (List.getElem?_eq_some_iff.1 hm).1)
    rw [bind_ok hload, hsub, hs.eq_zero p]
    rfl

end

/-! ## What should be tracked -/

/-- The members of the outer structure, up to an unsigned number with the context tag 0. -/
def readSubscriptionId : Nat → ReaderM (Option Nat)
  | 0 => pure none
  | fuel + 1 => do
    match ← attempt TLVReader.next with
    | .ok () => do
      let r ← get
      if r.getType = .unsignedInteger ∧ r.getTag = contextTag 0 then some <$> TLVReader.getUInt64
      else readSubscriptionId fuel
    | .error _ => pure none

namespace Dissection

def payload (d : Dissection) : List UInt8 :=
  (d.unencMsgTVB.bytes.drop d.payloadOffset).take d.message.msgInfo.payloadLen

/-- The id in the payload. -/
def payloadSubscriptionId (d : Dissection) : Option Nat :=
  let read : ReaderM (Option Nat) := do
    TLVReader.nextExpecting .struct anonymousTag
    let _ ← TLVReader.enterContainer
    readSubscriptionId (d.payload.length + 1)
  match read.run (.init d.payload d.payload.length) with
  | .ok id _ => id
  | _ => none

/-- The subscription of a subscribe response or of a report. -/
def subscriptionId (d : Dissection) : Option Nat :=
  if dispatchProtocolId d.message.msgInfo.msgProtocolId = profileInteractionModel ∧
      (msgTypeOf d.message.msgInfo.msgType = some .subscribeResponse ∨
        msgTypeOf d.message.msgInfo.msgType = some .reportData) then
    d.payloadSubscriptionId.filter (· ≠ 0)
  else none

theorem subscriptionId_ne_zero {d : Dissection} {id : Nat} (h : d.subscriptionId = some id) :
    id ≠ 0 := by
  unfold subscriptionId at h
  split at h
  · simpa using (Option.filter_eq_some_iff.1 h).2
  · cases h

end Dissection

/-- A message with the frame of `d` has been recorded. -/
def HasRecord (run : List Dissection) (d : Dissection) : Prop :=
  ∃ d' ∈ run, d'.message.complete = true ∧ d'.message.frameNum = d.message.frameNum

/-- The exchange of `d` has no other subscription. -/
def OnlySubscription (run : List Dissection) (d : Dissection) (id : Nat) : Prop :=
  ∀ d' ∈ run, d'.message.exchangeKey = d.message.exchangeKey →
    ∀ id', d'.subscriptionId = some id' → id' = id

/-- The subscriptions of the run `run` are where they should be in the state `s` behind it. -/
structure SubscriptionsTracked (run : List Dissection) (results : List (Except TvbError Dissected))
    (s : TrackerState) : Prop where
  /-- the record of the message that carries the id -/
  own : ∀ before d after id, run = before ++ d :: after → HasRecord (before ++ [d]) d →
    d.subscriptionId = some id → OnlySubscription run d id →
    ∃ p, s.protoData d.message.frameNum = some p ∧ s.imSubscription p = id
  /-- the records of its exchange for which `AssociateWithIMSubscription` is called later -/
  later : ∀ before d after id, run = before ++ d :: after → HasRecord (before ++ [d]) d →
    d.subscriptionId = some id → OnlySubscription run d id →
    ∀ n r, before.length < n → results[n]? = some (.ok r) → r.imSubscription.isSome →
      r.msgRec ∈ s.exchangeList d.message.exchangeKey → s.imSubscription r.msgRec = id
  /-- the records of exchanges without an id -/
  others : ∀ key, (∀ d ∈ run, d.message.exchangeKey = key → d.subscriptionId = none) →
    ∀ p ∈ s.exchangeList key, s.imSubscription p = 0

/-- The subscriptions of a run are tracked exactly if no message with a record carries one that
would have to be: the only one of its exchange. -/
theorem subscriptionsTracked_iff {trackerEnv : TrackerEnv} {env : Env} {run : List Dissection}
    {results : List (Except TvbError Dissected)} {s : TrackerState}
    (hrun : (dissectAll trackerEnv env run).run .empty = .ok results s) :
    SubscriptionsTracked run results s ↔
      ∀ before d after id, run = before ++ d :: after → HasRecord (before ++ [d]) d →
        d.subscriptionId = some id → ¬ OnlySubscription run d id := by
  have hs := dissectAll_unsubscribed hrun
  constructor
  · intro h before d after id hsplit hrecord hid honly
    obtain ⟨p, -, hp⟩ := h.own before d after id hsplit hrecord hid honly
    rw [hs.eq_zero p] at hp
    exact Dissection.subscriptionId_ne_zero hid hp.symm
  · intro hnone
    refine ⟨?_, ?_, fun _ _ p _ => hs.eq_zero p⟩
    · intro before d after id hsplit hrecord hid honly
      exact absurd honly (hnone before d after id hsplit hrecord hid)
    · intro before d after id hsplit hrecord hid honly
      exact absurd honly (hnone before d after id hsplit hrecord hid)

/-! ## A subscribe response -/

/-- A subscribe response with the id 7 in frame 1. -/
def subscribeResponse : Dissection where
  message :=
    { tvb := .ofBytes [0, 0, 0, 0, 0, 0, 0, 0, 0, 4, 0, 0, 1, 0, 0x15, 0x24, 0x00, 0x07, 0x18]
      pinfo := { num := 1, ptype := .udp, tcpStream := 0 }
      msgInfo := { shortHeader with
        msgLen := 19, msgType := 4, msgProtocolId := 1, payloadLen := 5 } }
  unencMsgTVB := .ofBytes [0, 4, 0, 0, 1, 0, 0x15, 0x24, 0x00, 0x07, 0x18]
  payloadOffset := 6
  payload_le := by decide

theorem run_subscribeResponse : ∃ results s,
    (dissectAll crc32Ccitt plainEnv [subscribeResponse]).run .empty = .ok results s := ⟨_, _, rfl⟩

/-- The record of the subscribe response does not get the subscription. -/
theorem not_subscriptionsTracked_subscribeResponse :
    ¬ ∀ (trackerEnv : TrackerEnv) (env : Env) (run : List Dissection)
        (results : List (Except TvbError Dissected)) (s : TrackerState),
      (dissectAll trackerEnv env run).run .empty = .ok results s →
        SubscriptionsTracked run results s := by
  intro h
  obtain ⟨results, s, hrun⟩ := run_subscribeResponse
  have hid : subscribeResponse.subscriptionId = some 7 := by decide
  have hrecord : HasRecord ([] ++ [subscribeResponse]) subscribeResponse :=
    ⟨subscribeResponse, List.mem_cons_self, by decide, rfl⟩
  have honly : OnlySubscription [subscribeResponse] subscribeResponse 7 := by
    intro d' hd' _ id' hid'
    rw [List.mem_singleton.1 hd', hid] at hid'
    exact (Option.some.inj hid').symm
  obtain ⟨p, -, hp⟩ := (h _ _ _ results s hrun).own [] subscribeResponse [] 7 rfl hrecord hid honly
  rw [(dissectAll_unsubscribed hrun).eq_zero p] at hp
  exact absurd hp (by decide)

theorem subscriptionsTracked_iff_subscribeResponse :
    ∃ results s, (dissectAll crc32Ccitt plainEnv [subscribeResponse]).run .empty = .ok results s ∧
      (SubscriptionsTracked [subscribeResponse] results s ↔
        ∀ before d after id, [subscribeResponse] = before ++ d :: after →
          HasRecord (before ++ [d]) d → d.subscriptionId = some id →
          ¬ OnlySubscription [subscribeResponse] d id) := by
  obtain ⟨results, s, hrun⟩ := run_subscribeResponse
  exact ⟨results, s, hrun, subscriptionsTracked_iff hrun⟩

end Matter.Tracker
