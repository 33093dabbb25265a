import MatterDissector.Tracker.Proof.Queries

/-!
# The start of an exchange

`FindStartOfExchange` takes the nearest initiator message at or before the record and goes back
over the initiator messages directly in front of it that have its fingerprint; where there is no
initiator message it takes the oldest record (`StartOf`, `findStartOfExchange_run`).

So every message of an exchange has the first message as its start only if the initiator has
nothing else to say after it (`OneInitialMessage`, `findStartOfExchange_first_iff`). An exchange
with a second request has two starts (`findStartOfExchange_secondRequest`).
-/

namespace Matter.Tracker

open Prog Message Intrusive

/-- The start `q` of the last one of the records `xs` of an exchange. -/
inductive StartOf (s : TrackerState) (xs : List RecordRef) (q : RecordRef) : Prop where
  /-- `q` and `bs` are the initiator's message and its retransmissions, `cs` the answers. -/
  | initiator (as bs cs : List RecordRef) (hxs : xs = as ++ q :: bs ++ cs)
      (hq : s.isInitiator q = true)
      (hbs : ∀ b ∈ bs, s.isInitiator b = true ∧ s.fingerprint b = s.fingerprint q)
      (hcs : ∀ c ∈ cs, s.isInitiator c = false)
      (has : ∀ a, as.getLast? = some a →
        ¬ (s.isInitiator a = true ∧ s.fingerprint a = s.fingerprint q))
  /-- No message of the initiator was captured. -/
  | oldest (cs : List RecordRef) (hxs : xs = q :: cs)
      (hcs : ∀ c ∈ q :: cs, s.isInitiator c = false)

section
variable {s : TrackerState} {p q : RecordRef} {xs ys zs : List RecordRef} {fuel : Nat}

/-! ## The two loops -/

/-- The records `ys`, with `p` behind them, are linked back to front. -/
structure LinkedBack (s : TrackerState) (ys : List RecordRef) (p : RecordRef) : Prop where
  path : Path (s.link byExchange.prev) (s.link byExchange.prev p) ys.reverse
  bound : ∀ q ∈ ys ++ [p], q < s.records.length
  nodup : (ys ++ [p]).Nodup

theorem LinkedBack.load (h : LinkedBack s ys p) : ∃ r, (load p).run s = .ok r s ∧
    r.fingerprint = s.fingerprint p ∧ r.isInitiator = s.isInitiator p ∧
    r.prevByExchange = ys.getLast? := by
  obtain ⟨r, hload, hr, -, hfingerprint, hinitiator⟩ := load_fields (h.bound p (by simp))
  refine ⟨r, hload, hfingerprint, hinitiator, ?_⟩
  have hprev : s.link byExchange.prev p = r.prevByExchange := link_eq hr
  rw [← hprev, h.path.head_eq, List.head?_reverse]

theorem LinkedBack.init (h : LinkedBack s (ys ++ [q]) p) : LinkedBack s ys q where
  path := by
    have hpath := h.path
    rw [List.reverse_append] at hpath
    exact hpath.2
  bound a ha := h.bound a (List.mem_append_left _ ha)
  nodup := (List.nodup_append.1 h.nodup).1

theorem LinkedBack.length_lt (h : LinkedBack s ys p) : ys.length < s.records.length + 1 := by
  have hle := length_le_of_bound h.bound h.nodup
  rw [List.length_append, List.length_singleton] at hle
  omega

theorem InList.linkedBack (h : InList byExchange s ys p zs) : LinkedBack s ys p where
  path := h.linked.path_prev rfl
  bound q hq := h.bound q (by simp at hq ⊢; tauto)
  nodup := by
    have hnodup := h.linked.nodup
    rw [List.append_cons] at hnodup
    exact (List.nodup_append.1 hnodup).1

theorem foldRound_run (h : LinkedBack s ys p) : (foldRound p).run s = .ok
    (match ys.getLast? with
      | some a => if s.isInitiator a = true ∧ s.fingerprint a = s.fingerprint p then .inl a
        else .inr p
      | none => .inr p) s := by
  obtain ⟨r, hload, hfingerprint, -, hprev⟩ := h.load
  rw [foldRound, bind_ok hload, hprev, hfingerprint]
  cases ys using List.reverseRecOn with
  | nil => rfl
  | append_singleton ys a _ =>
    obtain ⟨r', hload', hfingerprint', hinitiator', -⟩ := h.init.load
    rw [List.getLast?_concat]
    show (load a >>= _).run s = _
    rw [bind_ok hload', hfingerprint', hinitiator', run_pure]

/-- The loop over the retransmissions in front of the initiator message `p`. -/
theorem foldRetransmissions_loop (h : LinkedBack s ys p) (hp : s.isInitiator p = true)
    (hfuel : ys.length < fuel) :
    ∃ as bs q, ys ++ [p] = as ++ q :: bs ∧
      (loop .outOfFuel foldRound fuel p).run s = .ok q s ∧
      s.isInitiator q = true ∧ s.fingerprint q = s.fingerprint p ∧
      (∀ b ∈ bs, s.isInitiator b = true ∧ s.fingerprint b = s.fingerprint q) ∧
      ∀ a, as.getLast? = some a →
        ¬ (s.isInitiator a = true ∧ s.fingerprint a = s.fingerprint q) := by
  induction ys using List.reverseRecOn generalizing p fuel with
  | nil =>
    obtain ⟨fuel, rfl⟩ := Nat.exists_eq_succ_of_ne_zero (Nat.ne_of_gt (Nat.zero_lt_of_lt hfuel))
    refine ⟨[], [], p, rfl, ?_, hp, rfl, by simp, by simp⟩
    rw [loop_succ, bind_ok (foldRound_run h)]
    rfl
  | append_singleton ys a ih =>
    obtain ⟨fuel, rfl⟩ := Nat.exists_eq_succ_of_ne_zero (Nat.ne_of_gt (Nat.zero_lt_of_lt hfuel))
    rw [List.length_append, List.length_singleton] at hfuel
    have hround : (foldRound p).run s = .ok
        (if s.isInitiator a = true ∧ s.fingerprint a = s.fingerprint p then .inl a
          else .inr p) s := by
      have hround := foldRound_run h
      rwa [List.getLast?_concat] at hround
    rw [loop_succ, bind_ok hround]
    by_cases ha : s.isInitiator a = true ∧ s.fingerprint a = s.fingerprint p
    · obtain ⟨as, bs, q, hsplit, hrun, hq, hfingerprint, hbs, has⟩ :=
        ih h.init ha.1 (Nat.lt_of_succ_lt_succ hfuel)
      refine ⟨as, bs ++ [p], q, by rw [hsplit]; simp, ?_, hq, hfingerprint.trans ha.2, ?_, has⟩
      · rw [if_pos ha]
        exact hrun
      · intro b hb
        rcases List.mem_append.1 hb with hb | hb
        · exact hbs b hb
        · rw [List.mem_singleton.1 hb]
          exact ⟨hp, (hfingerprint.trans ha.2).symm⟩
    · refine ⟨ys ++ [a], [], p, rfl, by rw [if_neg ha]; rfl, hp, rfl, by simp, ?_⟩
      intro a' ha'
      rw [List.getLast?_concat] at ha'
      rwa [← Option.some.inj ha']

/-- One more answer does not change the start. -/
theorem StartOf.snoc (h : StartOf s xs q) (hp : s.isInitiator p = false) :
    StartOf s (xs ++ [p]) q := by
  cases h with
  | initiator as bs cs hxs hq hbs hcs has =>
    refine .initiator as bs (cs ++ [p]) (by rw [hxs]; simp) hq hbs (fun c hc => ?_) has
    rcases List.mem_append.1 hc with hc | hc
    · exact hcs c hc
    · rw [List.mem_singleton.1 hc]
      exact hp
  | oldest cs hxs hcs =>
    refine .oldest (cs ++ [p]) (by rw [hxs]; rfl) fun c hc => ?_
    rw [← List.cons_append] at hc
    rcases List.mem_append.1 hc with hc | hc
    · exact hcs c hc
    · rw [List.mem_singleton.1 hc]
      exact hp

theorem foldRetransmissions_run (h : LinkedBack s ys p) (hp : s.isInitiator p = true) :
    ∃ q, (foldRetransmissions p).run s = .ok q s ∧ StartOf s (ys ++ [p]) q := by
  obtain ⟨as, bs, q, hsplit, hrun, hq, -, hbs, has⟩ :=
    foldRetransmissions_loop h hp h.length_lt
  exact ⟨q, hrun, .initiator as bs [] (by rw [hsplit, List.append_nil]) hq hbs (by simp) has⟩

/-- A round at a message of the initiator ends the loop. -/
theorem startRound_initiator (h : LinkedBack s ys p) (hp : s.isInitiator p = true) :
    ∃ q, (startRound p).run s = .ok (.inr q) s ∧ StartOf s (ys ++ [p]) q := by
  obtain ⟨r, hload, -, hinitiator, -⟩ := h.load
  obtain ⟨q, hrun, hq⟩ := foldRetransmissions_run h hp
  refine ⟨q, ?_, hq⟩
  rw [startRound, bind_ok hload, hinitiator, if_pos hp, map_ok hrun]

/-- A round at an answer goes back by one. -/
theorem startRound_answer (h : LinkedBack s ys p) (hp : s.isInitiator p = false) :
    (startRound p).run s = .ok
      (match ys.getLast? with
        | some a => .inl a
        | none => .inr p) s := by
  obtain ⟨r, hload, -, hinitiator, hprev⟩ := h.load
  rw [startRound, bind_ok hload, hinitiator, hp, hprev]
  cases ys.getLast? <;> rfl

/-- The loop over the answers, back to the nearest message of the initiator. -/
theorem findStartOfExchange_loop (h : LinkedBack s ys p) (hfuel : ys.length < fuel) :
    ∃ q, (loop .outOfFuel startRound fuel p).run s = .ok q s ∧ StartOf s (ys ++ [p]) q := by
  induction ys using List.reverseRecOn generalizing p fuel with
  | nil =>
    obtain ⟨fuel, rfl⟩ := Nat.exists_eq_succ_of_ne_zero (Nat.ne_of_gt (Nat.zero_lt_of_lt hfuel))
    rw [loop_succ]
    cases hp : s.isInitiator p with
    | true =>
      obtain ⟨q, hround, hq⟩ := startRound_initiator h hp
      exact ⟨q, by rw [bind_ok hround]; rfl, hq⟩
    | false =>
      refine ⟨p, ?_, .oldest [] rfl (by simpa using hp)⟩
      rw [bind_ok (startRound_answer h hp)]
      rfl
  | append_singleton ys a ih =>
    obtain ⟨fuel, rfl⟩ := Nat.exists_eq_succ_of_ne_zero (Nat.ne_of_gt (Nat.zero_lt_of_lt hfuel))
    rw [List.length_append, List.length_singleton] at hfuel
    rw [loop_succ]
    cases hp : s.isInitiator p with
    | true =>
      obtain ⟨q, hround, hq⟩ := startRound_initiator h hp
      exact ⟨q, by rw [bind_ok hround]; rfl, hq⟩
    | false =>
      obtain ⟨q, hrun, hq⟩ := ih h.init (Nat.lt_of_succ_lt_succ hfuel)
      refine ⟨q, ?_, hq.snoc hp⟩
      rw [bind_ok (startRound_answer h hp), List.getLast?_concat]
      exact hrun

/-- `FindStartOfExchange` of a record of an exchange. -/
theorem findStartOfExchange_run (h : InList byExchange s ys p zs) :
    ∃ q, (findStartOfExchange p).run s = .ok q s ∧ StartOf s (ys ++ [p]) q :=
  findStartOfExchange_loop h.linkedBack h.linkedBack.length_lt

/-! ## One start for all -/

/-- The messages of the initiator are all at the front, with one fingerprint. -/
def OneInitialMessage (s : TrackerState) (xs : List RecordRef) : Prop :=
  ∃ ys zs fingerprint, xs = ys ++ zs ∧
    (∀ a ∈ ys, s.isInitiator a = true ∧ s.fingerprint a = fingerprint) ∧
    ∀ c ∈ zs, s.isInitiator c = false

/-- The newest element with a property. -/
theorem exists_newest {α : Type} {P : α → Bool} {xs : List α} (h : ∃ a ∈ xs, P a = true) :
    ∃ ys p zs, xs = ys ++ p :: zs ∧ P p = true ∧ ∀ c ∈ zs, P c = false := by
  obtain ⟨a, ha, hPa⟩ := h
  have hfind : (xs.reverse.find? P).isSome := by
    rw [List.find?_isSome]
    exact ⟨a, List.mem_reverse.2 ha, hPa⟩
  obtain ⟨p, hp⟩ := Option.isSome_iff_exists.1 hfind
  obtain ⟨hPp, zs, ys, hsplit, hzs⟩ := List.find?_eq_some_iff_append.1 hp
  refine ⟨ys.reverse, p, zs.reverse, ?_, hPp, fun c hc => ?_⟩
  · rw [← List.reverse_reverse xs, hsplit]
    simp
  · simpa using hzs c (List.mem_reverse.1 hc)

theorem OneInitialMessage.start_eq {first : RecordRef} (h : OneInitialMessage s (xs ++ zs))
    (hfirst : xs.head? = some first) (hq : StartOf s xs q) : q = first := by
  obtain ⟨initial, answers, fingerprint, hsplit, hinitial, hanswers⟩ := h
  cases hq with
  | oldest cs hxs =>
    subst hxs
    exact Option.some.inj hfirst
  | initiator as bs cs hxs hq hbs hcs has =>
    have hsplit : initial ++ answers = as ++ (q :: (bs ++ cs ++ zs)) := by
      rw [← hsplit, hxs]
      simp
    -- `q` is not one of the answers, so it is one of the initial messages
    have hmem : ∃ rest, initial = as ++ q :: rest := by
      rcases List.append_eq_append_iff.1 hsplit with ⟨us, has, hanswers'⟩ | ⟨us, hinit, htail⟩
      · have := hanswers q (by rw [hanswers']; simp)
        rw [hq] at this
        cases this
      · cases us with
        | nil =>
          have := hanswers q (by rw [← show _ = answers from htail]; simp)
          rw [hq] at this
          cases this
        | cons u us =>
          obtain ⟨rfl, -⟩ := List.cons.inj htail
          exact ⟨us, hinit⟩
    obtain ⟨rest, rfl⟩ := hmem
    cases as using List.reverseRecOn with
    | nil =>
      subst hxs
      exact Option.some.inj hfirst
    | append_singleton as a _ =>
      have ha := hinitial a (by simp)
      have hq := hinitial q (by simp)
      exact absurd ⟨ha.1, ha.2.trans hq.2.symm⟩ (has a List.getLast?_concat)

/-- An answer between two messages of the initiator. -/
theorem not_oneInitialMessage {first : RecordRef} (hp : s.isInitiator p = false)
    (hq : s.isInitiator q = true) : ¬ OneInitialMessage s [first, p, q] := by
  rintro ⟨ys, zs, fingerprint, hsplit, hys, hzs⟩
  have hzs_nil : zs = [] := by
    cases zs using List.reverseRecOn with
    | nil => rfl
    | append_singleton zs c _ =>
      rw [← List.append_assoc] at hsplit
      have hlast := congrArg List.getLast? hsplit
      rw [List.getLast?_concat] at hlast
      have hc : q = c := Option.some.inj hlast
      have := hzs c (by simp)
      rw [← hc, hq] at this
      cases this
  have := (hys p (by rw [← List.append_nil ys, ← hzs_nil, ← hsplit]; simp)).1
  rw [hp] at this
  cases this

/-- The start of the newest message of the initiator says it all. -/
theorem OneInitialMessage.of_start {first : RecordRef} (hnodup : (first :: xs).Nodup)
    (hfirst : s.isInitiator first = true)
    (h : ∀ ys p zs, first :: xs = ys ++ p :: zs → StartOf s (ys ++ [p]) first) :
    OneInitialMessage s (first :: xs) := by
  obtain ⟨ys, p, zs, hsplit, hp, hzs⟩ :=
    exists_newest (P := s.isInitiator) ⟨first, List.mem_cons_self, hfirst⟩
  cases h ys p zs hsplit with
  | oldest cs hxs hcs =>
    have := hcs p (by rw [← hxs]; simp)
    rw [hp] at this
    cases this
  | initiator as bs cs hxs hq hbs hcs has =>
    cases cs using List.reverseRecOn with
    | append_singleton cs c _ =>
      rw [← List.append_assoc] at hxs
      obtain ⟨-, rfl⟩ := snoc_inj hxs
      have := hcs p (by simp)
      rw [hp] at this
      cases this
    | nil =>
      rw [List.append_nil] at hxs
      -- nothing is in front of the first record
      have has : as = [] := by
        cases as with
        | nil => rfl
        | cons a as =>
          rw [List.append_cons, hxs] at hsplit
          obtain ⟨rfl, hrest⟩ := List.cons.inj hsplit
          exact absurd (hrest ▸ by simp) (List.nodup_cons.1 hnodup).1
      subst has
      refine ⟨first :: bs, zs, s.fingerprint first, ?_, fun a ha => ?_, hzs⟩
      · rw [hsplit, List.append_cons, hxs]
        rfl
      · rcases List.mem_cons.1 ha with rfl | ha
        · exact ⟨hfirst, rfl⟩
        · exact hbs a ha

/-! ## The filter -/

theorem StartOf.mem (h : StartOf s xs q) : q ∈ xs := by
  cases h with
  | initiator as bs cs hxs => rw [hxs]; simp
  | oldest cs hxs => rw [hxs]; exact List.mem_cons_self

/-- The filter built for a packet selects the message of the record `p`. -/
def FilterSelects (s : TrackerState) (pinfo : PacketInfo) (p : RecordRef) : Prop :=
  ∃ num q, (exchangeFilterFrame pinfo).run s = .ok (some num) s ∧
    (findStartOfExchange p).run s = .ok q s ∧ s.frameNum q = num

theorem exchangeFilterFrame_run {pinfo : PacketInfo} (hpinfo : s.protoData pinfo.num = some p)
    (hstart : (findStartOfExchange p).run s = .ok q s) (hq : q < s.records.length) :
    (exchangeFilterFrame pinfo).run s = .ok (some (s.frameNum q)) s := by
  obtain ⟨r, hload, -, hframe, -⟩ := load_fields hq
  rw [exchangeFilterFrame, findMessageRecord, gets_bind, hpinfo]
  show (findStartOfExchange p >>= _).run s = _
  rw [bind_ok hstart, bind_ok hload, hframe, run_pure]

section
variable {env : TrackerEnv} {msgs : List TrackedMessage} {key : Key}

/-- The start of a record of an exchange is a record of the exchange. -/
theorem Represents.start (h : Represents env msgs s) (hp : p ∈ s.exchangeList key) :
    ∃ q, (findStartOfExchange p).run s = .ok q s ∧ q ∈ s.exchangeList key ∧
      q < s.records.length := by
  obtain ⟨ys, zs, hsplit⟩ := List.append_of_mem hp
  rw [h.exchangeList_eq] at hsplit ⊢
  obtain ⟨q, hrun, hq⟩ := findStartOfExchange_run (h.inExchangeList hsplit)
  have hmem : q ∈ positions TrackedMessage.exchangeKey msgs key := by
    rw [hsplit, List.append_cons]
    exact List.mem_append_left _ hq.mem
  exact ⟨q, hrun, hmem, h.length_eq ▸ lt_of_mem_positions hmem⟩

theorem Represents.lt_of_mem_exchangeList (h : Represents env msgs s)
    (hp : p ∈ s.exchangeList key) : p < msgs.length :=
  lt_of_mem_positions (h.exchangeList_eq key ▸ hp)

variable {first : RecordRef} {rest : List RecordRef}

/-- The first record is the start of all exactly if the initiator sends one message only. -/
theorem Represents.start_first_iff (h : Represents env msgs s)
    (hlist : s.exchangeList key = first :: rest) (hfirst : s.isInitiator first = true) :
    (∀ p ∈ first :: rest, (findStartOfExchange p).run s = .ok first s) ↔
      OneInitialMessage s (first :: rest) := by
  have hsplit_run : ∀ ys p zs, first :: rest = ys ++ p :: zs →
      ∃ q, (findStartOfExchange p).run s = .ok q s ∧ StartOf s (ys ++ [p]) q := by
    intro ys p zs hsplit
    rw [← hlist, h.exchangeList_eq] at hsplit
    exact findStartOfExchange_run (h.inExchangeList hsplit)
  constructor
  · intro hall
    refine .of_start ?_ hfirst fun ys p zs hsplit => ?_
    · rw [← hlist, h.exchangeList_eq]
      exact nodup_positions
    · obtain ⟨q, hrun, hq⟩ := hsplit_run ys p zs hsplit
      rw [hall p (by rw [hsplit]; simp)] at hrun
      cases hrun
      exact hq
  · intro hone p hp
    obtain ⟨ys, zs, hsplit⟩ := List.append_of_mem hp
    obtain ⟨q, hrun, hq⟩ := hsplit_run ys p zs hsplit
    rw [hsplit, List.append_cons] at hone
    have hhead : (ys ++ [p]).head? = some first := by
      cases ys with
      | nil => cases hsplit; rfl
      | cons y ys => cases hsplit; rfl
    rwa [hone.start_eq hhead hq] at hrun

/-- The filters of an exchange select all of it exactly if its first record is the start of all. -/
theorem Represents.filterSelects_iff (h : Represents env msgs s)
    (hnodup : (msgs.map TrackedMessage.frameNum).Nodup)
    (hlist : s.exchangeList key = first :: rest) :
    (∀ p ∈ first :: rest, ∀ p' ∈ first :: rest, ∀ pinfo : PacketInfo,
      pinfo.num = s.frameNum p → FilterSelects s pinfo p') ↔
      ∀ p ∈ first :: rest, (findStartOfExchange p).run s = .ok first s := by
  rw [← hlist]
  have hframe : ∀ p ∈ s.exchangeList key, s.protoData (s.frameNum p) = some p := fun p hp =>
    h.protoData_frame hnodup (h.lt_of_mem_exchangeList hp)
  have hmem : first ∈ s.exchangeList key := hlist ▸ List.mem_cons_self
  constructor
  · intro hselects p' hp'
    -- the start of the first record is the record itself
    have hself : (findStartOfExchange first).run s = .ok first s := by
      rw [h.exchangeList_eq] at hlist
      have hin : InList Tracker.byExchange s [] first _ := h.inExchangeList hlist
      obtain ⟨q, hrun, hq⟩ := findStartOfExchange_run hin
      rwa [List.mem_singleton.1 hq.mem] at hrun
    have hlt : first < s.records.length := h.length_eq ▸ h.lt_of_mem_exchangeList hmem
    obtain ⟨num, q, hfilter, hstart, hnum⟩ :=
      hselects first hmem p' hp' ⟨s.frameNum first, .udp, 0⟩ rfl
    rw [exchangeFilterFrame_run (hframe first hmem) hself hlt] at hfilter
    cases hfilter
    obtain ⟨q', hstart', hq', -⟩ := h.start hp'
    rw [hstart] at hstart'
    cases hstart'
    rwa [h.frameNum_inj hnodup (h.lt_of_mem_exchangeList hq') (h.lt_of_mem_exchangeList hmem)
      hnum] at hstart
  · intro hall p hp p' hp' pinfo hpinfo
    have hlt : first < s.records.length := h.length_eq ▸ h.lt_of_mem_exchangeList hmem
    exact ⟨s.frameNum first, first,
      exchangeFilterFrame_run (hpinfo ▸ hframe p hp) (hall p hp) hlt, hall p' hp', rfl⟩

end

end

/-- Which start the messages of an exchange have, and when it is one start for all of them. -/
theorem findStartOfExchange_first_iff (env : TrackerEnv) (run : List TrackedMessage) :
    ∃ results s, (findOrCreateAll env run).run .empty = .ok results s ∧
      ∀ key first rest, s.exchangeList key = first :: rest → s.isInitiator first = true →
        (∀ ys p zs, first :: rest = ys ++ p :: zs →
          ∃ q, (findStartOfExchange p).run s = .ok q s ∧ StartOf s (ys ++ [p]) q) ∧
        ((∀ p ∈ first :: rest, (findStartOfExchange p).run s = .ok first s) ↔
          OneInitialMessage s (first :: rest)) ∧
        ((∀ p ∈ first :: rest, ∀ p' ∈ first :: rest, ∀ pinfo : PacketInfo,
          pinfo.num = s.frameNum p → FilterSelects s pinfo p') ↔
          OneInitialMessage s (first :: rest)) := by
  obtain ⟨s, hrun, hs⟩ := findOrCreateAll_run env run
  refine ⟨_, s, hrun, fun key first rest hlist hfirst => ⟨fun ys p zs hsplit => ?_, ?_, ?_⟩⟩
  · rw [← hlist, hs.exchangeList_eq] at hsplit
    exact findStartOfExchange_run (hs.inExchangeList hsplit)
  · exact hs.start_first_iff hlist hfirst
  · rw [hs.filterSelects_iff (nodup_recorded run) hlist]
    exact hs.start_first_iff hlist hfirst

/-- `PBKDFParamRequest`, `PBKDFParamResponse` and `Pake1`, the first messages of PASE. -/
def pase : List TrackedMessage :=
  [shortMessage .udp 1 { shortHeader with msgId := 1, exchHeader := 0x05, msgType := 0x20 },
    shortMessage .udp 2 { shortHeader with msgId := 7, exchHeader := 0x06, msgType := 0x21 },
    shortMessage .udp 3 { shortHeader with msgId := 2, exchHeader := 0x07, msgType := 0x22 }]

/-- `Pake1` starts the exchange again. -/
theorem findStartOfExchange_secondRequest : ¬ ∀ (env : TrackerEnv) (run : List TrackedMessage),
    ∃ results s, (findOrCreateAll env run).run .empty = .ok results s ∧
      ∀ key first rest, s.exchangeList key = first :: rest → s.isInitiator first = true →
        ∀ p ∈ first :: rest, (findStartOfExchange p).run s = .ok first s := by
  intro h
  obtain ⟨results, s, hrun, hall⟩ := h crc32Ccitt pase
  obtain ⟨s', hrun', hs⟩ := findOrCreateAll_run crc32Ccitt pase
  rw [hrun'] at hrun
  cases hrun
  rw [show recorded pase = pase from rfl] at hs
  have hlist : s.exchangeList [0, 0, 0, 0, 0] = [0, 1, 2] := by
    rw [hs.exchangeList_eq]
    decide
  have hfirst : s.isInitiator 0 = true := (hs.fields (p := 0) rfl).2.2
  have hanswer : s.isInitiator 1 = false := (hs.fields (p := 1) rfl).2.2
  have hsecond : s.isInitiator 2 = true := (hs.fields (p := 2) rfl).2.2
  have hone := (hs.start_first_iff hlist hfirst).1 (hall _ _ _ hlist hfirst)
  exact not_oneInitialMessage hanswer hsecond hone

end Matter.Tracker
