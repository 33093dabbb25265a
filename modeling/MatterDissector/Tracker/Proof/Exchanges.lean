import Mathlib.Data.List.Chain
import MatterDissector.Tracker.Proof.History

/-!
# Exchanges of different sessions

The exchange key has node ids and no session (`exchangeKey_eq_iff`), and the start of an exchange
is looked for along the list of its key. A message has the start of the one directly in front of
it, unless it is the first of its copies that the initiator sends (`startOf_snoc`). So every start
is of the session of its message exactly if no message goes on with the start of another session
(`starts_iff_isChain`).

The two directions of a session have different ids, and a header has only one of them: which
messages are of one session is any function here.
-/

namespace Matter.Tracker

open Prog Message Intrusive TrackedMessage

/-- A message that comes directly behind `m'` in its exchange has the start of `m'`. -/
def TrackedMessage.GoesOn (env : TrackerEnv) (m' m : TrackedMessage) : Prop :=
  m.isInitiator = true → m'.isInitiator = true ∧ m'.fingerprint env = m.fingerprint env

/-- Among the recorded messages with one exchange key, `m` comes directly behind `m'`. -/
structure DirectlyBehind (msgs : List TrackedMessage) (m' m : TrackedMessage) (q p : Nat) :
    Prop where
  left : msgs[q]? = some m'
  right : msgs[p]? = some m
  lt : q < p
  exchangeKey_eq : m'.exchangeKey = m.exchangeKey
  between : ∀ r, q < r → r < p → ∀ m'', msgs[r]? = some m'' → m''.exchangeKey ≠ m.exchangeKey

/-- No message is in an exchange list with an initiator's message that has another session id, and
the start and the filter of a message never refer to a message of another session. -/
structure ExchangeChainsApart {ι : Type} (session : TrackedMessage → ι)
    (msgs : List TrackedMessage) (s : TrackerState) : Prop where
  chains : ∀ (p q : RecordRef) m m', msgs[p]? = some m → msgs[q]? = some m' →
    OtherInitiator m m' → ∀ key, ¬ (p ∈ s.exchangeList key ∧ q ∈ s.exchangeList key)
  starts : ∀ (p : RecordRef) m, msgs[p]? = some m →
    ∃ start m', (findStartOfExchange p).run s = .ok start s ∧ msgs[start]? = some m' ∧
      s.frameNum start = m'.frameNum ∧ session m' = session m
  filters : ∀ (p : RecordRef) m, msgs[p]? = some m →
    ∃ num, (exchangeFilterFrame m.pinfo).run s = .ok (some num) s ∧
      (∀ m' ∈ msgs, m'.frameNum = num → session m' = session m) ∧
      ∀ (q : RecordRef) m', msgs[q]? = some m' → FilterSelects s m.pinfo q →
        session m' = session m

/-- No two sessions meet in an exchange: neither do initiator's messages with different session
ids, nor does a message go on where another session's is. -/
structure ExchangesApart {ι : Type} (env : TrackerEnv) (session : TrackedMessage → ι)
    (msgs : List TrackedMessage) : Prop where
  initiators : ∀ m ∈ msgs, ∀ m' ∈ msgs, OtherInitiator m m' → ¬ SameExchange m m'
  neighbours : ∀ m' m q p, DirectlyBehind msgs m' m q p → GoesOn env m' m →
    session m' = session m

/-! ## The start, message by message -/

section
variable {isInitiator : Nat → Bool} {fingerprint : Nat → Nat} {xs : List Nat} {p q : Nat}

theorem startOf_singleton : History.startOf isInitiator fingerprint [p] = some p := by
  unfold History.startOf
  cases hp : isInitiator p <;> simp [List.dropWhile, hp]

/-- A message has the start of the one in front of it, or starts anew. -/
theorem startOf_snoc : History.startOf isInitiator fingerprint (xs ++ [q] ++ [p]) =
    if isInitiator p = true → isInitiator q = true ∧ fingerprint q = fingerprint p then
      History.startOf isInitiator fingerprint (xs ++ [q])
    else some p := by
  unfold History.startOf
  rw [List.reverse_append, List.reverse_singleton, List.singleton_append]
  cases hp : isInitiator p with
  | false =>
    -- an answer: it is skipped
    rw [List.dropWhile_cons_of_pos (by simp [hp]), if_pos (by simp)]
    cases hdrop : (xs ++ [q]).reverse.dropWhile fun r => !isInitiator r with
    | nil => cases xs <;> rfl
    | cons a as => rfl
  | true =>
    rw [List.dropWhile_cons_of_neg (by simp [hp]), List.reverse_append, List.reverse_singleton,
      List.singleton_append]
    by_cases hcopy : isInitiator q = true ∧ fingerprint q = fingerprint p
    · obtain ⟨hq, hfp⟩ := hcopy
      rw [if_pos fun _ => ⟨hq, hfp⟩, List.dropWhile_cons_of_neg (by simp [hq])]
      dsimp only
      rw [List.takeWhile_cons_of_pos (by simp [hq, hfp]), List.getLastD_cons, hfp]
    · rw [if_neg fun hgoesOn => hcopy (hgoesOn rfl)]
      dsimp only
      rw [List.takeWhile_cons_of_neg (by simpa using hcopy)]
      rfl

variable {ι : Type} {label : Nat → ι}

/-- All starts have the label of their message exactly if going on keeps the label. -/
theorem starts_iff_isChain :
    (∀ ys p zs, xs = ys ++ p :: zs →
      (History.startOf isInitiator fingerprint (ys ++ [p])).map label = some (label p)) ↔
      xs.IsChain fun q p =>
        (isInitiator p = true → isInitiator q = true ∧ fingerprint q = fingerprint p) →
          label q = label p := by
  rw [List.isChain_iff_forall_rel_of_append_cons_cons]
  constructor
  · intro hstarts q p ys zs hsplit hgoesOn
    have hq := hstarts ys q (p :: zs) hsplit
    have hp := hstarts (ys ++ [q]) p zs (by rw [hsplit]; simp)
    rw [startOf_snoc, if_pos hgoesOn, hq] at hp
    exact Option.some.inj hp
  · intro hchain ys
    -- along the messages in front
    induction ys using List.reverseRecOn with
    | nil =>
      intro p zs hsplit
      rw [List.nil_append, startOf_singleton, Option.map_some]
    | append_singleton ys q ih =>
      intro p zs hsplit
      rw [List.append_assoc, List.singleton_append] at hsplit
      rw [startOf_snoc]
      split
      · rename_i hgoesOn
        rw [ih q (p :: zs) hsplit, hchain hsplit hgoesOn]
      · rfl

end

/-! ## The starts and the filters -/

section
variable {ι : Type} {session : TrackedMessage → ι} {env : TrackerEnv}
  {msgs : List TrackedMessage} {m m' : TrackedMessage} {s : TrackerState} {p q : RecordRef}
  {key : Key}

/-- Neighbours in the list of a key. -/
theorem directlyBehind_iff : (∃ ys zs, positions exchangeKey msgs m.exchangeKey =
      ys ++ q :: p :: zs) ∧ msgs[q]? = some m' ∧ msgs[p]? = some m ↔
    DirectlyBehind msgs m' m q p := by
  constructor
  · rintro ⟨⟨ys, zs, hsplit⟩, hq, hp⟩
    have hsorted : (ys ++ q :: p :: zs).Pairwise (· < ·) := hsplit ▸ List.pairwise_findIdxs
    obtain ⟨-, hright, hcross⟩ := List.pairwise_append.1 hsorted
    obtain ⟨hq_lt, hright⟩ := List.pairwise_cons.1 hright
    have hkey : q ∈ positions exchangeKey msgs m.exchangeKey := by
      rw [hsplit]
      simp
    rw [mem_positions, hq] at hkey
    refine ⟨hq, hp, hq_lt p List.mem_cons_self, Option.some.inj hkey, ?_⟩
    intro r hqr hrp m'' hr heq
    have hmem : r ∈ positions exchangeKey msgs m.exchangeKey := by
      rw [mem_positions, hr, Option.map_some, heq]
    rw [hsplit, List.mem_append, List.mem_cons, List.mem_cons] at hmem
    rcases hmem with hys | rfl | rfl | hzs
    · exact Nat.lt_asymm hqr (hcross r hys q List.mem_cons_self)
    · exact Nat.lt_irrefl _ hqr
    · exact Nat.lt_irrefl _ hrp
    · exact Nat.lt_asymm hrp ((List.pairwise_cons.1 hright).1 r hzs)
  · intro h
    have hmem : ∀ {r m''}, msgs[r]? = some m'' → m''.exchangeKey = m.exchangeKey →
        r ∈ positions exchangeKey msgs m.exchangeKey := fun hr heq => by
      rw [mem_positions, hr, Option.map_some, heq]
    obtain ⟨ys, rest, hsplit⟩ := List.append_of_mem (hmem h.left h.exchangeKey_eq)
    have hsorted : (ys ++ q :: rest).Pairwise (· < ·) := hsplit ▸ List.pairwise_findIdxs
    obtain ⟨-, hright, hcross⟩ := List.pairwise_append.1 hsorted
    obtain ⟨hq_lt, hrest_sorted⟩ := List.pairwise_cons.1 hright
    have hp := hmem h.right rfl
    rw [hsplit, List.mem_append, List.mem_cons] at hp
    have hp_rest : p ∈ rest := by
      rcases hp with hys | rfl | hrest
      · exact absurd (hcross p hys q List.mem_cons_self) (Nat.lt_asymm h.lt)
      · exact absurd h.lt (Nat.lt_irrefl _)
      · exact hrest
    -- the next one in the list is not in front of `p`, so it is `p`
    cases rest with
    | nil => cases hp_rest
    | cons r zs =>
      have hr_mem : r ∈ positions exchangeKey msgs m.exchangeKey := by
        rw [hsplit]
        simp
      obtain ⟨m'', hr, hkey⟩ := Option.map_eq_some_iff.1 (mem_positions.1 hr_mem)
      rcases List.mem_cons.1 hp_rest with rfl | hzs
      · exact ⟨⟨ys, zs, hsplit⟩, h.left, h.right⟩
      · exact absurd hkey (h.between r (hq_lt r List.mem_cons_self)
          ((List.pairwise_cons.1 hrest_sorted).1 p hzs) m'' hr)

/-- The start of a record, computed. -/
theorem Represents.startOf_run (h : Represents env msgs s) {ys zs : List RecordRef}
    (hsplit : positions exchangeKey msgs key = ys ++ p :: zs) :
    ∃ start m, (findStartOfExchange p).run s = .ok start s ∧
      History.startOf s.isInitiator s.fingerprint (ys ++ [p]) = some start ∧
      msgs[start]? = some m ∧ s.frameNum start = m.frameNum := by
  obtain ⟨start, hrun, hstart⟩ := findStartOfExchange_run (h.inExchangeList hsplit)
  have hlt : start < msgs.length := by
    apply @lt_of_mem_positions _ _ _ exchangeKey _ key
    rw [hsplit, List.append_cons]
    exact List.mem_append_left _ hstart.mem
  have hm := List.getElem?_eq_getElem hlt
  exact ⟨start, msgs[start], hrun, hstart.startOf_eq, hm, (h.fields hm).1⟩

/-- The start of every message is of its session exactly if no message goes on where another
session's is. -/
theorem Represents.starts_iff (h : Represents env msgs s) :
    (∀ (p : RecordRef) m, msgs[p]? = some m →
      ∃ start m', (findStartOfExchange p).run s = .ok start s ∧ msgs[start]? = some m' ∧
        s.frameNum start = m'.frameNum ∧ session m' = session m) ↔
      ∀ m' m q p, DirectlyBehind msgs m' m q p → GoesOn env m' m → session m' = session m := by
  have hchain : ∀ key, _ := fun key =>
    @starts_iff_isChain s.isInitiator s.fingerprint (positions exchangeKey msgs key) _
      fun p => msgs[p]?.map session
  constructor
  · intro hstarts m' m q p hbehind hgoesOn
    obtain ⟨⟨ys, zs, hsplit⟩, hq, hp⟩ := directlyBehind_iff.2 hbehind
    have hkeeps := (hchain m.exchangeKey).1 fun ys p zs hsplit => by
      obtain ⟨start, m₁, hrun, hstart, -⟩ := h.startOf_run hsplit
      have hp : p ∈ positions exchangeKey msgs m.exchangeKey := by
        rw [hsplit]
        simp
      obtain ⟨m₂, hm₂, -⟩ := Option.map_eq_some_iff.1 (mem_positions.1 hp)
      obtain ⟨start', m₁', hrun', hm₁', -, hsession⟩ := hstarts p m₂ hm₂
      rw [hrun] at hrun'
      cases hrun'
      rw [hstart, Option.map_some, hm₁', hm₂, Option.map_some, Option.map_some, hsession]
    have hlabel := List.isChain_iff_forall_rel_of_append_cons_cons.1 hkeeps hsplit
    rw [(h.fields hq).2.1, (h.fields hq).2.2, (h.fields hp).2.1, (h.fields hp).2.2, hq, hp]
      at hlabel
    exact Option.some.inj (hlabel hgoesOn)
  · intro hneighbours p m hp
    have hkeeps := (hchain m.exchangeKey).2 <| by
      rw [List.isChain_iff_forall_rel_of_append_cons_cons]
      intro q p ys zs hsplit hgoesOn
      have hmem : ∀ r ∈ [q, p], ∃ m₁, msgs[r]? = some m₁ ∧ m₁.exchangeKey = m.exchangeKey :=
        fun r hr => by
          apply Option.map_eq_some_iff.1 ∘ mem_positions.1
          rw [hsplit]
          simp at hr ⊢
          tauto
      obtain ⟨m₁, hq, hkey₁⟩ := hmem q (by simp)
      obtain ⟨m₂, hp, hkey₂⟩ := hmem p (by simp)
      rw [(h.fields hq).2.1, (h.fields hq).2.2, (h.fields hp).2.1, (h.fields hp).2.2] at hgoesOn
      rw [← hkey₂] at hsplit
      rw [hq, hp, Option.map_some, Option.map_some,
        hneighbours m₁ m₂ q p (directlyBehind_iff.1 ⟨⟨ys, zs, hsplit⟩, hq, hp⟩) hgoesOn]
    have hmem : p ∈ positions exchangeKey msgs m.exchangeKey := by
      rw [mem_positions, hp, Option.map_some]
    obtain ⟨ys, zs, hsplit⟩ := List.append_of_mem hmem
    obtain ⟨start, m', hrun, hstart, hm', hframe⟩ := h.startOf_run hsplit
    have hlabel := hkeeps ys p zs hsplit
    rw [hstart, Option.map_some, hm', hp] at hlabel
    exact ⟨start, m', hrun, hm', hframe, Option.some.inj (Option.some.inj hlabel)⟩

theorem Represents.exchangeChains_iff (h : Represents env msgs s)
    (hnodup : (msgs.map TrackedMessage.frameNum).Nodup) :
    ExchangeChainsApart session msgs s ↔ ExchangesApart env session msgs := by
  constructor
  · intro hapart
    refine ⟨fun m hm m' hm' hother hsame => ?_, h.starts_iff.1 hapart.starts⟩
    obtain ⟨p, hp⟩ := List.mem_iff_getElem?.1 hm
    obtain ⟨q, hq⟩ := List.mem_iff_getElem?.1 hm'
    have hkey := (exchangeKey_eq_iff hother).2 hsame
    exact hapart.chains p q m m' hp hq hother m.exchangeKey
      ⟨(h.mem_exchangeList hp).2 rfl, (h.mem_exchangeList hq).2 hkey.symm⟩
  · intro happ
    have hstarts := (@Represents.starts_iff _ session _ _ _ h).2 happ.neighbours
    refine ⟨fun p q m m' hp hq hother key => ?_, hstarts, fun p m hp => ?_⟩
    · rintro ⟨hpkey, hqkey⟩
      apply happ.initiators m (List.mem_of_getElem? hp) m' (List.mem_of_getElem? hq) hother
      rw [← exchangeKey_eq_iff hother, (h.mem_exchangeList hp).1 hpkey,
        (h.mem_exchangeList hq).1 hqkey]
    · obtain ⟨start, m₁, hrun, hm₁, hframe, hsession⟩ := hstarts p m hp
      have hlt : start < msgs.length := (List.getElem?_eq_some_iff.1 hm₁).1
      have hproto : s.protoData m.pinfo.num = some p := by
        rw [h.protoData_eq]
        exact placeOf_of_getElem hnodup hp
      have hfilter := exchangeFilterFrame_run hproto hrun (h.length_eq ▸ hlt)
      -- the number of the filter is the one of the start only
      have honly : ∀ (q : RecordRef) m', msgs[q]? = some m' → m'.frameNum = s.frameNum start →
          session m' = session m := by
        intro q m' hq heq
        rw [← (h.fields hq).1] at heq
        have hq_start := h.frameNum_inj hnodup (List.getElem?_eq_some_iff.1 hq).1 hlt heq
        rw [hq_start, hm₁] at hq
        rw [← Option.some.inj hq, hsession]
      refine ⟨s.frameNum start, hfilter, fun m' hm' heq => ?_, fun q m' hq hselects => ?_⟩
      · obtain ⟨q, hq⟩ := List.mem_iff_getElem?.1 hm'
        exact honly q m' hq heq
      · obtain ⟨num, start', hnum, hrun', hframe'⟩ := hselects
        rw [hfilter] at hnum
        cases hnum
        obtain ⟨start₂, m₂, hrun₂, hm₂, hframe₂, hsession₂⟩ := hstarts q m' hq
        rw [hrun'] at hrun₂
        cases hrun₂
        rw [← hsession₂]
        exact honly start' m₂ hm₂ (hframe₂.symm.trans hframe')

end

/-- The sessions are apart exactly if no two of them meet in an exchange. -/
theorem exchangeChainsApart_iff {ι : Type} (env : TrackerEnv) (session : TrackedMessage → ι)
    (run : List TrackedMessage) :
    (∃ results s, (findOrCreateAll env run).run .empty = .ok results s ∧
      ExchangeChainsApart session (recorded run) s) ↔
      ExchangesApart env session (recorded run) :=
  exists_findOrCreateAll_iff fun _ hs => hs.exchangeChains_iff (nodup_recorded run)

/-- Two sessions with one exchange id and no node ids. -/
def meetingExchanges : List TrackedMessage :=
  [sessionMessage 1 1 5 0x05, sessionMessage 2 2 9 0x05]

theorem exchangeChainsApart_meeting : ¬ ∀ (env : TrackerEnv) (session : TrackedMessage → Nat)
    (run : List TrackedMessage),
    ∃ results s, (findOrCreateAll env run).run .empty = .ok results s ∧
      ExchangeChainsApart session (recorded run) s := by
  intro h
  have happ := (exists_findOrCreateAll_iff fun _ hs => hs.exchangeChains_iff
    (nodup_recorded _)).1 (h crc32Ccitt (fun m => m.msgInfo.sessionId) meetingExchanges)
  rw [show recorded meetingExchanges = meetingExchanges from rfl] at happ
  exact happ.initiators (sessionMessage 1 1 5 0x05) (.head _)
    (sessionMessage 2 2 9 0x05) (.tail _ (.head _))
    ⟨rfl, rfl, rfl, rfl, rfl, rfl, by decide⟩ ⟨rfl, rfl, rfl⟩

end Matter.Tracker
