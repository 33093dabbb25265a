import MatterDissector.Tracker.Proof.Start

/-!
# The start of an exchange is stable

`StartOf` has one solution (`StartOf.unique`), and a start is its own start (`StartOf.self`). A run
of retransmissions has the start of its first message (`StartOf.retransmitted`).
-/

namespace Matter.Tracker

open Prog Message Intrusive

section
variable {s : TrackerState} {p q q' : RecordRef} {xs ys zs : List RecordRef}

/-! ## One start -/

/-- The last initiator message is not behind another one. -/
theorem length_le_of_initiator {l l' cs cs' : List RecordRef} (heq : l ++ cs = l' ++ cs')
    (hl' : ∀ b, l'.getLast? = some b → s.isInitiator b = true)
    (hcs : ∀ c ∈ cs, s.isInitiator c = false) : l'.length ≤ l.length := by
  rcases List.append_eq_append_iff.1 heq with ⟨u, rfl, hu⟩ | ⟨u, rfl, -⟩
  · cases u using List.reverseRecOn with
    | nil => rw [List.append_nil]
    | append_singleton u b _ =>
      have hb := hl' b (by rw [← List.append_assoc, List.getLast?_concat])
      rw [hcs b (by rw [hu]; simp)] at hb
      cases hb
  · rw [List.length_append]
    exact Nat.le_add_right _ _

/-- Of two runs of retransmissions that end together neither starts behind the other. -/
theorem length_le_of_retransmissions {as as' bs bs' : List RecordRef}
    (heq : as ++ q :: bs = as' ++ q' :: bs')
    (hbs' : ∀ b ∈ q' :: bs', s.isInitiator b = true ∧ s.fingerprint b = s.fingerprint q')
    (has : ∀ a, as.getLast? = some a →
      ¬ (s.isInitiator a = true ∧ s.fingerprint a = s.fingerprint q)) :
    as.length ≤ as'.length := by
  rcases List.append_eq_append_iff.1 heq with ⟨u, rfl, -⟩ | ⟨u, rfl, hu⟩
  · rw [List.length_append]
    exact Nat.le_add_right _ _
  · cases u using List.reverseRecOn with
    | nil => rw [List.append_nil]
    | append_singleton u a _ =>
      have ha := hbs' a (by rw [hu]; simp)
      have hq := hbs' q (by rw [hu]; simp)
      have hlast : (as' ++ (u ++ [a])).getLast? = some a := by
        rw [← List.append_assoc, List.getLast?_concat]
      exact absurd ⟨ha.1, ha.2.trans hq.2.symm⟩ (has a hlast)

theorem StartOf.unique (h : StartOf s xs q) (h' : StartOf s xs q') : q' = q := by
  have hlast : ∀ {as bs : List RecordRef} {q : RecordRef}, s.isInitiator q = true →
      (∀ b ∈ bs, s.isInitiator b = true ∧ s.fingerprint b = s.fingerprint q) →
      ∀ b, (as ++ q :: bs).getLast? = some b → s.isInitiator b = true := by
    intro as bs q hq hbs b hb
    rw [List.getLast?_append_cons] at hb
    rcases List.mem_cons.1 (List.mem_of_getLast? hb) with rfl | hb
    · exact hq
    · exact (hbs b hb).1
  cases h with
  | oldest cs hxs hcs =>
    cases h' with
    | oldest cs' hxs' hcs' =>
      rw [hxs] at hxs'
      exact (List.cons.inj hxs').1.symm
    | initiator as' bs' cs' hxs' hq' =>
      have hnone := hcs q' (by rw [← hxs, hxs']; simp)
      rw [hq'] at hnone
      cases hnone
  | initiator as bs cs hxs hq hbs hcs has =>
    cases h' with
    | oldest cs' hxs' hcs' =>
      have hnone := hcs' q (by rw [← hxs', hxs]; simp)
      rw [hq] at hnone
      cases hnone
    | initiator as' bs' cs' hxs' hq' hbs' hcs' has' =>
      have heq : (as ++ q :: bs) ++ cs = (as' ++ q' :: bs') ++ cs' := by
        simpa using hxs.symm.trans hxs'
      have hlength := Nat.le_antisymm
        (length_le_of_initiator heq.symm (hlast hq hbs) hcs')
        (length_le_of_initiator heq (hlast hq' hbs') hcs)
      have hruns := (List.append_inj heq hlength).1
      have hself : ∀ {bs : List RecordRef} {q : RecordRef}, s.isInitiator q = true →
          (∀ b ∈ bs, s.isInitiator b = true ∧ s.fingerprint b = s.fingerprint q) →
          ∀ b ∈ q :: bs, s.isInitiator b = true ∧ s.fingerprint b = s.fingerprint q :=
        fun hq hbs => List.forall_mem_cons.2 ⟨⟨hq, rfl⟩, hbs⟩
      have hfronts := Nat.le_antisymm
        (length_le_of_retransmissions hruns (hself hq' hbs') has)
        (length_le_of_retransmissions hruns.symm (hself hq hbs) has')
      exact (List.cons.inj (List.append_inj hruns hfronts).2).1.symm

/-- In front of what follows it, a start is the start of itself. -/
theorem StartOf.self (h : StartOf s xs q) :
    ∃ ys zs, xs = ys ++ q :: zs ∧ StartOf s (ys ++ [q]) q := by
  cases h with
  | initiator as bs cs hxs hq hbs hcs has =>
    exact ⟨as, bs ++ cs, by rw [hxs]; simp,
      .initiator as [] [] (by simp) hq (by simp) (by simp) has⟩
  | oldest cs hxs hcs =>
    exact ⟨[], cs, hxs, .oldest [] rfl fun c hc => hcs c (by simp at hc ⊢; exact .inl hc)⟩

/-- Retransmissions have the start of the message. -/
theorem StartOf.retransmitted (h : StartOf s (ys ++ [p]) q) {bs : List RecordRef}
    (hbs : ∀ b ∈ p :: bs, s.isInitiator b = true ∧ s.fingerprint b = s.fingerprint p) :
    StartOf s (ys ++ p :: bs) q := by
  have hp := (hbs p List.mem_cons_self).1
  cases h with
  | oldest cs hxs hcs =>
    have hnone := hcs p (by rw [← hxs]; simp)
    rw [hp] at hnone
    cases hnone
  | initiator as bs' cs hxs hq hbs' hcs has =>
    cases cs using List.reverseRecOn with
    | append_singleton cs c _ =>
      rw [← List.append_assoc] at hxs
      obtain ⟨-, rfl⟩ := snoc_inj hxs
      have hnone := hcs p (by simp)
      rw [hp] at hnone
      cases hnone
    | nil =>
      rw [List.append_nil] at hxs
      have hfingerprint : s.fingerprint p = s.fingerprint q := by
        have hmem : (q :: bs').getLast? = some p := by
          have hlast := congrArg List.getLast? hxs
          rwa [List.getLast?_concat, List.getLast?_append_cons, eq_comm] at hlast
        rcases List.mem_cons.1 (List.mem_of_getLast? hmem) with rfl | hp'
        · rfl
        · exact (hbs' p hp').2
      refine .initiator as (bs' ++ bs) [] ?_ hq (fun b hb => ?_) (by simp) has
      · rw [List.append_cons, hxs]
        simp
      · rcases List.mem_append.1 hb with hb | hb
        · exact hbs' b hb
        · have hb := hbs b (List.mem_cons_of_mem _ hb)
          exact ⟨hb.1, hb.2.trans hfingerprint⟩

/-- The start is an initiator message if there is one, and the head of the list otherwise. -/
theorem StartOf.role (h : StartOf s xs q) :
    ((∃ a ∈ xs, s.isInitiator a = true) → s.isInitiator q = true) ∧
      ((∀ a ∈ xs, s.isInitiator a = false) → xs.head? = some q) := by
  cases h with
  | initiator as bs cs hxs hq =>
    refine ⟨fun _ => hq, fun hnone => ?_⟩
    have hfalse := hnone q (by rw [hxs]; simp)
    rw [hq] at hfalse
    cases hfalse
  | oldest cs hxs hcs =>
    refine ⟨fun ⟨a, ha, hinitiator⟩ => ?_, fun _ => by rw [hxs]; rfl⟩
    rw [hcs a (hxs ▸ ha)] at hinitiator
    cases hinitiator

/-! ## The chain of an exchange -/

/-- The records `xs` are linked in both directions, and no others are. -/
structure ExchangeChain (s : TrackerState) (xs : List RecordRef) : Prop where
  linked : Linked (s.link byExchange.next) (s.link byExchange.prev) xs
  bound : ∀ q ∈ xs, q < s.records.length

theorem ExchangeChain.inList (h : ExchangeChain s (ys ++ p :: zs)) :
    InList byExchange s ys p zs := ⟨h.linked, h.bound⟩

theorem Represents.exchangeChain {env : TrackerEnv} {msgs : List TrackedMessage}
    (h : Represents env msgs s) {key : Key} (hne : s.exchangeList key ≠ []) :
    ExchangeChain s (s.exchangeList key) := by
  obtain ⟨p, zs, hlist⟩ := List.exists_cons_of_ne_nil hne
  rw [h.exchangeList_eq] at hlist ⊢
  have hin : InList Tracker.byExchange s [] p zs := h.inExchangeList hlist
  rw [hlist]
  exact ⟨hin.linked, hin.bound⟩

/-- `FindStartOfExchange` returns the one start. -/
theorem findStartOfExchange_eq (h : InList byExchange s ys p zs) (hq : StartOf s (ys ++ [p]) q) :
    (findStartOfExchange p).run s = .ok q s := by
  obtain ⟨q', hrun, hq'⟩ := findStartOfExchange_run h
  rwa [hq.unique hq'] at hrun

/-- In a chain every record has a start at or before it, which is its own start, and the packet
that the filter for the record names passes that filter. It is an initiator message if there is
one at or before the record, and the head of the chain otherwise. Records of a run of
retransmissions have one start. -/
theorem findStartOfExchange_stable (h : ExchangeChain s xs) :
    (∀ ys p zs, xs = ys ++ p :: zs → ∃ q, (findStartOfExchange p).run s = .ok q s ∧
      q ∈ ys ++ [p] ∧ (findStartOfExchange q).run s = .ok q s ∧
      (∀ pinfo : PacketInfo, s.protoData pinfo.num = some p → FilterSelects s pinfo q) ∧
      ((∃ a ∈ ys ++ [p], s.isInitiator a = true) → s.isInitiator q = true) ∧
      ((∀ a ∈ ys ++ [p], s.isInitiator a = false) → xs.head? = some q)) ∧
    ∀ ys p mid p' zs, xs = ys ++ p :: (mid ++ p' :: zs) →
      (∀ b ∈ p :: (mid ++ [p']), s.isInitiator b = true ∧ s.fingerprint b = s.fingerprint p) →
      ∃ q, (findStartOfExchange p).run s = .ok q s ∧ (findStartOfExchange p').run s = .ok q s := by
  constructor
  · rintro ys p zs rfl
    obtain ⟨q, hrun, hq⟩ := findStartOfExchange_run h.inList
    obtain ⟨ys', zs', hsplit, hself⟩ := hq.self
    have hchain : ys ++ p :: zs = ys' ++ q :: (zs' ++ zs) := by
      rw [List.append_cons, hsplit]
      simp
    have hselfRun : (findStartOfExchange q).run s = .ok q s :=
      findStartOfExchange_eq (hchain ▸ h : ExchangeChain s _).inList hself
    have hbound : q < s.records.length := h.bound q (by rw [hchain]; simp)
    obtain ⟨hinitiator, hhead⟩ := hq.role
    refine ⟨q, hrun, hq.mem, hselfRun, fun pinfo hpinfo => ?_, hinitiator, fun hnone => ?_⟩
    · exact ⟨s.frameNum q, q, exchangeFilterFrame_run hpinfo hrun hbound, hselfRun, rfl⟩
    · rw [List.append_cons, List.head?_append, hhead hnone]
      rfl
  · rintro ys p mid p' zs rfl hbs
    obtain ⟨q, hrun, hq⟩ := findStartOfExchange_run h.inList
    have hretransmitted := hq.retransmitted hbs
    have hchain : ys ++ p :: (mid ++ p' :: zs) = (ys ++ p :: mid) ++ p' :: zs := by simp
    have hrest : ys ++ p :: (mid ++ [p']) = (ys ++ p :: mid) ++ [p'] := by simp
    rw [hrest] at hretransmitted
    exact ⟨q, hrun, findStartOfExchange_eq (hchain ▸ h : ExchangeChain s _).inList hretransmitted⟩

end

/-- The exchange of `pase`, whose second request is a start of its own. -/
theorem findStartOfExchange_stable_pase : ∃ results s,
    (findOrCreateAll crc32Ccitt pase).run .empty = .ok results s ∧ ExchangeChain s [0, 1, 2] ∧
    ((∀ ys p zs, [0, 1, 2] = ys ++ p :: zs → ∃ q, (findStartOfExchange p).run s = .ok q s ∧
      q ∈ ys ++ [p] ∧ (findStartOfExchange q).run s = .ok q s ∧
      (∀ pinfo : PacketInfo, s.protoData pinfo.num = some p → FilterSelects s pinfo q) ∧
      ((∃ a ∈ ys ++ [p], s.isInitiator a = true) → s.isInitiator q = true) ∧
      ((∀ a ∈ ys ++ [p], s.isInitiator a = false) → [0, 1, 2].head? = some q)) ∧
    ∀ ys p mid p' zs, [0, 1, 2] = ys ++ p :: (mid ++ p' :: zs) →
      (∀ b ∈ p :: (mid ++ [p']), s.isInitiator b = true ∧ s.fingerprint b = s.fingerprint p) →
      ∃ q, (findStartOfExchange p).run s = .ok q s ∧ (findStartOfExchange p').run s = .ok q s) := by
  obtain ⟨s, hrun, hs⟩ := findOrCreateAll_run crc32Ccitt pase
  rw [show recorded pase = pase from rfl] at hs
  have hlist : s.exchangeList [0, 0, 0, 0, 0] = [0, 1, 2] := by
    rw [hs.exchangeList_eq]
    decide
  have hchain := @Represents.exchangeChain s _ _ hs [0, 0, 0, 0, 0] (by rw [hlist]; decide)
  rw [hlist] at hchain
  exact ⟨_, s, hrun, hchain, findStartOfExchange_stable hchain⟩

end Matter.Tracker
