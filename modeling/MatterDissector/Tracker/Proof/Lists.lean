import MatterDissector.Lib.Intrusive
import Mathlib.Data.List.Perm.Subperm
import MatterDissector.Tracker.Tracker

/-!
# The lists of the tracker

A loop over an intrusive list is a fold over its elements (`forRecords_path`), and appending a
record changes two links (`addToList_path`, `linkBehind`).
-/

namespace Matter.Tracker

open Prog Message Intrusive

section
variable {α β : Type} {s s' : TrackerState} {p : RecordRef} {xs : List RecordRef}

/-! ## Loops -/

theorem load_run {r : MatterMessageRecord} (h : s.records[p]? = some r) :
    (load p).run s = .ok r s := by
  rw [load, gets_bind, h]
  rfl

theorem exists_load (h : p < s.records.length) : ∃ r, s.records[p]? = some r ∧
    (load p).run s = .ok r s :=
  ⟨s.records[p], List.getElem?_eq_getElem h, load_run (List.getElem?_eq_getElem h)⟩

theorem link_eq {field : MatterMessageRecord → Option RecordRef} {r : MatterMessageRecord}
    (h : s.records[p]? = some r) : s.link field p = field r := by
  rw [TrackerState.link, h, Option.bind_some]

/-- The same values of `g`: so the same addresses, and the same links if `g` is one. -/
theorem length_of_map_eq {γ : Type} {g : MatterMessageRecord → γ}
    {rs rs' : List MatterMessageRecord} (h : rs'.map g = rs.map g) : rs'.length = rs.length := by
  simpa using congrArg List.length h

theorem bind_of_map_eq {field : MatterMessageRecord → Option RecordRef}
    {rs rs' : List MatterMessageRecord} (h : rs'.map field = rs.map field) (p : RecordRef) :
    rs'[p]?.bind field = rs[p]?.bind field := by
  have hp := congrArg (fun rs : List (Option RecordRef) => rs[p]?.bind id) h
  simpa only [List.getElem?_map, Option.bind_map, Function.id_comp] using hp

theorem link_of_map_eq {field : MatterMessageRecord → Option RecordRef}
    (h : s'.records.map field = s.records.map field) : s'.link field = s.link field :=
  funext (bind_of_map_eq h)

theorem forRecords_loop {next : MatterMessageRecord → Option RecordRef}
    {body : β → RecordRef → TrackerM β}
    (hbody : ∀ b p, Leaves (fun s : TrackerState => s.records.map next) (body b p))
    {first : Option RecordRef} {fuel : Nat} (b : β) (hpath : Path (s.link next) first xs)
    (hbound : ∀ p ∈ xs, p < s.records.length) (hfuel : xs.length < fuel) :
    (loop .outOfFuel (recordRound next body) fuel (first, b)).run s =
      (xs.foldlM body b).run s := by
  induction xs generalizing s first fuel b with
  | nil =>
    obtain ⟨fuel, rfl⟩ := Nat.exists_eq_succ_of_ne_zero (Nat.ne_of_gt (Nat.zero_lt_of_lt hfuel))
    rw [show first = none from hpath]
    rfl
  | cons p xs ih =>
    obtain ⟨fuel, rfl⟩ := Nat.exists_eq_succ_of_ne_zero (Nat.ne_of_gt (Nat.zero_lt_of_lt hfuel))
    obtain ⟨rfl, hpath⟩ := hpath
    rw [loop_succ, recordRound, List.foldlM_cons]
    cases hrun : (body b p).run s with
    | err e s₁ => rw [run_bind, bind_err hrun, bind_err hrun]
    | fault f => rw [run_bind, run_bind, run_bind, hrun]
    | ok b₁ s₁ =>
      -- the body has kept the links
      have hmap := (hbody b p).ok hrun
      have hlink := link_of_map_eq hmap
      have hlen := length_of_map_eq hmap
      have hp : p < s₁.records.length := by rw [hlen]; exact hbound p List.mem_cons_self
      obtain ⟨r, hr, hload⟩ := exists_load hp
      rw [run_bind, bind_ok hrun, bind_ok hload, run_pure, bind_ok hrun]
      show (loop _ _ fuel (next r, b₁)).run s₁ = _
      refine ih b₁ ?_ (fun q hq => by rw [hlen]; exact hbound q (List.mem_cons_of_mem p hq))
        (by simpa using hfuel)
      rw [← show s₁.link next p = next r from link_eq hr, hlink]
      exact hpath

/-- There are no more different addresses than records. -/
theorem length_le_of_bound {n : Nat} (hbound : ∀ p ∈ xs, p < n) (hnodup : xs.Nodup) :
    xs.length ≤ n := by
  have hsubset : xs ⊆ List.range n := fun p hp => List.mem_range.2 (hbound p hp)
  have hle := (List.Nodup.subperm hnodup hsubset).length_le
  rwa [List.length_range] at hle

/-- A loop along the links `next` is a fold over the elements on the way. -/
theorem forRecords_path {next : MatterMessageRecord → Option RecordRef}
    {body : β → RecordRef → TrackerM β}
    (hbody : ∀ b p, Leaves (fun s : TrackerState => s.records.map next) (body b p))
    {first : Option RecordRef} (b : β) (hpath : Path (s.link next) first xs)
    (hbound : ∀ p ∈ xs, p < s.records.length) (hnodup : xs.Nodup) :
    (forRecords next body first b).run s = (xs.foldlM body b).run s := by
  rw [forRecords, run_whileLoop]
  exact forRecords_loop hbody b hpath hbound
    (Nat.lt_succ_of_le (length_le_of_bound hbound hnodup))

/-- A fold whose rounds only read. -/
theorem foldlM_read {f : β → RecordRef → β} {body : β → RecordRef → TrackerM β}
    (hbody : ∀ b, ∀ p ∈ xs, (body b p).run s = .ok (f b p) s) (b : β) :
    (xs.foldlM body b).run s = .ok (xs.foldl f b) s := by
  induction xs generalizing b with
  | nil => rfl
  | cons p xs ih =>
    rw [List.foldlM_cons, bind_ok (hbody b p List.mem_cons_self), List.foldl_cons]
    exact ih (fun b q hq => hbody b q (List.mem_cons_of_mem p hq)) _

/-! ## Appending -/

theorem lastRecord_path {links : Links} {msgs : Option RecordRef}
    (hpath : Path (s.link links.next) msgs xs) (hbound : ∀ p ∈ xs, p < s.records.length)
    (hnodup : xs.Nodup) : (lastRecord links msgs).run s = .ok xs.getLast? s := by
  rw [lastRecord, forRecords_path (fun _ _ => .pure _) none hpath hbound hnodup,
    foldlM_read (f := fun _ p => some p) (fun _ _ _ => rfl)]
  congr 1
  induction xs using List.reverseRecOn with
  | nil => rfl
  | append_singleton xs p _ => rw [List.foldl_append, List.getLast?_append]; rfl

/-- The record `n` behind `last`. -/
def linkBehind (links : Links) (last : Option RecordRef) (n : RecordRef)
    (records : List MatterMessageRecord) : List MatterMessageRecord :=
  match last with
  | some p => (records.modify p (links.setNext n)).modify n (links.setPrev p)
  | none => records

theorem addToList_path {links : Links} {msgs : Option RecordRef} {insert : TrackerM Unit}
    {n : RecordRef} (hpath : Path (s.link links.next) msgs xs)
    (hbound : ∀ p ∈ xs, p < s.records.length) (hnodup : xs.Nodup) :
    (addToList links msgs insert n).run s =
      if xs = [] then insert.run s
      else .ok () { s with records := linkBehind links xs.getLast? n s.records } := by
  rw [addToList, bind_ok (lastRecord_path hpath hbound hnodup)]
  cases xs using List.reverseRecOn with
  | nil => rfl
  | append_singleton xs p _ =>
    rw [if_neg (by simp), List.getLast?_append]
    rfl

/-- The setters leave `g` alone. -/
structure Links.Keeps (links : Links) (g : MatterMessageRecord → α) : Prop where
  setNext : ∀ p r, g (links.setNext p r) = g r
  setPrev : ∀ p r, g (links.setPrev p r) = g r

/-- The setters set their own link. -/
structure Links.Lawful (links : Links) : Prop where
  next_setNext : ∀ p r, links.next (links.setNext p r) = some p
  next_setPrev : ∀ p r, links.next (links.setPrev p r) = links.next r
  prev_setPrev : ∀ p r, links.prev (links.setPrev p r) = some p
  prev_setNext : ∀ p r, links.prev (links.setNext p r) = links.prev r

theorem byMsgCntr_lawful : byMsgCntr.Lawful :=
  ⟨fun _ _ => rfl, fun _ _ => rfl, fun _ _ => rfl, fun _ _ => rfl⟩

theorem byExchange_lawful : byExchange.Lawful :=
  ⟨fun _ _ => rfl, fun _ _ => rfl, fun _ _ => rfl, fun _ _ => rfl⟩

section
variable {links : Links} {last : Option RecordRef} {n : RecordRef}
  {records : List MatterMessageRecord}

theorem map_modify_of_keeps {g : MatterMessageRecord → α}
    {f : MatterMessageRecord → MatterMessageRecord} (h : ∀ r, g (f r) = g r) (p : RecordRef) :
    (records.modify p f).map g = records.map g := by
  refine List.ext_getElem? fun q => ?_
  rw [List.getElem?_map, List.getElem?_map, List.getElem?_modify]
  cases records[q]? with
  | none => rfl
  | some r => by_cases hq : p = q <;> simp [hq, h]

theorem map_linkBehind {g : MatterMessageRecord → α} (h : links.Keeps g) :
    (linkBehind links last n records).map g = records.map g := by
  cases last with
  | none => rfl
  | some p =>
    rw [linkBehind, map_modify_of_keeps (h.setPrev p), map_modify_of_keeps (h.setNext n)]

theorem next_linkBehind (h : links.Lawful) (hp : last ≠ some p) :
    (linkBehind links last n records)[p]?.bind links.next = records[p]?.bind links.next := by
  cases last with
  | none => rfl
  | some q =>
    have hq : q ≠ p := fun heq => hp (congrArg some heq)
    rw [linkBehind, List.getElem?_modify, List.getElem?_modify]
    cases records[p]? with
    | none => rfl
    | some r => by_cases hn : n = p <;> simp [hn, hq, h.next_setPrev]

theorem next_linkBehind_last (h : links.Lawful) (hp : p < records.length) :
    (linkBehind links (some p) n records)[p]?.bind links.next = some n := by
  rw [linkBehind, List.getElem?_modify, List.getElem?_modify, List.getElem?_eq_getElem hp]
  by_cases hn : n = p <;> simp [hn, h.next_setPrev, h.next_setNext]

theorem prev_linkBehind (h : links.Lawful) (hp : p ≠ n) :
    (linkBehind links last n records)[p]?.bind links.prev = records[p]?.bind links.prev := by
  cases last with
  | none => rfl
  | some q =>
    rw [linkBehind, List.getElem?_modify, List.getElem?_modify]
    cases records[p]? with
    | none => rfl
    | some r => by_cases hq : q = p <;> simp [hq, Ne.symm hp, h.prev_setNext]

theorem prev_linkBehind_new (h : links.Lawful) (hn : n < records.length)
    (hprev : records[n]?.bind links.prev = none) :
    (linkBehind links last n records)[n]?.bind links.prev = last := by
  cases last with
  | none => exact hprev
  | some q =>
    rw [linkBehind, List.getElem?_modify, List.getElem?_modify, List.getElem?_eq_getElem hn]
    by_cases hq : q = n <;> simp [hq, h.prev_setPrev]

end

end

end Matter.Tracker
