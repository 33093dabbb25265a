import Mathlib.Data.List.Induction
import Mathlib.Data.List.Nodup

/-!
# Intrusive lists

Doubly linked lists whose links are fields of their elements. `Linked next prev xs`: the links
among the elements of `xs` are those of a finite list without a cycle. `Linked.snoc` appends an
element, `Linked.congr` is the frame rule.

`Chained`: elements numbered in the order of their creation, each with a key, and for every key a
list of the elements that have it, oldest first, behind a head pointer. `Chained.snoc` creates an
element and appends it to the list of its key.
-/

namespace Intrusive

variable {ρ : Type} {next prev next' prev' : ρ → Option ρ} {xs ys zs : List ρ} {a b : ρ}

/-! ## Walking along links -/

/-- From `p`, the links lead over `xs` to an element without one. -/
def Path (next : ρ → Option ρ) : Option ρ → List ρ → Prop
  | p, [] => p = none
  | p, a :: xs => p = some a ∧ Path next (next a) xs

/-- The elements from `p` on, `n` of them at most. -/
def walk (next : ρ → Option ρ) : Nat → Option ρ → List ρ
  | 0, _ => []
  | _ + 1, none => []
  | n + 1, some a => a :: walk next n (next a)

theorem Path.head_eq {p : Option ρ} (h : Path next p xs) : p = xs.head? := by
  cases xs with
  | nil => exact h
  | cons a xs => exact h.1

theorem Path.congr {p : Option ρ} (h : Path next p xs) (hnext : ∀ a ∈ xs, next' a = next a) :
    Path next' p xs := by
  induction xs generalizing p with
  | nil => exact h
  | cons a xs ih =>
    refine ⟨h.1, ?_⟩
    rw [hnext a List.mem_cons_self]
    exact ih h.2 fun b hb => hnext b (List.mem_cons_of_mem a hb)

theorem Path.walk_eq {p : Option ρ} {n : Nat} (h : Path next p xs) (hn : xs.length ≤ n) :
    walk next n p = xs := by
  induction xs generalizing p n with
  | nil =>
    rw [show p = none from h]
    cases n <;> rfl
  | cons a xs ih =>
    obtain ⟨rfl, htail⟩ := h
    cases n with
    | zero => exact absurd hn (by simp)
    | succ n => rw [walk, ih htail (by simpa using hn)]

/-! ## Doubly linked lists -/

/-- Each element of `xs` is linked to the one behind it and to the one in front of it, and no
element occurs twice. -/
structure Linked (next prev : ρ → Option ρ) (xs : List ρ) : Prop where
  nodup : xs.Nodup
  next_eq : ∀ {ys a zs}, xs = ys ++ a :: zs → next a = zs.head?
  prev_eq : ∀ {ys a zs}, xs = ys ++ a :: zs → prev a = ys.getLast?

theorem Linked.nil : Linked next prev [] where
  nodup := .nil
  next_eq h := by simp at h
  prev_eq h := by simp at h

theorem Linked.path_of_suffix (h : Linked next prev xs) (hxs : xs = ys ++ zs) :
    Path next zs.head? zs := by
  induction zs generalizing ys with
  | nil => rfl
  | cons a zs ih =>
    refine ⟨rfl, ?_⟩
    rw [h.next_eq hxs]
    exact ih (show xs = (ys ++ [a]) ++ zs by simp [hxs])

/-- The whole list, from its head. -/
theorem Linked.path (h : Linked next prev xs) : Path next xs.head? xs :=
  h.path_of_suffix (List.nil_append xs).symm

theorem Linked.path_next (h : Linked next prev xs) (hxs : xs = ys ++ a :: zs) :
    Path next (next a) zs := by
  rw [h.next_eq hxs]
  exact h.path_of_suffix (show xs = (ys ++ [a]) ++ zs by simp [hxs])

theorem Linked.path_of_prefix (h : Linked next prev xs) (hxs : xs = ys ++ zs) :
    Path prev ys.getLast? ys.reverse := by
  induction ys using List.reverseRecOn generalizing zs with
  | nil => rfl
  | append_singleton ys a ih =>
    rw [List.getLast?_append, List.reverse_append]
    refine ⟨rfl, ?_⟩
    have hsplit : xs = ys ++ a :: zs := by simpa using hxs
    rw [h.prev_eq hsplit]
    exact ih hsplit

/-- Back from an element to the head. -/
theorem Linked.path_prev (h : Linked next prev xs) (hxs : xs = ys ++ a :: zs) :
    Path prev (prev a) ys.reverse := by
  rw [h.prev_eq hxs]
  exact h.path_of_prefix hxs

theorem Linked.head_prev (h : Linked next prev xs) (ha : xs.head? = some a) : prev a = none := by
  cases xs with
  | nil => cases ha
  | cons b xs =>
    cases ha
    exact h.prev_eq (List.nil_append (a :: xs)).symm

/-- `p->next->prev = p`. -/
theorem Linked.prev_next (h : Linked next prev xs) (ha : a ∈ xs) (hnext : next a = some b) :
    prev b = some a := by
  obtain ⟨ys, zs, rfl⟩ := List.append_of_mem ha
  rw [h.next_eq rfl] at hnext
  cases zs with
  | nil => cases hnext
  | cons c zs =>
    cases hnext
    rw [h.prev_eq (show ys ++ a :: b :: zs = (ys ++ [a]) ++ b :: zs by simp)]
    simp

theorem Linked.congr (h : Linked next prev xs) (hnext : ∀ a ∈ xs, next' a = next a)
    (hprev : ∀ a ∈ xs, prev' a = prev a) : Linked next' prev' xs where
  nodup := h.nodup
  next_eq hxs := by rw [hnext _ (by simp [hxs]), h.next_eq hxs]
  prev_eq hxs := by rw [hprev _ (by simp [hxs]), h.prev_eq hxs]

theorem snoc_inj (h : xs ++ [a] = ys ++ [b]) : xs = ys ∧ a = b := by
  obtain ⟨hxs, hab⟩ := List.append_inj' h rfl
  exact ⟨hxs, List.singleton_inj.1 hab⟩

/-- The links of `xs` with `b` behind its last element. -/
theorem Linked.snoc (h : Linked next prev xs) (hb : b ∉ xs)
    (hnext : ∀ a ∈ xs, xs.getLast? ≠ some a → next' a = next a)
    (hlast : ∀ a, xs.getLast? = some a → next' a = some b) (hnext' : next' b = none)
    (hprev : ∀ a ∈ xs, prev' a = prev a) (hprev' : prev' b = xs.getLast?) :
    Linked next' prev' (xs ++ [b]) where
  nodup := by
    rw [List.nodup_append]
    exact ⟨h.nodup, List.nodup_singleton b, fun a ha c hc hac => by
      rw [List.mem_singleton.1 hc] at hac
      exact hb (hac ▸ ha)⟩
  next_eq {ys a zs} hsplit := by
    rcases List.eq_nil_or_concat zs with rfl | ⟨zs, c, rfl⟩
    · obtain ⟨rfl, rfl⟩ := snoc_inj hsplit
      exact hnext'
    · obtain ⟨rfl, rfl⟩ := snoc_inj (by simpa using hsplit : xs ++ [b] = (ys ++ a :: zs) ++ [c])
      cases zs with
      | nil => exact hlast a (by simp)
      | cons d zs =>
        rw [hnext a (by simp) fun hlast => ?_, h.next_eq rfl]
        · rfl
        have hmem : a ∈ d :: zs := by
          rw [List.getLast?_append, List.getLast?_cons_cons] at hlast
          exact List.mem_of_getLast? (by simpa using hlast)
        exact (List.nodup_cons.1 (List.nodup_append.1 h.nodup).2.1).1 hmem
  prev_eq {ys a zs} hsplit := by
    rcases List.eq_nil_or_concat zs with rfl | ⟨zs, c, rfl⟩
    · obtain ⟨rfl, rfl⟩ := snoc_inj hsplit
      exact hprev'
    · obtain ⟨rfl, rfl⟩ := snoc_inj (by simpa using hsplit : xs ++ [b] = (ys ++ a :: zs) ++ [c])
      rw [hprev a (by simp), h.prev_eq rfl]

/-- The links from `head` on are those of a finite doubly linked list, with the elements `xs`. -/
structure DoublyLinked (next prev : ρ → Option ρ) (head : Option ρ) (xs : List ρ) : Prop where
  path : Path next head xs
  nodup : xs.Nodup
  head_prev : ∀ p, head = some p → prev p = none
  prev_next : ∀ p ∈ xs, ∀ q, next p = some q → prev q = some p

theorem Linked.doublyLinked (h : Linked next prev xs) : DoublyLinked next prev xs.head? xs where
  path := h.path
  nodup := h.nodup
  head_prev _ hp := h.head_prev hp
  prev_next _ hp _ hq := h.prev_next hp hq

/-! ## A list for every key -/

section
variable {α κ : Type} [DecidableEq κ] {key : α → κ} {items : List α} {k : κ} {item : α} {p : Nat}

/-- The numbers of the items with the key `k`, in order. -/
def positions (key : α → κ) (items : List α) (k : κ) : List Nat :=
  items.findIdxs fun item => key item = k

theorem mem_positions : p ∈ positions key items k ↔ items[p]?.map key = some k := by
  rw [positions, List.mem_findIdxs_iff_exists_getElem_pos]
  constructor
  · rintro ⟨hp, hk⟩
    rw [List.getElem?_eq_getElem hp]
    simpa using hk
  · intro h
    obtain ⟨item, hitem, hk⟩ := Option.map_eq_some_iff.1 h
    obtain ⟨hp, rfl⟩ := List.getElem?_eq_some_iff.1 hitem
    exact ⟨hp, by simpa using hk⟩

theorem lt_of_mem_positions (h : p ∈ positions key items k) : p < items.length := by
  obtain ⟨item, hitem, -⟩ := Option.map_eq_some_iff.1 (mem_positions.1 h)
  exact (List.getElem?_eq_some_iff.1 hitem).1

theorem positions_append : positions key (items ++ [item]) k =
    positions key items k ++ if key item = k then [items.length] else [] := by
  rw [positions, List.findIdxs_append, positions, Nat.zero_add]
  by_cases h : key item = k <;> simp [h]

theorem nodup_positions : (positions key items k).Nodup := List.nodup_findIdxs

theorem length_positions_le : (positions key items k).length ≤ items.length := by
  rw [positions, List.length_findIdxs]
  exact List.countP_le_length

/-- The lists of the items, by key. -/
structure Chained (key : α → κ) (items : List α) (head : κ → Option Nat)
    (next prev : Nat → Option Nat) : Prop where
  head_eq : ∀ k, head k = (positions key items k).head?
  linked : ∀ k, Linked next prev (positions key items k)

/-- Every item is in the list of its key, and in no other. -/
theorem existsUnique_positions (hp : p < items.length) : ∃! k, p ∈ positions key items k := by
  refine ⟨key items[p], mem_positions.2 (by rw [List.getElem?_eq_getElem hp]; rfl), fun k hk => ?_⟩
  have hk := mem_positions.1 hk
  rw [List.getElem?_eq_getElem hp] at hk
  exact (Option.some.inj hk).symm

variable {head head' : κ → Option Nat} {next prev next' prev' : Nat → Option Nat}

theorem Chained.nil : Chained key [] (fun _ => none) next prev :=
  ⟨fun _ => rfl, fun _ => .nil⟩

theorem Chained.path (h : Chained key items head next prev) (k : κ) :
    Path next (head k) (positions key items k) := by
  rw [h.head_eq]
  exact (h.linked k).path

theorem Chained.doublyLinked (h : Chained key items head next prev) (k : κ) :
    DoublyLinked next prev (head k) (positions key items k) := by
  rw [h.head_eq]
  exact (h.linked k).doublyLinked

/-- An item is created and appended to the list of its key. -/
theorem Chained.snoc (h : Chained key items head next prev)
    (hhead : ∀ k, head' k =
      if key item = k ∧ positions key items k = [] then some items.length else head k)
    (hnext : ∀ p < items.length, (positions key items (key item)).getLast? ≠ some p →
      next' p = next p)
    (hlast : ∀ p, (positions key items (key item)).getLast? = some p →
      next' p = some items.length)
    (hnext' : next' items.length = none) (hprev : ∀ p < items.length, prev' p = prev p)
    (hprev' : prev' items.length = (positions key items (key item)).getLast?) :
    Chained key (items ++ [item]) head' next' prev' where
  head_eq k := by
    rw [hhead, positions_append, h.head_eq]
    by_cases hk : key item = k
    · rw [if_pos hk]
      cases positions key items k with
      | nil => rw [if_pos ⟨hk, rfl⟩]; rfl
      | cons p ps => rw [if_neg (by simp)]; rfl
    · rw [if_neg (fun hc => hk hc.1), if_neg hk, List.append_nil]
  linked k := by
    rw [positions_append]
    by_cases hk : key item = k
    · rw [if_pos hk]
      subst hk
      exact (h.linked _).snoc (fun hmem => Nat.lt_irrefl _ (lt_of_mem_positions hmem))
        (fun p hp => hnext p (lt_of_mem_positions hp)) hlast hnext'
        (fun p hp => hprev p (lt_of_mem_positions hp)) hprev'
    · -- the last item of the other list is not in this one
      rw [if_neg hk, List.append_nil]
      refine (h.linked k).congr (fun p hp => ?_) fun p hp => hprev p (lt_of_mem_positions hp)
      refine hnext p (lt_of_mem_positions hp) fun hlast => ?_
      have hother := mem_positions.1 (List.mem_of_getLast? hlast)
      rw [mem_positions.1 hp] at hother
      exact hk (Option.some.inj hother).symm

end

end Intrusive
