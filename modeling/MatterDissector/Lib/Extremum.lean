import Mathlib.Data.List.Basic
import Mathlib.Data.List.MinMax
import Mathlib.Order.Defs.LinearOrder

/-!
# The best element so far

A loop that keeps the best element it has seen, by a value `f` of the elements: it ends with one
that is extremal for `le` among all of them (`IsExtremal.foldl`), if there is one.
-/

namespace Extremum

variable {ρ ν : Type} {le : ν → ν → Prop} {better : ν → ν → Bool} {f : ρ → ν} {xs ys : List ρ}
  {a b : ρ} {best : Option ρ}

/-- `best` is an element with an extremal value, or there is no element. -/
def IsExtremal (le : ν → ν → Prop) (f : ρ → ν) (xs : List ρ) : Option ρ → Prop
  | none => xs = []
  | some a => a ∈ xs ∧ ∀ b ∈ xs, le (f a) (f b)

/-- The better one of the best so far and one more element. -/
def keepBest (better : ν → ν → Bool) (f : ρ → ν) (best : Option ρ) (a : ρ) : Option ρ :=
  match best with
  | none => some a
  | some b => some (if better (f a) (f b) then a else b)

theorem IsExtremal.congr (h : IsExtremal le f xs best) (hmem : ∀ a, a ∈ xs ↔ a ∈ ys) :
    IsExtremal le f ys best := by
  cases best with
  | none =>
    rw [show xs = [] from h] at hmem
    exact List.eq_nil_iff_forall_not_mem.2 fun a ha => List.not_mem_nil ((hmem a).2 ha)
  | some a => exact ⟨(hmem a).1 h.1, fun b hb => h.2 b ((hmem b).2 hb)⟩

/-- Only the values of the elements matter. -/
theorem IsExtremal.congr_value {g : ρ → ν} (h : IsExtremal le f xs best)
    (hg : ∀ a ∈ xs, g a = f a) : IsExtremal le g xs best := by
  cases best with
  | none => exact h
  | some a => exact ⟨h.1, fun b hb => by rw [hg a h.1, hg b hb]; exact h.2 b hb⟩

/-- What is kept is one of the elements. -/
theorem IsExtremal.mem (h : IsExtremal le f xs (some a)) : a ∈ xs := h.1

theorem IsExtremal.unique (hanti : ∀ u v, le u v → le v u → u = v)
    (hinj : ∀ a ∈ xs, ∀ b ∈ xs, f a = f b → a = b) {best' : Option ρ}
    (h : IsExtremal le f xs best) (h' : IsExtremal le f xs best') : best = best' := by
  cases best with
  | none =>
    cases best' with
    | none => rfl
    | some b => exact absurd h'.mem (by rw [show xs = [] from h]; exact List.not_mem_nil)
  | some a =>
    cases best' with
    | none => exact absurd h.mem (by rw [show xs = [] from h']; exact List.not_mem_nil)
    | some b =>
      exact congrArg some (hinj a h.1 b h'.1 (hanti _ _ (h.2 b h'.1) (h'.2 a h.1)))

/-- An element seen before does not change the best one. -/
theorem IsExtremal.keepBest_of_mem (hbetter : ∀ u v, better u v = true ↔ ¬ le v u)
    (h : IsExtremal le f xs best) (ha : a ∈ xs) : keepBest better f best a = best := by
  cases best with
  | none => exact absurd ha (by rw [show xs = [] from h]; exact List.not_mem_nil)
  | some b =>
    have hworse : ¬ better (f a) (f b) = true := fun hb => (hbetter _ _).1 hb (h.2 a ha)
    rw [keepBest, if_neg hworse]

theorem keepBest_eq_some (h : keepBest better f best a = some b) : b = a ∨ best = some b := by
  cases best with
  | none =>
    cases h
    exact .inl rfl
  | some c =>
    have h : (if better (f a) (f c) then a else c) = b := Option.some.inj h
    split at h
    · exact .inl h.symm
    · exact .inr (congrArg some h)

section
variable (htotal : ∀ u v, le u v ∨ le v u) (htrans : ∀ u v w, le u v → le v w → le u w)
  (hbetter : ∀ u v, better u v = true ↔ ¬ le v u)
include htotal htrans hbetter

theorem IsExtremal.keepBest (h : IsExtremal le f xs best) (a : ρ) :
    IsExtremal le f (xs ++ [a]) (keepBest better f best a) := by
  have hrefl : le (f a) (f a) := (htotal (f a) (f a)).elim id id
  cases best with
  | none =>
    rw [show xs = [] from h]
    exact ⟨List.mem_singleton_self a, fun b hb => by rw [List.mem_singleton.1 hb]; exact hrefl⟩
  | some c =>
    obtain ⟨hc, hle⟩ := h
    rw [Extremum.keepBest]
    by_cases hac : better (f a) (f c) = true
    · have hca := (hbetter _ _).1 hac
      rw [if_pos hac]
      refine ⟨List.mem_append_right _ (List.mem_singleton_self a), fun b hb => ?_⟩
      rcases List.mem_append.1 hb with hb | hb
      · exact htrans _ _ _ ((htotal (f a) (f c)).resolve_right hca) (hle b hb)
      · rw [List.mem_singleton.1 hb]; exact hrefl
    · have hca : le (f c) (f a) := Classical.not_not.1 fun hn => hac ((hbetter _ _).2 hn)
      rw [if_neg hac]
      refine ⟨List.mem_append_left _ hc, fun b hb => ?_⟩
      rcases List.mem_append.1 hb with hb | hb
      · exact hle b hb
      · rw [List.mem_singleton.1 hb]; exact hca

/-- The loop, over the elements of `ys` that satisfy `P`. -/
theorem IsExtremal.foldl (P : ρ → Bool) (h : IsExtremal le f xs best) (ys : List ρ) :
    IsExtremal le f (xs ++ ys.filter P)
      (ys.foldl (fun best a => if P a then Extremum.keepBest better f best a else best) best) := by
  induction ys generalizing xs best with
  | nil => simpa using h
  | cons a ys ih =>
    rw [List.foldl_cons, List.filter_cons]
    by_cases ha : P a = true
    · rw [if_pos ha, if_pos ha, ← List.singleton_append, ← List.append_assoc]
      exact ih (h.keepBest htotal htrans hbetter a)
    · rw [if_neg ha, if_neg ha]
      exact ih h

/-- The loop over the elements that satisfy `P`, from the start. -/
theorem isExtremal_foldl (f : ρ → ν) (P : ρ → Prop) [DecidablePred P] (xs : List ρ) :
    IsExtremal le f (xs.filter P) (xs.foldl (fun best a =>
      if P a then Extremum.keepBest better f best a else best) none) := by
  have hnil : IsExtremal le f ([] : List ρ) none := rfl
  have h := hnil.foldl htotal htrans hbetter (fun a => decide (P a)) xs
  simpa only [decide_eq_true_eq, List.nil_append] using h

end

section
variable {ν : Type} [LinearOrder ν]

theorem isExtremal_argmin (f : ρ → ν) (xs : List ρ) : IsExtremal (· ≤ ·) f xs (xs.argmin f) := by
  cases hbest : xs.argmin f with
  | none => exact List.argmin_eq_none.1 hbest
  | some a => exact ⟨List.argmin_mem hbest, fun b hb => List.le_of_mem_argmin hb hbest⟩

theorem isExtremal_argmax (f : ρ → ν) (xs : List ρ) : IsExtremal (· ≥ ·) f xs (xs.argmax f) := by
  cases hbest : xs.argmax f with
  | none => exact List.argmax_eq_none.1 hbest
  | some a => exact ⟨List.argmax_mem hbest, fun b hb => List.le_of_mem_argmax hb hbest⟩

end

/-- There is an element with an extremal value unless there is no element. -/
theorem exists_isExtremal [DecidableRel le] (htotal : ∀ u v, le u v ∨ le v u)
    (htrans : ∀ u v w, le u v → le v w → le u w) (f : ρ → ν) (xs : List ρ) :
    ∃ best, IsExtremal le f xs best := by
  let better : ν → ν → Bool := fun u v => decide (¬ le v u)
  have hbetter : ∀ u v, better u v = true ↔ ¬ le v u := fun u v => decide_eq_true_iff
  have hnil : IsExtremal le f ([] : List ρ) none := rfl
  have h := hnil.foldl htotal htrans hbetter (fun _ => true) xs
  rw [List.nil_append, List.filter_true] at h
  exact ⟨_, h⟩

end Extremum
