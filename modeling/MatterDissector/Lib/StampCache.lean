import Mathlib.Data.List.Basic

/-!
# Stamped caches

A cache holds a value and the stamp that it was read under. At a look at the source the value is
kept if the source has the same stamp, unless the look is void: then it is replaced in any case. A
refreshed cache has what the source has exactly if the look fits it (`Cache.fits_iff`): a stamp
that stays promises a value that stays. A cache that is refreshed at every look of a run is right
all the time if the run is coherent (`Coherent`).
-/

namespace StampCache

/-- A value and the stamp that it was read under. -/
@[ext]
structure Cache (σ α : Type) where
  stamp : σ
  value : α

/-- What there is to see of the source. -/
structure Look (σ α : Type) extends Cache σ α where
  void : Bool

section
variable {σ α : Type} [DecidableEq σ] {c : Cache σ α} {l : Look σ α}

/-- The value need not be read again. -/
def Cache.Keeps (c : Cache σ α) (l : Look σ α) : Prop := l.void = false ∧ c.stamp = l.stamp

instance (c : Cache σ α) (l : Look σ α) : Decidable (c.Keeps l) := instDecidableAnd

def Cache.refresh (c : Cache σ α) (l : Look σ α) : Cache σ α :=
  if c.Keeps l then c else l.toCache

/-- A value that is kept is what the source has. -/
def Cache.Fits (c : Cache σ α) (l : Look σ α) : Prop := c.Keeps l → c.value = l.value

theorem Cache.Keeps.refresh (h : c.Keeps l) : c.refresh l = c := if_pos h

theorem Cache.refresh_of_not_keeps (h : ¬ c.Keeps l) : c.refresh l = l.toCache := if_neg h

theorem Cache.fits_iff : c.Fits l ↔ (c.refresh l).value = l.value := by
  by_cases h : c.Keeps l
  · rw [h.refresh]
    exact ⟨fun hfits => hfits h, fun heq _ => heq⟩
  · rw [refresh_of_not_keeps h]
    exact ⟨fun _ => rfl, fun _ hkeeps => absurd hkeeps h⟩

theorem Cache.refresh_stamp (c : Cache σ α) (l : Look σ α) : (c.refresh l).stamp = l.stamp := by
  by_cases h : c.Keeps l
  · rw [h.refresh]
    exact h.2
  · rw [refresh_of_not_keeps h]

theorem Cache.Fits.refresh (h : c.Fits l) : c.refresh l = l.toCache :=
  Cache.ext (c.refresh_stamp l) (fits_iff.1 h)

/-- Each look fits the one before, the first one the cache. -/
def Coherent (c : Cache σ α) : List (Look σ α) → Prop
  | [] => True
  | l :: looks => c.Fits l ∧ Coherent l.toCache looks

end

end StampCache
