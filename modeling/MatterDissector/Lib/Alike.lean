import MatterDissector.Lib.Prog

/-!
# Programs that end alike

`Alike T R x y`: from states that `T` relates, `x` and `y` both return, with values that `R`
relates, or stop with one error code, and end in related states again; or both have one fault. It
is kept by every way to put programs together, so two programs of one shape are alike when their
calls are.
-/

section
variable {ε φ σ τ α β : Type}

/-- Outcomes of one kind, with related states. -/
def Outcome.Alike (T : σ → τ → Prop) (R : α → β → Prop) :
    Outcome ε φ σ α → Outcome ε φ τ β → Prop
  | .ok a s, .ok b t => R a b ∧ T s t
  | .err e s, .err e' t => e = e' ∧ T s t
  | .fault f, .fault f' => f = f'
  | _, _ => False

theorem Outcome.Alike.fault_iff {T : σ → τ → Prop} {R : α → β → Prop} {x : Outcome ε φ σ α}
    {y : Outcome ε φ τ β} (h : Outcome.Alike T R x y) :
    (∃ f, x = .fault f) ↔ ∃ f, y = .fault f := by
  cases x <;> cases y <;> simp_all [Outcome.Alike]

theorem Outcome.Alike.returns_iff {T : σ → τ → Prop} {R : α → β → Prop} {x : Outcome ε φ σ α}
    {y : Outcome ε φ τ β} (h : Outcome.Alike T R x y) :
    (∃ a s, x = .ok a s) ↔ ∃ b t, y = .ok b t := by
  cases x <;> cases y <;> simp_all [Outcome.Alike]

end

namespace Prog

variable {ε φ σ σ' τ τ' α α' β β' γ : Type}

/-- From related states `x` and `y` end alike. -/
def Alike (T : σ → τ → Prop) (R : α → β → Prop) (x : Prog ε φ σ α) (y : Prog ε φ τ β) : Prop :=
  ∀ s t, T s t → (x.run s).Alike T R (y.run t)

variable {T : σ → τ → Prop} {T' : σ' → τ' → Prop} {R : α → β → Prop} {R' : α' → β' → Prop}
  {x : Prog ε φ σ α} {y : Prog ε φ τ β}

namespace Alike

theorem pure {a : α} {b : β} (h : R a b) :
    Alike T R (Pure.pure a : Prog ε φ σ α) (Pure.pure b : Prog ε φ τ β) :=
  fun _ _ hst => ⟨h, hst⟩

theorem throw (e : ε) : Alike T R (throw e : Prog ε φ σ α) (throw e : Prog ε φ τ β) :=
  fun _ _ hst => ⟨rfl, hst⟩

theorem stop (f : φ) : Alike T R (stop f : Prog ε φ σ α) (stop f : Prog ε φ τ β) :=
  fun _ _ _ => rfl

theorem get : Alike T T (get : Prog ε φ σ σ) (get : Prog ε φ τ τ) := fun _ _ hst => ⟨hst, hst⟩

theorem gets {f : σ → α} {g : τ → β} (h : ∀ s t, T s t → R (f s) (g t)) :
    Alike T R (gets f : Prog ε φ σ α) (gets g : Prog ε φ τ β) :=
  fun s t hst => ⟨h s t hst, hst⟩

theorem modify {f : σ → σ} {g : τ → τ} (h : ∀ s t, T s t → T (f s) (g t)) :
    Alike T Eq (modify f : Prog ε φ σ Unit) (modify g : Prog ε φ τ Unit) :=
  fun s t hst => ⟨rfl, h s t hst⟩

theorem verify (b : Bool) (e : ε) :
    Alike T Eq (verify b e : Prog ε φ σ Unit) (verify b e : Prog ε φ τ Unit) := by
  intro s t hst
  cases b
  · exact ⟨rfl, hst⟩
  · exact ⟨rfl, hst⟩

/-- A program on its own. -/
theorem refl (x : Prog ε φ σ α) : Alike Eq Eq x x := by
  rintro s t rfl
  cases x.run s
  · exact ⟨rfl, rfl⟩
  · exact ⟨rfl, rfl⟩
  · exact rfl

theorem bind {k : α → Prog ε φ σ α'} {l : β → Prog ε φ τ β'} (h : Alike T R x y)
    (hk : ∀ a b, R a b → Alike T R' (k a) (l b)) : Alike T R' (x >>= k) (y >>= l) := by
  intro s t hst
  have hrun := h s t hst
  rw [run_bind, run_bind]
  cases hx : x.run s <;> cases hy : y.run t <;> rw [hx, hy] at hrun
  case ok.ok a s' b t' => exact hk a b hrun.1 s' t' hrun.2
  case err.err => exact hrun
  case fault.fault => exact hrun
  all_goals exact hrun.elim

/-- A step with one value on both sides. -/
theorem seq {x : Prog ε φ σ γ} {y : Prog ε φ τ γ} {k : γ → Prog ε φ σ α'}
    {l : γ → Prog ε φ τ β'} (h : Alike T Eq x y) (hk : ∀ a, Alike T R' (k a) (l a)) :
    Alike T R' (x >>= k) (y >>= l) := by
  refine h.bind ?_
  rintro a _ rfl
  exact hk a

theorem ite {c : Prop} [Decidable c] {x' : Prog ε φ σ α} {y' : Prog ε φ τ β}
    (h : Alike T R x y) (h' : Alike T R x' y') :
    Alike T R (if c then x else x') (if c then y else y') := by
  split
  · exact h
  · exact h'

theorem attempt {x : Prog ε φ σ γ} {y : Prog ε φ τ γ} (h : Alike T Eq x y) :
    Alike T Eq (attempt x) (attempt y) := by
  intro s t hst
  have hrun := h s t hst
  rw [run_attempt, run_attempt]
  cases hx : x.run s <;> cases hy : y.run t <;> rw [hx, hy] at hrun
  case ok.ok => exact ⟨congrArg Except.ok hrun.1, hrun.2⟩
  case err.err => exact ⟨congrArg Except.error hrun.1, hrun.2⟩
  case fault.fault => exact hrun
  all_goals exact hrun.elim

/-- Programs on parts of related states. -/
theorem zoom {view : σ' → σ} {put : σ → σ' → σ'} {view' : τ' → τ} {put' : τ → τ' → τ'}
    (h : Alike T R x y) (hview : ∀ s t, T' s t → T (view s) (view' t))
    (hput : ∀ s t s₁ t₁, T' s t → T s₁ t₁ → T' (put s₁ s) (put' t₁ t)) :
    Alike T' R (zoom view put x) (zoom view' put' y) := by
  intro s t hst
  have hrun := h _ _ (hview s t hst)
  rw [run_zoom, run_zoom]
  cases hx : x.run (view s) <;> cases hy : y.run (view' t) <;> rw [hx, hy] at hrun
  case ok.ok => exact ⟨hrun.1, hput _ _ _ _ hst hrun.2⟩
  case err.err => exact ⟨hrun.1, hput _ _ _ _ hst hrun.2⟩
  case fault.fault => exact hrun
  all_goals exact hrun.elim

theorem foldlM {k : γ → β' → Prog ε φ σ γ} {l : γ → β' → Prog ε φ τ γ}
    (h : ∀ a b, Alike T Eq (k a b) (l a b)) :
    ∀ (bs : List β') (a : γ), Alike T Eq (bs.foldlM k a) (bs.foldlM l a)
  | [], _ => .pure rfl
  | b :: bs, a => (h a b).seq fun a => foldlM h bs a

theorem loop {spent : φ} {body : γ → Prog ε φ σ (γ ⊕ β')} {body' : γ → Prog ε φ τ (γ ⊕ β')}
    (h : ∀ a, Alike T Eq (body a) (body' a)) :
    ∀ (fuel : Nat) (a : γ), Alike T Eq (loop spent body fuel a) (loop spent body' fuel a)
  | 0, _ => .stop spent
  | fuel + 1, a => (h a).seq fun res => by
    cases res with
    | inl a => exact loop h fuel a
    | inr b => exact .pure rfl

/-- Loops that begin with the same measure. -/
theorem whileLoop {μ : γ → σ → Nat} {μ' : γ → τ → Nat} {spent : φ}
    {body : γ → Prog ε φ σ (γ ⊕ β')} {body' : γ → Prog ε φ τ (γ ⊕ β')}
    (hμ : ∀ a s t, T s t → μ a s = μ' a t) (h : ∀ a, Alike T Eq (body a) (body' a)) (a : γ) :
    Alike T Eq (whileLoop μ spent body a) (whileLoop μ' spent body' a) := by
  intro s t hst
  rw [run_whileLoop, run_whileLoop, hμ a s t hst]
  exact Alike.loop h _ a s t hst

end Alike

end Prog
