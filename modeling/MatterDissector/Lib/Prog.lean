import Mathlib.Tactic.Common

/-!
# Programs with error codes and faults

`Prog ε φ σ α`: a program on a state `σ`. It returns a value, or an error code `ε` (the state it
has reached is kept: a caller that ignores the code goes on from there), or it does something
the language leaves undefined (`φ`: a read outside an object, a null dereference, a loop without
end), after which there is no state.

* `attempt`: the caller looks at the error code itself.
* `orElse`: two searches, the second when the first finds nothing.
* `zoom`: a program on a part of the state.
* `whileLoop μ`: an unbounded loop, run for as many rounds as the measure `μ` of its start allows;
  `whileLoop_eq` is its fixpoint equation when every round lowers `μ`.
* `Leaves`, `Grows`, `Appends`: what a program leaves alone, does not lower, or only appends to.
* `Ends`: a postcondition for each outcome, and the faults that a program may have; `Triple` is
  its case without faults.
* `Keeps`: an invariant of a program that may have faults.
* `Run`: a caller's calls one after another, and the rule for what they all keep.
-/

/-- How a program ends. -/
inductive Outcome (ε φ σ α : Type) where
  | ok (a : α) (s : σ)
  | err (e : ε) (s : σ)
  | fault (f : φ)
  deriving DecidableEq, Repr

/-- There is a result, and it passes the test. -/
def Outcome.okAnd {ε φ σ α : Type} (p : α → σ → Bool) : Outcome ε φ σ α → Bool
  | .ok a s => p a s
  | _ => false

theorem Outcome.exists_of_okAnd {ε φ σ α : Type} {p : α → σ → Bool} {o : Outcome ε φ σ α}
    (h : o.okAnd p = true) : ∃ a s, o = .ok a s ∧ p a s = true := by
  cases o with
  | ok a s => exact ⟨a, s, rfl, h⟩
  | err e s => cases h
  | fault f => cases h

theorem Outcome.okAnd_true {ε φ σ α : Type} {o : Outcome ε φ σ α} :
    (o.okAnd fun _ _ => true) = true ↔ ∃ a s, o = .ok a s := by
  constructor
  · intro h
    obtain ⟨a, s, ho, -⟩ := exists_of_okAnd h
    exact ⟨a, s, ho⟩
  · rintro ⟨a, s, rfl⟩
    rfl

/-- Programs over the state `σ`. -/
structure Prog (ε φ σ α : Type) where
  run : σ → Outcome ε φ σ α

namespace Prog

variable {ε φ σ τ α β : Type}

protected def pure (a : α) : Prog ε φ σ α := ⟨fun s => .ok a s⟩

protected def bind (x : Prog ε φ σ α) (k : α → Prog ε φ σ β) : Prog ε φ σ β := ⟨fun s =>
  match x.run s with
  | .ok a s' => (k a).run s'
  | .err e s' => .err e s'
  | .fault f => .fault f⟩

instance : Monad (Prog ε φ σ) where
  pure := Prog.pure
  bind := Prog.bind

theorem ext {x y : Prog ε φ σ α} (h : ∀ s, x.run s = y.run s) : x = y :=
  congrArg Prog.mk (funext h)

/-- Stops with an error code. -/
def throw (e : ε) : Prog ε φ σ α := ⟨fun s => .err e s⟩

/-- Stops with a fault. -/
def stop (f : φ) : Prog ε φ σ α := ⟨fun _ => .fault f⟩

/-- The current state. -/
def get : Prog ε φ σ σ := ⟨fun s => .ok s s⟩

/-- A function of the current state. -/
def gets (f : σ → α) : Prog ε φ σ α := ⟨fun s => .ok (f s) s⟩

def modify (f : σ → σ) : Prog ε φ σ Unit := ⟨fun s => .ok () (f s)⟩

/-- Fails with `e` unless `b`. -/
def verify (b : Bool) (e : ε) : Prog ε φ σ Unit := ⟨fun s => if b then .ok () s else .err e s⟩

/-- Hands the error code to the caller; a fault passes through. -/
def attempt (x : Prog ε φ σ α) : Prog ε φ σ (Except ε α) := ⟨fun s =>
  match x.run s with
  | .ok a s' => .ok (.ok a) s'
  | .err e s' => .ok (.error e) s'
  | .fault f => .fault f⟩

/-- What `x` finds, or else what `y` finds. -/
def orElse (x y : Prog ε φ σ (Option α)) : Prog ε φ σ (Option α) := do
  match ← x with
  | some a => pure (some a)
  | none => y

def mapFound (f : α → β) (x : Prog ε φ σ (Option α)) : Prog ε φ σ (Option β) := do
  return (← x).map f

/-- Runs `x` on the part of the state that `view` reads and `put` replaces. -/
def zoom (view : τ → σ) (put : σ → τ → τ) (x : Prog ε φ σ α) : Prog ε φ τ α := ⟨fun t =>
  match x.run (view t) with
  | .ok a s => .ok a (put s t)
  | .err e s => .err e (put s t)
  | .fault f => .fault f⟩

/-- The same program with other error codes. -/
def mapError {ε' : Type} (f : ε → ε') (x : Prog ε φ σ α) : Prog ε' φ σ α := ⟨fun s =>
  match x.run s with
  | .ok a s' => .ok a s'
  | .err e s' => .err (f e) s'
  | .fault f => .fault f⟩

/-! ## Symbolic execution -/

@[simp] theorem run_pure (a : α) (s : σ) : (pure a : Prog ε φ σ α).run s = .ok a s := rfl

theorem run_bind (x : Prog ε φ σ α) (k : α → Prog ε φ σ β) (s : σ) :
    (x >>= k).run s = match x.run s with
      | .ok a s' => (k a).run s'
      | .err e s' => .err e s'
      | .fault f => .fault f := rfl

instance : LawfulMonad (Prog ε φ σ) := LawfulMonad.mk' _
  (fun x => ext fun s => by
    show (x >>= fun a => pure (id a)).run s = x.run s
    rw [run_bind]
    cases x.run s <;> rfl)
  (fun _ _ => rfl)
  (fun x k l => ext fun s => by
    rw [run_bind, run_bind, run_bind]
    cases x.run s <;> rfl)

theorem bind_ok {x : Prog ε φ σ α} {k : α → Prog ε φ σ β} {s s' : σ} {a : α}
    (h : x.run s = .ok a s') : (x >>= k).run s = (k a).run s' := by
  rw [run_bind, h]

theorem map_ok {f : α → β} {x : Prog ε φ σ α} {s s' : σ} {a : α} (h : x.run s = .ok a s') :
    (f <$> x).run s = .ok (f a) s' := by
  show (x >>= fun a => pure (f a)).run s = _
  rw [bind_ok h, run_pure]

theorem bind_err {x : Prog ε φ σ α} {k : α → Prog ε φ σ β} {s s' : σ} {e : ε}
    (h : x.run s = .err e s') : (x >>= k).run s = .err e s' := by
  rw [run_bind, h]

theorem bind_fault {x : Prog ε φ σ α} {k : α → Prog ε φ σ β} {s : σ} {f : φ}
    (h : x.run s = .fault f) : (x >>= k).run s = .fault f := by
  rw [run_bind, h]

@[simp] theorem run_throw (e : ε) (s : σ) : (throw e : Prog ε φ σ α).run s = .err e s := rfl
@[simp] theorem run_stop (f : φ) (s : σ) : (stop f : Prog ε φ σ α).run s = .fault f := rfl
@[simp] theorem run_get (s : σ) : (get : Prog ε φ σ σ).run s = .ok s s := rfl
@[simp] theorem run_gets (f : σ → α) (s : σ) :
    (gets f : Prog ε φ σ α).run s = .ok (f s) s := rfl
@[simp] theorem run_modify (f : σ → σ) (s : σ) :
    (modify f : Prog ε φ σ Unit).run s = .ok () (f s) := rfl

@[simp] theorem run_verify_true (e : ε) (s : σ) :
    (verify true e : Prog ε φ σ Unit).run s = .ok () s := rfl
@[simp] theorem run_verify_false (e : ε) (s : σ) :
    (verify false e : Prog ε φ σ Unit).run s = .err e s := rfl

theorem run_attempt (x : Prog ε φ σ α) (s : σ) :
    (attempt x).run s = match x.run s with
      | .ok a s' => .ok (.ok a) s'
      | .err e s' => .ok (.error e) s'
      | .fault f => .fault f := rfl

theorem run_zoom (view : τ → σ) (put : σ → τ → τ) (x : Prog ε φ σ α) (t : τ) :
    (zoom view put x).run t = match x.run (view t) with
      | .ok a s => .ok a (put s t)
      | .err e s => .err e (put s t)
      | .fault f => .fault f := rfl

theorem run_mapError {ε' : Type} (f : ε → ε') (x : Prog ε φ σ α) (s : σ) :
    (mapError f x).run s = match x.run s with
      | .ok a s' => .ok a s'
      | .err e s' => .err (f e) s'
      | .fault f => .fault f := rfl

@[simp] theorem get_bind (k : σ → Prog ε φ σ β) (s : σ) : (get >>= k).run s = (k s).run s := rfl
@[simp] theorem gets_bind (f : σ → α) (k : α → Prog ε φ σ β) (s : σ) :
    (gets f >>= k).run s = (k (f s)).run s := rfl
@[simp] theorem modify_bind (f : σ → σ) (k : Unit → Prog ε φ σ β) (s : σ) :
    (modify f >>= k).run s = (k ()).run (f s) := rfl
@[simp] theorem pure_bind' (a : α) (k : α → Prog ε φ σ β) (s : σ) :
    (pure a >>= k).run s = (k a).run s := rfl
@[simp] theorem throw_bind (e : ε) (k : α → Prog ε φ σ β) (s : σ) :
    (throw e >>= k).run s = .err e s := rfl
@[simp] theorem stop_bind (f : φ) (k : α → Prog ε φ σ β) (s : σ) :
    (stop f >>= k).run s = .fault f := rfl

theorem orElse_some {x y : Prog ε φ σ (Option α)} {s s' : σ} {a : α}
    (h : x.run s = .ok (some a) s') : (orElse x y).run s = .ok (some a) s' := by
  rw [orElse, bind_ok h]; rfl

theorem orElse_none {x y : Prog ε φ σ (Option α)} {s s' : σ} (h : x.run s = .ok none s') :
    (orElse x y).run s = y.run s' := by
  rw [orElse, bind_ok h]

theorem mapFound_ok {f : α → β} {x : Prog ε φ σ (Option α)} {s s' : σ} {a : Option α}
    (h : x.run s = .ok a s') : (mapFound f x).run s = .ok (a.map f) s' := by
  rw [mapFound, bind_ok h]; rfl

/-- A sequence returns exactly when both parts do. -/
theorem bind_eq_ok {x : Prog ε φ σ α} {k : α → Prog ε φ σ β} {s s' : σ} {b : β} :
    (x >>= k).run s = .ok b s' ↔ ∃ a s₁, x.run s = .ok a s₁ ∧ (k a).run s₁ = .ok b s' := by
  rw [run_bind]
  refine ⟨fun h => ?_, fun ⟨a, s₁, hx, hk⟩ => by rw [hx]; exact hk⟩
  cases hx : x.run s with
  | ok a s₁ => rw [hx] at h; exact ⟨a, s₁, rfl, h⟩
  | err e s₁ => rw [hx] at h; cases h
  | fault f => rw [hx] at h; cases h

theorem bind_eq_err {x : Prog ε φ σ α} {k : α → Prog ε φ σ β} {s s' : σ} {e : ε} :
    (x >>= k).run s = .err e s' ↔
      x.run s = .err e s' ∨ ∃ a s₁, x.run s = .ok a s₁ ∧ (k a).run s₁ = .err e s' := by
  rw [run_bind]
  cases hx : x.run s with
  | ok a s₁ => simp
  | err e₁ s₁ => simp
  | fault f => simp

theorem verify_eq_ok {b : Bool} {e : ε} {s s' : σ} {u : Unit} :
    (verify b e : Prog ε φ σ Unit).run s = .ok u s' ↔ b = true ∧ s = s' := by
  cases b <;> simp [verify]

theorem attempt_ok {x : Prog ε φ σ α} {s s' : σ} {a : α} (h : x.run s = .ok a s') :
    (attempt x).run s = .ok (.ok a) s' := by
  rw [run_attempt, h]

theorem attempt_err {x : Prog ε φ σ α} {s s' : σ} {e : ε} (h : x.run s = .err e s') :
    (attempt x).run s = .ok (.error e) s' := by
  rw [run_attempt, h]

theorem attempt_eq_ok {x : Prog ε φ σ α} {s s' : σ} {r : Except ε α} :
    (attempt x).run s = .ok r s' ↔
      (∃ a, r = .ok a ∧ x.run s = .ok a s') ∨ (∃ e, r = .error e ∧ x.run s = .err e s') := by
  rw [run_attempt]
  cases hx : x.run s with
  | ok a s₁ =>
    refine ⟨fun h => ?_, ?_⟩
    · cases h; exact .inl ⟨a, rfl, rfl⟩
    · rintro (⟨a', rfl, h⟩ | ⟨e, rfl, h⟩) <;> cases h
      rfl
  | err e s₁ =>
    refine ⟨fun h => ?_, ?_⟩
    · cases h; exact .inr ⟨e, rfl, rfl⟩
    · rintro (⟨a', rfl, h⟩ | ⟨e', rfl, h⟩) <;> cases h
      rfl
  | fault f => simp

theorem zoom_eq_ok {view : τ → σ} {put : σ → τ → τ} {x : Prog ε φ σ α} {t t' : τ} {a : α} :
    (zoom view put x).run t = .ok a t' ↔ ∃ s, x.run (view t) = .ok a s ∧ t' = put s t := by
  rw [run_zoom]
  cases x.run (view t) <;> simp [eq_comm]

theorem mapError_eq_ok {ε' : Type} {f : ε → ε'} {x : Prog ε φ σ α} {s s' : σ} {a : α} :
    (mapError f x).run s = .ok a s' ↔ x.run s = .ok a s' := by
  rw [run_mapError]
  cases x.run s <;> simp

theorem zoom_eq_err {view : τ → σ} {put : σ → τ → τ} {x : Prog ε φ σ α} {t t' : τ} {e : ε} :
    (zoom view put x).run t = .err e t' ↔ ∃ s, x.run (view t) = .err e s ∧ t' = put s t := by
  rw [run_zoom]
  cases x.run (view t) <;> simp [eq_comm]

/-! ## Programs that return the same -/

/-- `x` and `y` return the same value in the same state, or neither returns. -/
def SameOk (x y : Outcome ε φ σ α) : Prop := ∀ a s, x = .ok a s ↔ y = .ok a s

theorem SameOk.refl (x : Outcome ε φ σ α) : SameOk x x := fun _ _ => Iff.rfl

theorem SameOk.symm {x y : Outcome ε φ σ α} (h : SameOk x y) : SameOk y x :=
  fun a s => (h a s).symm

theorem SameOk.trans {x y z : Outcome ε φ σ α} (h : SameOk x y) (h' : SameOk y z) :
    SameOk x z := fun a s => (h a s).trans (h' a s)

theorem SameOk.bind {x y : Prog ε φ σ α} {s t : σ} (h : SameOk (x.run s) (y.run t))
    (k : α → Prog ε φ σ β) : SameOk ((x >>= k).run s) ((y >>= k).run t) := fun b u => by
  rw [bind_eq_ok, bind_eq_ok]
  exact exists_congr fun a => exists_congr fun s₁ => and_congr (h a s₁) Iff.rfl

/-! ## Loops -/

/-- What follows a round, which either goes on (`.inl`) or leaves the loop (`.inr`). -/
def again (next : β → Prog ε φ σ α) : β ⊕ α → Prog ε φ σ α
  | .inl b => next b
  | .inr a => pure a

@[simp] theorem again_inl (next : β → Prog ε φ σ α) (b : β) : again next (.inl b) = next b := rfl
@[simp] theorem again_inr (next : β → Prog ε φ σ α) (a : α) : again next (.inr a) = pure a := rfl

/-- At most `fuel` rounds of `body`. -/
def loop (spent : φ) (body : β → Prog ε φ σ (β ⊕ α)) : Nat → β → Prog ε φ σ α
  | 0, _ => stop spent
  | fuel + 1, b => body b >>= again (loop spent body fuel)

/-- `while (true) body`, as many rounds as the measure of its start allows. -/
def whileLoop (μ : β → σ → Nat) (spent : φ) (body : β → Prog ε φ σ (β ⊕ α)) (b : β) :
    Prog ε φ σ α := ⟨fun s => (loop spent body (μ b s + 1) b).run s⟩

theorem loop_succ (spent : φ) (body : β → Prog ε φ σ (β ⊕ α)) (fuel : Nat) (b : β) :
    loop spent body (fuel + 1) b = body b >>= again (loop spent body fuel) := rfl

/-- Fuel beyond the measure changes nothing, if every round from a state of `J` lowers the
measure and stays in `J`. -/
theorem loop_fuel {μ : β → σ → Nat} {spent : φ} {body : β → Prog ε φ σ (β ⊕ α)}
    {J : β → σ → Prop}
    (hμ : ∀ b s b' s', J b s → (body b).run s = .ok (.inl b') s' → J b' s' ∧ μ b' s' < μ b s) :
    ∀ {n m : Nat} {b : β} {s : σ}, J b s → μ b s < n → μ b s < m →
      (loop spent body n b).run s = (loop spent body m b).run s
  | 0, _, _, _, _, hn, _ => absurd hn (Nat.not_lt_zero _)
  | _ + 1, 0, _, _, _, _, hm => absurd hm (Nat.not_lt_zero _)
  | n + 1, m + 1, b, s, hJ, hn, hm => by
    rw [loop_succ, loop_succ, run_bind, run_bind]
    cases hb : (body b).run s with
    | ok r s' =>
      cases r with
      | inl b' =>
        have := hμ _ _ _ _ hJ hb
        exact loop_fuel hμ this.1 (by omega) (by omega)
      | inr a => rfl
    | err e s' => rfl
    | fault f => rfl

theorem run_whileLoop (μ : β → σ → Nat) (spent : φ) (body : β → Prog ε φ σ (β ⊕ α)) (b : β)
    (s : σ) :
    (whileLoop μ spent body b).run s = (loop spent body (μ b s + 1) b).run s := rfl

/-- The fixpoint equation of a loop whose rounds lower the measure, on the states of `J`. -/
theorem whileLoop_eq_of {μ : β → σ → Nat} {spent : φ} {body : β → Prog ε φ σ (β ⊕ α)}
    {J : β → σ → Prop}
    (hμ : ∀ b s b' s', J b s → (body b).run s = .ok (.inl b') s' → J b' s' ∧ μ b' s' < μ b s)
    {b : β} {s : σ} (hJ : J b s) :
    (whileLoop μ spent body b).run s = (body b >>= again (whileLoop μ spent body)).run s := by
  rw [run_whileLoop, loop_succ, run_bind, run_bind]
  cases hb : (body b).run s with
  | ok r s' =>
    cases r with
    | inl b' =>
      have := hμ _ _ _ _ hJ hb
      show (loop spent body (μ b s) b').run s' = (whileLoop μ spent body b').run s'
      rw [run_whileLoop]
      exact loop_fuel hμ this.1 (by omega) (by omega)
    | inr a => rfl
  | err e s' => rfl
  | fault f => rfl

/-- The fixpoint equation of a loop whose every round lowers the measure. -/
theorem whileLoop_eq {μ : β → σ → Nat} {spent : φ} {body : β → Prog ε φ σ (β ⊕ α)}
    (hμ : ∀ b s b' s', (body b).run s = .ok (.inl b') s' → μ b' s' < μ b s) (b : β) (s : σ) :
    (whileLoop μ spent body b).run s = (body b >>= again (whileLoop μ spent body)).run s :=
  whileLoop_eq_of (J := fun _ _ => True) (fun _ _ _ _ _ h => ⟨trivial, hμ _ _ _ _ h⟩) trivial

/-- What every round keeps holds when the loop is left: the loop's partial correctness. -/
theorem loop_ok {spent : φ} {body : β → Prog ε φ σ (β ⊕ α)} {J : β → σ → Prop}
    {Q : α → σ → Prop}
    (hstep : ∀ b s b' s', J b s → (body b).run s = .ok (.inl b') s' → J b' s')
    (hexit : ∀ b s a s', J b s → (body b).run s = .ok (.inr a) s' → Q a s') :
    ∀ {fuel : Nat} {b : β} {s : σ} {a : α} {s' : σ}, J b s →
      (loop spent body fuel b).run s = .ok a s' → Q a s'
  | 0, _, _, _, _, _, h => by cases h
  | fuel + 1, b, s, a, s', hJ, h => by
    rw [loop_succ, bind_eq_ok] at h
    obtain ⟨r, s₁, hb, hr⟩ := h
    cases r with
    | inl b' => exact loop_ok hstep hexit (hstep _ _ _ _ hJ hb) hr
    | inr a' => cases hr; exact hexit _ _ _ _ hJ hb

theorem whileLoop_ok {μ : β → σ → Nat} {spent : φ} {body : β → Prog ε φ σ (β ⊕ α)}
    {J : β → σ → Prop} {Q : α → σ → Prop}
    (hstep : ∀ b s b' s', J b s → (body b).run s = .ok (.inl b') s' → J b' s')
    (hexit : ∀ b s a s', J b s → (body b).run s = .ok (.inr a) s' → Q a s')
    {b : β} {s : σ} {a : α} {s' : σ} (hJ : J b s)
    (h : (whileLoop μ spent body b).run s = .ok a s') : Q a s' := by
  rw [run_whileLoop] at h
  exact loop_ok hstep hexit hJ h

/-! ## What a program leaves alone -/

/-- `x` leaves `g` as it is, whether it returns or fails. -/
def Leaves {γ : Type} (g : σ → γ) (x : Prog ε φ σ α) : Prop := ∀ s, match x.run s with
  | .ok _ s' => g s' = g s
  | .err _ s' => g s' = g s
  | .fault _ => True

section Leaves

variable {γ : Type} {g : σ → γ} {x : Prog ε φ σ α}

theorem Leaves.ok (h : Leaves g x) {s s' : σ} {a : α} (hx : x.run s = .ok a s') : g s' = g s := by
  have := h s; rw [hx] at this; exact this

theorem Leaves.err (h : Leaves g x) {s s' : σ} {e : ε} (hx : x.run s = .err e s') :
    g s' = g s := by
  have := h s; rw [hx] at this; exact this

/-- To prove `Leaves` from the two outcomes that have a state. -/
theorem Leaves.intro (hok : ∀ s a s', x.run s = .ok a s' → g s' = g s)
    (herr : ∀ s e s', x.run s = .err e s' → g s' = g s) : Leaves g x := fun s => by
  cases hx : x.run s with
  | ok a s' => exact hok s a s' hx
  | err e s' => exact herr s e s' hx
  | fault _ => trivial

theorem Leaves.pure (a : α) : Leaves g (Pure.pure a : Prog ε φ σ α) := fun _ => rfl
theorem Leaves.throw (e : ε) : Leaves g (throw e : Prog ε φ σ α) := fun _ => rfl
theorem Leaves.stop (e : φ) : Leaves g (stop e : Prog ε φ σ α) := fun _ => trivial
theorem Leaves.get : Leaves g (get : Prog ε φ σ σ) := fun _ => rfl
theorem Leaves.gets (h : σ → α) : Leaves g (gets h : Prog ε φ σ α) := fun _ => rfl

theorem Leaves.modify {h : σ → σ} (hg : ∀ s, g (h s) = g s) :
    Leaves g (modify h : Prog ε φ σ Unit) := hg

theorem Leaves.verify (b : Bool) (e : ε) : Leaves g (verify b e : Prog ε φ σ Unit) := by
  cases b <;> exact fun _ => rfl

theorem Leaves.bind (hx : Leaves g x) {k : α → Prog ε φ σ β} (hk : ∀ a, Leaves g (k a)) :
    Leaves g (x >>= k) := by
  refine .intro (fun s b s' h => ?_) (fun s e s' h => ?_)
  · obtain ⟨a, s₁, h₁, h₂⟩ := bind_eq_ok.1 h
    exact ((hk a).ok h₂).trans (hx.ok h₁)
  · rcases bind_eq_err.1 h with h | ⟨a, s₁, h₁, h₂⟩
    · exact hx.err h
    · exact ((hk a).err h₂).trans (hx.ok h₁)

theorem Leaves.map (hx : Leaves g x) (h : α → β) : Leaves g (h <$> x) :=
  hx.bind fun a => .pure (h a)

theorem Leaves.attempt (hx : Leaves g x) : Leaves g (attempt x) := by
  refine .intro (fun s r s' h => ?_) (fun s e s' h => ?_)
  · rcases attempt_eq_ok.1 h with ⟨a, -, h⟩ | ⟨e, -, h⟩
    · exact hx.ok h
    · exact hx.err h
  · rw [run_attempt] at h
    cases hx : x.run s <;> rw [hx] at h <;> cases h

theorem Leaves.ite {c : Prop} [Decidable c] {y : Prog ε φ σ α} (hx : Leaves g x)
    (hy : Leaves g y) : Leaves g (if c then x else y) := by
  split
  · exact hx
  · exact hy

theorem Leaves.foldlM {δ : Type} {k : β → δ → Prog ε φ σ β} (hk : ∀ b d, Leaves g (k b d)) :
    ∀ (ds : List δ) (b : β), Leaves g (ds.foldlM k b)
  | [], b => .pure b
  | d :: ds, b => (hk b d).bind fun b => Leaves.foldlM hk ds b

/-- A program on a part of the state, put back where `g` does not look. -/
theorem Leaves.zoom {view : τ → σ} {put : σ → τ → τ} {g : τ → γ} (x : Prog ε φ σ α)
    (hput : ∀ s t, g (put s t) = g t) : Leaves g (zoom view put x) := by
  refine .intro (fun t a t' h => ?_) (fun t e t' h => ?_)
  · obtain ⟨s, -, rfl⟩ := zoom_eq_ok.1 h
    exact hput s t
  · obtain ⟨s, -, rfl⟩ := zoom_eq_err.1 h
    exact hput s t

/-- The same for one state. -/
def StaysAt (s : σ) (x : Prog ε φ σ α) : Prop := match x.run s with
  | .ok _ s' => s' = s
  | .err _ s' => s' = s
  | .fault _ => True

theorem Leaves.staysAt (h : Leaves id x) (s : σ) : StaysAt s x := h s

theorem StaysAt.of_ok {s : σ} {a : α} (h : x.run s = .ok a s) : StaysAt s x := by
  unfold StaysAt
  rw [h]

theorem StaysAt.ok {s s' : σ} {a : α} (h : StaysAt s x) (hx : x.run s = .ok a s') : s' = s := by
  unfold StaysAt at h
  rw [hx] at h
  exact h

theorem StaysAt.err {s s' : σ} {e : ε} (h : StaysAt s x) (hx : x.run s = .err e s') : s' = s := by
  unfold StaysAt at h
  rw [hx] at h
  exact h

theorem StaysAt.bind {s : σ} (hx : StaysAt s x) {k : α → Prog ε φ σ β}
    (hk : ∀ a, StaysAt s (k a)) : StaysAt s (x >>= k) := by
  unfold StaysAt
  cases hrun : x.run s with
  | ok a s₁ =>
    obtain rfl := hx.ok hrun
    rw [bind_ok hrun]
    exact hk a
  | err e s₁ =>
    obtain rfl := hx.err hrun
    rw [bind_err hrun]
  | fault f => rw [bind_fault hrun]; trivial

theorem StaysAt.ite {s : σ} {c : Prop} [Decidable c] {y : Prog ε φ σ α} (hx : StaysAt s x)
    (hy : StaysAt s y) : StaysAt s (if c then x else y) := by
  split
  · exact hx
  · exact hy

end Leaves

/-! ## Programs from a changed state -/

/-- From `f s`, `x` does what it does from `s`, with `f` on the state, unless it fails there with
one of the `spared` codes. -/
def Follows (f : σ → σ) (spared : ε → Prop) (x : Prog ε φ σ α) (s : σ) : Prop :=
  match x.run s with
  | .ok a s' => x.run (f s) = .ok a (f s')
  | .err e s' => spared e ∨ x.run (f s) = .err e (f s')
  | .fault _ => True

section Follows

variable {f : σ → σ} {spared : ε → Prop} {x : Prog ε φ σ α} {s s' : σ}

theorem Follows.ok {a : α} (h : Follows f spared x s) (hx : x.run s = .ok a s') :
    x.run (f s) = .ok a (f s') := by
  unfold Follows at h
  rw [hx] at h
  exact h

theorem Follows.err {e : ε} (h : Follows f spared x s) (hx : x.run s = .err e s') :
    spared e ∨ x.run (f s) = .err e (f s') := by
  unfold Follows at h
  rw [hx] at h
  exact h

theorem Follows.of_ok {a : α} (hx : x.run s = .ok a s') (hf : x.run (f s) = .ok a (f s')) :
    Follows f spared x s := by
  unfold Follows
  rw [hx]
  exact hf

theorem Follows.of_err {e : ε} (hx : x.run s = .err e s')
    (hf : spared e ∨ x.run (f s) = .err e (f s')) : Follows f spared x s := by
  unfold Follows
  rw [hx]
  exact hf

/-- Two programs that run alike, from the state and from the changed one. -/
theorem Follows.of_run {y : Prog ε φ σ α} {t : σ} (h : Follows f spared y t)
    (hx : x.run s = y.run t) (hf : x.run (f s) = y.run (f t)) : Follows f spared x s := by
  unfold Follows at h ⊢
  rw [hx, hf]
  exact h

theorem Follows.pure (a : α) : Follows f spared (Pure.pure a : Prog ε φ σ α) s := rfl

theorem Follows.throw (e : ε) : Follows f spared (throw e : Prog ε φ σ α) s := .inr rfl

theorem Follows.gets {g : σ → α} (hg : g (f s) = g s) :
    Follows f spared (gets g : Prog ε φ σ α) s :=
  congrArg (Outcome.ok · (f s)) hg

theorem Follows.modify {g : σ → σ} (hg : g (f s) = f (g s)) :
    Follows f spared (modify g : Prog ε φ σ Unit) s :=
  congrArg (Outcome.ok ()) hg

theorem Follows.bind {k : α → Prog ε φ σ β} (hx : Follows f spared x s)
    (hk : ∀ a s', x.run s = .ok a s' → Follows f spared (k a) s') :
    Follows f spared (x >>= k) s := by
  cases hrun : x.run s with
  | ok a s' => exact (hk a s' hrun).of_run (bind_ok hrun) (bind_ok (hx.ok hrun))
  | err e s' =>
    refine .of_err (bind_err hrun) ((hx.err hrun).imp_right fun hf => ?_)
    exact bind_err hf
  | fault e =>
    unfold Follows
    rw [bind_fault hrun]
    trivial

theorem Follows.ite {c : Prop} [Decidable c] {y : Prog ε φ σ α} (hx : c → Follows f spared x s)
    (hy : ¬ c → Follows f spared y s) : Follows f spared (if c then x else y) s := by
  split
  · exact hx ‹_›
  · exact hy ‹_›

theorem Follows.zoom {view : τ → σ} {put : σ → τ → τ} {g : τ → τ} {t : τ}
    (hx : Follows f spared x (view t)) (hview : view (g t) = f (view t))
    (hput : ∀ s, put (f s) (g t) = g (put s t)) :
    Follows g spared (Prog.zoom view put x) t := by
  unfold Follows at hx ⊢
  rw [run_zoom, run_zoom, hview]
  cases hrun : x.run (view t) with
  | ok a s =>
    rw [hrun] at hx
    dsimp only at hx ⊢
    rw [hx, ← hput s]
  | err e s =>
    rw [hrun] at hx
    dsimp only at hx ⊢
    refine hx.imp_right fun hf => ?_
    rw [hf, ← hput s]
  | fault e => trivial

end Follows

/-! ## Programs without an error code -/

/-- `x` returns or has a fault. -/
def NeverFails (x : Prog ε φ σ α) : Prop := ∀ s e s', x.run s ≠ .err e s'

section NeverFails

variable {x : Prog ε φ σ α}

theorem NeverFails.pure (a : α) : NeverFails (Pure.pure a : Prog ε φ σ α) :=
  fun s e s' h => by cases h

theorem NeverFails.gets (f : σ → α) : NeverFails (gets f : Prog ε φ σ α) :=
  fun s e s' h => by cases h

theorem NeverFails.attempt (x : Prog ε φ σ α) : NeverFails (attempt x) := by
  intro s e s' h
  rw [run_attempt] at h
  cases hx : x.run s <;> rw [hx] at h <;> cases h

theorem NeverFails.bind (hx : NeverFails x) {k : α → Prog ε φ σ β} (hk : ∀ a, NeverFails (k a)) :
    NeverFails (x >>= k) := by
  intro s e s' h
  rcases bind_eq_err.1 h with h | ⟨a, s₁, -, h⟩
  · exact hx _ _ _ h
  · exact hk a _ _ _ h

theorem NeverFails.ite {c : Prop} [Decidable c] {y : Prog ε φ σ α} (hx : NeverFails x)
    (hy : NeverFails y) : NeverFails (if c then x else y) := by
  split
  · exact hx
  · exact hy

theorem NeverFails.foldlM {δ : Type} {k : β → δ → Prog ε φ σ β} (hk : ∀ b d, NeverFails (k b d)) :
    ∀ (ds : List δ) (b : β), NeverFails (ds.foldlM k b)
  | [], b => .pure b
  | d :: ds, b => (hk b d).bind fun b => NeverFails.foldlM hk ds b

theorem NeverFails.whileLoop {μ : β → σ → Nat} {spent : φ} {body : β → Prog ε φ σ (β ⊕ α)}
    (hbody : ∀ b, NeverFails (body b)) (b : β) : NeverFails (whileLoop μ spent body b) := by
  have hloop : ∀ fuel b, NeverFails (loop spent body fuel b) := by
    intro fuel
    induction fuel with
    | zero => exact fun _ s e s' h => by cases h
    | succ fuel ih =>
      refine fun b => (hbody b).bind fun res => ?_
      cases res with
      | inl b => exact ih b
      | inr a => exact .pure a
  exact fun s => hloop (μ b s + 1) b s

end NeverFails

/-! ## Quantities that no program lowers -/

/-- `x` does not lower `f`, whether it returns or fails. -/
def Grows (f : σ → Nat) (x : Prog ε φ σ α) : Prop := ∀ s, match x.run s with
  | .ok _ s' => f s ≤ f s'
  | .err _ s' => f s ≤ f s'
  | .fault _ => True

section Grows

variable {f : σ → Nat} {x : Prog ε φ σ α}

theorem Grows.ok (h : Grows f x) {s s' : σ} {a : α} (hx : x.run s = .ok a s') : f s ≤ f s' := by
  have := h s; rw [hx] at this; exact this

theorem Grows.err (h : Grows f x) {s s' : σ} {e : ε} (hx : x.run s = .err e s') : f s ≤ f s' := by
  have := h s; rw [hx] at this; exact this

/-- To prove `Grows` from the two outcomes that have a state. -/
theorem Grows.intro (hok : ∀ s a s', x.run s = .ok a s' → f s ≤ f s')
    (herr : ∀ s e s', x.run s = .err e s' → f s ≤ f s') : Grows f x := fun s => by
  cases hx : x.run s with
  | ok a s' => exact hok s a s' hx
  | err e s' => exact herr s e s' hx
  | fault _ => trivial

theorem Leaves.grows (h : Leaves f x) : Grows f x :=
  .intro (fun _ _ _ hx => Nat.le_of_eq (h.ok hx).symm)
    (fun _ _ _ hx => Nat.le_of_eq (h.err hx).symm)

theorem Grows.pure (a : α) : Grows f (Pure.pure a : Prog ε φ σ α) := fun _ => Nat.le_refl _
theorem Grows.throw (e : ε) : Grows f (throw e : Prog ε φ σ α) := fun _ => Nat.le_refl _
theorem Grows.stop (e : φ) : Grows f (stop e : Prog ε φ σ α) := fun _ => trivial
theorem Grows.gets (g : σ → α) : Grows f (gets g : Prog ε φ σ α) := fun _ => Nat.le_refl _

theorem Grows.bind (hx : Grows f x) {k : α → Prog ε φ σ β} (hk : ∀ a, Grows f (k a)) :
    Grows f (x >>= k) := by
  refine .intro (fun s b s' h => ?_) (fun s e s' h => ?_)
  · obtain ⟨a, s₁, h₁, h₂⟩ := bind_eq_ok.1 h
    exact Nat.le_trans (hx.ok h₁) ((hk a).ok h₂)
  · rcases bind_eq_err.1 h with h | ⟨a, s₁, h₁, h₂⟩
    · exact hx.err h
    · exact Nat.le_trans (hx.ok h₁) ((hk a).err h₂)

theorem Grows.attempt (hx : Grows f x) : Grows f (attempt x) := by
  refine .intro (fun s r s' h => ?_) (fun s e s' h => ?_)
  · rcases attempt_eq_ok.1 h with ⟨a, -, h⟩ | ⟨e, -, h⟩
    · exact hx.ok h
    · exact hx.err h
  · rw [run_attempt] at h
    cases hx : x.run s <;> rw [hx] at h <;> cases h

theorem Grows.ite {c : Prop} [Decidable c] {y : Prog ε φ σ α} (hx : Grows f x) (hy : Grows f y) :
    Grows f (if c then x else y) := by
  split
  · exact hx
  · exact hy

theorem Grows.again {body : β → Prog ε φ σ α} (hbody : ∀ b, Grows f (body b)) (r : β ⊕ α) :
    Grows f (again body r) := by
  cases r with
  | inl b => exact hbody b
  | inr a => exact .pure a

theorem Grows.loop {spent : φ} {body : β → Prog ε φ σ (β ⊕ α)} (hbody : ∀ b, Grows f (body b)) :
    ∀ (fuel : Nat) (b : β), Grows f (loop spent body fuel b)
  | 0, _ => .stop spent
  | fuel + 1, b => (hbody b).bind (.again (Grows.loop hbody fuel))

theorem Grows.whileLoop {μ : β → σ → Nat} {spent : φ} {body : β → Prog ε φ σ (β ⊕ α)}
    (hbody : ∀ b, Grows f (body b)) (b : β) : Grows f (whileLoop μ spent body b) :=
  fun s => Grows.loop hbody (μ b s + 1) b s

end Grows

/-! ## Logs -/

/-- `x` appends to the list `g` what satisfies `P`, whether it returns or fails. -/
def Appends {γ : Type} (g : σ → List γ) (P : γ → Prop) (x : Prog ε φ σ α) : Prop :=
  ∀ s, match x.run s with
    | .ok _ s' => ∃ l, g s' = g s ++ l ∧ ∀ c ∈ l, P c
    | .err _ s' => ∃ l, g s' = g s ++ l ∧ ∀ c ∈ l, P c
    | .fault _ => True

section Appends

variable {γ : Type} {g : σ → List γ} {P : γ → Prop} {x : Prog ε φ σ α}

theorem Appends.ok (h : Appends g P x) {s s' : σ} {a : α} (hx : x.run s = .ok a s') :
    ∃ l, g s' = g s ++ l ∧ ∀ c ∈ l, P c := by
  have := h s
  rw [hx] at this
  exact this

theorem Appends.err (h : Appends g P x) {s s' : σ} {e : ε} (hx : x.run s = .err e s') :
    ∃ l, g s' = g s ++ l ∧ ∀ c ∈ l, P c := by
  have := h s
  rw [hx] at this
  exact this

/-- To prove `Appends` from the two outcomes that have a state. -/
theorem Appends.intro
    (hok : ∀ s a s', x.run s = .ok a s' → ∃ l, g s' = g s ++ l ∧ ∀ c ∈ l, P c)
    (herr : ∀ s e s', x.run s = .err e s' → ∃ l, g s' = g s ++ l ∧ ∀ c ∈ l, P c) :
    Appends g P x := by
  intro s
  cases hx : x.run s with
  | ok a s' => exact hok s a s' hx
  | err e s' => exact herr s e s' hx
  | fault _ => trivial

theorem Leaves.appends (h : Leaves g x) : Appends g P x := by
  refine .intro (fun s a s' hx => ⟨[], ?_, by simp⟩) (fun s e s' hx => ⟨[], ?_, by simp⟩)
  · rw [h.ok hx, List.append_nil]
  · rw [h.err hx, List.append_nil]

theorem Appends.pure (a : α) : Appends g P (Pure.pure a : Prog ε φ σ α) := (Leaves.pure a).appends
theorem Appends.throw (e : ε) : Appends g P (throw e : Prog ε φ σ α) := (Leaves.throw e).appends
theorem Appends.stop (e : φ) : Appends g P (stop e : Prog ε φ σ α) := fun _ => trivial
theorem Appends.get : Appends g P (get : Prog ε φ σ σ) := Leaves.get.appends
theorem Appends.gets (h : σ → α) : Appends g P (gets h : Prog ε φ σ α) := (Leaves.gets h).appends

theorem Appends.verify (b : Bool) (e : ε) : Appends g P (verify b e : Prog ε φ σ Unit) :=
  (Leaves.verify b e).appends

theorem Appends.bind (hx : Appends g P x) {k : α → Prog ε φ σ β}
    (hk : ∀ a, Appends g P (k a)) : Appends g P (x >>= k) := by
  have htrans : ∀ {s s₁ s' : σ}, (∃ l, g s₁ = g s ++ l ∧ ∀ c ∈ l, P c) →
      (∃ l, g s' = g s₁ ++ l ∧ ∀ c ∈ l, P c) → ∃ l, g s' = g s ++ l ∧ ∀ c ∈ l, P c := by
    rintro s s₁ s' ⟨l, hl, hP⟩ ⟨l', hl', hP'⟩
    refine ⟨l ++ l', by rw [hl', hl, List.append_assoc], fun c hc => ?_⟩
    exact (List.mem_append.1 hc).elim (hP c) (hP' c)
  refine .intro (fun s b s' h => ?_) (fun s e s' h => ?_)
  · obtain ⟨a, s₁, h₁, h₂⟩ := bind_eq_ok.1 h
    exact htrans (hx.ok h₁) ((hk a).ok h₂)
  · rcases bind_eq_err.1 h with h | ⟨a, s₁, h₁, h₂⟩
    · exact hx.err h
    · exact htrans (hx.ok h₁) ((hk a).err h₂)

theorem Appends.map (hx : Appends g P x) (h : α → β) : Appends g P (h <$> x) :=
  hx.bind fun a => .pure (h a)

theorem Appends.attempt (hx : Appends g P x) : Appends g P (attempt x) := by
  refine .intro (fun s r s' h => ?_) (fun s e s' h => ?_)
  · rcases attempt_eq_ok.1 h with ⟨a, -, h⟩ | ⟨e, -, h⟩
    · exact hx.ok h
    · exact hx.err h
  · exact absurd h (NeverFails.attempt x s e s')

theorem Appends.ite {c : Prop} [Decidable c] {y : Prog ε φ σ α} (hx : Appends g P x)
    (hy : Appends g P y) : Appends g P (if c then x else y) := by
  split
  · exact hx
  · exact hy

theorem Appends.foldlM {δ : Type} {k : β → δ → Prog ε φ σ β} (hk : ∀ b d, Appends g P (k b d)) :
    ∀ (ds : List δ) (b : β), Appends g P (ds.foldlM k b)
  | [], b => .pure b
  | d :: ds, b => (hk b d).bind fun b => Appends.foldlM hk ds b

theorem Appends.whileLoop {μ : β → σ → Nat} {spent : φ} {body : β → Prog ε φ σ (β ⊕ α)}
    (hbody : ∀ b, Appends g P (body b)) (b : β) : Appends g P (whileLoop μ spent body b) := by
  have hloop : ∀ fuel b, Appends g P (loop spent body fuel b) := by
    intro fuel
    induction fuel with
    | zero => exact fun _ => .stop spent
    | succ fuel ih =>
      refine fun b => (hbody b).bind fun res => ?_
      cases res with
      | inl b => exact ih b
      | inr a => exact .pure a
  exact fun s => hloop (μ b s + 1) b s

end Appends

/-! ## Where a program ends -/

/-- From `s`, `x` ends in `t`, whether it returns or fails. -/
def Reaches (x : Prog ε φ σ α) (s t : σ) : Prop :=
  (∃ a, x.run s = .ok a t) ∨ ∃ e, x.run s = .err e t

section Reaches

variable {x : Prog ε φ σ α} {k : α → Prog ε φ σ β} {s s' t : σ}

theorem Reaches.of_ok {a : α} (h : x.run s = .ok a t) : Reaches x s t := .inl ⟨a, h⟩

theorem Reaches.of_err {e : ε} (h : x.run s = .err e t) : Reaches x s t := .inr ⟨e, h⟩

theorem reaches_ok {a : α} (h : x.run s = .ok a s') : Reaches x s t ↔ t = s' := by
  constructor
  · rintro (⟨a', h'⟩ | ⟨e, h'⟩)
    · rw [h] at h'
      cases h'
      rfl
    · rw [h] at h'
      cases h'
  · rintro rfl
    exact .of_ok h

theorem reaches_err {e : ε} (h : x.run s = .err e s') : Reaches x s t ↔ t = s' := by
  constructor
  · rintro (⟨a', h'⟩ | ⟨e, h'⟩)
    · rw [h] at h'
      cases h'
    · rw [h] at h'
      cases h'
      rfl
  · rintro rfl
    exact .of_err h

/-- What follows begins where the first part has returned. -/
theorem reaches_bind_ok {a : α} (h : x.run s = .ok a s') :
    Reaches (x >>= k) s t ↔ Reaches (k a) s' t := by
  unfold Reaches
  rw [bind_ok h]

theorem reaches_bind_err {e : ε} (h : x.run s = .err e s') :
    Reaches (x >>= k) s t ↔ t = s' := reaches_err (bind_err h)

end Reaches

/-! ## Outcomes -/

/-- From `P`, `x` returns into `Q`, fails into `E`, or has a fault of `F`. -/
def Ends (F : φ → Prop) (P : σ → Prop) (x : Prog ε φ σ α) (Q : α → σ → Prop)
    (E : ε → σ → Prop) : Prop :=
  ∀ s, P s → match x.run s with
    | .ok a s' => Q a s'
    | .err e s' => E e s'
    | .fault f => F f

/-- After a round that began with measure `n`: the invariant with a smaller measure, or `Q`. -/
def RoundPost (μ : β → σ → Nat) (J : β → σ → Prop) (Q : α → σ → Prop) (n : Nat) :
    β ⊕ α → σ → Prop
  | .inl b, s => J b s ∧ μ b s < n
  | .inr a, s => Q a s

section Ends

variable {F : φ → Prop} {P : σ → Prop} {Q : α → σ → Prop} {R : β → σ → Prop} {E : ε → σ → Prop}

theorem Ends.pure {a : α} (h : ∀ s, P s → Q a s) :
    Ends F P (Pure.pure a : Prog ε φ σ α) Q E := h

theorem Ends.throw {e : ε} (h : ∀ s, P s → E e s) : Ends F P (throw e : Prog ε φ σ α) Q E := h

theorem Ends.stop {f : φ} (h : F f) : Ends F P (stop f : Prog ε φ σ α) Q E := fun _ _ => h

theorem Ends.modify {f : σ → σ} {Q : Unit → σ → Prop} (h : ∀ s, P s → Q () (f s)) :
    Ends F P (modify f : Prog ε φ σ Unit) Q E := h

theorem Ends.verify {b : Bool} {e : ε} {Q : Unit → σ → Prop} (ht : ∀ s, P s → b = true → Q () s)
    (hf : ∀ s, P s → b = false → E e s) : Ends F P (verify b e : Prog ε φ σ Unit) Q E := by
  intro s hs
  cases b with
  | true => exact ht s hs rfl
  | false => exact hf s hs rfl

theorem Ends.bind {x : Prog ε φ σ α} {k : α → Prog ε φ σ β} (hx : Ends F P x Q E)
    (hk : ∀ a, Ends F (Q a) (k a) R E) : Ends F P (x >>= k) R E := by
  intro s hs
  have h := hx s hs
  rw [run_bind]
  cases hxs : x.run s with
  | ok a s' => rw [hxs] at h; exact hk a s' h
  | err e s' => rw [hxs] at h; exact h
  | fault f => rw [hxs] at h; exact h

theorem Ends.get_bind {k : σ → Prog ε φ σ β}
    (hk : ∀ a, Ends F (fun s => P s ∧ s = a) (k a) R E) : Ends F P (Prog.get >>= k) R E :=
  fun s hs => hk s s ⟨hs, rfl⟩

theorem Ends.gets_bind {f : σ → α} {k : α → Prog ε φ σ β}
    (hk : ∀ a, Ends F (fun s => P s ∧ f s = a) (k a) R E) : Ends F P (Prog.gets f >>= k) R E :=
  fun s hs => hk (f s) s ⟨hs, rfl⟩

theorem Ends.conseq {F' : φ → Prop} {P' : σ → Prop} {Q' : α → σ → Prop} {E' : ε → σ → Prop}
    {x : Prog ε φ σ α} (h : Ends F P x Q E) (hF : ∀ f, F f → F' f) (hP : ∀ s, P' s → P s)
    (hQ : ∀ a s, Q a s → Q' a s) (hE : ∀ e s, E e s → E' e s) : Ends F' P' x Q' E' := by
  intro s hs
  have h := h s (hP s hs)
  cases hx : x.run s with
  | ok a s' => rw [hx] at h; exact hQ _ _ h
  | err e s' => rw [hx] at h; exact hE _ _ h
  | fault f => rw [hx] at h; exact hF _ h

theorem Ends.ite {c : Prop} [Decidable c] {x y : Prog ε φ σ α}
    (hx : c → Ends F P x Q E) (hy : ¬ c → Ends F P y Q E) :
    Ends F P (if c then x else y) Q E := by
  split
  · exact hx ‹_›
  · exact hy ‹_›

theorem Ends.attempt {x : Prog ε φ σ α} {Q : Except ε α → σ → Prop}
    (h : Ends F P x (fun a => Q (.ok a)) (fun e => Q (.error e))) :
    Ends F P (attempt x) Q E := by
  intro s hs
  have h := h s hs
  rw [run_attempt]
  cases hx : x.run s with
  | ok a s' => rw [hx] at h; exact h
  | err e s' => rw [hx] at h; exact h
  | fault f => rw [hx] at h; exact h

/-- A program on a part of the state. -/
theorem Ends.zoom {view : τ → σ} {put : σ → τ → τ} {x : Prog ε φ σ α} {P : τ → Prop}
    {Q : α → τ → Prop} {E : ε → τ → Prop}
    (h : ∀ t, P t → Ends F (· = view t) x (fun a s => Q a (put s t)) (fun e s => E e (put s t))) :
    Ends F P (zoom view put x) Q E := by
  intro t ht
  have h := h t ht (view t) rfl
  rw [run_zoom]
  cases hx : x.run (view t) with
  | ok a s => rw [hx] at h; exact h
  | err e s => rw [hx] at h; exact h
  | fault f => rw [hx] at h; exact h

/-- From one state. -/
theorem Ends.at {x : Prog ε φ σ α} (h : Ends F P x Q E) {s : σ} (hs : P s) :
    Ends F (· = s) x Q E := by
  rintro _ rfl
  exact h _ hs

/-- From each state on its own. -/
theorem Ends.of_each {x : Prog ε φ σ α} (h : ∀ s, P s → Ends F (· = s) x Q E) :
    Ends F P x Q E := fun s hs => h s hs s rfl

/-- A loop keeps its invariant, if each round lowers the measure while the invariant holds. -/
theorem Ends.whileLoop {μ : β → σ → Nat} {spent : φ} {body : β → Prog ε φ σ (β ⊕ α)}
    {J : β → σ → Prop}
    (hstep : ∀ b n, Ends F (fun s => J b s ∧ μ b s = n) (body b) (RoundPost μ J Q n) E) (b : β) :
    Ends F (J b) (whileLoop μ spent body b) Q E := by
  have key : ∀ (fuel : Nat) (b : β) (s : σ), J b s → μ b s < fuel →
      match (loop spent body fuel b).run s with
      | .ok a s' => Q a s'
      | .err e s' => E e s'
      | .fault f => F f := by
    intro fuel
    induction fuel with
    | zero => intro b s _ h; exact absurd h (Nat.not_lt_zero _)
    | succ fuel ih =>
      intro b s hJ hlt
      have h := hstep b (μ b s) s ⟨hJ, rfl⟩
      rw [loop_succ, run_bind]
      cases hb : (body b).run s with
      | ok r s' =>
        rw [hb] at h
        cases r with
        | inl b' => exact ih b' s' h.1 (by have := h.2; omega)
        | inr a => exact h
      | err e s' => rw [hb] at h; exact h
      | fault f => rw [hb] at h; exact h
  intro s hs
  rw [run_whileLoop]
  exact key (μ b s + 1) b s hs (Nat.lt_succ_self _)

end Ends

/-! ## Triples -/

/-- From `P`, `x` has no fault; it returns into `Q` or fails into `E`. -/
def Triple (P : σ → Prop) (x : Prog ε φ σ α) (Q : α → σ → Prop) (E : ε → σ → Prop) : Prop :=
  ∀ s, P s → match x.run s with
    | .ok a s' => Q a s'
    | .err e s' => E e s'
    | .fault _ => False

section Triple

variable {P : σ → Prop} {Q : α → σ → Prop} {R : β → σ → Prop} {E : ε → σ → Prop}

theorem triple_iff_ends {x : Prog ε φ σ α} :
    Triple P x Q E ↔ Ends (fun _ => False) P x Q E := Iff.rfl

/-- A program without faults has none outside `F`. -/
theorem Triple.ends {x : Prog ε φ σ α} (h : Triple P x Q E) (F : φ → Prop) : Ends F P x Q E :=
  Ends.conseq (triple_iff_ends.1 h) (fun _ => False.elim) (fun _ h => h) (fun _ _ h => h)
    fun _ _ h => h

theorem Triple.pure {a : α} (h : ∀ s, P s → Q a s) :
    Triple P (Pure.pure a : Prog ε φ σ α) Q E := h

theorem Triple.throw {e : ε} (h : ∀ s, P s → E e s) : Triple P (throw e : Prog ε φ σ α) Q E := h

theorem Triple.gets {f : σ → α} (h : ∀ s, P s → Q (f s) s) :
    Triple P (gets f : Prog ε φ σ α) Q E := h

theorem Triple.modify {f : σ → σ} {Q : Unit → σ → Prop} (h : ∀ s, P s → Q () (f s)) :
    Triple P (modify f : Prog ε φ σ Unit) Q E := h

theorem Triple.verify {b : Bool} {e : ε} {Q : Unit → σ → Prop} (ht : ∀ s, P s → b = true → Q () s)
    (hf : ∀ s, P s → b = false → E e s) : Triple P (verify b e : Prog ε φ σ Unit) Q E :=
  triple_iff_ends.2 (Ends.verify ht hf)

theorem Triple.bind {x : Prog ε φ σ α} {k : α → Prog ε φ σ β} (hx : Triple P x Q E)
    (hk : ∀ a, Triple (Q a) (k a) R E) : Triple P (x >>= k) R E :=
  triple_iff_ends.2 (Ends.bind (triple_iff_ends.1 hx) fun a => triple_iff_ends.1 (hk a))

theorem Triple.get_bind {k : σ → Prog ε φ σ β}
    (hk : ∀ a, Triple (fun s => P s ∧ s = a) (k a) R E) : Triple P (Prog.get >>= k) R E :=
  fun s hs => hk s s ⟨hs, rfl⟩

theorem Triple.gets_bind {f : σ → α} {k : α → Prog ε φ σ β}
    (hk : ∀ a, Triple (fun s => P s ∧ f s = a) (k a) R E) : Triple P (Prog.gets f >>= k) R E :=
  fun s hs => hk (f s) s ⟨hs, rfl⟩

theorem Triple.conseq {P' : σ → Prop} {Q' : α → σ → Prop} {E' : ε → σ → Prop}
    {x : Prog ε φ σ α} (h : Triple P x Q E) (hP : ∀ s, P' s → P s)
    (hQ : ∀ a s, Q a s → Q' a s) (hE : ∀ e s, E e s → E' e s) : Triple P' x Q' E' :=
  triple_iff_ends.2 (Ends.conseq (triple_iff_ends.1 h) (fun _ h => h) hP hQ hE)

theorem Triple.ite {c : Prop} [Decidable c] {x y : Prog ε φ σ α}
    (hx : c → Triple P x Q E) (hy : ¬ c → Triple P y Q E) :
    Triple P (if c then x else y) Q E := by
  split
  · exact hx ‹_›
  · exact hy ‹_›

theorem Triple.attempt {x : Prog ε φ σ α} {Q : Except ε α → σ → Prop}
    (h : Triple P x (fun a => Q (.ok a)) (fun e => Q (.error e))) : Triple P (attempt x) Q E :=
  triple_iff_ends.2 (Ends.attempt (triple_iff_ends.1 h))

/-- A program on a part of the state. -/
theorem Triple.zoom {view : τ → σ} {put : σ → τ → τ} {x : Prog ε φ σ α} {P : τ → Prop}
    {Q : α → τ → Prop} {E : ε → τ → Prop}
    (h : ∀ t, P t → Triple (· = view t) x (fun a s => Q a (put s t)) (fun e s => E e (put s t))) :
    Triple P (zoom view put x) Q E :=
  triple_iff_ends.2 (Ends.zoom fun t ht => triple_iff_ends.1 (h t ht))

/-- A triple about one state. -/
theorem Triple.at {x : Prog ε φ σ α} (h : Triple P x Q E) {s : σ} (hs : P s) :
    Triple (· = s) x Q E := by
  rintro _ rfl
  exact h _ hs

/-- A triple about each state on its own. -/
theorem Triple.of_each {x : Prog ε φ σ α} (h : ∀ s, P s → Triple (· = s) x Q E) :
    Triple P x Q E := fun s hs => h s hs s rfl

/-- A loop keeps its invariant, if each round lowers the measure while the invariant holds. -/
theorem Triple.whileLoop {μ : β → σ → Nat} {spent : φ} {body : β → Prog ε φ σ (β ⊕ α)}
    {J : β → σ → Prop}
    (hstep : ∀ b n, Triple (fun s => J b s ∧ μ b s = n) (body b) (RoundPost μ J Q n) E) (b : β) :
    Triple (J b) (whileLoop μ spent body b) Q E :=
  triple_iff_ends.2 (Ends.whileLoop (fun b n => triple_iff_ends.1 (hstep b n)) b)

end Triple

/-! ## Invariants -/

/-- `x` leads from `P` to `P`, whether it returns or fails. -/
def Keeps (P : σ → Prop) (x : Prog ε φ σ α) : Prop :=
  Ends (fun _ => True) P x (fun _ => P) (fun _ => P)

section Keeps

variable {P : σ → Prop} {x : Prog ε φ σ α}

theorem Keeps.of_run (hok : ∀ s a s', P s → x.run s = .ok a s' → P s')
    (herr : ∀ s e s', P s → x.run s = .err e s' → P s') : Keeps P x := by
  intro s hs
  cases hx : x.run s with
  | ok a s' => exact hok s a s' hs hx
  | err e s' => exact herr s e s' hs hx
  | fault f => trivial

theorem Keeps.bind (hx : Keeps P x) {k : α → Prog ε φ σ β} (hk : ∀ a, Keeps P (k a)) :
    Keeps P (x >>= k) := Ends.bind hx hk

/-- What is left alone keeps what it had. -/
theorem Leaves.keeps {γ : Type} {g : σ → γ} (h : Leaves g x) (P : γ → Prop) :
    Keeps (fun s => P (g s)) x := by
  refine .of_run (fun s a s' hs hx => ?_) (fun s e s' hs hx => ?_)
  · rw [h.ok hx]
    exact hs
  · rw [h.err hx]
    exact hs

end Keeps

/-! ## Runs -/

/-- From `start`, one call after another, each in a state that `meets` admits. After an error the
caller goes on if `goesOn` says so. -/
inductive Run (perform : β → Prog ε φ σ α) (goesOn : β → ε → Bool) (meets : β → σ → Prop)
    (start : σ) : List β → σ → Prop where
  | start : Run perform goesOn meets start [] start
  | ok {calls : List β} {call : β} {s s' : σ} {a : α}
      (h : Run perform goesOn meets start calls s) (hmeets : meets call s)
      (hok : (perform call).run s = .ok a s') :
      Run perform goesOn meets start (calls ++ [call]) s'
  | err {calls : List β} {call : β} {s s' : σ} {e : ε}
      (h : Run perform goesOn meets start calls s) (hmeets : meets call s)
      (hgoes : goesOn call e = true) (herr : (perform call).run s = .err e s') :
      Run perform goesOn meets start (calls ++ [call]) s'

/-- What the start has and every call keeps, every run keeps. -/
theorem Run.invariant {perform : β → Prog ε φ σ α} {goesOn : β → ε → Bool}
    {meets : β → σ → Prop} {start s : σ} {calls : List β}
    (h : Run perform goesOn meets start calls s) (I : σ → Prop) (hstart : I start)
    (hok : ∀ call s a s', I s → meets call s → (perform call).run s = .ok a s' → I s')
    (herr : ∀ call s e s', I s → meets call s → goesOn call e = true →
      (perform call).run s = .err e s' → I s') : I s := by
  induction h with
  | start => exact hstart
  | ok _ hmeets hrun ih => exact hok _ _ _ _ ih hmeets hrun
  | err _ hmeets hgoes hrun ih => exact herr _ _ _ _ ih hmeets hgoes hrun

end Prog
