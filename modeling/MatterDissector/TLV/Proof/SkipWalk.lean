import MatterDissector.TLV.Proof.Skip

/-!
# Skipping agrees with walking

`walk_skip`: where the recursive walk of a container succeeds, `Skip` ends in the same state, and so
does a client that stops the walk at any place, in any nested container, and leaves the containers
it is in with `ExitContainer`. `SkipToEndOfContainer` counts nesting levels where the walk keeps a
stack; `Unwinds` says of a place in the walk that the rest of the walk succeeds, one frame for each
container that the client is in, and each of its moves keeps it.
-/

namespace Matter.TLV

open Prog TLVReader

/-! ## The walk -/

mutual

/-- The element that the reader is on: nothing is read of a value. -/
def walkElem : Nat → ReaderM Unit
  | 0 => stop .outOfFuel
  | fuel + 1 => do
    let elemType ← gets elementType
    if tlvTypeIsContainer elemType then
      let outerContainerType ← enterContainer
      walkOn fuel
      exitContainer outerContainerType
    else pure ()

/-- `Next` until `MATTER_END_OF_TLV`. -/
def walkOn : Nat → ReaderM Unit
  | 0 => stop .outOfFuel
  | fuel + 1 => do
    match ← attempt next with
    | .error .endOfTLV => pure ()
    | .error e => throw e
    | .ok () =>
      walkElem fuel
      walkOn fuel

end

/-- What a client does on its way through a container. -/
inductive Move where
  | next
  | enter
  | exit
  deriving DecidableEq, Repr

/-- One move of a client that keeps the outer types of the containers it is in; with none left its
way is over. -/
def Move.perform : Move → List TLVType → ReaderM (List TLVType)
  | _, [] => throw .incorrectState
  | .next, stack => do
    match ← attempt TLVReader.next with
    | .ok () | .error .endOfTLV => pure stack
    | .error e => throw e
  | .enter, stack => do return (← enterContainer) :: stack
  | .exit, outerContainerType :: stack => do
    exitContainer outerContainerType
    pure stack

def performAll : List Move → List TLVType → ReaderM (List TLVType)
  | [], stack => pure stack
  | move :: moves, stack => do performAll moves (← move.perform stack)

/-- A part of the walk of the container that the reader is on. -/
def partialWalk (moves : List Move) : ReaderM (List TLVType) := do
  performAll moves [← enterContainer]

/-- `ExitContainer` from every container that the client is in. -/
def exitAll : List TLVType → ReaderM Unit
  | [] => pure ()
  | outerContainerType :: stack => do
    exitContainer outerContainerType
    exitAll stack

section
variable {data : List UInt8} {r r' s s' t e : TLVReader} {outer : TLVType} {stack : List TLVType}

/-! ## One step of the walk -/

/-- The reader is not on the head of a container nor on the end of one. -/
def OnValue (r : TLVReader) : Prop :=
  r.elementType ≠ ElementType.endOfContainer ∧ tlvTypeIsContainer r.elementType = false

theorem Cleared.onValue (h : Cleared r) : OnValue r := by
  constructor <;> rw [h] <;> decide

/-- The end of the container is found from both. -/
def SameEnd (r s : TLVReader) : Prop :=
  SameOk (skipToEndOfContainer.run r) (skipToEndOfContainer.run s)

theorem SameEnd.refl (r : TLVReader) : SameEnd r r := SameOk.refl _

theorem SameEnd.trans (h : SameEnd r s) (h' : SameEnd s t) : SameEnd r t := SameOk.trans h h'

theorem SameEnd.exit (h : SameEnd r s) :
    (exitContainer outer).run r = .ok () e ↔ (exitContainer outer).run s = .ok () e :=
  h.bind _ () e

theorem exitContainer_cleared (hok : (exitContainer outer).run r = .ok () e) : Cleared e := by
  obtain ⟨e', -, rfl⟩ := exitContainer_eq_ok.1 hok
  exact cleared_clearElementState _

theorem exitContainer_inBounds (h : InBounds data r)
    (hok : (exitContainer outer).run r = .ok () e) : InBounds data e := by
  have hkeep := exitContainer_keeps outer r h
  rw [hok] at hkeep
  exact hkeep

theorem enterContainer_inBounds (h : InBounds data r)
    (hok : enterContainer.run r = .ok outer s) : InBounds data s := by
  have hkeep := enterContainer_keeps r h
  rw [hok] at hkeep
  exact hkeep

theorem next_inBounds (h : InBounds data r) (hok : next.run r = .ok () s) : InBounds data s := by
  have hkeep := next_keeps r h
  rw [hok] at hkeep
  exact hkeep

theorem next_inBounds_err {err : MatterError} (h : InBounds data r)
    (herr : next.run r = .err err s) : InBounds data s := by
  have hkeep := next_keeps r h
  rw [herr] at hkeep
  exact hkeep

/-- Over a value `Skip` does not report the end of the input. -/
theorem skip_ne_endOfTLV (h : InBounds data r) (hvalue : OnValue r) :
    skip.run r ≠ .err .endOfTLV s := by
  rw [skip, gets_bind, if_neg hvalue.1, if_neg (by simp [hvalue.2])]
  intro herr
  rcases bind_eq_err.1 herr with hdata | ⟨_, _, -, hclear⟩
  · rw [skipData_eq h] at hdata
    split at hdata
    · split at hdata <;> cases hdata
    · cases hdata
  · cases hclear

/-- Where `Next` reports the end, the end of the container is found as from before. -/
theorem sameEnd_of_endOfTLV (h : InBounds data r) (hvalue : OnValue r)
    (herr : next.run r = .err .endOfTLV s) : SameEnd r s := by
  cases hskip : skip.run r with
  | ok _ t =>
    have ht := skip_inBounds h hskip
    rcases next_endOfTLV h hskip herr with ⟨hread, -⟩ | ⟨rfl, -⟩
    · refine (skipToEnd_skip h hskip).trans ?_
      rw [skipToEnd_cleared ht (skip_cleared hskip), readOn, bind_ok hread, skipToEnd_eq,
        containerType_of_readElement ht hread]
      exact SameOk.refl _
    · exact skipToEnd_skip h hskip
  | err err t =>
    rw [next, bind_err hskip] at herr
    cases herr
    exact absurd hskip (skip_ne_endOfTLV h hvalue)
  | fault f =>
    rw [next, bind_fault hskip] at herr
    cases herr

/-- On the end of a container `Next` stays. -/
theorem next_on_end (hend : r.elementType = ElementType.endOfContainer) :
    next.run r = .err .endOfTLV r := by
  rw [next, bind_err]
  rw [skip, gets_bind, if_pos hend]
  rfl

/-- `Next` goes on from behind the element that the reader is on. -/
theorem next_skip (hskip : skip.run r = .ok () t) : next.run r = next.run t := by
  rw [next, bind_ok hskip, bind_ok (skip_skip hskip)]

/-! ## The whole walk -/

/-- What the walk of an element amounts to. -/
structure ElemWalked (data : List UInt8) (r e : TLVReader) : Prop where
  inBounds : InBounds data e
  sameEnd : SameEnd r e
  skip_eq : tlvTypeIsContainer r.elementType = true → skip.run r = .ok () e
  stays : tlvTypeIsContainer r.elementType = false → e = r

/-- From the members of a container to its end, at whatever nesting level that lies. -/
structure MembersWalked (data : List UInt8) (r e : TLVReader) : Prop where
  inBounds : InBounds data e
  sameEnd : SameEnd r e

theorem walkElem_value (fuel : Nat) (h : tlvTypeIsContainer r.elementType = false) :
    (walkElem (fuel + 1)).run r = .ok () r := by
  rw [walkElem, gets_bind, if_neg (by simp [h])]
  rfl

theorem walkElem_container {fuel : Nat} (h : tlvTypeIsContainer r.elementType = true) :
    (walkElem (fuel + 1)).run r = .ok () e ↔ ∃ s t, enterContainer.run r = .ok r.containerType s ∧
      (walkOn fuel).run s = .ok () t ∧ (exitContainer r.containerType).run t = .ok () e := by
  rw [walkElem, gets_bind, if_pos h, bind_eq_ok]
  constructor
  · rintro ⟨outer, s, henter, hrun⟩
    obtain ⟨-, rfl, -⟩ := enterContainer_eq_ok.1 henter
    obtain ⟨_, t, hon, hexit⟩ := bind_eq_ok.1 hrun
    exact ⟨s, t, henter, hon, hexit⟩
  · rintro ⟨s, t, henter, hon, hexit⟩
    exact ⟨_, s, henter, by rw [bind_ok hon, hexit]⟩

/-- The ways in which the walk of the members goes on. -/
theorem walkOn_eq_ok {fuel : Nat} : (walkOn (fuel + 1)).run r = .ok () e ↔
    next.run r = .err .endOfTLV e ∨ ∃ s t, next.run r = .ok () s ∧
      (walkElem fuel).run s = .ok () t ∧ (walkOn fuel).run t = .ok () e := by
  rw [walkOn]
  cases hnext : next.run r with
  | ok _ s =>
    rw [bind_ok (attempt_ok hnext)]
    show (walkElem fuel >>= fun _ => walkOn fuel).run s = _ ↔ _
    rw [bind_eq_ok]
    constructor
    · rintro ⟨_, t, helem, hon⟩
      exact .inr ⟨s, t, rfl, helem, hon⟩
    · rintro (herr | ⟨s', t, hs, helem, hon⟩)
      · cases herr
      · cases hs
        exact ⟨(), t, helem, hon⟩
  | err err s =>
    rw [bind_ok (attempt_err hnext)]
    cases err <;> simp
  | fault f =>
    rw [run_bind, run_attempt, hnext]
    simp

/-- Behind a container there is no current element; over a value the walk does nothing. -/
theorem walkElem_end {fuel : Nat} (hok : (walkElem fuel).run r = .ok () e) :
    Cleared e ∨ e = r ∧ tlvTypeIsContainer r.elementType = false := by
  cases fuel with
  | zero => cases hok
  | succ fuel =>
    by_cases hcont : tlvTypeIsContainer r.elementType = true
    · obtain ⟨s, t, -, -, hexit⟩ := (walkElem_container hcont).1 hok
      exact .inl (exitContainer_cleared hexit)
    · rw [Bool.not_eq_true] at hcont
      rw [walkElem_value fuel hcont] at hok
      cases hok
      exact .inr ⟨rfl, hcont⟩

theorem onValue_of_walkElem {fuel : Nat} (hnot : r.elementType ≠ ElementType.endOfContainer)
    (hok : (walkElem fuel).run r = .ok () e) : OnValue e := by
  rcases walkElem_end hok with hclear | ⟨rfl, hcont⟩
  · exact hclear.onValue
  · exact ⟨hnot, hcont⟩

mutual

theorem walkElem_walked : ∀ (fuel : Nat) {r e : TLVReader}, InBounds data r →
    (walkElem fuel).run r = .ok () e → ElemWalked data r e
  | 0, _, _, _, hok => by cases hok
  | fuel + 1, r, e, h, hok => by
    by_cases hcont : tlvTypeIsContainer r.elementType = true
    · obtain ⟨s, t, henter, hon, hexit⟩ := (walkElem_container hcont).1 hok
      have hs := enterContainer_inBounds h henter
      have hclear : Cleared s := by
        obtain ⟨-, -, rfl⟩ := enterContainer_eq_ok.1 henter
        exact cleared_clearElementState _
      have hmembers := walkOn_walked fuel hs hclear.onValue hon
      have hskip : skip.run r = .ok () e := by
        have hend : r.elementType ≠ ElementType.endOfContainer := fun hend => by
          rw [hend] at hcont
          exact absurd hcont (by decide)
        rw [skip, gets_bind, if_neg hend, if_pos hcont, bind_ok henter]
        exact hmembers.sameEnd.exit.2 hexit
      exact {
        inBounds := exitContainer_inBounds hmembers.inBounds hexit
        sameEnd := skipToEnd_skip h hskip
        skip_eq := fun _ => hskip
        stays := fun hnot => by rw [hcont] at hnot; cases hnot }
    · rw [Bool.not_eq_true] at hcont
      rw [walkElem_value fuel hcont] at hok
      cases hok
      exact {
        inBounds := h
        sameEnd := SameEnd.refl r
        skip_eq := fun hyes => by rw [hcont] at hyes; cases hyes
        stays := fun _ => rfl }

theorem walkOn_walked : ∀ (fuel : Nat) {r e : TLVReader}, InBounds data r → OnValue r →
    (walkOn fuel).run r = .ok () e → MembersWalked data r e
  | 0, _, _, _, _, hok => by cases hok
  | fuel + 1, r, e, h, hvalue, hok => by
    rcases walkOn_eq_ok.1 hok with hend | ⟨s, t, hnext, helem, hon⟩
    · exact ⟨next_inBounds_err h hend, sameEnd_of_endOfTLV h hvalue hend⟩
    · have hs := next_inBounds h hnext
      obtain ⟨-, -, -, hnot⟩ := next_eq_ok.1 hnext
      have hwalked := walkElem_walked fuel hs helem
      have hrest := walkOn_walked fuel hwalked.inBounds (onValue_of_walkElem hnot helem) hon
      have hstep : SameEnd r s := skipToEnd_next h hnext
      exact ⟨hrest.inBounds, hstep.trans (hwalked.sameEnd.trans hrest.sameEnd)⟩

end

/-! ## A part of the walk -/

/-- From `r`, the element that the reader is on, the other members of its container and then those
of the outer ones can be walked, and the walk ends in `e`. -/
inductive Unwinds (data : List UInt8) (e : TLVReader) : List TLVType → TLVReader → Prop where
  | done : Unwinds data e [] e
  | frame {fuel fuel' : Nat} {outer : TLVType} {stack : List TLVType} {r s t u : TLVReader}
      (h : InBounds data r) (helem : (walkElem fuel).run r = .ok () s)
      (hon : (walkOn fuel').run s = .ok () t) (hexit : (exitContainer outer).run t = .ok () u)
      (hrest : Unwinds data e stack u) : Unwinds data e (outer :: stack) r

/-- `ExitContainer` at once leads where the walk of the other members does. -/
theorem sameEnd_of_walk {fuel fuel' : Nat} (h : InBounds data r)
    (helem : (walkElem fuel).run r = .ok () s) (hon : (walkOn fuel').run s = .ok () t) :
    SameEnd r t := by
  have hwalked := walkElem_walked fuel h helem
  by_cases hend : r.elementType = ElementType.endOfContainer
  · -- behind the end of the container there is nothing to walk
    have hs : s = r := hwalked.stays (by rw [hend]; decide)
    subst hs
    cases fuel' with
    | zero => cases hon
    | succ fuel' =>
      have hstop := next_on_end hend
      rcases walkOn_eq_ok.1 hon with hnext | ⟨_, _, hnext, -⟩
      · rw [hstop] at hnext
        cases hnext
        exact SameEnd.refl _
      · rw [hstop] at hnext
        cases hnext
  · have hvalue := onValue_of_walkElem hend helem
    exact hwalked.sameEnd.trans (walkOn_walked fuel' hwalked.inBounds hvalue hon).sameEnd

theorem Unwinds.exitAll (h : Unwinds data e stack r) : (exitAll stack).run r = .ok () e := by
  induction h with
  | done => rfl
  | frame h helem hon hexit _ ih =>
    rw [TLV.exitAll, bind_ok ((sameEnd_of_walk h helem hon).exit.2 hexit), ih]

/-- At the end `Next` stays where it is. -/
theorem next_again (h : InBounds data r) (hcont : tlvTypeIsContainer r.elementType = false)
    (herr : next.run r = .err .endOfTLV s) :
    next.run s = .err .endOfTLV s ∧ tlvTypeIsContainer s.elementType = false := by
  by_cases hend : r.elementType = ElementType.endOfContainer
  · rw [next_on_end hend] at herr
    cases herr
    exact ⟨next_on_end hend, hcont⟩
  cases hskip : skip.run r with
  | ok _ t =>
    rcases next_endOfTLV h hskip herr with ⟨-, hend⟩ | ⟨rfl, hread⟩
    · exact ⟨next_on_end hend, by rw [hend]; decide⟩
    · refine ⟨?_, (skip_cleared hskip).onValue.2⟩
      rw [next, bind_ok (skip_skip hskip), bind_err hread]
  | err err t =>
    rw [next, bind_err hskip] at herr
    cases herr
    exact absurd hskip (skip_ne_endOfTLV h ⟨hend, hcont⟩)
  | fault f =>
    rw [next, bind_fault hskip] at herr
    cases herr

theorem walkElem_cleared (hclear : Cleared r) : (walkElem 1).run r = .ok () r :=
  walkElem_value 0 hclear.onValue.2

theorem perform_next_eq_ok {stack' : List TLVType}
    (h : (Move.perform .next (outer :: stack)).run r = .ok stack' s) :
    stack' = outer :: stack ∧ (next.run r = .ok () s ∨ next.run r = .err .endOfTLV s) := by
  obtain ⟨result, s', hattempt, hmatch⟩ := bind_eq_ok.1 h
  rcases attempt_eq_ok.1 hattempt with ⟨_, rfl, hnext⟩ | ⟨err, rfl, hnext⟩
  · cases hmatch
    exact ⟨rfl, .inl hnext⟩
  · cases err <;> cases hmatch
    exact ⟨rfl, .inr hnext⟩

/-- Each move leaves the client where the rest of the walk succeeds. -/
theorem Unwinds.perform {move : Move} {stack' : List TLVType} (h : Unwinds data e stack r)
    (hok : (move.perform stack).run r = .ok stack' r') : Unwinds data e stack' r' := by
  cases h with
  | done => cases move <;> cases hok
  | @frame fuel fuel' outer stack _ s t u h helem hon hexit hrest =>
    have hwalked := walkElem_walked fuel h helem
    cases move with
    | next =>
      have hsame : TLVReader.next.run r = TLVReader.next.run s := by
        by_cases hcont : tlvTypeIsContainer r.elementType = true
        · exact next_skip (hwalked.skip_eq hcont)
        · rw [hwalked.stays (by simpa using hcont)]
      obtain ⟨rfl, hnext⟩ := perform_next_eq_ok hok
      rw [hsame] at hnext
      cases fuel' with
      | zero => cases hon
      | succ fuel' =>
        rcases walkOn_eq_ok.1 hon with hend | ⟨s₁, t₁, hnext₁, helem₁, hon₁⟩
        · -- the members are over: the client stays at the end
          rcases hnext with hnext | hnext <;> rw [hend] at hnext <;> cases hnext
          have hs : tlvTypeIsContainer s.elementType = false := by
            rcases walkElem_end helem with hclear | ⟨rfl, hcont⟩
            · exact hclear.onValue.2
            · exact hcont
          obtain ⟨hagain, hcont⟩ := next_again hwalked.inBounds hs hend
          exact .frame (next_inBounds_err hwalked.inBounds hend) (walkElem_value 0 hcont)
            (@walkOn_eq_ok _ _ 0 |>.2 (.inl hagain)) hexit hrest
        · rcases hnext with hnext | hnext <;> rw [hnext₁] at hnext <;> cases hnext
          exact .frame (next_inBounds hwalked.inBounds hnext₁) helem₁ hon₁ hexit hrest
    | enter =>
      obtain ⟨outer', s₀, henter, hpure⟩ := bind_eq_ok.1 hok
      cases hpure
      obtain ⟨hcont, rfl, rfl⟩ := enterContainer_eq_ok.1 henter
      cases fuel with
      | zero => cases helem
      | succ fuel =>
        obtain ⟨s₁, t₁, henter₁, hon₁, hexit₁⟩ := (walkElem_container hcont).1 helem
        rw [henter] at henter₁
        cases henter₁
        have hinner := Unwinds.frame hwalked.inBounds
          (walkElem_cleared (exitContainer_cleared hexit₁)) hon hexit hrest
        exact .frame (enterContainer_inBounds h henter)
          (walkElem_cleared (cleared_clearElementState _)) hon₁ hexit₁ hinner
    | exit =>
      obtain ⟨_, r₁, hexit₁, hpure⟩ := bind_eq_ok.1 hok
      cases hpure
      have hu := (sameEnd_of_walk h helem hon).exit.1 hexit₁
      rw [hexit] at hu
      cases hu
      exact hrest

theorem Unwinds.performAll {moves : List Move} : ∀ {stack stack' : List TLVType}
    {r r' : TLVReader}, Unwinds data e stack r →
    (performAll moves stack).run r = .ok stack' r' → Unwinds data e stack' r' := by
  induction moves with
  | nil =>
    intro stack stack' r r' h hok
    cases hok
    exact h
  | cons move moves ih =>
    intro stack stack' r r' h hok
    obtain ⟨stack₁, r₁, hmove, hrest⟩ := bind_eq_ok.1 hok
    exact ih (h.perform hmove) hrest

end

/-- Wherever a client has come, on a container: the walk of it, `Skip`, and any part of the walk
that is left with `ExitContainer` end in the same state. -/
theorem walk_skip (data : List UInt8) (hlen : data.length < 2 ^ 32) (ops : List ReaderOp)
    {r e : TLVReader} {fuel : Nat} (hrun : (runOps ops).run (init data data.length) = .ok () r)
    (hcont : tlvTypeIsContainer r.elementType = true) (hwalk : (walkElem fuel).run r = .ok () e) :
    skip.run r = .ok () e ∧ e.containerType = r.containerType ∧ e.clearElementState = e ∧
      ∀ moves stack s, (partialWalk moves).run r = .ok stack s →
        (exitAll stack).run s = .ok () e := by
  have hr : InBounds data r := by
    have hkeep := runOps_keeps data ops _ (InBounds.init hlen)
    rw [hrun] at hkeep
    exact hkeep
  have hskip := (walkElem_walked fuel hr hwalk).skip_eq hcont
  cases fuel with
  | zero => cases hwalk
  | succ fuel =>
    obtain ⟨s₀, t, henter, hon, hexit⟩ := (walkElem_container hcont).1 hwalk
    obtain ⟨t₀, -, he⟩ := exitContainer_eq_ok.1 hexit
    refine ⟨hskip, by rw [he]; rfl, by rw [he]; rfl, fun moves stack s hpart => ?_⟩
    obtain ⟨_, s₁, henter₁, hmoves⟩ := bind_eq_ok.1 hpart
    rw [henter] at henter₁
    cases henter₁
    obtain ⟨-, -, hs₀⟩ := enterContainer_eq_ok.1 henter
    have hclear : Cleared s₀ := hs₀ ▸ cleared_clearElementState _
    have hstart : Unwinds data e [r.containerType] s₀ :=
      .frame (enterContainer_inBounds hr henter) (walkElem_cleared hclear) hon hexit .done
    exact (hstart.performAll hmoves).exitAll

/-- A structure with a nested array, and a client that stops in the array. -/
theorem walk_skip_nested :
    ∃ r e s, (runOps [.next]).run (init [0x15, 0x36, 1, 0x04, 7, 0x18, 0x18] 7) = .ok () r ∧
      tlvTypeIsContainer r.elementType = true ∧ (walkElem 9).run r = .ok () e ∧
      skip.run r = .ok () e ∧ (partialWalk [.next, .enter, .next]).run r =
        .ok [.struct, .notSpecified] s ∧ (exitAll [.struct, .notSpecified]).run s = .ok () e := by
  have h := walk_skip [0x15, 0x36, 1, 0x04, 7, 0x18, 0x18] (by decide) [.next] rfl (by decide)
    (show (walkElem 9).run _ = .ok () _ from rfl)
  exact ⟨_, _, _, rfl, by decide, rfl, h.1, rfl, h.2.2.2 [.next, .enter, .next] _ _ rfl⟩

end Matter.TLV
