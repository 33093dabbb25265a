import MatterDissector.TLV.Proof.Traverse

/-!
# Skipping and reading agree

On any buffer: `Skip` and `SkipToEndOfContainer` lead to the same places as moving from member to
member. `skipToEnd_skip`: the end of the container is found from behind an element as it is found
from its head, once `Skip` gets over that element; `skipToEnd_next`: from the element that `Next`
reads as from where it started. A container that is skipped on the way is checked less strictly
than one that is entered (`skipLoop_lockstep`), so these hold where `Skip` succeeds.
-/

namespace Matter.TLV

open Prog TLVReader

section
variable {data : List UInt8} {r r' : TLVReader}

/-! ## Reading an element -/

/-- The element state is overwritten. -/
theorem readElement_withHead (h : InBounds data r) (hd : Head) :
    SameOk (readElement.run (r.withHead hd)) (readElement.run r) := by
  have h' : InBounds data (r.withHead hd) := h.congr rfl rfl rfl rfl rfl
  have hdrop : data.drop (r.withHead hd).readPoint = data.drop r.readPoint := rfl
  rw [readElement_eq h', readElement_eq h, hdrop]
  intro a s
  cases data.drop r.readPoint with
  | nil => simp
  | cons b bs =>
    dsimp only
    split
    · simp
    · split
      · rename_i hlt; rw [if_pos (show r.unread < _ from hlt)]; simp
      · rename_i hlt; rw [if_neg (show ¬ r.unread < _ from hlt)]; rfl

theorem readElement_clear (h : InBounds data r) :
    SameOk (readElement.run r.clearElementState) (readElement.run r) :=
  readElement_withHead h ⟨controlByteNotSpecified, anonymousTag, 0⟩

/-- The container that a reader is in. -/
def inContainer (containerType : TLVType) (r : TLVReader) : TLVReader := { r with containerType }

@[simp] theorem containerType_inContainer (containerType : TLVType) (r : TLVReader) :
    (inContainer containerType r).containerType = containerType := rfl
@[simp] theorem elementType_inContainer (containerType : TLVType) (r : TLVReader) :
    (inContainer containerType r).elementType = r.elementType := rfl
@[simp] theorem unread_inContainer (containerType : TLVType) (r : TLVReader) :
    (inContainer containerType r).unread = r.unread := rfl

theorem inBounds_inContainer (h : InBounds data r) (containerType : TLVType) :
    InBounds data (inContainer containerType r) := h.congr rfl rfl rfl rfl rfl

/-- An unknown container admits every element that a known one does. -/
theorem verifyElement_unknown (hcontainer : r.containerType ≠ .notSpecified)
    (hok : verifyElement.run r = .ok () r) :
    verifyElement.run (inContainer .unknownContainer r) =
      .ok () (inContainer .unknownContainer r) := by
  rw [verifyElement, get_bind] at hok ⊢
  have hlen : ¬ (tlvTypeHasLength r.elementType = true ∧
      sub32 r.maxLen r.lenRead < r.elemLenOrVal % 2 ^ 32) := fun hlen => by
    dsimp only at hok
    rw [if_pos hlen] at hok
    split at hok <;> cases hok
  have hpure : ((if tlvTypeHasLength (inContainer .unknownContainer r).elementType = true ∧
      sub32 r.maxLen r.lenRead < r.elemLenOrVal % 2 ^ 32 then throw .tlvUnderrun
      else pure () : ReaderM Unit)).run (inContainer .unknownContainer r) =
        .ok () (inContainer .unknownContainer r) := by
    rw [if_neg (show ¬ (tlvTypeHasLength (inContainer .unknownContainer r).elementType = true ∧
      _) from hlen)]
    rfl
  by_cases hend : r.elementType = ElementType.endOfContainer
  · have hend' : (inContainer .unknownContainer r).elementType = ElementType.endOfContainer := hend
    dsimp only at hok
    rw [if_pos hend, if_neg hcontainer] at hok
    have htag : ¬ (inContainer .unknownContainer r).elemTag ≠ anonymousTag := fun htag => by
      rw [if_pos (show r.elemTag ≠ anonymousTag from htag)] at hok; cases hok
    have hunknown : (inContainer .unknownContainer r).containerType ≠ .notSpecified :=
      fun he => by rw [containerType_inContainer] at he; cases he
    dsimp only
    rw [if_pos hend', if_neg hunknown, if_neg htag]
    exact hpure
  · have hend' : ¬ (inContainer .unknownContainer r).elementType =
        ElementType.endOfContainer := hend
    dsimp only at hok
    rw [if_neg hend] at hok
    have htag : (inContainer .unknownContainer r).elemTag ≠ unknownImplicitTag := fun htag => by
      have hverify : verifyTag r.containerType r.elemTag = .error .unknownImplicitTLVTag :=
        if_pos htag
      rw [hverify] at hok
      cases hok
    have hverify : verifyTag (inContainer .unknownContainer r).containerType
        (inContainer .unknownContainer r).elemTag = .ok () := if_neg htag
    dsimp only
    rw [if_neg hend', hverify]
    exact hpure

theorem verifyElement_ne_endOfTLV : verifyElement.run r ≠ .err .endOfTLV r' := by
  rw [verifyElement, get_bind]
  dsimp only
  intro h
  split at h
  · rename_i e htag
    cases h
    split at htag
    · split at htag
      · cases htag
      · split at htag <;> cases htag
    · unfold verifyTag at htag
      split at htag
      · cases htag
      · split at htag <;> first | cases htag | (split at htag <;> cases htag)
  · split at h <;> cases h

/-- What a successful `ReadElement` reads. -/
theorem readElement_cases (h : InBounds data r) (hok : readElement.run r = .ok () r') :
    ∃ b bs, data.drop r.readPoint = b :: bs ∧ isValidTLVType (b.toNat &&& typeMask) = true ∧
      headSize b.toNat ≤ r.unread ∧
      r' = (r.advance (headSize b.toNat)).withHead (decodeHead r.implicitProfileId (b :: bs)) ∧
      verifyElement.run r' = .ok () r' := by
  rw [readElement_eq h] at hok
  cases hdrop : data.drop r.readPoint with
  | nil => rw [hdrop] at hok; cases hok
  | cons b bs =>
    rw [hdrop] at hok
    dsimp only at hok
    split at hok
    · cases hok
    · rename_i hvalid
      split at hok
      · cases hok
      · rename_i hlt
        refine ⟨b, bs, rfl, by simpa using hvalid, by omega, ?_⟩
        rcases verifyElement_cases ((r.advance (headSize b.toNat)).withHead
          (decodeHead r.implicitProfileId (b :: bs))) with hv | ⟨e, hv⟩
        · rw [hv] at hok
          cases hok
          exact ⟨rfl, hv⟩
        · rw [hv] at hok; cases hok

theorem containerType_of_readElement (h : InBounds data r) (hok : readElement.run r = .ok () r') :
    r'.containerType = r.containerType := by
  obtain ⟨b, bs, -, -, -, rfl, -⟩ := readElement_cases h hok
  rfl

/-- Reading goes through in an unknown container when it does in a known one. -/
theorem readElement_unknown (h : InBounds data r) (hcontainer : r.containerType ≠ .notSpecified)
    (hok : readElement.run r = .ok () r') :
    readElement.run (inContainer .unknownContainer r) =
      .ok () (inContainer .unknownContainer r') := by
  obtain ⟨b, bs, hdrop, hvalid, hfit, rfl, hverify⟩ := readElement_cases h hok
  have hdrop' : data.drop (inContainer .unknownContainer r).readPoint = b :: bs := hdrop
  rw [readElement_eq (inBounds_inContainer h _), hdrop']
  dsimp only
  rw [if_neg (by simp [hvalid]), if_neg (by rw [unread_inContainer]; omega)]
  exact @verifyElement_unknown ((r.advance (headSize b.toNat)).withHead
    (decodeHead r.implicitProfileId (b :: bs))) hcontainer hverify

/-- `ReadElement` reports the end of the input only where no byte is left. -/
theorem readElement_endOfTLV (h : InBounds data r) (herr : readElement.run r = .err .endOfTLV r') :
    r' = r ∧ data.drop r.readPoint = [] := by
  rw [readElement_eq h] at herr
  cases hdrop : data.drop r.readPoint with
  | nil => rw [hdrop] at herr; cases herr; exact ⟨rfl, rfl⟩
  | cons b bs =>
    rw [hdrop] at herr
    dsimp only at herr
    split at herr
    · cases herr
    · split at herr
      · cases herr
      · exact absurd herr verifyElement_ne_endOfTLV

/-! ## The skipping loop inside another one -/

theorem ofElementType_ne_notSpecified {elemType : Nat} (h : tlvTypeIsContainer elemType = true) :
    TLVType.ofElementType elemType ≠ .notSpecified := by
  rw [tlvTypeIsContainer_iff] at h
  obtain rfl | rfl | rfl : elemType = 0x15 ∨ elemType = 0x16 ∨ elemType = 0x17 := by omega
  all_goals exact fun he => by cases he

/-- The same reader, in the same container or in an unknown one. -/
def Lenient (r u : TLVReader) : Prop :=
  r.containerType ≠ .notSpecified ∧ (u = r ∨ u = inContainer .unknownContainer r)

theorem Lenient.refl (h : r.containerType ≠ .notSpecified) : Lenient r r := ⟨h, .inl rfl⟩

theorem Lenient.inBounds {u : TLVReader} (hu : Lenient r u) (h : InBounds data r) :
    InBounds data u := by
  rcases hu.2 with rfl | rfl
  · exact h
  · exact inBounds_inContainer h _

theorem Lenient.elementType_eq {u : TLVReader} (hu : Lenient r u) :
    u.elementType = r.elementType := by
  rcases hu.2 with rfl | rfl <;> rfl

theorem Lenient.inContainer_eq {u : TLVReader} (hu : Lenient r u) (containerType : TLVType) :
    inContainer containerType u = inContainer containerType r := by
  rcases hu.2 with rfl | rfl <;> rfl

/-- After a nested container, the inner loop may be back in its own container. -/
theorem Lenient.leave {outer outer' : TLVType} {level n : Nat} {u : TLVReader} (hu : Lenient r u)
    (houter : outer ≠ .notSpecified) (hn : 0 < n) :
    Lenient (inContainer (if level = 0 then outer else .unknownContainer) r)
      (inContainer (if level + n = 0 then outer' else .unknownContainer) u) := by
  refine ⟨?_, .inr ?_⟩
  · rw [containerType_inContainer]
    split
    · exact houter
    · exact fun he => by cases he
  · rw [if_neg (by omega)]
    exact hu.inContainer_eq .unknownContainer

theorem Lenient.skipData {u : TLVReader} (hu : Lenient r u) (h : InBounds data r)
    (hok : skipData.run r = .ok () r') :
    ∃ u', skipData.run u = .ok () u' ∧ Lenient r' u' := by
  have hkeep : r'.containerType = r.containerType := by
    rw [skipData_eq h] at hok
    split at hok
    · split at hok
      · cases hok; rfl
      · cases hok
    · cases hok; rfl
  rcases hu.2 with rfl | rfl
  · exact ⟨r', hok, by rw [hkeep]; exact hu.1, .inl rfl⟩
  · refine ⟨inContainer .unknownContainer r', ?_, by rw [hkeep]; exact hu.1, .inr rfl⟩
    rw [skipData_eq h] at hok
    rw [skipData_eq (inBounds_inContainer h _), elementType_inContainer, unread_inContainer]
    split at hok
    · rename_i hlen
      split at hok
      · rename_i hfit
        cases hok
        rw [if_pos hlen]
        exact if_pos hfit
      · cases hok
    · rename_i hlen
      cases hok
      exact if_neg hlen

theorem Lenient.readElement {u : TLVReader} (hu : Lenient r u) (h : InBounds data r)
    (hok : readElement.run r = .ok () r') :
    ∃ u', readElement.run u = .ok () u' ∧ Lenient r' u' := by
  have hkeep := containerType_of_readElement h hok
  rcases hu.2 with rfl | rfl
  · exact ⟨r', hok, by rw [hkeep]; exact hu.1, .inl rfl⟩
  · exact ⟨_, readElement_unknown h hu.1 hok, by rw [hkeep]; exact hu.1, .inr rfl⟩

theorem readElement_unread_lt (h : InBounds data r) (hok : readElement.run r = .ok () r') :
    InBounds data r' ∧ r'.unread < r.unread := by
  have := @readElement_progress data r.unread r ⟨h, Nat.le_refl _⟩
  rw [hok] at this
  exact this

theorem skipData_unread_le (h : InBounds data r) (hok : skipData.run r = .ok () r') :
    InBounds data r' ∧ r'.unread ≤ r.unread := by
  have := @skipData_within data r.unread r ⟨h, Nat.le_refl _⟩
  rw [hok] at this
  exact this

/-- The loop of a strict skip inside that of a lenient one: while the strict one has not reached
the end of its container, they take the same steps. -/
theorem skipLoop_lockstep {outer outer' : TLVType} (houter : outer ≠ .notSpecified) {n : Nat}
    (hn : 0 < n) : ∀ (fuel : Nat) {level : Nat} {r u e : TLVReader}, r.unread < fuel →
      InBounds data r → Lenient r u → (skipLoop outer level).run r = .ok () e →
      ∃ e', Lenient e e' ∧ InBounds data e ∧ e.elementType = ElementType.endOfContainer ∧
        (skipLoop outer' (level + n)).run u = (skipLoop outer' n).run e'
  | 0, _, _, _, _, hf, _, _, _ => absurd hf (Nat.not_lt_zero _)
  | fuel + 1, level, r, u, e, hf, h, hu, hok => by
    have hub := hu.inBounds h
    -- both loops skip the data and read the next element
    have hround : ∀ {level' : Nat} {r₁ u₁ : TLVReader}, Lenient r₁ u₁ → InBounds data r₁ →
        r₁.unread = r.unread → (skipOn outer level').run r₁ = .ok () e →
        ∃ e', Lenient e e' ∧ InBounds data e ∧ e.elementType = ElementType.endOfContainer ∧
          (skipOn outer' (level' + n)).run u₁ = (skipLoop outer' n).run e' := by
      intro level' r₁ u₁ hu₁ h₁ hunread hok₁
      rw [skipOn, bind_eq_ok] at hok₁
      obtain ⟨_, r₂, hskip, hok₂⟩ := hok₁
      rw [bind_eq_ok] at hok₂
      obtain ⟨_, r₃, hread, hok₃⟩ := hok₂
      obtain ⟨h₂, hle⟩ := skipData_unread_le h₁ hskip
      obtain ⟨h₃, hlt⟩ := readElement_unread_lt h₂ hread
      obtain ⟨u₂, hskip', hu₂⟩ := hu₁.skipData h₁ hskip
      obtain ⟨u₃, hread', hu₃⟩ := hu₂.readElement h₂ hread
      obtain ⟨e', he', hbe, hend, hrun⟩ :=
        skipLoop_lockstep houter hn fuel (by omega) h₃ hu₃ hok₃
      exact ⟨e', he', hbe, hend, by rw [skipOn, bind_ok hskip', bind_ok hread', hrun]⟩
    by_cases hend : r.elementType = ElementType.endOfContainer
    · cases level with
      | zero =>
        rw [skipLoop_end h _ hend] at hok
        cases hok
        exact ⟨u, hu, h, hend, by rw [Nat.zero_add]⟩
      | succ level =>
        rw [skipLoop_leave h _ _ hend] at hok
        rw [Nat.add_right_comm, skipLoop_leave hub _ _ (hu.elementType_eq.trans hend)]
        have hu' : Lenient (inContainer (if level = 0 then outer else .unknownContainer) r)
            (inContainer (if level + n = 0 then outer' else .unknownContainer) u) :=
          hu.leave houter hn
        exact hround hu' (inBounds_inContainer h _) rfl hok
    · by_cases hcont : tlvTypeIsContainer r.elementType = true
      · rw [skipLoop_enter h _ _ hcont] at hok
        rw [skipLoop_enter hub _ _ (by rw [hu.elementType_eq]; exact hcont), hu.elementType_eq,
          Nat.add_right_comm]
        have hu' : Lenient (inContainer (.ofElementType r.elementType) r)
            (inContainer (.ofElementType r.elementType) u) :=
          ⟨ofElementType_ne_notSpecified hcont, .inl (hu.inContainer_eq _)⟩
        exact hround hu' (inBounds_inContainer h _) rfl hok
      · have hcont' : tlvTypeIsContainer r.elementType = false := by simpa using hcont
        rw [skipLoop_over h _ _ hend hcont'] at hok
        rw [skipLoop_over hub _ _ (by rw [hu.elementType_eq]; exact hend)
          (by rw [hu.elementType_eq]; exact hcont')]
        exact hround hu h rfl hok

/-! ## To the end of the container -/

theorem skipToEnd_eq (r : TLVReader) :
    skipToEndOfContainer.run r = (skipLoop r.containerType 0).run r := rfl

/-- `SkipToEndOfContainer` with no current element. -/
theorem skipToEnd_cleared (h : InBounds data r) (hclear : Cleared r) :
    skipToEndOfContainer.run r = (readOn r.containerType 0).run r := by
  rw [skipToEnd_eq, skipLoop_over h, skipOn, bind_ok (skipData_none (by rw [hclear]; decide))]
  · rfl
  · rw [hclear]; decide
  · rw [hclear]; decide

theorem hasLength_of_isContainer {elemType : Nat} (h : tlvTypeIsContainer elemType = true) :
    tlvTypeHasLength elemType = false := by
  rw [tlvTypeIsContainer_iff] at h
  rw [← Bool.not_eq_true, tlvTypeHasLength_iff]
  omega

/-- `SkipToEndOfContainer` goes into the current element at level 1. -/
theorem skipToEnd_container (h : InBounds data r)
    (htype : tlvTypeIsContainer r.elementType = true) :
    skipToEndOfContainer.run r =
      (readOn r.containerType 1).run (inContainer (.ofElementType r.elementType) r) := calc
  _ = (skipOn r.containerType 1).run (inContainer (.ofElementType r.elementType) r) :=
    skipLoop_enter h _ 0 htype
  _ = _ := by
    rw [skipOn, bind_ok (skipData_none ?_)]
    · rfl
    · rw [elementType_inContainer]; exact hasLength_of_isContainer htype

/-- The ways in which `Skip` succeeds: over a value, or into a container and out of it. -/
inductive Skipped (r t : TLVReader) : Prop where
  | value (r' : TLVReader) (hend : r.elementType ≠ ElementType.endOfContainer)
      (htype : tlvTypeIsContainer r.elementType = false) (hskip : skipData.run r = .ok () r')
      (ht : t = r'.clearElementState)
  | container (e : TLVReader) (htype : tlvTypeIsContainer r.elementType = true)
      (hloop : (skipLoop (.ofElementType r.elementType) 0).run
        (clearElementState (inContainer (.ofElementType r.elementType) r)) = .ok () e)
      (ht : t = clearElementState (inContainer r.containerType e))

theorem enterContainer_run (htype : tlvTypeIsContainer r.elementType = true) :
    enterContainer.run r = .ok r.containerType
      (clearElementState (inContainer (.ofElementType r.elementType) r)) := by
  rw [enterContainer, get_bind]
  dsimp only
  rw [htype, bind_ok (run_verify_true _ _)]
  rfl

theorem enterContainer_refused (htype : tlvTypeIsContainer r.elementType = false) :
    enterContainer.run r = .err .incorrectState r := by
  rw [enterContainer, get_bind]
  dsimp only
  rw [htype, bind_err (run_verify_false _ _)]

theorem enterContainer_eq_ok {outer : TLVType} :
    enterContainer.run r = .ok outer r' ↔ tlvTypeIsContainer r.elementType = true ∧
      outer = r.containerType ∧
      r' = clearElementState (inContainer (.ofElementType r.elementType) r) := by
  cases htype : tlvTypeIsContainer r.elementType with
  | true => rw [enterContainer_run htype]; simp [eq_comm]
  | false => rw [enterContainer_refused htype]; simp

theorem exitContainer_eq_ok {outer : TLVType} :
    (exitContainer outer).run r = .ok () r' ↔ ∃ e, skipToEndOfContainer.run r = .ok () e ∧
      r' = clearElementState (inContainer outer e) := by
  rw [exitContainer, bind_eq_ok]
  constructor
  · rintro ⟨_, e, hskip, h⟩
    exact ⟨e, hskip, by cases h; rfl⟩
  · rintro ⟨e, hskip, h⟩
    exact ⟨(), e, hskip, by rw [h]; rfl⟩

theorem skip_eq_ok {t : TLVReader} : skip.run r = .ok () t ↔ Skipped r t := by
  rw [skip, gets_bind]
  by_cases hend : r.elementType = ElementType.endOfContainer
  · rw [if_pos hend]
    refine ⟨fun h => (by cases h), fun h => ?_⟩
    cases h with
    | value r' hne => exact absurd hend hne
    | container e htype => rw [hend] at htype; exact absurd htype (by decide)
  rw [if_neg hend]
  by_cases hcont : tlvTypeIsContainer r.elementType = true
  · rw [if_pos hcont, bind_ok (enterContainer_run hcont), exitContainer_eq_ok]
    constructor
    · rintro ⟨e, hloop, ht⟩
      exact .container e hcont hloop ht
    · intro h
      cases h with
      | value r' hne htype => rw [hcont] at htype; cases htype
      | container e htype hloop ht => exact ⟨e, hloop, ht⟩
  · rw [if_neg hcont, bind_eq_ok]
    constructor
    · rintro ⟨_, r', hskip, h⟩
      exact .value r' hend (by simpa using hcont) hskip (by cases h; rfl)
    · intro h
      cases h with
      | value r' hne htype hskip ht => exact ⟨(), r', hskip, by rw [ht]; rfl⟩
      | container e htype => exact absurd htype hcont

theorem skip_cleared {t : TLVReader} (hok : skip.run r = .ok () t) : Cleared t := by
  rcases skip_eq_ok.1 hok with ⟨r', -, -, -, rfl⟩ | ⟨e, -, -, rfl⟩ <;>
    exact cleared_clearElementState _

theorem skip_inBounds {t : TLVReader} (h : InBounds data r) (hok : skip.run r = .ok () t) :
    InBounds data t := by
  have := @skip_keeps data r h
  rw [hok] at this
  exact this

theorem containerType_of_skip {t : TLVReader} (h : InBounds data r)
    (hok : skip.run r = .ok () t) : t.containerType = r.containerType := by
  rcases skip_eq_ok.1 hok with ⟨r', -, -, hskip, rfl⟩ | ⟨e, -, -, rfl⟩
  · rw [skipData_eq h] at hskip
    split at hskip
    · split at hskip <;> cases hskip
      rfl
    · cases hskip; rfl
  · rfl

/-- Behind an element, `Skip` stays where it is. -/
theorem skip_skip {t : TLVReader} (hok : skip.run r = .ok () t) : skip.run t = .ok () t := by
  refine skip_eq_ok.2 (.value t (by rw [skip_cleared hok]; decide)
    (by rw [skip_cleared hok]; decide) (skipData_none (by rw [skip_cleared hok]; decide)) ?_)
  rcases skip_eq_ok.1 hok with ⟨r', -, -, -, rfl⟩ | ⟨e, -, -, rfl⟩ <;> rfl

/-- `Skip` with no current element stays where it is. -/
theorem skip_of_cleared (hclear : Cleared r) : skip.run r = .ok () r.clearElementState :=
  skip_eq_ok.2 (.value r (by rw [hclear]; decide) (by rw [hclear]; decide)
    (skipData_none (by rw [hclear]; decide)) rfl)

/-- Where `Skip` succeeds, the end of the container is found from its result as well. -/
theorem skipToEnd_skip {t : TLVReader} (h : InBounds data r) (hok : skip.run r = .ok () t) :
    SameOk (skipToEndOfContainer.run r) (skipToEndOfContainer.run t) := by
  have ht := skip_inBounds h hok
  rw [skipToEnd_cleared ht (skip_cleared hok), containerType_of_skip h hok, skipToEnd_eq]
  rcases skip_eq_ok.1 hok with ⟨r', hend, htype, hskip, rfl⟩ | ⟨e, htype, hloop, rfl⟩
  · rw [skipLoop_over h _ _ hend htype, skipOn, bind_ok hskip]
    exact ((readElement_clear (skipData_unread_le h hskip).1).bind _).symm
  · -- the loop enters the container at level 1, where `Skip` walks it at level 0
    have hin := inBounds_inContainer h (.ofElementType r.elementType)
    have hin' : InBounds data (clearElementState (inContainer (.ofElementType r.elementType) r)) :=
      hin.congr rfl rfl rfl rfl rfl
    have hnot := ofElementType_ne_notSpecified htype
    have hstart := skipToEnd_cleared hin' (cleared_clearElementState _)
    rw [skipToEnd_eq] at hstart
    rw [show (clearElementState (inContainer (.ofElementType r.elementType) r)).containerType =
      .ofElementType r.elementType from rfl, hloop] at hstart
    rw [eq_comm, readOn, bind_eq_ok] at hstart
    obtain ⟨_, r₁, hread, hloop₁⟩ := hstart
    have hread₁ := (readElement_clear hin _ _).1 hread
    obtain ⟨h₁, -⟩ := readElement_unread_lt hin hread₁
    have hlen : Lenient r₁ r₁ := .refl (by
      rw [containerType_of_readElement hin hread₁]; exact hnot)
    obtain ⟨e', he', hbe, hend, hrun⟩ := @skipLoop_lockstep data (.ofElementType r.elementType)
      r.containerType hnot 1 Nat.one_pos (r₁.unread + 1) 0 r₁ r₁ e (Nat.lt_succ_self _) h₁ hlen
      hloop₁
    have hsame : skipToEndOfContainer.run r =
        (readOn r.containerType 0).run (inContainer r.containerType e) := calc
      _ = (skipLoop r.containerType 1).run r₁ := by
        rw [skipToEnd_container h htype, readOn, bind_ok hread₁]
      _ = (skipLoop r.containerType 1).run e' := hrun
      _ = (skipOn r.containerType 0).run (inContainer r.containerType e) := by
        rw [skipLoop_leave (he'.inBounds hbe) _ 0 (he'.elementType_eq.trans hend), if_pos rfl,
          ← he'.inContainer_eq]
        rfl
      _ = (readOn r.containerType 0).run (inContainer r.containerType e) := by
        rw [skipOn, bind_ok (skipData_none (by rw [elementType_inContainer, hend]; decide))]
        rfl
    rw [← skipToEnd_eq, hsame]
    exact ((readElement_clear (inBounds_inContainer hbe r.containerType)).bind _).symm

/-- The ways in which `Next` succeeds. -/
theorem next_eq_ok : next.run r = .ok () r' ↔ ∃ t, skip.run r = .ok () t ∧
    readElement.run t = .ok () r' ∧ r'.elementType ≠ ElementType.endOfContainer := by
  rw [next, bind_eq_ok]
  constructor
  · rintro ⟨_, t, hskip, h⟩
    rw [bind_eq_ok] at h
    obtain ⟨_, r₁, hread, h⟩ := h
    rw [gets_bind] at h
    split at h
    · cases h
    · rename_i hend; cases h; exact ⟨t, hskip, hread, hend⟩
  · rintro ⟨t, hskip, hread, hend⟩
    refine ⟨(), t, hskip, ?_⟩
    rw [bind_ok hread, gets_bind, if_neg hend]
    rfl

/-- From the element that `Next` reads, the end of the container is found as from before. -/
theorem skipToEnd_next (h : InBounds data r) (hok : next.run r = .ok () r') :
    SameOk (skipToEndOfContainer.run r) (skipToEndOfContainer.run r') := by
  obtain ⟨t, hskip, hread, -⟩ := next_eq_ok.1 hok
  have ht := skip_inBounds h hskip
  refine (skipToEnd_skip h hskip).trans ?_
  rw [skipToEnd_cleared ht (skip_cleared hskip), readOn, bind_ok hread, skipToEnd_eq,
    containerType_of_readElement ht hread]
  exact .refl _

/-- `Next` reports the end of the input behind the end of the container, or where no byte is
left. -/
theorem next_endOfTLV {t : TLVReader} (h : InBounds data r) (hskip : skip.run r = .ok () t)
    (herr : next.run r = .err .endOfTLV r') :
    (readElement.run t = .ok () r' ∧ r'.elementType = ElementType.endOfContainer) ∨
      (r' = t ∧ readElement.run t = .err .endOfTLV t) := by
  rw [next, bind_ok hskip, bind_eq_err] at herr
  have ht := skip_inBounds h hskip
  rcases herr with hread | ⟨_, r₁, hread, hend⟩
  · obtain ⟨rfl, -⟩ := readElement_endOfTLV ht hread
    exact .inr ⟨rfl, hread⟩
  · rw [gets_bind] at hend
    split at hend
    · cases hend; exact .inl ⟨hread, ‹_›⟩
    · cases hend

/-- `DupString` takes the data along that `Skip` would get over. -/
theorem dupString_skip {bytes : List UInt8} (h : InBounds data r)
    (hok : dupString.run r = .ok bytes r') :
    InBounds data r' ∧ ∃ t, skip.run r = .ok () t ∧ skip.run r' = .ok () t := by
  have hkeep := dupString_keeps r h
  rw [hok] at hkeep
  refine ⟨hkeep, ?_⟩
  rw [dupString, get_bind, bind_eq_ok] at hok
  obtain ⟨_, r₀, hverify, hok⟩ := hok
  obtain ⟨hstring, rfl⟩ := verify_eq_ok.1 hverify
  rw [bind_eq_ok] at hok
  obtain ⟨_, r₁, hread, hok⟩ := hok
  cases hok
  rw [readData_eq h .external _ (fun he => by cases he)] at hread
  split at hread
  · rename_i hfit
    cases hread
    have hlen : tlvTypeHasLength r.elementType = true := hstring
    have hvalue : r.elementType ≠ ElementType.endOfContainer ∧
        tlvTypeIsContainer r.elementType = false := by
      rw [tlvTypeHasLength_iff] at hlen
      rw [← Bool.not_eq_true, tlvTypeIsContainer_iff]
      exact ⟨fun he => by rw [he] at hlen; exact absurd hlen.2 (by decide), by omega⟩
    have hover : skipData.run r = .ok () (r.advance (r.elemLenOrVal % 2 ^ 32)) := by
      rw [skipData_eq h, if_pos hlen, if_pos hfit]
    have hstay : ∀ u, InBounds data u → u.elementType = r.elementType → u.elemLenOrVal = 0 →
        skipData.run u = .ok () u := fun u hu htype hval => by
      rw [skipData_eq hu, htype, if_pos hlen, hval, Nat.zero_mod, if_pos (Nat.zero_le _),
        hu.advance_zero]
    exact ⟨_, skip_eq_ok.2 (.value _ hvalue.1 hvalue.2 hover rfl),
      skip_eq_ok.2 (.value _ hvalue.1 hvalue.2 (hstay _ hkeep rfl rfl) rfl)⟩
  · cases hread

end

end Matter.TLV
