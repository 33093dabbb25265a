import MatterDissector.TLV.Proof.Extent
import MatterDissector.TLV.Proof.SkipWalk

/-!
# The reader in place

`InPlace`: the reader is where the scan of the buffer says, in as many containers as its client
has entered. `Next`, `Skip`, `EnterContainer` and `ExitContainer` keep that in a buffer without a
`LongString`, on success and at an end, unless the buffer ends between two elements of a container
(`RunsOut`). `skipLoop_ends` is the loop of `SkipToEndOfContainer` beside the scan.
-/

namespace Matter.TLV

open Prog TLVReader

/-- The calls. -/
inductive ReaderCall where
  | next
  | skip
  | enterContainer
  | exitContainer
  deriving DecidableEq, Repr

section
variable {data more : List UInt8} {p q e n level base : Nat} {outer : TLVType}
  {outerTypes : List TLVType} {r r' t u : TLVReader}

/-! ## Where the buffer runs out -/

/-- From `p` on, without leaving the container that `p` is in, the buffer ends between two
elements. -/
def CutFrom (data : List UInt8) (p : Nat) : Prop := ∃ n, Scan data p data.length n

/-- The element that the reader is on, if any, ends at the index. -/
inductive Behind (data : List UInt8) (r : TLVReader) : Nat → Prop where
  | value (hend : r.elementType ≠ ElementType.endOfContainer)
      (hcont : tlvTypeIsContainer r.elementType = false) :
      Behind data r (r.readPoint + if tlvTypeHasLength r.elementType then r.elemLenOrVal else 0)
  | container {e : Nat} (hcont : tlvTypeIsContainer r.elementType = true)
      (hmembers : Scan data r.readPoint e 0) (hend : typeAt data e = ElementType.endOfContainer) :
      Behind data r (headEnd data e)

/-- The buffer ends between two elements of the container that the reader is on. -/
def CutInside (data : List UInt8) (r : TLVReader) : Prop :=
  tlvTypeIsContainer r.elementType = true ∧ CutFrom data r.readPoint

/-- The call meets the end of the buffer between two elements, in a container: the one that it goes
over, or the one that the reader is in. `ExitContainer` fails there, and its client stops. -/
def RunsOut (data : List UInt8) (r : TLVReader) : ReaderCall → Prop
  | .next => CutInside data r ∨ r.containerType ≠ .notSpecified ∧ Behind data r data.length
  | .skip => CutInside data r
  | .enterContainer | .exitContainer => False

/-- As `RunsOut`; `Next` of a dissector goes over the element that it reads as well. -/
def RunsOutDissecting (data : List UInt8) (r : TLVReader) : ReaderCall → Prop
  | .next => RunsOut data r .next ∨
      ∃ p, Behind data r p ∧ tlvTypeIsContainer (typeAt data p) = true ∧
        CutFrom data (headEnd data p)
  | call => RunsOut data r call

/-! ## In place -/

/-- The types that a client keeps, and the one of the container that the reader is in. -/
inductive Stacked : List TLVType → TLVType → Prop where
  | outermost : Stacked [] .notSpecified
  | inside {outerTypes : List TLVType} {outer containerType : TLVType}
      (h : Stacked outerTypes outer) (hin : containerType ≠ .notSpecified) :
      Stacked (outer :: outerTypes) containerType

/-- The reader is between two elements or on a head, in the containers that are open there. -/
structure InPlace (data : List UInt8) (outerTypes : List TLVType) (r : TLVReader) : Prop where
  inBounds : InBounds data r
  stacked : Stacked outerTypes r.containerType
  place : Cleared r ∧ Scan data 0 r.readPoint outerTypes.length ∨
    ∃ q, On data q r ∧ Scan data 0 q outerTypes.length

/-- No string, from the front of the buffer on, has a length that the reader cuts. -/
def NoLongString (data : List UInt8) : Prop := ∀ p n, Scan data 0 p n → ¬ LongString data p

theorem Stacked.length_eq_zero (h : Stacked outerTypes outer) :
    outer = .notSpecified ↔ outerTypes.length = 0 := by
  cases h with
  | outermost => simp
  | inside _ hin => simp [hin]

theorem InPlace.init (hlen : data.length < 2 ^ 32) :
    InPlace data [] (TLVReader.init data data.length) where
  inBounds := .init hlen
  stacked := .outermost
  place := .inl ⟨by unfold Cleared elementType; exact if_pos rfl, .start⟩

/-! ## The skipping loop -/

/-- How the loop of `SkipToEndOfContainer` ends that set out at `p`: on the end of the container,
or where the buffer ends between two elements. -/
structure SkipEnds (data : List UInt8) (outer : TLVType) (p : Nat)
    (x : Outcome MatterError Fault TLVReader Unit) : Prop where
  found : ∀ s, x = .ok () s → ∃ e, On data e s ∧ Scan data p e 0 ∧
    typeAt data e = ElementType.endOfContainer ∧ s.containerType = outer
  cut : ∀ s, x = .err .endOfTLV s → CutFrom data p

theorem SkipEnds.err {error : MatterError} {s : TLVReader} (hne : error ≠ .endOfTLV) :
    SkipEnds data outer p (.err error s) where
  found := fun _ h => by cases h
  cut := fun _ h => by cases h; exact absurd rfl hne

theorem SkipEnds.fault {f : Fault} : SkipEnds data outer p (.fault f) where
  found := fun _ h => by cases h
  cut := fun _ h => by cases h

theorem readPoint_eq_length (h : InBounds data r) (hdrop : data.drop r.readPoint = []) :
    r.readPoint = data.length := by
  have := h.readPoint_le
  have := List.drop_eq_nil_iff.1 hdrop
  omega

/-- Over the head of a container, or of the end of one, nothing is skipped. -/
theorem skipOn_inContainer (containerType : TLVType)
    (hlen : tlvTypeHasLength r.elementType = false) :
    (skipOn outer level).run (inContainer containerType r) =
      (readOn outer level).run (inContainer containerType r) := by
  have hnone := skipData_none (r := inContainer containerType r) hlen
  rw [skipOn, bind_ok hnone, readOn]

/-- The loop goes on with the next head. -/
theorem readOn_ends (h : InBounds data t) (hscan : Scan data p t.readPoint level)
    (hrest : ∀ s, readElement.run t = .ok () s →
      SkipEnds data outer p ((skipLoop outer level).run s)) :
    SkipEnds data outer p ((readOn outer level).run t) := by
  cases hread : readElement.run t with
  | ok _ s =>
    rw [readOn, bind_ok hread]
    exact hrest s hread
  | err error s =>
    rw [readOn, bind_err hread]
    by_cases herr : error = .endOfTLV
    · subst herr
      obtain ⟨rfl, hdrop⟩ := readElement_endOfTLV h hread
      rw [readPoint_eq_length h hdrop] at hscan
      exact { found := fun s hs => (by cases hs), cut := fun s _ => ⟨level, hscan⟩ }
    · exact .err herr
  | fault f =>
    rw [readOn, bind_fault hread]
    exact .fault

/-- From a head at `level`, counted from where the loop has set out. -/
theorem skipLoop_ends (hshort : NoLongString data) (hbase : Scan data 0 p base) :
    ∀ (fuel : Nat) {level q : Nat} {r : TLVReader}, r.unread < fuel → On data q r →
      Scan data p q level → (level = 0 → r.containerType = outer) →
      SkipEnds data outer p ((skipLoop outer level).run r)
  | 0, _, _, _, hfuel, _, _, _ => absurd hfuel (Nat.not_lt_zero _)
  | fuel + 1, level, q, r, hfuel, hon, hscan, houter => by
    have h := hon.inBounds
    -- behind the element that the loop is over, at `level'`
    have hnext : ∀ {level' : Nat} {t : TLVReader}, InBounds data t → t.unread ≤ r.unread →
        Scan data p t.readPoint level' → (level' = 0 → t.containerType = outer) →
        SkipEnds data outer p ((readOn outer level').run t) := by
      intro level' t ht hle hscan' houter'
      apply readOn_ends ht hscan'
      intro s hread
      have hlt := (readElement_unread_lt ht hread).2
      have hsame := containerType_of_readElement ht hread
      exact skipLoop_ends hshort hbase fuel (by omega) (readElement_on ht hread) hscan'
        (fun h0 => by rw [hsame]; exact houter' h0)
    by_cases hend : typeAt data q = ElementType.endOfContainer
    · have hend' : r.elementType = ElementType.endOfContainer := by rw [hon.elementType_eq, hend]
      cases level with
      | zero =>
        rw [skipLoop_end h _ hend']
        exact {
          found := fun s hs => by cases hs; exact ⟨q, hon, hscan, hend, houter rfl⟩
          cut := fun s hs => (by cases hs) }
      | succ level =>
        have hleave := Scan.leave hscan hend hon.headEnd_le
        have hrun : (skipLoop outer (level + 1)).run r = (readOn outer level).run
            (inContainer (if level = 0 then outer else .unknownContainer) r) :=
          (skipLoop_leave h _ _ hend').trans (skipOn_inContainer _ (by rw [hend']; decide))
        rw [hrun]
        have hin := inBounds_inContainer h (if level = 0 then outer else .unknownContainer)
        apply hnext hin (Nat.le_refl _)
        · rw [← hon.readPoint_eq] at hleave
          exact hleave
        · intro h0
          rw [h0]
          rfl
    · by_cases hcont : tlvTypeIsContainer (typeAt data q) = true
      · have hcont' : tlvTypeIsContainer r.elementType = true := by rw [hon.elementType_eq, hcont]
        have henter := Scan.enter hscan hcont hon.headEnd_le
        have hrun : (skipLoop outer level).run r = (readOn outer (level + 1)).run
            (inContainer (.ofElementType r.elementType) r) :=
          (skipLoop_enter h _ _ hcont').trans
            (skipOn_inContainer _ (hasLength_of_isContainer hcont'))
        rw [hrun]
        have hin := inBounds_inContainer h (.ofElementType r.elementType)
        apply hnext hin (Nat.le_refl _)
        · rw [← hon.readPoint_eq] at henter
          exact henter
        · intro h0
          cases h0
      · rw [Bool.not_eq_true] at hcont
        obtain ⟨hfit, k, hskip, hk, hend₁⟩ := hon.skipData_eq (hshort q _ (hbase.trans hscan))
        have hvalue := Scan.value hscan ⟨hon.valid, hcont, hend⟩ hfit
        rw [skipLoop_over h _ _ (by rw [hon.elementType_eq]; exact hend)
          (by rw [hon.elementType_eq]; exact hcont), skipOn, bind_ok hskip]
        apply hnext hk (unread_advance_le r k)
        · rw [← hend₁] at hvalue
          exact hvalue
        · exact houter

/-! ## Skip and ExitContainer -/

theorem cleared_not_on (hclear : Cleared r) : ¬ On data q r := by
  intro hon
  have hvalid := hon.valid
  rw [← hon.elementType_eq, hclear] at hvalid
  exact absurd hvalid (by decide)

theorem InPlace.scan_of_cleared (h : InPlace data outerTypes r) (hclear : Cleared r) :
    Scan data 0 r.readPoint outerTypes.length := by
  rcases h.place with ⟨-, hscan⟩ | ⟨q, hon, -⟩
  · exact hscan
  · exact absurd hon (cleared_not_on hclear)

/-- `SkipToEndOfContainer` between two elements. -/
theorem skipToEnd_ends (hshort : NoLongString data) (h : InBounds data r) (hclear : Cleared r)
    (hbase : Scan data 0 r.readPoint base) :
    SkipEnds data r.containerType r.readPoint (skipToEndOfContainer.run r) := by
  rw [skipToEnd_cleared h hclear]
  apply readOn_ends h .start
  intro s hread
  exact skipLoop_ends hshort hbase (s.unread + 1) (Nat.lt_succ_self _) (readElement_on h hread)
    .start (fun _ => containerType_of_readElement h hread)

theorem exitContainer_eq_err {error : MatterError} :
    (exitContainer outer).run r = .err error t ↔ skipToEndOfContainer.run r = .err error t := by
  rw [exitContainer, bind_eq_err]
  constructor
  · rintro (herr | ⟨_, s, -, hmodify⟩)
    · exact herr
    · cases hmodify
  · exact .inl

/-- `EnterContainer` has been called. -/
def entered (r : TLVReader) : TLVReader :=
  clearElementState (inContainer (.ofElementType r.elementType) r)

theorem skip_container (hcont : tlvTypeIsContainer r.elementType = true) :
    skip.run r = (exitContainer r.containerType).run (entered r) := by
  have hend : r.elementType ≠ ElementType.endOfContainer := fun hend => by
    rw [hend] at hcont
    exact absurd hcont (by decide)
  rw [skip, gets_bind, if_neg hend, if_pos hcont, bind_ok (enterContainer_run hcont)]
  rfl

/-- Where the members of the container end that the reader is on. -/
theorem On.entered_ends (hshort : NoLongString data) (hon : On data q r)
    (hscan : Scan data 0 q base) (hcont : tlvTypeIsContainer r.elementType = true) :
    SkipEnds data (.ofElementType r.elementType) r.readPoint
      (skipToEndOfContainer.run (entered r)) := by
  have hin : InBounds data (entered r) := hon.inBounds.congr rfl rfl rfl rfl rfl
  have hmembers : Scan data 0 (entered r).readPoint (base + 1) := by
    show Scan data 0 r.readPoint (base + 1)
    rw [hon.readPoint_eq]
    exact .enter hscan (by rw [← hon.elementType_eq]; exact hcont) hon.headEnd_le
  exact skipToEnd_ends hshort hin (cleared_clearElementState _) hmembers

/-- `Skip` goes to the end of the element. -/
theorem On.skip_ok (hshort : NoLongString data) (hon : On data q r) (hscan : Scan data 0 q base)
    (hok : skip.run r = .ok () t) : Extent data q t.readPoint ∧ Behind data r t.readPoint := by
  rcases skip_eq_ok.1 hok with ⟨s, hend, hcont, hskip, rfl⟩ | ⟨s, hcont, hloop, rfl⟩
  · obtain ⟨hfit, k, hskip', -, hk⟩ := hon.skipData_eq (hshort q _ hscan)
    rw [hskip] at hskip'
    cases hskip'
    have hpoint : (clearElementState (r.advance k)).readPoint = valueEnd data q := hk
    have hbehind : Behind data r _ := .value hend hcont
    rw [hon.elementType_eq, hon.readPoint_eq, hon.elemLenOrVal_eq] at hbehind
    rw [hpoint]
    rw [hon.elementType_eq] at hend hcont
    exact ⟨.value ⟨hon.valid, hcont, hend⟩ hfit, hbehind⟩
  · obtain ⟨e, he, hmembers, hend, -⟩ := (hon.entered_ends hshort hscan hcont).found s hloop
    have hpoint : (clearElementState (inContainer r.containerType s)).readPoint = headEnd data e :=
      he.readPoint_eq
    rw [hpoint]
    refine ⟨.container ?_ hon.headEnd_le ?_ hend he.headEnd_le, .container hcont hmembers hend⟩
    · rw [← hon.elementType_eq]
      exact hcont
    · rw [← hon.readPoint_eq]
      exact hmembers

theorem InPlace.skip_ok (hshort : NoLongString data) (h : InPlace data outerTypes r)
    (hok : skip.run r = .ok () t) : InPlace data outerTypes t ∧ Behind data r t.readPoint := by
  have ht := skip_inBounds h.inBounds hok
  have hclear := skip_cleared hok
  have hstacked : Stacked outerTypes t.containerType := by
    rw [containerType_of_skip h.inBounds hok]
    exact h.stacked
  rcases h.place with ⟨hclear₀, hscan⟩ | ⟨q, hon, hscan⟩
  · rw [skip_of_cleared hclear₀] at hok
    cases hok
    have hbehind : Behind data r _ := .value hclear₀.onValue.1 hclear₀.onValue.2
    rw [if_neg (by rw [hclear₀]; decide)] at hbehind
    exact ⟨⟨ht, hstacked, .inl ⟨hclear, hscan⟩⟩, hbehind⟩
  · obtain ⟨hextent, hbehind⟩ := hon.skip_ok hshort hscan hok
    have hend := hscan.trans hextent.scan
    rw [Nat.zero_add] at hend
    exact ⟨⟨ht, hstacked, .inl ⟨hclear, hend⟩⟩, hbehind⟩

/-- `Skip` reports the end on the end of a container, or where the buffer is cut. -/
theorem InPlace.skip_end (hshort : NoLongString data) (h : InPlace data outerTypes r)
    (herr : skip.run r = .err .endOfTLV t) :
    r.elementType = ElementType.endOfContainer ∧ t = r ∨ CutInside data r := by
  by_cases hend : r.elementType = ElementType.endOfContainer
  · rw [skip, gets_bind, if_pos hend] at herr
    cases herr
    exact .inl ⟨hend, rfl⟩
  right
  by_cases hcont : tlvTypeIsContainer r.elementType = true
  · rcases h.place with ⟨hclear, -⟩ | ⟨q, hon, hscan⟩
    · rw [hclear] at hcont
      exact absurd hcont (by decide)
    · rw [skip_container hcont, exitContainer_eq_err] at herr
      exact ⟨hcont, (hon.entered_ends hshort hscan hcont).cut t herr⟩
  · rw [Bool.not_eq_true] at hcont
    exact absurd herr (skip_ne_endOfTLV h.inBounds ⟨hend, hcont⟩)

/-- `ExitContainer` finds the end of the container that the reader is in. -/
theorem InPlace.skipToEnd_ok (hshort : NoLongString data) (h : InPlace data outerTypes r)
    (hok : skipToEndOfContainer.run r = .ok () t) : ∃ e, On data e t ∧
      Scan data 0 e outerTypes.length ∧ typeAt data e = ElementType.endOfContainer ∧
        r.containerType ≠ .notSpecified := by
  have hends : ∃ p, Scan data 0 p outerTypes.length ∧
      SkipEnds data r.containerType p (skipToEndOfContainer.run r) := by
    rcases h.place with ⟨hclear, hscan⟩ | ⟨q, hon, hscan⟩
    · exact ⟨r.readPoint, hscan, skipToEnd_ends hshort h.inBounds hclear hscan⟩
    · refine ⟨q, hscan, ?_⟩
      rw [skipToEnd_eq]
      exact skipLoop_ends hshort hscan (r.unread + 1) (Nat.lt_succ_self _) hon .start
        (fun _ => rfl)
  obtain ⟨p, hscan, hends⟩ := hends
  obtain ⟨e, hon, hmembers, hend, htype⟩ := hends.found t hok
  have hscan' := hscan.trans hmembers
  rw [Nat.zero_add] at hscan'
  refine ⟨e, hon, hscan', hend, ?_⟩
  rw [← htype]
  exact hon.inside hend

/-! ## The calls keep the reader in place -/

theorem InPlace.enter (h : InPlace data outerTypes r)
    (hok : enterContainer.run r = .ok outer r') : InPlace data (outer :: outerTypes) r' := by
  have hin := enterContainer_inBounds h.inBounds hok
  obtain ⟨hcont, rfl, rfl⟩ := enterContainer_eq_ok.1 hok
  rcases h.place with ⟨hclear, -⟩ | ⟨q, hon, hscan⟩
  · rw [hclear] at hcont
    exact absurd hcont (by decide)
  · have henter := Scan.enter hscan (by rw [← hon.elementType_eq]; exact hcont) hon.headEnd_le
    rw [← hon.readPoint_eq] at henter
    exact {
      inBounds := hin
      stacked := .inside h.stacked (ofElementType_ne_notSpecified hcont)
      place := .inl ⟨cleared_clearElementState _, henter⟩ }

theorem InPlace.exit (hshort : NoLongString data) (h : InPlace data (outer :: outerTypes) r)
    (hok : (exitContainer outer).run r = .ok () r') : InPlace data outerTypes r' := by
  have hin := exitContainer_inBounds h.inBounds hok
  obtain ⟨s, hfound, rfl⟩ := exitContainer_eq_ok.1 hok
  obtain ⟨e, hon, hscan, hend, -⟩ := h.skipToEnd_ok hshort hfound
  have hleave := Scan.leave hscan hend hon.headEnd_le
  rw [← hon.readPoint_eq] at hleave
  cases h.stacked with
  | inside hstacked => exact ⟨hin, hstacked, .inl ⟨cleared_clearElementState _, hleave⟩⟩

/-- There is no container to leave at the outermost level. -/
theorem InPlace.exit_outermost (hshort : NoLongString data) (h : InPlace data [] r) :
    (exitContainer outer).run r ≠ .ok () r' := by
  intro hok
  obtain ⟨s, hfound, -⟩ := exitContainer_eq_ok.1 hok
  obtain ⟨-, -, -, -, hne⟩ := h.skipToEnd_ok hshort hfound
  exact hne (h.stacked.length_eq_zero.2 rfl)

theorem InPlace.read (h : InPlace data outerTypes t) (hclear : Cleared t)
    (hread : readElement.run t = .ok () r) : InPlace data outerTypes r where
  inBounds := (readElement_unread_lt h.inBounds hread).1
  stacked := by
    rw [containerType_of_readElement h.inBounds hread]
    exact h.stacked
  place := .inr ⟨t.readPoint, readElement_on h.inBounds hread, h.scan_of_cleared hclear⟩

/-- A real end: the reader has read the end of the container that it is in, the innermost of
`depth`, or it is in none and the buffer ends behind its last element. -/
inductive RealEnd (data : List UInt8) (depth : Nat) (r : TLVReader) : Prop where
  | endOfContainer {e : Nat} (hin : 0 < depth) (hscan : Scan data 0 e depth)
      (htype : typeAt data e = ElementType.endOfContainer)
      (hread : r.elementType = ElementType.endOfContainer) (hpoint : r.readPoint = headEnd data e)
  | exhausted (hout : depth = 0) (hscan : Scan data 0 data.length 0)
      (hpoint : r.readPoint = data.length)

theorem InPlace.realEnd (h : InPlace data outerTypes r)
    (hend : r.elementType = ElementType.endOfContainer) : RealEnd data outerTypes.length r := by
  rcases h.place with ⟨hclear, -⟩ | ⟨q, hon, hscan⟩
  · rw [hclear] at hend
    cases hend
  · have htype : typeAt data q = ElementType.endOfContainer := by
      rw [← hon.elementType_eq]
      exact hend
    refine .endOfContainer (Nat.pos_of_ne_zero fun h0 => ?_) hscan htype hend hon.readPoint_eq
    exact hon.inside htype (h.stacked.length_eq_zero.2 h0)

/-- What `Next` reads. -/
theorem InPlace.next_ok (hshort : NoLongString data) (h : InPlace data outerTypes r)
    (hok : next.run r = .ok () r') : InPlace data outerTypes r' ∧
      r'.elementType ≠ ElementType.endOfContainer ∧
        ∃ q, On data q r' ∧ Scan data 0 q outerTypes.length ∧ Behind data r q := by
  obtain ⟨t, hskip, hread, hend⟩ := next_eq_ok.1 hok
  obtain ⟨ht, hbehind⟩ := h.skip_ok hshort hskip
  have hclear := skip_cleared hskip
  exact ⟨ht.read hclear hread, hend, t.readPoint, readElement_on ht.inBounds hread,
    ht.scan_of_cleared hclear, hbehind⟩

/-- Where `Next` reports the end. -/
theorem InPlace.next_end (hshort : NoLongString data) (h : InPlace data outerTypes r)
    (hmeets : ¬ RunsOut data r .next) (herr : next.run r = .err .endOfTLV r') :
    InPlace data outerTypes r' ∧ RealEnd data outerTypes.length r' := by
  cases hskip : skip.run r with
  | ok _ t =>
    obtain ⟨ht, hbehind⟩ := h.skip_ok hshort hskip
    have hclear := skip_cleared hskip
    rcases next_endOfTLV h.inBounds hskip herr with ⟨hread, hend⟩ | ⟨rfl, hread⟩
    · have hr' := ht.read hclear hread
      exact ⟨hr', hr'.realEnd hend⟩
    · -- no byte is left: that is an end outside of all containers only
      have hpoint := readPoint_eq_length ht.inBounds (readElement_endOfTLV ht.inBounds hread).2
      have hscan := ht.scan_of_cleared hclear
      have hout : r.containerType = .notSpecified := by
        by_contra hin
        rw [hpoint] at hbehind
        exact hmeets (.inr ⟨hin, hbehind⟩)
      have hdepth := h.stacked.length_eq_zero.1 hout
      rw [hpoint, hdepth] at hscan
      exact ⟨ht, .exhausted hdepth hscan hpoint⟩
  | err error t =>
    rw [next, bind_err hskip] at herr
    cases herr
    rcases h.skip_end hshort hskip with ⟨hend, rfl⟩ | hcut
    · exact ⟨h, h.realEnd hend⟩
    · exact absurd (.inl hcut) hmeets
  | fault f =>
    rw [next, bind_fault hskip] at herr
    cases herr

theorem enterContainer_eq_err {error : MatterError} (herr : enterContainer.run r = .err error t) :
    t = r := by
  cases hcont : tlvTypeIsContainer r.elementType with
  | true =>
    rw [enterContainer_run hcont] at herr
    cases herr
  | false =>
    rw [enterContainer_refused hcont] at herr
    cases herr
    rfl

/-- `Skip` goes on at an end only where the reader stays. -/
theorem InPlace.skip_goesOn (hshort : NoLongString data) (h : InPlace data outerTypes r)
    (hmeets : ¬ CutInside data r) (herr : skip.run r = .err .endOfTLV t) :
    InPlace data outerTypes t := by
  rcases h.skip_end hshort herr with ⟨-, rfl⟩ | hcut
  · exact h
  · exact absurd hcut hmeets

end

end Matter.TLV
