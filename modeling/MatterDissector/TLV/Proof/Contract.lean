import MatterDissector.TLV.Dissector
import MatterDissector.TLV.Proof.Skip

/-!
# The success contract of element handlers

`Focused`: a dissector that a successful `Next` has left on an element. `Balanced`: a later state
with the same container stack, from which `Skip` leads to the same place, so that the following
`Next` does what it would have done before (`Balanced.next_eq`).

`container_ok` is the rule for a handler that enters a container, handles its members and leaves
it: if each member is handled in a balanced way, so is the container. Handlers may also come off
the track (`Off`), which the rule leaves to its user.
-/

namespace Matter.TLV

open Prog Dissect
open TLVReader (InBounds)

section
variable {data : List UInt8} {d d' d'' : TLVDissector}

/-! ## The moves of a dissector -/

theorem onReader_eq_ok {α : Type} {x : ReaderM α} {a : α} :
    (TLVDissector.onReader x).run d = .ok a d' ↔
      ∃ r, x.run d.reader = .ok a r ∧ d' = { d with reader := r } := zoom_eq_ok

theorem onReader_eq_err {α : Type} {x : ReaderM α} {e : MatterError} :
    (TLVDissector.onReader x).run d = .err e d' ↔
      ∃ r, x.run d.reader = .err e r ∧ d' = { d with reader := r } := zoom_eq_err

theorem getType_cleared {r : TLVReader} (h : Cleared r) : r.getType = .notSpecified := by
  unfold TLVReader.getType
  rw [h]
  decide

theorem markElemStart_run (h : Cleared d.reader) :
    TLVDissector.markElemStart.run d = .ok () { d with elemStart := d.reader.lenRead } := by
  rw [TLVDissector.markElemStart, get_bind, getType_cleared h]
  rfl

theorem markElemLength_run : TLVDissector.markElemLength.run d =
    match TLVReader.skip.run d.reader with
    | .ok () c => .ok () { d with elemLen := sub32 c.lenRead d.elemStart }
    | .err e _ => .err e d
    | .fault f => .fault f := by
  rw [TLVDissector.markElemLength, TLVDissector.onReaderCopy, run_bind, run_zoom, run_bind]
  cases TLVReader.skip.run d.reader <;> rfl

theorem markElemLength_eq_ok : TLVDissector.markElemLength.run d = .ok () d' ↔
    ∃ c, TLVReader.skip.run d.reader = .ok () c ∧
      d' = { d with elemLen := sub32 c.lenRead d.elemStart } := by
  rw [markElemLength_run]
  cases TLVReader.skip.run d.reader <;> simp [eq_comm]

theorem markElemLength_eq_err {e : MatterError} : TLVDissector.markElemLength.run d = .err e d' ↔
    (∃ c, TLVReader.skip.run d.reader = .err e c) ∧ d' = d := by
  rw [markElemLength_run]
  cases TLVReader.skip.run d.reader <;> simp [eq_comm, and_comm]

/-- The dissector behind the current element, where `MarkElemStart` has noted the place. -/
def marked (d : TLVDissector) (t : TLVReader) : TLVDissector :=
  { d with reader := t, elemStart := t.lenRead }

theorem nextBy_run {readNext : ReaderM Unit} {t : TLVReader}
    (hskip : TLVReader.skip.run d.reader = .ok () t) :
    (TLVDissector.nextBy readNext).run d =
      (TLVDissector.onReader readNext >>= fun _ => TLVDissector.markElemLength).run
        (marked d t) := by
  have hmark := @markElemStart_run { d with reader := t } (skip_cleared hskip)
  rw [TLVDissector.nextBy, bind_ok (onReader_eq_ok.2 ⟨t, hskip, rfl⟩), bind_ok hmark]
  rfl

/-- `Next` of a dissector: over the current element, to the next one, whose length is measured. -/
theorem nextBy_eq_ok {readNext : ReaderM Unit} :
    (TLVDissector.nextBy readNext).run d = .ok () d' ↔
      ∃ t r c, TLVReader.skip.run d.reader = .ok () t ∧ readNext.run t = .ok () r ∧
        TLVReader.skip.run r = .ok () c ∧
        d' = { marked d t with reader := r, elemLen := sub32 c.lenRead t.lenRead } := by
  constructor
  · intro h
    cases hskip : TLVReader.skip.run d.reader with
    | ok u t =>
      rw [nextBy_run hskip, bind_eq_ok] at h
      obtain ⟨_, d₁, hnext, h⟩ := h
      obtain ⟨r, hread, rfl⟩ := onReader_eq_ok.1 hnext
      obtain ⟨c, hcopy, rfl⟩ := markElemLength_eq_ok.1 h
      exact ⟨t, r, c, rfl, hread, hcopy, rfl⟩
    | err e t =>
      rw [TLVDissector.nextBy, bind_err (onReader_eq_err.2 ⟨t, hskip, rfl⟩)] at h
      cases h
    | fault f =>
      rw [TLVDissector.nextBy, run_bind, TLVDissector.onReader, run_zoom, hskip] at h
      cases h
  · rintro ⟨t, r, c, hskip, hread, hcopy, rfl⟩
    rw [nextBy_run hskip, bind_ok (onReader_eq_ok.2 ⟨r, hread, rfl⟩)]
    exact markElemLength_eq_ok.2 ⟨c, hcopy, rfl⟩

/-- The ways in which `Next` of a dissector fails. -/
theorem nextBy_eq_err {readNext : ReaderM Unit} {e : MatterError}
    (h : (TLVDissector.nextBy readNext).run d = .err e d') :
    (∃ t, TLVReader.skip.run d.reader = .err e t ∧ d' = { d with reader := t }) ∨
      ∃ t r, TLVReader.skip.run d.reader = .ok () t ∧ d' = { marked d t with reader := r } ∧
        (readNext.run t = .err e r ∨
          readNext.run t = .ok () r ∧ ∃ c, TLVReader.skip.run r = .err e c) := by
  cases hskip : TLVReader.skip.run d.reader with
  | ok u t =>
    rw [nextBy_run hskip, bind_eq_err] at h
    rcases h with h | ⟨_, d₁, hnext, h⟩
    · obtain ⟨r, hread, rfl⟩ := onReader_eq_err.1 h
      exact .inr ⟨t, r, rfl, rfl, .inl hread⟩
    · obtain ⟨r, hread, rfl⟩ := onReader_eq_ok.1 hnext
      obtain ⟨hcopy, rfl⟩ := markElemLength_eq_err.1 h
      exact .inr ⟨t, r, rfl, rfl, .inr ⟨hread, hcopy⟩⟩
  | err e' t =>
    rw [TLVDissector.nextBy, bind_err (onReader_eq_err.2 ⟨t, hskip, rfl⟩)] at h
    cases h
    exact .inl ⟨t, rfl, rfl⟩
  | fault f =>
    rw [TLVDissector.nextBy, run_bind, TLVDissector.onReader, run_zoom, hskip] at h
    cases h

/-! ## On an element -/

/-- On an element that `Skip` gets over. -/
structure Focused (data : List UInt8) (d : TLVDissector) : Prop where
  inBounds : InBounds data d.reader
  skips : ∃ t, TLVReader.skip.run d.reader = .ok () t

/-- The containers entered are the same, and so is what follows the current element. -/
structure Balanced (data : List UInt8) (d d' : TLVDissector) : Prop where
  inBounds : InBounds data d'.reader
  containerStack_eq : d'.containerStack = d.containerStack
  sourceBufBaseOffset_eq : d'.sourceBufBaseOffset = d.sourceBufBaseOffset
  elemStart_eq : d'.elemStart = d.elemStart
  elemLen_eq : d'.elemLen = d.elemLen
  skip_eq : ∃ t, TLVReader.skip.run d.reader = .ok () t ∧ TLVReader.skip.run d'.reader = .ok () t

theorem Focused.balanced (h : Focused data d) : Balanced data d d :=
  ⟨h.inBounds, rfl, rfl, rfl, rfl, h.skips.imp fun _ ht => ⟨ht, ht⟩⟩

theorem Balanced.focused (h : Balanced data d d') : Focused data d' :=
  ⟨h.inBounds, h.skip_eq.imp fun _ ht => ht.2⟩

theorem Balanced.trans (h : Balanced data d d') (h' : Balanced data d' d'') :
    Balanced data d d'' := by
  obtain ⟨t, ht, ht'⟩ := h.skip_eq
  obtain ⟨t₁, h₁, h₁'⟩ := h'.skip_eq
  cases ht'.symm.trans h₁
  exact ⟨h'.inBounds, h'.containerStack_eq.trans h.containerStack_eq,
    h'.sourceBufBaseOffset_eq.trans h.sourceBufBaseOffset_eq,
    h'.elemStart_eq.trans h.elemStart_eq, h'.elemLen_eq.trans h.elemLen_eq, t, ht, h₁'⟩

theorem Balanced.containerType_eq (h : Balanced data d d') (hd : InBounds data d.reader) :
    d'.reader.containerType = d.reader.containerType := by
  obtain ⟨t, ht, ht'⟩ := h.skip_eq
  rw [← containerType_of_skip h.inBounds ht', containerType_of_skip hd ht]

/-- What follows is the same. -/
theorem Balanced.nextBy_eq (h : Balanced data d d') (readNext : ReaderM Unit) :
    (TLVDissector.nextBy readNext).run d' = (TLVDissector.nextBy readNext).run d := by
  obtain ⟨t, ht, ht'⟩ := h.skip_eq
  rw [nextBy_run ht, nextBy_run ht']
  have hmarked : marked d' t = marked d t := by
    unfold marked
    rw [h.containerStack_eq, h.sourceBufBaseOffset_eq, h.elemLen_eq]
  rw [hmarked]

theorem Balanced.next_eq (h : Balanced data d d') :
    TLVDissector.next.run d' = TLVDissector.next.run d := h.nextBy_eq TLVReader.next

theorem nextBy_focused {readNext : ReaderM Unit} (hkeep : TLVReader.Keeps data readNext)
    (h : InBounds data d.reader) (hok : (TLVDissector.nextBy readNext).run d = .ok () d') :
    Focused data d' := by
  obtain ⟨t, r, c, hskip, hread, hcopy, rfl⟩ := nextBy_eq_ok.1 hok
  have hr := hkeep t (skip_inBounds h hskip)
  rw [hread] at hr
  exact ⟨hr, c, hcopy⟩

/-- A successful `Next` leaves the dissector on an element. -/
theorem next_focused (h : InBounds data d.reader) (hok : TLVDissector.next.run d = .ok () d') :
    Focused data d' := nextBy_focused TLVReader.next_keeps h hok

/-! ## Inside a container -/

theorem enterContainer_tlv_eq_ok :
    TLVDissector.enterContainer.run d = .ok () d' ↔
      tlvTypeIsContainer d.reader.elementType = true ∧ d' = { d with
        reader := (inContainer (.ofElementType d.reader.elementType) d.reader).clearElementState
        containerStack :=
          ⟨d.reader.containerType, d.elemStart, d.elemLen⟩ :: d.containerStack } := by
  rw [TLVDissector.enterContainer, bind_eq_ok]
  constructor
  · rintro ⟨_, d₁, hmove, h⟩
    obtain ⟨r, henter, rfl⟩ := onReader_eq_ok.1 hmove
    obtain ⟨htype, rfl, rfl⟩ := enterContainer_eq_ok.1 henter
    cases h
    exact ⟨htype, rfl⟩
  · rintro ⟨htype, rfl⟩
    exact ⟨_, _, onReader_eq_ok.2 ⟨_, enterContainer_run htype, rfl⟩, rfl⟩

/-- `ExitContainer`: the innermost context is restored, behind its container. -/
theorem exitContainer_tlv_eq_ok {context : ContainerContext} {stack : List ContainerContext}
    (hstack : d.containerStack = context :: stack) :
    TLVDissector.exitContainer.run d = .ok () d' ↔
      ∃ e, TLVReader.skipToEndOfContainer.run d.reader = .ok () e ∧ d' = { d with
        reader := (inContainer context.containerType e).clearElementState
        elemStart := context.elemStart
        elemLen := context.elemLen
        containerStack := stack } := by
  have hpop : TLVDissector.popContainer.run d = .ok context.containerType { d with
      elemStart := context.elemStart, elemLen := context.elemLen, containerStack := stack } := by
    rw [TLVDissector.popContainer, get_bind, hstack]
    rfl
  rw [TLVDissector.exitContainer, bind_ok hpop, onReader_eq_ok]
  constructor
  · rintro ⟨r, hexit, rfl⟩
    obtain ⟨e, hskip, rfl⟩ := exitContainer_eq_ok.1 hexit
    exact ⟨e, hskip, rfl⟩
  · rintro ⟨e, hskip, rfl⟩
    exact ⟨_, exitContainer_eq_ok.2 ⟨e, hskip, rfl⟩, rfl⟩

/-- `d` is among the members of the container that `d₀` has just entered. -/
structure Inside (data : List UInt8) (d₀ d : TLVDissector) : Prop where
  focused : Focused data d
  containerStack_eq : d.containerStack = d₀.containerStack
  sourceBufBaseOffset_eq : d.sourceBufBaseOffset = d₀.sourceBufBaseOffset
  sameEnd : SameOk (TLVReader.skipToEndOfContainer.run d₀.reader)
    (TLVReader.skipToEndOfContainer.run d.reader)

variable {d₀ : TLVDissector}

theorem Inside.start (h : InBounds data d₀.reader) (hclear : Cleared d₀.reader) :
    Inside data d₀ d₀ :=
  ⟨⟨h, _, skip_of_cleared hclear⟩, rfl, rfl, .refl _⟩

theorem Inside.next (h : Inside data d₀ d) (hok : TLVDissector.next.run d = .ok () d') :
    Inside data d₀ d' := by
  have hfocus := next_focused h.focused.inBounds hok
  obtain ⟨t, r, c, hskip, hread, hcopy, rfl⟩ := nextBy_eq_ok.1 hok
  refine ⟨hfocus, h.containerStack_eq, h.sourceBufBaseOffset_eq, ?_⟩
  have hin := h.focused.inBounds
  exact h.sameEnd.trans ((skipToEnd_skip hin hskip).trans
    (skipToEnd_next (skip_inBounds hin hskip) hread))

theorem Inside.balanced (h : Inside data d₀ d) (hbal : Balanced data d d') :
    Inside data d₀ d' := by
  obtain ⟨t, ht, ht'⟩ := hbal.skip_eq
  exact ⟨hbal.focused, hbal.containerStack_eq.trans h.containerStack_eq,
    hbal.sourceBufBaseOffset_eq.trans h.sourceBufBaseOffset_eq,
    h.sameEnd.trans ((skipToEnd_skip h.focused.inBounds ht).trans
      (skipToEnd_skip hbal.inBounds ht').symm)⟩

/-- Where the members end, `ExitContainer` finds the end that it would have found from the
start, or none. -/
theorem Inside.endOfTLV (h : Inside data d₀ d)
    (herr : TLVDissector.next.run d = .err .endOfTLV d') :
    InBounds data d'.reader ∧ d'.containerStack = d₀.containerStack ∧
      d'.sourceBufBaseOffset = d₀.sourceBufBaseOffset ∧
      ∀ e, TLVReader.skipToEndOfContainer.run d'.reader = .ok () e ↔
        TLVReader.skipToEndOfContainer.run d₀.reader = .ok () e := by
  obtain ⟨t, hskip⟩ := h.focused.skips
  have hin := h.focused.inBounds
  have ht := skip_inBounds hin hskip
  have hsame := h.sameEnd.trans (skipToEnd_skip hin hskip)
  rw [show TLVDissector.next = TLVDissector.nextBy TLVReader.next from rfl, nextBy_run hskip,
    bind_eq_err] at herr
  rcases herr with herr | ⟨_, d₁, hok, herr⟩
  · obtain ⟨r, hnext, rfl⟩ := onReader_eq_err.1 herr
    have hr := TLVReader.next_keeps t ht
    rw [show TLVReader.next.run t = _ from hnext] at hr
    refine ⟨hr, h.containerStack_eq, h.sourceBufBaseOffset_eq, fun e => ?_⟩
    rcases next_endOfTLV ht (skip_skip hskip) hnext with ⟨hread, hend⟩ | ⟨rfl, hread⟩
    · -- the end of the container has been read
      have hdone : TLVReader.skipToEndOfContainer.run t = .ok () r := by
        rw [skipToEnd_cleared ht (skip_cleared hskip), readOn, bind_ok hread]
        exact skipLoop_end hr _ hend
      have hstay : TLVReader.skipToEndOfContainer.run r = .ok () r := by
        rw [skipToEnd_eq, skipLoop_end hr _ hend]
      have hsame := hsame () e
      rw [hdone] at hsame
      show TLVReader.skipToEndOfContainer.run r = .ok () e ↔ _
      rw [hstay, hsame]
    · exact (hsame () e).symm
  · -- the next element is cut off
    obtain ⟨r, hnext, rfl⟩ := onReader_eq_ok.1 hok
    obtain ⟨⟨c, hcopy⟩, rfl⟩ := markElemLength_eq_err.1 herr
    have hr := TLVReader.next_keeps t ht
    rw [show TLVReader.next.run t = _ from hnext] at hr
    refine ⟨hr, h.containerStack_eq, h.sourceBufBaseOffset_eq, fun e => ?_⟩
    exact ((hsame () e).trans (skipToEnd_next ht hnext () e)).symm

/-- Whatever error ends the members of a container that has an end, that end is still found. -/
theorem Inside.next_err {e : MatterError} {c : TLVReader} (h : Inside data d₀ d)
    (hend : TLVReader.skipToEndOfContainer.run d₀.reader = .ok () c)
    (herr : TLVDissector.next.run d = .err e d') :
    InBounds data d'.reader ∧ d'.containerStack = d₀.containerStack ∧
      d'.sourceBufBaseOffset = d₀.sourceBufBaseOffset ∧
      TLVReader.skipToEndOfContainer.run d'.reader = .ok () c := by
  have hin := h.focused.inBounds
  obtain ⟨t, hskip⟩ := h.focused.skips
  have ht := skip_inBounds hin hskip
  have hendt := ((h.sameEnd.trans (skipToEnd_skip hin hskip)) () c).1 hend
  have hrun := herr
  rw [show TLVDissector.next = TLVDissector.nextBy TLVReader.next from rfl, nextBy_run hskip,
    bind_eq_err] at hrun
  rcases hrun with hrun | ⟨_, d₁, hok, hrun⟩
  · obtain ⟨r, hnext, -⟩ := onReader_eq_err.1 hrun
    have hnext' : TLVReader.next.run t = .err e r := hnext
    rw [TLVReader.next, bind_ok (skip_skip hskip), bind_eq_err] at hnext'
    rcases hnext' with hread | ⟨_, r', -, hcheck⟩
    · -- the end could not have been read either
      rw [skipToEnd_cleared ht (skip_cleared hskip), readOn, bind_err hread] at hendt
      cases hendt
    · rw [gets_bind] at hcheck
      split at hcheck
      · cases hcheck
        obtain ⟨hbounds, hstack, hbase, hsame⟩ := h.endOfTLV herr
        exact ⟨hbounds, hstack, hbase, (hsame c).2 hend⟩
      · cases hcheck
  · -- the next element is cut off
    obtain ⟨r, hnext, rfl⟩ := onReader_eq_ok.1 hok
    obtain ⟨-, rfl⟩ := markElemLength_eq_err.1 hrun
    have hr := TLVReader.next_keeps t ht
    rw [show TLVReader.next.run t = _ from hnext] at hr
    exact ⟨hr, h.containerStack_eq, h.sourceBufBaseOffset_eq,
      (skipToEnd_next ht hnext () c).1 hendt⟩

/-- A container that has been entered, and left from a place with the same end. -/
theorem balanced_of_exit {c : TLVReader} {d₂ : TLVDissector}
    (henter : TLVDissector.enterContainer.run d = .ok () d₀) (hbounds : InBounds data d₂.reader)
    (hstack : d₂.containerStack = d₀.containerStack)
    (hbase : d₂.sourceBufBaseOffset = d₀.sourceBufBaseOffset)
    (hend₀ : TLVReader.skipToEndOfContainer.run d₀.reader = .ok () c)
    (hend₂ : TLVReader.skipToEndOfContainer.run d₂.reader = .ok () c)
    (hexit : TLVDissector.exitContainer.run d₂ = .ok () d') : Balanced data d d' := by
  obtain ⟨htype, rfl⟩ := enterContainer_tlv_eq_ok.1 henter
  obtain ⟨e, hskip, rfl⟩ := (exitContainer_tlv_eq_ok hstack).1 hexit
  cases hend₂.symm.trans hskip
  have hkeep := TLVReader.skipToEndOfContainer_keeps d₂.reader hbounds
  rw [hskip] at hkeep
  rw [skipToEnd_eq] at hend₀
  have hover : TLVReader.skip.run d.reader =
      .ok () (inContainer d.reader.containerType c).clearElementState :=
    skip_eq_ok.2 (.container c htype hend₀ rfl)
  exact ⟨hkeep.congr rfl rfl rfl rfl rfl, rfl, hbase, rfl, rfl, _, hover, skip_skip hover⟩

/-- A container that has been entered and left, with its members handled in between. -/
theorem Inside.closed {d₁ d₂ : TLVDissector}
    (henter : TLVDissector.enterContainer.run d = .ok () d₀) (hin : Inside data d₀ d₁)
    (hend : TLVDissector.next.run d₁ = .err .endOfTLV d₂)
    (hexit : TLVDissector.exitContainer.run d₂ = .ok () d') : Balanced data d d' := by
  obtain ⟨hbounds, hstack, hbase, hsame⟩ := hin.endOfTLV hend
  obtain ⟨c, hskip⟩ : ∃ c, TLVReader.skipToEndOfContainer.run d₂.reader = .ok () c := by
    obtain ⟨-, rfl⟩ := enterContainer_tlv_eq_ok.1 henter
    obtain ⟨c, hskip, -⟩ := (exitContainer_tlv_eq_ok hstack).1 hexit
    exact ⟨c, hskip⟩
  exact balanced_of_exit henter hbounds hstack hbase ((hsame c).1 hskip) hskip hexit

/-- The end of a container that `Skip` gets over. -/
theorem Focused.end_ok (h : Focused data d)
    (henter : TLVDissector.enterContainer.run d = .ok () d₀) :
    ∃ c, TLVReader.skipToEndOfContainer.run d₀.reader = .ok () c := by
  obtain ⟨htype, rfl⟩ := enterContainer_tlv_eq_ok.1 henter
  obtain ⟨t, hskip⟩ := h.skips
  rcases skip_eq_ok.1 hskip with ⟨-, -, htype', -, -⟩ | ⟨e, -, hloop, -⟩
  · rw [htype] at htype'; cases htype'
  · exact ⟨e, hloop⟩

/-- A container that `Skip` gets over can be left after its members. -/
theorem Inside.exit_ok {d₁ d₂ : TLVDissector} (h : Focused data d)
    (henter : TLVDissector.enterContainer.run d = .ok () d₀) (hin : Inside data d₀ d₁)
    (hend : TLVDissector.next.run d₁ = .err .endOfTLV d₂) :
    ∃ d', TLVDissector.exitContainer.run d₂ = .ok () d' := by
  obtain ⟨c, hskip⟩ := h.end_ok henter
  obtain ⟨-, rfl⟩ := enterContainer_tlv_eq_ok.1 henter
  obtain ⟨-, hstack, -, hsame⟩ := hin.endOfTLV hend
  exact ⟨_, (exitContainer_tlv_eq_ok hstack).2 ⟨c, (hsame c).2 hskip, rfl⟩⟩

end

end Matter.TLV
