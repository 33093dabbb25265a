import MatterDissector.TLV.Proof.InPlace
import MatterDissector.TLV.Proof.MoreInput

/-!
# The end that Next reports

`endsAreReal_of_meets`: in every run of `Next`, `Skip`, `EnterContainer` and `ExitContainer` calls
that never meet the end of the buffer between two elements of a container, in a buffer without a
`LongString`, `Next` reports `MATTER_END_OF_TLV` at a real end only, and `UNDERRUN` where the
buffer stops short of one.
-/

namespace Matter.TLV

open Prog TLVReader

/-! ## Clients -/

/-- A reader and the outer types that `EnterContainer` has returned, the innermost first. -/
structure ReaderClient where
  reader : TLVReader
  outerTypes : List TLVType
  deriving DecidableEq, Repr

abbrev ClientM := Prog MatterError Fault ReaderClient

namespace ReaderClient

def init (data : List UInt8) : ReaderClient := ⟨.init data data.length, []⟩

def onReader {α : Type} (x : ReaderM α) : ClientM α :=
  zoom ReaderClient.reader (fun reader c => { c with reader }) x

/-- The type to leave a container with, as `PopContainer` has it. -/
def popOuter : ClientM TLVType := do
  let c ← get
  match c.outerTypes with
  | [] => pure .notSpecified
  | outer :: outerTypes => do
    modify fun c => { c with outerTypes }
    pure outer

end ReaderClient

/-- The call on a plain reader. -/
def ReaderCall.perform : ReaderCall → ClientM Unit
  | .next => ReaderClient.onReader TLVReader.next
  | .skip => ReaderClient.onReader TLVReader.skip
  | .enterContainer => do
    let outer ← ReaderClient.onReader TLVReader.enterContainer
    modify fun c => { c with outerTypes := outer :: c.outerTypes }
  | .exitContainer => do
    ReaderClient.onReader (TLVReader.exitContainer (← ReaderClient.popOuter))

/-- The call on a dissector. -/
def ReaderCall.dissect : ReaderCall → DissectorM Unit
  | .next => TLVDissector.next
  | .skip => TLVDissector.onReader TLVReader.skip
  | .enterContainer => TLVDissector.enterContainer
  | .exitContainer => TLVDissector.exitContainer

/-- The errors after which a client goes on: an end, and an element that is no container. -/
def ReaderCall.goesOn : ReaderCall → MatterError → Bool
  | .next, .endOfTLV | .skip, .endOfTLV | .enterContainer, .incorrectState => true
  | _, _ => false

/-! ## Runs of a reader -/

section
variable {data : List UInt8} {call : ReaderCall} {c c' : ReaderClient} {d d' : TLVDissector}

theorem perform_exit_cons {outer : TLVType} {outerTypes : List TLVType}
    (houter : c.outerTypes = outer :: outerTypes) :
    ReaderCall.exitContainer.perform.run c =
      (ReaderClient.onReader (TLVReader.exitContainer outer)).run { c with outerTypes } := by
  have hpop : ReaderClient.popOuter.run c = .ok outer { c with outerTypes } := by
    rw [ReaderClient.popOuter, get_bind, houter]
    rfl
  rw [ReaderCall.perform, bind_ok hpop]

theorem perform_exit_nil (houter : c.outerTypes = []) :
    ReaderCall.exitContainer.perform.run c =
      (ReaderClient.onReader (TLVReader.exitContainer .notSpecified)).run c := by
  have hpop : ReaderClient.popOuter.run c = .ok .notSpecified c := by
    rw [ReaderClient.popOuter, get_bind, houter]
    rfl
  rw [ReaderCall.perform, bind_ok hpop]

theorem InPlace.perform_ok (hshort : NoLongString data) (h : InPlace data c.outerTypes c.reader)
    (hok : call.perform.run c = .ok () c') : InPlace data c'.outerTypes c'.reader := by
  cases call with
  | next =>
    obtain ⟨r, hnext, rfl⟩ := zoom_eq_ok.1 hok
    exact (h.next_ok hshort hnext).1
  | skip =>
    obtain ⟨r, hskip, rfl⟩ := zoom_eq_ok.1 hok
    exact (h.skip_ok hshort hskip).1
  | enterContainer =>
    obtain ⟨outer, c₁, hmove, hpush⟩ := bind_eq_ok.1 hok
    obtain ⟨r, henter, rfl⟩ := zoom_eq_ok.1 hmove
    cases hpush
    exact h.enter henter
  | exitContainer =>
    cases houter : c.outerTypes with
    | nil =>
      rw [perform_exit_nil houter] at hok
      obtain ⟨r, hexit, -⟩ := zoom_eq_ok.1 hok
      rw [houter] at h
      exact absurd hexit (h.exit_outermost hshort)
    | cons outer outerTypes =>
      rw [perform_exit_cons houter] at hok
      obtain ⟨r, hexit, rfl⟩ := zoom_eq_ok.1 hok
      rw [houter] at h
      exact h.exit hshort hexit

theorem InPlace.perform_err {e : MatterError} (hshort : NoLongString data)
    (h : InPlace data c.outerTypes c.reader) (hmeets : ¬ RunsOut data c.reader call)
    (hgoes : call.goesOn e = true) (herr : call.perform.run c = .err e c') :
    InPlace data c'.outerTypes c'.reader := by
  cases call with
  | next =>
    cases e <;> cases hgoes
    obtain ⟨r, hnext, rfl⟩ := zoom_eq_err.1 herr
    exact (h.next_end hshort hmeets hnext).1
  | skip =>
    cases e <;> cases hgoes
    obtain ⟨r, hskip, rfl⟩ := zoom_eq_err.1 herr
    exact h.skip_goesOn hshort hmeets hskip
  | enterContainer =>
    rcases bind_eq_err.1 herr with hmove | ⟨_, c₁, -, hpush⟩
    · obtain ⟨r, henter, rfl⟩ := zoom_eq_err.1 hmove
      rw [enterContainer_eq_err henter]
      exact h
    · cases hpush
  | exitContainer => cases e <;> cases hgoes

/-! ## Runs of a dissector -/

def TLVDissector.outerTypes (d : TLVDissector) : List TLVType :=
  d.containerStack.map ContainerContext.containerType

theorem dissect_exit_nil (hstack : d.containerStack = []) :
    ReaderCall.exitContainer.dissect.run d =
      (TLVDissector.onReader (TLVReader.exitContainer .notSpecified)).run d := by
  have hpop : TLVDissector.popContainer.run d = .ok .notSpecified d := by
    rw [TLVDissector.popContainer, get_bind, hstack]
    rfl
  rw [ReaderCall.dissect, TLVDissector.exitContainer, bind_ok hpop]

theorem InPlace.dissect_next_ok (hshort : NoLongString data)
    (h : InPlace data d.outerTypes d.reader) (hok : TLVDissector.next.run d = .ok () d') :
    InPlace data d'.outerTypes d'.reader ∧ ∃ q e, On data q d'.reader ∧
      Scan data 0 q d.outerTypes.length ∧ Extent data q e := by
  obtain ⟨t, r, s, hskip, hnext, hcopy, rfl⟩ := nextBy_eq_ok.1 hok
  rw [← next_skip hskip] at hnext
  obtain ⟨hr, -, q, hon, hscan, -⟩ := h.next_ok hshort hnext
  exact ⟨hr, q, s.readPoint, hon, hscan, (hon.skip_ok hshort hscan hcopy).1⟩

/-- The end comes from the reader, never from the copy that measures the element. -/
theorem InPlace.dissect_next_end (hshort : NoLongString data)
    (h : InPlace data d.outerTypes d.reader) (hmeets : ¬ RunsOutDissecting data d.reader .next)
    (herr : TLVDissector.next.run d = .err .endOfTLV d') :
    InPlace data d'.outerTypes d'.reader ∧ RealEnd data d.outerTypes.length d'.reader := by
  have hreader : ¬ RunsOut data d.reader .next := fun hout => hmeets (.inl hout)
  rcases nextBy_eq_err herr with ⟨t, hskip, rfl⟩ | ⟨t, r, hskip, rfl, hnext | ⟨hnext, s, hcopy⟩⟩
  · have hnext : TLVReader.next.run d.reader = .err .endOfTLV t := by
      rw [TLVReader.next, bind_err hskip]
    exact h.next_end hshort hreader hnext
  · rw [← next_skip hskip] at hnext
    exact h.next_end hshort hreader hnext
  · rw [← next_skip hskip] at hnext
    obtain ⟨hr, hend, q, hon, -, hbehind⟩ := h.next_ok hshort hnext
    exfalso
    rcases hr.skip_end hshort hcopy with ⟨hend', -⟩ | ⟨hcont, hcut⟩
    · exact hend hend'
    · rw [hon.elementType_eq] at hcont
      rw [hon.readPoint_eq] at hcut
      exact hmeets (.inr ⟨q, hbehind, hcont, hcut⟩)

theorem InPlace.dissect_ok (hshort : NoLongString data) (h : InPlace data d.outerTypes d.reader)
    (hok : call.dissect.run d = .ok () d') : InPlace data d'.outerTypes d'.reader := by
  cases call with
  | next => exact (h.dissect_next_ok hshort hok).1
  | skip =>
    obtain ⟨r, hskip, rfl⟩ := onReader_eq_ok.1 hok
    exact (h.skip_ok hshort hskip).1
  | enterContainer =>
    obtain ⟨hcont, rfl⟩ := enterContainer_tlv_eq_ok.1 hok
    exact h.enter (enterContainer_run hcont)
  | exitContainer =>
    cases hstack : d.containerStack with
    | nil =>
      rw [dissect_exit_nil hstack] at hok
      obtain ⟨r, hexit, -⟩ := onReader_eq_ok.1 hok
      rw [TLVDissector.outerTypes, hstack] at h
      exact absurd hexit (h.exit_outermost hshort)
    | cons context stack =>
      obtain ⟨s, hfound, rfl⟩ := (exitContainer_tlv_eq_ok hstack).1 hok
      rw [TLVDissector.outerTypes, hstack] at h
      exact h.exit hshort (exitContainer_eq_ok.2 ⟨s, hfound, rfl⟩)

theorem InPlace.dissect_err {e : MatterError} (hshort : NoLongString data)
    (h : InPlace data d.outerTypes d.reader) (hmeets : ¬ RunsOutDissecting data d.reader call)
    (hgoes : call.goesOn e = true) (herr : call.dissect.run d = .err e d') :
    InPlace data d'.outerTypes d'.reader := by
  cases call with
  | next =>
    cases e <;> cases hgoes
    exact (h.dissect_next_end hshort hmeets herr).1
  | skip =>
    cases e <;> cases hgoes
    obtain ⟨r, hskip, rfl⟩ := onReader_eq_err.1 herr
    exact h.skip_goesOn hshort hmeets hskip
  | enterContainer =>
    rcases bind_eq_err.1 herr with hmove | ⟨_, d₁, -, hpush⟩
    · obtain ⟨r, henter, rfl⟩ := onReader_eq_err.1 hmove
      rw [enterContainer_eq_err henter]
      exact h
    · cases hpush
  | exitContainer => cases e <;> cases hgoes

end

/-! ## The end is real -/

/-- What the end of the buffer does to a call of `next` from `s`, inside `depth` containers: it is
reported as an end where it is one, an element that `Next` returns is all there, and wherever else
more bytes would have led to another result, the result is an underrun. -/
structure EndIsReal {σ : Type} (data : List UInt8) (depth : Nat) (whole : Nat → Prop)
    (next : Prog MatterError Fault σ Unit) (reader : σ → TLVReader)
    (extend : List UInt8 → σ → σ) (s : σ) : Prop where
  real : ∀ s', next.run s = .err .endOfTLV s' → RealEnd data depth (reader s')
  read : ∀ s', next.run s = .ok () s' →
    ∃ q, On data q (reader s') ∧ Scan data 0 q depth ∧ whole q
  underrun : ∀ e s' more, next.run s = .err e s' → (data ++ more).length < 2 ^ 32 →
    next.run (extend more s) ≠ .err e (extend more s') →
      e = .tlvUnderrun ∨ RealEnd data depth (reader s')

/-- In every run of a reader and of a dissector whose calls meet a condition. -/
def EndsAreReal (data : List UInt8) (meets meetsDissecting : TLVReader → ReaderCall → Prop) :
    Prop :=
  (∀ calls c, Run ReaderCall.perform ReaderCall.goesOn (fun call c => meets c.reader call)
      (ReaderClient.init data) calls c → meets c.reader .next →
    EndIsReal data c.outerTypes.length (fun q => valueEnd data q ≤ data.length)
      TLVReader.next id extend c.reader) ∧
  (∀ base calls d, Run ReaderCall.dissect ReaderCall.goesOn
      (fun call d => meetsDissecting d.reader call) (TLVDissector.init data data.length base)
      calls d → meetsDissecting d.reader .next →
    EndIsReal data d.outerTypes.length (fun q => ∃ e, Extent data q e)
      TLVDissector.next TLVDissector.reader extendTlv d)

/-- An underrun, or an end. -/
theorem underrun_of_follows {σ : Type} {x : Prog MatterError Fault σ Unit} {f : σ → σ} {s s' : σ}
    {e : MatterError} {real : Prop} (hfollows : Follows f NoMoreData x s)
    (herr : x.run s = .err e s') (hmore : x.run (f s) ≠ .err e (f s'))
    (hreal : e = .endOfTLV → real) : e = .tlvUnderrun ∨ real := by
  rcases hfollows.err herr with (hunder | hend) | hsame
  · exact .inl hunder
  · exact .inr (hreal hend)
  · exact absurd hsame hmore

theorem InPlace.next_endIsReal {data : List UInt8} {outerTypes : List TLVType} {r : TLVReader}
    (hshort : NoLongString data) (h : InPlace data outerTypes r)
    (hmeets : ¬ RunsOut data r .next) :
    EndIsReal data outerTypes.length (fun q => valueEnd data q ≤ data.length)
      TLVReader.next id extend r where
  real := fun r' herr => (h.next_end hshort hmeets herr).2
  read := fun r' hok => by
    obtain ⟨-, -, q, hon, hscan, -⟩ := h.next_ok hshort hok
    exact ⟨q, hon, hscan, (hon.skipData_eq (hshort q _ hscan)).1⟩
  underrun := fun e r' more herr hlen hmore => by
    refine underrun_of_follows (next_follows h.inBounds hlen) herr hmore fun hend => ?_
    subst hend
    exact (h.next_end hshort hmeets herr).2

theorem InPlace.dissector_endIsReal {data : List UInt8} {d : TLVDissector}
    (hshort : NoLongString data) (h : InPlace data d.outerTypes d.reader)
    (hmeets : ¬ RunsOutDissecting data d.reader .next) :
    EndIsReal data d.outerTypes.length (fun q => ∃ e, Extent data q e)
      TLVDissector.next TLVDissector.reader extendTlv d where
  real := fun d' herr => (h.dissect_next_end hshort hmeets herr).2
  read := fun d' hok => by
    obtain ⟨-, q, e, hon, hscan, hextent⟩ := h.dissect_next_ok hshort hok
    exact ⟨q, hon, hscan, e, hextent⟩
  underrun := fun e d' more herr hlen hmore => by
    refine underrun_of_follows (dissector_next_follows h.inBounds hlen) herr hmore fun hend => ?_
    subst hend
    exact (h.dissect_next_end hshort hmeets herr).2

/-- In a buffer without a string that is too long, in every run whose calls do not meet the end of
the buffer between two elements of a container. -/
theorem endsAreReal_of_meets (data : List UInt8) (hlen : data.length < 2 ^ 32)
    (hshort : NoLongString data) :
    EndsAreReal data (fun r call => ¬ RunsOut data r call)
      (fun r call => ¬ RunsOutDissecting data r call) := by
  constructor
  · intro calls c hrun hmeets
    have hplace : InPlace data c.outerTypes c.reader :=
      hrun.invariant (fun c => InPlace data c.outerTypes c.reader) (InPlace.init hlen)
        (fun _ _ _ _ h _ hok => h.perform_ok hshort hok)
        (fun _ _ _ _ h hmeets hgoes herr => h.perform_err hshort hmeets hgoes herr)
    exact hplace.next_endIsReal hshort hmeets
  · intro base calls d hrun hmeets
    have hplace : InPlace data d.outerTypes d.reader :=
      hrun.invariant (fun d => InPlace data d.outerTypes d.reader) (InPlace.init hlen)
        (fun _ _ _ _ h _ hok => h.dissect_ok hshort hok)
        (fun _ _ _ _ h hmeets hgoes herr => h.dissect_err hshort hmeets hgoes herr)
    exact hplace.dissector_endIsReal hshort hmeets

theorem Behind.eq_of_cleared {data : List UInt8} {r : TLVReader} {p : Nat} (hclear : Cleared r)
    (h : Behind data r p) : p = r.readPoint := by
  cases h with
  | value =>
    rw [if_neg]
    · rfl
    · rw [hclear]
      decide
  | container hcont =>
    rw [hclear] at hcont
    exact absurd hcont (by decide)

/-- Between two elements `Next` runs out only where nothing is left. -/
theorem not_runsOut_of_cleared {data : List UInt8} {r : TLVReader} (hclear : Cleared r)
    (hleft : r.readPoint ≠ data.length) : ¬ RunsOut data r .next := by
  rintro (⟨hcont, -⟩ | ⟨-, hbehind⟩)
  · rw [hclear] at hcont
    exact absurd hcont (by decide)
  · exact hleft (hbehind.eq_of_cleared hclear).symm

theorem noLongString_of_types {data : List UInt8}
    (h : ∀ p, tlvTypeHasLength (typeAt data p) = false) : NoLongString data := by
  intro p n _ hlong
  have hlen := hlong.1
  rw [h p] at hlen
  cases hlen

/-- An empty structure, and a client that has entered it. -/
theorem endsAreReal_of_meets_struct :
    EndsAreReal [0x15, 0x18] (fun r call => ¬ RunsOut [0x15, 0x18] r call)
      (fun r call => ¬ RunsOutDissecting [0x15, 0x18] r call) ∧
    ∃ c, Run ReaderCall.perform ReaderCall.goesOn
        (fun call c => ¬ RunsOut [0x15, 0x18] c.reader call) (ReaderClient.init [0x15, 0x18])
        [.next, .enterContainer] c ∧
      ¬ RunsOut [0x15, 0x18] c.reader .next ∧
      ∃ r', TLVReader.next.run c.reader = .err .endOfTLV r' := by
  have hshort : NoLongString [0x15, 0x18] := noLongString_of_types fun p => by
    rcases p with _ | _ | p
    · decide
    · decide
    · simp only [typeAt, controlAt, List.drop_succ_cons, List.drop_nil]
      decide
  refine ⟨endsAreReal_of_meets [0x15, 0x18] (by decide) hshort, _, .ok (.ok .start ?_ rfl) ?_ rfl,
    ?_, _, rfl⟩
  · exact not_runsOut_of_cleared (by unfold Cleared; decide) (by decide)
  · exact id
  · exact not_runsOut_of_cleared (by unfold Cleared; decide) (by decide)

/-- A structure that is opened and not closed: a client that has entered it, and a dissector on its
way to it, are told that they are at an end. -/
theorem not_endsAreReal_unclosed :
    ¬ EndsAreReal [0x15] (fun _ _ => True) (fun _ _ => True) ∧
    (∃ d', TLVDissector.next.run (TLVDissector.init [0x15] 1 0) = .err .endOfTLV d' ∧
      ¬ RealEnd [0x15] 0 d'.reader) := by
  -- where the scan of the one byte can be
  have hplaces : ∀ {q n : Nat}, Scan [0x15] 0 q n → q = 0 ∧ n = 0 ∨ q = 1 ∧ n = 1 := by
    intro q n h
    induction h with
    | start => exact .inl ⟨rfl, rfl⟩
    | value _ hvalue hfit ih =>
      rcases ih with ⟨rfl, -⟩ | ⟨rfl, -⟩
      · exact absurd hvalue.2.1 (by decide)
      · exact absurd hfit (by decide)
    | enter _ hcont hfit ih =>
      rcases ih with ⟨rfl, rfl⟩ | ⟨rfl, -⟩
      · exact .inr ⟨rfl, rfl⟩
      · exact absurd hfit (by decide)
    | leave _ hend hfit ih =>
      rcases ih with ⟨rfl, -⟩ | ⟨rfl, -⟩
      · exact absurd hend (by decide)
      · exact absurd hfit (by decide)
  constructor
  · intro hclaim
    have hrun : ∃ c r', Run ReaderCall.perform ReaderCall.goesOn (fun _ _ => True)
        (ReaderClient.init [0x15]) [.next, .enterContainer] c ∧
        TLVReader.next.run c.reader = .err .endOfTLV r' ∧ c.outerTypes.length = 1 ∧
        r'.elementType ≠ ElementType.endOfContainer :=
      ⟨_, _, .ok (.ok .start trivial rfl) trivial rfl, rfl, rfl, by decide⟩
    obtain ⟨c, r', hrun, hnext, hdepth, htype⟩ := hrun
    have hreal := (hclaim.1 _ c hrun trivial).real r' hnext
    rw [hdepth] at hreal
    cases hreal with
    | endOfContainer _ _ _ hread => exact htype hread
    | exhausted hout => cases hout
  · refine ⟨_, rfl, fun hreal => ?_⟩
    cases hreal with
    | endOfContainer hin => exact absurd hin (by decide)
    | exhausted _ hscan => rcases hplaces hscan with ⟨h, -⟩ | ⟨-, h⟩ <;> cases h

/-- A client that calls `Next` once more after the underrun in a head is told of an end too. -/
example : ∃ r r', TLVReader.next.run (TLVReader.init [0x24] 1) = .err .tlvUnderrun r ∧
    TLVReader.next.run r = .err .endOfTLV r' := ⟨_, _, rfl, rfl⟩

end Matter.TLV
