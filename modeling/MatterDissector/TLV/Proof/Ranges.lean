import Mathlib.Data.List.Chain
import MatterDissector.TLV.Proof.Contract
import MatterDissector.TLV.Proof.InPlace

/-!
# The ranges of the elements

`dissect_exact_iff`: one recursive walk, run with a plain reader and with a dissector. Where the
first succeeds the second does too and sees the same elements, and the range that it has for each
is that of its bytes exactly if no string on the way has a length of 2^32 or more. `Mirrors` is
what one walk says about the other, element by element; `Spans` lays the members side by side.
-/

namespace Matter.TLV

open Prog TLVReader

/-! ## The walk -/

/-- What a walk notes of an element on arrival and, a container, when it has left it. -/
inductive Tree (α : Type) where
  | node (arrived left : α) (members : List (Tree α))
  deriving Repr

namespace Tree

variable {α β : Type} {P Q : α → Prop}

def arrived : Tree α → α
  | .node a _ _ => a

mutual

def map (f : α → β) : Tree α → Tree β
  | .node arrived left members => .node (f arrived) (f left) (mapAll f members)

def mapAll (f : α → β) : List (Tree α) → List (Tree β)
  | [] => []
  | t :: ts => t.map f :: mapAll f ts

end

mutual

/-- `P` of every element on arrival. -/
def All (P : α → Prop) : Tree α → Prop
  | .node arrived _ members => P arrived ∧ AllOf P members

def AllOf (P : α → Prop) : List (Tree α) → Prop
  | [] => True
  | t :: ts => t.All P ∧ AllOf P ts

end

mutual

theorem All.imp (h : ∀ a, P a → Q a) : ∀ t : Tree α, t.All P → t.All Q
  | .node _ _ members, hall => ⟨h _ hall.1, AllOf.imp h members hall.2⟩

theorem AllOf.imp (h : ∀ a, P a → Q a) : ∀ ts : List (Tree α), AllOf P ts → AllOf Q ts
  | [], _ => trivial
  | t :: ts, hall => ⟨All.imp h t hall.1, AllOf.imp h ts hall.2⟩

end

mutual

theorem All.and : ∀ t : Tree α, t.All P → t.All Q → t.All fun a => P a ∧ Q a
  | .node _ _ members, hp, hq => ⟨⟨hp.1, hq.1⟩, AllOf.and members hp.2 hq.2⟩

theorem AllOf.and : ∀ ts : List (Tree α), AllOf P ts → AllOf Q ts → AllOf (fun a => P a ∧ Q a) ts
  | [], _, _ => trivial
  | t :: ts, hp, hq => ⟨All.and t hp.1 hq.1, AllOf.and ts hp.2 hq.2⟩

end

mutual

theorem all_map {P : β → Prop} (f : α → β) : ∀ t : Tree α, (t.map f).All P ↔ t.All (P ∘ f)
  | .node _ _ members => and_congr Iff.rfl (allOf_map f members)

theorem allOf_map {P : β → Prop} (f : α → β) :
    ∀ ts : List (Tree α), AllOf P (mapAll f ts) ↔ AllOf (P ∘ f) ts
  | [] => Iff.rfl
  | t :: ts => and_congr (all_map f t) (allOf_map f ts)

end

end Tree

/-- A class with the calls of a walk. -/
structure Walker (σ κ α : Type) where
  next : Prog MatterError Fault σ Unit
  enter : Prog MatterError Fault σ κ
  exit : κ → Prog MatterError Fault σ Unit
  elementType : σ → Nat
  look : σ → α

namespace Walker

section
variable {σ κ α : Type} (w : Walker σ κ α)

mutual

/-- The element that the walk is on. -/
def elem : Nat → Prog MatterError Fault σ (Tree α)
  | 0 => stop .outOfFuel
  | fuel + 1 => do
    let s ← get
    if tlvTypeIsContainer (w.elementType s) then
      let outer ← w.enter
      let members ← members fuel
      w.exit outer
      let left ← gets w.look
      pure (.node (w.look s) left members)
    else pure (.node (w.look s) (w.look s) [])

/-- `Next` until `MATTER_END_OF_TLV`. -/
def members : Nat → Prog MatterError Fault σ (List (Tree α))
  | 0 => stop .outOfFuel
  | fuel + 1 => do
    match ← attempt w.next with
    | .error .endOfTLV => pure []
    | .error e => throw e
    | .ok () =>
      let t ← elem fuel
      let ts ← members fuel
      pure (t :: ts)

end

variable {w} {s e : σ} {fuel : Nat} {t : Tree α} {ts : List (Tree α)}

theorem elem_value (h : tlvTypeIsContainer (w.elementType s) = false) :
    (w.elem (fuel + 1)).run s = .ok (.node (w.look s) (w.look s) []) s := by
  rw [elem, get_bind, if_neg (by simp [h])]
  rfl

theorem elem_container (h : tlvTypeIsContainer (w.elementType s) = true) :
    (w.elem (fuel + 1)).run s = .ok t e ↔ ∃ outer s₁ ts s₂, w.enter.run s = .ok outer s₁ ∧
      (w.members fuel).run s₁ = .ok ts s₂ ∧ (w.exit outer).run s₂ = .ok () e ∧
      t = .node (w.look s) (w.look e) ts := by
  rw [elem, get_bind, if_pos h, bind_eq_ok]
  constructor
  · rintro ⟨outer, s₁, henter, hrun⟩
    obtain ⟨ts, s₂, hmembers, hrun⟩ := bind_eq_ok.1 hrun
    obtain ⟨_, s₃, hexit, hrun⟩ := bind_eq_ok.1 hrun
    cases hrun
    exact ⟨outer, s₁, ts, s₂, henter, hmembers, hexit, rfl⟩
  · rintro ⟨outer, s₁, ts, s₂, henter, hmembers, hexit, rfl⟩
    refine ⟨outer, s₁, henter, ?_⟩
    rw [bind_ok hmembers, bind_ok hexit]
    rfl

theorem members_eq_ok : (w.members (fuel + 1)).run s = .ok ts e ↔
    w.next.run s = .err .endOfTLV e ∧ ts = [] ∨ ∃ s₁ t s₂ ts', w.next.run s = .ok () s₁ ∧
      (w.elem fuel).run s₁ = .ok t s₂ ∧ (w.members fuel).run s₂ = .ok ts' e ∧ ts = t :: ts' := by
  rw [members]
  cases hnext : w.next.run s with
  | ok _ s₁ =>
    rw [bind_ok (attempt_ok hnext)]
    constructor
    · intro hrun
      obtain ⟨t, s₂, helem, hrun⟩ := bind_eq_ok.1 hrun
      obtain ⟨ts', s₃, hmembers, hrun⟩ := bind_eq_ok.1 hrun
      cases hrun
      exact .inr ⟨s₁, t, s₂, ts', rfl, helem, hmembers, rfl⟩
    · rintro (⟨herr, -⟩ | ⟨s₁', t, s₂, ts', hs, helem, hmembers, rfl⟩)
      · cases herr
      · cases hs
        show ((w.elem fuel) >>= _).run s₁ = _
        rw [bind_ok helem, bind_ok hmembers]
        rfl
  | err error s₁ =>
    rw [bind_ok (attempt_err hnext)]
    cases error <;> simp [and_comm, eq_comm]
  | fault f =>
    rw [run_bind, run_attempt, hnext]
    simp

end

end Walker

/-- What both classes tell of an element. -/
structure Seen where
  elemType : Nat
  type : TLVType
  tag : Nat
  lenOrVal : Nat
  deriving DecidableEq, Repr

/-- What a dissector tells: the range as well. -/
structure SeenRange where
  seen : Seen
  start : Nat
  len : Nat
  deriving DecidableEq, Repr

def SeenRange.stop (x : SeenRange) : Nat := x.start + x.len

def seenBy (r : TLVReader) : Seen := ⟨r.elementType, r.getType, r.getTag, r.elemLenOrVal⟩

def rangeSeenBy (d : TLVDissector) : SeenRange := ⟨seenBy d.reader, d.elemStart, d.elemLen⟩

/-- The walk with a plain reader. -/
def plainWalk : Walker TLVReader TLVType Seen where
  next := TLVReader.next
  enter := enterContainer
  exit := exitContainer
  elementType := elementType
  look := seenBy

/-- The walk with a dissector. -/
def dissectorWalk : Walker TLVDissector Unit SeenRange where
  next := TLVDissector.next
  enter := TLVDissector.enterContainer
  exit := fun _ => TLVDissector.exitContainer
  elementType := fun d => d.reader.elementType
  look := rangeSeenBy

/-! ## Exact ranges -/

/-- The string that is seen, if it is one, has a length of less than 2^32. -/
def Seen.Short (x : Seen) : Prop := tlvTypeHasLength x.elemType = true → x.lenOrVal < 2 ^ 32

/-- Siblings lie side by side. -/
def Adjacent (ts : List (Tree SeenRange)) : Prop :=
  ts.IsChain fun a b => a.arrived.stop = b.arrived.start

mutual

/-- The range of an element is that of its bytes, also when the walk has left it, and the ranges of
its members lie side by side strictly inside. -/
def ExactTree (data : List UInt8) : Tree SeenRange → Prop
  | .node arrived left members =>
    Extent data arrived.start arrived.stop ∧
    (left.start = arrived.start ∧ left.len = arrived.len) ∧
    (∀ m ∈ members, arrived.start < m.arrived.start ∧ m.arrived.stop < arrived.stop) ∧
    Adjacent members ∧ ExactTrees data members

def ExactTrees (data : List UInt8) : List (Tree SeenRange) → Prop
  | [] => True
  | t :: ts => ExactTree data t ∧ ExactTrees data ts

end

/-- The walk with a dissector succeeds, sees `xs`, and has exact ranges for all of it. -/
def DissectsExactly (data : List UInt8) (base fuel : Nat) (xs : List (Tree Seen)) : Prop :=
  ∃ ys d', (dissectorWalk.members fuel).run (TLVDissector.init data data.length base) =
      .ok ys d' ∧
    Tree.mapAll SeenRange.seen ys = xs ∧ Adjacent ys ∧ ExactTrees data ys

section
variable {data : List UInt8} {p q b n fuel : Nat} {r e s t c : TLVReader} {d : TLVDissector}
  {x : Tree Seen} {xs : List (Tree Seen)} {ts : List (Tree SeenRange)} {outer : TLVType}

/-- The members from `p` to `b`, side by side, each with an exact range. -/
inductive Spans (data : List UInt8) : Nat → Nat → List (Tree SeenRange) → Prop where
  | nil (p : Nat) : Spans data p p []
  | cons {b : Nat} {t : Tree SeenRange} {ts : List (Tree SeenRange)}
      (hextent : Extent data t.arrived.start t.arrived.stop) (hexact : ExactTree data t)
      (h : Spans data t.arrived.stop b ts) : Spans data t.arrived.start b (t :: ts)

theorem Spans.scan (h : Spans data p b ts) : Scan data p b 0 := by
  induction h with
  | nil p => exact .start
  | cons hextent _ _ ih => exact hextent.scan.trans ih

theorem Spans.bounds (h : Spans data p b ts) :
    ∀ m ∈ ts, p ≤ m.arrived.start ∧ m.arrived.stop ≤ b := by
  induction h with
  | nil p => simp
  | @cons b t ts hextent _ hrest ih =>
    intro m hm
    have hlt := hextent.lt
    rcases List.mem_cons.1 hm with rfl | hm
    · exact ⟨Nat.le_refl _, hrest.scan.le⟩
    · have := ih m hm
      omega

theorem Spans.exact (h : Spans data p b ts) : ExactTrees data ts := by
  induction h with
  | nil p => trivial
  | cons _ hexact _ ih => exact ⟨hexact, ih⟩

theorem Spans.start_eq {t : Tree SeenRange} (h : Spans data p b (t :: ts)) :
    t.arrived.start = p := by
  cases h
  rfl

theorem Spans.adjacent (h : Spans data p b ts) : Adjacent ts := by
  induction h with
  | nil p => exact .nil
  | @cons b t ts _ _ hrest ih =>
    cases ts with
    | nil => exact .singleton t
    | cons t' ts => exact .cons_cons hrest.start_eq.symm ih

/-! ## The plain walk is the walk -/

mutual

theorem plainWalk_elem : ∀ (fuel : Nat) {r e : TLVReader} {x : Tree Seen},
    (plainWalk.elem fuel).run r = .ok x e → (walkElem fuel).run r = .ok () e
  | 0, _, _, _, hok => by cases hok
  | fuel + 1, r, e, x, hok => by
    by_cases hcont : tlvTypeIsContainer r.elementType = true
    · obtain ⟨outer, s₁, ts, s₂, henter, hmembers, hexit, -⟩ :=
        (Walker.elem_container (w := plainWalk) hcont).1 hok
      have houter : outer = r.containerType := (enterContainer_eq_ok.1 henter).2.1
      subst houter
      exact (walkElem_container hcont).2 ⟨s₁, s₂, henter, plainWalk_members fuel hmembers, hexit⟩
    · rw [Bool.not_eq_true] at hcont
      rw [Walker.elem_value (w := plainWalk) hcont] at hok
      cases hok
      exact walkElem_value fuel hcont

theorem plainWalk_members : ∀ (fuel : Nat) {r e : TLVReader} {xs : List (Tree Seen)},
    (plainWalk.members fuel).run r = .ok xs e → (walkOn fuel).run r = .ok () e
  | 0, _, _, _, hok => by cases hok
  | fuel + 1, r, e, xs, hok => by
    rcases Walker.members_eq_ok.1 hok with ⟨hend, -⟩ | ⟨s₁, t, s₂, ts, hnext, helem, hrest, -⟩
    · exact walkOn_eq_ok.2 (.inl hend)
    · exact walkOn_eq_ok.2
        (.inr ⟨s₁, s₂, hnext, plainWalk_elem fuel helem, plainWalk_members fuel hrest⟩)

end

/-! ## The dissector beside the reader -/

/-- The head of the element is where its range starts. -/
def HeadAt (data : List UInt8) (x : SeenRange) : Prop :=
  typeAt data x.start = x.seen.elemType ∧ fieldAt data x.start = x.seen.lenOrVal

/-- Where the members are over: on the end of a container at `b`, or where nothing is left. -/
def MembersOver (data : List UInt8) (b : Nat) (s : TLVReader) : Prop :=
  On data b s ∧ typeAt data b = ElementType.endOfContainer ∨
    InBounds data s ∧ Cleared s ∧ s.readPoint = data.length

/-- On the element at `p`, whose end `MarkElemLength` has found with a copy that got to `c`. -/
structure Measured (data : List UInt8) (p : Nat) (c : TLVReader) (d : TLVDissector) : Prop where
  on : On data p d.reader
  noEnd : d.reader.elementType ≠ ElementType.endOfContainer
  skips : skip.run d.reader = .ok () c
  start_eq : d.elemStart = p
  stop_eq : d.elemStart + d.elemLen = c.readPoint

/-- What the walk with a dissector makes of an element that the plain walk sees as `x`. -/
structure ElemMirrored (data : List UInt8) (fuel : Nat) (d : TLVDissector) (x : Tree Seen)
    (e : TLVReader) (y : Tree SeenRange) : Prop where
  run_eq : (dissectorWalk.elem fuel).run d = .ok y { d with reader := e }
  arrived_eq : y.arrived = rangeSeenBy d
  seen_eq : y.map SeenRange.seen = x
  heads : y.All (HeadAt data)
  exact : x.All Seen.Short → ExactTree data y

/-- What it makes of members that the plain walk sees as `xs`. -/
structure MembersMirrored (data : List UInt8) (fuel : Nat) (d : TLVDissector)
    (xs : List (Tree Seen)) (s : TLVReader) (ys : List (Tree SeenRange)) (d' : TLVDissector) :
    Prop where
  run_eq : (dissectorWalk.members fuel).run d = .ok ys d'
  reader_eq : d'.reader = s
  containerStack_eq : d'.containerStack = d.containerStack
  sourceBufBaseOffset_eq : d'.sourceBufBaseOffset = d.sourceBufBaseOffset
  seen_eq : Tree.mapAll SeenRange.seen ys = xs
  heads : Tree.AllOf (HeadAt data) ys
  spans : ∀ t, skip.run d.reader = .ok () t → Tree.AllOf Seen.Short xs →
    ∃ b, Spans data t.readPoint b ys ∧ MembersOver data b s

/-- Over a value whose head has been read, `Skip` always gets. -/
theorem On.skip_value (hon : On data p r) (hvalue : OnValue r) : ∃ c, skip.run r = .ok () c := by
  have hunread := hon.inBounds.unread_eq
  have hpoint := hon.readPoint_eq
  have hdata : ∃ s, skipData.run r = .ok () s := by
    by_cases hlen : tlvTypeHasLength r.elementType = true
    · have hfits := hon.fits (by rw [← hon.elementType_eq]; exact hlen)
      refine ⟨r.advance (r.elemLenOrVal % 2 ^ 32), ?_⟩
      rw [TLV.skipData_eq hon.inBounds, if_pos hlen, if_pos]
      rw [hon.elemLenOrVal_eq]
      omega
    · rw [Bool.not_eq_true] at hlen
      exact ⟨r, skipData_none hlen⟩
  obtain ⟨s, hdata⟩ := hdata
  exact ⟨_, skip_eq_ok.2 (.value s hvalue.1 hvalue.2 hdata rfl)⟩

theorem readPoint_le_of_skip (h : InBounds data r) (hok : skip.run r = .ok () t) :
    r.readPoint ≤ t.readPoint := by
  have hkeep := skip_within r.unread r ⟨h, Nat.le_refl _⟩
  rw [hok] at hkeep
  have ht : InBounds data t := hkeep.1
  have hle : t.unread ≤ r.unread := hkeep.2
  have := h.unread_eq
  have := ht.unread_eq
  have := h.readPoint_le
  have := ht.readPoint_le
  omega

/-- `Next` of a dissector where the walk finds an element. -/
theorem dissector_next_measured (h : InBounds data d.reader) (ht : skip.run d.reader = .ok () t)
    (hnext : TLVReader.next.run d.reader = .ok () r) (hc : skip.run r = .ok () c) :
    ∃ d', TLVDissector.next.run d = .ok () d' ∧ d'.reader = r ∧
      d'.containerStack = d.containerStack ∧ d'.sourceBufBaseOffset = d.sourceBufBaseOffset ∧
      Measured data t.readPoint c d' := by
  have hnext' : TLVReader.next.run t = .ok () r := by
    rw [← next_skip ht]
    exact hnext
  obtain ⟨t', hskip', hread, hend⟩ := next_eq_ok.1 hnext
  rw [ht] at hskip'
  cases hskip'
  have hin := skip_inBounds h ht
  have hon := readElement_on hin hread
  have hc' := skip_inBounds hon.inBounds hc
  have hle : t.readPoint ≤ c.readPoint := by
    have h₁ := readPoint_le_of_skip hon.inBounds hc
    have h₂ := lt_headEnd data t.readPoint
    rw [hon.readPoint_eq] at h₁
    omega
  have hlen : sub32 c.lenRead t.lenRead = c.readPoint - t.readPoint := by
    have h₁ := hc'.readPoint_le
    have h₂ := hc'.length_lt
    rw [← hc'.readPoint_eq, ← hin.readPoint_eq, sub32_of_le hle (by omega)]
  refine ⟨_, nextBy_eq_ok.2 ⟨t, r, c, ht, hnext', hc, rfl⟩, rfl, rfl, rfl, ?_⟩
  exact {
    on := hon
    noEnd := hend
    skips := hc
    start_eq := hin.readPoint_eq.symm
    stop_eq := by
      show t.lenRead + sub32 c.lenRead t.lenRead = c.readPoint
      rw [hlen, ← hin.readPoint_eq]
      omega }

/-- `Next` of a dissector where the walk finds no element. -/
theorem dissector_next_err {error : MatterError} (ht : skip.run d.reader = .ok () t)
    (hnext : TLVReader.next.run d.reader = .err error s) :
    TLVDissector.next.run d = .err error { marked d t with reader := s } := by
  rw [next_skip ht] at hnext
  have herr : (TLVDissector.onReader TLVReader.next).run (marked d t) =
      .err error { marked d t with reader := s } := onReader_eq_err.2 ⟨s, hnext, rfl⟩
  rw [show TLVDissector.next = TLVDissector.nextBy TLVReader.next from rfl, nextBy_run ht,
    bind_err herr]

theorem Measured.headAt (h : Measured data p c d) : HeadAt data (rangeSeenBy d) := by
  constructor
  · show typeAt data d.elemStart = d.reader.elementType
    rw [h.start_eq, h.on.elementType_eq]
  · show fieldAt data d.elemStart = d.reader.elemLenOrVal
    rw [h.start_eq, h.on.elemLenOrVal_eq]

theorem Measured.extent_value (h : Measured data p c d)
    (hcont : tlvTypeIsContainer d.reader.elementType = false)
    (hshort : (seenBy d.reader).Short) :
    Extent data (rangeSeenBy d).start (rangeSeenBy d).stop := by
  have hnot : ¬ LongString data p := fun hlong => by
    have hlen : tlvTypeHasLength d.reader.elementType = true := by
      rw [h.on.elementType_eq]
      exact hlong.1
    have hlt : d.reader.elemLenOrVal < 2 ^ 32 := hshort hlen
    rw [h.on.elemLenOrVal_eq] at hlt
    exact Nat.lt_irrefl _ (Nat.lt_of_lt_of_le hlt hlong.2.1)
  obtain ⟨hfit, k, hskip, -, hk⟩ := h.on.skipData_eq hnot
  have hc : c = (d.reader.advance k).clearElementState := by
    have hskip' := skip_eq_ok.2 (.value _ h.noEnd hcont hskip rfl)
    rw [h.skips] at hskip'
    cases hskip'
    rfl
  have hstop : d.elemStart + d.elemLen = valueEnd data p := by
    rw [h.stop_eq, hc]
    exact hk
  have htype := h.on.elementType_eq
  rw [show (rangeSeenBy d).stop = d.elemStart + d.elemLen from rfl, hstop,
    show (rangeSeenBy d).start = d.elemStart from rfl, h.start_eq]
  rw [htype] at hcont
  exact .value ⟨h.on.valid, hcont, by rw [← htype]; exact h.noEnd⟩ hfit

theorem elem_mirrored_value (h : Measured data p c d)
    (hcont : tlvTypeIsContainer d.reader.elementType = false) :
    ElemMirrored data (fuel + 1) d (.node (seenBy d.reader) (seenBy d.reader) []) d.reader
      (.node (rangeSeenBy d) (rangeSeenBy d) []) where
  run_eq := Walker.elem_value (w := dissectorWalk) hcont
  arrived_eq := rfl
  seen_eq := rfl
  heads := ⟨h.headAt, trivial⟩
  exact := fun hshort => ⟨h.extent_value hcont hshort.1, ⟨rfl, rfl⟩, by simp, .nil, trivial⟩

/-- Where nothing is left, no container ends. -/
theorem exitContainer_exhausted (h : InBounds data s) (hclear : Cleared s)
    (hleft : s.readPoint = data.length) : (exitContainer outer).run s ≠ .ok () e := by
  intro hok
  obtain ⟨u, hskip, -⟩ := exitContainer_eq_ok.1 hok
  rw [skipToEnd_cleared h hclear, readOn, bind_eq_ok] at hskip
  obtain ⟨_, u₁, hread, -⟩ := hskip
  rw [readElement_eq h, hleft, List.drop_length] at hread
  cases hread

theorem skip_of_next_end (h : InBounds data r) (hvalue : OnValue r)
    (hend : next.run r = .err .endOfTLV s) : ∃ t, skip.run r = .ok () t ∧
      MembersOver data t.readPoint s := by
  cases hskip : skip.run r with
  | ok _ t =>
    have ht := skip_inBounds h hskip
    refine ⟨t, rfl, ?_⟩
    rcases next_endOfTLV h hskip hend with ⟨hread, htype⟩ | ⟨rfl, hread⟩
    · have hon := readElement_on ht hread
      exact .inl ⟨hon, by rw [← hon.elementType_eq]; exact htype⟩
    · exact .inr ⟨ht, skip_cleared hskip,
        readPoint_eq_length ht (readElement_endOfTLV ht hread).2⟩
  | err error t =>
    rw [next, bind_err hskip] at hend
    cases hend
    exact absurd hskip (skip_ne_endOfTLV h hvalue)
  | fault f =>
    rw [next, bind_fault hskip] at hend
    cases hend

/-- Behind an element that the walk has been over, `Skip` stays where it measured its end. -/
theorem skip_behind {x : Tree Seen} (hr : InBounds data r)
    (hnot : r.elementType ≠ ElementType.endOfContainer) (hc : skip.run r = .ok () c)
    (helem : (plainWalk.elem fuel).run r = .ok x e) :
    InBounds data e ∧ OnValue e ∧ ∃ t, skip.run e = .ok () t ∧ t.readPoint = c.readPoint := by
  have hok := plainWalk_elem fuel helem
  have hwalked := walkElem_walked fuel hr hok
  refine ⟨hwalked.inBounds, onValue_of_walkElem hnot hok, ?_⟩
  by_cases hcont : tlvTypeIsContainer r.elementType = true
  · have hskip := hwalked.skip_eq hcont
    rw [hc] at hskip
    cases hskip
    exact ⟨_, skip_skip hc, rfl⟩
  · rw [Bool.not_eq_true] at hcont
    rw [hwalked.stays hcont]
    exact ⟨c, hc, rfl⟩

mutual

theorem elem_mirrored : ∀ (fuel : Nat) {p : Nat} {c e : TLVReader} {d : TLVDissector}
    {x : Tree Seen}, Measured data p c d → (plainWalk.elem fuel).run d.reader = .ok x e →
      ∃ y, ElemMirrored data fuel d x e y
  | 0, _, _, _, _, _, _, hok => by cases hok
  | fuel + 1, p, c, e, d, x, h, hok => by
    by_cases hcont : tlvTypeIsContainer d.reader.elementType = true
    · have hwalked := walkElem_walked (fuel + 1) h.on.inBounds (plainWalk_elem (fuel + 1) hok)
      have hc : c = e := by
        have hskip := hwalked.skip_eq hcont
        rw [h.skips] at hskip
        cases hskip
        rfl
      obtain ⟨outer, s₁, ts, s₂, henter, hmembers, hexit, rfl⟩ :=
        (Walker.elem_container (w := plainWalk) hcont).1 hok
      have hin := enterContainer_inBounds h.on.inBounds henter
      obtain ⟨-, rfl, rfl⟩ := enterContainer_eq_ok.1 henter
      have hclear : Cleared (entered d.reader) := cleared_clearElementState _
      obtain ⟨ys, d₂, hm⟩ := members_mirrored fuel (d := { d with
        reader := entered d.reader
        containerStack := ⟨d.reader.containerType, d.elemStart, d.elemLen⟩ :: d.containerStack })
        hin hclear.onValue hmembers
      obtain ⟨u, hfound, he⟩ := exitContainer_eq_ok.1 hexit
      rw [← hm.reader_eq] at hfound
      have hexit' : TLVDissector.exitContainer.run d₂ = .ok () { d with reader := e } := by
        refine (exitContainer_tlv_eq_ok hm.containerStack_eq).2 ⟨u, hfound, ?_⟩
        rw [hm.sourceBufBaseOffset_eq, he]
      refine ⟨.node (rangeSeenBy d) (rangeSeenBy { d with reader := e }) ys, ?_⟩
      exact {
        run_eq := (Walker.elem_container (w := dissectorWalk) hcont).2
          ⟨(), _, ys, d₂, enterContainer_tlv_eq_ok.2 ⟨hcont, rfl⟩, hm.run_eq, hexit', rfl⟩
        arrived_eq := rfl
        seen_eq := by
          rw [Tree.map, hm.seen_eq]
          rfl
        heads := ⟨h.headAt, hm.heads⟩
        exact := fun hshort => by
          obtain ⟨b, hspans, hover⟩ := hm.spans _ (skip_of_cleared hclear) hshort.2
          rw [show (entered d.reader).clearElementState.readPoint = d.reader.readPoint from rfl,
            h.on.readPoint_eq] at hspans
          rcases hover with ⟨hon, hend⟩ | ⟨hs, hclear', hleft⟩
          · have hu : u = s₂ := by
              have hstop := skipLoop_end hon.inBounds s₂.containerType
                (by rw [hon.elementType_eq, hend])
              rw [hm.reader_eq, skipToEnd_eq, hstop] at hfound
              cases hfound
              rfl
            have hstop : d.elemStart + d.elemLen = headEnd data b := by
              rw [h.stop_eq, hc, he, hu]
              exact hon.readPoint_eq
            have hlt : p < headEnd data p := lt_headEnd data p
            have hlt' : b < headEnd data b := lt_headEnd data b
            refine ⟨?_, ⟨rfl, rfl⟩, fun m hm' => ?_, hspans.adjacent, hspans.exact⟩
            · rw [show (rangeSeenBy d).stop = d.elemStart + d.elemLen from rfl, hstop,
                show (rangeSeenBy d).start = d.elemStart from rfl, h.start_eq]
              exact .container (by rw [← h.on.elementType_eq]; exact hcont) h.on.headEnd_le
                hspans.scan hend hon.headEnd_le
            · have hbounds := hspans.bounds m hm'
              have hstart : (rangeSeenBy d).start = p := h.start_eq
              have hstop' : (rangeSeenBy d).stop = headEnd data b := hstop
              omega
          · exact absurd hexit (exitContainer_exhausted hs hclear' hleft) }
    · rw [Bool.not_eq_true] at hcont
      rw [Walker.elem_value (w := plainWalk) hcont] at hok
      cases hok
      exact ⟨_, elem_mirrored_value h hcont⟩

theorem members_mirrored : ∀ (fuel : Nat) {d : TLVDissector} {s : TLVReader}
    {xs : List (Tree Seen)}, InBounds data d.reader → OnValue d.reader →
      (plainWalk.members fuel).run d.reader = .ok xs s →
      ∃ ys d', MembersMirrored data fuel d xs s ys d'
  | 0, _, _, _, _, _, hok => by cases hok
  | fuel + 1, d, s, xs, h, hvalue, hok => by
    rcases Walker.members_eq_ok.1 hok with
      ⟨hend, rfl⟩ | ⟨r, x, s₁, xs', hnext, helem, hrest, rfl⟩
    · obtain ⟨t, ht, hover⟩ := skip_of_next_end h hvalue hend
      refine ⟨[], { marked d t with reader := s }, ?_⟩
      exact {
        run_eq := Walker.members_eq_ok.2 (.inl ⟨dissector_next_err ht hend, rfl⟩)
        reader_eq := rfl
        containerStack_eq := rfl
        sourceBufBaseOffset_eq := rfl
        seen_eq := rfl
        heads := trivial
        spans := fun t' ht' _ => by
          rw [ht] at ht'
          cases ht'
          exact ⟨_, .nil _, hover⟩ }
    · obtain ⟨t, ht, -, hnot⟩ := next_eq_ok.1 hnext
      have hr := next_inBounds h hnext
      have hc : ∃ c, skip.run r = .ok () c := by
        by_cases hcont : tlvTypeIsContainer r.elementType = true
        · exact ⟨s₁, (walkElem_walked fuel hr (plainWalk_elem fuel helem)).skip_eq hcont⟩
        · rw [Bool.not_eq_true] at hcont
          obtain ⟨t', ht', hread, -⟩ := next_eq_ok.1 hnext
          exact (readElement_on (skip_inBounds h ht') hread).skip_value ⟨hnot, hcont⟩
      obtain ⟨c, hc⟩ := hc
      obtain ⟨d₁, hnext₁, rfl, hstack, hbase, hmeasured⟩ := dissector_next_measured h ht hnext hc
      obtain ⟨y, hy⟩ := elem_mirrored fuel hmeasured helem
      obtain ⟨hs₁, hvalue₁, t₂, ht₂, hpoint⟩ := skip_behind hr hnot hc helem
      obtain ⟨ys, d', hys⟩ := members_mirrored fuel (d := { d₁ with reader := s₁ }) hs₁ hvalue₁
        hrest
      refine ⟨y :: ys, d', ?_⟩
      exact {
        run_eq := Walker.members_eq_ok.2
          (.inr ⟨d₁, y, _, ys, hnext₁, hy.run_eq, hys.run_eq, rfl⟩)
        reader_eq := hys.reader_eq
        containerStack_eq := hys.containerStack_eq.trans hstack
        sourceBufBaseOffset_eq := hys.sourceBufBaseOffset_eq.trans hbase
        seen_eq := by rw [Tree.mapAll, hy.seen_eq, hys.seen_eq]
        heads := ⟨hy.heads, hys.heads⟩
        spans := fun t' ht' hshort => by
          rw [ht] at ht'
          cases ht'
          obtain ⟨b, hspans, hover⟩ := hys.spans t₂ ht₂ hshort.2
          have hexact := hy.exact hshort.1
          have hextent : Extent data y.arrived.start y.arrived.stop := by
            cases y
            exact hexact.1
          have hstart : y.arrived.start = t.readPoint := by
            rw [hy.arrived_eq]
            exact hmeasured.start_eq
          have hstop : y.arrived.stop = t₂.readPoint := by
            rw [hy.arrived_eq, hpoint]
            exact hmeasured.stop_eq
          rw [← hstop] at hspans
          rw [← hstart]
          exact ⟨b, .cons hextent hexact hspans, hover⟩ }

end

/-! ## Exact, and when -/

mutual

theorem extents_of_exact : ∀ y : Tree SeenRange, ExactTree data y →
    y.All fun v => Extent data v.start v.stop
  | .node _ _ members, h => ⟨h.1, extents_of_exactTrees members h.2.2.2.2⟩

theorem extents_of_exactTrees : ∀ ys : List (Tree SeenRange), ExactTrees data ys →
    Tree.AllOf (fun v => Extent data v.start v.stop) ys
  | [], _ => trivial
  | y :: ys, h => ⟨extents_of_exact y h.1, extents_of_exactTrees ys h.2⟩

end

/-- An element with an exact range is no string of 2^32 bytes or more. -/
theorem short_of_extent (hlen : data.length < 2 ^ 32) {v : SeenRange} (hhead : HeadAt data v)
    (hextent : Extent data v.start v.stop) : v.seen.Short := by
  intro hlength
  rw [← hhead.1] at hlength
  rw [← hhead.2]
  have hle := hextent.valueEnd_le
  have hend : valueEnd data v.start = headEnd data v.start + fieldAt data v.start := by
    simp [valueEnd, hlength]
  omega

/-- From `Init`, both walks see the same; the ranges are exact if all strings are short, and only
then. -/
theorem dissects_of_plainWalk (hlen : data.length < 2 ^ 32) (base : Nat)
    (hwalk : (plainWalk.members fuel).run (TLVReader.init data data.length) = .ok xs s) :
    ∃ ys d', (dissectorWalk.members fuel).run (TLVDissector.init data data.length base) =
        .ok ys d' ∧ Tree.mapAll SeenRange.seen ys = xs ∧ Tree.AllOf (HeadAt data) ys ∧
      (Tree.AllOf Seen.Short xs → Adjacent ys ∧ ExactTrees data ys) := by
  have hclear : Cleared (TLVDissector.init data data.length base).reader := by
    unfold Cleared elementType
    exact if_pos rfl
  obtain ⟨ys, d', hm⟩ := members_mirrored fuel (d := TLVDissector.init data data.length base)
    (InBounds.init hlen) hclear.onValue hwalk
  refine ⟨ys, d', hm.run_eq, hm.seen_eq, hm.heads, fun hshort => ?_⟩
  obtain ⟨b, hspans, -⟩ := hm.spans _ (skip_of_cleared hclear) hshort
  exact ⟨hspans.adjacent, hspans.exact⟩

theorem short_of_dissectsExactly (hlen : data.length < 2 ^ 32) {base : Nat}
    (hwalk : (plainWalk.members fuel).run (TLVReader.init data data.length) = .ok xs s)
    (h : DissectsExactly data base fuel xs) : Tree.AllOf Seen.Short xs := by
  obtain ⟨ys, d', hrun, hseen, hheads, -⟩ := dissects_of_plainWalk hlen base hwalk
  obtain ⟨ys', d'', hrun', -, -, hexact⟩ := h
  rw [hrun] at hrun'
  cases hrun'
  rw [← hseen]
  refine (Tree.allOf_map SeenRange.seen ys).2 ?_
  have hboth := Tree.AllOf.and ys hheads (extents_of_exactTrees ys hexact)
  exact Tree.AllOf.imp (fun v hv => short_of_extent hlen hv.1 hv.2) ys hboth

end

/-- Where the plain walk of a buffer succeeds: the walk with a dissector succeeds, sees the same
types and tags, and has the exact range of every element, exactly if no string that the plain walk
sees has a length of 2^32 or more. -/
theorem dissect_exact_iff (data : List UInt8) (hlen : data.length < 2 ^ 32) (base fuel : Nat)
    {xs : List (Tree Seen)} {s : TLVReader}
    (hwalk : (plainWalk.members fuel).run (TLVReader.init data data.length) = .ok xs s) :
    DissectsExactly data base fuel xs ↔ Tree.AllOf Seen.Short xs := by
  constructor
  · intro hexactly
    exact short_of_dissectsExactly hlen hwalk hexactly
  · intro hshort
    obtain ⟨ys, d', hrun, hseen, -, hexact⟩ := dissects_of_plainWalk hlen base hwalk
    exact ⟨ys, d', hrun, hseen, hexact hshort⟩

/-- A structure with a byte string of two bytes, and a boolean behind it. -/
theorem dissect_exact_iff_siblings :
    ∃ xs s, (plainWalk.members 9).run (TLVReader.init [0x15, 0x30, 1, 2, 7, 8, 0x18, 0x09] 8) =
        .ok xs s ∧ Tree.AllOf Seen.Short xs ∧
      DissectsExactly [0x15, 0x30, 1, 2, 7, 8, 0x18, 0x09] 0 9 xs := by
  have hwalk : ∃ xs s, (plainWalk.members 9).run
      (TLVReader.init [0x15, 0x30, 1, 2, 7, 8, 0x18, 0x09] 8) = .ok xs s ∧
      Tree.AllOf Seen.Short xs :=
    ⟨_, _, rfl, ⟨fun h => absurd h (by decide), ⟨fun _ => by decide, trivial⟩, trivial⟩,
      ⟨fun h => absurd h (by decide), trivial⟩, trivial⟩
  obtain ⟨xs, s, hwalk, hshort⟩ := hwalk
  exact ⟨xs, s, hwalk, hshort, (dissect_exact_iff _ (by decide) 0 9 hwalk).2 hshort⟩

/-- The byte string with the length 2^32: both walks succeed, and the dissector has the range of its
head for it. -/
theorem not_dissectsExactly_longString :
    ∃ xs s, (plainWalk.members 3).run (TLVReader.init longString longString.length) =
        .ok xs s ∧ ¬ DissectsExactly longString 0 3 xs := by
  have hwalk : ∃ xs s, (plainWalk.members 3).run (TLVReader.init longString longString.length) =
      .ok xs s ∧ ¬ Tree.AllOf Seen.Short xs :=
    ⟨_, _, rfl, fun h => absurd (h.1.1 (by decide)) (by decide)⟩
  obtain ⟨xs, s, hwalk, hlong⟩ := hwalk
  refine ⟨xs, s, hwalk, fun hexactly => hlong ?_⟩
  exact short_of_dissectsExactly (by decide) hwalk hexactly

end Matter.TLV
