import MatterDissector.TLV.Proof.Contract

/-!
# Rules for element handlers

`Handles x`: on an element, `x` either meets the success contract, or a nested decode has failed
and been retried on the way, and then the dissector is left too deep (`OnTrack`). There is a rule
for every way in which handlers are put together: display calls (`Still`), sequences, containers
(`Handles.container`). The generic renderer and the list handler follow at once.
-/

namespace Matter.TLV

open Prog Dissect Display
open TLVReader (InBounds)

def DissectState.depth (s : DissectState) : Nat := s.tlv.containerStack.length

section
variable {α β : Type} {data : List UInt8} {s s' s'' : DissectState} {may : Prop}

theorem onTlv_eq_ok {x : DissectorM α} {a : α} :
    (onTlv x).run s = .ok a s' ↔ ∃ d, x.run s.tlv = .ok a d ∧ s' = { s with tlv := d } :=
  zoom_eq_ok

theorem onTlv_eq_err {x : DissectorM α} {e : MatterError} :
    (onTlv x).run s = .err e s' ↔ ∃ d, x.run s.tlv = .err e d ∧ s' = { s with tlv := d } :=
  zoom_eq_err

theorem dissect_onReader_eq_ok {x : ReaderM α} {a : α} :
    (onReader x).run s = .ok a s' ↔ ∃ r, x.run s.tlv.reader = .ok a r ∧
      s' = { s with tlv := { s.tlv with reader := r } } := by
  rw [onReader, onTlv_eq_ok]
  constructor
  · rintro ⟨d, h, rfl⟩
    obtain ⟨r, hr, rfl⟩ := onReader_eq_ok.1 h
    exact ⟨r, hr, rfl⟩
  · rintro ⟨r, hr, rfl⟩
    exact ⟨_, onReader_eq_ok.2 ⟨r, hr, rfl⟩, rfl⟩

theorem dissect_onReader_eq_err {x : ReaderM α} {e : MatterError} :
    (onReader x).run s = .err e s' ↔ ∃ r, x.run s.tlv.reader = .err e r ∧
      s' = { s with tlv := { s.tlv with reader := r } } := by
  rw [onReader, onTlv_eq_err]
  constructor
  · rintro ⟨d, h, rfl⟩
    obtain ⟨r, hr, rfl⟩ := onReader_eq_err.1 h
    exact ⟨r, hr, rfl⟩
  · rintro ⟨r, hr, rfl⟩
    exact ⟨_, onReader_eq_err.2 ⟨r, hr, rfl⟩, rfl⟩

/-! ## Programs that stay on the element -/

/-- `x` only shows something. -/
def Still (x : DissectM α) : Prop := Leaves (fun s => (s.tlv, s.retried)) x

theorem Still.ok {x : DissectM α} (h : Still x) {a : α} (hx : x.run s = .ok a s') :
    s'.tlv = s.tlv ∧ s'.retried = s.retried := by
  simpa using Leaves.ok h hx

theorem Still.err {x : DissectM α} (h : Still x) {e : MatterError} (hx : x.run s = .err e s') :
    s'.tlv = s.tlv ∧ s'.retried = s.retried := by
  simpa using Leaves.err h hx

/-- A reader method that reads without moving. -/
theorem still_onReader {x : ReaderM α} (hx : Leaves id x) : Still (onReader x) := by
  refine Leaves.intro (fun s a s' h => ?_) (fun s e s' h => ?_)
  · obtain ⟨r, hr, rfl⟩ := dissect_onReader_eq_ok.1 h
    rw [show r = s.tlv.reader from hx.ok hr]
  · obtain ⟨r, hr, rfl⟩ := dissect_onReader_eq_err.1 h
    rw [show r = s.tlv.reader from hx.err hr]

theorem still_getType : Still getType := Leaves.gets _
theorem still_getTag : Still getTag := Leaves.gets _
theorem still_getLength : Still getLength := Leaves.gets _

theorem still_checked (x : Except Fault α) : Still (checked x) := by
  cases x with
  | ok a => exact Leaves.pure a
  | error f => exact Leaves.stop f

theorem still_draw (call : Drawn) : Still (draw call) := by
  refine Leaves.bind (.gets _) fun n => Leaves.bind ?_ fun _ => .pure _
  exact Leaves.modify fun _ => rfl

theorem still_addShown (node : ProtoNode) (hfindex : HeaderField) (shown : Shown) :
    Still (addShown node hfindex shown) := Leaves.bind (.gets _) fun _ => still_draw _

theorem still_addStringItemF (node : ProtoNode) (hfindex : HeaderField) (text : Text) :
    Still (addStringItemF node hfindex text) :=
  Leaves.bind (still_addShown _ _ _) fun _ => .pure _

theorem still_addStringItemWithHeaderF (node : ProtoNode) (hfindex : HeaderField) (text : Text) :
    Still (addStringItemWithHeaderF node hfindex text) :=
  Leaves.bind (still_addShown _ _ _) fun _ => .pure _

theorem still_addSubTreeItem (node : ProtoNode) (hfindex : HeaderField) (ett : Ett) :
    Still (addSubTreeItem node hfindex ett) :=
  Leaves.bind still_getType fun _ => Leaves.bind (.verify _ _) fun _ =>
    Leaves.bind (still_addShown _ _ _) fun _ => Leaves.bind (still_draw _) fun _ => .pure _

/-- On an element, the item and the call for its subtree. -/
theorem addSubTreeItem_run (node : ProtoNode) (hfindex : HeaderField) (ett : Ett)
    (h : s.tlv.reader.getType ≠ .notSpecified) :
    (addSubTreeItem node hfindex ett).run s = .ok (.drawn s.log.length) { s with
      log := s.log ++ [.add node hfindex ((s.tlv.elemStart + s.tlv.sourceBufBaseOffset) % 2 ^ 32)
        s.tlv.elemLen .item] ++ [.addSubtree (.drawn s.log.length) ett] } := by
  rw [addSubTreeItem, getType, gets_bind, decide_eq_true h, bind_ok (run_verify_true _ _)]
  rfl

theorem still_addSubTreeItemF (node : ProtoNode) (hfindex : HeaderField) (ett : Ett)
    (text : Text) : Still (addSubTreeItemF node hfindex ett text) :=
  Leaves.bind (still_addSubTreeItem _ _ _) fun _ => Leaves.bind (still_draw _) fun _ => .pure _

theorem leaves_getUInt64 : Leaves id TLVReader.getUInt64 := by
  refine Leaves.bind .get fun r => ?_
  split <;> first | exact Leaves.pure _ | exact Leaves.throw _

theorem leaves_getInt64 : Leaves id TLVReader.getInt64 := leaves_getUInt64.bind fun _ => .pure _

theorem leaves_getBool : Leaves id TLVReader.getBool := by
  refine Leaves.bind (.gets _) fun _ => ?_
  exact .ite (.pure _) (.ite (.pure _) (.throw _))

theorem leaves_getDouble : Leaves id TLVReader.getDouble := by
  refine Leaves.bind .get fun r => ?_
  split <;> first | exact Leaves.pure _ | exact Leaves.throw _

theorem leaves_getDataPtr : Leaves id TLVReader.getDataPtr := by
  refine Leaves.bind .get fun r => Leaves.bind (.verify _ _) fun _ => Leaves.bind ?_ fun _ =>
    Leaves.bind (.verify _ _) fun _ => .pure _
  exact Leaves.bind .get fun _ => .ite (.throw _) (.pure _)

theorem leaves_copyBytes (mem : List UInt8) (p len : Nat) :
    Leaves id (TLVReader.copyBytes mem p len) := .ite (.pure _) (.stop _)

theorem still_dataBytes : Still dataBytes :=
  Leaves.bind (still_onReader leaves_getDataPtr) fun _ => Leaves.bind still_getLength fun _ =>
    Leaves.bind (.gets _) fun _ => still_onReader (leaves_copyBytes _ _ _)

/-! ## The contract -/

/-- From `s` to `s'` over an element: balanced, or too deep after a retry, where there `may` be
one. -/
def OnTrack (may : Prop) (data : List UInt8) (s s' : DissectState) : Prop :=
  (s'.retried = s.retried ∧ Balanced data s.tlv s'.tlv) ∨
    (may ∧ s.retried < s'.retried ∧ s.depth < s'.depth)

theorem OnTrack.trans (h : OnTrack may data s s') (hretried : s'.retried ≤ s''.retried)
    (hdepth : s'.depth ≤ s''.depth) (h' : Focused data s'.tlv → OnTrack may data s' s'') :
    OnTrack may data s s'' := by
  rcases h with ⟨heq, hbal⟩ | ⟨hmay, hlt, hdeep⟩
  · have hsame : s'.depth = s.depth := congrArg List.length hbal.containerStack_eq
    rcases h' hbal.focused with ⟨heq', hbal'⟩ | ⟨hmay, hlt', hdeep'⟩
    · exact .inl ⟨heq'.trans heq, hbal.trans hbal'⟩
    · exact .inr ⟨hmay, by omega, by omega⟩
  · exact .inr ⟨hmay, by omega, by omega⟩

/-- `x` handles the element that the dissector is on. -/
structure Handles (may : Prop) (x : DissectM α) : Prop where
  retried : Grows DissectState.retried x
  depth : Grows DissectState.depth x
  onTrack : ∀ {data s a s'}, Focused data s.tlv → x.run s = .ok a s' → OnTrack may data s s'

theorem Still.grows_retried {x : DissectM α} (h : Still x) : Grows DissectState.retried x :=
  .intro (fun _ _ _ hx => (h.ok hx).2.ge) fun _ _ _ hx => (h.err hx).2.ge

theorem Still.grows_depth {x : DissectM α} (h : Still x) : Grows DissectState.depth x :=
  .intro (fun _ _ _ hx => by unfold DissectState.depth; rw [(h.ok hx).1])
    fun _ _ _ hx => by unfold DissectState.depth; rw [(h.err hx).1]

theorem Still.handles {x : DissectM α} (h : Still x) : Handles may x where
  retried := h.grows_retried
  depth := h.grows_depth
  onTrack hs hx := .inl ⟨(h.ok hx).2, by rw [(h.ok hx).1]; exact hs.balanced⟩

theorem Handles.pure (a : α) : Handles may (Pure.pure a : DissectM α) :=
  Still.handles (Leaves.pure a)

theorem Handles.throw (e : MatterError) : Handles may (Prog.throw e : DissectM α) :=
  Still.handles (Leaves.throw e)

theorem Handles.bind {x : DissectM α} {k : α → DissectM β} (hx : Handles may x)
    (hk : ∀ a, Handles may (k a)) : Handles may (x >>= k) where
  retried := hx.retried.bind fun a => (hk a).retried
  depth := hx.depth.bind fun a => (hk a).depth
  onTrack hs h := by
    obtain ⟨a, s₁, h₁, h₂⟩ := bind_eq_ok.1 h
    exact (hx.onTrack hs h₁).trans ((hk a).retried.ok h₂) ((hk a).depth.ok h₂)
      fun hs₁ => (hk a).onTrack hs₁ h₂

theorem Handles.ite {c : Prop} [Decidable c] {x y : DissectM α} (hx : Handles may x)
    (hy : Handles may y) : Handles may (if c then x else y) := by
  split
  · exact hx
  · exact hy

theorem grows_retried_onTlv (x : DissectorM α) : Grows DissectState.retried (onTlv x) := by
  have h : Leaves DissectState.retried (onTlv x) := Leaves.zoom x fun _ _ => rfl
  exact h.grows

/-- `DupString` takes the string along; what follows it is the same. -/
theorem handles_dupString : Handles may (onReader TLVReader.dupString) where
  retried := grows_retried_onTlv _
  depth := .intro (fun _ _ _ h => by obtain ⟨r, -, rfl⟩ := dissect_onReader_eq_ok.1 h; exact le_rfl)
    fun _ _ _ h => by obtain ⟨r, -, rfl⟩ := dissect_onReader_eq_err.1 h; exact le_rfl
  onTrack hs h := by
    obtain ⟨r, hdup, rfl⟩ := dissect_onReader_eq_ok.1 h
    obtain ⟨hbounds, hskip⟩ := dupString_skip hs.inBounds hdup
    exact .inl ⟨rfl, hbounds, rfl, rfl, rfl, rfl, hskip⟩

/-! ## Containers -/

/-- The loop over the members: what every round keeps, and what holds where it ends. -/
theorem forMembers_ok {body : β → DissectM β} {J Q : β → DissectState → Prop}
    (hstep : ∀ b s s₁ b' s', J b s → next.run s = .ok () s₁ → (body b).run s₁ = .ok b' s' →
      J b' s')
    (hexit : ∀ b s s', J b s → next.run s = .err .endOfTLV s' → Q b s')
    {b b' : β} (hJ : J b s) (h : (forMembers body b).run s = .ok b' s') : Q b' s' := by
  refine whileLoop_ok (fun b s b' s' hJ h => ?_) (fun b s b' s' hJ h => ?_) hJ h
  all_goals
    obtain ⟨res, s₁, hattempt, h⟩ := bind_eq_ok.1 h
    rcases attempt_eq_ok.1 hattempt with ⟨_, rfl, hnext⟩ | ⟨e, rfl, hnext⟩
  · obtain ⟨b₁, s₂, hbody, h⟩ := bind_eq_ok.1 h
    cases h
    exact hstep _ _ _ _ _ hJ hnext hbody
  · cases e <;> cases h
  · obtain ⟨b₁, s₂, hbody, h⟩ := bind_eq_ok.1 h
    cases h
  · cases e <;> cases h
    exact hexit _ _ _ hJ hnext

theorem leaves_onReader_depth {x : ReaderM α} :
    Leaves TLVDissector.containerStack (TLVDissector.onReader x) := Leaves.zoom x fun _ _ => rfl

theorem leaves_markElemStart : Leaves TLVDissector.containerStack TLVDissector.markElemStart :=
  Leaves.bind .get fun _ => Leaves.bind (.verify _ _) fun _ => .modify fun _ => rfl

theorem leaves_next : Leaves TLVDissector.containerStack TLVDissector.next :=
  Leaves.bind leaves_onReader_depth fun _ => Leaves.bind leaves_markElemStart fun _ =>
    Leaves.bind leaves_onReader_depth fun _ =>
      Leaves.bind (Leaves.zoom _ fun _ _ => rfl) fun _ => .modify fun _ => rfl

/-- `Next` opens and closes no container. -/
theorem next_depth : Leaves (fun s => (s.tlv.containerStack, s.retried)) next := by
  refine Leaves.intro (fun s a s' h => ?_) (fun s e s' h => ?_)
  · obtain ⟨d, hd, rfl⟩ := onTlv_eq_ok.1 h
    rw [leaves_next.ok hd]
  · obtain ⟨d, hd, rfl⟩ := onTlv_eq_err.1 h
    rw [leaves_next.err hd]

theorem grows_next_depth : Grows DissectState.depth next := by
  refine .intro (fun s a s' h => ?_) (fun s e s' h => ?_)
  · exact Nat.le_of_eq (congrArg (fun p => p.1.length) (next_depth.ok h)).symm
  · exact Nat.le_of_eq (congrArg (fun p => p.1.length) (next_depth.err h)).symm

theorem grows_memberRound {f : DissectState → Nat} {body : β → DissectM β}
    (hbody : ∀ b, Grows f (body b)) (b : β) (res : Except MatterError Unit) :
    Grows f (memberRound body b res) := by
  unfold memberRound
  split
  · exact (hbody b).bind fun _ => .pure _
  · exact .pure _
  · exact .throw _

theorem grows_forMembers {f : DissectState → Nat} {body : β → DissectM β}
    (hnext : Grows f next) (hbody : ∀ b, Grows f (body b)) (b : β) :
    Grows f (forMembers body b) :=
  Grows.whileLoop (fun b => hnext.attempt.bind (grows_memberRound hbody b)) b

/-- Too deep inside a container entered at `s`, after a retry. -/
def OffTrack (may : Prop) (s s' : DissectState) : Prop :=
  may ∧ s.retried < s'.retried ∧ s.depth + 1 < s'.depth

/-- Among the members of the container `d₀` that was entered at `s`. -/
def Among (may : Prop) (data : List UInt8) (s : DissectState) (d₀ : TLVDissector)
    (s' : DissectState) : Prop :=
  (s'.retried = s.retried ∧ Inside data d₀ s'.tlv) ∨ OffTrack may s s'

/-- Where `Next` has found no further member. -/
def PastMembers (may : Prop) (data : List UInt8) (s : DissectState) (d₀ : TLVDissector)
    (s' : DissectState) : Prop :=
  (s'.retried = s.retried ∧ ∃ d, Inside data d₀ d ∧
    TLVDissector.next.run d = .err .endOfTLV s'.tlv) ∨ OffTrack may s s'

theorem OffTrack.mono (h : OffTrack may s s') (hretried : s'.retried ≤ s''.retried)
    (hdepth : s'.depth ≤ s''.depth) : OffTrack may s s'' :=
  ⟨h.1, Nat.lt_of_lt_of_le h.2.1 hretried, Nat.lt_of_lt_of_le h.2.2 hdepth⟩

section
variable {d₀ : TLVDissector}

theorem Among.next_ok (h : Among may data s d₀ s') (hnext : next.run s' = .ok () s'') :
    Among may data s d₀ s'' := by
  have hkeep := next_depth.ok hnext
  have hretried : s''.retried = s'.retried := congrArg Prod.snd hkeep
  have hdepth : s''.depth = s'.depth := congrArg (List.length ∘ Prod.fst) hkeep
  rcases h with ⟨heq, hin⟩ | hoff
  · obtain ⟨d, hd, rfl⟩ := onTlv_eq_ok.1 hnext
    exact .inl ⟨heq, hin.next hd⟩
  · exact .inr (hoff.mono hretried.ge hdepth.ge)

theorem Among.endOfTLV (h : Among may data s d₀ s') (hnext : next.run s' = .err .endOfTLV s'') :
    PastMembers may data s d₀ s'' := by
  have hkeep := next_depth.err hnext
  have hretried : s''.retried = s'.retried := congrArg Prod.snd hkeep
  have hdepth : s''.depth = s'.depth := congrArg (List.length ∘ Prod.fst) hkeep
  rcases h with ⟨heq, hin⟩ | hoff
  · obtain ⟨d, hd, rfl⟩ := onTlv_eq_err.1 hnext
    exact .inl ⟨heq, s'.tlv, hin, hd⟩
  · exact .inr (hoff.mono hretried.ge hdepth.ge)

theorem Among.handled {x : DissectM α} {a : α} (hx : Handles may x)
    (hdepth : d₀.containerStack.length = s.depth + 1) (h : Among may data s d₀ s')
    (hrun : x.run s' = .ok a s'') : Among may data s d₀ s'' := by
  rcases h with ⟨heq, hin⟩ | hoff
  · have hdepth' : s'.depth = s.depth + 1 :=
      (congrArg List.length hin.containerStack_eq).trans hdepth
    rcases hx.onTrack hin.focused hrun with ⟨heq', hbal⟩ | ⟨hmay, hlt, hdeep⟩
    · exact .inl ⟨heq'.trans heq, hin.balanced hbal⟩
    · exact .inr ⟨hmay, by omega, by omega⟩
  · exact .inr (hoff.mono (hx.retried.ok hrun) (hx.depth.ok hrun))

/-- The loop over the members of a container. -/
theorem Among.loop_ok {body : β → DissectM β} (hbody : ∀ b, Handles may (body b))
    (hdepth : d₀.containerStack.length = s.depth + 1) {b b' : β} (h : Among may data s d₀ s')
    (hrun : (forMembers body b).run s' = .ok b' s'') : PastMembers may data s d₀ s'' :=
  forMembers_ok (J := fun _ s' => Among may data s d₀ s')
    (Q := fun _ s' => PastMembers may data s d₀ s')
    (fun _ _ _ _ _ hJ hnext hb => (hJ.next_ok hnext).handled (hbody _) hdepth hb)
    (fun _ _ _ hJ hnext => hJ.endOfTLV hnext) h hrun

end

theorem depth_enterContainer (h : enterContainer.run s = .ok () s') :
    s'.depth = s.depth + 1 ∧ s'.retried = s.retried := by
  obtain ⟨d, hd, rfl⟩ := onTlv_eq_ok.1 h
  obtain ⟨-, rfl⟩ := enterContainer_tlv_eq_ok.1 hd
  exact ⟨rfl, rfl⟩

theorem depth_exitContainer (h : exitContainer.run s = .ok () s') :
    s.depth ≤ s'.depth + 1 ∧ s'.retried = s.retried := by
  obtain ⟨d, hd, rfl⟩ := onTlv_eq_ok.1 h
  refine ⟨?_, rfl⟩
  show s.tlv.containerStack.length ≤ d.containerStack.length + 1
  cases hstack : s.tlv.containerStack with
  | nil => exact Nat.zero_le _
  | cons context stack =>
    obtain ⟨e, -, rfl⟩ := (exitContainer_tlv_eq_ok hstack).1 hd
    exact Nat.le_refl _

/-- Behind `EnterContainer`. -/
theorem Among.entered (may : Prop) {s₀ : DissectState} (h : InBounds data s.tlv.reader)
    (henter : enterContainer.run s = .ok () s₀) : Among may data s s₀.tlv s₀ := by
  obtain ⟨d₀, hd₀, rfl⟩ := onTlv_eq_ok.1 henter
  obtain ⟨-, rfl⟩ := enterContainer_tlv_eq_ok.1 hd₀
  exact .inl ⟨rfl, .start (h.congr rfl rfl rfl rfl rfl) (cleared_clearElementState _)⟩

/-- The members of a container have been handled, and it has been left. -/
theorem container_onTrack {body : β → DissectM β} {b₀ b : β} {s₀ s₁ s₂ : DissectState}
    (hbody : ∀ b, Handles may (body b)) (h : InBounds data s.tlv.reader)
    (henter : enterContainer.run s = .ok () s₀) (hloop : (forMembers body b₀).run s₀ = .ok b s₁)
    (hexit : exitContainer.run s₁ = .ok () s₂) : OnTrack may data s s₂ := by
  obtain ⟨hdepth₀, -⟩ := depth_enterContainer henter
  obtain ⟨hdepth₂, hretried₂⟩ := depth_exitContainer hexit
  rcases (Among.entered may h henter).loop_ok hbody hdepth₀ hloop with
    ⟨heq, d₁, hin, hend⟩ | ⟨hmay, hlt, hdeep⟩
  · obtain ⟨d₀, hd₀, rfl⟩ := onTlv_eq_ok.1 henter
    obtain ⟨d₂, hd₂, rfl⟩ := onTlv_eq_ok.1 hexit
    exact .inl ⟨heq, hin.closed hd₀ hend hd₂⟩
  · exact .inr ⟨hmay, by omega, by omega⟩

theorem enterContainer_leaves_err {e : MatterError} (h : enterContainer.run s = .err e s') :
    s'.retried = s.retried ∧ s'.depth = s.depth := by
  obtain ⟨d, hd, rfl⟩ := onTlv_eq_err.1 h
  rw [TLVDissector.enterContainer, bind_eq_err] at hd
  rcases hd with hd | ⟨_, d₁, -, hd⟩
  · obtain ⟨r, -, rfl⟩ := onReader_eq_err.1 hd
    exact ⟨rfl, rfl⟩
  · cases hd

theorem exitContainer_leaves_err {e : MatterError} (h : exitContainer.run s = .err e s') :
    s'.retried = s.retried ∧ s.depth ≤ s'.depth + 1 := by
  obtain ⟨d, hd, rfl⟩ := onTlv_eq_err.1 h
  refine ⟨rfl, ?_⟩
  rw [TLVDissector.exitContainer, bind_eq_err] at hd
  show s.tlv.containerStack.length ≤ d.containerStack.length + 1
  rcases hd with hd | ⟨_, d₁, hpop, hd⟩
  · rw [TLVDissector.popContainer, get_bind] at hd
    split at hd <;> cases hd
  · obtain ⟨r, -, rfl⟩ := onReader_eq_err.1 hd
    rw [TLVDissector.popContainer, get_bind] at hpop
    split at hpop
    · rename_i hnil; rw [hnil]; exact Nat.zero_le _
    · rename_i hcons; cases hpop; rw [hcons]; exact Nat.le_refl _

/-- Entering the element, handling its members and leaving it leaves no container more. -/
theorem grows_depth_container {body : β → DissectM β} {b₀ : β} {k : β → DissectM α}
    (hbody : ∀ b, Grows DissectState.depth (body b)) (hk : ∀ b, Grows DissectState.depth (k b)) :
    Grows DissectState.depth (do
      enterContainer
      let b ← forMembers body b₀
      exitContainer
      k b) := by
  have hloop := grows_forMembers grows_next_depth hbody b₀
  refine .intro (fun s a s' h => ?_) (fun s e s' h => ?_)
  · obtain ⟨_, s₀, henter, h⟩ := bind_eq_ok.1 h
    obtain ⟨b, s₁, hmembers, h⟩ := bind_eq_ok.1 h
    obtain ⟨_, s₂, hexit, h⟩ := bind_eq_ok.1 h
    have h₀ := (depth_enterContainer henter).1
    have h₁ := hloop.ok hmembers
    have h₂ := (depth_exitContainer hexit).1
    have h₃ := (hk b).ok h
    omega
  · rcases bind_eq_err.1 h with henter | ⟨_, s₀, henter, h⟩
    · exact (enterContainer_leaves_err henter).2.ge
    have h₀ := (depth_enterContainer henter).1
    rcases bind_eq_err.1 h with hmembers | ⟨b, s₁, hmembers, h⟩
    · have h₁ := hloop.err hmembers
      omega
    have h₁ := hloop.ok hmembers
    rcases bind_eq_err.1 h with hexit | ⟨_, s₂, hexit, h⟩
    · have h₂ := (exitContainer_leaves_err hexit).2
      omega
    have h₂ := (depth_exitContainer hexit).1
    have h₃ := (hk b).err h
    omega

theorem grows_retried_container {body : β → DissectM β} {b₀ : β} {k : β → DissectM α}
    (hbody : ∀ b, Grows DissectState.retried (body b))
    (hk : ∀ b, Grows DissectState.retried (k b)) :
    Grows DissectState.retried (do
      enterContainer
      let b ← forMembers body b₀
      exitContainer
      k b) :=
  (grows_retried_onTlv _).bind fun _ =>
    (grows_forMembers (grows_retried_onTlv _) hbody b₀).bind fun b =>
      (grows_retried_onTlv _).bind fun _ => hk b

/-- A handler that enters the element, handles its members and leaves it. -/
theorem Handles.container {body : β → DissectM β} {b₀ : β} {k : β → DissectM α}
    (hbody : ∀ b, Handles may (body b)) (hk : ∀ b, Handles may (k b)) :
    Handles may (do
      enterContainer
      let b ← forMembers body b₀
      exitContainer
      k b) where
  retried := grows_retried_container (fun b => (hbody b).retried) fun b => (hk b).retried
  depth := grows_depth_container (fun b => (hbody b).depth) fun b => (hk b).depth
  onTrack {data s a s'} hs h := by
    obtain ⟨_, s₀, henter, h⟩ := bind_eq_ok.1 h
    obtain ⟨b, s₁, hloop, h⟩ := bind_eq_ok.1 h
    obtain ⟨_, s₂, hexit, h⟩ := bind_eq_ok.1 h
    exact (container_onTrack hbody hs.inBounds henter hloop hexit).trans ((hk b).retried.ok h)
      ((hk b).depth.ok h) fun hs₂ => (hk b).onTrack hs₂ h

/-! ## The methods of the dissector -/

theorem handles_onReader {x : ReaderM α} (hx : Leaves id x) : Handles may (onReader x) :=
  (still_onReader hx).handles

theorem handles_addShown (node : ProtoNode) (hfindex : HeaderField) (shown : Shown) :
    Handles may (do let _ ← addShown node hfindex shown) :=
  Handles.bind (still_addShown _ _ _).handles fun _ => .pure _

theorem handles_addTypedValue (node : ProtoNode) (hfindex : HeaderField) (type : TLVType) :
    Handles may (addTypedValue node hfindex type) := by
  unfold addTypedValue
  split
  · refine (handles_onReader leaves_getInt64).bind fun _ => ?_
    exact .ite (handles_addShown _ _ _) (.ite (handles_addShown _ _ _) (.throw _))
  · refine (handles_onReader leaves_getUInt64).bind fun _ => ?_
    exact .ite (handles_addShown _ _ _) (.ite (handles_addShown _ _ _) (.throw _))
  · exact (handles_onReader leaves_getBool).bind fun _ => handles_addShown _ _ _
  · exact (handles_onReader leaves_getDouble).bind fun _ => handles_addShown _ _ _
  · exact handles_dupString.bind fun _ => handles_addShown _ _ _
  · exact still_dataBytes.handles.bind fun _ => handles_addShown _ _ _
  · exact handles_addShown _ _ _
  · exact .throw _

theorem handles_addTypedItem (node : ProtoNode) (hfindex : HeaderField) :
    Handles may (addTypedItem node hfindex) :=
  Handles.bind still_getType.handles fun _ => handles_addTypedValue _ _ _

theorem handles_addListItem (node : ProtoNode) (hfindex : HeaderField) (ett : Ett)
    {elemHandler : ProtoNode → DissectM Unit} (h : ∀ node, Handles may (elemHandler node)) :
    Handles may (addListItem node hfindex ett elemHandler) := by
  refine Handles.bind still_getType.handles fun type => ?_
  refine Handles.bind (Still.handles (Leaves.verify _ _)) fun _ => ?_
  refine Handles.bind (still_addSubTreeItem _ _ _).handles fun listItem => ?_
  refine Handles.container (fun elemCount => ?_) fun elemCount => ?_
  · exact (h listItem).bind fun _ => .pure _
  · exact (Still.handles (still_draw _)).bind fun _ => .pure _

section
variable (host : Host)

theorem still_append (text : Text) (strBuf : StrBuf) : Still (append host text strBuf) :=
  still_checked _

theorem still_appendTag (suppressTag : Bool) (tag : Nat) (strBuf : StrBuf) :
    Still (appendTag host suppressTag tag strBuf) :=
  .ite (.pure _) (.ite (still_append host _ _) (.ite (still_append host _ _) (.pure _)))

theorem handles_append (text : Text) (strBuf : StrBuf) : Handles may (append host text strBuf) :=
  (still_append host text strBuf).handles

theorem handles_appendValue (strBuf : StrBuf) (type : TLVType) :
    Handles may (appendValue host strBuf type) := by
  unfold appendValue
  split
  · exact (handles_onReader leaves_getInt64).bind fun _ => handles_append host _ _
  · exact (handles_onReader leaves_getUInt64).bind fun _ => handles_append host _ _
  · exact (handles_onReader leaves_getBool).bind fun _ => handles_append host _ _
  · exact (handles_onReader leaves_getDouble).bind fun _ => handles_append host _ _
  · exact handles_dupString.bind fun _ => handles_append host _ _
  · exact still_dataBytes.handles.bind fun _ =>
      Still.handles (Leaves.foldlM (fun _ _ => still_append host _ _) _ _)
  · exact handles_append host _ _
  · exact handles_append host _ _
  · exact handles_append host _ _
  · exact handles_append host _ _
  · exact .throw _

theorem still_addLine (node : ProtoNode) (hfindex : HeaderField) (suppressHeader : Bool)
    (text : Text) : Still (addLine node hfindex suppressHeader text) :=
  .ite (still_addStringItemWithHeaderF _ _ _) (still_addStringItemF _ _ _)

theorem handles_addGenericTLVItemTo (node : ProtoNode) (hfindex : HeaderField) :
    ∀ depth suppressTag suppressHeader indentLevel,
      Handles may
        (addGenericTLVItemTo host node hfindex depth suppressTag suppressHeader indentLevel)
  | 0, _, _, _ => Still.handles (Leaves.stop _)
  | depth + 1, suppressTag, suppressHeader, indentLevel => by
    unfold addGenericTLVItemTo
    refine Handles.bind still_getType.handles fun type => ?_
    refine Handles.bind still_getTag.handles fun tag => ?_
    refine Handles.bind (still_checked _).handles fun strBuf => ?_
    refine Handles.bind (still_appendTag host _ _ _).handles fun strBuf => ?_
    refine Handles.bind (handles_appendValue host _ _) fun strBuf => ?_
    refine Handles.bind (still_checked _).handles fun text => ?_
    refine Handles.bind (still_addLine _ _ _ _).handles fun _ => ?_
    refine Handles.bind (still_checked _).handles fun strBuf => ?_
    refine Handles.ite (Handles.container (fun _ => ?_) fun _ => ?_) (.pure _)
    · exact handles_addGenericTLVItemTo node hfindex depth false true (indentLevel + 1)
    · refine Handles.bind (still_checked _).handles fun strBuf => ?_
      refine Handles.bind (handles_append host _ _) fun strBuf => ?_
      refine Handles.bind (still_checked _).handles fun text => ?_
      exact (still_addStringItemWithHeaderF _ _ _).handles

theorem handles_addGenericTLVItem (node : ProtoNode) (hfindex : HeaderField)
    (suppressTag : Bool) : Handles may (addGenericTLVItem host node hfindex suppressTag) :=
  Handles.bind (Still.handles Leaves.get) fun _ =>
    handles_addGenericTLVItemTo host node hfindex _ _ _ _

end

end

end Matter.TLV
