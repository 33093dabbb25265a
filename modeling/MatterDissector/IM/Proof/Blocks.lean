import MatterDissector.IM.Proof.Handles

/-!
# The handlers of nested blocks

A structure under a tag without meaning is decoded as a block of its own, and shown generically if
that fails. `DecodesStruct` is what such a decoder needs: called on a structure it is on track, or
falls from it. `DetectAttributeIBKind` consumes the structure that it looks into
(`detectAttributeIBKind_struct`), so the decoder that it chooses always falls.
-/

namespace Matter.IM

open Prog TLV Display TLV.Dissect
open TLVReader (InBounds)

section
variable {α β : Type} {data : List UInt8} {s s' : DissectState} {may : Prop}

/-! ## Structures -/

/-- `x` decodes structures: called on one, it is on track or falls from it. -/
structure DecodesStruct (x : DissectM Unit) : Prop where
  retried : Grows DissectState.retried x
  depth : Grows DissectState.depth x
  onTrack : ∀ {data s s'}, Focused data s.tlv → s.tlv.reader.getType = .struct →
    x.run s = .ok () s' → OnTrack True data s s'
  falls : ∀ {data s e s'}, Focused data s.tlv → s.tlv.reader.getType = .struct →
    x.run s = .err e s' → FellFrom s s'

/-- What a block does first, on a structure. -/
theorem structBlock_run (tree : ProtoNode) (hfindex : HeaderField) (ett : Ett)
    (k : ProtoNode → DissectM α) (htype : s.tlv.reader.getType = .struct) :
    ∃ itemTree s₁, s₁.tlv = s.tlv ∧ (do
      let type ← getType
      verify (type = .struct) .unexpectedTLVElement
      let itemTree ← addSubTreeItem tree hfindex ett
      k itemTree : DissectM α).run s = (k itemTree).run s₁ := by
  have hne : s.tlv.reader.getType ≠ .notSpecified := by rw [htype]; exact fun he => by cases he
  obtain ⟨itemTree, s₁, hitem⟩ : ∃ itemTree s₁,
      (addSubTreeItem tree hfindex ett).run s = .ok itemTree s₁ := by
    rw [addSubTreeItem, getType, gets_bind, decide_eq_true hne, bind_ok (run_verify_true _ _)]
    exact ⟨_, _, rfl⟩
  refine ⟨itemTree, s₁, (Still.ok (still_addSubTreeItem _ _ _) hitem).1, ?_⟩
  rw [getType, gets_bind, decide_eq_true htype, bind_ok (run_verify_true _ _), bind_ok hitem]

theorem fellFrom_of_depth (htype : s.tlv.reader.getType = .struct) (h : s.depth < s'.depth) :
    FellFrom s s' := by
  unfold FellFrom
  rw [if_pos (.inr htype)]
  exact .inl h

theorem fellFrom_of_getType (htype : s.tlv.reader.getType = .struct)
    (h : s'.tlv.reader.getType = .notSpecified) : FellFrom s s' := by
  unfold FellFrom
  rw [if_pos (.inr htype)]
  exact .inr h

theorem overMembers_fell {body : β → DissectM β} {b : β} {e : MatterError} {s₁ : DissectState}
    (hbody : ∀ b, Handles may (body b)) (hs : Focused data s.tlv)
    (htype : s.tlv.reader.getType = .struct) (htlv : s₁.tlv = s.tlv)
    (h : (overMembers body b).run s₁ = .err e s') : FellFrom s s' := by
  have hdeep := overMembers_fails hbody (htlv ▸ hs)
    (isContainer_of_getType (.inr (.inl (htlv ▸ htype)))) h
  exact fellFrom_of_depth htype (by rwa [DissectState.depth, htlv] at hdeep)

section
variable (env : Env)

theorem handles_addNestedIB {nested : ProtoNode → DissectM Unit}
    (h : ∀ tree, DecodesStruct (nested tree)) (itemTree : ProtoNode) :
    Handles True (addNestedIB env nested itemTree) where
  retried := Grows.bind (.gets _) fun _ => .ite (grows_decodeOr grows_retried_noteRetry
    (h itemTree).retried (handles_addUnknown env itemTree : Handles True _).retried)
    (handles_addUnknown env itemTree : Handles True _).retried
  depth := Grows.bind (.gets _) fun _ => .ite (grows_decodeOr grows_depth_noteRetry
    (h itemTree).depth (handles_addUnknown env itemTree : Handles True _).depth)
    (handles_addUnknown env itemTree : Handles True _).depth
  onTrack hs hrun := by
    rw [addNestedIB, getType, gets_bind] at hrun
    split at hrun
    · rename_i htype
      exact decodeOr_onTrack (fun _ _ hok => (h itemTree).onTrack hs htype hok)
        (h itemTree).retried (fun _ _ herr => (h itemTree).falls hs htype herr)
        (handles_addUnknown env itemTree) (addUnknown_needsElement env itemTree) hs hrun
    · exact (handles_addUnknown env itemTree).onTrack hs hrun

theorem DecodesStruct.of_handles {x : DissectM Unit} (h : Handles True x)
    (hfalls : ∀ {data s e s'}, Focused data s.tlv → s.tlv.reader.getType = .struct →
      x.run s = .err e s' → FellFrom s s') : DecodesStruct x :=
  ⟨h.retried, h.depth, fun hs _ hrun => h.onTrack hs hrun, hfalls⟩

/-! ### Attribute status -/

theorem handles_attributeStatusMember {nested : ProtoNode → DissectM Unit}
    (h : ∀ tree, DecodesStruct (nested tree)) (itemTree : ProtoNode) :
    Handles True (attributeStatusMember env nested itemTree) := by
  refine Handles.bind still_getTag.handles fun tag => .ite ?_ (handles_addNestedIB env h _)
  split
  · exact handles_pathOr env _ .attribute
  · exact handles_addStructOr env _ fun tree => handles_addStatusIB env tree
  · exact handles_addUnknown env _

theorem handles_addAttributeStatusIBItemTo : ∀ (depth : Nat) (tree : ProtoNode),
    Handles True (addAttributeStatusIBItemTo env depth tree) ∧
      DecodesStruct (addAttributeStatusIBItemTo env depth tree)
  | 0, _ => by
    have h : Handles True (stop .outOfFuel : DissectM Unit) := Still.handles (Leaves.stop _)
    exact ⟨h, .of_handles h fun _ _ herr => by cases herr⟩
  | depth + 1, tree => by
    have hbody := fun (itemTree : ProtoNode) (_ : Unit) => handles_attributeStatusMember env
      (fun tree => (handles_addAttributeStatusIBItemTo depth tree).2) itemTree
    have h : Handles True (addAttributeStatusIBItemTo env (depth + 1) tree) :=
      Handles.bind still_getType.handles fun type => (handles_verify _ _).bind fun _ =>
        Handles.bind (still_addSubTreeItem _ _ _).handles fun itemTree =>
          handles_overMembers (hbody itemTree) ()
    refine ⟨h, .of_handles h fun {data s e s'} hs htype herr => ?_⟩
    obtain ⟨itemTree, s₁, htlv, hrun⟩ := structBlock_run tree .commandStatusIB .commandElem
      (fun itemTree => overMembers (fun () => attributeStatusMember env
        (addAttributeStatusIBItemTo env depth) itemTree) ()) htype
    exact overMembers_fell (hbody itemTree) hs htype htlv (hrun.symm.trans herr)

theorem handles_addAttributeStatusIBItem (tree : ProtoNode) :
    Handles True (addAttributeStatusIBItem env tree) :=
  Handles.bind (Still.handles Leaves.get) fun _ =>
    (handles_addAttributeStatusIBItemTo env _ tree).1

/-! ### Attribute data -/

theorem handles_addAttributeData (itemTree : ProtoNode) : ∀ attributePath,
    Handles may (addAttributeData env itemTree attributePath)
  | some (_, _) =>
    Handles.bind still_getType.handles fun _ =>
      .ite (handles_addNamedAttributeStructValue env _ _ _)
        (handles_addNumberOr _ _ _ (handles_addNamedCommandValue env _ _))
  | none => handles_addNamedCommandValue env _ _

theorem handles_addAttributePathOr (itemTree : ProtoNode) :
    Handles True (addAttributePathOr env itemTree) :=
  handles_decodeOr (handles_addPathItemAndExtractIds env itemTree .attribute)
    (fun hs h => addPathItemAndExtractIds_fails env itemTree .attribute hs h)
    ((handles_addUnknown env itemTree).bind fun _ => .pure _)
    (NeedsElement.bind (addUnknown_needsElement env itemTree) _)

theorem handles_attributeDataMember {nested : ProtoNode → DissectM Unit}
    (h : ∀ tree, DecodesStruct (nested tree)) (itemTree : ProtoNode)
    (attributePath : Option (Nat × Nat)) :
    Handles True (attributeDataMember env nested itemTree attributePath) := by
  refine Handles.bind still_getTag.handles fun tag => .ite ?_
    ((handles_addNestedIB env h _).bind fun _ => .pure _)
  split
  · exact (handles_addDataVersion env _ _).bind fun _ => .pure _
  · exact (handles_addAttributePathOr env _).bind fun _ => .pure _
  · exact (handles_addAttributeData env _ _).bind fun _ => .pure _
  · exact (handles_addUnknown env _).bind fun _ => .pure _

theorem handles_addAttributeDataIBItemTo : ∀ (depth : Nat) (tree : ProtoNode),
    Handles True (addAttributeDataIBItemTo env depth tree) ∧
      DecodesStruct (addAttributeDataIBItemTo env depth tree)
  | 0, _ => by
    have h : Handles True (stop .outOfFuel : DissectM Unit) := Still.handles (Leaves.stop _)
    exact ⟨h, .of_handles h fun _ _ herr => by cases herr⟩
  | depth + 1, tree => by
    have hbody := handles_attributeDataMember env
      (fun tree => (handles_addAttributeDataIBItemTo depth tree).2)
    have h : Handles True (addAttributeDataIBItemTo env (depth + 1) tree) :=
      Handles.bind still_getType.handles fun type => (handles_verify _ _).bind fun _ =>
        Handles.bind (still_addSubTreeItem _ _ _).handles fun itemTree =>
          (handles_overMembers (hbody itemTree) none).bind fun _ => .pure _
    refine ⟨h, .of_handles h fun {data s e s'} hs htype herr => ?_⟩
    obtain ⟨itemTree, s₁, htlv, hrun⟩ := structBlock_run tree .dataElemPropertyData .dataElem
      (fun itemTree => overMembers (attributeDataMember env
        (addAttributeDataIBItemTo env depth) itemTree) none >>= fun _ => pure ()) htype
    rcases bind_eq_err.1 (hrun.symm.trans herr) with hloop | ⟨_, s₂, -, hpure⟩
    · exact overMembers_fell (hbody itemTree) hs htype htlv hloop
    · cases hpure

theorem handles_addAttributeDataIBItem (tree : ProtoNode) :
    Handles True (addAttributeDataIBItem env tree) :=
  Handles.bind (Still.handles Leaves.get) fun _ =>
    (handles_addAttributeDataIBItemTo env _ tree).1

/-! ### Attribute reports -/

/-- A loop over members that ends with any error: what a round that goes on keeps, and what holds
after an error. -/
theorem scanMembers_ok {body : β → DissectM β} {J : DissectState → Prop}
    {Q : MatterError → DissectState → Prop}
    (hstep : ∀ b s s₁ b' s', J s → next.run s = .ok () s₁ → (body b).run s₁ = .ok b' s' → J s')
    (hnext : ∀ s e s', J s → next.run s = .err e s' → Q e s')
    (hbody : ∀ b s s₁ e s', J s → next.run s = .ok () s₁ → (body b).run s₁ = .err e s' → Q e s')
    {b : β} {res : β × MatterError} (hJ : J s) (h : (scanMembers body b).run s = .ok res s') :
    Q res.2 s' := by
  refine whileLoop_ok (J := fun _ s => J s) (Q := fun (res : β × MatterError) s => Q res.2 s)
    (fun b s b' s' hJ h => ?_) (fun b s a s' hJ h => ?_) hJ h
  all_goals
    obtain ⟨res, s₁, hattempt, h⟩ := bind_eq_ok.1 h
    rcases attempt_eq_ok.1 hattempt with ⟨b₁, rfl, hok⟩ | ⟨e, rfl, herr⟩
    all_goals cases h
  · obtain ⟨_, s₂, hmove, hrun⟩ := bind_eq_ok.1 hok
    exact hstep _ _ _ _ _ hJ hmove hrun
  · rcases bind_eq_err.1 herr with hmove | ⟨_, s₂, hmove, hrun⟩
    · exact hnext _ _ _ hJ hmove
    · exact hbody _ _ _ _ _ hJ hmove hrun

/-- A look-ahead inside a container that `Skip` gets over: wherever it ends, the container can be
left, and then its element has been consumed. -/
theorem lookAhead_exit {body : β → DissectM β} {b : β} {res : β × MatterError}
    {s₀ s₁ : DissectState} (hbody : ∀ b, Still (body b)) (hs : Focused data s.tlv)
    (henter : enterContainer.run s = .ok () s₀)
    (hscan : (scanMembers body b).run s₀ = .ok res s₁) :
    ∃ s₂, exitContainer.run s₁ = .ok () s₂ ∧ s₂.retried = s.retried ∧
      Balanced data s.tlv s₂.tlv ∧ s₂.tlv.reader.getType = .notSpecified := by
  obtain ⟨d₀, hd₀, rfl⟩ := onTlv_eq_ok.1 henter
  obtain ⟨c, hend⟩ := hs.end_ok hd₀
  have hstart : Inside data d₀ d₀ := by
    obtain ⟨-, rfl⟩ := enterContainer_tlv_eq_ok.1 hd₀
    exact .start (hs.inBounds.congr rfl rfl rfl rfl rfl) (cleared_clearElementState _)
  have hpast : s₁.retried = s.retried ∧ InBounds data s₁.tlv.reader ∧
      s₁.tlv.containerStack = d₀.containerStack ∧
      s₁.tlv.sourceBufBaseOffset = d₀.sourceBufBaseOffset ∧
      TLVReader.skipToEndOfContainer.run s₁.tlv.reader = .ok () c := by
    refine scanMembers_ok (s := { s with tlv := d₀ })
      (J := fun s' => s'.retried = s.retried ∧ Inside data d₀ s'.tlv)
      (Q := fun _ s' => s'.retried = s.retried ∧ InBounds data s'.tlv.reader ∧
        s'.tlv.containerStack = d₀.containerStack ∧
        s'.tlv.sourceBufBaseOffset = d₀.sourceBufBaseOffset ∧
        TLVReader.skipToEndOfContainer.run s'.tlv.reader = .ok () c)
      (fun b u u₁ b' u' hJ hnext hrun => ?_) (fun u e u' hJ hnext => ?_)
      (fun b u u₁ e u' hJ hnext hrun => ?_) ⟨rfl, hstart⟩ hscan
    · obtain ⟨d, hd, rfl⟩ := onTlv_eq_ok.1 hnext
      obtain ⟨htlv, hcount⟩ := (hbody b).ok hrun
      rw [htlv]
      exact ⟨hcount.trans hJ.1, hJ.2.next hd⟩
    · obtain ⟨d, hd, rfl⟩ := onTlv_eq_err.1 hnext
      exact ⟨hJ.1, hJ.2.next_err hend hd⟩
    · obtain ⟨d, hd, rfl⟩ := onTlv_eq_ok.1 hnext
      obtain ⟨htlv, hcount⟩ := (hbody b).err hrun
      rw [htlv]
      have hin := hJ.2.next hd
      exact ⟨hcount.trans hJ.1, hin.focused.inBounds, hin.containerStack_eq,
        hin.sourceBufBaseOffset_eq, (hin.sameEnd () c).1 hend⟩
  obtain ⟨hcount, hbounds, hstack, hbase, hend₁⟩ := hpast
  obtain ⟨d', hexit⟩ : ∃ d', TLVDissector.exitContainer.run s₁.tlv = .ok () d' := by
    obtain ⟨-, rfl⟩ := enterContainer_tlv_eq_ok.1 hd₀
    exact ⟨_, (exitContainer_tlv_eq_ok hstack).2 ⟨c, hend₁, rfl⟩⟩
  have hexit' : exitContainer.run s₁ = .ok () { s₁ with tlv := d' } :=
    onTlv_eq_ok.2 ⟨d', hexit, rfl⟩
  exact ⟨_, hexit', hcount, balanced_of_exit hd₀ hbounds hstack hbase hend hend₁ hexit,
    getType_exitContainer hexit'⟩

theorem still_detectMember (marks : AttributeIBMarks) : Still (detectMember marks) :=
  still_bind still_getTag fun _ => still_bind still_getType fun _ => Leaves.pure _

/-- `DetectAttributeIBKind` consumes the structure that it looks into. -/
theorem detectAttributeIBKind_struct {kind : AttributeIBKind} (hs : Focused data s.tlv)
    (htype : s.tlv.reader.getType = .struct) (h : detectAttributeIBKind.run s = .ok kind s') :
    s'.retried = s.retried ∧ Balanced data s.tlv s'.tlv ∧
      s'.tlv.reader.getType = .notSpecified := by
  obtain ⟨s₀, henter⟩ := enterContainer_ok (isContainer_of_getType (.inr (.inl htype)))
  rw [detectAttributeIBKind, getType, gets_bind, if_pos htype, detectInside,
    bind_ok (attempt_ok henter)] at h
  obtain ⟨res, s₁, hscan, h⟩ := bind_eq_ok.1 h
  obtain ⟨s₂, hexit, hpast⟩ := lookAhead_exit still_detectMember hs henter hscan
  rw [bind_ok (attempt_ok hexit)] at h
  cases h
  exact hpast

/-- A block that begins by asking for a structure does not begin where there is no element. -/
theorem structBlock_fails (tree : ProtoNode) (hfindex : HeaderField) (ett : Ett)
    (k : ProtoNode → DissectM α) (htype : s.tlv.reader.getType ≠ .struct) :
    (do
      let type ← getType
      verify (type = .struct) .unexpectedTLVElement
      let itemTree ← addSubTreeItem tree hfindex ett
      k itemTree : DissectM α).run s = .err .unexpectedTLVElement s := by
  rw [getType, gets_bind, decide_eq_false htype, bind_err (run_verify_false _ _)]

/-- `x` is a block, or has no levels left. -/
def BeginsStruct (x : DissectM Unit) : Prop :=
  ∀ s, s.tlv.reader.getType ≠ .struct → (∃ e, x.run s = .err e s) ∨ ∃ f, x.run s = .fault f

theorem beginsStruct_addAttributeReportIBItemTo : ∀ (depth : Nat) (tree : ProtoNode),
    BeginsStruct (addAttributeReportIBItemTo env depth tree)
  | 0, _ => fun _ _ => .inr ⟨_, rfl⟩
  | _ + 1, _ => fun _ htype => .inl ⟨_, structBlock_fails _ _ _ _ htype⟩

theorem beginsStruct_addDetected (tree : ProtoNode) :
    BeginsStruct (addAttributeDataIBItem env tree) ∧
      BeginsStruct (addAttributeStatusIBItem env tree) := by
  constructor
  · intro s htype
    rw [addAttributeDataIBItem, get_bind]
    exact .inl ⟨_, structBlock_fails _ _ _ _ htype⟩
  · intro s htype
    rw [addAttributeStatusIBItem, get_bind]
    exact .inl ⟨_, structBlock_fails _ _ _ _ htype⟩

theorem BeginsStruct.run_ne_ok {x : DissectM Unit} (h : BeginsStruct x) {u : Unit}
    (htype : s.tlv.reader.getType ≠ .struct) : x.run s ≠ .ok u s' := by
  intro hok
  rcases h s htype with ⟨e, hrun⟩ | ⟨f, hrun⟩
  · rw [hrun] at hok; cases hok
  · rw [hrun] at hok; cases hok

theorem BeginsStruct.run_err {x : DissectM Unit} (h : BeginsStruct x) {e : MatterError}
    (htype : s.tlv.reader.getType ≠ .struct) (herr : x.run s = .err e s') : s' = s := by
  rcases h s htype with ⟨e, hrun⟩ | ⟨f, hrun⟩
  · rw [hrun] at herr; cases herr; rfl
  · rw [hrun] at herr; cases herr

theorem grows_scanMembers {f : DissectState → Nat} {body : β → DissectM β}
    (hnext : Grows f next) (hbody : ∀ b, Grows f (body b)) (b : β) :
    Grows f (scanMembers body b) := by
  refine Grows.whileLoop (fun b => (hnext.bind fun _ => hbody b).attempt.bind fun res => ?_) b
  cases res <;> exact .pure _

theorem grows_retried_detectAttributeIBKind :
    Grows DissectState.retried detectAttributeIBKind := by
  refine Grows.bind (.gets _) fun type => .ite ?_ (.pure _)
  refine (grows_retried_onTlv _).attempt.bind fun res => ?_
  cases res with
  | error e => exact .pure _
  | ok u =>
    refine (grows_scanMembers (grows_retried_onTlv _)
      (fun marks => (still_detectMember marks).grows_retried) {}).bind fun res => ?_
    exact (grows_retried_onTlv _).attempt.bind fun _ => .pure _

theorem neverFails_scanMembers (body : β → DissectM β) (b : β) :
    NeverFails (scanMembers body b) := by
  refine NeverFails.whileLoop (fun b => (NeverFails.attempt _).bind fun res => ?_) b
  cases res <;> exact .pure _

theorem neverFails_detectAttributeIBKind : NeverFails detectAttributeIBKind := by
  refine NeverFails.bind (.gets _) fun type => .ite ?_ (.pure _)
  refine (NeverFails.attempt _).bind fun res => ?_
  cases res with
  | error e => exact .pure _
  | ok u =>
    exact (neverFails_scanMembers _ _).bind fun res => (NeverFails.attempt _).bind fun _ => .pure _

/-- A look-ahead leaves at most the container that it has entered. -/
theorem grows_depth_lookAhead {body : β → DissectM β} {b : β} {a : α}
    {k : β × MatterError → DissectM α} (hbody : ∀ b, Still (body b))
    (hk : ∀ res {s a s'}, (k res).run s = .ok a s' → s.depth ≤ s'.depth + 1)
    (hfails : ∀ res, NeverFails (k res)) :
    Grows DissectState.depth (do
      match ← attempt enterContainer with
      | .error _ => pure a
      | .ok () => k (← scanMembers body b)) := by
  have hloop := grows_scanMembers grows_next_depth (fun b => (hbody b).grows_depth) b
  refine .intro (fun s a' s' h => ?_) fun s e s' h => ?_
  · obtain ⟨res, s₀, hattempt, h⟩ := bind_eq_ok.1 h
    rcases attempt_eq_ok.1 hattempt with ⟨_, rfl, henter⟩ | ⟨e, rfl, henter⟩
    · obtain ⟨res, s₁, hscan, h⟩ := bind_eq_ok.1 h
      have h₀ := (depth_enterContainer henter).1
      have h₁ := hloop.ok hscan
      have h₂ := hk res h
      omega
    · cases h
      exact (enterContainer_leaves_err henter).2.ge
  · rcases bind_eq_err.1 h with hattempt | ⟨res, s₀, -, h⟩
    · exact absurd hattempt (NeverFails.attempt _ _ _ _)
    cases res with
    | error e => cases h
    | ok u =>
      rcases bind_eq_err.1 h with hscan | ⟨res, s₁, -, h⟩
      · exact absurd hscan (neverFails_scanMembers _ _ _ _ _)
      · exact absurd h (hfails res _ _ _)

/-- An attempt to leave the container leaves no other. -/
theorem depth_attempt_exitContainer {res : Except MatterError Unit}
    (h : (attempt exitContainer).run s = .ok res s') : s.depth ≤ s'.depth + 1 := by
  rcases attempt_eq_ok.1 h with ⟨_, -, hexit⟩ | ⟨e, -, hexit⟩
  · exact (depth_exitContainer hexit).1
  · exact (exitContainer_leaves_err hexit).2

theorem grows_depth_detectAttributeIBKind : Grows DissectState.depth detectAttributeIBKind := by
  refine Grows.bind (.gets _) fun type => .ite ?_ (.pure _)
  refine grows_depth_lookAhead (k := fun res => do
    let _ ← attempt exitContainer
    pure res.1.kind) still_detectMember (fun res s a s' h => ?_) fun res => ?_
  · obtain ⟨left, s₁, hexit, hpure⟩ := bind_eq_ok.1 h
    cases hpure
    exact depth_attempt_exitContainer hexit
  · exact (NeverFails.attempt _).bind fun _ => .pure _

/-- The look-ahead has consumed the structure, so no handler finds one. -/
theorem addDetectedIB_struct {nested : ProtoNode → DissectM Unit}
    (h : ∀ tree, BeginsStruct (nested tree)) (itemTree : ProtoNode) (hs : Focused data s.tlv)
    (htype : s.tlv.reader.getType = .struct) :
    (∀ u s', (addDetectedIB env nested itemTree).run s ≠ .ok u s') ∧
      ∀ e s', (addDetectedIB env nested itemTree).run s = .err e s' →
        s'.tlv.reader.getType = .notSpecified := by
  constructor
  · intro u s' hrun
    obtain ⟨kind, s₁, hdetect, hrun⟩ := bind_eq_ok.1 hrun
    have hnone := (detectAttributeIBKind_struct hs htype hdetect).2.2
    have hne : s₁.tlv.reader.getType ≠ .struct := by rw [hnone]; exact fun he => by cases he
    cases kind with
    | data => exact (beginsStruct_addDetected env itemTree).1.run_ne_ok hne hrun
    | status => exact (beginsStruct_addDetected env itemTree).2.run_ne_ok hne hrun
    | unknown => exact (h itemTree).run_ne_ok hne hrun
  · intro e s' hrun
    rcases bind_eq_err.1 hrun with hdetect | ⟨kind, s₁, hdetect, hrun⟩
    · exact absurd hdetect (neverFails_detectAttributeIBKind _ _ _)
    have hnone := (detectAttributeIBKind_struct hs htype hdetect).2.2
    have hne : s₁.tlv.reader.getType ≠ .struct := by rw [hnone]; exact fun he => by cases he
    have hstay : s' = s₁ := by
      cases kind with
      | data => exact (beginsStruct_addDetected env itemTree).1.run_err hne hrun
      | status => exact (beginsStruct_addDetected env itemTree).2.run_err hne hrun
      | unknown => exact (h itemTree).run_err hne hrun
    rw [hstay]
    exact hnone

theorem decodesStruct_addDetectedIB {nested : ProtoNode → DissectM Unit}
    (h : ∀ tree, Handles True (nested tree)) (hbegins : ∀ tree, BeginsStruct (nested tree))
    (itemTree : ProtoNode) : DecodesStruct (addDetectedIB env nested itemTree) where
  retried := by
    refine grows_retried_detectAttributeIBKind.bind fun kind => ?_
    cases kind with
    | data => exact (handles_addAttributeDataIBItem env itemTree).retried
    | status => exact (handles_addAttributeStatusIBItem env itemTree).retried
    | unknown => exact (h itemTree).retried
  depth := by
    refine grows_depth_detectAttributeIBKind.bind fun kind => ?_
    cases kind with
    | data => exact (handles_addAttributeDataIBItem env itemTree).depth
    | status => exact (handles_addAttributeStatusIBItem env itemTree).depth
    | unknown => exact (h itemTree).depth
  onTrack hs htype hrun :=
    absurd hrun ((addDetectedIB_struct env hbegins itemTree hs htype).1 _ _)
  falls hs htype herr :=
    fellFrom_of_getType htype ((addDetectedIB_struct env hbegins itemTree hs htype).2 _ _ herr)

theorem handles_attributeReportMember {nested : ProtoNode → DissectM Unit}
    (h : ∀ tree, Handles True (nested tree)) (hbegins : ∀ tree, BeginsStruct (nested tree))
    (itemTree : ProtoNode) : Handles True (attributeReportMember env nested itemTree) := by
  refine Handles.bind still_getTag.handles fun tag => .ite ?_
    (handles_addNestedIB env (decodesStruct_addDetectedIB env h hbegins) itemTree)
  split
  · exact handles_addStructOr env _ (handles_addAttributeStatusIBItem env)
  · exact handles_addStructOr env _ (handles_addAttributeDataIBItem env)
  · exact handles_addUnknown env _

theorem handles_addAttributeReportIBItemTo : ∀ (depth : Nat) (tree : ProtoNode),
    Handles True (addAttributeReportIBItemTo env depth tree)
  | 0, _ => Still.handles (Leaves.stop _)
  | depth + 1, tree => by
    refine Handles.bind still_getType.handles fun type => (handles_verify _ _).bind fun _ => ?_
    refine Handles.bind (still_addSubTreeItem _ _ _).handles fun itemTree => ?_
    exact handles_overMembers (fun _ => handles_attributeReportMember env
      (handles_addAttributeReportIBItemTo depth)
      (beginsStruct_addAttributeReportIBItemTo env depth) itemTree) ()

theorem handles_addAttributeReportIBItem (tree : ProtoNode) :
    Handles True (addAttributeReportIBItem env tree) :=
  Handles.bind (Still.handles Leaves.get) fun _ => handles_addAttributeReportIBItemTo env _ tree

/-! ## Commands -/

theorem handles_addNamedCommandPayload (tree : ProtoNode) (clusterId commandId : Nat)
    (isRequest : Bool) :
    Handles may (addNamedCommandPayload env tree clusterId commandId isRequest) := by
  refine Handles.bind still_getType.handles fun type => (handles_verify _ _).bind fun _ => ?_
  refine Handles.bind (still_addSubTreeItemF _ _ _ _).handles fun argTree => ?_
  exact handles_overMembers (fun _ => handles_addFieldBy env _ _) ()

theorem handles_commandDataMember (decodeNamedPayload isRequestPayload : Bool)
    (dataElemTree : ProtoNode) (commandPath : Option (Nat × Nat)) :
    Handles may (commandDataMember env decodeNamedPayload isRequestPayload dataElemTree
      commandPath) := by
  refine Handles.bind still_getTag.handles fun tag => Handles.bind still_getType.handles
    fun type => (handles_verify _ _).bind fun _ => ?_
  split
  · exact (handles_verify _ _).bind fun _ =>
      (handles_addPathItemAndExtractIds env _ .command).bind fun _ => .pure _
  · refine Handles.bind (Handles.bind still_getType.handles fun type => ?_) fun _ => .pure _
    split
    · exact handles_addNamedCommandPayload env _ _ _ _
    · exact handles_addGenericTLVItem env.host _ _ _
  · exact (handles_addUnknown env _).bind fun _ => .pure _

theorem handles_addCommandDataIB (tree : ProtoNode) (decodeNamedPayload isRequestPayload : Bool) :
    Handles may (addCommandDataIB env tree decodeNamedPayload isRequestPayload) :=
  Handles.bind (still_addSubTreeItem _ _ _).handles fun _ =>
    (handles_overMembers (handles_commandDataMember env _ _ _) none).bind fun _ => .pure _

theorem handles_addCommandStatusIB (tree : ProtoNode) :
    Handles may (addCommandStatusIB env tree) := by
  refine Handles.bind still_getType.handles fun type => (handles_verify _ _).bind fun _ => ?_
  refine Handles.bind (still_addSubTreeItem _ _ _).handles fun statusTree => ?_
  refine handles_overMembers (fun _ => Handles.bind still_getTag.handles fun tag =>
    (handles_verify _ _).bind fun _ => ?_) ()
  split
  · exact handles_addNamedPathItem env _ .command
  · exact handles_addStatusIB env _
  · exact handles_addTypedItem _ _
  · exact handles_addUnknown env _

theorem handles_invokeResponseMember (tree : ProtoNode) :
    Handles may (invokeResponseMember env tree) := by
  refine Handles.bind still_getTag.handles fun tag => ?_
  refine Handles.bind still_getType.handles fun type => (handles_verify _ _).bind fun _ => ?_
  split
  · exact (handles_verify _ _).bind fun _ => handles_addCommandDataIB env _ _ _
  · exact (handles_verify _ _).bind fun _ => handles_addCommandStatusIB env _
  · exact handles_addUnknown env _

theorem handles_addInvokeResponseIB (tree : ProtoNode) :
    Handles may (addInvokeResponseIB env tree) :=
  handles_overMembers (fun _ => handles_invokeResponseMember env tree) ()

end

end

end Matter.IM
