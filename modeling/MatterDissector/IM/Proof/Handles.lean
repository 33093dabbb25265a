import MatterDissector.IM.Message
import MatterDissector.TLV.Proof.Generic

/-!
# The handlers of information blocks

`Handles` for the handlers of `packet-matter-im.cpp`. The decoders inside byte strings run on a
dissector of their own, so they stay on the element (`still_addDecodedBytes`). A fallback on
`AddGenericTLVItem` (`decodeOr_onTrack`) needs more, namely how the first decode fails: on a list
or a structure it is stuck inside or has left the element behind (`FellFrom`), and where there is
no element nothing can be shown. So a run that goes on after such a failure is too deep.
-/

namespace Matter.IM

open Prog TLV Display TLV.Dissect
open TLVReader (InBounds)

section
variable {α β : Type} {data : List UInt8} {s s' : DissectState} {may : Prop}

/-! ## Rules -/

theorem isContainer_of_getType {r : TLVReader}
    (h : r.getType = .path ∨ r.getType = .struct ∨ r.getType = .array) :
    tlvTypeIsContainer r.elementType = true := by
  rw [getType_eq] at h
  rcases elementType_cases r with hlt | heq
  · have hall : ∀ elemType < 32, (typeOf elemType = .path ∨ typeOf elemType = .struct ∨
        typeOf elemType = .array) → tlvTypeIsContainer elemType = true := by decide
    exact hall _ hlt h
  · rw [heq] at h
    exact absurd h (by decide)

theorem still_attempt {x : DissectM α} (h : Still x) : Still (attempt x) := Leaves.attempt h

theorem still_decodeIn (other : TLVDissector) (x : DissectM α) : Still (decodeIn other x) :=
  Leaves.zoom x fun _ _ => rfl

theorem still_bind {x : DissectM α} {k : α → DissectM β} (hx : Still x) (hk : ∀ a, Still (k a)) :
    Still (x >>= k) := Leaves.bind hx hk

theorem still_ite {c : Prop} [Decidable c] {x y : DissectM α} (hx : Still x) (hy : Still y) :
    Still (if c then x else y) := Leaves.ite hx hy

theorem handles_overMembers {body : β → DissectM β} (hbody : ∀ b, Handles may (body b)) (b : β) :
    Handles may (overMembers body b) :=
  Handles.container hbody fun _ => .pure _

theorem handles_verify (b : Bool) (e : MatterError) :
    Handles may (verify b e : DissectM Unit) := Still.handles (Leaves.verify _ _)

theorem getType_exitContainer (h : exitContainer.run s = .ok () s') :
    s'.tlv.reader.getType = .notSpecified := by
  obtain ⟨d, hd, rfl⟩ := onTlv_eq_ok.1 h
  rw [TLVDissector.exitContainer, bind_eq_ok] at hd
  obtain ⟨_, d₁, -, hexit⟩ := hd
  obtain ⟨r, hr, rfl⟩ := onReader_eq_ok.1 hexit
  obtain ⟨e, -, rfl⟩ := exitContainer_eq_ok.1 hr
  exact getType_cleared (cleared_clearElementState _)

theorem getType_overMembers {body : β → DissectM β} {b b' : β}
    (h : (overMembers body b).run s = .ok b' s') : s'.tlv.reader.getType = .notSpecified := by
  obtain ⟨_, s₁, -, h⟩ := bind_eq_ok.1 h
  obtain ⟨_, s₂, -, h⟩ := bind_eq_ok.1 h
  obtain ⟨_, s₃, hexit, h⟩ := bind_eq_ok.1 h
  cases h
  exact getType_exitContainer hexit

theorem enterContainer_ok (htype : tlvTypeIsContainer s.tlv.reader.elementType = true) :
    ∃ s₀, enterContainer.run s = .ok () s₀ :=
  ⟨_, onTlv_eq_ok.2 ⟨_, enterContainer_tlv_eq_ok.2 ⟨htype, rfl⟩, rfl⟩⟩

/-- A container that `Skip` gets over is only left unfinished from inside. -/
theorem overMembers_fails {body : β → DissectM β} {b : β} {e : MatterError}
    (hbody : ∀ b, Handles may (body b)) (hs : Focused data s.tlv)
    (htype : tlvTypeIsContainer s.tlv.reader.elementType = true)
    (h : (overMembers body b).run s = .err e s') : s.depth < s'.depth := by
  obtain ⟨s₀, henter⟩ := enterContainer_ok htype
  obtain ⟨hdepth₀, -⟩ := depth_enterContainer henter
  rw [overMembers, bind_ok henter] at h
  rcases bind_eq_err.1 h with hloop | ⟨b', s₁, hloop, h⟩
  · have := (grows_forMembers grows_next_depth (fun b => (hbody b).depth) b).err hloop
    omega
  rcases bind_eq_err.1 h with hexit | ⟨_, s₂, -, h⟩
  · rcases (Among.entered may hs.inBounds henter).loop_ok hbody hdepth₀ hloop with
      ⟨-, d₁, hin, hend⟩ | ⟨-, -, hdeep⟩
    · -- the container has an end, so it could be left
      obtain ⟨d₀, hd₀, rfl⟩ := onTlv_eq_ok.1 henter
      obtain ⟨d', hd'⟩ := hin.exit_ok hs hd₀ hend
      have hok : exitContainer.run s₁ = .ok () { s₁ with tlv := d' } :=
        onTlv_eq_ok.2 ⟨d', hd', rfl⟩
      rw [hexit] at hok
      cases hok
    · have := (exitContainer_leaves_err hexit).2
      omega
  · cases h

/-! ## Fallbacks -/

/-- Where a decoder of lists and structures has failed that began at `s`. -/
def FellFrom (s s' : DissectState) : Prop :=
  if s.tlv.reader.getType = .path ∨ s.tlv.reader.getType = .struct then
    s.depth < s'.depth ∨ s'.tlv.reader.getType = .notSpecified
  else s'.tlv = s.tlv ∧ s'.retried = s.retried

/-- Where there is no element, `x` does not succeed. -/
def NeedsElement (x : DissectM α) : Prop :=
  ∀ {s a s'}, s.tlv.reader.getType = .notSpecified → x.run s ≠ .ok a s'

theorem NeedsElement.bind {x : DissectM α} (h : NeedsElement x) (k : α → DissectM β) :
    NeedsElement (x >>= k) := by
  intro s b s' hnone hrun
  obtain ⟨a, s₁, hx, -⟩ := bind_eq_ok.1 hrun
  exact h hnone hx

theorem grows_decodeOr {f : DissectState → Nat} {decode fallback : DissectM α}
    (hnote : ∀ type, Grows f (noteRetry type)) (hdecode : Grows f decode)
    (hfallback : Grows f fallback) : Grows f (decodeOr decode fallback) := by
  refine Grows.bind (.gets _) fun type => hdecode.attempt.bind fun res => ?_
  cases res with
  | ok a => exact .pure a
  | error e => exact (hnote type).bind fun _ => hfallback

theorem grows_retried_noteRetry (type : TLVType) :
    Grows DissectState.retried (noteRetry type) :=
  .intro (fun _ _ _ h => by cases h; exact Nat.le_add_right _ _) fun _ _ _ h => by cases h

theorem grows_depth_noteRetry (type : TLVType) : Grows DissectState.depth (noteRetry type) :=
  .intro (fun _ _ _ h => by cases h; exact Nat.le_refl _) fun _ _ _ h => by cases h

theorem noteRetry_eq_ok {type : TLVType} {u : Unit} (h : (noteRetry type).run s = .ok u s') :
    s'.tlv = s.tlv ∧
      s'.retried = s.retried + if type = .path ∨ type = .struct then 1 else 0 := by
  cases h
  exact ⟨rfl, rfl⟩

/-- A fallback that goes on after a failure on a list or a structure goes on inside it. -/
theorem decodeOr_onTrack {decode fallback : DissectM α} {a : α}
    (hdecode : ∀ a s', decode.run s = .ok a s' → OnTrack True data s s')
    (hretried : Grows DissectState.retried decode)
    (hfalls : ∀ e s', decode.run s = .err e s' → FellFrom s s')
    (hfallback : Handles True fallback) (hneeds : NeedsElement fallback)
    (hs : Focused data s.tlv) (h : (decodeOr decode fallback).run s = .ok a s') :
    OnTrack True data s s' := by
  rw [decodeOr, getType, gets_bind] at h
  obtain ⟨res, s₁, hattempt, h⟩ := bind_eq_ok.1 h
  rcases attempt_eq_ok.1 hattempt with ⟨a', rfl, hok⟩ | ⟨e, rfl, herr⟩
  · cases h
    exact hdecode _ _ hok
  · obtain ⟨_, s₂, hnote, h⟩ := bind_eq_ok.1 h
    obtain ⟨htlv, hcount⟩ := noteRetry_eq_ok hnote
    have hfell := hfalls e s₁ herr
    have hle := hretried.err herr
    unfold FellFrom at hfell
    split at hfell
    · rename_i htype
      rw [if_pos htype] at hcount
      rcases hfell with hdeep | hnone
      · have hmore := hfallback.retried.ok h
        have hdeeper := hfallback.depth.ok h
        have hsame : s₂.depth = s₁.depth := by rw [DissectState.depth, htlv]; rfl
        exact .inr ⟨trivial, by omega, by omega⟩
      · exact absurd h (hneeds (by rw [htlv]; exact hnone))
    · rename_i htype
      obtain ⟨hstay, hkeep⟩ := hfell
      rw [if_neg htype] at hcount
      have hsame : s₂.tlv = s.tlv := htlv.trans hstay
      rcases hfallback.onTrack (by rw [hsame]; exact hs) h with ⟨heq, hbal⟩ | ⟨-, hlt, hdeep⟩
      · exact .inl ⟨by omega, hsame ▸ hbal⟩
      · have hdepth : s₂.depth = s.depth := by rw [DissectState.depth, hsame]; rfl
        exact .inr ⟨trivial, by omega, by omega⟩

/-- `decodeOr` with a decoder whose failures are known on every element. -/
theorem handles_decodeOr {decode fallback : DissectM α} (hdecode : Handles True decode)
    (hfalls : ∀ {data s e s'}, Focused data s.tlv → decode.run s = .err e s' → FellFrom s s')
    (hfallback : Handles True fallback) (hneeds : NeedsElement fallback) :
    Handles True (decodeOr decode fallback) where
  retried := grows_decodeOr grows_retried_noteRetry hdecode.retried hfallback.retried
  depth := grows_decodeOr grows_depth_noteRetry hdecode.depth hfallback.depth
  onTrack hs h := decodeOr_onTrack (fun _ _ hok => hdecode.onTrack hs hok) hdecode.retried
    (fun _ _ herr => hfalls hs herr) hfallback hneeds hs h

theorem addGenericTLVItem_needsElement (host : Host) (node : ProtoNode) (hfindex : HeaderField)
    (suppressTag : Bool) : NeedsElement (addGenericTLVItem host node hfindex suppressTag) := by
  intro s a s' hnone h
  rw [addGenericTLVItem, addGenericTLVItemAt, get_bind, addGenericTLVItemTo, getType, gets_bind,
    getTag, gets_bind, hnone] at h
  obtain ⟨strBuf₁, s₁, -, h⟩ := bind_eq_ok.1 h
  obtain ⟨strBuf₂, s₂, -, h⟩ := bind_eq_ok.1 h
  obtain ⟨strBuf₃, s₃, hvalue, -⟩ := bind_eq_ok.1 h
  cases hvalue

section
variable (env : Env)

theorem handles_addUnknown (tree : ProtoNode) : Handles may (addUnknown env tree) :=
  handles_addGenericTLVItem env.host tree .imCommonUnknown false

theorem addUnknown_needsElement (tree : ProtoNode) : NeedsElement (addUnknown env tree) :=
  addGenericTLVItem_needsElement env.host tree .imCommonUnknown false

/-! ## Named values -/

theorem still_addField (tree : ProtoNode) (text : Text) : Still (addField tree text) :=
  still_addStringItemF _ _ _

theorem still_addDataTree (tree : ProtoNode) (text : Text) : Still (addDataTree tree text) :=
  still_addSubTreeItemF _ _ _ _

theorem still_addFieldIf (tree : ProtoNode) (label : String) :
    ∀ text, Still (addFieldIf tree label text)
  | some _ => still_addField _ _
  | none => Leaves.pure _

theorem still_addPublicKey (tree : ProtoNode) : ∀ pubKey, Still (addPublicKey tree pubKey)
  | some _ => still_bind (still_addFieldIf _ _ _) fun _ => still_addField _ _
  | none => Leaves.pure _

theorem still_addDecodedX509Certificate (tree : ProtoNode) (fieldName : Text)
    (value : List UInt8) : Still (addDecodedX509Certificate env tree fieldName value) := by
  unfold addDecodedX509Certificate
  split
  · exact Leaves.throw _
  · refine still_bind (still_addDataTree _ _) fun certTree => ?_
    refine still_bind (still_addFieldIf _ _ _) fun _ => ?_
    refine still_bind (still_addFieldIf _ _ _) fun _ => ?_
    refine still_bind (still_addFieldIf _ _ _) fun _ => ?_
    refine still_bind (still_addFieldIf _ _ _) fun _ => ?_
    refine still_bind (still_addFieldIf _ _ _) fun _ => ?_
    exact still_bind (still_addFieldIf _ _ _) fun _ => still_addPublicKey _ _

section
variable (named : ProtoNode → Text → DissectM Unit)

theorem still_addCmsContent (cmsTree : ProtoNode) (content : List UInt8) :
    Still (addCmsContent named cmsTree content) := by
  refine still_ite (Leaves.pure _) (still_bind (still_addField _ _) fun _ => ?_)
  refine still_bind (still_attempt ?_) fun _ => Leaves.pure _
  exact still_bind (Leaves.gets _) fun parent => still_decodeIn _ _

theorem still_addDecodedCertificationDeclarationCMS (value : List UInt8) (tree : ProtoNode) :
    Still (addDecodedCertificationDeclarationCMS env named value tree) := by
  unfold addDecodedCertificationDeclarationCMS
  split
  · exact Leaves.throw _
  · refine still_bind (still_addDataTree _ _) fun cmsTree => ?_
    refine still_bind (still_addFieldIf _ _ _) fun _ => ?_
    refine still_bind (still_addField _ _) fun _ => ?_
    refine still_bind ?_ fun _ => ?_
    · unfold addCmsSigner
      split
      · exact still_bind (still_addFieldIf _ _ _) fun _ => still_addFieldIf _ _ _
      · exact Leaves.pure _
    · exact still_bind (still_addField _ _) fun _ => still_addCmsContent named _ _

/-- What is decoded of a byte string is decoded by another dissector. -/
theorem still_addDecodedBytes (tree : ProtoNode) (fieldName : Text) (value : List UInt8)
    (elemStart elemLen : Nat) :
    Still (addDecodedBytes env named tree fieldName value elemStart elemLen) := by
  have hswallow : ∀ {x : DissectM Unit}, Still x →
      Still (do let _ ← attempt x; pure () : DissectM Unit) := fun hx =>
    still_bind (still_attempt hx) fun _ => Leaves.pure _
  refine still_ite (Leaves.pure _) (still_ite ?_ (still_ite (Leaves.pure _) (still_ite ?_
    (still_ite ?_ (still_ite ?_ (Leaves.pure _))))))
  · exact hswallow (still_addDecodedCertificationDeclarationCMS env named _ _)
  · refine still_bind (still_attempt (still_addDecodedX509Certificate env _ _ _)) fun res => ?_
    cases res with
    | ok _ => exact Leaves.pure _
    | error e => exact hswallow (still_decodeIn _ _)
  · exact hswallow (still_bind (Leaves.gets _) fun parent => still_decodeIn _ _)
  · exact hswallow (still_bind (Leaves.gets _) fun parent => still_decodeIn _ _)

theorem handles_addNamedCommandValueBy (tree : ProtoNode) (fieldName : Text) :
    Handles may (addNamedCommandValueBy env named tree fieldName) := by
  have hline : ∀ text, Handles may (addField tree (fieldName ++ Text.lit "=" ++ text)) :=
    fun text => (still_addField _ _).handles
  refine Handles.bind still_getType.handles fun type => ?_
  split
  · exact (handles_onReader leaves_getInt64).bind fun _ => hline _
  · exact (handles_onReader leaves_getUInt64).bind fun _ => hline _
  · exact (handles_onReader leaves_getBool).bind fun _ => hline _
  · exact (handles_onReader leaves_getDouble).bind fun _ => hline _
  · exact handles_dupString.bind fun _ => hline _
  · refine still_getLength.handles.bind fun _ => still_dataBytes.handles.bind fun _ => ?_
    refine (hline _).bind fun _ => Handles.bind (Still.handles (Leaves.gets _)) fun d => ?_
    exact (still_addDecodedBytes env named _ _ _ _ _).handles
  · exact hline _
  · exact (hline _).bind fun _ => handles_addGenericTLVItem env.host _ _ _
  · exact (hline _).bind fun _ => handles_addGenericTLVItem env.host _ _ _
  · exact (hline _).bind fun _ => handles_addGenericTLVItem env.host _ _ _
  · exact .throw _

end

theorem handles_addNamedCommandValue (tree : ProtoNode) (fieldName : Text) :
    Handles may (addNamedCommandValue env tree fieldName) :=
  handles_addNamedCommandValueBy env _ tree fieldName

theorem handles_addFieldBy (tree : ProtoNode) (getFieldName : Nat → Option Text) :
    Handles may (addFieldBy env tree getFieldName) := by
  refine Handles.bind still_getTag.handles fun tag => ?_
  split
  · exact handles_addNamedCommandValue env _ _
  · exact handles_addUnknown env _

theorem handles_addNumberOr (tree : ProtoNode) (fieldName : Text)
    (lookupName : Nat → Option Text) {other : DissectM Unit} (h : Handles may other) :
    Handles may (addNumberOr tree fieldName lookupName other) := by
  refine Handles.bind still_getType.handles fun type => ?_
  split
  · exact (handles_onReader leaves_getUInt64).bind fun _ => (still_addField _ _).handles
  · exact (handles_onReader leaves_getInt64).bind fun _ => (still_addField _ _).handles
  · exact h

theorem still_unsignedValue : Still unsignedValue := by
  refine still_bind still_getType fun type => still_ite ?_ (Leaves.pure _)
  refine still_bind (still_attempt (still_onReader leaves_getUInt64)) fun res => ?_
  cases res <;> exact Leaves.pure _

theorem handles_addDataVersion (itemTree : ProtoNode) (hfindex : HeaderField) :
    Handles may (addDataVersion env itemTree hfindex) := by
  refine Handles.bind still_unsignedValue.handles fun value => ?_
  split
  · exact (still_addStringItemF _ _ _).handles
  · exact handles_addUnknown env _

end

/-! ## Paths -/

theorem still_pathMember (note : PathIds → Nat → Nat → PathIds) (ids : PathIds) :
    Still (pathMember note ids) :=
  still_bind still_getTag fun _ => still_bind still_getType fun _ =>
    still_ite (still_bind (still_onReader leaves_getUInt64) fun _ => Leaves.pure _)
      (Leaves.pure _)

theorem handles_readPathIds (note : PathIds → Nat → Nat → PathIds) :
    Handles may (readPathIds note) :=
  Handles.bind still_getType.handles fun _ => (handles_verify _ _).bind fun _ =>
    (handles_overMembers (fun ids => (still_pathMember note ids).handles) {}).bind fun _ =>
      (handles_verify _ _).bind fun _ => .pure _

theorem readPathIds_fails {note : PathIds → Nat → Nat → PathIds} {e : MatterError}
    (hs : Focused data s.tlv) (h : (readPathIds note).run s = .err e s') : FellFrom s s' := by
  rw [readPathIds, getType, gets_bind] at h
  unfold FellFrom
  by_cases htype : s.tlv.reader.getType = .path ∨ s.tlv.reader.getType = .struct
  · rw [if_pos htype]
    rw [decide_eq_true htype, bind_ok (run_verify_true _ _)] at h
    have hcontainer := isContainer_of_getType (htype.imp id Or.inl)
    rcases bind_eq_err.1 h with hloop | ⟨ids, s₁, hloop, h⟩
    · have hbody (ids : PathIds) : Handles True (pathMember note ids) :=
        (still_pathMember note ids).handles
      exact .inl (overMembers_fails hbody hs hcontainer hloop)
    · have hnone := getType_overMembers hloop
      rcases bind_eq_err.1 h with hempty | ⟨_, s₂, -, h⟩
      · rw [(Still.err (Leaves.verify _ _) hempty).1]
        exact .inr hnone
      · cases h
  · rw [if_neg htype]
    rw [decide_eq_false htype, bind_err (run_verify_false _ _)] at h
    cases h
    exact ⟨rfl, rfl⟩

section
variable (env : Env) (tree : ProtoNode) (kind : PathKind)

theorem handles_addNamedPathItem : Handles may (addNamedPathItem env tree kind) :=
  (handles_readPathIds _).bind fun _ => (still_addStringItemF _ _ _).handles

theorem handles_addPathItemAndExtractIds :
    Handles may (addPathItemAndExtractIds env tree kind) :=
  (handles_readPathIds _).bind fun _ => (still_addStringItemF _ _ _).handles.bind fun _ => .pure _

theorem addNamedPathItem_fails {e : MatterError} (hs : Focused data s.tlv)
    (h : (addNamedPathItem env tree kind).run s = .err e s') : FellFrom s s' := by
  rcases bind_eq_err.1 h with hread | ⟨ids, s₁, -, h⟩
  · exact readPathIds_fails hs hread
  · cases h

theorem addPathItemAndExtractIds_fails {e : MatterError} (hs : Focused data s.tlv)
    (h : (addPathItemAndExtractIds env tree kind).run s = .err e s') : FellFrom s s' := by
  rcases bind_eq_err.1 h with hread | ⟨ids, s₁, -, h⟩
  · exact readPathIds_fails hs hread
  · cases h

/-! ## Blocks without nested blocks -/

/-- The decoder of the path in a block, and `AddGenericTLVItem` if that fails. -/
theorem handles_pathOr : Handles True
    (decodeOr (addNamedPathItem env tree kind) (addUnknown env tree)) :=
  handles_decodeOr (handles_addNamedPathItem env tree kind)
    (fun hs h => addNamedPathItem_fails env tree kind hs h) (handles_addUnknown env tree)
    (addUnknown_needsElement env tree)

theorem handles_addEventFilterIBItem : Handles may (addEventFilterIBItem env tree) := by
  refine Handles.bind still_getType.handles fun type => (handles_verify _ _).bind fun _ => ?_
  refine Handles.bind (still_addSubTreeItem _ _ _).handles fun itemTree => ?_
  refine handles_overMembers (fun _ => ?_) ()
  refine Handles.bind still_getTag.handles fun tag => Handles.bind still_getType.handles fun type =>
    .ite ((handles_onReader leaves_getUInt64).bind fun value => ?_) (handles_addUnknown env _)
  split
  · exact (still_addStringItemF _ _ _).handles
  · exact (still_addStringItemF _ _ _).handles
  · exact handles_addUnknown env _

theorem handles_dataVersionFilterMember : Handles True (dataVersionFilterMember env tree) := by
  refine Handles.bind still_getTag.handles fun tag => .ite ?_ (handles_addUnknown env _)
  split
  · exact handles_pathOr env _ .cluster
  · exact handles_addDataVersion env _ _
  · exact handles_addUnknown env _

theorem handles_addDataVersionFilterIBItem : Handles True (addDataVersionFilterIBItem env tree) :=
  Handles.bind still_getType.handles fun _ => (handles_verify _ _).bind fun _ =>
    Handles.bind (still_addSubTreeItem _ _ _).handles fun itemTree =>
      handles_overMembers (fun _ => handles_dataVersionFilterMember env itemTree) ()

theorem handles_addStatusIB : Handles may (addStatusIB env tree) := by
  refine Handles.bind still_getType.handles fun type => (handles_verify _ _).bind fun _ => ?_
  refine Handles.bind (still_addSubTreeItem _ _ _).handles fun statusIBTree => ?_
  refine handles_overMembers (fun _ => ?_) ()
  refine Handles.bind still_getTag.handles fun tag => .ite ?_ (handles_addUnknown env _)
  split
  · exact handles_addTypedItem _ _
  · exact handles_addTypedItem _ _
  · exact handles_addUnknown env _

theorem handles_addNamedAttributeStructValue (clusterId attributeId : Nat) :
    Handles may (addNamedAttributeStructValue env tree clusterId attributeId) := by
  refine Handles.bind still_getType.handles fun type => (handles_verify _ _).bind fun _ => ?_
  refine Handles.bind (still_addSubTreeItemF _ _ _ _).handles fun valueTree => ?_
  exact handles_overMembers (fun _ => handles_addFieldBy env _ _) ()

theorem handles_addStructOr {addStruct : ProtoNode → DissectM Unit}
    (h : ∀ tree, Handles may (addStruct tree)) : Handles may (addStructOr env addStruct tree) :=
  Handles.bind still_getType.handles fun _ => .ite (h tree) (handles_addUnknown env tree)

end

end

end Matter.IM
