import MatterDissector.IM.Proof.Paths

/-!
# What is decoded of encoded elements

Rules for the handlers of information blocks on well-formed elements: `Does` with a value that is
given if a condition on the element holds (`guarded`). A block is decoded if its element is a
structure all of whose members are (`isBlockOf`). Named values are always decoded, unless a decoder
of their bytes crashes.
-/

namespace Matter.TLV

theorem Prim.isContainer_elemType (p : Prim) : tlvTypeIsContainer p.elemType = false := by
  cases p with
  | bool b => cases b <;> rfl
  | sint w | uint w | utf8 w | bytes w => cases w <;> rfl
  | float32 | float64 | null => rfl

namespace Elem

def isContainer : Elem → Bool
  | .prim _ _ => false
  | .container _ _ _ => true

def members : Elem → List Elem
  | .prim _ _ => []
  | .container _ _ members => members

theorem isContainer_of_type {e : Elem} (h : e.type = .struct) : e.isContainer = true := by
  cases e with
  | prim tag p => cases p <;> cases h
  | container tag kind members => rfl

/-- The number of a context tag. -/
def contextNum : Elem → Option Nat
  | .prim (.context num) _ => some num.toNat
  | .container (.context num) _ _ => some num.toNat
  | _ => none

end Elem

end Matter.TLV

namespace Matter.IM

open Prog TLV Display TLV.Dissect
open TLVReader (InBounds)

section
variable {α β : Type} {data rest : List UInt8} {ip : Nat} {containerType : TLVType} {e : Elem}
  {s s' : DissectState} {may crash : Prop}

/-! ## Tags -/

theorem contextNum_some {n : Nat} (h : OnElem data ip containerType e rest s)
    (hn : e.contextNum = some n) :
    isContextTag s.tlv.reader.getTag = true ∧ tagNumFromTag s.tlv.reader.getTag = n := by
  obtain ⟨num, htag, rfl⟩ : ∃ num, e.tag = .context num ∧ num.toNat = n := by
    unfold Elem.contextNum at hn
    split at hn <;> cases hn <;> exact ⟨_, rfl, rfl⟩
  refine ⟨by rw [h.isContextTag_eq, htag]; rfl, ?_⟩
  have hlt := num.isLt
  have hvalue : s.tlv.reader.getTag = contextTag num.toNat := by rw [h.tag_eq, htag]; rfl
  rw [hvalue, contextTag_eq (by omega), tagNumFromTag_eq]
  omega

theorem contextNum_none (h : OnElem data ip containerType e rest s) (hn : e.contextNum = none) :
    isContextTag s.tlv.reader.getTag = false := by
  rw [h.isContextTag_eq]
  unfold Elem.contextNum at hn
  split at hn
  · cases hn
  · cases hn
  · rename_i hprim hcontainer
    cases e with
    | prim tag p => cases tag <;> first | rfl | exact absurd rfl (hprim _ _)
    | container tag kind members =>
      cases tag <;> first | rfl | exact absurd rfl (hcontainer _ _ _)

/-- What is done under a context tag, by its number, and elsewhere. -/
theorem ifContext_run {k : Nat → DissectM α} {other : DissectM α}
    (h : OnElem data ip containerType e rest s) :
    (if isContextTag s.tlv.reader.getTag = true then k (tagNumFromTag s.tlv.reader.getTag)
      else other) = (e.contextNum.map k).getD other := by
  cases hn : e.contextNum with
  | none =>
    rw [contextNum_none h hn, if_neg (by decide)]
    rfl
  | some n =>
    obtain ⟨hcontext, htag⟩ := contextNum_some h hn
    rw [if_pos hcontext, htag]
    rfl

/-- An element with a context tag is shown anywhere. -/
theorem shown_context {n : Nat} (h : OnElem data ip containerType e rest s)
    (hn : e.contextNum = some n) : ¬ NothingAppended false false 0 s.tlv.reader := by
  rintro ⟨⟨-, hnone⟩, -⟩
  obtain ⟨hcontext, -⟩ := hnone.resolve_left fun he => by cases he
  rw [(contextNum_some h hn).1] at hcontext
  cases hcontext

/-! ## Containers -/

theorem enterContainer_fails (h : tlvTypeIsContainer s.tlv.reader.elementType = false) :
    ∃ err s', enterContainer.run s = .err err s' := by
  have hread : TLVReader.enterContainer.run s.tlv.reader =
      .err .incorrectState s.tlv.reader := by
    rw [TLVReader.enterContainer, get_bind]
    dsimp only
    rw [h, bind_err (run_verify_false _ _)]
  exact ⟨_, _, onTlv_eq_err.2 ⟨_, bind_err (onReader_eq_err.2 ⟨_, hread, rfl⟩), rfl⟩⟩

/-- The members of an element, if it is a container. -/
theorem overMembers_does {body : β → DissectM β} {ok : Elem → Bool} {g : β → Elem → β}
    (h : OnElem data ip containerType e rest s)
    (hbody : BodyDoes may crash data ip e.type e.members body fun b e => guarded (ok e) (g b e))
    (hgrows : may → ∀ b, Grows DissectState.retried (body b)) (b : β) :
    Does may crash data (overMembers body b) s
      (guarded (e.isContainer && e.members.all ok) (e.members.foldl g b)) := by
  cases e with
  | prim tag p =>
    have htype : tlvTypeIsContainer s.tlv.reader.elementType = false := by
      rw [h.positioned.elementType_eq]
      exact p.isContainer_elemType
    obtain ⟨err, s', henter⟩ := enterContainer_fails htype
    exact Does.of_err (bind_err henter)
  | container tag kind members =>
    have hmembers := members_does h hbody hgrows b
    rw [foldlM_guarded] at hmembers
    exact hmembers

/-- A subtree that can be shown on every element. -/
structure ShowsTree (x : DissectM ProtoNode) : Prop where
  still : Still x
  shows : ∀ {s}, s.tlv.reader.getType ≠ .notSpecified → ∃ node s', x.run s = .ok node s'

theorem showsTree_addSubTreeItem (tree : ProtoNode) (hfindex : HeaderField) (ett : Ett) :
    ShowsTree (addSubTreeItem tree hfindex ett) where
  still := still_addSubTreeItem _ _ _
  shows hne := by
    rw [addSubTreeItem, getType, gets_bind, decide_eq_true hne, bind_ok (run_verify_true _ _)]
    exact ⟨_, _, rfl⟩

theorem showsTree_addSubTreeItemF (tree : ProtoNode) (hfindex : HeaderField) (ett : Ett)
    (text : Text) : ShowsTree (addSubTreeItemF tree hfindex ett text) where
  still := still_addSubTreeItemF _ _ _ _
  shows hne := by
    obtain ⟨node, s', hitem⟩ := (showsTree_addSubTreeItem tree hfindex ett).shows hne
    rw [addSubTreeItemF, bind_ok hitem]
    exact ⟨_, _, rfl⟩

theorem ShowsTree.bind_does {x : DissectM ProtoNode} {k : ProtoNode → DissectM α} {o : Option α}
    (hx : ShowsTree x) (h : OnElem data ip containerType e rest s)
    (hk : ∀ node s', OnElem data ip containerType e rest s' → Does may crash data (k node) s' o) :
    Does may crash data (x >>= k) s o := by
  obtain ⟨node, s₁, hrun⟩ := hx.shows h.type_ne
  obtain ⟨htlv, hretried⟩ := hx.still.ok hrun
  exact (hk node s₁ (h.congr htlv)).congr (bind_ok hrun) htlv hretried

/-- A structure all of whose members are `ok`. -/
def isBlockOf (ok : Elem → Bool) (e : Elem) : Bool := e.type = .struct && e.members.all ok

/-- A block: a structure with a subtree. -/
theorem structBlock_does {addTree : DissectM ProtoNode} {body : ProtoNode → β → DissectM β}
    {ok : Elem → Bool} {g : β → Elem → β} (htree : ShowsTree addTree)
    (h : OnElem data ip containerType e rest s)
    (hbody : ∀ node, BodyDoes may crash data ip .struct e.members (body node)
      fun b e => guarded (ok e) (g b e))
    (hgrows : may → ∀ node b, Grows DissectState.retried (body node b)) (b : β) :
    Does may crash data (do
      let type ← getType
      verify (type = .struct) .unexpectedTLVElement
      let node ← addTree
      overMembers (body node) b) s (guarded (isBlockOf ok e) (e.members.foldl g b)) := by
  have hverified : Does may crash data (verify (s.tlv.reader.getType = .struct)
      .unexpectedTLVElement >>= fun _ => addTree >>= fun node => overMembers (body node) b) s
      (if decide (s.tlv.reader.getType = .struct) = true then
        guarded (e.members.all ok) (e.members.foldl g b) else none) := by
    refine Does.verify_bind fun htype => ?_
    rw [decide_eq_true_iff, h.type_eq] at htype
    refine htree.bind_does h fun node s₁ h₁ => ?_
    have hmembers := overMembers_does h₁ (htype ▸ hbody node) (fun hmay => hgrows hmay node) b
    rwa [Elem.isContainer_of_type htype, Bool.true_and] at hmembers
  rw [isBlockOf, guarded_and, ← h.type_eq]
  exact hverified

/-- A block that keeps nothing of its members. -/
theorem structBlock_does_unit {addTree : DissectM ProtoNode}
    {body : ProtoNode → β → DissectM β} {ok : Elem → Bool} {g : β → Elem → β}
    (htree : ShowsTree addTree) (h : OnElem data ip containerType e rest s)
    (hbody : ∀ node, BodyDoes may crash data ip .struct e.members (body node)
      fun b e => guarded (ok e) (g b e))
    (hgrows : may → ∀ node b, Grows DissectState.retried (body node b)) (b : β) :
    Does may crash data (do
      let type ← getType
      verify (type = .struct) .unexpectedTLVElement
      let node ← addTree
      let _ ← overMembers (body node) b
      pure ()) s (guarded (isBlockOf ok e) ()) := by
  have hdoes := (structBlock_does htree h hbody hgrows b).returning ()
  simpa only [bind_assoc] using hdoes

/-- The element is a list or a structure: the decoders look for a path in it. -/
def isPathLike (e : Elem) : Bool := e.type = .path || e.type = .struct

theorem isPathLike_iff : isPathLike e = true ↔ e.type = .path ∨ e.type = .struct := by
  simp [isPathLike]

/-! ## Generic items -/

section
variable (env : Env)

theorem addUnknown_does (tree : ProtoNode) (h : OnElem data ip containerType e rest s)
    (hrest : rest ≠ []) (hcontainer : containerType = .struct ∨ containerType = .path) :
    Does may crash data (addUnknown env tree) s (some ()) :=
  addGenericTLVItem_does env.host tree .imCommonUnknown h hrest (h.shown hcontainer)

theorem addUnknown_does_context (tree : ProtoNode) {n : Nat}
    (h : OnElem data ip containerType e rest s) (hrest : rest ≠ []) (hn : e.contextNum = some n) :
    Does may crash data (addUnknown env tree) s (some ()) :=
  addGenericTLVItem_does env.host tree .imCommonUnknown h hrest (shown_context h hn)

/-! ## Typed items -/

/-- `AddTypedItem` can show an element of this type. -/
def typedOk (hfindex : HeaderField) : TLVType → Bool
  | .signedInteger =>
    hfindex.ftype ∈ [.int8, .int16, .int24, .int32, .int40, .int48, .int56, .int64]
  | .unsignedInteger =>
    hfindex.ftype ∈ [.uint8, .uint16, .uint24, .uint32, .uint40, .uint48, .uint56, .uint64]
  | .boolean | .floatingPointNumber | .utf8String | .byteString | .null => true
  | _ => false

/-- A number in a field of one of two kinds. -/
theorem eitherField_does {ftype : FieldType} {short long : List FieldType} {x y : DissectM Unit}
    (hx : Does may crash data x s (some ())) (hy : Does may crash data y s (some ())) :
    Does may crash data (if ftype ∈ short then x else if ftype ∈ long then y
      else throw .invalidArgument) s (guarded (ftype ∈ short ++ long) ()) := by
  by_cases hshort : ftype ∈ short
  · rw [if_pos hshort, decide_eq_true (List.mem_append_left _ hshort)]
    exact hx
  by_cases hlong : ftype ∈ long
  · rw [if_neg hshort, if_pos hlong, decide_eq_true (List.mem_append_right _ hlong)]
    exact hy
  · have hnone : ftype ∉ short ++ long := by simp [hshort, hlong]
    rw [if_neg hshort, if_neg hlong, decide_eq_false hnone]
    exact .of_err rfl

/-- A value is read and shown if there is a way to. -/
theorem addTypedItem_does (tree : ProtoNode) (hfindex : HeaderField)
    (h : OnElem data ip containerType e rest s) (hrest : rest ≠ []) :
    Does may crash data (addTypedItem tree hfindex) s (guarded (typedOk hfindex e.type) ()) := by
  have hitem : ∀ shown, Does may crash data (do
      let _ ← addShown tree hfindex shown
      pure () : DissectM Unit) s (some ()) := fun shown => .of_ok rfl rfl h.focused.balanced
  have hshown : ∀ {s'}, (addTypedItem tree hfindex).run s = .ok () s' →
      Does may crash data (addTypedItem tree hfindex) s (some ()) :=
    fun hrun => (handles_addTypedItem tree hfindex : Handles False _).does h.focused hrun
  have hrun : (addTypedItem tree hfindex).run s = (addTypedValue tree hfindex e.type).run s := by
    rw [addTypedItem, getType, gets_bind, h.type_eq]
  cases e with
  | prim tag p =>
    cases p with
    | sint w v =>
      have hget := onReader_ok (h.positioned.getInt64_sint rfl)
      exact (eitherField_does (hitem _) (hitem _)).congr (hrun.trans (bind_ok hget)) rfl rfl
    | uint w v =>
      have hget := onReader_ok (h.positioned.getUInt64_uint rfl)
      exact (eitherField_does (hitem _) (hitem _)).congr (hrun.trans (bind_ok hget)) rfl rfl
    | bool b => exact hshown (hrun.trans (bind_ok (onReader_ok (h.positioned.getBool_bool rfl))))
    | float32 v =>
      exact hshown (hrun.trans (bind_ok (onReader_ok (h.positioned.getDouble_float rfl))))
    | float64 v =>
      exact hshown (hrun.trans (bind_ok (onReader_ok (h.positioned.getDouble_float rfl))))
    | utf8 w v =>
      obtain ⟨r, hdup⟩ := h.dupString_ok
      exact hshown (hrun.trans (bind_ok (onReader_ok hdup)))
    | bytes w v =>
      obtain ⟨bytes, hbytes⟩ := h.dataBytes_ok hrest
      exact hshown (hrun.trans (bind_ok hbytes))
    | null => exact hshown hrun
  | container tag kind members => cases kind <;> exact Does.of_err hrun

/-! ## Named values -/

theorem neverFails_addField (tree : ProtoNode) (text : Text) : NeverFails (addField tree text) :=
  fun _ _ _ h => by cases h

section
variable (named : ProtoNode → Text → DissectM Unit)

/-- An error of a decoder inside a byte string is dropped. -/
theorem neverFails_addDecodedBytes (tree : ProtoNode) (fieldName : Text) (value : List UInt8)
    (elemStart elemLen : Nat) :
    NeverFails (addDecodedBytes env named tree fieldName value elemStart elemLen) := by
  have hdrop : ∀ x : DissectM Unit, NeverFails (do let _ ← attempt x; pure () : DissectM Unit) :=
    fun x => (NeverFails.attempt x).bind fun _ => .pure _
  refine .ite (.pure _) (.ite (hdrop _) (.ite (.pure _) (.ite ?_ (.ite (hdrop _) (.ite (hdrop _)
    (.pure _))))))
  refine (NeverFails.attempt _).bind fun res => ?_
  cases res with
  | ok u => exact .pure _
  | error err => exact hdrop _

/-- A byte string is left to the decoder of its field. -/
theorem addNamedCommandValueBy_bytes (tree : ProtoNode) (fieldName : Text) {tag : Tag} {w : Width}
    {v : SizedBytes w} (h : OnElem data ip containerType (.prim tag (.bytes w v)) rest s)
    (hrest : rest ≠ []) :
    ∃ s', s'.tlv = s.tlv ∧ (addNamedCommandValueBy env named tree fieldName).run s =
      (addDecodedBytes env named tree fieldName v.bytes s.tlv.elemStart s.tlv.elemLen).run s' := by
  have hbytes := h.dataBytes_eq (h.readPoint_ne_bufEnd hrest)
  rw [addNamedCommandValueBy, getType, gets_bind, h.type_eq]
  refine ⟨_, ?_, bind_ok hbytes⟩
  rfl

/-- The value of an element is shown, if it is not a byte string, which may have a decoder. -/
theorem addNamedCommandValueBy_run (tree : ProtoNode) (fieldName : Text)
    (h : OnElem data ip containerType e rest s) (hrest : rest ≠ []) :
    (∃ s', (addNamedCommandValueBy env named tree fieldName).run s = .ok () s') ∨
      ∃ tag w, ∃ v : SizedBytes w, e = .prim tag (.bytes w v) ∧ ∃ elemStart elemLen s',
        (addNamedCommandValueBy env named tree fieldName).run s =
          (addDecodedBytes env named tree fieldName v.bytes elemStart elemLen).run s' := by
  rw [addNamedCommandValueBy, getType, gets_bind, h.type_eq]
  have hread : ∀ {δ : Type} {x : DissectM δ} {a : δ} {s₁ : DissectState} (text : δ → Text),
      x.run s = .ok a s₁ →
        ∃ s', (do addField tree (text (← x)) : DissectM Unit).run s = .ok () s' :=
    fun text hget => ⟨_, bind_ok hget⟩
  cases e with
  | prim tag p =>
    cases p with
    | sint w v => exact .inl (hread _ (onReader_ok (h.positioned.getInt64_sint rfl)))
    | uint w v => exact .inl (hread _ (onReader_ok (h.positioned.getUInt64_uint rfl)))
    | bool b => exact .inl (hread _ (onReader_ok (h.positioned.getBool_bool rfl)))
    | float32 v => exact .inl (hread _ (onReader_ok (h.positioned.getDouble_float rfl)))
    | float64 v => exact .inl (hread _ (onReader_ok (h.positioned.getDouble_float rfl)))
    | utf8 w v =>
      obtain ⟨r, hdup⟩ := h.dupString_ok
      exact .inl (hread _ (onReader_ok hdup))
    | bytes w v =>
      have hbytes := h.dataBytes_eq (h.readPoint_ne_bufEnd hrest)
      exact .inr ⟨tag, w, v, rfl, _, _, _, bind_ok hbytes⟩
    | null => exact .inl ⟨_, rfl⟩
  | container tag kind members =>
    refine .inl ?_
    obtain ⟨s₁, hline⟩ : ∃ s₁, (addField tree (fieldName ++ Text.lit "=" ++ [])).run s =
        .ok () s₁ := ⟨_, rfl⟩
    have h₁ := h.congr ((still_addField _ _).ok hline).1
    have hgeneric : Does False False data
        (addGenericTLVItem env.host tree .imCommonUnknown true) s₁ (some ()) := by
      refine addGenericTLVItem_does env.host tree .imCommonUnknown h₁ hrest fun hnone => ?_
      have hbytes := hnone.2.1
      rw [h₁.type_eq] at hbytes
      cases kind <;> cases hbytes
    obtain ⟨s₂, hok, -⟩ := hgeneric.some_run
    cases kind <;> exact ⟨s₂, (bind_ok hline).trans hok⟩

/-- The value of every element can be shown. -/
theorem addNamedCommandValueBy_does (tree : ProtoNode) (fieldName : Text)
    (h : OnElem data ip containerType e rest s) (hrest : rest ≠ []) :
    Does may True data (addNamedCommandValueBy env named tree fieldName) s (some ()) := by
  refine (handles_addNamedCommandValueBy env named tree fieldName).does_unit h.focused
    fun err s' hrun => ?_
  rcases addNamedCommandValueBy_run env named tree fieldName h hrest with
    ⟨s₁, hok⟩ | ⟨tag, w, v, -, elemStart, elemLen, s₁, hdecode⟩
  · cases hok.symm.trans hrun
  · exact neverFails_addDecodedBytes env named _ _ _ _ _ _ _ _ (hdecode.symm.trans hrun)

end

theorem addNamedCommandValue_does (tree : ProtoNode) (fieldName : Text)
    (h : OnElem data ip containerType e rest s) (hrest : rest ≠ []) :
    Does may True data (addNamedCommandValue env tree fieldName) s (some ()) :=
  addNamedCommandValueBy_does env _ tree fieldName h hrest

end

end

end Matter.IM
