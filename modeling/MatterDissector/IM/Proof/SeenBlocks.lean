import MatterDissector.TLV.Proof.Seen
import MatterDissector.IM.Proof.BlocksDecode
import MatterDissector.IM.Proof.PathDecoders

/-!
# Which blocks are decoded in any buffer

The handlers of blocks that fall back on `AddGenericTLVItem`, with what each of them asks of the
element that is seen (`SeenElem`): of paths that there is an id in them, of a status that its
numbers fit their fields, of nested blocks the same again, and of all that is shown generically that
`Next` leads through it. On any other element a handler that returns at all has retried one of its
lists or structures. Faults are left open.
-/

namespace Matter.TLV.SeenElem

open IM

/-- The element is a list or a structure: the decoders look for a path in it. -/
def isPathLike (t : SeenElem) : Bool := t.type = .path || t.type = .struct

theorem isPathLike_iff {t : SeenElem} :
    t.isPathLike = true ↔ t.type = .path ∨ t.type = .struct := by
  simp [isPathLike]

/-- The ids after a member of a path. -/
def noteIds (note : PathIds → Nat → Nat → PathIds) (ids : PathIds) (t : SeenElem) : PathIds :=
  (t.number.map fun number => note ids number.1 number.2).getD ids

/-- What the decoder of a path reads of its members. -/
def pathIds (note : PathIds → Nat → Nat → PathIds) (t : SeenElem) : PathIds :=
  t.members.foldl (noteIds note) {}

/-- The element is a path with one of its ids. -/
def isPath (note : PathIds → Nat → Nat → PathIds) (t : SeenElem) : Bool :=
  t.isPathLike && (t.closed && !(t.pathIds note).isEmpty)

/-- The element is decoded as a path, or shown because it is neither a list nor a structure. -/
def isPathOr (note : PathIds → Nat → Nat → PathIds) (t : SeenElem) : Bool :=
  if t.isPathLike then t.isPath note else t.whole

/-- A structure that ends and all of whose members are `ok`. -/
def isBlockOf (ok : SeenElem → Bool) (t : SeenElem) : Bool :=
  t.type = .struct && (t.closed && t.members.all ok)

/-- What is asked of a member under a context tag, by its number, and of any other. -/
def contextOk (ok : Nat → SeenElem → Bool) (other : Bool) (t : SeenElem) : Bool :=
  match t.contextNum with
  | some n => ok n t
  | none => other

/-- If the element is a structure, it must be `ok`, and anything else is shown. -/
def structOr (t : SeenElem) (ok : Bool) : Bool := if t.type = .struct then ok else t.whole

mutual

/-- The element is a structure whose members are `ok` by their tags, and those without a context
tag are such structures again, if they are structures. -/
def nestedOk (ok : Nat → SeenElem → Bool) : SeenElem → Bool
  | mk _ type _ members closed => type = .struct && (closed && nestedMembersOk ok members)

def nestedMembersOk (ok : Nat → SeenElem → Bool) : List SeenElem → Bool
  | [] => true
  | t :: ts => t.contextOk ok (t.structOr (nestedOk ok t)) && nestedMembersOk ok ts

end

theorem nestedMembersOk_eq (ok : Nat → SeenElem → Bool) : ∀ ts : List SeenElem,
    nestedMembersOk ok ts = ts.all fun t => t.contextOk ok (t.structOr (t.nestedOk ok))
  | [] => rfl
  | t :: ts => by
    rw [nestedMembersOk, nestedMembersOk_eq ok ts]
    rfl

theorem nestedOk_eq (ok : Nat → SeenElem → Bool) (t : SeenElem) :
    t.nestedOk ok = t.isBlockOf fun m => m.contextOk ok (m.structOr (m.nestedOk ok)) := by
  cases t with
  | mk tag type value members closed =>
    rw [nestedOk, nestedMembersOk_eq]
    rfl

/-- What a data version filter asks of its members. -/
def dataVersionFilterOk : Nat → SeenElem → Bool
  | 0, t => t.isPathOr (.noteFirst PathKind.cluster.tags)
  | _, t => t.whole

/-- Whether the element is decoded as a data version filter. -/
def isDataVersionFilter (t : SeenElem) : Bool :=
  t.isBlockOf fun m => m.contextOk dataVersionFilterOk m.whole

/-- A status, and that of the cluster, must fit their fields. -/
def statusOk : Nat → SeenElem → Bool
  | 0, t => typedOk .commandStatusStatus t.type
  | 1, t => typedOk .commandStatusClusterStatus t.type
  | _, t => t.whole

/-- The element is a status. -/
def isStatus (t : SeenElem) : Bool := t.isBlockOf fun m => m.contextOk statusOk m.whole

/-- What the status of an attribute asks of its members. -/
def attributeStatusOk : Nat → SeenElem → Bool
  | 0, t => t.isPathOr (.noteFirst PathKind.attribute.tags)
  | 1, t => t.structOr t.isStatus
  | _, t => t.whole

/-- What the data of an attribute asks of its members. -/
def attributeDataOk : Nat → SeenElem → Bool
  | 1, t => t.isPathOr (.noteLast PathKind.attribute.tags)
  | _, t => t.whole

/-- What the report of an attribute asks of its members. -/
def attributeReportOk : Nat → SeenElem → Bool
  | 0, t => t.structOr (t.nestedOk attributeStatusOk)
  | 1, t => t.structOr (t.nestedOk attributeDataOk)
  | _, t => t.whole

/-- Whether the element is decoded as the report of an attribute. -/
def isAttributeReport (t : SeenElem) : Bool :=
  t.isBlockOf fun m => m.contextOk attributeReportOk (m.structOr false)

end Matter.TLV.SeenElem

namespace Matter.IM

open Prog TLV Display TLV.Dissect

section
variable {α β : Type} {data : List UInt8} {t : SeenElem} {s s' : DissectState} {may : Prop}

/-! ## Members -/

/-- The members of a container that is seen. -/
theorem overMembers_sees {body : β → DissectM β} {ok : SeenElem → Bool} {g : β → SeenElem → β}
    (h : OnSeen data t s) (htype : t.type = .struct ∨ t.type = .array ∨ t.type = .path)
    (hbody : BodySees may data t.members body fun b m => guarded (ok m) (g b m))
    (hgrows : may → ∀ b, Grows DissectState.retried (body b)) (b : β) :
    Does may True data (overMembers body b) s
      (guarded (t.closed && t.members.all ok) (t.members.foldl g b)) := by
  have hmembers := members_sees h (h.isContainer htype) hbody hgrows b
  rw [foldlM_guarded, ← guarded_and] at hmembers
  exact hmembers

/-- A block: a structure with a subtree. -/
theorem structBlock_sees {addTree : DissectM ProtoNode} {body : ProtoNode → β → DissectM β}
    {ok : SeenElem → Bool} {g : β → SeenElem → β} (htree : ShowsTree addTree) (h : OnSeen data t s)
    (hbody : ∀ node, BodySees may data t.members (body node) fun b m => guarded (ok m) (g b m))
    (hgrows : may → ∀ node b, Grows DissectState.retried (body node b)) (b : β) :
    Does may True data (do
      let type ← getType
      verify (type = .struct) .unexpectedTLVElement
      let node ← addTree
      overMembers (body node) b) s (guarded (t.isBlockOf ok) (t.members.foldl g b)) := by
  have hverified : Does may True data (verify (s.tlv.reader.getType = .struct)
      .unexpectedTLVElement >>= fun _ => addTree >>= fun node => overMembers (body node) b) s
      (if decide (s.tlv.reader.getType = .struct) = true then
        guarded (t.closed && t.members.all ok) (t.members.foldl g b) else none) := by
    refine Does.verify_bind fun htype => ?_
    rw [decide_eq_true_iff] at htype
    obtain ⟨node, s₁, hrun⟩ := htree.shows (s := s) (by rw [htype]; exact fun he => by cases he)
    obtain ⟨htlv, hretried⟩ := htree.still.ok hrun
    rw [h.type_eq] at htype
    exact (overMembers_sees (h.congr htlv) (.inl htype) (hbody node) (fun hmay => hgrows hmay node)
      b).congr (bind_ok hrun) htlv hretried
  rw [SeenElem.isBlockOf, guarded_and, ← h.type_eq]
  exact hverified

/-- A member that is handled by the number of its context tag. -/
theorem contextOk_sees {k : Nat → DissectM α} {other : DissectM α} {ok : Nat → SeenElem → Bool}
    {otherOk : Bool} {a : α} (h : OnSeen data t s)
    (hcontext : ∀ n, t.contextNum = some n → Does may True data (k n) s (guarded (ok n t) a))
    (hother : t.contextNum = none → Does may True data other s (guarded otherOk a)) :
    Does may True data (do
      let tag ← getTag
      if isContextTag tag then k (tagNumFromTag tag) else other) s
      (guarded (t.contextOk ok otherOk) a) := by
  have hmember : Does may True data
      (if isContextTag t.tag then k (tagNumFromTag t.tag) else other) s
      (guarded (t.contextOk ok otherOk) a) := by
    unfold SeenElem.contextOk
    unfold SeenElem.contextNum at hcontext hother ⊢
    split
    · rename_i htag
      rw [if_pos htag] at hcontext
      exact hcontext _ rfl
    · rename_i htag
      rw [if_neg htag] at hother
      exact hother rfl
  refine hmember.congr ?_ rfl rfl
  rw [getTag, gets_bind, h.tag_eq]

section
variable (env : Env)

theorem addUnknown_sees (tree : ProtoNode) (h : OnSeen data t s) (hasEnd : HasEnd s) :
    Does may True data (addUnknown env tree) s (guarded t.whole ()) :=
  addGenericTLVItem_sees env.host tree .imCommonUnknown h hasEnd

/-! ## Values -/

/-- A value is read and shown if there is a way to. -/
theorem addTypedItem_sees (tree : ProtoNode) (hfindex : HeaderField) (h : OnSeen data t s)
    (hasEnd : HasEnd s) :
    Does may True data (addTypedItem tree hfindex) s (guarded (typedOk hfindex t.type) ()) := by
  have hitem : ∀ shown, Does may True data (do
      let _ ← addShown tree hfindex shown
      pure () : DissectM Unit) s (some ()) := fun shown => .of_ok rfl rfl h.focused.balanced
  have hshown : ∀ {s'}, (addTypedItem tree hfindex).run s = .ok () s' →
      Does may True data (addTypedItem tree hfindex) s (some ()) :=
    fun hrun => (handles_addTypedItem tree hfindex : Handles False _).does h.focused hrun
  have hrun : (addTypedItem tree hfindex).run s = (addTypedValue tree hfindex t.type).run s := by
    rw [addTypedItem, getType, gets_bind, h.type_eq]
  cases htype : t.type with
  | signedInteger =>
    obtain ⟨v, hget⟩ := h.getInt64_ok htype
    rw [htype] at hrun
    exact (eitherField_does (hitem _) (hitem _)).congr (hrun.trans (bind_ok (onReader_ok hget)))
      rfl rfl
  | unsignedInteger =>
    rw [htype] at hrun
    exact (eitherField_does (hitem _) (hitem _)).congr
      (hrun.trans (bind_ok (onReader_ok (h.getUInt64_eq htype)))) rfl rfl
  | boolean =>
    obtain ⟨v, hget⟩ := h.getBool_ok htype
    rw [htype] at hrun
    exact hshown (hrun.trans (bind_ok (onReader_ok hget)))
  | floatingPointNumber =>
    obtain ⟨v, hget⟩ := h.getDouble_ok htype
    rw [htype] at hrun
    exact hshown (hrun.trans (bind_ok (onReader_ok hget)))
  | utf8String =>
    obtain ⟨v, r, hdup⟩ := h.dupString_ok htype
    rw [htype] at hrun
    exact hshown (hrun.trans (bind_ok (onReader_ok hdup)))
  | byteString =>
    obtain ⟨bytes, hbytes⟩ := h.dataBytes_ok hasEnd htype
    rw [htype] at hrun
    exact hshown (hrun.trans (bind_ok hbytes))
  | null =>
    rw [htype] at hrun
    exact hshown hrun
  | _ =>
    rw [htype] at hrun
    exact Does.of_err hrun

theorem whole_of_type (h : OnSeen data t s)
    (htype : ¬ (t.type = .struct ∨ t.type = .array ∨ t.type = .path)) : t.whole = true :=
  h.seen.whole_of_value (h.isValue htype)

/-- What is no container can be shown. -/
theorem addNamedCommandValueBy_value (named : ProtoNode → Text → DissectM Unit)
    (tree : ProtoNode) (fieldName : Text) (h : OnSeen data t s) (hasEnd : HasEnd s)
    (hvalue : ¬ (t.type = .struct ∨ t.type = .array ∨ t.type = .path)) (e : MatterError)
    (s' : DissectState) : (addNamedCommandValueBy env named tree fieldName).run s ≠ .err e s' := by
  have hread : ∀ {δ : Type} {x : DissectM δ} {a : δ} {s₁ : DissectState} (text : δ → Text),
      x.run s = .ok a s₁ →
        (do addField tree (text (← x)) : DissectM Unit).run s ≠ .err e s' := fun text hrun he =>
    neverFails_addField tree _ _ _ _ ((bind_ok hrun).symm.trans he)
  have hmem := h.elementType_mem
  rw [addNamedCommandValueBy, getType, gets_bind, h.type_eq]
  cases htype : t.type with
  | signedInteger =>
    obtain ⟨v, hget⟩ := h.getInt64_ok htype
    exact hread _ (onReader_ok hget)
  | unsignedInteger => exact hread _ (onReader_ok (h.getUInt64_eq htype))
  | boolean =>
    obtain ⟨v, hget⟩ := h.getBool_ok htype
    exact hread _ (onReader_ok hget)
  | floatingPointNumber =>
    obtain ⟨v, hget⟩ := h.getDouble_ok htype
    exact hread _ (onReader_ok hget)
  | utf8String =>
    obtain ⟨v, r, hdup⟩ := h.dupString_ok htype
    exact hread _ (onReader_ok hdup)
  | byteString =>
    obtain ⟨bytes, hbytes⟩ := h.dataBytes_ok hasEnd htype
    have hdecode : ∀ elemStart elemLen,
        NeverFails (addDecodedBytes env named tree fieldName bytes elemStart elemLen) :=
      neverFails_addDecodedBytes env named tree fieldName bytes
    intro he
    dsimp only at he
    rw [getLength, gets_bind, bind_ok hbytes] at he
    rcases bind_eq_err.1 he with hline | ⟨_, s₁, -, he⟩
    · exact neverFails_addField tree _ _ _ _ hline
    · rw [gets_bind] at he
      exact hdecode _ _ _ _ _ he
  | null => exact neverFails_addField tree _ _ _ _
  | struct | array | path => exact absurd (by simp [htype]) hvalue
  | _ =>
    rw [htype] at hmem
    cases hmem

/-- The value of an element that `Next` leads through can be shown. -/
theorem addNamedCommandValueBy_sees (named : ProtoNode → Text → DissectM Unit) (tree : ProtoNode)
    (fieldName : Text) (h : OnSeen data t s) (hasEnd : HasEnd s) :
    Does may True data (addNamedCommandValueBy env named tree fieldName) s
      (guarded t.whole ()) := by
  by_cases hcontainer : t.type = .struct ∨ t.type = .array ∨ t.type = .path
  · have hgeneric : Does may True data (do
        addField tree (fieldName ++ Text.lit "=" ++ [])
        addGenericTLVItem env.host tree .imCommonUnknown true) s (guarded t.whole ()) :=
      Does.after (still_addField _ _) (neverFails_addField _ _) fun _ s₁ htlv =>
        addGenericTLVItem_sees env.host tree .imCommonUnknown (h.congr htlv) (hasEnd.congr htlv)
    refine hgeneric.congr ?_ rfl rfl
    rw [addNamedCommandValueBy, getType, gets_bind, h.type_eq]
    rcases hcontainer with htype | htype | htype <;> rw [htype]
  · rw [whole_of_type h hcontainer]
    exact (handles_addNamedCommandValueBy env named tree fieldName).does_unit h.focused
      (addNamedCommandValueBy_value env named tree fieldName h hasEnd hcontainer)

theorem addNamedCommandValue_sees (tree : ProtoNode) (fieldName : Text) (h : OnSeen data t s)
    (hasEnd : HasEnd s) :
    Does may True data (addNamedCommandValue env tree fieldName) s (guarded t.whole ()) :=
  addNamedCommandValueBy_sees env _ tree fieldName h hasEnd

/-- The members of a structure with names for its fields. -/
theorem namedFields_sees (tree : ProtoNode) (getFieldName : Nat → Option Text) :
    BodySees may data t.members (fun _ : Unit => addFieldBy env tree getFieldName)
      fun b m => guarded m.whole b := by
  intro b m _ s h hasEnd
  have hmember : ∀ found, Does may True data (addNamedField env tree found) s
      (guarded m.whole ()) := by
    intro found
    cases found with
    | some fieldName => exact addNamedCommandValue_sees env tree fieldName h hasEnd
    | none => exact addUnknown_sees env tree h hasEnd
  exact (hmember _).congr rfl rfl rfl

theorem addNamedAttributeStructValue_sees (tree : ProtoNode) (clusterId attributeId : Nat)
    (h : OnSeen data t s) (htype : t.type = .struct) :
    Does may True data (addNamedAttributeStructValue env tree clusterId attributeId) s
      (guarded t.whole ()) := by
  have hdoes : Does False True data (addNamedAttributeStructValue env tree clusterId attributeId) s
      (guarded (t.isBlockOf SeenElem.whole) ()) :=
    structBlock_sees (g := fun b _ => b) (showsTree_addSubTreeItemF _ _ _ _) h
      (fun valueTree => namedFields_sees env valueTree _) False.elim ()
  rw [SeenElem.isBlockOf, decide_eq_true htype, Bool.true_and, ← SeenElem.whole_eq] at hdoes
  exact hdoes.mono False.elim id

theorem addNumberOr_sees {other : DissectM Unit} (tree : ProtoNode) (fieldName : Text)
    (lookupName : Nat → Option Text) (h : OnSeen data t s)
    (hother : Does may True data other s (guarded t.whole ())) :
    Does may True data (addNumberOr tree fieldName lookupName other) s (guarded t.whole ()) := by
  have hbegin : (addNumberOr tree fieldName lookupName other).run s =
      (addNumberOfType tree fieldName lookupName other t.type).run s := by
    rw [← h.type_eq]
    rfl
  have hvalue : ∀ {type : TLVType}, t.type = type → ¬ (type = .struct ∨ type = .array ∨
      type = .path) → t.whole = true := fun htype hne => whole_of_type h (htype ▸ hne)
  cases htype : t.type with
  | signedInteger =>
    obtain ⟨v, hget⟩ := h.getInt64_ok htype
    rw [htype] at hbegin
    rw [hvalue htype (by decide)]
    exact ((still_addField _ _).does h.focused rfl).congr
      (hbegin.trans (bind_ok (onReader_ok hget))) rfl rfl
  | unsignedInteger =>
    rw [htype] at hbegin
    rw [hvalue htype (by decide)]
    exact ((still_addField _ _).does h.focused rfl).congr
      (hbegin.trans (bind_ok (onReader_ok (h.getUInt64_eq htype)))) rfl rfl
  | _ => exact hother.congr (hbegin.trans (by rw [htype]; rfl)) rfl rfl

theorem addAttributeData_sees (itemTree : ProtoNode) (h : OnSeen data t s) (hasEnd : HasEnd s) :
    ∀ attributePath, Does may True data (addAttributeData env itemTree attributePath) s
      (guarded t.whole ())
  | none => addNamedCommandValue_sees env itemTree _ h hasEnd
  | some (clusterId, attributeId) => by
    have hvalue : Does may True data (if t.type = .struct
        then addNamedAttributeStructValue env itemTree clusterId attributeId
        else addNumberOr itemTree (Text.lit "Value")
          (env.names.getAttributeEnumValueName clusterId attributeId)
          (addNamedCommandValue env itemTree (Text.lit "Value"))) s (guarded t.whole ()) := by
      refine Does.ite (fun htype => ?_) fun _ => ?_
      · exact addNamedAttributeStructValue_sees env itemTree _ _ h htype
      · exact addNumberOr_sees itemTree _ _ h (addNamedCommandValue_sees env itemTree _ h hasEnd)
    refine hvalue.congr ?_ rfl rfl
    rw [addAttributeData, addAttributeValue, getType, gets_bind, h.type_eq]

/-- A number is shown, and anything else generically. -/
theorem addDataVersion_sees (itemTree : ProtoNode) (hfindex : HeaderField) (h : OnSeen data t s)
    (hasEnd : HasEnd s) :
    Does may True data (addDataVersion env itemTree hfindex) s (guarded t.whole ()) := by
  by_cases htype : t.type = .unsignedInteger
  · have hvalue : unsignedValue.run s = .ok (some t.value) s := by
      rw [unsignedValue, getType, gets_bind, h.type_eq, if_pos htype,
        bind_ok (attempt_ok (onReader_ok (h.getUInt64_eq htype)))]
      rfl
    rw [whole_of_type h (by rw [htype]; decide)]
    exact ((still_addStringItemF _ _ _).does h.focused rfl).congr (bind_ok hvalue) rfl rfl
  · have hvalue : unsignedValue.run s = .ok none s := by
      rw [unsignedValue, getType, gets_bind, h.type_eq, if_neg htype]
      rfl
    exact (addUnknown_sees env itemTree h hasEnd).congr (bind_ok hvalue) rfl rfl

end

/-! ## Paths -/

theorem pathMember_sees (note : PathIds → Nat → Nat → PathIds) (ids : PathIds)
    (h : OnSeen data t s) :
    Does may True data (pathMember note ids) s (some (SeenElem.noteIds note ids t)) := by
  have hrun : (pathMember note ids).run s = .ok (SeenElem.noteIds note ids t) s := by
    rw [pathMember, getTag, gets_bind, getType, gets_bind, h.tag_eq, h.type_eq, SeenElem.noteIds,
      SeenElem.number]
    split
    · rename_i hnumber
      rw [bind_ok (onReader_ok (h.getUInt64_eq hnumber.2))]
      rfl
    · rfl
  exact .of_ok hrun rfl h.focused.balanced

theorem readPathIds_sees (note : PathIds → Nat → Nat → PathIds) (h : OnSeen data t s) :
    Does may True data (readPathIds note) s (guarded (t.isPath note) (t.pathIds note)) := by
  have hlike : decide (s.tlv.reader.getType = .path ∨ s.tlv.reader.getType = .struct) =
      t.isPathLike := by
    rw [h.type_eq, SeenElem.isPathLike, Bool.decide_or]
  have hverified : Does may True data (verify
      (s.tlv.reader.getType = .path ∨ s.tlv.reader.getType = .struct) .unexpectedTLVElement >>=
        fun _ => overMembers (pathMember note) {} >>= fun ids =>
          verify (!ids.isEmpty) .unexpectedTLVElement >>= fun _ => pure ids) s
      (guarded (t.isPath note) (t.pathIds note)) := by
    rw [hlike, SeenElem.isPath, guarded_and]
    refine Does.verify_bind fun hpath => ?_
    have htype : t.type = .struct ∨ t.type = .array ∨ t.type = .path :=
      (SeenElem.isPathLike_iff.1 hpath).elim (fun h => .inr (.inr h)) .inl
    have hmembers : Does False True data (overMembers (pathMember note) {}) s
        (guarded (t.closed && t.members.all fun _ => true) (t.pathIds note)) :=
      overMembers_sees h htype (fun ids m _ s' hs' _ => pathMember_sees note ids hs') False.elim {}
    have hall : (t.members.all fun _ => true) = true := by simp
    rw [hall, Bool.and_true] at hmembers
    have hids := hmembers.bind (k := fun ids => do
      verify (!ids.isEmpty) .unexpectedTLVElement
      pure ids) (g := fun ids => guarded (!ids.isEmpty) ids) (fun hmay => hmay.elim)
      fun ids s₁ _ hbal => Does.verify_bind fun _ => Does.pure hbal.focused ids
    have hsame : (guarded t.closed (t.pathIds note)).bind
        (fun ids => guarded (!ids.isEmpty) ids) =
        guarded (t.closed && !(t.pathIds note).isEmpty) (t.pathIds note) := by
      cases t.closed <;> rfl
    rw [hsame] at hids
    exact hids.mono False.elim id
  exact hverified

section
variable (env : Env) (tree : ProtoNode) (kind : PathKind)

theorem addNamedPathItem_sees (h : OnSeen data t s) :
    Does may True data (addNamedPathItem env tree kind) s
      (guarded (t.isPath (.noteFirst kind.tags)) ()) := by
  have hdoes := (readPathIds_sees (.noteFirst kind.tags) h : Does may True data _ s _).shows
    (k := fun ids =>
      let out := pathText env kind.tags.itemLabel (kind.getItemName env) ids
      addStringItemF tree .dataElemPropertyPath (if out = [] then Text.lit "Unknown Path" else out))
    (g := fun _ => ()) (fun _ => still_addStringItemF _ _ _) fun _ _ => ⟨_, rfl⟩
  rw [guarded_map] at hdoes
  exact hdoes

theorem addPathItemAndExtractIds_sees (h : OnSeen data t s) :
    Does may True data (addPathItemAndExtractIds env tree kind) s
      (guarded (t.isPath (.noteLast kind.tags)) (t.pathIds (.noteLast kind.tags)).extracted) := by
  have hdoes := (readPathIds_sees (.noteLast kind.tags) h : Does may True data _ s _).shows
    (k := fun ids => do
      addStringItemF tree .dataElemPropertyPath
        (pathText env kind.tags.itemLabel (kind.getItemName env) ids)
      pure (ids.cluster.bind fun clusterId => ids.item.map fun itemId => (clusterId, itemId)))
    (g := PathIds.extracted)
    (fun _ => still_bind (still_addStringItemF _ _ _) fun _ => Leaves.pure _)
    fun _ _ => ⟨_, rfl⟩
  rw [guarded_map] at hdoes
  exact hdoes

/-- The decoder of a path and the fallback behind it. -/
theorem pathOr_sees {decode fallback : DissectM α} {note : PathIds → Nat → Nat → PathIds} {a b : α}
    (h : OnSeen data t s)
    (hdecode : Does True True data decode s (guarded (t.isPath note) a))
    (hrefused : ¬ (s.tlv.reader.getType = .path ∨ s.tlv.reader.getType = .struct) →
      ∃ e, decode.run s = .err e s)
    (hretried : Grows DissectState.retried decode)
    (hfallback : Does True True data fallback s (guarded t.whole b))
    (hgrows : Grows DissectState.retried fallback) :
    Does True True data (decodeOr decode fallback) s
      (guarded (t.isPathOr note) (if t.isPathLike = true then a else b)) := by
  have htype : t.isPathLike = true ↔
      s.tlv.reader.getType = .path ∨ s.tlv.reader.getType = .struct := by
    rw [h.type_eq, SeenElem.isPathLike_iff]
  unfold SeenElem.isPathOr
  cases hpath : t.isPathLike with
  | true => exact decodeOr_does_pathLike hdecode hretried hgrows (htype.1 hpath)
  | false =>
    have hother : ¬ (s.tlv.reader.getType = .path ∨ s.tlv.reader.getType = .struct) := by
      rw [← htype, hpath]
      decide
    obtain ⟨e, hrun⟩ := hrefused hother
    exact decodeOr_does_other hrun hother hfallback

theorem namedPathOr_sees (h : OnSeen data t s) (hasEnd : HasEnd s) :
    Does True True data (decodeOr (addNamedPathItem env tree kind) (addUnknown env tree)) s
      (guarded (t.isPathOr (.noteFirst kind.tags)) ()) :=
  pathOr_sees (a := ()) (b := ()) h (addNamedPathItem_sees env tree kind h)
    (fun hother => ⟨_, bind_err (readPathIds_other _ hother)⟩)
    (handles_addNamedPathItem env tree kind : Handles True _).retried
    (addUnknown_sees env tree h hasEnd) (handles_addUnknown env tree : Handles True _).retried

end

/-! ## Blocks -/

section
variable (env : Env)

theorem dataVersionFilterMember_sees (itemTree : ProtoNode) (h : OnSeen data t s)
    (hasEnd : HasEnd s) : Does True True data (dataVersionFilterMember env itemTree) s
      (guarded (t.contextOk SeenElem.dataVersionFilterOk t.whole) ()) := by
  have hunknown : Does True True data (addUnknown env itemTree) s (guarded t.whole ()) :=
    addUnknown_sees env itemTree h hasEnd
  refine contextOk_sees (k := onTagNum
    (decodeOr (addClusterPathItem env itemTree) (addUnknown env itemTree))
    (addDataVersion env itemTree .imCommonUnknown)
    (addUnknown env itemTree)) h (fun n _ => ?_) fun _ => hunknown
  match n with
  | 0 => exact namedPathOr_sees env itemTree .cluster h hasEnd
  | 1 => exact addDataVersion_sees env itemTree _ h hasEnd
  | n + 2 => exact hunknown

theorem addDataVersionFilterIBItem_sees (tree : ProtoNode) (h : OnSeen data t s) :
    Does True True data (addDataVersionFilterIBItem env tree) s
      (guarded t.isDataVersionFilter ()) :=
  structBlock_sees (g := fun b _ => b) (showsTree_addSubTreeItem _ _ _) h
    (fun itemTree _ _ _ _ hs hasEnd => dataVersionFilterMember_sees env itemTree hs hasEnd)
    (fun _ itemTree _ => (handles_dataVersionFilterMember env itemTree).retried) ()

theorem statusMember_sees (statusIBTree : ProtoNode) (h : OnSeen data t s) (hasEnd : HasEnd s) :
    Does may True data (statusMember env statusIBTree) s
      (guarded (t.contextOk SeenElem.statusOk t.whole) ()) := by
  have hunknown : Does may True data (addUnknown env statusIBTree) s (guarded t.whole ()) :=
    addUnknown_sees env statusIBTree h hasEnd
  refine contextOk_sees (k := onTagNum (addTypedItem statusIBTree .commandStatusStatus)
    (addTypedItem statusIBTree .commandStatusClusterStatus)
    (addUnknown env statusIBTree)) h (fun n _ => ?_) fun _ => hunknown
  match n with
  | 0 => exact addTypedItem_sees statusIBTree _ h hasEnd
  | 1 => exact addTypedItem_sees statusIBTree _ h hasEnd
  | n + 2 => exact hunknown

theorem addStatusIB_sees (tree : ProtoNode) (h : OnSeen data t s) :
    Does may True data (addStatusIB env tree) s (guarded t.isStatus ()) := by
  have hdoes : Does False True data (addStatusIB env tree) s (guarded t.isStatus ()) :=
    structBlock_sees (g := fun b _ => b) (showsTree_addSubTreeItem _ _ _) h
      (fun statusIBTree _ _ _ _ hs hasEnd => statusMember_sees env statusIBTree hs hasEnd)
      False.elim ()
  exact hdoes.mono False.elim id

theorem addStructOr_sees {addStruct : ProtoNode → DissectM Unit} {ok : Bool}
    (itemTree : ProtoNode) (h : OnSeen data t s) (hasEnd : HasEnd s)
    (hstruct : t.type = .struct → Does may True data (addStruct itemTree) s (guarded ok ())) :
    Does may True data (addStructOr env addStruct itemTree) s (guarded (t.structOr ok) ()) := by
  have hmember : Does may True data (if t.type = .struct then addStruct itemTree
      else addUnknown env itemTree) s (guarded (t.structOr ok) ()) := by
    unfold SeenElem.structOr
    refine Does.ite (fun htype => ?_) fun htype => ?_
    · rw [if_pos htype]
      exact hstruct htype
    · rw [if_neg htype]
      exact addUnknown_sees env itemTree h hasEnd
  refine hmember.congr ?_ rfl rfl
  rw [addStructOr, getType, gets_bind, h.type_eq]

/-- A nested block: a structure must be `ok`, for the fallback does not show it. -/
theorem addNestedIB_sees {nested : ProtoNode → DissectM Unit} {ok : Bool} (itemTree : ProtoNode)
    (h : OnSeen data t s) (hasEnd : HasEnd s)
    (hnested : t.type = .struct → Does True True data (nested itemTree) s (guarded ok ()))
    (hretried : Grows DissectState.retried (nested itemTree)) :
    Does True True data (addNestedIB env nested itemTree) s (guarded (t.structOr ok) ()) := by
  have hdecode : Does True True data
      (addStructOr env (fun tree => decodeOr (nested tree) (addUnknown env tree)) itemTree) s
      (guarded (t.structOr ok) ()) :=
    addStructOr_sees env itemTree h hasEnd fun htype =>
      decodeOr_does_pathLike (hnested htype) hretried
        (handles_addUnknown env itemTree : Handles True _).retried (.inr (h.type_eq.trans htype))
  exact hdecode

/-! ### Attribute status -/

theorem attributeStatusMember_sees {nested : ProtoNode → DissectM Unit} {ok : Bool}
    (itemTree : ProtoNode) (h : OnSeen data t s) (hasEnd : HasEnd s)
    (hnested : t.type = .struct → Does True True data (nested itemTree) s (guarded ok ()))
    (hretried : Grows DissectState.retried (nested itemTree)) :
    Does True True data (attributeStatusMember env nested itemTree) s
      (guarded (t.contextOk SeenElem.attributeStatusOk (t.structOr ok)) ()) := by
  refine contextOk_sees (k := onTagNum
    (decodeOr (addNamedPathItem env itemTree .attribute) (addUnknown env itemTree))
    (addStructOr env (addStatusIB env) itemTree)
    (addUnknown env itemTree)) h (fun n _ => ?_)
    fun _ => addNestedIB_sees env itemTree h hasEnd hnested hretried
  match n with
  | 0 => exact namedPathOr_sees env itemTree .attribute h hasEnd
  | 1 => exact addStructOr_sees env itemTree h hasEnd fun _ => addStatusIB_sees env itemTree h
  | n + 2 => exact addUnknown_sees env itemTree h hasEnd

theorem addAttributeStatusIBItemTo_sees : ∀ (depth : Nat) (tree : ProtoNode) {t : SeenElem}
    {s : DissectState}, OnSeen data t s →
      Does True True data (addAttributeStatusIBItemTo env depth tree) s
        (guarded (t.nestedOk SeenElem.attributeStatusOk) ())
  | 0, _, _, _, _ => .of_fault rfl _
  | depth + 1, tree, t, _, h => by
    rw [SeenElem.nestedOk_eq]
    refine structBlock_sees (g := fun b _ => b) (showsTree_addSubTreeItem _ _ _) h
      (fun itemTree _ m _ s hs hasEnd => ?_)
      (fun _ itemTree _ => (handles_attributeStatusMember env
        (fun tree => (handles_addAttributeStatusIBItemTo env depth tree).2) itemTree).retried) ()
    exact attributeStatusMember_sees env itemTree hs hasEnd
      (fun _ => addAttributeStatusIBItemTo_sees depth itemTree hs)
      (handles_addAttributeStatusIBItemTo env depth itemTree).1.retried

theorem addAttributeStatusIBItem_sees (tree : ProtoNode) (h : OnSeen data t s) :
    Does True True data (addAttributeStatusIBItem env tree) s
      (guarded (t.nestedOk SeenElem.attributeStatusOk) ()) := by
  refine (addAttributeStatusIBItemTo_sees env (s.tlv.reader.unread + 1) tree h).congr ?_ rfl rfl
  rw [addAttributeStatusIBItem, get_bind]

/-! ### Attribute data -/

/-- What is known of the path of an attribute behind the member that holds it. -/
def pathSeen (t : SeenElem) : Option (Nat × Nat) :=
  if t.isPathLike = true then (t.pathIds (.noteLast PathKind.attribute.tags)).extracted else none

theorem addAttributePathOr_sees (itemTree : ProtoNode) (h : OnSeen data t s) (hasEnd : HasEnd s) :
    Does True True data (addAttributePathOr env itemTree) s
      (guarded (t.isPathOr (.noteLast PathKind.attribute.tags)) (pathSeen t)) :=
  pathOr_sees h (addPathItemAndExtractIds_sees env itemTree .attribute h)
    (fun hother => ⟨_, bind_err (readPathIds_other _ hother)⟩)
    (handles_addPathItemAndExtractIds env itemTree .attribute : Handles True _).retried
    ((addUnknown_sees env itemTree h hasEnd).returning none)
    ((handles_addUnknown env itemTree : Handles True _).bind fun _ => .pure _).retried

/-- The path that is known behind a member. -/
def notePathSeen (attributePath : Option (Nat × Nat)) (t : SeenElem) : Option (Nat × Nat) :=
  if t.contextNum = some 1 then (pathSeen t).or attributePath else attributePath

theorem attributeDataMember_sees {nested : ProtoNode → DissectM Unit} {ok : Bool}
    (itemTree : ProtoNode) (attributePath : Option (Nat × Nat)) (h : OnSeen data t s)
    (hasEnd : HasEnd s)
    (hnested : t.type = .struct → Does True True data (nested itemTree) s (guarded ok ()))
    (hretried : Grows DissectState.retried (nested itemTree)) :
    Does True True data (attributeDataMember env nested itemTree attributePath) s
      (guarded (t.contextOk SeenElem.attributeDataOk (t.structOr ok))
        (notePathSeen attributePath t)) := by
  have hkeeps : t.contextNum ≠ some 1 → notePathSeen attributePath t = attributePath :=
    fun hne => if_neg hne
  refine contextOk_sees (k := onTagNumTo2
    (do
      addDataVersion env itemTree .imCommonField
      pure attributePath)
    (do
      let found ← addAttributePathOr env itemTree
      pure (found.or attributePath))
    (do
      addAttributeData env itemTree attributePath
      pure attributePath)
    (do
      addUnknown env itemTree
      pure attributePath)) h (fun n hn => ?_) fun hn => ?_
  · match n with
    | 0 =>
      rw [hkeeps (by rw [hn]; decide)]
      exact Does.returning (addDataVersion_sees env itemTree _ h hasEnd) _
    | 1 =>
      have hfound := (addAttributePathOr_sees env itemTree h hasEnd).shows
        (k := fun found => pure (found.or attributePath))
        (g := fun found => found.or attributePath) (fun _ => Leaves.pure _) fun _ s₁ => ⟨s₁, rfl⟩
      rw [guarded_map] at hfound
      rw [notePathSeen, if_pos hn]
      exact hfound
    | 2 =>
      rw [hkeeps (by rw [hn]; decide)]
      exact Does.returning (addAttributeData_sees env itemTree h hasEnd attributePath) _
    | n + 3 =>
      rw [hkeeps (by rw [hn]; simp)]
      exact Does.returning (addUnknown_sees env itemTree h hasEnd) _
  · rw [hkeeps (by rw [hn]; decide)]
    exact Does.returning (addNestedIB_sees env itemTree h hasEnd hnested hretried) _

/-- A block that keeps nothing of its members. -/
theorem structBlock_sees_unit {addTree : DissectM ProtoNode} {body : ProtoNode → β → DissectM β}
    {ok : SeenElem → Bool} {g : β → SeenElem → β} (htree : ShowsTree addTree) (h : OnSeen data t s)
    (hbody : ∀ node, BodySees may data t.members (body node) fun b m => guarded (ok m) (g b m))
    (hgrows : may → ∀ node b, Grows DissectState.retried (body node b)) (b : β) :
    Does may True data (do
      let type ← getType
      verify (type = .struct) .unexpectedTLVElement
      let node ← addTree
      let _ ← overMembers (body node) b
      pure ()) s (guarded (t.isBlockOf ok) ()) := by
  have hdoes := (structBlock_sees htree h hbody hgrows b).returning ()
  simpa only [bind_assoc] using hdoes

theorem addAttributeDataIBItemTo_sees : ∀ (depth : Nat) (tree : ProtoNode) {t : SeenElem}
    {s : DissectState}, OnSeen data t s →
      Does True True data (addAttributeDataIBItemTo env depth tree) s
        (guarded (t.nestedOk SeenElem.attributeDataOk) ())
  | 0, _, _, _, _ => .of_fault rfl _
  | depth + 1, tree, t, _, h => by
    rw [SeenElem.nestedOk_eq]
    refine structBlock_sees_unit (g := notePathSeen) (showsTree_addSubTreeItem _ _ _) h
      (fun itemTree attributePath m _ s hs hasEnd => ?_)
      (fun _ itemTree attributePath => (handles_attributeDataMember env
        (fun tree => (handles_addAttributeDataIBItemTo env depth tree).2) itemTree
          attributePath).retried) none
    exact attributeDataMember_sees env itemTree attributePath hs hasEnd
      (fun _ => addAttributeDataIBItemTo_sees depth itemTree hs)
      (handles_addAttributeDataIBItemTo env depth itemTree).1.retried

theorem addAttributeDataIBItem_sees (tree : ProtoNode) (h : OnSeen data t s) :
    Does True True data (addAttributeDataIBItem env tree) s
      (guarded (t.nestedOk SeenElem.attributeDataOk) ()) := by
  refine (addAttributeDataIBItemTo_sees env (s.tlv.reader.unread + 1) tree h).congr ?_ rfl rfl
  rw [addAttributeDataIBItem, get_bind]

/-! ### Attribute reports -/

theorem attributeReportMember_sees (depth : Nat) (itemTree : ProtoNode) (h : OnSeen data t s)
    (hasEnd : HasEnd s) :
    Does True True data (attributeReportMember env (addAttributeReportIBItemTo env depth) itemTree)
      s (guarded (t.contextOk SeenElem.attributeReportOk (t.structOr false)) ()) := by
  have hnested := decodesStruct_addDetectedIB env (handles_addAttributeReportIBItemTo env depth)
    (beginsStruct_addAttributeReportIBItemTo env depth) itemTree
  -- the look-ahead has consumed the structure
  have hnever : t.type = .struct → Does True True data
      (addDetectedIB env (addAttributeReportIBItemTo env depth) itemTree) s (guarded false ()) := by
    intro htype u s' hrun
    exact absurd hrun ((addDetectedIB_struct env (beginsStruct_addAttributeReportIBItemTo env depth)
      itemTree h.focused (h.type_eq.trans htype)).1 u s')
  refine contextOk_sees (k := onTagNum
    (addStructOr env (addAttributeStatusIBItem env) itemTree)
    (addStructOr env (addAttributeDataIBItem env) itemTree)
    (addUnknown env itemTree)) h (fun n _ => ?_)
    fun _ => addNestedIB_sees env itemTree h hasEnd hnever hnested.retried
  match n with
  | 0 =>
    exact addStructOr_sees env itemTree h hasEnd fun _ =>
      addAttributeStatusIBItem_sees env itemTree h
  | 1 =>
    exact addStructOr_sees env itemTree h hasEnd fun _ => addAttributeDataIBItem_sees env itemTree h
  | n + 2 => exact addUnknown_sees env itemTree h hasEnd

theorem addAttributeReportIBItem_sees (tree : ProtoNode) (h : OnSeen data t s) :
    Does True True data (addAttributeReportIBItem env tree) s
      (guarded t.isAttributeReport ()) := by
  have hdoes : Does True True data
      (addAttributeReportIBItemTo env (s.tlv.reader.unread + 1) tree) s
      (guarded t.isAttributeReport ()) :=
    structBlock_sees (g := fun b _ => b) (showsTree_addSubTreeItem _ _ _) h
      (fun itemTree _ _ _ _ hs hasEnd => attributeReportMember_sees env _ itemTree hs hasEnd)
      (fun _ itemTree _ => (handles_attributeReportMember env
        (handles_addAttributeReportIBItemTo env _)
        (beginsStruct_addAttributeReportIBItemTo env _) itemTree).retried) ()
  refine hdoes.congr ?_ rfl rfl
  rw [addAttributeReportIBItem, get_bind]

end

end

end Matter.IM
