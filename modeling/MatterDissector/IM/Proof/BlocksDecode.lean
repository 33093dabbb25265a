import MatterDissector.IM.Proof.LookAhead
import MatterDissector.IM.Proof.Decodable

/-!
# Which information blocks are decoded

The handlers of blocks on well-formed elements, with what each of them asks of the members: of a
status that its numbers fit their fields, of paths that there is an id in them. Nested blocks under
tags without meaning are decoded if all of their own members are (`nestedOk`), by induction on the
depth; the structures that `DetectAttributeIBKind` looks into never are.
-/

namespace Matter.IM

open Prog TLV Display TLV.Dissect
open TLVReader (InBounds)

section
variable {α β : Type} {data rest : List UInt8} {ip : Nat} {containerType : TLVType} {e : Elem}
  {s s' : DissectState} {may crash : Prop} (env : Env)

/-! ## Shared parts -/

/-- A field by the name that was found for it. -/
def addNamedField (tree : ProtoNode) : Option Text → DissectM Unit
  | some fieldName => addNamedCommandValue env tree fieldName
  | none => addUnknown env tree

/-- `addNumberOr` on an element of a known type. -/
def addNumberOfType (tree : ProtoNode) (fieldName : Text) (lookupName : Nat → Option Text)
    (other : DissectM Unit) : TLVType → DissectM Unit
  | .unsignedInteger => do
    let value ← onReader TLVReader.getUInt64
    addField tree (numberText fieldName lookupName value)
  | .signedInteger => do
    let value ← onReader TLVReader.getInt64
    addField tree (if value < 0 then fieldName ++ Text.lit "=" ++ Text.decInt value
      else numberText fieldName lookupName value.toNat)
  | _ => other

/-- The data of a command whose path is known, or not. -/
def addCommandDataBy (isRequestPayload : Bool) (tree : ProtoNode) :
    Option (Nat × Nat) → DissectM Unit
  | some (clusterId, commandId) =>
    addNamedCommandPayload env tree clusterId commandId isRequestPayload
  | none => addGenericTLVItem env.host tree .dataElemPropertyData true

/-! ## Filters -/

theorem eventFilterMember_does (itemTree : ProtoNode) (h : OnElem data ip .struct e rest s)
    (hrest : rest ≠ []) : Does may crash data (eventFilterMember env itemTree) s (some ()) := by
  have hunknown : Does may crash data (addUnknown env itemTree) s (some ()) :=
    addUnknown_does env itemTree h hrest (.inl rfl)
  have hmember : Does may crash data ((e.number.map fun number => onTagNum
      (addStringItemF itemTree .imCommonUnknown (Text.lit "Node=0x" ++ Text.hexUpper number.2))
      (addStringItemF itemTree .imCommonUnknown (Text.lit "EventMin=0x" ++ Text.hexUpper number.2))
      (addUnknown env itemTree) (tagNumFromTag s.tlv.reader.getTag)).getD
      (addUnknown env itemTree)) s (some ()) := by
    cases e.number with
    | none => exact hunknown
    | some number =>
      rw [Option.map_some, Option.getD_some]
      unfold onTagNum
      split
      · exact (still_addStringItemF _ _ _).does h.focused rfl
      · exact (still_addStringItemF _ _ _).does h.focused rfl
      · exact hunknown
  exact hmember.congr (ifNumber_run h) rfl rfl

theorem addEventFilterIBItem_does (tree : ProtoNode) (h : OnElem data ip containerType e rest s) :
    Does may crash data (addEventFilterIBItem env tree) s
      (guarded (isBlockOf (fun _ => true) e) ()) := by
  have hdoes : Does False crash data (addEventFilterIBItem env tree) s
      (guarded (isBlockOf (fun _ => true) e) ()) :=
    structBlock_does (g := fun b _ => b) (showsTree_addSubTreeItem _ _ _) h
      (fun itemTree _ _ _ _ _ hrest hs => eventFilterMember_does env itemTree hs hrest)
      False.elim ()
  exact hdoes.mono False.elim id

theorem unsignedValue_ok (h : OnElem data ip containerType e rest s) :
    ∃ value, unsignedValue.run s = .ok value s := by
  rw [unsignedValue, getType, gets_bind, h.type_eq]
  cases e with
  | prim tag p =>
    cases p with
    | uint w v =>
      have hget := onReader_ok (h.positioned.getUInt64_uint rfl)
      exact ⟨some v.toNat, bind_ok (attempt_ok hget)⟩
    | _ => exact ⟨none, rfl⟩
  | container tag kind members => cases kind <;> exact ⟨none, rfl⟩

/-- A number is shown, and anything else generically. -/
theorem addDataVersion_does (itemTree : ProtoNode) (hfindex : HeaderField) {n : Nat}
    (h : OnElem data ip containerType e rest s) (hrest : rest ≠ []) (hn : e.contextNum = some n) :
    Does may crash data (addDataVersion env itemTree hfindex) s (some ()) := by
  obtain ⟨value, hvalue⟩ := unsignedValue_ok h
  refine Does.bind_run hvalue rfl h.focused.balanced ?_
  cases value with
  | some value => exact (still_addStringItemF _ _ _).does h.focused rfl
  | none => exact addUnknown_does_context env itemTree h hrest hn

/-- What a data version filter asks of its members. -/
def dataVersionFilterOk : Nat → Elem → Bool
  | 0, e => isPathOr (.noteFirst PathKind.cluster.tags) e
  | _, _ => true

theorem dataVersionFilterMember_does (itemTree : ProtoNode) (h : OnElem data ip .struct e rest s)
    (hrest : rest ≠ []) : Does True crash data (dataVersionFilterMember env itemTree) s
      (guarded (contextOk dataVersionFilterOk true e) ()) := by
  have hunknown : Does True crash data (addUnknown env itemTree) s (guarded true ()) :=
    addUnknown_does env itemTree h hrest (.inl rfl)
  refine contextOk_does (k := onTagNum
    (decodeOr (addClusterPathItem env itemTree) (addUnknown env itemTree))
    (addDataVersion env itemTree .imCommonUnknown)
    (addUnknown env itemTree)) h (fun n hn => ?_) fun _ => hunknown
  match n with
  | 0 => exact pathOr_does env itemTree .cluster h hrest
  | 1 => exact addDataVersion_does env itemTree _ h hrest hn
  | n + 2 => exact hunknown

theorem addDataVersionFilterIBItem_does (tree : ProtoNode)
    (h : OnElem data ip containerType e rest s) :
    Does True crash data (addDataVersionFilterIBItem env tree) s
      (guarded (isBlockOf (contextOk dataVersionFilterOk true) e) ()) :=
  structBlock_does (g := fun b _ => b) (showsTree_addSubTreeItem _ _ _) h
    (fun itemTree _ _ _ _ _ hrest hs => dataVersionFilterMember_does env itemTree hs hrest)
    (fun _ itemTree _ => (handles_dataVersionFilterMember env itemTree).retried) ()

/-! ## Status -/

/-- A status, and that of the cluster, must fit their fields. -/
def statusOk : Nat → Elem → Bool
  | 0, e => typedOk .commandStatusStatus e.type
  | 1, e => typedOk .commandStatusClusterStatus e.type
  | _, _ => true

/-- The element is a status. -/
def isStatus (e : Elem) : Bool := isBlockOf (contextOk statusOk true) e

theorem statusMember_does (statusIBTree : ProtoNode) (h : OnElem data ip .struct e rest s)
    (hrest : rest ≠ []) : Does may crash data (statusMember env statusIBTree) s
      (guarded (contextOk statusOk true e) ()) := by
  have hunknown : Does may crash data (addUnknown env statusIBTree) s (guarded true ()) :=
    addUnknown_does env statusIBTree h hrest (.inl rfl)
  refine contextOk_does (k := onTagNum (addTypedItem statusIBTree .commandStatusStatus)
    (addTypedItem statusIBTree .commandStatusClusterStatus)
    (addUnknown env statusIBTree)) h (fun n _ => ?_) fun _ => hunknown
  match n with
  | 0 => exact addTypedItem_does statusIBTree _ h hrest
  | 1 => exact addTypedItem_does statusIBTree _ h hrest
  | n + 2 => exact hunknown

theorem addStatusIB_does (tree : ProtoNode) (h : OnElem data ip containerType e rest s) :
    Does may crash data (addStatusIB env tree) s (guarded (isStatus e) ()) := by
  have hdoes : Does False crash data (addStatusIB env tree) s (guarded (isStatus e) ()) :=
    structBlock_does (g := fun b _ => b) (showsTree_addSubTreeItem _ _ _) h
      (fun statusIBTree _ _ _ _ _ hrest hs => statusMember_does env statusIBTree hs hrest)
      False.elim ()
  exact hdoes.mono False.elim id

/-- If the element is a structure, it must be `ok`. -/
def structOr (e : Elem) (ok : Bool) : Bool := !(e.type = .struct) || ok

theorem addStructOr_does {addStruct : ProtoNode → DissectM Unit} {ok : Bool}
    (itemTree : ProtoNode) (h : OnElem data ip .struct e rest s) (hrest : rest ≠ [])
    (hstruct : e.type = .struct → Does may crash data (addStruct itemTree) s (guarded ok ())) :
    Does may crash data (addStructOr env addStruct itemTree) s (guarded (structOr e ok) ()) := by
  have hmember : Does may crash data (if e.type = .struct then addStruct itemTree
      else addUnknown env itemTree) s (guarded (structOr e ok) ()) := by
    refine Does.ite (fun htype => ?_) fun htype => ?_
    · rw [structOr, decide_eq_true htype, Bool.not_true, Bool.false_or]
      exact hstruct htype
    · rw [structOr, decide_eq_false htype, Bool.not_false, Bool.true_or]
      exact addUnknown_does env itemTree h hrest (.inl rfl)
  refine hmember.congr ?_ rfl rfl
  rw [addStructOr, getType, gets_bind, h.type_eq]

/-- A nested block: a structure must be `ok`, for the fallback does not show it. -/
theorem addNestedIB_does {nested : ProtoNode → DissectM Unit} {ok : Bool}
    (itemTree : ProtoNode) (h : OnElem data ip .struct e rest s) (hrest : rest ≠ [])
    (hnested : e.type = .struct → Does True crash data (nested itemTree) s (guarded ok ()))
    (hretried : Grows DissectState.retried (nested itemTree)) :
    Does True crash data (addNestedIB env nested itemTree) s (guarded (structOr e ok) ()) := by
  have hdecode : Does True crash data
      (addStructOr env (fun tree => decodeOr (nested tree) (addUnknown env tree)) itemTree) s
      (guarded (structOr e ok) ()) :=
    addStructOr_does env itemTree h hrest fun htype =>
      decodeOr_does_pathLike (hnested htype) hretried
        (handles_addUnknown env itemTree : Handles True _).retried (.inr (h.type_eq.trans htype))
  exact hdecode

/-! ## Blocks that nest -/

mutual

/-- The element is a structure whose members are `ok` by their tags, and those without a context
tag are such structures again, if they are structures. -/
def nestedOk (ok : Nat → Elem → Bool) : Elem → Bool
  | .container _ .struct members => nestedMembersOk ok members
  | _ => false

def nestedMembersOk (ok : Nat → Elem → Bool) : List Elem → Bool
  | [] => true
  | e :: es => contextOk ok (structOr e (nestedOk ok e)) e && nestedMembersOk ok es

end

theorem nestedMembersOk_eq (ok : Nat → Elem → Bool) : ∀ es : List Elem,
    nestedMembersOk ok es = es.all fun e => contextOk ok (structOr e (nestedOk ok e)) e
  | [] => rfl
  | e :: es => by
    rw [nestedMembersOk, nestedMembersOk_eq ok es]
    rfl

theorem nestedOk_eq (ok : Nat → Elem → Bool) (e : Elem) :
    nestedOk ok e = isBlockOf (fun m => contextOk ok (structOr m (nestedOk ok m)) m) e := by
  cases e with
  | prim tag p => cases p <;> rfl
  | container tag kind members =>
    cases kind with
    | struct => exact nestedMembersOk_eq ok members
    | array => rfl
    | path => rfl

theorem length_member_lt {m : Elem} (hm : m ∈ e.members) : m.body.length < e.body.length := by
  cases e with
  | prim tag p => cases hm
  | container tag kind members => exact length_body_lt tag kind hm

/-! ### Attribute status -/

/-- What the status of an attribute asks of its members. -/
def attributeStatusOk : Nat → Elem → Bool
  | 0, e => isPathOr (.noteFirst PathKind.attribute.tags) e
  | 1, e => structOr e (isStatus e)
  | _, _ => true

theorem attributeStatusMember_does {nested : ProtoNode → DissectM Unit} {ok : Bool}
    (itemTree : ProtoNode) (h : OnElem data ip .struct e rest s) (hrest : rest ≠ [])
    (hnested : e.type = .struct → Does True crash data (nested itemTree) s (guarded ok ()))
    (hretried : Grows DissectState.retried (nested itemTree)) :
    Does True crash data (attributeStatusMember env nested itemTree) s
      (guarded (contextOk attributeStatusOk (structOr e ok) e) ()) := by
  refine contextOk_does (k := onTagNum
    (decodeOr (addNamedPathItem env itemTree .attribute) (addUnknown env itemTree))
    (addStructOr env (addStatusIB env) itemTree)
    (addUnknown env itemTree)) h (fun n _ => ?_)
    fun _ => addNestedIB_does env itemTree h hrest hnested hretried
  match n with
  | 0 => exact pathOr_does env itemTree .attribute h hrest
  | 1 => exact addStructOr_does env itemTree h hrest fun _ => addStatusIB_does env itemTree h
  | n + 2 => exact addUnknown_does env itemTree h hrest (.inl rfl)

theorem addAttributeStatusIBItemTo_does : ∀ (depth : Nat) (tree : ProtoNode)
    {containerType : TLVType} {e : Elem} {rest : List UInt8} {s : DissectState},
    OnElem data ip containerType e rest s → e.body.length < depth →
      Does True crash data (addAttributeStatusIBItemTo env depth tree) s
        (guarded (nestedOk attributeStatusOk e) ())
  | 0, _, _, _, _, _, _, hlen => absurd hlen (Nat.not_lt_zero _)
  | depth + 1, tree, _, e, _, _, h, hlen => by
    rw [nestedOk_eq]
    refine structBlock_does (g := fun b _ => b) (showsTree_addSubTreeItem _ _ _) h
      (fun itemTree b m hm rest s hrest hs => ?_)
      (fun _ itemTree _ => (handles_attributeStatusMember env
        (fun tree => (handles_addAttributeStatusIBItemTo env depth tree).2) itemTree).retried) ()
    have hshort := length_member_lt hm
    exact attributeStatusMember_does env itemTree hs hrest
      (fun _ => addAttributeStatusIBItemTo_does depth itemTree hs (by omega))
      (handles_addAttributeStatusIBItemTo env depth itemTree).1.retried

theorem addAttributeStatusIBItem_does (tree : ProtoNode)
    (h : OnElem data ip containerType e rest s) :
    Does True crash data (addAttributeStatusIBItem env tree) s
      (guarded (nestedOk attributeStatusOk e) ()) := by
  refine (addAttributeStatusIBItemTo_does env _ tree h h.body_length_lt).congr ?_ rfl rfl
  rw [addAttributeStatusIBItem, get_bind]

/-! ### Attribute data -/

/-- What the data of an attribute asks of its members. -/
def attributeDataOk : Nat → Elem → Bool
  | 1, e => isPathOr (.noteLast PathKind.attribute.tags) e
  | _, _ => true

/-- The path that is known behind a member. -/
def notePath (attributePath : Option (Nat × Nat)) (e : Elem) : Option (Nat × Nat) :=
  if e.contextNum = some 1 then (pathFound e).or attributePath else attributePath

/-! ### Attribute reports -/

/-- What the report of an attribute asks of its members. -/
def attributeReportOk : Nat → Elem → Bool
  | 0, e => structOr e (nestedOk attributeStatusOk e)
  | 1, e => structOr e (nestedOk attributeDataOk e)
  | _, _ => true

/-- Whether the element is decoded as the report of an attribute. -/
def isAttributeReport (e : Elem) : Bool :=
  isBlockOf (fun m => contextOk attributeReportOk (structOr m false) m) e

/-! ## Commands -/

/-- A byte string without a byte, of which nothing is shown without its tag. -/
def isEmptyBytes : Elem → Bool
  | .prim _ (.bytes _ v) => v.bytes.isEmpty
  | _ => false

theorem emptyBytes_iff (h : OnElem data ip containerType e rest s) (hrest : rest ≠ []) :
    EmptyBytes s.tlv.reader ↔ isEmptyBytes e = true := by
  have hend := h.readPoint_ne_bufEnd hrest
  have hother : e.type ≠ .byteString → isEmptyBytes e = false →
      (EmptyBytes s.tlv.reader ↔ isEmptyBytes e = true) := by
    intro htype hfalse
    refine iff_of_false (fun hempty => htype (h.type_eq.symm.trans hempty.1)) ?_
    rw [hfalse]
    decide
  cases e with
  | prim tag p =>
    cases p with
    | bytes w v =>
      have hlen : s.tlv.reader.getLength = v.bytes.length := by
        rcases dataBytes_cases h.inBounds with ⟨err, hrun⟩ | ⟨-, bytes, hrun, hlen⟩
        · cases (h.dataBytes_eq hend).symm.trans hrun
        · cases (h.dataBytes_eq hend).symm.trans hrun
          exact hlen.symm
      rw [isEmptyBytes, List.isEmpty_iff, ← List.length_eq_zero_iff, ← hlen]
      exact ⟨fun hempty => hempty.2.1, fun hzero => ⟨h.type_eq, hzero, hend⟩⟩
    | _ => exact hother (fun he => by cases he) rfl
  | container tag kind members => exact hother (fun he => by cases kind <;> cases he) rfl

/-- What a command asks of its members: a path with an id, and data that can be shown. -/
def commandDataOk : Nat → Elem → Bool
  | 0, e => isPathLike e && isPath (.noteLast PathKind.command.tags) e
  | 1, e => !isEmptyBytes e
  | _, _ => true

/-- The path that is known behind a member. -/
def noteCommandPath (commandPath : Option (Nat × Nat)) (e : Elem) : Option (Nat × Nat) :=
  if e.contextNum = some 0 then (extracted .command e).or commandPath else commandPath

/-- What follows the test for a list or a structure. -/
theorem pathLike_verified {err : MatterError} {k : Unit → DissectM α} {ok : Bool} {a : α}
    (h : OnElem data ip containerType e rest s)
    (hk : isPathLike e = true → Does may crash data (k ()) s (guarded ok a)) :
    Does may crash data (verify (s.tlv.reader.getType = .path ∨ s.tlv.reader.getType = .struct) err
      >>= k) s (guarded (isPathLike e && ok) a) := by
  have hlike : decide (s.tlv.reader.getType = .path ∨ s.tlv.reader.getType = .struct) =
      isPathLike e := by
    rw [h.type_eq, isPathLike, Bool.decide_or]
  rw [hlike, guarded_and]
  exact Does.verify_bind hk

/-- A container of members that are `ok`. -/
def isContainerOf (ok : Elem → Bool) (e : Elem) : Bool := e.isContainer && e.members.all ok

/-- Whether the element is decoded as a command. -/
def isCommandData (e : Elem) : Bool := isContainerOf (contextOk commandDataOk false) e

/-- What the status of a command asks of its members. -/
def commandStatusOk : Nat → Elem → Bool
  | 0, e => isPath (.noteFirst PathKind.command.tags) e
  | 1, e => isStatus e
  | 2, e => typedOk .commandStatusRef e.type
  | _, _ => true

theorem commandStatusMember_does (statusTree : ProtoNode)
    (h : OnElem data ip containerType e rest s) (hrest : rest ≠ []) :
    Does may crash data (commandStatusMember env statusTree) s
      (guarded (contextOk commandStatusOk false e) ()) := by
  refine contextOk_verified (k := onTagNumTo2 (addNamedPathItem env statusTree .command)
    (addStatusIB env statusTree) (addTypedItem statusTree .commandStatusRef)
    (addUnknown env statusTree)) h fun n hn => ?_
  match n with
  | 0 => exact addNamedPathItem_does env statusTree .command h
  | 1 => exact addStatusIB_does env statusTree h
  | 2 => exact addTypedItem_does statusTree _ h hrest
  | n + 3 => exact addUnknown_does_context env statusTree h hrest hn

theorem addCommandStatusIB_does (tree : ProtoNode) (h : OnElem data ip containerType e rest s) :
    Does may crash data (addCommandStatusIB env tree) s
      (guarded (isBlockOf (contextOk commandStatusOk false) e) ()) := by
  have hdoes : Does False crash data (addCommandStatusIB env tree) s
      (guarded (isBlockOf (contextOk commandStatusOk false) e) ()) :=
    structBlock_does (g := fun b _ => b) (showsTree_addSubTreeItem _ _ _) h
      (fun statusTree _ _ _ _ _ hrest hs => commandStatusMember_does env statusTree hs hrest)
      False.elim ()
  exact hdoes.mono False.elim id

/-- What the response to an invoke request asks of its members. -/
def invokeResponseOk : Nat → Elem → Bool
  | 0, e => e.type = .struct && isCommandData e
  | 1, e => e.type = .struct && isBlockOf (contextOk commandStatusOk false) e
  | _, _ => true

/-- Whether the element is decoded as the response to an invoke request. -/
def isInvokeResponse (e : Elem) : Bool := isContainerOf (contextOk invokeResponseOk false) e

end

end Matter.IM
