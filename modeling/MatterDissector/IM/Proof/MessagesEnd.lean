import MatterDissector.IM.Proof.Success
import MatterDissector.IM.Proof.Termination

/-!
# Every message is dissected to its end

`Terminates` for the handlers of `packet-matter-im.cpp` and the ten message dissectors. A block
that calls itself on its members is granted as many levels as there are unread bytes, and a member
has fewer (`terminates_nestedIB`).
-/

namespace Matter.IM

open Prog TLV Display TLV.Dissect
open TLVReader (InBounds)

section
variable {α β : Type} {data : List UInt8} {n : Nat} {env : Env}

/-! ## Paths -/

theorem terminates_pathMember (note : PathIds → Nat → Nat → PathIds) (ids : PathIds) :
    Terminates data n (pathMember note ids) :=
  moves_getTag.bind fun _ => moves_getType.bind fun _ =>
    .ite (moves_getUInt64.bind fun _ => .pure _) (.pure _)

theorem terminates_readPathIds (note : PathIds → Nat → Nat → PathIds) :
    Terminates data n (readPathIds note) :=
  moves_getType.bind fun _ => (Moves.verify _ _).bind fun _ =>
    (moves_overMembers (fun ids _ _ => terminates_pathMember note ids) {}).bind fun _ =>
      (Moves.verify _ _).bind fun _ => .pure _

theorem terminates_addNamedPathItem (tree : ProtoNode) (kind : PathKind) :
    Terminates data n (addNamedPathItem env tree kind) :=
  (terminates_readPathIds _).bind fun _ => moves_addStringItemF _ _ _

theorem terminates_addPathItemAndExtractIds (tree : ProtoNode) (kind : PathKind) :
    Terminates data n (addPathItemAndExtractIds env tree kind) :=
  (terminates_readPathIds _).bind fun _ => (moves_addStringItemF _ _ _).bind fun _ => .pure _

theorem terminates_pathOr (tree : ProtoNode) (kind : PathKind) :
    Terminates data n (decodeOr (addNamedPathItem env tree kind) (addUnknown env tree)) :=
  terminates_decodeOr (terminates_addNamedPathItem _ _) (terminates_addUnknown _ _)

/-! ## Blocks -/

/-- What the blocks have in common: a structure, shown by its members. -/
theorem terminates_structBlock {body : ProtoNode → DissectM α}
    (hbody : ∀ node, Terminates data n (body node)) (tree : ProtoNode) (hfindex : HeaderField)
    (ett : Ett) :
    Terminates data n (do
      let type ← getType
      verify (type = .struct) .unexpectedTLVElement
      let node ← addSubTreeItem tree hfindex ett
      body node) :=
  moves_getType.bind fun _ => (Moves.verify _ _).bind fun _ =>
    (moves_addSubTreeItem _ _ _).bind fun node => hbody node

theorem terminates_eventFilterMember (itemTree : ProtoNode) :
    Terminates data n (eventFilterMember env itemTree) := by
  refine moves_getTag.bind fun tag => moves_getType.bind fun type =>
    .ite (moves_getUInt64.bind fun value => ?_) (terminates_addUnknown _ _)
  split
  · exact moves_addStringItemF _ _ _
  · exact moves_addStringItemF _ _ _
  · exact terminates_addUnknown _ _

theorem terminates_addEventFilterIBItem (tree : ProtoNode) :
    Terminates data n (addEventFilterIBItem env tree) :=
  terminates_structBlock (fun node =>
    moves_overMembers (fun _ _ _ => terminates_eventFilterMember node) ()) _ _ _

theorem terminates_addDataVersion (itemTree : ProtoNode) (hfindex : HeaderField) :
    Terminates data n (addDataVersion env itemTree hfindex) := by
  refine moves_unsignedValue.bind fun value => ?_
  split
  · exact moves_addStringItemF _ _ _
  · exact terminates_addUnknown _ _

theorem terminates_dataVersionFilterMember (itemTree : ProtoNode) :
    Terminates data n (dataVersionFilterMember env itemTree) := by
  refine moves_getTag.bind fun tag => .ite ?_ (terminates_addUnknown _ _)
  split
  · exact terminates_pathOr _ _
  · exact terminates_addDataVersion _ _
  · exact terminates_addUnknown _ _

theorem terminates_addDataVersionFilterIBItem (tree : ProtoNode) :
    Terminates data n (addDataVersionFilterIBItem env tree) :=
  terminates_structBlock (fun node =>
    moves_overMembers (fun _ _ _ => terminates_dataVersionFilterMember node) ()) _ _ _

theorem terminates_statusMember (statusIBTree : ProtoNode) :
    Terminates data n (statusMember env statusIBTree) := by
  refine moves_getTag.bind fun tag => .ite ?_ (terminates_addUnknown _ _)
  split
  · exact moves_addTypedItem _ _
  · exact moves_addTypedItem _ _
  · exact terminates_addUnknown _ _

theorem terminates_addStatusIB (tree : ProtoNode) : Terminates data n (addStatusIB env tree) :=
  terminates_structBlock (fun node =>
    moves_overMembers (fun _ _ _ => terminates_statusMember node) ()) _ _ _

theorem terminates_addStructOr {addStruct : ProtoNode → DissectM Unit} (itemTree : ProtoNode)
    (h : Terminates data n (addStruct itemTree)) :
    Terminates data n (addStructOr env addStruct itemTree) :=
  moves_getType.bind fun _ => .ite h (terminates_addUnknown _ _)

theorem terminates_addNestedIB {nested : ProtoNode → DissectM Unit} (itemTree : ProtoNode)
    (h : Terminates data n (nested itemTree)) :
    Terminates data n (addNestedIB env nested itemTree) :=
  moves_getType.bind fun _ =>
    .ite (terminates_decodeOr h (terminates_addUnknown _ _)) (terminates_addUnknown _ _)

/-- A block that calls itself on its members: from fewer unread bytes than levels it comes to an
end, so as many levels as there are unread bytes, and one, are enough. -/
theorem terminates_nestedIB {block : Nat → ProtoNode → DissectM Unit}
    (hblock : ∀ depth n tree, (∀ m, m < n → ∀ node, Terminates data m (block depth node)) →
      Terminates data n (block (depth + 1) tree)) :
    ∀ depth {n}, n < depth → ∀ tree, Terminates data n (block depth tree)
  | 0, _, h, _ => absurd h (Nat.not_lt_zero _)
  | depth + 1, n, h, tree => hblock depth n tree fun _ hm node =>
    terminates_nestedIB hblock depth (by omega) node

theorem terminates_nestedIB_unread {block : Nat → ProtoNode → DissectM Unit}
    (hblock : ∀ depth n tree, (∀ m, m < n → ∀ node, Terminates data m (block depth node)) →
      Terminates data n (block (depth + 1) tree)) (tree : ProtoNode) :
    Terminates data n (do
      let s ← Prog.get
      block (s.tlv.reader.unread + 1) tree) :=
  Moves.get_bind fun _ _ => terminates_nestedIB hblock _ (Nat.lt_succ_self _) tree

theorem terminates_attributeStatusMember {nested : ProtoNode → DissectM Unit}
    (itemTree : ProtoNode) (h : Terminates data n (nested itemTree)) :
    Terminates data n (attributeStatusMember env nested itemTree) := by
  refine moves_getTag.bind fun tag => .ite ?_ (terminates_addNestedIB _ h)
  split
  · exact terminates_pathOr _ _
  · exact terminates_addStructOr _ (terminates_addStatusIB _)
  · exact terminates_addUnknown _ _

theorem terminates_addAttributeStatusIBItem (tree : ProtoNode) :
    Terminates data n (addAttributeStatusIBItem env tree) :=
  terminates_nestedIB_unread (fun _ _ _ h => terminates_structBlock (fun node =>
    moves_overMembers (fun _ m hm => terminates_attributeStatusMember node (h m hm node)) ())
      _ _ _) tree

theorem terminates_detectAttributeIBKind : Terminates data n detectAttributeIBKind := by
  have hmember : ∀ marks m, Terminates data m (detectMember marks) := fun marks _ =>
    moves_getTag.bind fun _ => moves_getType.bind fun _ => .pure _
  refine moves_getType.bind fun type => .ite ?_ (.pure _)
  refine moves_enterContainer.attempt.bind fun res => ?_
  cases res with
  | error e => exact .pure _
  | ok u =>
    exact (terminates_scanMembers (fun marks m _ => hmember marks m) {}).bind fun _ =>
      moves_exitContainer.attempt.bind fun _ => .pure _

section
variable (hssl : env.openssl.ContentFits)
include hssl

theorem terminates_addNamedAttributeStructValue (tree : ProtoNode) (clusterId attributeId : Nat) :
    Terminates data n (addNamedAttributeStructValue env tree clusterId attributeId) :=
  moves_getType.bind fun _ => (Moves.verify _ _).bind fun _ =>
    Moves.bind (moves_still (still_addSubTreeItemF _ _ _ _) (noFault_addSubTreeItemF _ _ _ _))
      fun _ => moves_overMembers (fun _ _ _ => terminates_addFieldBy hssl _ _) ()

theorem terminates_addAttributeData (itemTree : ProtoNode) : ∀ attributePath,
    Terminates data n (addAttributeData env itemTree attributePath)
  | some (_, _) =>
    moves_getType.bind fun _ => .ite (terminates_addNamedAttributeStructValue hssl _ _ _)
      (terminates_addNumberOr (terminates_addNamedCommandValue hssl _ _) _ _ _)
  | none => terminates_addNamedCommandValue hssl _ _

theorem terminates_attributeDataMember {nested : ProtoNode → DissectM Unit} (itemTree : ProtoNode)
    (h : Terminates data n (nested itemTree)) (attributePath : Option (Nat × Nat)) :
    Terminates data n (attributeDataMember env nested itemTree attributePath) := by
  have hpath : Terminates data n (addAttributePathOr env itemTree) :=
    terminates_decodeOr (terminates_addPathItemAndExtractIds _ _)
      ((terminates_addUnknown _ _).bind fun _ => .pure _)
  refine moves_getTag.bind fun tag => .ite ?_
    ((terminates_addNestedIB _ h).bind fun _ => .pure _)
  split
  · exact (terminates_addDataVersion _ _).bind fun _ => .pure _
  · exact hpath.bind fun _ => .pure _
  · exact (terminates_addAttributeData hssl _ _).bind fun _ => .pure _
  · exact (terminates_addUnknown _ _).bind fun _ => .pure _

theorem terminates_addAttributeDataIBItem (tree : ProtoNode) :
    Terminates data n (addAttributeDataIBItem env tree) :=
  terminates_nestedIB_unread (fun _ _ _ h => terminates_structBlock (fun node =>
    (moves_overMembers (fun path m hm =>
      terminates_attributeDataMember hssl node (h m hm node) path) none).bind fun _ => .pure _)
      _ _ _) tree

theorem terminates_addDetectedIB {nested : ProtoNode → DissectM Unit} (itemTree : ProtoNode)
    (h : Terminates data n (nested itemTree)) :
    Terminates data n (addDetectedIB env nested itemTree) := by
  refine terminates_detectAttributeIBKind.bind fun kind => ?_
  split
  · exact terminates_addAttributeDataIBItem hssl _
  · exact terminates_addAttributeStatusIBItem _
  · exact h

theorem terminates_attributeReportMember {nested : ProtoNode → DissectM Unit}
    (itemTree : ProtoNode) (h : Terminates data n (nested itemTree)) :
    Terminates data n (attributeReportMember env nested itemTree) := by
  refine moves_getTag.bind fun tag => .ite ?_
    (terminates_addNestedIB _ (terminates_addDetectedIB hssl itemTree h))
  split
  · exact terminates_addStructOr _ (terminates_addAttributeStatusIBItem _)
  · exact terminates_addStructOr _ (terminates_addAttributeDataIBItem hssl _)
  · exact terminates_addUnknown _ _

theorem terminates_addAttributeReportIBItem (tree : ProtoNode) :
    Terminates data n (addAttributeReportIBItem env tree) :=
  terminates_nestedIB_unread (fun _ _ _ h => terminates_structBlock (fun node =>
    moves_overMembers (fun _ m hm =>
      terminates_attributeReportMember hssl node (h m hm node)) ()) _ _ _) tree

/-! ## Events -/

omit hssl in
theorem terminates_lookAheadEventPath : Terminates data n lookAheadEventPath := by
  have hmember : ∀ found m, Terminates data m (eventPathMember found) := by
    refine fun found m => moves_getTag.bind fun tag => moves_getType.bind fun type =>
      .ite (moves_getUInt64.bind fun v => ?_) (.pure _)
    split <;> exact .pure _
  refine moves_enterContainer.attempt.bind fun res => ?_
  cases res with
  | error e => exact .pure _
  | ok u =>
    refine (terminates_scanMembers (fun found m _ => hmember found m) (0, none)).bind
      fun ((_, eventId), e) => ?_
    exact .ite (moves_exitContainer.attempt.bind fun _ => .pure _)
      (Moves.bind (.pure _) fun _ => .pure _)

theorem terminates_addNamedStructData (itemTree : ProtoNode) (kind : PathKind) (tag : Nat)
    (type : TLVType) (eventPath : Option (Nat × Nat)) :
    Terminates data n (addNamedStructData env itemTree kind tag type eventPath) := by
  unfold addNamedStructData
  split
  · exact (moves_addSubTreeItem _ _ _).bind fun _ =>
      moves_overMembers (fun _ _ _ => terminates_addFieldBy hssl _ _) ()
  · exact terminates_addGenericTLVItem _ _ _ _

theorem terminates_namedStructMember (itemTree : ProtoNode) (kind : PathKind)
    (eventPath : Option (Nat × Nat)) :
    Terminates data n (namedStructMember env itemTree kind eventPath) := by
  have hpath : ∀ tag type eventPath, Terminates data n (do
      decodeOr (addNamedPathItem env itemTree kind)
        (addNamedStructData env itemTree kind tag type eventPath)
      pure eventPath) := fun tag type eventPath =>
    (terminates_decodeOr (terminates_addNamedPathItem _ _)
      (terminates_addNamedStructData hssl _ _ _ _ _)).bind fun _ => .pure _
  refine moves_getTag.bind fun tag => moves_getType.bind fun type => .ite (.ite ?_ ?_)
    ((terminates_addNamedStructData hssl _ _ _ _ _).bind fun _ => .pure _)
  · exact Moves.bind (terminates_lookAheadEventPath.bind fun _ => .pure _) fun _ => hpath _ _ _
  · exact Moves.bind (.pure _) fun _ => hpath _ _ _

theorem terminates_addNamedStructItem (tree : ProtoNode) (kind : PathKind) :
    Terminates data n (addNamedStructItem env tree kind) :=
  terminates_structBlock (fun node => (moves_overMembers (fun eventPath _ _ =>
    terminates_namedStructMember hssl node kind eventPath) none).bind fun _ => .pure _) _ _ _

/-! ## Commands -/

theorem terminates_addNamedCommandPayload (tree : ProtoNode) (clusterId commandId : Nat)
    (isRequest : Bool) :
    Terminates data n (addNamedCommandPayload env tree clusterId commandId isRequest) :=
  moves_getType.bind fun _ => (Moves.verify _ _).bind fun _ =>
    Moves.bind (moves_still (still_addSubTreeItemF _ _ _ _) (noFault_addSubTreeItemF _ _ _ _))
      fun _ => moves_overMembers (fun _ _ _ => terminates_addFieldBy hssl _ _) ()

theorem terminates_addCommandData (decodeNamedPayload isRequestPayload : Bool) (tree : ProtoNode)
    (commandPath : Option (Nat × Nat)) :
    Terminates data n (addCommandData env decodeNamedPayload isRequestPayload tree commandPath) := by
  refine moves_getType.bind fun type => ?_
  split
  · exact terminates_addNamedCommandPayload hssl _ _ _ _
  · exact terminates_addGenericTLVItem _ _ _ _

theorem terminates_commandDataMember (decodeNamedPayload isRequestPayload : Bool)
    (tree : ProtoNode) (commandPath : Option (Nat × Nat)) : Terminates data n
      (commandDataMember env decodeNamedPayload isRequestPayload tree commandPath) := by
  refine moves_getTag.bind fun tag => moves_getType.bind fun type =>
    (Moves.verify _ _).bind fun _ => ?_
  split
  · exact (Moves.verify _ _).bind fun _ =>
      (terminates_addPathItemAndExtractIds _ _).bind fun _ => .pure _
  · exact (terminates_addCommandData hssl _ _ _ _).bind fun _ => .pure _
  · exact (terminates_addUnknown _ _).bind fun _ => .pure _

theorem terminates_addCommandDataIB (tree : ProtoNode)
    (decodeNamedPayload isRequestPayload : Bool) :
    Terminates data n (addCommandDataIB env tree decodeNamedPayload isRequestPayload) :=
  (moves_addSubTreeItem _ _ _).bind fun node =>
    (moves_overMembers (fun path _ _ => terminates_commandDataMember hssl _ _ node path)
      none).bind fun _ => .pure _

omit hssl in
theorem terminates_addCommandStatusIB (tree : ProtoNode) :
    Terminates data n (addCommandStatusIB env tree) := by
  refine terminates_structBlock (fun node => moves_overMembers (fun _ m _ => ?_) ()) _ _ _
  refine moves_getTag.bind fun tag => (Moves.verify _ _).bind fun _ => ?_
  split
  · exact terminates_addNamedPathItem _ _
  · exact terminates_addStatusIB _
  · exact moves_addTypedItem _ _
  · exact terminates_addUnknown _ _

theorem terminates_addInvokeResponseIB (tree : ProtoNode) :
    Terminates data n (addInvokeResponseIB env tree) := by
  refine moves_overMembers (fun _ m _ => ?_) ()
  refine moves_getTag.bind fun tag => moves_getType.bind fun type =>
    (Moves.verify _ _).bind fun _ => ?_
  split
  · exact (Moves.verify _ _).bind fun _ => terminates_addCommandDataIB hssl _ _ _
  · exact (Moves.verify _ _).bind fun _ => terminates_addCommandStatusIB _
  · exact terminates_addUnknown _ _

/-! ## Messages -/

omit hssl in
theorem terminates_listEntry {elemHandler : ProtoNode → DissectM Unit}
    (h : ∀ node m, Terminates data m (elemHandler node)) (tree : ProtoNode)
    (hfindex : HeaderField) (ett : Ett) :
    Terminates data n (listEntry tree hfindex ett elemHandler) :=
  moves_getType.bind fun _ => .ite
    ((terminates_addListItem (fun node m _ => h node m) _ _ _).bind fun _ => .pure _) (.pure _)

omit hssl in
theorem terminates_addAnyEntry (tree : ProtoNode) (hfEntry : HeaderField) :
    Terminates data n (addAnyEntry env tree hfEntry) := terminates_addGenericTLVItem _ _ _ _

omit hssl in
theorem terminates_addEntry (tree : ProtoNode) (hfEntry : HeaderField) :
    Terminates data n (addEntry env tree hfEntry) :=
  .ite (.pure _) (terminates_addGenericTLVItem _ _ _ _)

omit hssl in
theorem terminates_dissectMessage {member : Nat → DissectM Unit}
    (h : ∀ m tag, Terminates data m (member tag)) (title : String) :
    Terminates data n (dissectMessage title member) :=
  (moves_draw _).bind fun _ => (moves_nextExpecting _ _).bind fun _ =>
    moves_overMembers (fun _ m _ => moves_getTag.bind fun _ =>
      (Moves.verify _ _).bind fun _ => (h m _).bind fun _ => .pure _) []

omit hssl in
theorem moves_addOfType {F : Fault → Prop} (type : TLVType) {x : DissectM Unit}
    (h : Moves F data n x) : Moves F data n (addOfType type x) :=
  moves_getType.bind fun _ => (Moves.verify _ _).bind fun _ => h

omit hssl in
theorem terminates_readRequestEntry (tree : ProtoNode) (tag : Nat) :
    Terminates data n (readRequestEntry env tree tag) := by
  unfold readRequestEntry
  split
  · exact terminates_listEntry (fun _ _ => terminates_addNamedPathItem _ _) _ _ _
  · exact terminates_listEntry (fun _ _ => terminates_addNamedPathItem _ _) _ _ _
  · exact terminates_listEntry (fun _ _ => terminates_addEventFilterIBItem _) _ _ _
  · exact .pure _
  · exact terminates_listEntry (fun _ _ => terminates_addDataVersionFilterIBItem _) _ _ _
  · exact .pure _

theorem terminates_reportDataEntry (tree : ProtoNode) (tag : Nat) :
    Terminates data n (reportDataEntry env tree tag) := by
  unfold reportDataEntry
  split
  · exact .pure _
  · exact terminates_listEntry (fun _ _ => terminates_addAttributeReportIBItem hssl _) _ _ _
  · exact terminates_listEntry (fun _ _ => terminates_addNamedStructItem hssl _ _) _ _ _
  · exact .pure _
  · exact .pure _
  · exact .pure _

omit hssl in
theorem terminates_subscribeRequestEntry (tree : ProtoNode) (tag : Nat) :
    Terminates data n (subscribeRequestEntry env tree tag) := by
  unfold subscribeRequestEntry
  split
  · exact .pure _
  · exact .pure _
  · exact .pure _
  · exact terminates_listEntry (fun _ _ => terminates_addNamedPathItem _ _) _ _ _
  · exact terminates_listEntry (fun _ _ => terminates_addNamedPathItem _ _) _ _ _
  · exact terminates_listEntry (fun _ _ => terminates_addEventFilterIBItem _) _ _ _
  · exact .pure _
  · exact terminates_listEntry (fun _ _ => terminates_addDataVersionFilterIBItem _) _ _ _
  · exact .pure _

theorem terminates_writeRequestEntry (tree : ProtoNode) (tag : Nat) :
    Terminates data n (writeRequestEntry env tree tag) := by
  unfold writeRequestEntry
  split
  · exact .pure _
  · exact .pure _
  · exact terminates_listEntry (fun _ _ => terminates_addAttributeDataIBItem hssl _) _ _ _
  · exact .pure _
  · exact .pure _

omit hssl in
theorem terminates_writeResponseEntry (tree : ProtoNode) (tag : Nat) :
    Terminates data n (writeResponseEntry env tree tag) := by
  unfold writeResponseEntry
  split
  · exact terminates_listEntry (fun _ _ => terminates_addAttributeStatusIBItem _) _ _ _
  · exact .pure _

theorem terminates_commandRequestMember (tree : ProtoNode) (tag : Nat) :
    Terminates data n (commandRequestMember env tree tag) := by
  unfold commandRequestMember
  split
  · exact moves_addOfType _ (moves_addTypedItem _ _)
  · exact moves_addOfType _ (moves_addTypedItem _ _)
  · exact moves_addOfType _ (terminates_addListItem
      (fun _ _ _ => terminates_addCommandDataIB hssl _ _ _) _ _ _)
  · exact terminates_addAnyEntry _ _

theorem terminates_commandResponseMember (tree : ProtoNode) (tag : Nat) :
    Terminates data n (commandResponseMember env tree tag) := by
  unfold commandResponseMember
  split
  · exact terminates_addEntry _ _
  · exact moves_addOfType _ (terminates_addListItem
      (fun _ _ _ => terminates_addInvokeResponseIB hssl _) _ _ _)
  · exact terminates_addEntry _ _

omit hssl in
theorem terminates_timedRequestMember (tree : ProtoNode) (tag : Nat) :
    Terminates data n (timedRequestMember env tree tag) := by
  unfold timedRequestMember
  split
  · exact moves_addTypedItem _ _
  · exact terminates_addAnyEntry _ _

theorem terminates_dissectIMMessage (msgType : MsgType) :
    Terminates data n (dissectIMMessage env msgType) := by
  cases msgType with
  | statusResponse => exact terminates_dissectMessage (fun _ _ => terminates_addEntry _ _) _
  | readRequest =>
    exact terminates_dissectMessage (fun _ _ =>
      (terminates_readRequestEntry _ _).bind fun _ => terminates_addEntry _ _) _
  | subscribeRequest =>
    exact terminates_dissectMessage (fun _ _ =>
      (terminates_subscribeRequestEntry _ _).bind fun _ => terminates_addEntry _ _) _
  | subscribeResponse => exact terminates_dissectMessage (fun _ _ => terminates_addEntry _ _) _
  | reportData =>
    exact terminates_dissectMessage (fun _ _ =>
      (terminates_reportDataEntry hssl _ _).bind fun _ => terminates_addEntry _ _) _
  | writeRequest =>
    exact terminates_dissectMessage (fun _ _ =>
      (terminates_writeRequestEntry hssl _ _).bind fun _ => terminates_addAnyEntry _ _) _
  | writeResponse =>
    exact terminates_dissectMessage (fun _ _ =>
      (terminates_writeResponseEntry _ _).bind fun _ => terminates_addAnyEntry _ _) _
  | invokeRequest =>
    exact terminates_dissectMessage (fun _ _ => terminates_commandRequestMember hssl _ _) _
  | invokeResponse =>
    exact terminates_dissectMessage (fun _ _ => terminates_commandResponseMember hssl _ _) _
  | timedRequest =>
    exact terminates_dissectMessage (fun _ _ => terminates_timedRequestMember _ _) _

end

/-! ## The dissection -/

/-- The loops and recursions of the dissection, from at most `n` unread bytes. -/
structure RecursionsTerminate (env : Env) (data : List UInt8) (n : Nat) : Prop where
  addGenericTLVItem : ∀ tree hfindex suppressTag suppressHeader indentLevel, Terminates data n
    (addGenericTLVItemAt env.host tree hfindex suppressTag suppressHeader indentLevel)
  addListItem : ∀ tree hfindex ett (elemHandler : ProtoNode → DissectM Unit),
    (∀ node m, m < n → Terminates data m (elemHandler node)) →
      Terminates data n (addListItem tree hfindex ett elemHandler)
  addAttributeReportIBItem : ∀ tree, Terminates data n (addAttributeReportIBItem env tree)
  addAttributeDataIBItem : ∀ tree, Terminates data n (addAttributeDataIBItem env tree)
  addAttributeStatusIBItem : ∀ tree, Terminates data n (addAttributeStatusIBItem env tree)
  addNamedStructItem : ∀ tree kind, Terminates data n (addNamedStructItem env tree kind)
  addNamedCommandValue : ∀ tree fieldName,
    Terminates data n (addNamedCommandValue env tree fieldName)
  dissectIMMessage : ∀ msgType, Terminates data n (dissectIMMessage env msgType)

theorem recursionsTerminate (hssl : env.openssl.ContentFits) :
    RecursionsTerminate env data n where
  addGenericTLVItem _ _ _ _ _ := terminates_addGenericTLVItemAt _ _ _ _ _ _
  addListItem _ _ _ _ h := terminates_addListItem h _ _ _
  addAttributeReportIBItem _ := terminates_addAttributeReportIBItem hssl _
  addAttributeDataIBItem _ := terminates_addAttributeDataIBItem hssl _
  addAttributeStatusIBItem _ := terminates_addAttributeStatusIBItem _
  addNamedStructItem _ _ := terminates_addNamedStructItem hssl _ _
  addNamedCommandValue _ _ := terminates_addNamedCommandValue hssl _ _
  dissectIMMessage _ := terminates_dissectIMMessage hssl _

/-- The dissection of any bytes comes to an end. -/
theorem dissection_terminates (env : Env) (hssl : env.openssl.ContentFits) (data : List UInt8)
    (hlen : data.length < 2 ^ 32) :
    TLVReader.ReaderTerminates data ∧ (∀ n, RecursionsTerminate env data n) ∧
      ∀ msgType, dissectIM env msgType data ≠ .fault .outOfFuel := by
  refine ⟨TLVReader.readerTerminates hlen, fun n => recursionsTerminate hssl, fun msgType h => ?_⟩
  have hrun := terminates_dissectIMMessage hssl msgType
    (.start (.init data data.length 0)) ⟨InBounds.init hlen, Nat.le_refl _⟩
  rw [dissectIM] at h
  rw [h] at hrun
  cases hrun

end

/-- A read request for one path, in which the last container is not closed. -/
theorem dissection_terminates_readRequest :
    plainEnv.openssl.ContentFits ∧
      ([0x15, 0x36, 0x00, 0x17, 0x24, 0x02, 0x01, 0x18, 0x18] : List UInt8).length < 2 ^ 32 ∧
      TLVReader.ReaderTerminates [0x15, 0x36, 0x00, 0x17, 0x24, 0x02, 0x01, 0x18, 0x18] ∧
      (∀ n, RecursionsTerminate plainEnv
        [0x15, 0x36, 0x00, 0x17, 0x24, 0x02, 0x01, 0x18, 0x18] n) ∧
      ∀ msgType, dissectIM plainEnv msgType
        [0x15, 0x36, 0x00, 0x17, 0x24, 0x02, 0x01, 0x18, 0x18] ≠ .fault .outOfFuel :=
  have hssl : plainEnv.openssl.ContentFits := fun _ _ h => by cases h
  ⟨hssl, by decide, dissection_terminates plainEnv hssl _ (by decide)⟩

end Matter.IM
