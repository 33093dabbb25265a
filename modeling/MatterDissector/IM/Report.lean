import MatterDissector.IM.Value

/-!
# Attribute and event information blocks

The handlers of the blocks in read, subscribe, write and report messages. The handlers that call
themselves on nested blocks take the depth to which they do so: blocks nest no deeper than there
are bytes.
-/

namespace Matter.IM

open Prog TLV Display TLV.Dissect

variable (env : Env)

/-! ## Events -/

/-- The look-ahead of `AddNamedStructItem` at a number in the event path. -/
def eventPathMember (found : Nat × Option Nat) : DissectM (Nat × Option Nat) := do
  let tag ← getTag
  let type ← getType
  if isContextTag tag ∧ type = .unsignedInteger then do
    let v ← onReader TLVReader.getUInt64
    match tagNumFromTag tag with
    | 2 => pure (v % 2 ^ 32, found.2)
    | 3 => pure (found.1, some (v % 2 ^ 32))
    | _ => pure found
  else pure found

/-- The look-ahead: the ids of the cluster and the event, if there is one. -/
def lookAheadEventPath : DissectM (Option (Nat × Nat)) := do
  match ← attempt enterContainer with
  | .error _ => pure none
  | .ok () => do
    let ((clusterId, eventId), e) ← scanMembers eventPathMember (0, none)
    let _ ← if e = .endOfTLV then attempt exitContainer else pure (.ok ())
    pure (eventId.map fun eventId => (clusterId, eventId))

/-- `Event::kTag_Data`. -/
def eventDataTag : Nat := 50

/-- The data of an event whose path is known. -/
def addEventData (itemTree : ProtoNode) (clusterId eventId : Nat) : DissectM Unit := do
  let eventDataTree ← addSubTreeItem itemTree .dataElemPropertyData .dataElem
  overMembers (fun () => addFieldBy env eventDataTree
    (env.names.getEventFieldNameByTag clusterId eventId)) ()

/-- What `AddNamedStructItem` does with a member that is no path. -/
def addNamedStructData (itemTree : ProtoNode) (kind : PathKind) (tag : Nat) (type : TLVType)
    (eventPath : Option (Nat × Nat)) : DissectM Unit :=
  match if kind = .event ∧ isContextTag tag ∧ tagNumFromTag tag = eventDataTag ∧ type = .struct
    then eventPath else none with
  | some (clusterId, eventId) => addEventData env itemTree clusterId eventId
  | none => addGenericTLVItem env.host itemTree .dataElemPropertyData false

def namedStructMember (itemTree : ProtoNode) (kind : PathKind)
    (eventPath : Option (Nat × Nat)) : DissectM (Option (Nat × Nat)) := do
  let tag ← getTag
  let type ← getType
  if type = .path ∨ type = .struct then do
    let eventPath ← if kind = .event then (·.or eventPath) <$> lookAheadEventPath
      else pure eventPath
    decodeOr (addNamedPathItem env itemTree kind)
      (addNamedStructData env itemTree kind tag type eventPath)
    pure eventPath
  else do
    addNamedStructData env itemTree kind tag type eventPath
    pure eventPath

def addNamedStructItem (tree : ProtoNode) (kind : PathKind) : DissectM Unit := do
  let type ← getType
  verify (type = .struct) .unexpectedTLVElement
  let itemTree ← addSubTreeItem tree .dataElemPropertyData .dataElem
  let _ ← overMembers (namedStructMember env itemTree kind) none

def addEventReportIBItem (tree : ProtoNode) : DissectM Unit := addNamedStructItem env tree .event

/-! ## Filters -/

def eventFilterMember (itemTree : ProtoNode) : DissectM Unit := do
  let tag ← getTag
  let type ← getType
  if isContextTag tag ∧ type = .unsignedInteger then do
    let value ← onReader TLVReader.getUInt64
    match tagNumFromTag tag with
    | 0 =>
      addStringItemF itemTree .imCommonUnknown (Text.lit "Node=0x" ++ Text.hexUpper value)
    | 1 =>
      addStringItemF itemTree .imCommonUnknown (Text.lit "EventMin=0x" ++ Text.hexUpper value)
    | _ => addUnknown env itemTree
  else addUnknown env itemTree

def addEventFilterIBItem (tree : ProtoNode) : DissectM Unit := do
  let type ← getType
  verify (type = .struct) .unexpectedTLVElement
  let itemTree ← addSubTreeItem tree .imCommonUnknown .dataElem
  overMembers (fun () => eventFilterMember env itemTree) ()

/-- A data version, or a generic item. -/
def addDataVersion (itemTree : ProtoNode) (hfindex : HeaderField) : DissectM Unit := do
  match ← unsignedValue with
  | some value => addStringItemF itemTree hfindex (Text.lit "DataVersion=" ++ Text.dec value)
  | none => addUnknown env itemTree

def dataVersionFilterMember (itemTree : ProtoNode) : DissectM Unit := do
  let tag ← getTag
  if isContextTag tag then
    match tagNumFromTag tag with
    | 0 => decodeOr (addClusterPathItem env itemTree) (addUnknown env itemTree)
    | 1 => addDataVersion env itemTree .imCommonUnknown
    | _ => addUnknown env itemTree
  else addUnknown env itemTree

def addDataVersionFilterIBItem (tree : ProtoNode) : DissectM Unit := do
  let type ← getType
  verify (type = .struct) .unexpectedTLVElement
  let itemTree ← addSubTreeItem tree .imCommonUnknown .dataElem
  overMembers (fun () => dataVersionFilterMember env itemTree) ()

/-! ## Status -/

def statusMember (statusIBTree : ProtoNode) : DissectM Unit := do
  let tag ← getTag
  if isContextTag tag then
    match tagNumFromTag tag with
    | 0 => addTypedItem statusIBTree .commandStatusStatus
    | 1 => addTypedItem statusIBTree .commandStatusClusterStatus
    | _ => addUnknown env statusIBTree
  else addUnknown env statusIBTree

def addStatusIB (tree : ProtoNode) : DissectM Unit := do
  let type ← getType
  verify (type = .struct) .unexpectedTLVElement
  let statusIBTree ← addSubTreeItem tree .statusIB .statusIB
  overMembers (fun () => statusMember env statusIBTree) ()

/-- A nested block under a tag without meaning, if it is a structure. -/
def addNestedIB (nested : ProtoNode → DissectM Unit) (itemTree : ProtoNode) : DissectM Unit := do
  let type ← getType
  if type = .struct then decodeOr (nested itemTree) (addUnknown env itemTree)
  else addUnknown env itemTree

/-- A structure with a block of its own, or a generic item. -/
def addStructOr (addStruct : ProtoNode → DissectM Unit) (itemTree : ProtoNode) :
    DissectM Unit := do
  let type ← getType
  if type = .struct then addStruct itemTree else addUnknown env itemTree

def attributeStatusMember (nested : ProtoNode → DissectM Unit) (itemTree : ProtoNode) :
    DissectM Unit := do
  let tag ← getTag
  if isContextTag tag then
    match tagNumFromTag tag with
    | 0 => decodeOr (addNamedPathItem env itemTree .attribute) (addUnknown env itemTree)
    | 1 => addStructOr env (addStatusIB env) itemTree
    | _ => addUnknown env itemTree
  else addNestedIB env nested itemTree

/-- `AddAttributeStatusIBItem` to a depth of `depth` blocks. -/
def addAttributeStatusIBItemTo : Nat → ProtoNode → DissectM Unit
  | 0, _ => stop .outOfFuel
  | depth + 1, tree => do
    let type ← getType
    verify (type = .struct) .unexpectedTLVElement
    let itemTree ← addSubTreeItem tree .commandStatusIB .commandElem
    overMembers
      (fun () => attributeStatusMember env (addAttributeStatusIBItemTo depth) itemTree) ()

def addAttributeStatusIBItem (tree : ProtoNode) : DissectM Unit := do
  let s ← get
  addAttributeStatusIBItemTo env (s.tlv.reader.unread + 1) tree

/-! ## Attribute data -/

def addNamedAttributeStructValue (tree : ProtoNode) (clusterId attributeId : Nat) :
    DissectM Unit := do
  let type ← getType
  verify (type = .struct) .unexpectedTLVElement
  let valueTree ← addSubTreeItemF tree .dataElemPropertyData .dataElem (Text.lit "Value")
  overMembers (fun () => addFieldBy env valueTree
    (env.names.getAttributeStructFieldNameByTag clusterId attributeId)) ()

/-- The data of an attribute whose path is known. -/
def addAttributeValue (itemTree : ProtoNode) (clusterId attributeId : Nat) : DissectM Unit := do
  let type ← getType
  if type = .struct then addNamedAttributeStructValue env itemTree clusterId attributeId
  else
    addNumberOr itemTree (Text.lit "Value")
      (env.names.getAttributeEnumValueName clusterId attributeId)
      (addNamedCommandValue env itemTree (Text.lit "Value"))

/-- The data of an attribute. -/
def addAttributeData (itemTree : ProtoNode) : Option (Nat × Nat) → DissectM Unit
  | some (clusterId, attributeId) => addAttributeValue env itemTree clusterId attributeId
  | none => addNamedCommandValue env itemTree (Text.lit "Value")

/-- The member with the path of the attribute. -/
def addAttributePathOr (itemTree : ProtoNode) : DissectM (Option (Nat × Nat)) :=
  decodeOr (addAttributePathItemAndExtractIds env itemTree) (do
    addUnknown env itemTree
    pure none)

def attributeDataMember (nested : ProtoNode → DissectM Unit) (itemTree : ProtoNode)
    (attributePath : Option (Nat × Nat)) : DissectM (Option (Nat × Nat)) := do
  let tag ← getTag
  if isContextTag tag then
    match tagNumFromTag tag with
    | 0 => do
      addDataVersion env itemTree .imCommonField
      pure attributePath
    | 1 => do
      let found ← addAttributePathOr env itemTree
      pure (found.or attributePath)
    | 2 => do
      addAttributeData env itemTree attributePath
      pure attributePath
    | _ => do
      addUnknown env itemTree
      pure attributePath
  else do
    addNestedIB env nested itemTree
    pure attributePath

/-- `AddAttributeDataIBItem` to a depth of `depth` blocks. -/
def addAttributeDataIBItemTo : Nat → ProtoNode → DissectM Unit
  | 0, _ => stop .outOfFuel
  | depth + 1, tree => do
    let type ← getType
    verify (type = .struct) .unexpectedTLVElement
    let itemTree ← addSubTreeItem tree .dataElemPropertyData .dataElem
    let _ ← overMembers (attributeDataMember env (addAttributeDataIBItemTo depth) itemTree) none
    pure ()

def addAttributeDataIBItem (tree : ProtoNode) : DissectM Unit := do
  let s ← get
  addAttributeDataIBItemTo env (s.tlv.reader.unread + 1) tree

/-! ## Attribute reports -/

inductive AttributeIBKind where
  | unknown
  | data
  | status
  deriving DecidableEq, Repr

/-- What `DetectAttributeIBKind` has seen of the members. -/
structure AttributeIBMarks where
  hasTag2 : Bool := false
  hasTag0Unsigned : Bool := false
  hasTag0PathLike : Bool := false
  hasTag1PathLike : Bool := false
  hasTag1Struct : Bool := false
  deriving DecidableEq, Repr

namespace AttributeIBMarks

def note (marks : AttributeIBMarks) (tagNum : Nat) (type : TLVType) : AttributeIBMarks :=
  match tagNum with
  | 2 => { marks with hasTag2 := true }
  | 0 => { marks with
      hasTag0Unsigned := marks.hasTag0Unsigned || type = .unsignedInteger
      hasTag0PathLike := marks.hasTag0PathLike || type = .path || type = .struct }
  | 1 => { marks with
      hasTag1PathLike := marks.hasTag1PathLike || type = .path || type = .struct
      hasTag1Struct := marks.hasTag1Struct || type = .struct }
  | _ => marks

def kind (marks : AttributeIBMarks) : AttributeIBKind :=
  if marks.hasTag2 || (marks.hasTag0Unsigned && marks.hasTag1PathLike) then .data
  else if marks.hasTag0PathLike && marks.hasTag1Struct then .status
  else .unknown

end AttributeIBMarks

def detectMember (marks : AttributeIBMarks) : DissectM AttributeIBMarks := do
  let tag ← getTag
  let type ← getType
  pure (if isContextTag tag then marks.note (tagNumFromTag tag) type else marks)

/-- The look-ahead inside the structure. -/
def detectInside : DissectM AttributeIBKind := do
  match ← attempt enterContainer with
  | .error _ => pure .unknown
  | .ok () => do
    let (marks, _) ← scanMembers detectMember {}
    let _ ← attempt exitContainer
    pure marks.kind

def detectAttributeIBKind : DissectM AttributeIBKind := do
  let type ← getType
  if type = .struct then detectInside else pure .unknown

/-- The block that `DetectAttributeIBKind` has taken the element for. -/
def addDetectedIB (nested : ProtoNode → DissectM Unit) (itemTree : ProtoNode) :
    DissectM Unit := do
  match ← detectAttributeIBKind with
  | .data => addAttributeDataIBItem env itemTree
  | .status => addAttributeStatusIBItem env itemTree
  | .unknown => nested itemTree

def attributeReportMember (nested : ProtoNode → DissectM Unit) (itemTree : ProtoNode) :
    DissectM Unit := do
  let tag ← getTag
  if isContextTag tag then
    match tagNumFromTag tag with
    | 0 => addStructOr env (addAttributeStatusIBItem env) itemTree
    | 1 => addStructOr env (addAttributeDataIBItem env) itemTree
    | _ => addUnknown env itemTree
  else addNestedIB env (addDetectedIB env nested) itemTree

/-- `AddAttributeReportIBItem` to a depth of `depth` blocks. -/
def addAttributeReportIBItemTo : Nat → ProtoNode → DissectM Unit
  | 0, _ => stop .outOfFuel
  | depth + 1, tree => do
    let type ← getType
    verify (type = .struct) .unexpectedTLVElement
    let itemTree ← addSubTreeItem tree .dataElemPropertyData .dataElem
    overMembers
      (fun () => attributeReportMember env (addAttributeReportIBItemTo depth) itemTree) ()

def addAttributeReportIBItem (tree : ProtoNode) : DissectM Unit := do
  let s ← get
  addAttributeReportIBItemTo env (s.tlv.reader.unread + 1) tree

end Matter.IM
