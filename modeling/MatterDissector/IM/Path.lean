import MatterDissector.IM.Names

/-!
# Loops over members, and paths

The ways in which the functions of `packet-matter-im.cpp` go over a container and fall back on
`AddGenericTLVItem`, and the three decoders of paths.
-/

namespace Matter.IM

open Prog TLV Display TLV.Dissect

variable {α β : Type}

/-! ## Loops and fallbacks -/

/-- The container of the current element: its members, one after another. -/
def overMembers (body : β → DissectM β) (b : β) : DissectM β := do
  enterContainer
  let b ← forMembers body b
  exitContainer
  pure b

/-- One round of `scanMembers`. -/
def scanRound (body : β → DissectM β) (b : β) : DissectM (β ⊕ (β × MatterError)) := do
  match ← attempt (do next; body b) with
  | .ok b => pure (.inl b)
  | .error e => pure (.inr (b, e))

/-- A loop over members that ends with any error: what it has found, and the error. -/
def scanMembers (body : β → DissectM β) (b : β) : DissectM (β × MatterError) :=
  whileLoop (fun _ s => s.tlv.reader.unread) .outOfFuel (scanRound body) b

/-- Counts a fallback on a list or a structure. -/
def noteRetry (type : TLVType) : DissectM Unit :=
  modify fun s => { s with
    retried := s.retried + if type = .path ∨ type = .struct then 1 else 0 }

/-- `decode`, or if that fails `fallback` on the same dissector. -/
def decodeOr (decode fallback : DissectM α) : DissectM α := do
  let type ← getType
  match ← attempt decode with
  | .ok a => pure a
  | .error _ => do
    noteRetry type
    fallback

variable (env : Env)

/-- `AddGenericTLVItem` as `hf_ImCommon_Unknown`, with its tag. -/
def addUnknown (tree : ProtoNode) : DissectM Unit :=
  addGenericTLVItem env.host tree .imCommonUnknown false

/-- `AddStringItemF` as `hf_ImCommon_Field`. -/
def addField (tree : ProtoNode) (text : Text) : DissectM Unit :=
  addStringItemF tree .imCommonField text

/-! ## Paths -/

inductive PathKind where
  | command
  | attribute
  | event
  | cluster
  deriving DecidableEq, Repr

structure PathTags where
  endpointTag : Nat
  clusterTag : Nat
  itemTag : Nat
  itemLabel : Text
  deriving DecidableEq, Repr

def PathKind.tags : PathKind → PathTags
  | .command => ⟨0, 1, 2, Text.lit "Command"⟩
  | .attribute => ⟨2, 3, 4, Text.lit "Attribute"⟩
  | .event => ⟨1, 2, 3, Text.lit "Event"⟩
  | .cluster => ⟨1, 2, 0xFFFFFFFF, Text.lit "Cluster"⟩

/-- The ids found so far, with their `…Present` flags. -/
structure PathIds where
  endpoint : Option Nat := none
  cluster : Option Nat := none
  item : Option Nat := none
  deriving DecidableEq, Repr

namespace PathIds

def isEmpty (ids : PathIds) : Bool := ids.endpoint.isNone && ids.cluster.isNone && ids.item.isNone

/-- The first number with a tag counts. -/
def noteFirst (tags : PathTags) (ids : PathIds) (tagNum value : Nat) : PathIds :=
  if ids.endpoint = none ∧ tagNum = tags.endpointTag then
    { ids with endpoint := some (value % 2 ^ 32) }
  else if ids.cluster = none ∧ tagNum = tags.clusterTag then
    { ids with cluster := some (value % 2 ^ 32) }
  else if ids.item = none ∧ tags.itemTag ≠ 0xFFFFFFFF ∧ tagNum = tags.itemTag then
    { ids with item := some (value % 2 ^ 32) }
  else ids

/-- The last number with a tag counts. -/
def noteLast (tags : PathTags) (ids : PathIds) (tagNum value : Nat) : PathIds :=
  if tagNum = tags.endpointTag then { ids with endpoint := some (value % 2 ^ 32) }
  else if tagNum = tags.clusterTag then { ids with cluster := some (value % 2 ^ 32) }
  else if tagNum = tags.itemTag then { ids with item := some (value % 2 ^ 32) }
  else ids

end PathIds

/-- A member of a path: an unsigned number under a context tag, or nothing. -/
def pathMember (note : PathIds → Nat → Nat → PathIds) (ids : PathIds) : DissectM PathIds := do
  let tag ← getTag
  let type ← getType
  if isContextTag tag ∧ type = .unsignedInteger then do
    let value ← onReader TLVReader.getUInt64
    pure (note ids (tagNumFromTag tag) value)
  else pure ids

/-- What the decoders do before they show the path. -/
def readPathIds (note : PathIds → Nat → Nat → PathIds) : DissectM PathIds := do
  let type ← getType
  verify (type = .path ∨ type = .struct) .unexpectedTLVElement
  let ids ← overMembers (pathMember note) {}
  verify (!ids.isEmpty) .unexpectedTLVElement
  pure ids

/-- `out` with one more id, `snprintf`ed to a buffer of `size` bytes. -/
def appendId (size : Nat) (label : Text) (id : Nat) (name : Option Text) (out : Text) : Text :=
  out ++ Text.snprintf size ((if out = [] then [] else Text.lit ", ") ++ label ++ Text.lit "=0x" ++
      Text.hexUpper id ++ (name.map (Text.lit " (" ++ ·)).getD []) ++
    if name.isSome then Text.lit ")" else []

/-- The text of a path. -/
def pathText (itemLabel : Text) (getItemName : Nat → Nat → Option Text) (ids : PathIds) : Text :=
  let clusterId := ids.cluster.getD 0
  let out := (ids.endpoint.map fun endpointId =>
    Text.snprintf 48 (Text.lit "Endpoint=0x" ++ Text.hexUpper endpointId)).getD []
  let out := (ids.cluster.map fun clusterId => appendId 96 (Text.lit "Cluster") clusterId
    (env.names.getClusterNameById clusterId) out).getD out
  (ids.item.map fun itemId => appendId 128 itemLabel itemId
    (getItemName clusterId itemId) out).getD out

def PathKind.getItemName : PathKind → Nat → Nat → Option Text
  | .command => env.names.getCommandNameById
  | .attribute => env.names.getAttributeNameById
  | .event | .cluster => env.names.getEventNameById

def addNamedPathItem (tree : ProtoNode) (kind : PathKind) : DissectM Unit := do
  let ids ← readPathIds (PathIds.noteFirst kind.tags)
  let out := pathText env kind.tags.itemLabel (kind.getItemName env) ids
  addStringItemF tree .dataElemPropertyPath (if out = [] then Text.lit "Unknown Path" else out)

def addAttributePathItem (tree : ProtoNode) : DissectM Unit := addNamedPathItem env tree .attribute
def addEventPathItem (tree : ProtoNode) : DissectM Unit := addNamedPathItem env tree .event
def addClusterPathItem (tree : ProtoNode) : DissectM Unit := addNamedPathItem env tree .cluster

/-- What `AddAttributePathItemAndExtractIds` and `AddCommandPathItemAndExtractIds` share. The
result are the ids of the cluster and the item, if both are there. -/
def addPathItemAndExtractIds (tree : ProtoNode) (kind : PathKind) :
    DissectM (Option (Nat × Nat)) := do
  let ids ← readPathIds (PathIds.noteLast kind.tags)
  addStringItemF tree .dataElemPropertyPath
    (pathText env kind.tags.itemLabel (kind.getItemName env) ids)
  pure (ids.cluster.bind fun clusterId => ids.item.map fun itemId => (clusterId, itemId))

def addAttributePathItemAndExtractIds (tree : ProtoNode) : DissectM (Option (Nat × Nat)) :=
  addPathItemAndExtractIds env tree .attribute

def addCommandPathItemAndExtractIds (tree : ProtoNode) : DissectM (Option (Nat × Nat)) :=
  addPathItemAndExtractIds env tree .command

end Matter.IM
