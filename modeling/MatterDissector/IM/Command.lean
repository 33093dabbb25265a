import MatterDissector.IM.Report

/-!
# Command information blocks

The handlers of the blocks in invoke requests and responses.
-/

namespace Matter.IM

open Prog TLV Display TLV.Dissect

variable (env : Env)

def addNamedCommandPayload (tree : ProtoNode) (clusterId commandId : Nat) (isRequest : Bool) :
    DissectM Unit := do
  let type ← getType
  verify (type = .struct) .unexpectedTLVElement
  let argTree ← addSubTreeItemF tree .commandRequestArgument .dataElem
    (Text.lit "Command Argument")
  overMembers (fun () => addFieldBy env argTree fun tag =>
    env.names.getCommandFieldNameByTag clusterId commandId tag isRequest) ()

/-- `CommandDataIB::kTag_Data`. -/
def addCommandData (decodeNamedPayload isRequestPayload : Bool) (dataElemTree : ProtoNode)
    (commandPath : Option (Nat × Nat)) : DissectM Unit := do
  let type ← getType
  match if decodeNamedPayload ∧ type = .struct then commandPath else none with
  | some (clusterId, commandId) =>
    addNamedCommandPayload env dataElemTree clusterId commandId isRequestPayload
  | none => addGenericTLVItem env.host dataElemTree .dataElemPropertyData true

def commandDataMember (decodeNamedPayload isRequestPayload : Bool) (dataElemTree : ProtoNode)
    (commandPath : Option (Nat × Nat)) : DissectM (Option (Nat × Nat)) := do
  let tag ← getTag
  let type ← getType
  verify (isContextTag tag) .unexpectedTLVElement
  match tagNumFromTag tag with
  | 0 => do
    verify (type = .path ∨ type = .struct) .unexpectedTLVElement
    let found ← addCommandPathItemAndExtractIds env dataElemTree
    pure (found.or commandPath)
  | 1 => do
    addCommandData env decodeNamedPayload isRequestPayload dataElemTree commandPath
    pure commandPath
  | _ => do
    addUnknown env dataElemTree
    pure commandPath

def addCommandDataIB (tree : ProtoNode) (decodeNamedPayload isRequestPayload : Bool) :
    DissectM Unit := do
  let dataElemTree ← addSubTreeItem tree .commandDataIB .commandElem
  let _ ← overMembers
    (commandDataMember env decodeNamedPayload isRequestPayload dataElemTree) none
  pure ()

def addCommandDataIBForRequest (tree : ProtoNode) : DissectM Unit :=
  addCommandDataIB env tree true true

def addCommandDataIBForResponse (tree : ProtoNode) : DissectM Unit :=
  addCommandDataIB env tree true false

def commandStatusMember (statusTree : ProtoNode) : DissectM Unit := do
  let tag ← getTag
  verify (isContextTag tag) .unexpectedTLVElement
  match tagNumFromTag tag with
  | 0 => addNamedPathItem env statusTree .command
  | 1 => addStatusIB env statusTree
  | 2 => addTypedItem statusTree .commandStatusRef
  | _ => addUnknown env statusTree

def addCommandStatusIB (tree : ProtoNode) : DissectM Unit := do
  let type ← getType
  verify (type = .struct) .unexpectedTLVElement
  let statusTree ← addSubTreeItem tree .commandStatusIB .commandElem
  overMembers (fun () => commandStatusMember env statusTree) ()

def invokeResponseMember (tree : ProtoNode) : DissectM Unit := do
  let tag ← getTag
  let type ← getType
  verify (isContextTag tag) .unexpectedTLVElement
  match tagNumFromTag tag with
  | 0 => do
    verify (type = .struct) .unexpectedTLVElement
    addCommandDataIBForResponse env tree
  | 1 => do
    verify (type = .struct) .unexpectedTLVElement
    addCommandStatusIB env tree
  | _ => addUnknown env tree

def addInvokeResponseIB (tree : ProtoNode) : DissectM Unit :=
  overMembers (fun () => invokeResponseMember env tree) ()

end Matter.IM
