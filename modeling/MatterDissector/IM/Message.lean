import MatterDissector.IM.Command

/-!
# Interaction model messages

The ten message dissectors of `packet-matter-im.cpp`. Each goes over the members of the outer
structure. Most choose a field for the member, which `AddGenericTLVItem` shows afterwards unless
the field is -1 (`unset`); all but two of these test that.

The source returns the length of the payload whatever happens. Here the result is the list of the
members visited, by their tag numbers, and an error code is the one that the source drops.
-/

namespace Matter.IM

open Prog TLV Display TLV.Dissect

variable (env : Env)

/-- `CommonActionInfo::kTag_InteractionModelRevision`. -/
def interactionModelRevisionTag : Nat := 0xFF

/-- A list, which is shown at once; an element that is none is left to `AddGenericTLVItem`. -/
def listEntry (tree : ProtoNode) (hfindex : HeaderField) (ett : Ett)
    (elemHandler : ProtoNode → DissectM Unit) : DissectM HeaderField := do
  let type ← getType
  if type = .array ∨ type = .path then do
    addListItem tree hfindex ett elemHandler
    pure .unset
  else pure hfindex

/-- The field of the revision, and of members without meaning. -/
def commonEntry (tag : Nat) : HeaderField :=
  if tag = interactionModelRevisionTag then .imCommonVersion else .imCommonUnknown

/-- `if (hf_entry != -1) AddGenericTLVItem(tree, hf_entry, tvb, false)`. -/
def addEntry (tree : ProtoNode) (hfEntry : HeaderField) : DissectM Unit :=
  if hfEntry = .unset then pure () else addGenericTLVItem env.host tree hfEntry false

/-- The same without the test. -/
def addAnyEntry (tree : ProtoNode) (hfEntry : HeaderField) : DissectM Unit :=
  addGenericTLVItem env.host tree hfEntry false

/-- The member of a message. -/
def messageMember (member : Nat → DissectM Unit) (visited : List Nat) : DissectM (List Nat) := do
  let tag ← getTag
  verify (isContextTag tag) .unexpectedTLVElement
  member (tagNumFromTag tag)
  pure (visited ++ [tagNumFromTag tag])

/-- What the ten functions share. -/
def dissectMessage (title : String) (member : Nat → DissectM Unit) : DissectM (List Nat) := do
  let _ ← draw (.appendText .messageParent (Text.lit title))
  onTlv (TLVDissector.nextExpecting .struct anonymousTag)
  overMembers (messageMember member) []

def statusResponseMember (tree : ProtoNode) (tag : Nat) : DissectM Unit :=
  addEntry env tree (if tag = 0 then .statusResponseStatus else commonEntry tag)

def dissectIMStatusResponse : DissectM (List Nat) :=
  dissectMessage ": Status Report" (statusResponseMember env .messageTree)

def readRequestEntry (tree : ProtoNode) (tag : Nat) : DissectM HeaderField :=
  match tag with
  | 0 => listEntry tree .readRequestAttributeRequests .subscribeRequestPathList
      (addAttributePathItem env)
  | 1 => listEntry tree .readRequestEventRequests .subscribeRequestPathList (addEventPathItem env)
  | 2 => listEntry tree .readRequestEventFilters .dataElem (addEventFilterIBItem env)
  | 3 => pure .readRequestIsFabricFiltered
  | 4 => listEntry tree .readRequestDataVersionFilters .dataElem (addDataVersionFilterIBItem env)
  | tag => pure (commonEntry tag)

def readRequestMember (tree : ProtoNode) (tag : Nat) : DissectM Unit := do
  addEntry env tree (← readRequestEntry env tree tag)

def dissectIMReadRequest : DissectM (List Nat) :=
  dissectMessage ": Read Request" (readRequestMember env .messageTree)

def reportDataEntry (tree : ProtoNode) (tag : Nat) : DissectM HeaderField :=
  match tag with
  | 0 => pure .reportDataSubscriptionID
  | 1 => listEntry tree .reportDataAttributeReports .dataElem (addAttributeReportIBItem env)
  | 2 => listEntry tree .reportDataEventReports .dataElem (addEventReportIBItem env)
  | 3 => pure .reportDataMoreChunkedMessages
  | 4 => pure .reportDataSuppressResponse
  | tag => pure (commonEntry tag)

def reportDataMember (tree : ProtoNode) (tag : Nat) : DissectM Unit := do
  addEntry env tree (← reportDataEntry env tree tag)

def dissectIMReportData : DissectM (List Nat) :=
  dissectMessage ": Report Data" (reportDataMember env .messageTree)

def subscribeRequestEntry (tree : ProtoNode) (tag : Nat) : DissectM HeaderField :=
  match tag with
  | 0 => pure .subscribeRequestKeepSubscriptions
  | 1 => pure .subscribeRequestMinIntervalFloor
  | 2 => pure .subscribeRequestMaxIntervalCeiling
  | 3 => listEntry tree .subscribeRequestAttributeRequests .subscribeRequestPathList
      (addAttributePathItem env)
  | 4 => listEntry tree .subscribeRequestEventRequests .subscribeRequestPathList
      (addEventPathItem env)
  | 5 => listEntry tree .subscribeRequestEventFilters .dataElem (addEventFilterIBItem env)
  | 7 => pure .subscribeRequestIsFabricFiltered
  | 8 => listEntry tree .subscribeRequestDataVersionFilters .dataElem
      (addDataVersionFilterIBItem env)
  | tag => pure (commonEntry tag)

def subscribeRequestMember (tree : ProtoNode) (tag : Nat) : DissectM Unit := do
  addEntry env tree (← subscribeRequestEntry env tree tag)

def dissectIMSubscribeRequest : DissectM (List Nat) :=
  dissectMessage ": Subscribe Request" (subscribeRequestMember env .messageTree)

def subscribeResponseMember (tree : ProtoNode) (tag : Nat) : DissectM Unit :=
  addEntry env tree (match tag with
    | 0 => .subscribeResponseSubscriptionID
    | 2 => .subscribeResponseMaxInterval
    | tag => commonEntry tag)

def dissectIMSubscribeResponse : DissectM (List Nat) :=
  dissectMessage ": Subscribe Response" (subscribeResponseMember env .messageTree)

def writeRequestEntry (tree : ProtoNode) (tag : Nat) : DissectM HeaderField :=
  match tag with
  | 0 => pure .writeRequestSuppressResponse
  | 1 => pure .writeRequestTimedRequest
  | 2 => listEntry tree .writeRequestWriteRequests .dataElem (addAttributeDataIBItem env)
  | 3 => pure .writeRequestMoreChunkedMessages
  | tag => pure (commonEntry tag)

def writeRequestMember (tree : ProtoNode) (tag : Nat) : DissectM Unit := do
  addAnyEntry env tree (← writeRequestEntry env tree tag)

def dissectIMWriteRequest : DissectM (List Nat) :=
  dissectMessage ": Write Request" (writeRequestMember env .messageTree)

def writeResponseEntry (tree : ProtoNode) (tag : Nat) : DissectM HeaderField :=
  match tag with
  | 0 => listEntry tree .writeResponseWriteResponses .dataElem (addAttributeStatusIBItem env)
  | tag => pure (commonEntry tag)

def writeResponseMember (tree : ProtoNode) (tag : Nat) : DissectM Unit := do
  addAnyEntry env tree (← writeResponseEntry env tree tag)

def dissectIMWriteResponse : DissectM (List Nat) :=
  dissectMessage ": Write Response" (writeResponseMember env .messageTree)

/-- A member that must have the type `type`. -/
def addOfType (type : TLVType) (x : DissectM Unit) : DissectM Unit := do
  let elemType ← getType
  verify (elemType = type) .unexpectedTLVElement
  x

def commandRequestMember (tree : ProtoNode) (tag : Nat) : DissectM Unit :=
  match tag with
  | 0 => addOfType .boolean (addTypedItem tree .commandRequestSuppressResponse)
  | 1 => addOfType .boolean (addTypedItem tree .commandRequestTimedRequest)
  | 2 => addOfType .array (addListItem tree .commandRequestCommandList .commandRequestCommandList
      (addCommandDataIBForRequest env))
  | tag => addAnyEntry env tree (commonEntry tag)

def dissectIMCommandRequest : DissectM (List Nat) :=
  dissectMessage ": Invoke Command Request" (commandRequestMember env .messageTree)

def commandResponseMember (tree : ProtoNode) (tag : Nat) : DissectM Unit :=
  match tag with
  | 0 => addEntry env tree .commandResponseSuppressResponse
  | 1 => addOfType .array (addListItem tree .commandResponseInvokeResponsesDetail
      .commandResponseInvokeResponseList (addInvokeResponseIB env))
  | tag => addEntry env tree (commonEntry tag)

def dissectIMCommandResponse : DissectM (List Nat) :=
  dissectMessage ": Invoke Command Response" (commandResponseMember env .messageTree)

def timedRequestMember (tree : ProtoNode) (tag : Nat) : DissectM Unit :=
  match tag with
  | 0 => addTypedItem tree .timedRequestTimeoutMs
  | tag => addAnyEntry env tree (commonEntry tag)

def dissectIMTimedRequest : DissectM (List Nat) :=
  dissectMessage ": Timed Request" (timedRequestMember env .messageTree)

/-- `kMsgType_`: the messages. -/
inductive MsgType where
  | statusResponse
  | readRequest
  | subscribeRequest
  | subscribeResponse
  | reportData
  | writeRequest
  | writeResponse
  | invokeRequest
  | invokeResponse
  | timedRequest
  deriving DecidableEq, Repr

/-- The switch of `DissectIM`. -/
def dissectIMMessage : MsgType → DissectM (List Nat)
  | .statusResponse => dissectIMStatusResponse env
  | .readRequest => dissectIMReadRequest env
  | .subscribeRequest => dissectIMSubscribeRequest env
  | .subscribeResponse => dissectIMSubscribeResponse env
  | .reportData => dissectIMReportData env
  | .writeRequest => dissectIMWriteRequest env
  | .writeResponse => dissectIMWriteResponse env
  | .invokeRequest => dissectIMCommandRequest env
  | .invokeResponse => dissectIMCommandResponse env
  | .timedRequest => dissectIMTimedRequest env

/-- `DissectIM` on a payload. -/
def dissectIM (msgType : MsgType) (payload : List UInt8) :
    Outcome MatterError Fault DissectState (List Nat) :=
  (dissectIMMessage env msgType).run (.start (.init payload payload.length 0))

end Matter.IM
