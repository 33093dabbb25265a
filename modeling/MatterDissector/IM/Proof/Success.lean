import MatterDissector.IM.Proof.Blocks

/-!
# The success contract of the handlers

`Contract`: an element has been handled, with every container that was entered left again, so that
the following `Next` behaves as if the handler had not been called. A list whose elements are
handled so is handled so itself (`addListItem_balanced`). The handlers of information blocks
meet the contract unless a block or path inside was shown generically after its decoder had failed:
such a run goes on among the members of that block (`contract_iff_of_handles`). `Handler` lists the
handlers.
-/

namespace Matter.IM

open Prog TLV Display TLV.Dissect
open TLVReader (InBounds)

/-- From `s` to `s'` over an element: no container is left open or closed, and the following `Next`
does the same. -/
structure Contract (s s' : DissectState) : Prop where
  containerStack_eq : s'.tlv.containerStack = s.tlv.containerStack
  containerType_eq : s'.tlv.reader.containerType = s.tlv.reader.containerType
  next_eq : TLVDissector.next.run s'.tlv = TLVDissector.next.run s.tlv

/-- Where a successful `Next` has left the dissector on an element and `x` succeeds, it meets the
contract. -/
def MeetsContract (x : DissectM Unit) : Prop :=
  ∀ (data : List UInt8) (s₀ s s' : DissectState), InBounds data s₀.tlv.reader →
    next.run s₀ = .ok () s → x.run s = .ok () s' → Contract s s'

section
variable {data : List UInt8} {s s' : DissectState}

theorem contract_of_balanced (hs : Focused data s.tlv) (h : Balanced data s.tlv s'.tlv) :
    Contract s s' :=
  ⟨h.containerStack_eq, h.containerType_eq hs.inBounds, h.next_eq⟩

/-- A handler that falls back at most where it `may` is on track exactly as long as it has not. -/
theorem contract_iff_of_handles {may : Prop} {x : DissectM Unit} (h : Handles may x)
    (hs : Focused data s.tlv) (hrun : x.run s = .ok () s') :
    Contract s s' ↔ (may → s'.retried = s.retried) := by
  rcases h.onTrack hs hrun with ⟨heq, hbal⟩ | ⟨hmay, hlt, hdeep⟩
  · exact iff_of_true (contract_of_balanced hs hbal) fun _ => heq
  · refine iff_of_false (fun hc => ?_) fun hsame => ?_
    · have := congrArg List.length hc.containerStack_eq
      exact absurd hdeep (by rw [DissectState.depth, DissectState.depth, this]; exact lt_irrefl _)
    · have := hsame hmay
      omega

/-! ## Lists -/

/-- A list or array whose elements are handled within the contract. -/
theorem addListItem_balanced {tree : ProtoNode} {hfindex : HeaderField} {ett : Ett}
    {elemHandler : ProtoNode → DissectM Unit} (h : ∀ node, MeetsContract (elemHandler node))
    (hs : Focused data s.tlv)
    (hrun : (addListItem tree hfindex ett elemHandler).run s = .ok () s') :
    Balanced data s.tlv s'.tlv := by
  rw [addListItem, getType, gets_bind] at hrun
  obtain ⟨_, s₁, hverify, hrun⟩ := bind_eq_ok.1 hrun
  obtain ⟨-, rfl⟩ := verify_eq_ok.1 hverify
  obtain ⟨listItem, s₂, hitem, hrun⟩ := bind_eq_ok.1 hrun
  obtain ⟨_, s₃, henter, hrun⟩ := bind_eq_ok.1 hrun
  obtain ⟨elemCount, s₄, hloop, hrun⟩ := bind_eq_ok.1 hrun
  obtain ⟨_, s₅, hexit, hrun⟩ := bind_eq_ok.1 hrun
  obtain ⟨_, s₆, hdraw, hrun⟩ := bind_eq_ok.1 hrun
  cases hrun
  have htlv₂ := ((still_addSubTreeItem tree hfindex ett).ok hitem).1
  obtain ⟨d₀, hd₀, rfl⟩ := onTlv_eq_ok.1 henter
  rw [htlv₂] at hd₀
  have hstart : Inside data d₀ d₀ := by
    obtain ⟨-, rfl⟩ := enterContainer_tlv_eq_ok.1 hd₀
    exact .start (hs.inBounds.congr rfl rfl rfl rfl rfl) (cleared_clearElementState _)
  -- among the members `Next` does what it does from a place inside the list
  obtain ⟨d₁, hin, hend⟩ : ∃ d, Inside data d₀ d ∧
      TLVDissector.next.run d = .err .endOfTLV s₄.tlv := by
    refine forMembers_ok (s := { s₂ with tlv := d₀ })
      (J := fun _ u => ∃ d, Inside data d₀ d ∧
        TLVDissector.next.run u.tlv = TLVDissector.next.run d)
      (Q := fun _ u => ∃ d, Inside data d₀ d ∧ TLVDissector.next.run d = .err .endOfTLV u.tlv)
      (fun b u u₁ b' u' hJ hnext hbody => ?_) (fun b u u' hJ hnext => ?_)
      ⟨d₀, hstart, rfl⟩ hloop
    · obtain ⟨d, hin, hsame⟩ := hJ
      obtain ⟨d', hd', rfl⟩ := onTlv_eq_ok.1 hnext
      obtain ⟨_, u₂, hhandler, hpure⟩ := bind_eq_ok.1 hbody
      cases hpure
      rw [hsame] at hd'
      have hpos : next.run { u with tlv := d } = .ok () { u with tlv := d' } :=
        onTlv_eq_ok.2 ⟨d', hd', rfl⟩
      have hcontract := h listItem data _ _ _ hin.focused.inBounds hpos hhandler
      exact ⟨d', hin.next hd', hcontract.next_eq⟩
    · obtain ⟨d, hin, hsame⟩ := hJ
      obtain ⟨d', hd', rfl⟩ := onTlv_eq_err.1 hnext
      exact ⟨d, hin, hsame ▸ hd'⟩
  obtain ⟨d₂, hd₂, rfl⟩ := onTlv_eq_ok.1 hexit
  rw [((still_draw _).ok hdraw).1]
  exact hin.closed hd₀ hend hd₂

/-! ## The handlers -/

/-- A handler for the elements of a list. -/
structure ElemHandler where
  run : ProtoNode → DissectM Unit
  meets : ∀ tree, MeetsContract (run tree)

inductive Handler where
  | genericTLVItem (hfindex : HeaderField) (suppressTag suppressHeader : Bool) (indentLevel : Nat)
  | listItem (hfindex : HeaderField) (ett : Ett) (elemHandler : ElemHandler)
  | namedPathItem (kind : PathKind)
  | attributePathItemAndExtractIds
  | commandPathItemAndExtractIds
  | namedAttributeStructValue (clusterId attributeId : Nat)
  | attributeDataIBItem
  | attributeStatusIBItem
  | attributeReportIBItem
  | eventFilterIBItem
  | dataVersionFilterIBItem
  | statusIB
  | commandDataIB (decodeNamedPayload isRequestPayload : Bool)
  | commandStatusIB
  | invokeResponseIB
  | namedCommandValue (fieldName : Text)

namespace Handler

/-- The handler's function. -/
def run (env : Env) (tree : ProtoNode) : Handler → DissectM Unit
  | genericTLVItem hfindex suppressTag suppressHeader indentLevel =>
    addGenericTLVItemAt env.host tree hfindex suppressTag suppressHeader indentLevel
  | listItem hfindex ett elemHandler => addListItem tree hfindex ett elemHandler.run
  | namedPathItem kind => addNamedPathItem env tree kind
  | attributePathItemAndExtractIds => do
    let _ ← addAttributePathItemAndExtractIds env tree
  | commandPathItemAndExtractIds => do
    let _ ← addCommandPathItemAndExtractIds env tree
  | namedAttributeStructValue clusterId attributeId =>
    addNamedAttributeStructValue env tree clusterId attributeId
  | attributeDataIBItem => addAttributeDataIBItem env tree
  | attributeStatusIBItem => addAttributeStatusIBItem env tree
  | attributeReportIBItem => addAttributeReportIBItem env tree
  | eventFilterIBItem => addEventFilterIBItem env tree
  | dataVersionFilterIBItem => addDataVersionFilterIBItem env tree
  | statusIB => addStatusIB env tree
  | commandDataIB decodeNamedPayload isRequestPayload =>
    addCommandDataIB env tree decodeNamedPayload isRequestPayload
  | commandStatusIB => addCommandStatusIB env tree
  | invokeResponseIB => addInvokeResponseIB env tree
  | namedCommandValue fieldName => addNamedCommandValue env tree fieldName

end Handler

theorem handles_addGenericTLVItemAt {may : Prop} (host : Host) (tree : ProtoNode)
    (hfindex : HeaderField) (suppressTag suppressHeader : Bool) (indentLevel : Nat) :
    Handles may
      (addGenericTLVItemAt host tree hfindex suppressTag suppressHeader indentLevel) :=
  Handles.bind (Still.handles Leaves.get) fun _ => handles_addGenericTLVItemTo host tree _ _ _ _ _

end

/-- An environment without names, whose OpenSSL decodes nothing. -/
def plainEnv : Env where
  host := plainHost
  names := {}
  openssl := ⟨fun _ => none, fun _ => none, fun _ => none⟩

end Matter.IM
