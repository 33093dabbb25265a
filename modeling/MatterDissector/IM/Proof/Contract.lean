import MatterDissector.IM.Proof.SeenBlocks

/-!
# Which handlers keep the success contract

A handler that succeeds meets the contract exactly if it decodes the element that is seen
(`Handler.decodes`): the four that fall back on `AddGenericTLVItem` do so inside the element when
the decoder of a list or a structure has failed there, all others decode any element.
-/

namespace Matter.IM

open Prog TLV Display TLV.Dissect
open TLVReader (InBounds)

/-- The handler decodes an element of which this is seen, if it succeeds at all. -/
def Handler.decodes : Handler → SeenElem → Bool
  | .attributeDataIBItem, t => t.nestedOk SeenElem.attributeDataOk
  | .attributeStatusIBItem, t => t.nestedOk SeenElem.attributeStatusOk
  | .attributeReportIBItem, t => t.isAttributeReport
  | .dataVersionFilterIBItem, t => t.isDataVersionFilter
  | _, _ => true

section
variable {data : List UInt8} {s₀ s s' : DissectState}

/-- A handler without fallbacks. -/
theorem contract_of_handles {x : DissectM Unit} (h : Handles False x) (hs : Focused data s.tlv)
    (hrun : x.run s = .ok () s') : Contract s s' :=
  (contract_iff_of_handles h hs hrun).2 False.elim

/-- A handler with fallbacks that is known to retry what it does not decode. -/
theorem contract_iff_of_sees {x : DissectM Unit} {ok : Bool} (h : Handles True x)
    (hsees : Does True True data x s (guarded ok ())) (hs : Focused data s.tlv)
    (hrun : x.run s = .ok () s') : Contract s s' ↔ ok = true := by
  rw [contract_iff_of_handles h hs hrun, true_imp_iff]
  cases ok with
  | true =>
    refine iff_of_true ?_ rfl
    rcases hsees with ⟨s₁, hrun₁, hretried, -⟩ | ⟨-, f, hfault⟩
    · cases hrun₁.symm.trans hrun
      exact hretried
    · cases hfault.symm.trans hrun
  | false =>
    obtain ⟨-, hlt⟩ := hsees () s' hrun
    exact iff_of_false (fun heq => absurd heq hlt.ne') Bool.false_ne_true

/-- A handler that succeeds meets the contract exactly if it decodes the element. -/
theorem contract_iff (env : Env) (tree : ProtoNode) (handler : Handler)
    (hbounds : InBounds data s₀.tlv.reader) (hnext : next.run s₀ = .ok () s)
    (hrun : (handler.run env tree).run s = .ok () s') :
    Contract s s' ↔ handler.decodes (seen s.tlv) = true := by
  have hseen := onSeen_of_next hbounds hnext
  have hs := hseen.focused
  have halways : ∀ {x : DissectM Unit}, Handles False x → x.run s = .ok () s' →
      (Contract s s' ↔ true = true) :=
    fun h hx => iff_of_true (contract_of_handles h hs hx) rfl
  cases handler with
  | genericTLVItem => exact halways (handles_addGenericTLVItemAt _ _ _ _ _ _) hrun
  | listItem hfindex ett elemHandler =>
    exact iff_of_true
      (contract_of_balanced hs (addListItem_balanced elemHandler.meets hs hrun)) rfl
  | namedPathItem kind => exact halways (handles_addNamedPathItem env tree kind) hrun
  | attributePathItemAndExtractIds =>
    exact halways ((handles_addPathItemAndExtractIds env tree .attribute).bind fun _ => .pure _)
      hrun
  | commandPathItemAndExtractIds =>
    exact halways ((handles_addPathItemAndExtractIds env tree .command).bind fun _ => .pure _)
      hrun
  | namedAttributeStructValue => exact halways (handles_addNamedAttributeStructValue ..) hrun
  | attributeDataIBItem =>
    exact contract_iff_of_sees (handles_addAttributeDataIBItem env tree)
      (addAttributeDataIBItem_sees env tree hseen) hs hrun
  | attributeStatusIBItem =>
    exact contract_iff_of_sees (handles_addAttributeStatusIBItem env tree)
      (addAttributeStatusIBItem_sees env tree hseen) hs hrun
  | attributeReportIBItem =>
    exact contract_iff_of_sees (handles_addAttributeReportIBItem env tree)
      (addAttributeReportIBItem_sees env tree hseen) hs hrun
  | eventFilterIBItem => exact halways (handles_addEventFilterIBItem env tree) hrun
  | dataVersionFilterIBItem =>
    exact contract_iff_of_sees (handles_addDataVersionFilterIBItem env tree)
      (addDataVersionFilterIBItem_sees env tree hseen) hs hrun
  | statusIB => exact halways (handles_addStatusIB env tree) hrun
  | commandDataIB => exact halways (handles_addCommandDataIB ..) hrun
  | commandStatusIB => exact halways (handles_addCommandStatusIB env tree) hrun
  | invokeResponseIB => exact halways (handles_addInvokeResponseIB env tree) hrun
  | namedCommandValue fieldName => exact halways (handles_addNamedCommandValue ..) hrun

end

/-! ## A status that cannot be shown -/

/-- A status block that holds, under a profile tag, another one, whose status is negative. -/
def negativeStatus : List UInt8 :=
  [0x15, 0x55, 0x01, 0x00, 0x35, 0x01, 0x20, 0x00, 0xFF, 0x18, 0x18, 0x18]

theorem negativeStatus_inBounds :
    InBounds negativeStatus (DissectState.start (.init negativeStatus 12 0)).tlv.reader :=
  InBounds.init (by decide)

/-- The inner block is entered twice over, for its decoder stops inside its status, and what is
behind the outer block is taken for its member. -/
theorem not_contract_negativeStatus :
    ∃ s s', InBounds negativeStatus (DissectState.start (.init negativeStatus 12 0)).tlv.reader ∧
      next.run (.start (.init negativeStatus 12 0)) = .ok () s ∧
      (Handler.run plainEnv .messageTree .attributeStatusIBItem).run s = .ok () s' ∧
      s.tlv.containerStack = [] ∧ s'.tlv.containerStack.length = 2 ∧ ¬ Contract s s' :=
  ⟨_, _, negativeStatus_inBounds, rfl, rfl, rfl, rfl,
    fun h => absurd (congrArg List.length h.containerStack_eq) (by decide)⟩

theorem contract_iff_negativeStatus :
    ∃ s s', next.run (.start (.init negativeStatus 12 0)) = .ok () s ∧
      (Handler.run plainEnv .messageTree .attributeStatusIBItem).run s = .ok () s' ∧
      (Contract s s' ↔ Handler.decodes .attributeStatusIBItem (seen s.tlv) = true) :=
  ⟨_, _, rfl, rfl, contract_iff plainEnv .messageTree .attributeStatusIBItem
    negativeStatus_inBounds rfl rfl⟩

end Matter.IM
