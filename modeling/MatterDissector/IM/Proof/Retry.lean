import MatterDissector.IM.Proof.LookAhead

/-!
# Retrying a failed decode

Where a decoder of a part of a message fails, `AddGenericTLVItem` is called on the same dissector
(`RetrySite`). That shows the element only if the dissector is on it, which depends on where the
decoder has failed. All of them refuse elements that are neither a list nor a structure at once;
into the others they go, and do not come back when they fail (`retryable_iff`). The values of a
distinguished name and of a signature do not fail.
-/

namespace Matter.IM

open Prog TLV Display TLV.Dissect
open TLVReader (InBounds)

/-- The decoders that are followed by `AddGenericTLVItem` if they fail. The blocks that call
themselves are granted a depth, the values the decoder for the fields inside them. -/
inductive RetrySite where
  /-- in `AddAttributeDataIBItem` -/
  | attributePath
  /-- in `AddDataVersionFilterIBItem` -/
  | clusterPath
  /-- in `AddAttributeStatusIBItem` -/
  | attributeStatusPath
  /-- in `AddNamedStructItem` -/
  | eventPath
  /-- in `AddAttributeDataIBItem` -/
  | attributeDataIB (depth : Nat)
  /-- in `AddAttributeStatusIBItem` -/
  | attributeStatusIB (depth : Nat)
  /-- in `AddAttributeReportIBItem` -/
  | attributeReportIB (depth : Nat)
  /-- in `AddDecodedMatterCertificateDN` -/
  | dnAttribute (named : ProtoNode → Text → DissectM Unit) (attrTag : Nat)
  /-- in `AddDecodedMatterECDSASignature` -/
  | ecdsaNumber (named : ProtoNode → Text → DissectM Unit) (fieldName : Text)

namespace RetrySite

def decode (env : Env) (tree : ProtoNode) : RetrySite → DissectM Unit
  | attributePath => do
    let _ ← addAttributePathItemAndExtractIds env tree
  | clusterPath => addClusterPathItem env tree
  | attributeStatusPath => addNamedPathItem env tree .attribute
  | eventPath => do
    let _ ← lookAheadEventPath
    addNamedPathItem env tree .event
  | attributeDataIB depth => addAttributeDataIBItemTo env depth tree
  | attributeStatusIB depth => addAttributeStatusIBItemTo env depth tree
  | attributeReportIB depth => addDetectedIB env (addAttributeReportIBItemTo env depth) tree
  | dnAttribute named attrTag => addNamedCommandValueBy env named tree (dnAttrName attrTag)
  | ecdsaNumber named fieldName => addNamedCommandValueBy env named tree fieldName

def fallback (env : Env) (tree : ProtoNode) : RetrySite → DissectM Unit
  | eventPath => addGenericTLVItem env.host tree .dataElemPropertyData false
  | _ => addUnknown env tree

/-- The elements that the decoder is called on. -/
def Called (e : Elem) : RetrySite → Prop
  | eventPath => isPathLike e = true
  | attributeDataIB _ | attributeStatusIB _ | attributeReportIB _ => e.type = .struct
  | _ => e.contextNum.isSome = true

end RetrySite

section
variable {data rest : List UInt8} {ip : Nat} {containerType : TLVType} {e : Elem}
  {s s' : DissectState} {err : MatterError}

/-- From `s`, where the decoder was called, to `s'`, where it failed: the dissector is on the same
element, at the same depth, and the fallback shows it. -/
structure Retryable (data : List UInt8) (ip : Nat) (containerType : TLVType) (e : Elem)
    (rest : List UInt8) (fallback : DissectM Unit) (s s' : DissectState) : Prop where
  onElem : OnElem data ip containerType e rest s'
  depth_eq : s'.depth = s.depth
  shown : ∃ s'', fallback.run s' = .ok () s'' ∧ Contract s s''

theorem pathLike_type (hs : OnElem data ip containerType e rest s) (hpath : isPathLike e = true) :
    s.tlv.reader.getType = .path ∨ s.tlv.reader.getType = .struct := by
  rw [hs.type_eq]
  exact isPathLike_iff.1 hpath

theorem not_retryable_of_none {fallback : DissectM Unit} (hpath : isPathLike e = true)
    (hnone : s'.tlv.reader.getType = .notSpecified) :
    ¬ Retryable data ip containerType e rest fallback s s' := by
  intro hretry
  rcases pathLike_type hretry.onElem hpath with htype | htype <;>
    exact absurd (hnone.symm.trans htype) (by decide)

/-- A decoder that has gone into its element is not on it. -/
theorem FellFrom.not_retryable {fallback : DissectM Unit} (h : FellFrom s s')
    (hs : OnElem data ip containerType e rest s) (hpath : isPathLike e = true) :
    ¬ Retryable data ip containerType e rest fallback s s' := by
  unfold FellFrom at h
  rw [if_pos (pathLike_type hs hpath)] at h
  rcases h with hdeep | hnone
  · intro hretry
    exact absurd hretry.depth_eq (Nat.ne_of_gt hdeep)
  · exact not_retryable_of_none hpath hnone

/-- One that has refused its element is, and the element can be shown. -/
theorem FellFrom.retryable (env : Env) (tree : ProtoNode) (h : FellFrom s s')
    (hs : OnElem data ip containerType e rest s) (hrest : rest ≠ [])
    (hcontext : e.contextNum.isSome = true) (hpath : isPathLike e = false) :
    Retryable data ip containerType e rest (addUnknown env tree) s s' := by
  have htype : ¬ (s.tlv.reader.getType = .path ∨ s.tlv.reader.getType = .struct) := by
    rw [hs.type_eq, ← isPathLike_iff, hpath]
    decide
  unfold FellFrom at h
  rw [if_neg htype] at h
  have hs' := hs.congr h.1
  obtain ⟨n, hn⟩ := Option.isSome_iff_exists.1 hcontext
  have hdoes : Does False False data (addUnknown env tree) s' (some ()) :=
    addUnknown_does_context env tree hs' hrest hn
  obtain ⟨s'', hrun, -, hbal⟩ := hdoes.some_run
  exact ⟨hs', congrArg (fun d => d.containerStack.length) h.1, s'', hrun,
    contract_of_balanced hs.focused (h.1 ▸ hbal)⟩

/-- A decoder of paths refuses, or has gone into its element. -/
theorem FellFrom.retryable_pathLike (env : Env) (tree : ProtoNode) (h : FellFrom s s')
    (hs : OnElem data ip containerType e rest s) (hrest : rest ≠ [])
    (hcontext : e.contextNum.isSome = true) :
    Retryable data ip containerType e rest (addUnknown env tree) s s' ↔ isPathLike e = false := by
  cases hpath : isPathLike e with
  | true => exact iff_of_false (h.not_retryable hs hpath) (by decide)
  | false => exact iff_of_true (h.retryable env tree hs hrest hcontext hpath) rfl

/-- A decoder of structures has gone into its element. -/
theorem FellFrom.retryable_iff_struct {fallback : DissectM Unit} (h : FellFrom s s')
    (hs : OnElem data ip containerType e rest s) (hstruct : e.type = .struct) :
    Retryable data ip containerType e rest fallback s s' ↔ isPathLike e = false := by
  have hpath : isPathLike e = true := isPathLike_iff.2 (.inr hstruct)
  exact iff_of_false (h.not_retryable hs hpath) (by rw [hpath]; decide)

/-- The look-ahead is behind the element, and the decoder of the path refuses what it finds. -/
theorem not_retryable_event (env : Env) (tree : ProtoNode) {fallback : DissectM Unit}
    (hs : OnElem data ip containerType e rest s) (hpath : isPathLike e = true)
    (hrun : (RetrySite.decode env tree .eventPath).run s = .err err s') :
    ¬ Retryable data ip containerType e rest fallback s s' := by
  obtain ⟨tag, kind, members, rfl⟩ : ∃ tag kind members, e = .container tag kind members := by
    cases e with
    | prim tag p =>
      rw [isPathLike_iff] at hpath
      exact absurd (hpath.elim (fun h => .inr (.inr h)) .inl) p.type_ne_container
    | container tag kind members => exact ⟨tag, kind, members, rfl⟩
  obtain ⟨found, s₁, hlook, -, hnone⟩ := lookAheadEventPath_past hs
  have hrefused : (addNamedPathItem env tree .event).run s₁ = .err .unexpectedTLVElement s₁ :=
    bind_err (readPathIds_other _ (by simp [hnone]))
  rw [RetrySite.decode, bind_ok hlook, hrefused] at hrun
  cases hrun
  exact not_retryable_of_none hpath hnone

/-- The value of an element does not fail. -/
theorem addNamedCommandValueBy_ne_err (env : Env) (named : ProtoNode → Text → DissectM Unit)
    (tree : ProtoNode) (fieldName : Text) (hs : OnElem data ip containerType e rest s)
    (hrest : rest ≠ []) :
    (addNamedCommandValueBy env named tree fieldName).run s ≠ .err err s' := by
  intro hrun
  have hdoes : Does False True data (addNamedCommandValueBy env named tree fieldName) s (some ()) :=
    addNamedCommandValueBy_does env named tree fieldName hs hrest
  rcases hdoes with ⟨s₁, hok, -⟩ | ⟨-, f, hfault⟩
  · cases hok.symm.trans hrun
  · cases hfault.symm.trans hrun

/-- Where a decoder has failed on a well-formed element, the fallback shows the element exactly if
that is neither a list nor a structure. -/
theorem retryable_iff (env : Env) (tree : ProtoNode) (site : RetrySite)
    (hs : OnElem data ip containerType e rest s) (hrest : rest ≠ []) (hcalled : site.Called e)
    (hrun : (site.decode env tree).run s = .err err s') :
    Retryable data ip containerType e rest (site.fallback env tree) s s' ↔
      isPathLike e = false := by
  cases site with
  | attributePath =>
    rcases bind_eq_err.1 hrun with hdecode | ⟨ids, s₁, -, hpure⟩
    · have hfell := addPathItemAndExtractIds_fails env tree .attribute hs.focused hdecode
      exact hfell.retryable_pathLike env tree hs hrest hcalled
    · cases hpure
  | clusterPath =>
    have hfell := addNamedPathItem_fails env tree .cluster hs.focused hrun
    exact hfell.retryable_pathLike env tree hs hrest hcalled
  | attributeStatusPath =>
    have hfell := addNamedPathItem_fails env tree .attribute hs.focused hrun
    exact hfell.retryable_pathLike env tree hs hrest hcalled
  | eventPath =>
    have hpath : isPathLike e = true := hcalled
    exact iff_of_false (not_retryable_event env tree hs hpath hrun) (by rw [hpath]; decide)
  | attributeDataIB depth =>
    have hfell := (handles_addAttributeDataIBItemTo env depth tree).2.falls hs.focused
      (hs.type_eq.trans hcalled) hrun
    exact hfell.retryable_iff_struct hs hcalled
  | attributeStatusIB depth =>
    have hfell := (handles_addAttributeStatusIBItemTo env depth tree).2.falls hs.focused
      (hs.type_eq.trans hcalled) hrun
    exact hfell.retryable_iff_struct hs hcalled
  | attributeReportIB depth =>
    have hdecodes := decodesStruct_addDetectedIB env
      (handles_addAttributeReportIBItemTo env depth)
      (beginsStruct_addAttributeReportIBItemTo env depth) tree
    have hfell := hdecodes.falls hs.focused (hs.type_eq.trans hcalled) hrun
    exact hfell.retryable_iff_struct hs hcalled
  | dnAttribute named attrTag =>
    exact absurd hrun (addNamedCommandValueBy_ne_err env named tree _ hs hrest)
  | ecdsaNumber named fieldName =>
    exact absurd hrun (addNamedCommandValueBy_ne_err env named tree _ hs hrest)

end

/-! ## A path without an id -/

/-- The path of an attribute, which may be any. -/
def anyAttribute : Elem := .container (.context 1) .path []

/-- In the structure around it. -/
def insideAttributeData : List UInt8 := [0x15] ++ anyAttribute.encode ++ [0x18]

/-- The dissector goes to it. -/
def toAnyAttribute : DissectM Unit := do
  next
  enterContainer
  next

theorem toAnyAttribute_onElem :
    ∃ s, toAnyAttribute.run
        (.start (.init insideAttributeData insideAttributeData.length 0)) = .ok () s ∧
      OnElem insideAttributeData profileIdNotSpecified .struct anyAttribute [0x18] s := by
  have hwf : (Elem.container .anonymous .struct [anyAttribute]).wellFormed profileIdNotSpecified
      .notSpecified = true := by decide
  obtain ⟨s, hnext, hs⟩ : ∃ s, next.run
      (.start (.init insideAttributeData insideAttributeData.length 0)) = .ok () s ∧
      OnElem insideAttributeData profileIdNotSpecified .notSpecified
        (.container .anonymous .struct [anyAttribute]) [] s :=
    onElem_first hwf (List.append_nil _).symm (by decide)
  obtain ⟨d₀, hd₀, hbefore, -⟩ := hs.entered
  have hmember : Before insideAttributeData profileIdNotSpecified .struct d₀
      (anyAttribute.encode ++ [0x18]) d₀ := hbefore
  obtain ⟨d, hd, -, hpos⟩ := hmember.next_elem (by decide)
  have hentered : enterContainer.run s = .ok () { s with tlv := d₀ } :=
    onTlv_eq_ok.2 ⟨d₀, hd₀, rfl⟩
  refine ⟨{ s with tlv := d }, ?_, hpos, by decide⟩
  rw [toAnyAttribute, bind_ok hnext, bind_ok hentered]
  exact onTlv_eq_ok.2 ⟨d, hd, rfl⟩

/-- The path is decoded in vain, and then not shown either. -/
theorem not_retryable_anyAttribute :
    RetrySite.Called anyAttribute .attributePath ∧
    ∃ s s', toAnyAttribute.run
        (.start (.init insideAttributeData insideAttributeData.length 0)) = .ok () s ∧
      OnElem insideAttributeData profileIdNotSpecified .struct anyAttribute [0x18] s ∧
      (RetrySite.attributePath.decode plainEnv .messageTree).run s =
        .err .unexpectedTLVElement s' ∧
      ¬ Retryable insideAttributeData profileIdNotSpecified .struct anyAttribute [0x18]
        (RetrySite.attributePath.fallback plainEnv .messageTree) s s' ∧
      ∀ s'', (RetrySite.attributePath.fallback plainEnv .messageTree).run s' ≠ .ok () s'' := by
  obtain ⟨s, hs, helem⟩ := toAnyAttribute_onElem
  cases hs
  refine ⟨rfl, _, _, rfl, helem, rfl, fun hretry => ?_, fun s'' hrun => by cases hrun⟩
  obtain ⟨s'', hrun, -⟩ := hretry.shown
  cases hrun

theorem retryable_iff_anyAttribute :
    ∃ s s', OnElem insideAttributeData profileIdNotSpecified .struct anyAttribute [0x18] s ∧
      (RetrySite.attributePath.decode plainEnv .messageTree).run s =
        .err .unexpectedTLVElement s' ∧
      (Retryable insideAttributeData profileIdNotSpecified .struct anyAttribute [0x18]
          (RetrySite.attributePath.fallback plainEnv .messageTree) s s' ↔
        isPathLike anyAttribute = false) := by
  obtain ⟨s, hs, helem⟩ := toAnyAttribute_onElem
  cases hs
  exact ⟨_, _, helem, rfl,
    retryable_iff plainEnv .messageTree .attributePath helem (by decide) rfl rfl⟩

end Matter.IM
