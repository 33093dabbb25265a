import MatterDissector.IM.Proof.BlocksDecode
import MatterDissector.IM.Proof.Crashes
import MatterDissector.TLV.Proof.Unless

/-!
# Which byte strings are decoded

The byte strings that a block hands to a decoder, with the names of their fields: those of the
arguments of commands whose path has come before (`commandBytes`, `responseBytes`), and those of
the data of attributes (`attributeDataBytes`, `reportBytes`). On a well-formed element its handler
returns if the block is what it asks for, unless one of these crashes its decoder (`DoesUnless`).
-/

namespace Matter.IM

open Prog TLV Display TLV.Dissect
open TLVReader (InBounds)

/-! ## Named byte strings -/

/-- The bytes crash the decoder of a field with this name. -/
def Crashing (env : Env) (p : Text × List UInt8) : Prop := crashes env p.1 p.2 = true

/-- What is decoded of a field. -/
def namedBytes (fieldName : Text) : Elem → List (Text × List UInt8)
  | .prim _ (.bytes _ v) => [(fieldName, v.bytes)]
  | _ => []

/-- The same of a member that has a name if its tag has one. -/
def fieldBytes (getFieldName : Nat → Option Text) (e : Elem) : List (Text × List UInt8) :=
  ((e.contextNum.bind getFieldName).map fun fieldName => namedBytes fieldName e).getD []

section
variable {α β δ : Type} {data rest : List UInt8} {ip : Nat} {containerType : TLVType} {e : Elem}
  {s s' : DissectState} {may : Prop} {bad : δ → Prop} {reached : List δ}

/-! ## Rules -/

/-- The members of an element, if it is a container. -/
theorem overMembers_unless {body : β → DissectM β} {ok : Elem → Bool} {g : β → Elem → β}
    {reachedBy : β → Elem → List δ} (h : OnElem data ip containerType e rest s)
    (hbody : BodyUnless may bad data ip e.type e.members body ok g reachedBy)
    (hgrows : may → ∀ b, Grows DissectState.retried (body b)) (b : β) :
    DoesUnless may bad (membersReached g reachedBy b e.members) data (overMembers body b) s
      (guarded (e.isContainer && e.members.all ok) (e.members.foldl g b)) := by
  cases e with
  | prim tag p =>
    have htype : tlvTypeIsContainer s.tlv.reader.elementType = false := by
      rw [h.positioned.elementType_eq]
      exact p.isContainer_elemType
    obtain ⟨err, s', henter⟩ := enterContainer_fails htype
    exact Does.unless (Does.of_err (bind_err henter))
  | container tag kind members => exact members_unless h hbody hgrows b

theorem ShowsTree.bind_unless {x : DissectM ProtoNode} {k : ProtoNode → DissectM α} {o : Option α}
    (hx : ShowsTree x) (h : OnElem data ip containerType e rest s)
    (hk : ∀ node s', OnElem data ip containerType e rest s' →
      DoesUnless may bad reached data (k node) s' o) :
    DoesUnless may bad reached data (x >>= k) s o := by
  obtain ⟨node, s₁, hrun⟩ := hx.shows h.type_ne
  obtain ⟨htlv, hretried⟩ := hx.still.ok hrun
  exact (hk node s₁ (h.congr htlv)).congr (bind_ok hrun) htlv hretried

/-- A block: a structure with a subtree. -/
theorem structBlock_unless {addTree : DissectM ProtoNode} {body : ProtoNode → β → DissectM β}
    {ok : Elem → Bool} {g : β → Elem → β} {reachedBy : β → Elem → List δ}
    (htree : ShowsTree addTree) (h : OnElem data ip containerType e rest s)
    (hbody : ∀ node, BodyUnless may bad data ip .struct e.members (body node) ok g reachedBy)
    (hgrows : may → ∀ node b, Grows DissectState.retried (body node b)) (b : β) :
    DoesUnless may bad (membersReached g reachedBy b e.members) data (do
      let type ← getType
      verify (type = .struct) .unexpectedTLVElement
      let node ← addTree
      overMembers (body node) b) s (guarded (isBlockOf ok e) (e.members.foldl g b)) := by
  have hverified : DoesUnless may bad (membersReached g reachedBy b e.members) data
      (verify (s.tlv.reader.getType = .struct) .unexpectedTLVElement >>= fun _ =>
        addTree >>= fun node => overMembers (body node) b) s
      (if decide (s.tlv.reader.getType = .struct) = true then
        guarded (e.members.all ok) (e.members.foldl g b) else none) := by
    refine DoesUnless.verify_bind fun htype => ?_
    rw [decide_eq_true_iff, h.type_eq] at htype
    refine htree.bind_unless h fun node s₁ h₁ => ?_
    have hmembers := overMembers_unless h₁ (htype ▸ hbody node) (fun hmay => hgrows hmay node) b
    rwa [Elem.isContainer_of_type htype, Bool.true_and] at hmembers
  rw [isBlockOf, guarded_and, ← h.type_eq]
  exact hverified.congr rfl rfl rfl

/-- A member that is handled by the number of its context tag. -/
theorem contextOk_unless {k : Nat → DissectM α} {other : DissectM α} {ok : Nat → Elem → Bool}
    {otherOk : Bool} {a : α} (h : OnElem data ip containerType e rest s)
    (hcontext : ∀ n, e.contextNum = some n →
      DoesUnless may bad reached data (k n) s (guarded (ok n e) a))
    (hother : e.contextNum = none → DoesUnless may bad reached data other s (guarded otherOk a)) :
    DoesUnless may bad reached data (do
      let tag ← getTag
      if isContextTag tag then k (tagNumFromTag tag) else other) s
      (guarded (contextOk ok otherOk e) a) := by
  have hmember : DoesUnless may bad reached data ((e.contextNum.map k).getD other) s
      (guarded (contextOk ok otherOk e) a) := by
    unfold contextOk
    cases hn : e.contextNum with
    | some n => exact hcontext n hn
    | none => exact hother hn
  refine hmember.congr ?_ rfl rfl
  rw [getTag, gets_bind, ifContext_run h]

/-- A member that must have a context tag. -/
theorem contextOk_verified_unless {k : Nat → DissectM α} {err : MatterError}
    {ok : Nat → Elem → Bool} {a : α} (h : OnElem data ip containerType e rest s)
    (hcontext : ∀ n, e.contextNum = some n →
      DoesUnless may bad reached data (k n) s (guarded (ok n e) a)) :
    DoesUnless may bad reached data (do
      let tag ← getTag
      verify (isContextTag tag) err
      k (tagNumFromTag tag)) s (guarded (contextOk ok false e) a) := by
  have hbegin : (getTag >>= fun tag => verify (isContextTag tag) err >>= fun _ =>
      k (tagNumFromTag tag)).run s = (verify (isContextTag s.tlv.reader.getTag) err >>= fun _ =>
        k (tagNumFromTag s.tlv.reader.getTag)).run s := rfl
  unfold contextOk
  cases hn : e.contextNum with
  | some n =>
    obtain ⟨htag, hnum⟩ := contextNum_some h hn
    refine (hcontext n hn).congr ?_ rfl rfl
    rw [hbegin, htag, bind_ok (run_verify_true _ _), hnum]
  | none =>
    rw [contextNum_none h hn, bind_err (run_verify_false _ _)] at hbegin
    exact ⟨.of_err hbegin, fun hsome => by cases hsome⟩

/-- What follows the test for a type. -/
theorem type_verified_unless {type : TLVType} {err : MatterError} {k : Unit → DissectM α}
    {ok : Bool} {a : α} (h : OnElem data ip containerType e rest s)
    (hk : e.type = type → DoesUnless may bad reached data (k ()) s (guarded ok a)) :
    DoesUnless may bad reached data (verify (s.tlv.reader.getType = type) err >>= k) s
      (guarded (e.type = type && ok) a) := by
  rw [h.type_eq, guarded_and]
  exact DoesUnless.verify_bind fun htype => hk (of_decide_eq_true htype)

/-- On a list or a structure a fallback does not make up for a failure. -/
theorem decodeOr_unless {decode fallback : DissectM α} {o : Option α}
    (hdecode : DoesUnless True bad reached data decode s o)
    (hretried : Grows DissectState.retried decode)
    (hfallback : Grows DissectState.retried fallback)
    (htype : s.tlv.reader.getType = .path ∨ s.tlv.reader.getType = .struct) :
    DoesUnless True bad reached data (decodeOr decode fallback) s o := by
  refine ⟨decodeOr_does_pathLike hdecode.does hretried hfallback htype, fun hsome hreached => ?_⟩
  obtain ⟨f, hfault⟩ := hdecode.faults hsome hreached
  refine ⟨f, ?_⟩
  have hbegin : (decodeOr decode fallback).run s =
      (attempt decode >>= fallBack s.tlv.reader.getType fallback).run s := rfl
  rw [hbegin]
  exact bind_fault (by rw [run_attempt, hfault])

section
variable (env : Env)

/-- A block of its own, if the element is a structure. -/
theorem addStructOr_unless {addStruct : ProtoNode → DissectM Unit} {ok : Bool}
    (itemTree : ProtoNode) (h : OnElem data ip .struct e rest s) (hrest : rest ≠ [])
    (hstruct : e.type = .struct →
      DoesUnless may bad reached data (addStruct itemTree) s (guarded ok ()))
    (hother : e.type ≠ .struct → reached = []) :
    DoesUnless may bad reached data (addStructOr env addStruct itemTree) s
      (guarded (structOr e ok) ()) := by
  have hmember : DoesUnless may bad reached data (if e.type = .struct then addStruct itemTree
      else addUnknown env itemTree) s (guarded (structOr e ok) ()) := by
    refine DoesUnless.ite (fun htype => ?_) fun htype => ?_
    · rw [structOr, decide_eq_true htype, Bool.not_true, Bool.false_or]
      exact hstruct htype
    · rw [structOr, decide_eq_false htype, Bool.not_false, Bool.true_or, hother htype]
      exact Does.unless (addUnknown_does env itemTree h hrest (.inl rfl))
  refine hmember.congr ?_ rfl rfl
  rw [addStructOr, getType, gets_bind, h.type_eq]

/-- A nested block: a structure must be `ok`, for the fallback does not show it. -/
theorem addNestedIB_unless {nested : ProtoNode → DissectM Unit} {ok : Bool}
    (itemTree : ProtoNode) (h : OnElem data ip .struct e rest s) (hrest : rest ≠ [])
    (hnested : e.type = .struct →
      DoesUnless True bad reached data (nested itemTree) s (guarded ok ()))
    (hretried : Grows DissectState.retried (nested itemTree))
    (hother : e.type ≠ .struct → reached = []) :
    DoesUnless True bad reached data (addNestedIB env nested itemTree) s
      (guarded (structOr e ok) ()) := by
  have hdecode : DoesUnless True bad reached data
      (addStructOr env (fun tree => decodeOr (nested tree) (addUnknown env tree)) itemTree) s
      (guarded (structOr e ok) ()) :=
    addStructOr_unless env itemTree h hrest (fun htype =>
      decodeOr_unless (hnested htype) hretried
        (handles_addUnknown env itemTree : Handles True _).retried (.inr (h.type_eq.trans htype)))
      hother
  exact hdecode

/-! ## Named values -/

/-- `AddNamedCommandValue` crashes where the decoder of the bytes does. -/
theorem namedValue_unless (tree : ProtoNode) (fieldName : Text)
    (h : OnSized data ip containerType e rest s) (hrest : rest ≠ []) :
    DoesUnless True (Crashing env) (namedBytes fieldName e) data
      (addNamedCommandValue env tree fieldName) s (some ()) := by
  have hdoes : Does True True data (addNamedCommandValue env tree fieldName) s (some ()) :=
    addNamedCommandValue_does env tree fieldName h.toOnElem hrest
  by_cases hbytes : ∃ tag w, ∃ v : SizedBytes w, e = .prim tag (.bytes w v)
  · obtain ⟨tag, w, v, rfl⟩ := hbytes
    obtain ⟨s₁, htlv, hrun⟩ := addNamedCommandValueBy_bytes env (addNamedCommandValueTo env 3) tree
      fieldName h.toOnElem hrest
    have htype : s₁.tlv.reader.getType ≠ .notSpecified := by
      rw [htlv]
      exact h.toOnElem.type_ne
    have hlen : v.bytes.length ≤ s.tlv.elemLen := by
      rw [h.elemLen_eq]
      exact length_body_le (.prim tag (.bytes w v))
    have hcrash := addDecodedBytes_fault_iff env tree fieldName v.bytes s.tlv.elemStart htype hlen
    rw [← hrun] at hcrash
    have hreached : (∃ p ∈ namedBytes fieldName (.prim tag (.bytes w v)), Crashing env p) ↔
        crashes env fieldName v.bytes = true := by
      simp [namedBytes, Crashing]
    refine ⟨hdoes.imp id fun hfault => ⟨hreached.2 (hcrash.1 hfault.2), hfault.2⟩, fun _ hbad => ?_⟩
    exact hcrash.2 (hreached.1 hbad)
  · have hnone : namedBytes fieldName e = [] := by
      unfold namedBytes
      split
      · exact absurd ⟨_, _, _, rfl⟩ hbytes
      · rfl
    rw [hnone]
    rcases addNamedCommandValueBy_run env (addNamedCommandValueTo env 3) tree fieldName h.toOnElem
      hrest with ⟨s₁, hok⟩ | ⟨tag, w, v, heq, -⟩
    · exact Does.unless ((handles_addNamedCommandValue env tree fieldName).does h.toOnElem.focused
        hok)
    · exact absurd ⟨tag, w, v, heq⟩ hbytes

/-- The members of a structure with names for its fields. -/
theorem namedFields_unless (tree : ProtoNode) (getFieldName : Nat → Option Text)
    (es : List Elem) :
    BodyUnless True (Crashing env) data ip .struct es
      (fun _ : Unit => addFieldBy env tree getFieldName) (fun _ => true) (fun b _ => b)
      (fun _ => fieldBytes getFieldName) := by
  intro b m _ rest s hrest h
  have hfound : (if isContextTag s.tlv.reader.getTag then
      getFieldName (tagNumFromTag s.tlv.reader.getTag) else none) =
      m.contextNum.bind getFieldName := by
    cases hn : m.contextNum with
    | none =>
      rw [contextNum_none h.toOnElem hn]
      rfl
    | some n =>
      obtain ⟨htag, hnum⟩ := contextNum_some h.toOnElem hn
      rw [htag, hnum]
      rfl
  have hmember : DoesUnless True (Crashing env) (fieldBytes getFieldName m) data
      (addNamedField env tree (m.contextNum.bind getFieldName)) s (some ()) := by
    unfold fieldBytes
    cases m.contextNum.bind getFieldName with
    | some fieldName => exact namedValue_unless env tree fieldName h hrest
    | none => exact Does.unless (addUnknown_does env tree h.toOnElem hrest (.inl rfl))
  refine hmember.congr ?_ rfl rfl
  rw [← hfound]
  rfl

/-- A structure all of whose fields are shown by their names. -/
theorem namedStruct_unless {addTree : DissectM ProtoNode} (htree : ShowsTree addTree)
    (getFieldName : Nat → Option Text) (h : OnElem data ip containerType e rest s)
    (htype : e.type = .struct) :
    DoesUnless True (Crashing env) (e.members.flatMap (fieldBytes getFieldName)) data (do
      let type ← getType
      verify (type = .struct) .unexpectedTLVElement
      let tree ← addTree
      overMembers (fun () => addFieldBy env tree getFieldName) ()) s (some ()) := by
  have hblock := structBlock_unless htree h
    (fun tree => namedFields_unless env tree getFieldName e.members)
    (fun _ tree _ => (handles_addFieldBy env tree getFieldName : Handles True _).retried) ()
  have hall : isBlockOf (fun _ => true) e = true := by
    simp [isBlockOf, htype]
  rw [membersReached_const, hall] at hblock
  exact hblock

/-! ## Attributes -/

/-- What is decoded of the data of an attribute. -/
def attributeValueBytes (attributePath : Option (Nat × Nat)) (e : Elem) :
    List (Text × List UInt8) :=
  match if e.type = .struct then attributePath else none with
  | some (clusterId, attributeId) =>
    e.members.flatMap
      (fieldBytes (env.names.getAttributeStructFieldNameByTag clusterId attributeId))
  | none => namedBytes (Text.lit "Value") e

mutual

/-- What is decoded of a block with the data of an attribute, and of those that nest in it. -/
def attributeDataBytes : Elem → List (Text × List UInt8)
  | .container _ .struct members => attributeMembersBytes none members
  | _ => []

def attributeMembersBytes (attributePath : Option (Nat × Nat)) :
    List Elem → List (Text × List UInt8)
  | [] => []
  | e :: es => (match e.contextNum with
      | some 2 => attributeValueBytes env attributePath e
      | some _ => []
      | none => attributeDataBytes e) ++ attributeMembersBytes (notePath attributePath e) es

end

/-- The same of one member. -/
def attributeMemberBytes (attributePath : Option (Nat × Nat)) (e : Elem) :
    List (Text × List UInt8) :=
  match e.contextNum with
  | some 2 => attributeValueBytes env attributePath e
  | some _ => []
  | none => attributeDataBytes env e

theorem attributeMembersBytes_eq : ∀ (es : List Elem) (attributePath : Option (Nat × Nat)),
    attributeMembersBytes env attributePath es =
      membersReached notePath (attributeMemberBytes env) attributePath es
  | [], _ => rfl
  | e :: es, attributePath => by
    rw [attributeMembersBytes, attributeMembersBytes_eq es]
    rfl

theorem attributeDataBytes_eq (htype : e.type = .struct) : attributeDataBytes env e =
    membersReached notePath (attributeMemberBytes env) none e.members := by
  cases e with
  | prim tag p => cases p <;> cases htype
  | container tag kind members =>
    cases kind with
    | struct => exact attributeMembersBytes_eq env members none
    | array => cases htype
    | path => cases htype

theorem attributeDataBytes_other (htype : e.type ≠ .struct) : attributeDataBytes env e = [] := by
  cases e with
  | prim tag p => rfl
  | container tag kind members =>
    cases kind with
    | struct => exact absurd rfl htype
    | array => rfl
    | path => rfl

/-- A number is shown, and what is none is left to `other`. -/
theorem addNumberOr_unless {other : DissectM Unit} (tree : ProtoNode) (fieldName : Text)
    (lookupName : Nat → Option Text) (h : OnElem data ip containerType e rest s)
    (hnumber : e.type = .signedInteger ∨ e.type = .unsignedInteger → reached = [])
    (hother : DoesUnless may bad reached data other s (some ())) :
    DoesUnless may bad reached data (addNumberOr tree fieldName lookupName other) s (some ()) := by
  have hbegin : (addNumberOr tree fieldName lookupName other).run s =
      (addNumberOfType tree fieldName lookupName other e.type).run s := by
    rw [← h.type_eq]
    rfl
  cases e with
  | prim tag p =>
    cases p with
    | sint w v =>
      have hget := onReader_ok (h.positioned.getInt64_sint rfl)
      have hshown : Does may False data (addNumberOr tree fieldName lookupName other) s (some ()) :=
        ((still_addField _ _).does h.focused rfl).congr (hbegin.trans (bind_ok hget)) rfl rfl
      rw [hnumber (.inl rfl)]
      exact hshown.unless
    | uint w v =>
      have hget := onReader_ok (h.positioned.getUInt64_uint rfl)
      have hshown : Does may False data (addNumberOr tree fieldName lookupName other) s (some ()) :=
        ((still_addField _ _).does h.focused rfl).congr (hbegin.trans (bind_ok hget)) rfl rfl
      rw [hnumber (.inr rfl)]
      exact hshown.unless
    | _ => exact hother.congr hbegin rfl rfl
  | container tag kind members => cases kind <;> exact hother.congr hbegin rfl rfl

theorem namedBytes_other (fieldName : Text) (htype : e.type ≠ .byteString) :
    namedBytes fieldName e = [] := by
  unfold namedBytes
  split
  · exact absurd rfl htype
  · rfl

theorem addAttributeData_unless (itemTree : ProtoNode) (h : OnSized data ip .struct e rest s)
    (hrest : rest ≠ []) (attributePath : Option (Nat × Nat)) :
    DoesUnless True (Crashing env) (attributeValueBytes env attributePath e) data
      (addAttributeData env itemTree attributePath) s (some ()) := by
  have hnamed := namedValue_unless env itemTree (Text.lit "Value") h hrest
  unfold attributeValueBytes
  cases attributePath with
  | none =>
    rw [ite_self]
    exact hnamed
  | some path =>
    obtain ⟨clusterId, attributeId⟩ := path
    have hbegin : (addAttributeData env itemTree (some (clusterId, attributeId))).run s =
        (if e.type = .struct then addNamedAttributeStructValue env itemTree clusterId attributeId
          else addNumberOr itemTree (Text.lit "Value")
            (env.names.getAttributeEnumValueName clusterId attributeId)
            (addNamedCommandValue env itemTree (Text.lit "Value"))).run s := by
      rw [addAttributeData, addAttributeValue, getType, gets_bind, h.type_eq]
    refine DoesUnless.congr ?_ hbegin rfl rfl
    by_cases htype : e.type = .struct
    · rw [if_pos htype, if_pos htype]
      exact namedStruct_unless env (showsTree_addSubTreeItemF _ _ _ _) _ h.toOnElem htype
    · rw [if_neg htype, if_neg htype]
      refine addNumberOr_unless itemTree _ _ h.toOnElem (fun hnumber => ?_) hnamed
      refine namedBytes_other _ fun hbytes => ?_
      rcases hnumber with hnumber | hnumber <;> cases hbytes.symm.trans hnumber

theorem attributeDataMember_unless {nested : ProtoNode → DissectM Unit} {ok : Bool}
    (itemTree : ProtoNode) (attributePath : Option (Nat × Nat))
    (h : OnSized data ip .struct e rest s) (hrest : rest ≠ [])
    (hnested : e.type = .struct → DoesUnless True (Crashing env) (attributeDataBytes env e) data
      (nested itemTree) s (guarded ok ()))
    (hretried : Grows DissectState.retried (nested itemTree)) :
    DoesUnless True (Crashing env) (attributeMemberBytes env attributePath e) data
      (attributeDataMember env nested itemTree attributePath) s
      (guarded (contextOk attributeDataOk (structOr e ok) e) (notePath attributePath e)) := by
  have hkeeps : e.contextNum ≠ some 1 → notePath attributePath e = attributePath :=
    fun hne => if_neg hne
  unfold attributeMemberBytes
  refine contextOk_unless (k := onTagNumTo2
    (do
      addDataVersion env itemTree .imCommonField
      pure attributePath)
    (do
      let found ← addAttributePathOr env itemTree
      pure (found.or attributePath))
    (do
      addAttributeData env itemTree attributePath
      pure attributePath)
    (do
      addUnknown env itemTree
      pure attributePath)) h.toOnElem (fun n hn => ?_) fun hn => ?_
  · rw [hn]
    match n with
    | 0 =>
      rw [hkeeps (by rw [hn]; decide)]
      exact Does.unless
        (Does.some_returning (addDataVersion_does env itemTree _ h.toOnElem hrest hn) _)
    | 1 =>
      have hfound : Does True False data (addAttributePathOr env itemTree) s _ :=
        addAttributePathOr_does env itemTree h.toOnElem hrest
      have hvalue := hfound.shows (k := fun found => pure (found.or attributePath))
        (g := fun found => found.or attributePath) (fun _ => Leaves.pure _) fun _ s₁ => ⟨s₁, rfl⟩
      rw [guarded_map] at hvalue
      rw [notePath, if_pos hn]
      exact hvalue.unless
    | 2 =>
      rw [hkeeps (by rw [hn]; decide)]
      have hdata : DoesUnless True (Crashing env) (attributeValueBytes env attributePath e) data
          (addAttributeData env itemTree attributePath) s (guarded true ()) :=
        addAttributeData_unless env itemTree h hrest attributePath
      exact hdata.returning _
    | n + 3 =>
      rw [hkeeps (by rw [hn]; simp)]
      exact Does.unless
        (Does.some_returning (addUnknown_does env itemTree h.toOnElem hrest (.inl rfl)) _)
  · rw [hn, hkeeps (by rw [hn]; decide)]
    exact DoesUnless.returning (addNestedIB_unless env itemTree h.toOnElem hrest hnested hretried
      (attributeDataBytes_other env)) _

theorem addAttributeDataIBItemTo_unless : ∀ (depth : Nat) (tree : ProtoNode)
    {containerType : TLVType} {e : Elem} {rest : List UInt8} {s : DissectState},
    OnElem data ip containerType e rest s → e.type = .struct → e.body.length < depth →
      DoesUnless True (Crashing env) (attributeDataBytes env e) data
        (addAttributeDataIBItemTo env depth tree) s (guarded (nestedOk attributeDataOk e) ())
  | 0, _, _, _, _, _, _, _, hlen => absurd hlen (Nat.not_lt_zero _)
  | depth + 1, tree, _, e, _, _, h, htype, hlen => by
    have hbody : ∀ itemTree, BodyUnless True (Crashing env) data ip .struct e.members
        (attributeDataMember env (addAttributeDataIBItemTo env depth) itemTree)
        (fun m => contextOk attributeDataOk (structOr m (nestedOk attributeDataOk m)) m) notePath
        (attributeMemberBytes env) := by
      intro itemTree attributePath m hm rest s hrest hs
      have hshort := length_member_lt hm
      exact attributeDataMember_unless env itemTree attributePath hs hrest
        (fun htype => addAttributeDataIBItemTo_unless depth itemTree hs.toOnElem htype (by omega))
        (handles_addAttributeDataIBItemTo env depth itemTree).1.retried
    have hblock := structBlock_unless
      (showsTree_addSubTreeItem tree .dataElemPropertyData .dataElem) h hbody (fun _ itemTree attributePath => (handles_attributeDataMember env
        (fun tree => (handles_addAttributeDataIBItemTo env depth tree).2) itemTree
          attributePath).retried) none
    have hdoes := hblock.returning ()
    rw [nestedOk_eq, attributeDataBytes_eq env htype]
    refine DoesUnless.congr hdoes ?_ rfl rfl
    rw [addAttributeDataIBItemTo]
    simp only [bind_assoc]

theorem addAttributeDataIBItem_unless (tree : ProtoNode)
    (h : OnElem data ip containerType e rest s) (htype : e.type = .struct) :
    DoesUnless True (Crashing env) (attributeDataBytes env e) data
      (addAttributeDataIBItem env tree) s (guarded (nestedOk attributeDataOk e) ()) := by
  refine (addAttributeDataIBItemTo_unless env _ tree h htype h.body_length_lt).congr ?_ rfl rfl
  rw [addAttributeDataIBItem, get_bind]

/-! ### Reports -/

/-- What is decoded of a member of the report of an attribute. -/
def reportMemberBytes (e : Elem) : List (Text × List UInt8) :=
  if e.contextNum = some 1 then attributeDataBytes env e else []

/-- What is decoded of the report of an attribute. -/
def reportBytes (e : Elem) : List (Text × List UInt8) := e.members.flatMap (reportMemberBytes env)

theorem attributeReportMember_unless (depth : Nat) (itemTree : ProtoNode)
    (h : OnElem data ip .struct e rest s) (hrest : rest ≠ []) :
    DoesUnless True (Crashing env) (reportMemberBytes env e) data
      (attributeReportMember env (addAttributeReportIBItemTo env depth) itemTree) s
      (guarded (contextOk attributeReportOk (structOr e false) e) ()) := by
  have hnested := decodesStruct_addDetectedIB env (handles_addAttributeReportIBItemTo env depth)
    (beginsStruct_addAttributeReportIBItemTo env depth) itemTree
  have hnever : e.type = .struct → Does True False data
      (addDetectedIB env (addAttributeReportIBItemTo env depth) itemTree) s (guarded false ()) := by
    intro htype u s' hrun
    exact absurd hrun ((addDetectedIB_struct env (beginsStruct_addAttributeReportIBItemTo env depth)
      itemTree h.focused (h.type_eq.trans htype)).1 u s')
  unfold reportMemberBytes
  refine contextOk_unless (k := onTagNum
    (addStructOr env (addAttributeStatusIBItem env) itemTree)
    (addStructOr env (addAttributeDataIBItem env) itemTree)
    (addUnknown env itemTree)) h (fun n hn => ?_) fun hn => ?_
  · rw [hn]
    match n with
    | 0 =>
      exact Does.unless (addStructOr_does env itemTree h hrest fun _ =>
        addAttributeStatusIBItem_does env itemTree h)
    | 1 =>
      exact addStructOr_unless env itemTree h hrest
        (addAttributeDataIBItem_unless env itemTree h) (attributeDataBytes_other env)
    | n + 2 =>
      rw [if_neg (by simp)]
      exact Does.unless (addUnknown_does env itemTree h hrest (.inl rfl))
  · rw [hn]
    exact Does.unless (addNestedIB_does env itemTree h hrest hnever hnested.retried)

theorem addAttributeReportIBItem_unless (tree : ProtoNode)
    (h : OnElem data ip containerType e rest s) :
    DoesUnless True (Crashing env) (reportBytes env e) data (addAttributeReportIBItem env tree) s
      (guarded (isAttributeReport e) ()) := by
  have hbody : ∀ itemTree, BodyUnless True (Crashing env) data ip .struct e.members (fun _ : Unit =>
      attributeReportMember env (addAttributeReportIBItemTo env s.tlv.reader.unread) itemTree)
      (fun m => contextOk attributeReportOk (structOr m false) m) (fun b _ => b)
      (fun _ => reportMemberBytes env) := fun itemTree _ m _ rest' s' hrest hs =>
    attributeReportMember_unless env s.tlv.reader.unread itemTree hs.toOnElem hrest
  have hblock := structBlock_unless (showsTree_addSubTreeItem tree .dataElemPropertyData .dataElem)
    h hbody
    (fun _ itemTree _ => (handles_attributeReportMember env
      (handles_addAttributeReportIBItemTo env s.tlv.reader.unread)
      (beginsStruct_addAttributeReportIBItemTo env s.tlv.reader.unread) itemTree).retried) ()
  rw [membersReached_const] at hblock
  refine DoesUnless.congr hblock ?_ rfl rfl
  rw [addAttributeReportIBItem, get_bind]
  rfl

/-! ## Commands -/

section
variable (isRequest : Bool)

/-- What is decoded of a member of a command: the arguments, if its path has come before. -/
def commandMemberBytes (commandPath : Option (Nat × Nat)) (e : Elem) : List (Text × List UInt8) :=
  match if e.contextNum = some 1 ∧ e.type = .struct then commandPath else none with
  | some (clusterId, commandId) => e.members.flatMap (fieldBytes fun tag =>
      env.names.getCommandFieldNameByTag clusterId commandId tag isRequest)
  | none => []

/-- What is decoded of a command. -/
def commandBytes (e : Elem) : List (Text × List UInt8) :=
  membersReached noteCommandPath (commandMemberBytes env isRequest) none e.members

/-- The data of a command, without its tag. -/
theorem addCommandData_unless (tree : ProtoNode) (commandPath : Option (Nat × Nat))
    (h : OnElem data ip containerType e rest s) (hrest : rest ≠ [])
    (hn : e.contextNum = some 1) :
    DoesUnless True (Crashing env) (commandMemberBytes env isRequest commandPath e) data
      (addCommandData env true isRequest tree commandPath) s (guarded (!isEmptyBytes e) ()) := by
  have hgeneric : Does True False data
      (addGenericTLVItem env.host tree .dataElemPropertyData true) s
      (guarded (!isEmptyBytes e) ()) := by
    cases hempty : isEmptyBytes e with
    | true =>
      intro u s' hrun
      have hfault := @addGenericTLVItemAt_fault data env.host tree .dataElemPropertyData s true
        false 0 h.inBounds ⟨⟨rfl, .inl rfl⟩, (emptyBytes_iff h hrest).2 hempty⟩
      cases hfault.symm.trans hrun
    | false =>
      refine addGenericTLVItem_does env.host tree .dataElemPropertyData h hrest fun hnone => ?_
      rw [(emptyBytes_iff h hrest).1 hnone.2] at hempty
      cases hempty
  have hbegin : (addCommandData env true isRequest tree commandPath).run s =
      (addCommandDataBy env isRequest tree
        (if e.contextNum = some 1 ∧ e.type = .struct then commandPath else none)).run s := by
    rw [addCommandData, getType, gets_bind, h.type_eq, hn]
    simp only [true_and]
    rfl
  refine DoesUnless.congr ?_ hbegin rfl rfl
  unfold commandMemberBytes
  cases hpath : if e.contextNum = some 1 ∧ e.type = .struct then commandPath else none with
  | some path =>
    obtain ⟨clusterId, commandId⟩ := path
    obtain ⟨⟨-, htype⟩, -⟩ := (Option.ite_none_right_eq_some ..).1 hpath
    have hempty : isEmptyBytes e = false := by
      cases e with
      | prim tag p => cases p <;> cases htype
      | container tag kind members => rfl
    rw [hempty]
    exact namedStruct_unless env (showsTree_addSubTreeItemF _ _ _ _) _ h htype
  | none => exact hgeneric.unless

theorem commandDataMember_unless (dataElemTree : ProtoNode) (commandPath : Option (Nat × Nat))
    (h : OnElem data ip containerType e rest s) (hrest : rest ≠ []) :
    DoesUnless True (Crashing env) (commandMemberBytes env isRequest commandPath e) data
      (commandDataMember env true isRequest dataElemTree commandPath) s
      (guarded (contextOk commandDataOk false e) (noteCommandPath commandPath e)) := by
  have hkeeps : e.contextNum ≠ some 0 → noteCommandPath commandPath e = commandPath :=
    fun hne => if_neg hne
  have hnone : e.contextNum ≠ some 1 → commandMemberBytes env isRequest commandPath e = [] := by
    intro hne
    rw [commandMemberBytes, if_neg fun h => hne h.1]
  refine DoesUnless.congr (contextOk_verified_unless (k := onTagNum
    (do
      verify (s.tlv.reader.getType = .path ∨ s.tlv.reader.getType = .struct) .unexpectedTLVElement
      let found ← addCommandPathItemAndExtractIds env dataElemTree
      pure (found.or commandPath))
    (do
      addCommandData env true isRequest dataElemTree commandPath
      pure commandPath)
    (do
      addUnknown env dataElemTree
      pure commandPath)) h fun n hn => ?_) rfl rfl rfl
  match n with
  | 0 =>
    have hpath : Does True False data (addCommandPathItemAndExtractIds env dataElemTree) s
        (guarded (isPath (.noteLast PathKind.command.tags) e) (extracted .command e)) :=
      addPathItemAndExtractIds_does env dataElemTree .command h
    have hfound := hpath.shows (k := fun found => pure (found.or commandPath))
      (g := fun found => found.or commandPath) (fun _ => Leaves.pure _) fun _ s₁ => ⟨s₁, rfl⟩
    rw [guarded_map] at hfound
    rw [noteCommandPath, if_pos hn, hnone (by rw [hn]; decide)]
    exact Does.unless (pathLike_verified h fun _ => hfound)
  | 1 =>
    rw [hkeeps (by rw [hn]; decide)]
    exact DoesUnless.returning
      (addCommandData_unless env isRequest dataElemTree commandPath h hrest hn) _
  | n + 2 =>
    rw [hkeeps (by rw [hn]; simp), hnone (by rw [hn]; simp)]
    exact Does.unless (Does.some_returning (addUnknown_does_context env dataElemTree h hrest hn) _)

theorem addCommandDataIB_unless (tree : ProtoNode) (h : OnElem data ip containerType e rest s) :
    DoesUnless True (Crashing env) (commandBytes env isRequest e) data
      (addCommandDataIB env tree true isRequest) s (guarded (isCommandData e) ()) := by
  refine (showsTree_addSubTreeItem _ _ _).bind_unless h fun dataElemTree s' h' => ?_
  have hbody : BodyUnless True (Crashing env) data ip e.type e.members
      (commandDataMember env true isRequest dataElemTree) (contextOk commandDataOk false)
      noteCommandPath (commandMemberBytes env isRequest) := fun commandPath m _ rest' s' hrest hs =>
    commandDataMember_unless env isRequest dataElemTree commandPath hs.toOnElem hrest
  have hmembers := overMembers_unless h' hbody (fun _ commandPath => (handles_commandDataMember env
    true isRequest dataElemTree commandPath : Handles True _).retried) none
  exact hmembers.returning ()

end

/-- What is decoded of a member of the response to an invoke request. -/
def responseMemberBytes (e : Elem) : List (Text × List UInt8) :=
  if e.contextNum = some 0 then commandBytes env false e else []

/-- What is decoded of the response to an invoke request. -/
def responseBytes (e : Elem) : List (Text × List UInt8) :=
  e.members.flatMap (responseMemberBytes env)

theorem invokeResponseMember_unless (tree : ProtoNode) (h : OnElem data ip containerType e rest s)
    (hrest : rest ≠ []) :
    DoesUnless True (Crashing env) (responseMemberBytes env e) data
      (invokeResponseMember env tree) s
      (guarded (contextOk invokeResponseOk false e) ()) := by
  unfold responseMemberBytes
  refine DoesUnless.congr (contextOk_verified_unless (k := onTagNum
    (do
      verify (s.tlv.reader.getType = .struct) .unexpectedTLVElement
      addCommandDataIBForResponse env tree)
    (do
      verify (s.tlv.reader.getType = .struct) .unexpectedTLVElement
      addCommandStatusIB env tree)
    (addUnknown env tree)) h fun n hn => ?_) rfl rfl rfl
  rw [hn]
  match n with
  | 0 => exact type_verified_unless h fun _ => addCommandDataIB_unless env false tree h
  | 1 => exact type_verified_unless h fun _ => Does.unless (addCommandStatusIB_does env tree h)
  | n + 2 =>
    rw [if_neg (by simp)]
    exact Does.unless (addUnknown_does_context env tree h hrest hn)

theorem addInvokeResponseIB_unless (tree : ProtoNode) (h : OnElem data ip containerType e rest s) :
    DoesUnless True (Crashing env) (responseBytes env e) data (addInvokeResponseIB env tree) s
      (guarded (isInvokeResponse e) ()) := by
  have hbody : BodyUnless True (Crashing env) data ip e.type e.members
      (fun _ : Unit => invokeResponseMember env tree) (contextOk invokeResponseOk false)
      (fun b _ => b) (fun _ => responseMemberBytes env) := fun _ m _ rest' s' hrest' hs =>
    invokeResponseMember_unless env tree hs.toOnElem hrest'
  have hmembers := overMembers_unless h hbody
    (fun _ _ => (handles_invokeResponseMember env tree : Handles True _).retried) ()
  rw [membersReached_const] at hmembers
  exact hmembers

end

end

end Matter.IM
