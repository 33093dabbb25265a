import MatterDissector.IM.Proof.Blocks
import MatterDissector.IM.Proof.Decodes

/-!
# Which information blocks are decoded

For each handler of `packet-matter-im.cpp` the elements that it decodes, as a condition on the
tree. A path needs one of its ids (`isPath`); a fallback shows what is neither a list nor a
structure, and nothing else. Blocks that nest under tags without meaning need all of the nested ones
(`nestedOk`).
-/

namespace Matter.IM

open Prog TLV Display TLV.Dissect
open TLVReader (InBounds)

section
variable {α β : Type} {data rest : List UInt8} {ip : Nat} {containerType : TLVType} {e : Elem}
  {s s' : DissectState} {may crash : Prop}

/-! ## Paths -/

/-- The element is a path with one of its ids. -/
def isPath (note : PathIds → Nat → Nat → PathIds) (e : Elem) : Bool := (pathIds note e).isSome

theorem readPathIds_does (note : PathIds → Nat → Nat → PathIds)
    (h : OnElem data ip containerType e rest s) :
    Does may crash data (readPathIds note) s (pathIds note e) := by
  have hrefused : isPathLike e = false → Does may crash data (readPathIds note) s none := by
    intro hother
    refine .of_err (readPathIds_other note ?_)
    rw [h.type_eq, ← isPathLike_iff, hother]
    decide
  cases e with
  | prim tag p => cases p <;> exact hrefused rfl
  | container tag kind members =>
    have hcontainer : kind ≠ .array → Does may crash data (readPathIds note) s
        (if (members.foldl (noteElem note) {}).isEmpty = true then none
          else some (members.foldl (noteElem note) {})) := by
      intro hkind
      obtain ⟨s', -, hretried, hbal, hrun⟩ := readPathIds_container note hkind h
      split
      · rename_i hempty
        rw [if_pos hempty] at hrun
        exact .of_err hrun
      · rename_i hempty
        rw [if_neg hempty] at hrun
        exact .of_ok hrun hretried hbal
    cases kind with
    | struct => exact hcontainer fun hkind => by cases hkind
    | array => exact hrefused rfl
    | path => exact hcontainer fun hkind => by cases hkind

section
variable (env : Env) (tree : ProtoNode) (kind : PathKind)

theorem addNamedPathItem_does (h : OnElem data ip containerType e rest s) :
    Does may crash data (addNamedPathItem env tree kind) s
      (guarded (isPath (.noteFirst kind.tags) e) ()) := by
  have hdoes := (readPathIds_does (.noteFirst kind.tags) h : Does may crash data _ s _).shows
    (k := fun ids =>
      let out := pathText env kind.tags.itemLabel (kind.getItemName env) ids
      addStringItemF tree .dataElemPropertyPath (if out = [] then Text.lit "Unknown Path" else out))
    (g := fun _ => ()) (fun _ => still_addStringItemF _ _ _) fun _ _ => ⟨_, rfl⟩
  have hmap : (pathIds (.noteFirst kind.tags) e).map (fun _ => ()) =
      guarded (isPath (.noteFirst kind.tags) e) () := by
    unfold isPath
    cases pathIds (.noteFirst kind.tags) e <;> rfl
  exact hmap ▸ hdoes

/-- The ids that a path is extracted for. -/
def extracted (e : Elem) : Option (Nat × Nat) :=
  (pathIds (.noteLast kind.tags) e).bind fun ids =>
    ids.cluster.bind fun clusterId => ids.item.map fun itemId => (clusterId, itemId)

theorem addPathItemAndExtractIds_does (h : OnElem data ip containerType e rest s) :
    Does may crash data (addPathItemAndExtractIds env tree kind) s
      (guarded (isPath (.noteLast kind.tags) e) (extracted kind e)) := by
  have hdoes := (readPathIds_does (.noteLast kind.tags) h : Does may crash data _ s _).shows
    (k := fun ids => do
      addStringItemF tree .dataElemPropertyPath
        (pathText env kind.tags.itemLabel (kind.getItemName env) ids)
      pure (ids.cluster.bind fun clusterId => ids.item.map fun itemId => (clusterId, itemId)))
    (g := fun ids => ids.cluster.bind fun clusterId =>
      ids.item.map fun itemId => (clusterId, itemId))
    (fun _ => still_bind (still_addStringItemF _ _ _) fun _ => Leaves.pure _)
    fun _ _ => ⟨_, rfl⟩
  have hmap : (pathIds (.noteLast kind.tags) e).map (fun ids => ids.cluster.bind fun clusterId =>
      ids.item.map fun itemId => (clusterId, itemId)) =
      guarded (isPath (.noteLast kind.tags) e) (extracted kind e) := by
    unfold isPath extracted
    cases pathIds (.noteLast kind.tags) e <;> rfl
  exact hmap ▸ hdoes

end

/-! ## Fallbacks -/

/-- The fallback behind an attempt. -/
def fallBack (type : TLVType) (fallback : DissectM α) : Except MatterError α → DissectM α
  | .ok a => pure a
  | .error _ => do
    noteRetry type
    fallback

/-- On a list or a structure a fallback does not make up for a failure. -/
theorem decodeOr_does_pathLike {decode fallback : DissectM α} {o : Option α}
    (hdecode : Does True crash data decode s o) (hretried : Grows DissectState.retried decode)
    (hfallback : Grows DissectState.retried fallback)
    (htype : s.tlv.reader.getType = .path ∨ s.tlv.reader.getType = .struct) :
    Does True crash data (decodeOr decode fallback) s o := by
  have hbegin : (decodeOr decode fallback).run s =
      (attempt decode >>= fallBack s.tlv.reader.getType fallback).run s := rfl
  cases o with
  | some a =>
    rcases hdecode with ⟨s', hrun, heq, hbal⟩ | ⟨hcrash, f, hfault⟩
    · refine .of_ok ?_ heq hbal
      rw [hbegin, bind_ok (attempt_ok hrun)]
      rfl
    · refine .inr ⟨hcrash, f, ?_⟩
      rw [hbegin]
      exact bind_fault (by rw [run_attempt, hfault])
  | none =>
    intro a s' hok
    rw [hbegin] at hok
    obtain ⟨res, s₁, hattempt, hok⟩ := bind_eq_ok.1 hok
    rcases attempt_eq_ok.1 hattempt with ⟨a', rfl, hrun⟩ | ⟨err, rfl, hrun⟩
    · cases hok
      exact hdecode _ _ hrun
    · obtain ⟨_, s₂, hnote, hrun'⟩ := bind_eq_ok.1 hok
      have hcount := (noteRetry_eq_ok hnote).2
      rw [if_pos htype] at hcount
      have := hretried.err hrun
      have := hfallback.ok hrun'
      exact ⟨trivial, by omega⟩

/-- A decoder that refuses other elements at once leaves them to the fallback. -/
theorem decodeOr_does_other {decode fallback : DissectM α} {o : Option α} {err : MatterError}
    (hrefused : decode.run s = .err err s)
    (htype : ¬ (s.tlv.reader.getType = .path ∨ s.tlv.reader.getType = .struct))
    (hfallback : Does may crash data fallback s o) :
    Does may crash data (decodeOr decode fallback) s o := by
  refine hfallback.congr ?_ rfl rfl
  rw [decodeOr, getType, gets_bind, bind_ok (attempt_err hrefused)]
  dsimp only
  rw [noteRetry, modify_bind, if_neg htype]
  rfl

/-- The element is decoded as a path, or shown because it is neither a list nor a structure. -/
def isPathOr (note : PathIds → Nat → Nat → PathIds) (e : Elem) : Bool :=
  !isPathLike e || isPath note e

section
variable (env : Env) (tree : ProtoNode)

theorem pathOr_does (kind : PathKind) (h : OnElem data ip .struct e rest s) (hrest : rest ≠ []) :
    Does True crash data (decodeOr (addNamedPathItem env tree kind) (addUnknown env tree)) s
      (guarded (isPathOr (.noteFirst kind.tags) e) ()) := by
  unfold isPathOr
  have htype : isPathLike e = true ↔
      s.tlv.reader.getType = .path ∨ s.tlv.reader.getType = .struct := by
    rw [h.type_eq, isPathLike_iff]
  cases hpath : isPathLike e with
  | true =>
    exact decodeOr_does_pathLike (addNamedPathItem_does env tree kind h)
      (handles_addNamedPathItem env tree kind : Handles True _).retried
      (handles_addUnknown env tree : Handles True _).retried (htype.1 hpath)
  | false =>
    have hother : ¬ (s.tlv.reader.getType = .path ∨ s.tlv.reader.getType = .struct) := by
      rw [← htype, hpath]
      decide
    exact decodeOr_does_other (bind_err (readPathIds_other _ hother)) hother
      (addUnknown_does env tree h hrest (.inl rfl))

/-- What is known of the path of an attribute behind the member that holds it. -/
def pathFound (e : Elem) : Option (Nat × Nat) :=
  if isPathLike e = true then extracted .attribute e else none

theorem addAttributePathOr_does (h : OnElem data ip .struct e rest s) (hrest : rest ≠ []) :
    Does True crash data (addAttributePathOr env tree) s
      (guarded (isPathOr (.noteLast PathKind.attribute.tags) e) (pathFound e)) := by
  unfold isPathOr pathFound
  have htype : isPathLike e = true ↔
      s.tlv.reader.getType = .path ∨ s.tlv.reader.getType = .struct := by
    rw [h.type_eq, isPathLike_iff]
  have hfallback : Does True crash data (do
      addUnknown env tree
      pure none : DissectM (Option (Nat × Nat))) s (some none) :=
    (addUnknown_does env tree h hrest (.inl rfl)).shows (fun _ => Leaves.pure _)
      fun _ s₁ => ⟨s₁, rfl⟩
  cases hpath : isPathLike e with
  | true =>
    exact decodeOr_does_pathLike (addPathItemAndExtractIds_does env tree .attribute h)
      (handles_addPathItemAndExtractIds env tree .attribute : Handles True _).retried
      ((handles_addUnknown env tree : Handles True _).bind fun _ => .pure _).retried
      (htype.1 hpath)
  | false =>
    have hother : ¬ (s.tlv.reader.getType = .path ∨ s.tlv.reader.getType = .struct) := by
      rw [← htype, hpath]
      decide
    exact decodeOr_does_other (bind_err (readPathIds_other _ hother)) hother hfallback

end

/-! ## Members -/

/-- What is asked of a member under a context tag, by its number, and of any other. -/
def contextOk (ok : Nat → Elem → Bool) (other : Bool) (e : Elem) : Bool :=
  match e.contextNum with
  | some n => ok n e
  | none => other

/-- What is done for the numbers 0 and 1, and for any other. -/
def onTagNum (zero one other : DissectM α) : Nat → DissectM α
  | 0 => zero
  | 1 => one
  | _ => other

/-- What is done for the numbers 0, 1 and 2, and for any other. -/
def onTagNumTo2 (zero one two other : DissectM α) : Nat → DissectM α
  | 0 => zero
  | 1 => one
  | 2 => two
  | _ => other

/-- A member that is handled by the number of its context tag. -/
theorem contextOk_does {k : Nat → DissectM α} {other : DissectM α} {ok : Nat → Elem → Bool}
    {otherOk : Bool} {a : α} (h : OnElem data ip containerType e rest s)
    (hcontext : ∀ n, e.contextNum = some n → Does may crash data (k n) s (guarded (ok n e) a))
    (hother : e.contextNum = none → Does may crash data other s (guarded otherOk a)) :
    Does may crash data (do
      let tag ← getTag
      if isContextTag tag then k (tagNumFromTag tag) else other) s
      (guarded (contextOk ok otherOk e) a) := by
  have hmember : Does may crash data ((e.contextNum.map k).getD other) s
      (guarded (contextOk ok otherOk e) a) := by
    unfold contextOk
    cases hn : e.contextNum with
    | some n => exact hcontext n hn
    | none => exact hother hn
  refine hmember.congr ?_ rfl rfl
  rw [getTag, gets_bind, ifContext_run h]

/-- A member that must have a context tag. -/
theorem contextOk_verified {k : Nat → DissectM α} {err : MatterError} {ok : Nat → Elem → Bool}
    {a : α} (h : OnElem data ip containerType e rest s)
    (hcontext : ∀ n, e.contextNum = some n → Does may crash data (k n) s (guarded (ok n e) a)) :
    Does may crash data (do
      let tag ← getTag
      verify (isContextTag tag) err
      k (tagNumFromTag tag)) s (guarded (contextOk ok false e) a) := by
  have hbegin : (getTag >>= fun tag => verify (isContextTag tag) err >>= fun _ =>
      k (tagNumFromTag tag)).run s = (verify (isContextTag s.tlv.reader.getTag) err >>= fun _ =>
        k (tagNumFromTag s.tlv.reader.getTag)).run s := rfl
  unfold contextOk
  cases hn : e.contextNum with
  | some n =>
    obtain ⟨htag, hnum⟩ := contextNum_some h hn
    refine (hcontext n hn).congr ?_ rfl rfl
    rw [hbegin, htag, bind_ok (run_verify_true _ _), hnum]
  | none =>
    rw [contextNum_none h hn, bind_err (run_verify_false _ _)] at hbegin
    exact .of_err hbegin

end

end Matter.IM
