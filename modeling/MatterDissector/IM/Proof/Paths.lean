import MatterDissector.IM.Proof.Blocks
import MatterDissector.TLV.Proof.Members

/-!
# Paths in encoded elements

What the decoders of paths and the look-ahead for events read of a well-formed element: the
unsigned numbers under context tags among its members (`Elem.number`), in order. A path without
one that counts is refused, when it has been left already.
-/

namespace Matter.TLV

/-- The number of its tag and the value of an unsigned integer under a context tag. -/
def Elem.number : Elem → Option (Nat × Nat)
  | .prim (.context num) (.uint _ v) => some (num.toNat, v.toNat)
  | _ => none

end Matter.TLV

namespace Matter.IM

open Prog TLV Display TLV.Dissect
open TLVReader (InBounds)

section
variable {α β : Type} {data rest : List UInt8} {ip : Nat} {containerType : TLVType} {e : Elem}
  {s s' : DissectState} {may crash : Prop}

/-! ## Numbers -/

theorem number_some {n v : Nat} (h : OnElem data ip containerType e rest s)
    (hn : e.number = some (n, v)) :
    isContextTag s.tlv.reader.getTag = true ∧ s.tlv.reader.getType = .unsignedInteger ∧
      tagNumFromTag s.tlv.reader.getTag = n ∧ (onReader TLVReader.getUInt64).run s = .ok v s := by
  unfold Elem.number at hn
  split at hn
  · rename_i num w val
    cases hn
    refine ⟨h.isContextTag_eq, h.type_eq, ?_, onReader_ok (h.positioned.getUInt64_uint rfl)⟩
    have hlt := num.isLt
    have htag : s.tlv.reader.getTag = contextTag num.toNat := h.tag_eq
    rw [htag, contextTag_eq (by omega), tagNumFromTag_eq]
    omega
  · cases hn

theorem number_none (h : OnElem data ip containerType e rest s) (hn : e.number = none) :
    ¬ (isContextTag s.tlv.reader.getTag = true ∧
      s.tlv.reader.getType = .unsignedInteger) := by
  rw [h.isContextTag_eq, h.type_eq]
  rintro ⟨htag, htype⟩
  cases e with
  | prim tag p =>
    cases tag <;> cases htag
    cases p <;> cases htype
    cases hn
  | container tag kind members => cases kind <;> cases htype

/-- What is done with a number, and with anything else. -/
theorem ifNumber_run {k : Nat → DissectM α} {other : DissectM α}
    (h : OnElem data ip containerType e rest s) :
    (if isContextTag s.tlv.reader.getTag = true ∧ s.tlv.reader.getType = .unsignedInteger
      then (do k (← onReader TLVReader.getUInt64)) else other).run s =
      ((e.number.map fun number => k number.2).getD other).run s := by
  cases hn : e.number with
  | none => rw [if_neg (number_none h hn)]; rfl
  | some number =>
    obtain ⟨hcontext, htype, -, hget⟩ := number_some h hn
    rw [if_pos ⟨hcontext, htype⟩, bind_ok hget]
    rfl

/-! ## Paths -/

/-- The ids after a member of a path. -/
def noteElem (note : PathIds → Nat → Nat → PathIds) (ids : PathIds) (e : Elem) : PathIds :=
  (e.number.map fun number => note ids number.1 number.2).getD ids

/-- What the decoder of a path reads of an element, if it takes it for one. -/
def pathIds (note : PathIds → Nat → Nat → PathIds) : Elem → Option PathIds
  | .prim _ _ => none
  | .container _ .array _ => none
  | .container _ _ members =>
    let ids := members.foldl (noteElem note) {}
    if ids.isEmpty then none else some ids

theorem pathMember_does (note : PathIds → Nat → Nat → PathIds) (ids : PathIds)
    (h : OnElem data ip containerType e rest s) :
    Does may crash data (pathMember note ids) s (some (noteElem note ids e)) := by
  have hrun : (pathMember note ids).run s = .ok (noteElem note ids e) s := by
    rw [pathMember, getTag, gets_bind, getType, gets_bind, noteElem]
    refine (ifNumber_run h).trans ?_
    cases hn : e.number with
    | none => rfl
    | some number =>
      obtain ⟨-, -, htag, -⟩ := number_some h hn
      rw [htag]
      rfl
  exact .of_ok hrun rfl h.focused.balanced

/-- A list or a structure: the ids of its members, if there is one. -/
theorem readPathIds_container {tag : Tag} {kind : ContainerKind} {members : List Elem}
    (note : PathIds → Nat → Nat → PathIds) (hkind : kind ≠ .array)
    (h : OnElem data ip containerType (.container tag kind members) rest s) :
    ∃ s', s'.tlv.reader.getType = .notSpecified ∧ s'.retried = s.retried ∧
      Balanced data s.tlv s'.tlv ∧ (readPathIds note).run s =
        if (members.foldl (noteElem note) {}).isEmpty = true then .err .unexpectedTLVElement s'
        else .ok (members.foldl (noteElem note) {}) s' := by
  have htype : s.tlv.reader.getType = .path ∨ s.tlv.reader.getType = .struct := by
    rw [h.type_eq]
    cases kind with
    | struct => exact .inr rfl
    | array => exact absurd rfl hkind
    | path => exact .inl rfl
  have hbody : BodyDoes False False data ip kind.type members (pathMember note)
      fun ids e => some (noteElem note ids e) := fun ids e _ rest' s' _ hs =>
    pathMember_does note ids hs
  have hdoes := members_does h hbody False.elim {}
  have hfold : members.foldlM (fun ids e => some (noteElem note ids e)) {} =
      some (members.foldl (noteElem note) {}) := List.foldlM_pure
  rw [hfold] at hdoes
  obtain ⟨s', hrun, hretried, hbal⟩ := hdoes.some_run
  refine ⟨s', getType_overMembers hrun, hretried, hbal, ?_⟩
  rw [readPathIds, getType, gets_bind, decide_eq_true htype, bind_ok (run_verify_true _ _),
    bind_ok (show (overMembers (pathMember note) {}).run s = _ from hrun)]
  cases hempty : (members.foldl (noteElem note) {}).isEmpty <;> rfl

/-- Any other element is refused at once. -/
theorem readPathIds_other (note : PathIds → Nat → Nat → PathIds)
    (htype : ¬ (s.tlv.reader.getType = .path ∨ s.tlv.reader.getType = .struct)) :
    (readPathIds note).run s = .err .unexpectedTLVElement s := by
  rw [readPathIds, getType, gets_bind, decide_eq_false htype, bind_err (run_verify_false _ _)]

end

end Matter.IM
