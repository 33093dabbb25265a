import MatterDissector.IM.Proof.PathDecoders

/-!
# Numbers on their way to the display

The getters deliver the encoded number. Fields of 8 to 32 bits are shown by calls that take 32
bits, and the ids of paths are kept in 32 bits, so what is shown is the encoded number exactly if
it is of 32 bits where it passes through these (`shows_encoded_iff`). Fields of more bits show
every number.
-/

namespace Matter.TLV

open Display

/-- The number of an integer. -/
def Prim.intValue : Prim → Option Int
  | .sint _ v => some v.toInt
  | .uint _ v => some v.toNat
  | _ => none

/-- The number passes through a field of this type. -/
def Prim.FitsField (fieldType : FieldType) : Prim → Prop
  | .sint _ v => fieldType ∈ [.int8, .int16, .int24, .int32] →
    -2 ^ 31 ≤ v.toInt ∧ v.toInt < 2 ^ 31
  | .uint _ v => fieldType ∈ [.uint8, .uint16, .uint24, .uint32] → v.toNat < 2 ^ 32
  | _ => True

end Matter.TLV

namespace Matter.IM

open Prog TLV Display TLV.Dissect
open TLVReader (InBounds)

/-! ## Integers in fields -/

/-- The number that the last call shows. -/
def shownNumber (s : DissectState) : Option Int :=
  match s.log.getLast? with
  | some (.add _ _ _ _ (.int v)) => some v
  | some (.add _ _ _ _ (.int64 v)) => some v
  | some (.add _ _ _ _ (.uint v)) => some v
  | some (.add _ _ _ _ (.uint64 v)) => some v
  | _ => none

section
variable {data rest : List UInt8} {ip : Nat} {containerType : TLVType} {s : DissectState}
  {tag : Tag} {value : Int}

/-- A call that shows a number. -/
theorem addShown_run (tree : ProtoNode) (hfindex : HeaderField) (shown : Shown)
    (s : DissectState) : ∃ s', (do let _ ← addShown tree hfindex shown : DissectM Unit).run s =
      .ok () s' ∧ s'.log.getLast? = some (.add tree hfindex
        ((s.tlv.elemStart + s.tlv.sourceBufBaseOffset) % 2 ^ 32) s.tlv.elemLen shown) :=
  ⟨_, rfl, List.getLast?_concat⟩

/-- A signed number stays the same in 32 bits if it fits. -/
theorem toInt32_eq_iff {v : Int} : toInt32 v = v ↔ -2 ^ 31 ≤ v ∧ v < 2 ^ 31 := by
  unfold toInt32
  omega

theorem addTypedItem_sint {w : Width} {v : BitVec w.bits} (tree : ProtoNode)
    (hfindex : HeaderField) (h : OnElem data ip containerType (.prim tag (.sint w v)) rest s) :
    (∀ s', (addTypedItem tree hfindex).run s = .ok () s' → shownNumber s' = some v.toInt) ↔
      (Prim.sint w v).FitsField hfindex.ftype := by
  have htype : s.tlv.reader.getType = .signedInteger := h.type_eq
  have hget := onReader_ok (h.positioned.getInt64_sint rfl)
  rw [addTypedItem, getType, gets_bind, htype, addTypedValue, bind_ok hget]
  dsimp only
  split
  · rename_i hfield
    obtain ⟨s', hrun, hlog⟩ := addShown_run tree hfindex (.int (toInt32 v.toInt)) s
    have hshown : shownNumber s' = some (toInt32 v.toInt) := by rw [shownNumber, hlog]
    rw [hrun]
    constructor
    · intro hall _
      rw [← toInt32_eq_iff]
      exact Option.some.inj (hshown.symm.trans (hall s' rfl))
    · rintro hfits _ ⟨⟩
      rw [hshown, toInt32_eq_iff.2 (hfits hfield)]
  · rename_i hfield
    refine iff_of_true (fun s' hrun => ?_) fun hin => absurd hin hfield
    split at hrun
    · obtain ⟨s₁, hrun₁, hlog⟩ := addShown_run tree hfindex (.int64 v.toInt) s
      cases hrun₁.symm.trans hrun
      rw [shownNumber, hlog]
    · cases hrun

theorem addTypedItem_uint {w : Width} {v : BitVec w.bits} (tree : ProtoNode)
    (hfindex : HeaderField) (h : OnElem data ip containerType (.prim tag (.uint w v)) rest s) :
    (∀ s', (addTypedItem tree hfindex).run s = .ok () s' →
        shownNumber s' = some (v.toNat : Int)) ↔ (Prim.uint w v).FitsField hfindex.ftype := by
  have htype : s.tlv.reader.getType = .unsignedInteger := h.type_eq
  have hget := onReader_ok (h.positioned.getUInt64_uint rfl)
  rw [addTypedItem, getType, gets_bind, htype, addTypedValue, bind_ok hget]
  dsimp only
  split
  · rename_i hfield
    obtain ⟨s', hrun, hlog⟩ := addShown_run tree hfindex (.uint (v.toNat % 2 ^ 32)) s
    have hshown : shownNumber s' = some ((v.toNat % 2 ^ 32 : Nat) : Int) := by
      rw [shownNumber, hlog]
    rw [hrun]
    constructor
    · intro hall _
      have hsame := Option.some.inj (hshown.symm.trans (hall s' rfl))
      show v.toNat < 2 ^ 32
      omega
    · rintro hfits _ ⟨⟩
      rw [hshown, Nat.mod_eq_of_lt (hfits hfield)]
  · rename_i hfield
    refine iff_of_true (fun s' hrun => ?_) fun hin => absurd hin hfield
    split at hrun
    · obtain ⟨s₁, hrun₁, hlog⟩ := addShown_run tree hfindex (.uint64 v.toNat) s
      cases hrun₁.symm.trans hrun
      rw [shownNumber, hlog]
    · cases hrun

/-- `AddTypedItem` shows the number of an integer exactly if it fits where the field's calls take
32 bits. -/
theorem addTypedItem_shows_iff {p : Prim} (hvalue : p.intValue = some value) (tree : ProtoNode)
    (hfindex : HeaderField) (h : OnElem data ip containerType (.prim tag p) rest s) :
    (∀ s', (addTypedItem tree hfindex).run s = .ok () s' → shownNumber s' = some value) ↔
      p.FitsField hfindex.ftype := by
  cases p with
  | sint w v =>
    cases hvalue
    exact addTypedItem_sint tree hfindex h
  | uint w v =>
    cases hvalue
    exact addTypedItem_uint tree hfindex h
  | bool | float32 | float64 | utf8 | bytes | null => cases hvalue

end

/-! ## Ids of paths -/

/-- The first numbers as they are encoded. -/
def firstValues (tags : PathTags) (numbers : List (Nat × Nat)) : PathIds :=
  idsBy (firstValue · numbers) tags

/-- The last numbers as they are encoded. -/
def lastValues (tags : PathTags) (numbers : List (Nat × Nat)) : PathIds :=
  idsBy (lastValue · numbers) tags

section
variable {data rest : List UInt8} {ip : Nat} {containerType : TLVType} {s : DissectState}
  {tag : Tag} {ckind : ContainerKind} {members : List Elem} {tags : PathTags}

/-- The numbers that are given as the three ids are of 32 bits. -/
def IdsFit (value : Nat → Option Nat) (tags : PathTags) : Prop :=
  ∀ t ∈ [tags.endpointTag, tags.clusterTag, tags.itemTag], ∀ v, value t = some v → v < 2 ^ 32

theorem idsBy_asId_eq_iff {value : Nat → Option Nat} :
    idsBy (fun t => asId (value t)) tags = idsBy value tags ↔ IdsFit value tags := by
  rw [idsBy_eq_iff]
  exact forall₂_congr fun t _ => asId_eq_iff

theorem fits_values {value : Nat → Option Nat}
    (h : ∀ t v, value t = some v → (t, v) ∈ pathNumbers members) : (idsBy value tags).Fits :=
  ⟨fun _ hv => (pathNumbers_lt _ (h _ _ hv)).2, fun _ hv => (pathNumbers_lt _ (h _ _ hv)).2,
    fun _ hv => (pathNumbers_lt _ (h _ _ hv)).2⟩

theorem firstValues_fits : (firstValues tags (pathNumbers members)).Fits :=
  fits_values fun _ _ h => mem_of_mem_valuesOf (List.mem_of_mem_head? h)

theorem lastValues_fits : (lastValues tags (pathNumbers members)).Fits :=
  fits_values fun _ _ h => mem_of_mem_valuesOf (List.mem_of_getLast? h)

/-- The text has the encoded numbers exactly if they are ids. -/
theorem pathText_values_iff (env : Env) (kind : PathKind) {value : Nat → Option Nat}
    (hfits : (idsBy value kind.tags).Fits) :
    pathText env kind.tags.itemLabel (kind.getItemName env)
        (idsBy (fun t => asId (value t)) kind.tags) =
      pathText env kind.tags.itemLabel (kind.getItemName env) (idsBy value kind.tags) ↔
      IdsFit value kind.tags := by
  rw [← idsBy_asId_eq_iff]
  refine ⟨fun h => ?_, fun h => by rw [h]⟩
  exact pathText_inj env kind.length_itemLabel (fits_asId _ _) hfits Option.isSome_map
    Option.isSome_map Option.isSome_map h

/-- A path without ids has none to fit. -/
theorem idsFit_of_isEmpty {value : Nat → Option Nat}
    (h : (idsBy (fun t => asId (value t)) tags).isEmpty = true) : IdsFit value tags := by
  have hnone := PathIds.eq_of_isEmpty h
  rw [← idsBy_asId_eq_iff, hnone]
  have hvalue : ∀ {a : Option Nat}, asId a = none → none = a := fun {a} ha => by
    cases a with
    | none => rfl
    | some v => cases ha
  exact congr (congr (congrArg PathIds.mk (hvalue (congrArg PathIds.endpoint hnone)))
    (hvalue (congrArg PathIds.cluster hnone))) (hvalue (congrArg PathIds.item hnone))

/-- `AddNamedPathItem` shows the first numbers with its tags exactly if they are of 32 bits. -/
theorem addNamedPathItem_shows_iff (env : Env) (tree : ProtoNode) (kind : PathKind)
    (hpath : ckind ≠ .array)
    (h : OnElem data ip containerType (.container tag ckind members) rest s) :
    (∀ s', (addNamedPathItem env tree kind).run s = .ok () s' →
        shownText s' = some (pathText env kind.tags.itemLabel (kind.getItemName env)
          (firstValues kind.tags (pathNumbers members)))) ↔
      IdsFit (firstValue · (pathNumbers members)) kind.tags := by
  have hrun := addNamedPathItem_run env tree kind hpath h
  cases hempty : (firstIds kind.tags (pathNumbers members)).isEmpty with
  | true =>
    rw [if_pos hempty] at hrun
    obtain ⟨s₁, hrun⟩ := hrun
    rw [hrun]
    exact iff_of_true (fun _ he => by cases he) (idsFit_of_isEmpty hempty)
  | false =>
    rw [if_neg (by simp [hempty])] at hrun
    obtain ⟨s₁, hrun, htext⟩ := hrun
    rw [hrun, ← pathText_values_iff env kind firstValues_fits]
    constructor
    · intro hall
      exact Option.some.inj (htext.symm.trans (hall s₁ rfl))
    · rintro hsame _ ⟨⟩
      exact htext.trans (congrArg some hsame)

/-- The decoders that extract ids show and extract the last numbers with their tags exactly if
they are of 32 bits. -/
theorem addPathItemAndExtractIds_shows_iff (env : Env) (tree : ProtoNode) (kind : PathKind)
    (hpath : ckind ≠ .array)
    (h : OnElem data ip containerType (.container tag ckind members) rest s) :
    (∀ found s', (addPathItemAndExtractIds env tree kind).run s = .ok found s' →
        shownText s' = some (pathText env kind.tags.itemLabel (kind.getItemName env)
          (lastValues kind.tags (pathNumbers members))) ∧
        found = (lastValues kind.tags (pathNumbers members)).extracted) ↔
      IdsFit (lastValue · (pathNumbers members)) kind.tags := by
  have hrun := addPathItemAndExtractIds_run env tree kind hpath h
  cases hempty : (lastIds kind.tags (pathNumbers members)).isEmpty with
  | true =>
    rw [if_pos hempty] at hrun
    obtain ⟨s₁, hrun⟩ := hrun
    rw [hrun]
    exact iff_of_true (fun _ _ he => by cases he) (idsFit_of_isEmpty hempty)
  | false =>
    rw [if_neg (by simp [hempty])] at hrun
    obtain ⟨s₁, hrun, htext⟩ := hrun
    rw [hrun]
    constructor
    · intro hall
      rw [← pathText_values_iff env kind lastValues_fits]
      exact Option.some.inj (htext.symm.trans (hall _ s₁ rfl).1)
    · rintro hfits _ _ ⟨⟩
      have hids : lastIds kind.tags (pathNumbers members) =
          lastValues kind.tags (pathNumbers members) := idsBy_asId_eq_iff.2 hfits
      rw [htext, hids]
      exact ⟨rfl, rfl⟩

/-- What `AddTypedItem` and the decoders of paths show of a number is the number exactly if it is
of 32 bits where it passes through 32 bits. -/
theorem shows_encoded_iff (env : Env) (tree : ProtoNode) {p : Prim} {value : Int}
    {data₁ rest₁ : List UInt8} {ip₁ : Nat} {containerType₁ : TLVType} {tag₁ : Tag}
    {s₁ : DissectState} (hvalue : p.intValue = some value)
    (hnumber : OnElem data₁ ip₁ containerType₁ (.prim tag₁ p) rest₁ s₁)
    (hpath : ckind ≠ .array)
    (h : OnElem data ip containerType (.container tag ckind members) rest s) :
    (∀ hfindex, (∀ s', (addTypedItem tree hfindex).run s₁ = .ok () s' →
        shownNumber s' = some value) ↔ p.FitsField hfindex.ftype) ∧
    (∀ kind : PathKind, (∀ s', (addNamedPathItem env tree kind).run s = .ok () s' →
        shownText s' = some (pathText env kind.tags.itemLabel (kind.getItemName env)
          (firstValues kind.tags (pathNumbers members)))) ↔
      IdsFit (firstValue · (pathNumbers members)) kind.tags) ∧
    (∀ kind : PathKind, (∀ found s', (addPathItemAndExtractIds env tree kind).run s =
          .ok found s' →
        shownText s' = some (pathText env kind.tags.itemLabel (kind.getItemName env)
          (lastValues kind.tags (pathNumbers members))) ∧
        found = (lastValues kind.tags (pathNumbers members)).extracted) ↔
      IdsFit (lastValue · (pathNumbers members)) kind.tags) :=
  ⟨fun hfindex => addTypedItem_shows_iff hvalue tree hfindex hnumber,
    fun kind => addNamedPathItem_shows_iff env tree kind hpath h,
    fun kind => addPathItemAndExtractIds_shows_iff env tree kind hpath h⟩

end

/-! ## Numbers of more than 32 bits -/

/-- A timeout of `2 ^ 32 + 5`. -/
def wideTimeout : Elem := .prim .anonymous (.uint .eight 0x100000005)

/-- A path with the cluster `2 ^ 32 + 6`. -/
def widePath : List Elem :=
  [.prim (.context 3) (.uint .eight 0x100000006), .prim (.context 4) (.uint .one 0)]

/-- The timeout is shown as 5, and the cluster as 6. -/
theorem not_shows_encoded_wide :
    (∃ s s', next.run (.start (.init wideTimeout.encode wideTimeout.encode.length 0)) = .ok () s ∧
      (addTypedItem .messageTree .timedRequestTimeoutMs).run s = .ok () s' ∧
      shownNumber s' = some 5 ∧ shownNumber s' ≠ some 0x100000005) ∧
    ∃ s s' s'', next.run (.start (.init (Elem.container .anonymous .path widePath).encode
        (Elem.container .anonymous .path widePath).encode.length 0)) = .ok () s ∧
      (addNamedPathItem plainEnv .messageTree .attribute).run s = .ok () s' ∧
      shownText s' = some (Text.lit "Cluster=0x6, Attribute=0x0") ∧
      (addAttributePathItemAndExtractIds plainEnv .messageTree).run s = .ok (some (6, 0)) s'' :=
  ⟨⟨_, _, rfl, rfl, rfl, by decide⟩, _, _, _, rfl, rfl, by decide +kernel, rfl⟩

theorem shows_encoded_iff_onePath :
    ∃ s₁ s, OnElem wideTimeout.encode profileIdNotSpecified .notSpecified wideTimeout [] s₁ ∧
      OnElem (Elem.container .anonymous .path onePath).encode profileIdNotSpecified
        .notSpecified (.container .anonymous .path onePath) [] s ∧
      (∀ hfindex, (∀ s', (addTypedItem .messageTree hfindex).run s₁ = .ok () s' →
          shownNumber s' = some 0x100000005) ↔
        (Prim.uint .eight 0x100000005).FitsField hfindex.ftype) ∧
      (∀ kind : PathKind, (∀ s', (addNamedPathItem plainEnv .messageTree kind).run s = .ok () s' →
          shownText s' = some (pathText plainEnv kind.tags.itemLabel (kind.getItemName plainEnv)
            (firstValues kind.tags (pathNumbers onePath)))) ↔
        IdsFit (firstValue · (pathNumbers onePath)) kind.tags) ∧
      (∀ kind : PathKind,
        (∀ found s', (addPathItemAndExtractIds plainEnv .messageTree kind).run s = .ok found s' →
          shownText s' = some (pathText plainEnv kind.tags.itemLabel (kind.getItemName plainEnv)
            (lastValues kind.tags (pathNumbers onePath))) ∧
          found = (lastValues kind.tags (pathNumbers onePath)).extracted) ↔
        IdsFit (lastValue · (pathNumbers onePath)) kind.tags) := by
  have hpath : ContainerKind.path ≠ .array := by decide
  obtain ⟨s₁, -, hs₁⟩ := onElem_first (e := wideTimeout) (by decide)
    (List.append_nil _).symm (by decide)
  obtain ⟨s, -, hs⟩ := onElem_first (e := .container .anonymous .path onePath) (by decide)
    (List.append_nil _).symm (by decide)
  have hvalue : (Prim.uint .eight 0x100000005).intValue = some 0x100000005 := rfl
  exact ⟨s₁, s, hs₁, hs, shows_encoded_iff plainEnv .messageTree hvalue hs₁ hpath hs⟩

end Matter.IM
