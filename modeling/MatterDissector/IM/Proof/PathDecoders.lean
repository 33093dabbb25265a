import MatterDissector.Display.Digits
import MatterDissector.IM.Proof.Paths
import MatterDissector.IM.Proof.Success

/-!
# The decoders of paths side by side

`AddNamedPathItem` keeps the first number with a tag, the decoders that extract ids the last one.
The ids can be read back from the text (`pathText_inj`), so the decoders show the same path exactly
if the first and the last number with each of the three tags are the same id
(`pathDecoders_agree_iff`).
-/

namespace Matter.IM

open Prog TLV Display TLV.Dissect
open TLVReader (InBounds)

/-! ## The text of a path -/

section

/-- What follows the number in the text of an id, with `room` bytes for the name. -/
def nameTail (room : Nat) (name : Option Text) : Text :=
  ((name.map (Text.lit " (" ++ ·)).getD []).take room ++ if name.isSome then Text.lit ")" else []

/-- The label of an id. -/
def idLabel (label : Text) (first : Bool) : Text :=
  (if first then [] else Text.lit ", ") ++ label ++ Text.lit "=0x"

/-- One id of the text, if it is there. -/
def idPart (size : Nat) (label : Text) (name : Nat → Option Text) (first : Bool) :
    Option Nat → Text
  | none => []
  | some id => idLabel label first ++ (Text.hexUpper id ++
      nameTail (size - 1 - (idLabel label first).length - (Text.hexUpper id).length) (name id))

variable {size : Nat} {label : Text} {name : Nat → Option Text} {first : Bool}

theorem delimits_nameTail (room : Nat) (name : Option Text) :
    (nameTail room name).Delimits := by
  cases name with
  | none => cases room <;> exact Text.delimits_nil
  | some name =>
    cases room with
    | zero => exact Text.delimits_cons _ (by decide)
    | succ room => exact Text.delimits_cons _ (by decide)

theorem delimits_idPart (id : Option Nat) : (idPart size label name false id).Delimits := by
  cases id with
  | none => exact Text.delimits_nil
  | some id => exact Text.delimits_cons _ (by decide)

/-- The number is in the part of the buffer that `snprintf` fills. -/
theorem snprintf_id {id : Nat} (hid : id < 2 ^ 64)
    (hroom : (idLabel label first).length + 16 ≤ size - 1) (tail : Text) :
    Text.snprintf size (idLabel label first ++ Text.hexUpper id ++ tail) =
      idLabel label first ++ (Text.hexUpper id ++
        tail.take (size - 1 - (idLabel label first).length - (Text.hexUpper id).length)) := by
  have hlen := Text.length_hexUpper hid
  rw [Text.snprintf, List.append_assoc, List.take_append, List.take_append,
    List.take_of_length_le (by omega), List.take_of_length_le (by omega)]

theorem length_idLabel (label : Text) (first : Bool) :
    (idLabel label first).length ≤ label.length + 5 := by
  have hsep : (Text.lit ", ").length = 2 := by decide
  have heq : (Text.lit "=0x").length = 3 := by decide
  rw [idLabel, List.length_append, List.length_append, heq]
  cases first
  · rw [if_neg (by decide), hsep]
    omega
  · rw [if_pos rfl, List.length_nil]
    omega

/-- The text with an id, if it is there. -/
theorem appendId_eq (hroom : label.length + 21 ≤ size - 1) (out : Text) {id : Option Nat}
    (hid : ∀ n, id = some n → n < 2 ^ 64) :
    (id.map fun id => appendId size label id (name id) out).getD out =
      out ++ idPart size label name (decide (out = [])) id := by
  cases id with
  | none => exact (List.append_nil out).symm
  | some id =>
    have hlabel := length_idLabel label (decide (out = []))
    have hsep : (if out = [] then [] else Text.lit ", ") ++ label ++ Text.lit "=0x" =
        idLabel label (decide (out = [])) := by
      unfold idLabel
      by_cases hout : out = [] <;> simp [hout]
    rw [Option.map_some, Option.getD_some, appendId, hsep, snprintf_id (hid id rfl) (by omega),
      idPart, nameTail, List.append_assoc, List.append_assoc, List.append_assoc]

/-- An id can be read back, and what follows it. -/
theorem idPart_append_inj {a b : Option Nat} {t u : Text} (hab : a.isSome = b.isSome)
    (ht : a.isSome = true → t.Delimits) (hu : b.isSome = true → u.Delimits)
    (h : idPart size label name first a ++ t = idPart size label name first b ++ u) :
    a = b ∧ t = u := by
  cases a with
  | none =>
    cases b with
    | none => exact ⟨rfl, h⟩
    | some b => cases hab
  | some a =>
    cases b with
    | none => cases hab
    | some b =>
      rw [idPart, idPart, List.append_assoc, List.append_assoc, List.append_assoc,
        List.append_assoc] at h
      obtain ⟨rfl, hrest⟩ := Text.hexUpper_append_inj
        ((delimits_nameTail _ _).append fun _ => ht rfl)
        ((delimits_nameTail _ _).append fun _ => hu rfl) (List.append_cancel_left h)
      exact ⟨rfl, List.append_cancel_left hrest⟩

/-- The id is in the text behind its label. -/
def ShowsId (label : Text) (id : Nat) (text : Text) : Prop :=
  ∃ before behind, text = before ++ label ++ Text.lit "=0x" ++ Text.hexUpper id ++ behind ∧
    behind.Delimits

theorem showsId_idPart (size : Nat) (label : Text) (name : Nat → Option Text) (first : Bool)
    (id : Nat) (before : Text) {t : Text} (ht : t.Delimits) :
    ShowsId label id (before ++ (idPart size label name first (some id) ++ t)) := by
  refine ⟨before ++ (if first then [] else Text.lit ", "),
    nameTail (size - 1 - (idLabel label first).length - (Text.hexUpper id).length) (name id) ++ t,
    ?_, (delimits_nameTail _ _).append fun _ => ht⟩
  rw [idPart, idLabel]
  simp only [List.append_assoc]

end

section
variable (env : Env) {label : Text} {getItemName : Nat → Nat → Option Text}

/-- The ids are of 64 bits: then the buffers of the text have room for them. -/
structure PathIds.Fits (ids : PathIds) : Prop where
  endpoint : ∀ id, ids.endpoint = some id → id < 2 ^ 64
  cluster : ∀ id, ids.cluster = some id → id < 2 ^ 64
  item : ∀ id, ids.item = some id → id < 2 ^ 64

/-- The text of the endpoint. -/
def endpointPart : Option Nat → Text := idPart 48 (Text.lit "Endpoint") (fun _ => none) true

theorem endpointPart_eq {id : Option Nat} (hid : ∀ n, id = some n → n < 2 ^ 64) :
    (id.map fun endpointId =>
      Text.snprintf 48 (Text.lit "Endpoint=0x" ++ Text.hexUpper endpointId)).getD [] =
      endpointPart id := by
  cases id with
  | none => rfl
  | some id =>
    have hroom : (idLabel (Text.lit "Endpoint") true).length + 16 ≤ 48 - 1 := by decide
    have happend := snprintf_id (hid id rfl) hroom []
    rw [List.append_nil] at happend
    show Text.snprintf 48 (idLabel (Text.lit "Endpoint") true ++ _) = _
    rw [happend, endpointPart, idPart, nameTail]
    simp

/-- The text of the cluster, the first one if there is no endpoint. -/
def clusterPart (first : Bool) : Option Nat → Text :=
  idPart 96 (Text.lit "Cluster") env.names.getClusterNameById first

theorem idPart_eq_nil {size : Nat} {name : Nat → Option Text} {first : Bool} (id : Option Nat) :
    decide (idPart size label name first id = []) = id.isNone := by
  cases id with
  | none => rfl
  | some id =>
    have hlabel : Text.lit "=0x" ≠ [] := by decide
    simp [idPart, idLabel, hlabel]

/-- The parts of the text. -/
theorem pathText_eq (hlabel : label.length ≤ 64) {ids : PathIds} (h : ids.Fits) :
    pathText env label getItemName ids = endpointPart ids.endpoint ++
      (clusterPart env ids.endpoint.isNone ids.cluster ++
        idPart 128 label (getItemName (ids.cluster.getD 0))
          (ids.endpoint.isNone && ids.cluster.isNone) ids.item) := by
  have hcluster : (Text.lit "Cluster").length + 21 ≤ 96 - 1 := by decide
  have hfirst : decide (endpointPart ids.endpoint = []) = ids.endpoint.isNone :=
    idPart_eq_nil ids.endpoint
  have hboth : decide (endpointPart ids.endpoint ++
      clusterPart env ids.endpoint.isNone ids.cluster = []) =
      (ids.endpoint.isNone && ids.cluster.isNone) := by
    rw [decide_eq_decide.2 List.append_eq_nil_iff, Bool.decide_and, hfirst, clusterPart,
      idPart_eq_nil]
  rw [pathText, endpointPart_eq h.endpoint, appendId_eq hcluster _ h.cluster, hfirst]
  show (ids.item.map fun itemId => appendId 128 label itemId
    (getItemName (ids.cluster.getD 0) itemId) (endpointPart ids.endpoint ++
      clusterPart env ids.endpoint.isNone ids.cluster)).getD (endpointPart ids.endpoint ++
      clusterPart env ids.endpoint.isNone ids.cluster) = _
  rw [appendId_eq (by omega) _ h.item, hboth, List.append_assoc]

/-- The ids can be read back from the text, if it is known which of them are in it. -/
theorem pathText_inj (hlabel : label.length ≤ 64) {ids ids' : PathIds} (h : ids.Fits)
    (h' : ids'.Fits) (hendpoint : ids.endpoint.isSome = ids'.endpoint.isSome)
    (hcluster : ids.cluster.isSome = ids'.cluster.isSome)
    (hitem : ids.item.isSome = ids'.item.isSome)
    (heq : pathText env label getItemName ids = pathText env label getItemName ids') :
    ids = ids' := by
  obtain ⟨endpoint, cluster, item⟩ := ids
  obtain ⟨endpoint', cluster', item'⟩ := ids'
  have hnone : ∀ {a b : Option Nat}, a.isSome = b.isSome → a.isNone = b.isNone := by
    intro a b hab
    cases a <;> cases b <;> first | rfl | cases hab
  rw [pathText_eq env hlabel h, pathText_eq env hlabel h', hnone hendpoint, hnone hcluster] at heq
  have hrest : ∀ {first : Bool} {name : Nat → Option Text} (a b : Option Nat),
      endpoint'.isSome = true → (clusterPart env endpoint'.isNone a ++
        idPart 128 label name (endpoint'.isNone && first) b).Delimits := by
    intro first name a b hsome
    cases endpoint' with
    | none => cases hsome
    | some endpoint' => exact (delimits_idPart a).append fun _ => delimits_idPart b
  obtain ⟨rfl, heq⟩ := idPart_append_inj hendpoint (fun hsome => hrest _ _ (hendpoint ▸ hsome))
    (hrest _ _) heq
  have hlast : ∀ {name : Nat → Option Text} (b : Option Nat), cluster'.isSome = true →
      (idPart 128 label name (endpoint.isNone && cluster'.isNone) b).Delimits := by
    intro name b hsome
    cases cluster' with
    | none => cases hsome
    | some cluster' =>
      have hfalse : (endpoint.isNone && (some cluster').isNone) = false := Bool.and_false _
      rw [hfalse]
      exact delimits_idPart b
  obtain ⟨rfl, heq⟩ := idPart_append_inj hcluster (fun hsome => hlast _ (hcluster ▸ hsome))
    (hlast _) heq
  have hend := idPart_append_inj (t := []) (u := []) hitem (fun _ => Text.delimits_nil)
    (fun _ => Text.delimits_nil) (by rw [List.append_nil, List.append_nil]; exact heq)
  exact congrArg (PathIds.mk endpoint cluster) hend.1

/-- The ids are in the text that they make. -/
theorem showsId_pathText (hlabel : label.length ≤ 64) {ids : PathIds} (h : ids.Fits)
    {clusterId itemId : Nat} (hcluster : ids.cluster = some clusterId)
    (hitem : ids.item = some itemId) :
    ShowsId (Text.lit "Cluster") clusterId (pathText env label getItemName ids) ∧
      ShowsId label itemId (pathText env label getItemName ids) := by
  rw [pathText_eq env hlabel h, hcluster, hitem]
  have hfalse : (ids.endpoint.isNone && (some clusterId).isNone) = false := Bool.and_false _
  rw [hfalse]
  refine ⟨showsId_idPart _ _ _ _ clusterId _ (delimits_idPart _), ?_⟩
  have hlast := showsId_idPart 128 label (getItemName clusterId) false itemId
    (endpointPart ids.endpoint ++ clusterPart env ids.endpoint.isNone (some clusterId))
    Text.delimits_nil
  rw [List.append_nil, List.append_assoc] at hlast
  exact hlast

end

/-! ## The ids of a path -/

/-- The numbers among the members of a path, with their tags. -/
def pathNumbers (members : List Elem) : List (Nat × Nat) := members.filterMap Elem.number

/-- The numbers under a tag, in order. -/
def valuesOf (tagNum : Nat) (numbers : List (Nat × Nat)) : List Nat :=
  (numbers.filter fun number => decide (number.1 = tagNum)).map Prod.snd

def firstValue (tagNum : Nat) (numbers : List (Nat × Nat)) : Option Nat :=
  (valuesOf tagNum numbers).head?

def lastValue (tagNum : Nat) (numbers : List (Nat × Nat)) : Option Nat :=
  (valuesOf tagNum numbers).getLast?

/-- A number as an id: a `uint32_t`. -/
def asId : Option Nat → Option Nat := Option.map (· % 2 ^ 32)

def firstId (tagNum : Nat) (numbers : List (Nat × Nat)) : Option Nat :=
  asId (firstValue tagNum numbers)

def lastId (tagNum : Nat) (numbers : List (Nat × Nat)) : Option Nat :=
  asId (lastValue tagNum numbers)

section
variable {t v : Nat} {numbers : List (Nat × Nat)}

theorem valuesOf_cons (n : Nat × Nat) : valuesOf t (n :: numbers) =
    if n.1 = t then n.2 :: valuesOf t numbers else valuesOf t numbers := by
  unfold valuesOf
  by_cases h : n.1 = t
  · rw [List.filter_cons_of_pos (by simpa using h), if_pos h, List.map_cons]
  · rw [List.filter_cons_of_neg (by simpa using h), if_neg h]

theorem firstId_cons (n : Nat × Nat) : firstId t (n :: numbers) =
    if n.1 = t then some (n.2 % 2 ^ 32) else firstId t numbers := by
  unfold firstId firstValue
  rw [valuesOf_cons]
  split <;> rfl

theorem lastId_cons (n : Nat × Nat) : lastId t (n :: numbers) =
    if n.1 = t then (lastId t numbers).or (some (n.2 % 2 ^ 32)) else lastId t numbers := by
  unfold lastId lastValue
  rw [valuesOf_cons]
  split
  · rw [List.getLast?_cons]
    cases (valuesOf t numbers).getLast? <;> rfl
  · rfl

theorem isSome_firstId (t : Nat) (numbers : List (Nat × Nat)) :
    (firstId t numbers).isSome = (lastId t numbers).isSome := by
  unfold firstId lastId firstValue lastValue
  cases valuesOf t numbers with
  | nil => rfl
  | cons v vs => rw [List.getLast?_cons]; rfl

theorem asId_lt {value : Option Nat} {id : Nat} (h : asId value = some id) : id < 2 ^ 32 := by
  obtain ⟨v, -, rfl⟩ := Option.map_eq_some_iff.1 h
  exact Nat.mod_lt _ (by decide)

/-- A number is its id if it is of 32 bits. -/
theorem asId_eq_iff {value : Option Nat} :
    asId value = value ↔ ∀ v, value = some v → v < 2 ^ 32 := by
  cases value with
  | none => exact iff_of_true rfl fun _ h => by cases h
  | some v =>
    constructor
    · rintro h _ ⟨⟩
      exact asId_lt h
    · intro h
      exact congrArg some (Nat.mod_eq_of_lt (h v rfl))

theorem mem_of_mem_valuesOf (h : v ∈ valuesOf t numbers) : (t, v) ∈ numbers := by
  obtain ⟨⟨n, v'⟩, hmem, rfl⟩ := List.mem_map.1 h
  obtain ⟨hmem, ht⟩ := List.mem_filter.1 hmem
  have htag : n = t := by simpa using ht
  exact htag ▸ hmem

end

/-- The tags and the numbers of a path fit their fields. -/
theorem pathNumbers_lt {members : List Elem} :
    ∀ n ∈ pathNumbers members, n.1 < 256 ∧ n.2 < 2 ^ 64 := by
  intro n hn
  obtain ⟨e, -, he⟩ := List.mem_filterMap.1 hn
  unfold Elem.number at he
  split at he
  · rename_i num w v
    cases he
    refine ⟨num.isLt, Nat.lt_of_lt_of_le v.isLt ?_⟩
    cases w <;> decide
  · cases he

/-- The tags of the three ids are different. -/
structure PathTags.Distinct (tags : PathTags) : Prop where
  cluster : tags.clusterTag ≠ tags.endpointTag
  item : tags.itemTag ≠ tags.endpointTag
  itemCluster : tags.itemTag ≠ tags.clusterTag

theorem PathKind.tags_distinct (kind : PathKind) : kind.tags.Distinct := by
  cases kind <;> exact ⟨by decide, by decide, by decide⟩

/-- The three ids of a path by `id`. -/
def idsBy (id : Nat → Option Nat) (tags : PathTags) : PathIds :=
  ⟨id tags.endpointTag, id tags.clusterTag, id tags.itemTag⟩

/-- The first numbers of a path. -/
def firstIds (tags : PathTags) (numbers : List (Nat × Nat)) : PathIds :=
  idsBy (firstId · numbers) tags

/-- The last numbers of a path. -/
def lastIds (tags : PathTags) (numbers : List (Nat × Nat)) : PathIds :=
  idsBy (lastId · numbers) tags

theorem idsBy_eq_iff {tags : PathTags} {f g : Nat → Option Nat} : idsBy f tags = idsBy g tags ↔
    ∀ t ∈ [tags.endpointTag, tags.clusterTag, tags.itemTag], f t = g t := by
  unfold idsBy
  simp

section
variable {tags : PathTags} {env : Env}

theorem foldl_noteElem (note : PathIds → Nat → Nat → PathIds) (members : List Elem)
    (ids : PathIds) : members.foldl (noteElem note) ids =
      (pathNumbers members).foldl (fun ids number => note ids number.1 number.2) ids := by
  unfold pathNumbers
  rw [List.foldl_filterMap]
  congr 1
  funext ids e
  unfold noteElem
  cases e.number <;> rfl

/-- What counts first stays. -/
theorem foldl_noteFirst (h : tags.Distinct) : ∀ (numbers : List (Nat × Nat)) (ids : PathIds),
    (∀ n ∈ numbers, n.1 < 256) →
      numbers.foldl (fun ids number => PathIds.noteFirst tags ids number.1 number.2) ids =
      ⟨ids.endpoint.or (firstId tags.endpointTag numbers),
        ids.cluster.or (firstId tags.clusterTag numbers),
        ids.item.or (firstId tags.itemTag numbers)⟩
  | [], ids, _ => by
    obtain ⟨endpoint, cluster, item⟩ := ids
    simp [firstId, firstValue, asId, valuesOf]
  | (n, v) :: numbers, ids, hlt => by
    obtain ⟨endpoint, cluster, item⟩ := ids
    have hn : n < 256 := hlt _ (.head _)
    rw [List.foldl_cons, foldl_noteFirst h numbers _ fun m hm => hlt m (.tail _ hm), firstId_cons,
      firstId_cons, firstId_cons]
    unfold PathIds.noteFirst
    by_cases he : n = tags.endpointTag
    · subst he
      rw [if_neg h.cluster.symm, if_neg h.item.symm]
      cases endpoint <;> simp [h.cluster.symm, h.item.symm]
    · by_cases hc : n = tags.clusterTag
      · subst hc
        cases cluster <;> simp [he, h.itemCluster.symm]
      · by_cases hi : n = tags.itemTag
        · subst hi
          have hitem : tags.itemTag ≠ 0xFFFFFFFF := by omega
          cases item <;> simp [he, hc, hitem]
        · simp [he, hc, hi]

/-- What counts last replaces what was there. -/
theorem foldl_noteLast (h : tags.Distinct) : ∀ (numbers : List (Nat × Nat)) (ids : PathIds),
    numbers.foldl (fun ids number => PathIds.noteLast tags ids number.1 number.2) ids =
      ⟨(lastId tags.endpointTag numbers).or ids.endpoint,
        (lastId tags.clusterTag numbers).or ids.cluster,
        (lastId tags.itemTag numbers).or ids.item⟩
  | [], ids => rfl
  | (n, v) :: numbers, ids => by
    rw [List.foldl_cons, foldl_noteLast h numbers, lastId_cons, lastId_cons, lastId_cons]
    unfold PathIds.noteLast
    by_cases he : n = tags.endpointTag
    · subst he
      simp [h.cluster.symm, h.item.symm]
    · by_cases hc : n = tags.clusterTag
      · subst hc
        simp [he, h.itemCluster.symm]
      · by_cases hi : n = tags.itemTag
        · subst hi
          simp [he, hc]
        · simp [he, hc, hi]

/-! ## The decoders -/

/-- The text of the item that was added last. -/
def shownText (s : DissectState) : Option Text :=
  match s.log.getLast? with
  | some (.add _ _ _ _ (.stringValue text)) => some text
  | _ => none

/-- The decoders end alike: with the same error, or with the same text, which has the ids that are
extracted. -/
def PathDecodersAgree (kind : PathKind) (named : Outcome MatterError Fault DissectState Unit)
    (extracted : Outcome MatterError Fault DissectState (Option (Nat × Nat))) : Prop :=
  match named, extracted with
  | .ok () s₁, .ok found s₂ => ∃ text, shownText s₁ = some text ∧ shownText s₂ = some text ∧
      ∀ clusterId itemId, found = some (clusterId, itemId) →
        ShowsId (Text.lit "Cluster") clusterId text ∧ ShowsId kind.tags.itemLabel itemId text
  | .err e _, .err e' _ => e = e'
  | _, _ => False

theorem addStringItemF_shown (tree : ProtoNode) (hfindex : HeaderField) (text : Text)
    (s : DissectState) : ∃ s', (addStringItemF tree hfindex text).run s = .ok () s' ∧
      shownText s' = some text := by
  refine ⟨_, rfl, ?_⟩
  show (match (s.log ++ [_]).getLast? with
    | some (Drawn.add _ _ _ _ (.stringValue text)) => some text
    | _ => none) = some text
  rw [List.getLast?_concat]

theorem fits_asId (value : Nat → Option Nat) (tags : PathTags) :
    (idsBy (fun t => asId (value t)) tags).Fits := by
  have hlt : ∀ (t id : Nat), asId (value t) = some id → id < 2 ^ 64 := fun t id h =>
    Nat.lt_of_lt_of_le (asId_lt h) (by decide)
  exact ⟨hlt _, hlt _, hlt _⟩

theorem firstIds_fits (tags : PathTags) (numbers : List (Nat × Nat)) :
    (firstIds tags numbers).Fits := fits_asId _ tags

theorem lastIds_fits (tags : PathTags) (numbers : List (Nat × Nat)) :
    (lastIds tags numbers).Fits := fits_asId _ tags

theorem isEmpty_firstIds (tags : PathTags) (numbers : List (Nat × Nat)) :
    (firstIds tags numbers).isEmpty = (lastIds tags numbers).isEmpty := by
  have hnone : ∀ t, (firstId t numbers).isNone = (lastId t numbers).isNone := fun t => by
    rw [← Option.not_isSome, ← Option.not_isSome, isSome_firstId]
  unfold PathIds.isEmpty firstIds lastIds idsBy
  rw [hnone, hnone, hnone]

theorem PathIds.eq_of_isEmpty {ids : PathIds} (h : ids.isEmpty = true) : ids = {} := by
  obtain ⟨endpoint, cluster, item⟩ := ids
  cases endpoint <;> cases cluster <;> cases item <;> first | rfl | cases h

/-- The text of a path with an id in it is not empty. -/
theorem pathText_ne_nil (env : Env) {label : Text} (getItemName : Nat → Nat → Option Text)
    (hlabel : label.length ≤ 64) {ids : PathIds} (h : ids.Fits) (hsome : ids.isEmpty = false) :
    pathText env label getItemName ids ≠ [] := by
  intro hnil
  rw [pathText_eq env hlabel h, List.append_eq_nil_iff, List.append_eq_nil_iff] at hnil
  have hnone : ∀ {size : Nat} {label : Text} {name : Nat → Option Text} {first : Bool}
      {id : Option Nat}, idPart size label name first id = [] → id.isNone = true := by
    intro size label name first id hid
    rw [← @idPart_eq_nil label size name first id, hid]
    rfl
  rw [PathIds.isEmpty, hnone hnil.1, hnone hnil.2.1, hnone hnil.2.2] at hsome
  cases hsome

variable {data rest : List UInt8} {ip : Nat} {containerType : TLVType} {s : DissectState}
  {tag : Tag} {ckind : ContainerKind} {members : List Elem}

theorem PathKind.length_itemLabel (kind : PathKind) : kind.tags.itemLabel.length ≤ 64 := by
  cases kind <;> decide

/-- `AddNamedPathItem` shows the first ids, if there is one. -/
theorem addNamedPathItem_run (env : Env) (tree : ProtoNode) (kind : PathKind)
    (hpath : ckind ≠ .array)
    (h : OnElem data ip containerType (.container tag ckind members) rest s) :
    if (firstIds kind.tags (pathNumbers members)).isEmpty = true then
      ∃ s', (addNamedPathItem env tree kind).run s = .err .unexpectedTLVElement s'
    else ∃ s', (addNamedPathItem env tree kind).run s = .ok () s' ∧
      shownText s' = some (pathText env kind.tags.itemLabel (kind.getItemName env)
        (firstIds kind.tags (pathNumbers members))) := by
  have hids : members.foldl (noteElem (PathIds.noteFirst kind.tags)) {} =
      firstIds kind.tags (pathNumbers members) := by
    rw [foldl_noteElem, foldl_noteFirst kind.tags_distinct _ _ fun n hn => (pathNumbers_lt n hn).1]
    rfl
  obtain ⟨s₁, -, -, -, hrun⟩ := readPathIds_container (PathIds.noteFirst kind.tags) hpath h
  rw [hids] at hrun
  rw [addNamedPathItem]
  split
  · rename_i hempty
    rw [if_pos hempty] at hrun
    exact ⟨s₁, bind_err hrun⟩
  · rename_i hsome
    rw [if_neg hsome] at hrun
    have hshown := pathText_ne_nil env (kind.getItemName env) kind.length_itemLabel
      (firstIds_fits kind.tags (pathNumbers members)) (by simpa using hsome)
    rw [bind_ok hrun]
    dsimp only
    rw [if_neg hshown]
    exact addStringItemF_shown tree .dataElemPropertyPath _ s₁

/-- The ids of the cluster and the item, if both are there. -/
def PathIds.extracted (ids : PathIds) : Option (Nat × Nat) :=
  ids.cluster.bind fun clusterId => ids.item.map fun itemId => (clusterId, itemId)

/-- The decoders that extract ids show the last ones, if there is one. -/
theorem addPathItemAndExtractIds_run (env : Env) (tree : ProtoNode) (kind : PathKind)
    (hpath : ckind ≠ .array)
    (h : OnElem data ip containerType (.container tag ckind members) rest s) :
    if (lastIds kind.tags (pathNumbers members)).isEmpty = true then
      ∃ s', (addPathItemAndExtractIds env tree kind).run s = .err .unexpectedTLVElement s'
    else ∃ s', (addPathItemAndExtractIds env tree kind).run s =
        .ok (lastIds kind.tags (pathNumbers members)).extracted s' ∧
      shownText s' = some (pathText env kind.tags.itemLabel (kind.getItemName env)
        (lastIds kind.tags (pathNumbers members))) := by
  have hids : members.foldl (noteElem (PathIds.noteLast kind.tags)) {} =
      lastIds kind.tags (pathNumbers members) := by
    rw [foldl_noteElem, foldl_noteLast kind.tags_distinct]
    simp [lastIds, idsBy]
  obtain ⟨s₁, -, -, -, hrun⟩ := readPathIds_container (PathIds.noteLast kind.tags) hpath h
  rw [hids] at hrun
  rw [addPathItemAndExtractIds]
  split
  · rename_i hempty
    rw [if_pos hempty] at hrun
    exact ⟨s₁, bind_err hrun⟩
  · rename_i hsome
    rw [if_neg hsome] at hrun
    obtain ⟨s', hshown, htext⟩ := addStringItemF_shown tree .dataElemPropertyPath
      (pathText env kind.tags.itemLabel (kind.getItemName env)
        (lastIds kind.tags (pathNumbers members))) s₁
    rw [bind_ok hrun, bind_ok hshown]
    exact ⟨s', rfl, htext⟩

/-- The decoders show the same path exactly if no tag has a first number that is another id than
its last one. -/
theorem pathDecoders_agree_iff (env : Env) (tree : ProtoNode) (kind : PathKind)
    (hpath : ckind ≠ .array)
    (h : OnElem data ip containerType (.container tag ckind members) rest s) :
    PathDecodersAgree kind ((addNamedPathItem env tree kind).run s)
        ((addPathItemAndExtractIds env tree kind).run s) ↔
      ∀ t ∈ [kind.tags.endpointTag, kind.tags.clusterTag, kind.tags.itemTag],
        firstId t (pathNumbers members) = lastId t (pathNumbers members) := by
  have hnamed := addNamedPathItem_run env tree kind hpath h
  have hextracted := addPathItemAndExtractIds_run env tree kind hpath h
  rw [← isEmpty_firstIds] at hextracted
  rw [← idsBy_eq_iff (f := (firstId · (pathNumbers members)))
    (g := (lastId · (pathNumbers members)))]
  show _ ↔ firstIds kind.tags (pathNumbers members) = lastIds kind.tags (pathNumbers members)
  generalize pathNumbers members = numbers at hnamed hextracted ⊢
  cases hempty : (firstIds kind.tags numbers).isEmpty with
  | true =>
    rw [if_pos hempty] at hnamed hextracted
    obtain ⟨s₁, hrun₁⟩ := hnamed
    obtain ⟨s₂, hrun₂⟩ := hextracted
    rw [hrun₁, hrun₂]
    refine iff_of_true rfl ?_
    have hfirst := (isEmpty_firstIds _ _).symm.trans hempty
    rw [PathIds.eq_of_isEmpty hempty, PathIds.eq_of_isEmpty hfirst]
  | false =>
    rw [if_neg (by simp [hempty])] at hnamed hextracted
    obtain ⟨s₁, hrun₁, htext₁⟩ := hnamed
    obtain ⟨s₂, hrun₂, htext₂⟩ := hextracted
    rw [hrun₁, hrun₂]
    constructor
    · rintro ⟨text, hsame₁, hsame₂, -⟩
      rw [htext₁] at hsame₁
      rw [htext₂] at hsame₂
      exact pathText_inj env kind.length_itemLabel (firstIds_fits _ _) (lastIds_fits _ _)
        (isSome_firstId _ _) (isSome_firstId _ _) (isSome_firstId _ _)
        (Option.some.inj (hsame₁.trans hsame₂.symm))
    · intro hids
      refine ⟨_, htext₁, hids ▸ htext₂, fun clusterId itemId hfound => ?_⟩
      rw [hids]
      obtain ⟨c, hcluster, hitem⟩ := Option.bind_eq_some_iff.1 hfound
      obtain ⟨i, hitem, hpair⟩ := Option.map_eq_some_iff.1 hitem
      cases hpair
      exact showsId_pathText env kind.length_itemLabel (lastIds_fits _ _) hcluster hitem

end

/-! ## A cluster given twice -/

/-- An attribute path with the clusters 6 and 8. -/
def twoClusters : Elem :=
  .container .anonymous .path
    [.prim (.context 3) (.uint .one 6), .prim (.context 3) (.uint .one 8),
      .prim (.context 4) (.uint .one 0)]

/-- One decoder shows the cluster 6, the other the cluster 8. -/
theorem not_pathDecodersAgree_twoClusters :
    ∃ s, next.run (.start (.init twoClusters.encode twoClusters.encode.length 0)) = .ok () s ∧
      (∃ s₁, (addNamedPathItem plainEnv .messageTree .attribute).run s = .ok () s₁ ∧
        shownText s₁ = some (Text.lit "Cluster=0x6, Attribute=0x0")) ∧
      (∃ s₂, (addAttributePathItemAndExtractIds plainEnv .messageTree).run s =
          .ok (some (8, 0)) s₂ ∧
        shownText s₂ = some (Text.lit "Cluster=0x8, Attribute=0x0")) ∧
      ¬ PathDecodersAgree .attribute ((addNamedPathItem plainEnv .messageTree .attribute).run s)
        ((addPathItemAndExtractIds plainEnv .messageTree .attribute).run s) := by
  refine ⟨_, rfl, ⟨_, rfl, by decide +kernel⟩, ⟨_, rfl, by decide +kernel⟩, ?_⟩
  rintro ⟨text, hsame₁, hsame₂, -⟩
  exact absurd (hsame₁.trans hsame₂.symm) (by decide +kernel)

/-- The members of a path that gives each id once. -/
def onePath : List Elem :=
  [.prim (.context 2) (.uint .one 1), .prim (.context 3) (.uint .one 6),
    .prim (.context 4) (.uint .one 0)]

theorem pathDecoders_agree_iff_onePath :
    ∃ s, OnElem (Elem.container .anonymous .path onePath).encode profileIdNotSpecified
        .notSpecified (.container .anonymous .path onePath) [] s ∧
      (PathDecodersAgree .attribute ((addNamedPathItem plainEnv .messageTree .attribute).run s)
          ((addPathItemAndExtractIds plainEnv .messageTree .attribute).run s) ↔
        ∀ t ∈ [PathKind.attribute.tags.endpointTag, PathKind.attribute.tags.clusterTag,
            PathKind.attribute.tags.itemTag],
          firstId t (pathNumbers onePath) = lastId t (pathNumbers onePath)) := by
  have hpath : ContainerKind.path ≠ .array := by decide
  obtain ⟨s, -, hs⟩ := onElem_first (e := .container .anonymous .path onePath) (by decide)
    (List.append_nil _).symm (by decide)
  exact ⟨s, hs, pathDecoders_agree_iff plainEnv .messageTree .attribute hpath hs⟩

end Matter.IM
