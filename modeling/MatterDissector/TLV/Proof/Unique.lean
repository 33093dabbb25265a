import MatterDissector.TLV.Proof.Walk

/-!
# Reading the encoding in one way

The encoding of a tree says where it ends and what it was: from bytes that begin with the encoding
of an element, the element and the bytes behind it can be told (`Elem.encode_append_inj`), and so
from the encoding of members that an end follows (`encodeMembers_append_inj`). The parts of a head
determine a tag (`Tag.eq_of_field`) and a value (`Prim.eq_of_parts`), and any parts of the right
size are those of one (`Tag.exists_field`, `Prim.exists_parts`).
-/

namespace Matter.TLV

open Prog TLVReader

/-! ## Numbers -/

theorem toNat_bytes_injective {n k : Nat} (hn : 2 ^ n ≤ 256 ^ k) {v w : BitVec n}
    (h : LE.bytes k v.toNat = LE.bytes k w.toNat) : v = w := by
  apply BitVec.eq_of_toNat_eq
  have hv : v.toNat < 256 ^ k := Nat.lt_of_lt_of_le v.isLt hn
  have hw : w.toNat < 256 ^ k := Nat.lt_of_lt_of_le w.isLt hn
  exact LE.bytes_injective hv hw h

/-- Bytes are those of a number that they have room for. -/
theorem exists_toNat_bytes {n k : Nat} (hn : 256 ^ k = 2 ^ n) {bs : List UInt8}
    (hlen : bs.length = k) : ∃ v : BitVec n, LE.bytes k v.toNat = bs := by
  subst hlen
  have hlt : LE.value bs < 2 ^ n := hn ▸ LE.value_lt bs
  refine ⟨BitVec.ofNat n (LE.value bs), ?_⟩
  rw [BitVec.toNat_ofNat, Nat.mod_eq_of_lt hlt]
  exact LE.bytes_value bs

theorem Width.two_pow_bits (w : Width) : 2 ^ w.bits = 256 ^ w.bytes := by
  cases w <;> rfl

theorem Width.eq_of_code {w w' : Width} (h : w.code = w'.code) : w = w' := by
  cases w <;> cases w' <;> first | rfl | cases h

theorem Width.exists_code {n : Nat} (h : n < 4) : ∃ w : Width, w.code = n :=
  match n, h with
  | 0, _ => ⟨.one, rfl⟩
  | 1, _ => ⟨.two, rfl⟩
  | 2, _ => ⟨.four, rfl⟩
  | 3, _ => ⟨.eight, rfl⟩

theorem SizedBytes.eq_of_bytes {w : Width} {s s' : SizedBytes w} (h : s.bytes = s'.bytes) :
    s = s' := by
  cases s
  cases s'
  cases h
  rfl

/-! ## Tags -/

namespace Tag

/-- The numbers of a fully qualified tag. -/
theorem full_field_inj {vendor vendor' profile profile' : BitVec 16} {num num' : List UInt8}
    (hlen : num.length = num'.length)
    (h : LE.bytes 2 vendor.toNat ++ LE.bytes 2 profile.toNat ++ num =
      LE.bytes 2 vendor'.toNat ++ LE.bytes 2 profile'.toNat ++ num') :
    vendor = vendor' ∧ profile = profile' ∧ num = num' := by
  obtain ⟨hfront, hnum⟩ := List.append_inj' h hlen
  obtain ⟨hvendor, hprofile⟩ := List.append_inj hfront (by simp)
  exact ⟨toNat_bytes_injective (by decide) hvendor, toNat_bytes_injective (by decide) hprofile,
    hnum⟩

/-- Control bits and field determine a tag. -/
theorem eq_of_field {tag tag' : Tag} (hcontrol : tag.control = tag'.control)
    (hfield : tag.field = tag'.field) : tag = tag' := by
  cases tag <;> cases tag' <;> try (simp [control] at hcontrol; done)
  case anonymous.anonymous => rfl
  case context.context => rw [toNat_bytes_injective (by decide) hfield]
  case common2.common2 => rw [toNat_bytes_injective (by decide) hfield]
  case common4.common4 => rw [toNat_bytes_injective (by decide) hfield]
  case implicit2.implicit2 => rw [toNat_bytes_injective (by decide) hfield]
  case implicit4.implicit4 => rw [toNat_bytes_injective (by decide) hfield]
  case full6.full6 =>
    obtain ⟨rfl, rfl, hnum⟩ := full_field_inj (by simp) hfield
    rw [toNat_bytes_injective (by decide) hnum]
  case full8.full8 =>
    obtain ⟨rfl, rfl, hnum⟩ := full_field_inj (by simp) hfield
    rw [toNat_bytes_injective (by decide) hnum]

/-- A field with vendor, profile and a number of `k` bytes. -/
theorem exists_full_field {n k : Nat} (hn : 256 ^ k = 2 ^ n) {bs : List UInt8}
    (hlen : bs.length = 4 + k) : ∃ (vendor profile : BitVec 16) (num : BitVec n),
      LE.bytes 2 vendor.toNat ++ LE.bytes 2 profile.toNat ++ LE.bytes k num.toNat = bs := by
  obtain ⟨vendor, hvendor⟩ := @exists_toNat_bytes 16 2 (by decide) (bs.take 2) (by simp; omega)
  obtain ⟨profile, hprofile⟩ := @exists_toNat_bytes 16 2 (by decide) ((bs.drop 2).take 2)
    (by simp; omega)
  obtain ⟨num, hnum⟩ := @exists_toNat_bytes n k hn (bs.drop (2 + 2)) (by simp; omega)
  refine ⟨vendor, profile, num, ?_⟩
  rw [hvendor, hprofile, hnum, List.append_assoc, ← List.drop_drop, List.take_append_drop,
    List.take_append_drop]

/-- Any bytes of the right number are the field of a tag. -/
theorem exists_field (b : UInt8) {bs : List UInt8} (hlen : bs.length = tagFieldSize b.toNat) :
    ∃ tag : Tag, tag.control = b.toNat &&& tagControlMask ∧ tag.field = bs := by
  have hc := tagControl_cases b
  simp only [List.mem_cons, List.not_mem_nil, or_false] at hc
  unfold tagFieldSize at hlen
  rcases hc with hc | hc | hc | hc | hc | hc | hc | hc <;> rw [hc] at hlen ⊢
  · exact ⟨.anonymous, rfl, (List.eq_nil_of_length_eq_zero hlen).symm⟩
  · obtain ⟨num, rfl⟩ := @exists_toNat_bytes 8 1 (by decide) bs hlen
    exact ⟨.context num, rfl, rfl⟩
  · obtain ⟨num, rfl⟩ := @exists_toNat_bytes 16 2 (by decide) bs hlen
    exact ⟨.common2 num, rfl, rfl⟩
  · obtain ⟨num, rfl⟩ := @exists_toNat_bytes 32 4 (by decide) bs hlen
    exact ⟨.common4 num, rfl, rfl⟩
  · obtain ⟨num, rfl⟩ := @exists_toNat_bytes 16 2 (by decide) bs hlen
    exact ⟨.implicit2 num, rfl, rfl⟩
  · obtain ⟨num, rfl⟩ := @exists_toNat_bytes 32 4 (by decide) bs hlen
    exact ⟨.implicit4 num, rfl, rfl⟩
  · obtain ⟨vendor, profile, num, rfl⟩ := @exists_full_field 16 2 (by decide) bs hlen
    exact ⟨.full6 vendor profile num, rfl, rfl⟩
  · obtain ⟨vendor, profile, num, rfl⟩ := @exists_full_field 32 4 (by decide) bs hlen
    exact ⟨.full8 vendor profile num, rfl, rfl⟩

end Tag

/-! ## Values -/

namespace Prim

/-- Element type, field and bytes determine a value. -/
theorem eq_of_parts {p p' : Prim} (htype : p.elemType = p'.elemType) (hfield : p.field = p'.field)
    (hpayload : p.payload = p'.payload) : p = p' := by
  have hsame : p.type = p'.type := by rw [← p.typeOf_eq, htype, p'.typeOf_eq]
  cases p <;> cases p' <;> try (cases hsame; done)
  case sint.sint w v w' v' =>
    obtain rfl := Width.eq_of_code (Nat.add_left_cancel htype)
    rw [toNat_bytes_injective w.two_pow_bits.le hfield]
  case uint.uint w v w' v' =>
    obtain rfl := Width.eq_of_code (Nat.add_left_cancel htype)
    rw [toNat_bytes_injective w.two_pow_bits.le hfield]
  case utf8.utf8 w s w' s' =>
    obtain rfl := Width.eq_of_code (Nat.add_left_cancel htype)
    rw [SizedBytes.eq_of_bytes hpayload]
  case bytes.bytes w s w' s' =>
    obtain rfl := Width.eq_of_code (Nat.add_left_cancel htype)
    rw [SizedBytes.eq_of_bytes hpayload]
  case float32.float32 => rw [toNat_bytes_injective (by decide) hfield]
  case float64.float64 => rw [toNat_bytes_injective (by decide) hfield]
  case bool.bool b b' =>
    cases b <;> cases b' <;> first | rfl | cases htype
  case float32.float64 => cases htype
  case float64.float32 => cases htype
  case null.null => rfl

/-- Bytes whose number a length field spells. -/
theorem exists_sized {w : Width} {field payload : List UInt8} (hlen : field.length = w.bytes)
    (hstring : LE.value field = payload.length ∧ payload.length < 2 ^ 32) :
    ∃ s : SizedBytes w, s.bytes = payload ∧ LE.bytes w.bytes s.bytes.length = field := by
  have hlt := LE.value_lt field
  rw [hlen, hstring.1] at hlt
  refine ⟨⟨payload, hlt, hstring.2⟩, rfl, ?_⟩
  rw [← hstring.1, ← hlen]
  exact LE.bytes_value field

/-- Any parts of the right sizes are those of a value. -/
theorem exists_parts {elemType : Nat} {field payload : List UInt8} (htype : elemType < 0x15)
    (hfield : field.length = tlvFieldSizeToBytes (getTLVFieldSize elemType))
    (hstring : tlvTypeHasLength elemType = true →
      LE.value field = payload.length ∧ payload.length < 2 ^ 32)
    (hnone : tlvTypeHasLength elemType = false → payload = []) :
    ∃ p : Prim, p.elemType = elemType ∧ p.field = field ∧ p.payload = payload := by
  by_cases hsint : elemType < 4
  · obtain ⟨w, hw⟩ := Width.exists_code hsint
    obtain rfl : ElementType.int8 + w.code = elemType := by rw [hw]; exact Nat.zero_add _
    obtain ⟨v, rfl⟩ := exists_toNat_bytes w.two_pow_bits.symm (hfield.trans w.fieldSize_eq.1)
    exact ⟨.sint w v, rfl, rfl, (hnone w.hasLength_eq.1).symm⟩
  by_cases huint : elemType < 8
  · obtain ⟨w, hw⟩ := @Width.exists_code (elemType - 4) (by omega)
    obtain rfl : ElementType.uint8 + w.code = elemType := by
      rw [hw]; show 4 + (elemType - 4) = elemType; omega
    obtain ⟨v, rfl⟩ := exists_toNat_bytes w.two_pow_bits.symm (hfield.trans w.fieldSize_eq.2.1)
    exact ⟨.uint w v, rfl, rfl, (hnone w.hasLength_eq.2.1).symm⟩
  by_cases hbool : elemType < 10
  · obtain rfl | rfl : elemType = 8 ∨ elemType = 9 := by omega
    · exact ⟨.bool false, rfl, (List.eq_nil_of_length_eq_zero hfield).symm, (hnone rfl).symm⟩
    · exact ⟨.bool true, rfl, (List.eq_nil_of_length_eq_zero hfield).symm, (hnone rfl).symm⟩
  by_cases hfloat : elemType < 12
  · obtain rfl | rfl : elemType = 10 ∨ elemType = 11 := by omega
    · obtain ⟨v, rfl⟩ := @exists_toNat_bytes 32 4 (by decide) field hfield
      exact ⟨.float32 v, rfl, rfl, (hnone rfl).symm⟩
    · obtain ⟨v, rfl⟩ := @exists_toNat_bytes 64 8 (by decide) field hfield
      exact ⟨.float64 v, rfl, rfl, (hnone rfl).symm⟩
  by_cases hutf8 : elemType < 16
  · obtain ⟨w, hw⟩ := @Width.exists_code (elemType - 12) (by omega)
    obtain rfl : ElementType.utf8StringOneByteLength + w.code = elemType := by
      rw [hw]; show 12 + (elemType - 12) = elemType; omega
    obtain ⟨s, hs, hbytes⟩ := exists_sized (hfield.trans w.fieldSize_eq.2.2.1)
      (hstring w.hasLength_eq.2.2.1)
    exact ⟨.utf8 w s, rfl, hbytes, hs⟩
  by_cases hbytes : elemType < 20
  · obtain ⟨w, hw⟩ := @Width.exists_code (elemType - 16) (by omega)
    obtain rfl : 0x10 + w.code = elemType := by omega
    obtain ⟨s, hs, hbytes⟩ := exists_sized (hfield.trans w.fieldSize_eq.2.2.2)
      (hstring w.hasLength_eq.2.2.2)
    exact ⟨.bytes w s, rfl, hbytes, hs⟩
  · obtain rfl : elemType = 20 := by omega
    exact ⟨.null, rfl, (List.eq_nil_of_length_eq_zero hfield).symm, (hnone rfl).symm⟩

end Prim

/-! ## Heads -/

section
variable {rest rest' : List UInt8}

/-- A head is read in one way: the control byte tells the sizes of the fields. -/
theorem encodeHead_append_inj {tag tag' : Tag} {elemType elemType' : Nat}
    {field field' : List UInt8} (htype : elemType < 25) (htype' : elemType' < 25)
    (hfield : field.length = tlvFieldSizeToBytes (getTLVFieldSize elemType))
    (hfield' : field'.length = tlvFieldSizeToBytes (getTLVFieldSize elemType'))
    (h : encodeHead tag elemType field ++ rest = encodeHead tag' elemType' field' ++ rest') :
    tag = tag' ∧ elemType = elemType' ∧ field = field' ∧ rest = rest' := by
  rw [encodeHead, encodeHead, List.cons_append, List.cons_append, List.cons.injEq] at h
  obtain ⟨hbyte, h⟩ := h
  have hcontrol : tag.control ||| elemType = tag'.control ||| elemType' := by
    rw [← tag.control_toNat htype, hbyte, tag'.control_toNat htype']
  have htypes : elemType = elemType' := by
    rw [← tag.control_or_typeMask htype, hcontrol, tag'.control_or_typeMask htype']
  have hcontrols : tag.control = tag'.control := by
    rw [← tag.control_or_tagControlMask htype, hcontrol, tag'.control_or_tagControlMask htype']
  have hsize : tag.field.length = tag'.field.length := by
    rw [← tag.tagFieldSize_eq htype, hcontrol, tag'.tagFieldSize_eq htype']
  rw [List.append_assoc, List.append_assoc] at h
  obtain ⟨htag, h⟩ := List.append_inj h hsize
  obtain ⟨hfields, hrest⟩ := List.append_inj h (by rw [hfield, hfield', htypes])
  exact ⟨Tag.eq_of_field hcontrols htag, htypes, hfields, hrest⟩

theorem Elem.head_append_inj {e e' : Elem} (h : e.head ++ rest = e'.head ++ rest') :
    e.tag = e'.tag ∧ e.elemType = e'.elemType ∧ e.field = e'.field ∧ rest = rest' := by
  have htype := e.elemType_lt
  have htype' := e'.elemType_lt
  exact encodeHead_append_inj (by omega) (by omega) e.length_field e'.length_field h

/-- An element does not begin like an end. -/
theorem Elem.encode_ne_end {containerType : TLVType} {tail : List UInt8} (e : Elem)
    (hend : MembersEnd containerType tail rest') : e.encode ++ rest ≠ tail := by
  have htype := e.elemType_lt
  intro h
  rcases hend with ⟨-, rfl⟩ | ⟨rfl, -⟩
  · rw [Elem.encode_eq, List.append_assoc] at h
    obtain ⟨-, heq, -⟩ := @encodeHead_append_inj _ _ e.tag .anonymous e.elemType
      ElementType.endOfContainer e.field [] (by omega) (by decide) e.length_field rfl h
    rw [heq] at htype
    exact absurd htype (by decide)
  · have hpos := e.encode_length_pos
    have hlen := congrArg List.length h
    rw [List.length_append, List.length_nil] at hlen
    omega

end

/-! ## Elements -/

theorem ContainerKind.eq_of_elemType {kind kind' : ContainerKind}
    (h : kind.elemType = kind'.elemType) : kind = kind' := by
  cases kind <;> cases kind' <;> first | rfl | cases h

theorem ContainerKind.le_elemType (kind : ContainerKind) : 0x15 ≤ kind.elemType := by
  cases kind <;> decide

/-- Behind equal heads of values the same bytes belong to the value. -/
theorem Prim.payload_append_inj {p p' : Prim} {rest rest' : List UInt8}
    (htype : p.elemType = p'.elemType) (hfield : p.field = p'.field)
    (h : p.payload ++ rest = p'.payload ++ rest') : p.payload = p'.payload ∧ rest = rest' := by
  apply List.append_inj h
  rcases p.length_payload with ⟨hlen, hval, -⟩ | ⟨hlen, hnil⟩
  · rcases p'.length_payload with ⟨-, hval', -⟩ | ⟨hlen', -⟩
    · rw [← hval, hfield, hval']
    · rw [htype, hlen'] at hlen
      cases hlen
  · rcases p'.length_payload with ⟨hlen', -⟩ | ⟨-, hnil'⟩
    · rw [htype, hlen'] at hlen
      cases hlen
    · rw [hnil, hnil']

mutual

/-- An element can be told from bytes that begin with its encoding. -/
theorem Elem.encode_append_inj : ∀ (e e' : Elem) {rest rest' : List UInt8},
    e.encode ++ rest = e'.encode ++ rest' → e = e' ∧ rest = rest'
  | .prim tag p, e', rest, rest', h => by
    rw [Elem.encode_eq, Elem.encode_eq, List.append_assoc, List.append_assoc] at h
    obtain ⟨htag, htype, hfield, hbody⟩ := Elem.head_append_inj h
    cases e' with
    | prim tag' p' =>
      obtain ⟨hpayload, hrest⟩ := Prim.payload_append_inj htype hfield hbody
      cases htag
      rw [Prim.eq_of_parts htype hfield hpayload]
      exact ⟨rfl, hrest⟩
    | container tag' kind' members' =>
      have hlt := p.elemType_lt
      have hle := kind'.le_elemType
      have heq : p.elemType = kind'.elemType := htype
      omega
  | .container tag kind members, e', rest, rest', h => by
    rw [Elem.encode_eq, Elem.encode_eq, List.append_assoc, List.append_assoc] at h
    obtain ⟨htag, htype, -, hbody⟩ := Elem.head_append_inj h
    cases e' with
    | prim tag' p' =>
      have hlt := p'.elemType_lt
      have hle := kind.le_elemType
      have heq : kind.elemType = p'.elemType := htype
      omega
    | container tag' kind' members' =>
      rw [Elem.body, Elem.body, List.append_assoc, List.append_assoc] at hbody
      have hend : ∀ rest, MembersEnd .struct (endOfContainer ++ rest) rest :=
        fun _ => .inl ⟨by decide, rfl⟩
      obtain ⟨rfl, htail⟩ := encodeMembers_append_inj members members' (hend _) (hend _) hbody
      obtain rfl := ContainerKind.eq_of_elemType htype
      cases htag
      exact ⟨rfl, List.append_cancel_left htail⟩

/-- Members can be told from their encoding if an end follows. -/
theorem encodeMembers_append_inj : ∀ (es es' : List Elem) {containerType containerType' : TLVType}
    {tail tail' rest rest' : List UInt8}, MembersEnd containerType tail rest →
      MembersEnd containerType' tail' rest' →
      encodeMembers es ++ tail = encodeMembers es' ++ tail' → es = es' ∧ tail = tail'
  | [], [], _, _, _, _, _, _, _, _, h => ⟨rfl, by simpa using h⟩
  | [], e' :: es', _, _, tail, tail', _, _, hend, _, h => by
    rw [encodeMembers_nil, List.nil_append, encodeMembers_cons, List.append_assoc] at h
    exact absurd h.symm (e'.encode_ne_end hend)
  | e :: es, [], _, _, tail, tail', _, _, _, hend', h => by
    rw [encodeMembers_nil, List.nil_append, encodeMembers_cons, List.append_assoc] at h
    exact absurd h (e.encode_ne_end hend')
  | e :: es, e' :: es', _, _, tail, tail', _, _, hend, hend', h => by
    rw [encodeMembers_cons, encodeMembers_cons, List.append_assoc, List.append_assoc] at h
    obtain ⟨rfl, hmembers⟩ := Elem.encode_append_inj e e' h
    obtain ⟨rfl, htail⟩ := encodeMembers_append_inj es es' hend hend' hmembers
    exact ⟨rfl, htail⟩

end

/-- No two forests have the same encoding. -/
theorem encodeMembers_injective {es es' : List Elem} (h : encodeMembers es = encodeMembers es') :
    es = es' := by
  have hend : MembersEnd .notSpecified [] [] := .inr ⟨rfl, rfl⟩
  apply And.left
  apply encodeMembers_append_inj es es' hend hend
  rw [h]

end Matter.TLV
