import MatterDissector.TLV.Proof.Extent
import MatterDissector.TLV.Proof.Unique

/-!
# What the walk accepts

`walk_accepts_iff`: the walk reads a buffer without an error exactly if the buffer is the encoding
of a forest, of which there is then only one. The reader takes two kinds of heads that no encoder
writes, which `Plain` leaves out: strings with a length of `2^32` and more, and fully qualified
tags with the profile of the special ones.

* `Head.decodes`: the head that `ReadElement` reads is that of an element (`HeadOf`), or an end.
* `walkNode_decodes`, `walkMembers_decodes`: a walk that succeeds has gone over an encoding.
* `regular_encodeMembers`: the heads of an encoding are plain.
-/

namespace Matter.TLV

open Prog TLVReader

/-! ## Heads of elements -/

/-- The vendor and the profile in a fully qualified tag that reads as a special one. -/
def markerField : List UInt8 := [0xFF, 0xFF, 0xFF, 0xFF]

/-- The head at `p` has a tag and a length that an encoder writes. -/
structure Plain (data : List UInt8) (p : Nat) : Prop where
  length_lt : tlvTypeHasLength (typeAt data p) = true → fieldAt data p < 2 ^ 32
  profile_ne : TagControl.fullyQualifiedSixBytes ≤ controlAt data p &&& tagControlMask →
    (data.drop (p + 1)).take 4 ≠ markerField

/-- Every head is plain that is found from `p` on. -/
def Regular (data : List UInt8) (p : Nat) : Prop :=
  ∀ q n, Scan data p q n → q < data.length → Plain data q

theorem Regular.scan {data : List UInt8} {p q n : Nat} (h : Regular data p)
    (hscan : Scan data p q n) : Regular data q :=
  fun u m hu hlt => h u (m + n) (hscan.trans hu) hlt

namespace Tag

theorem full_field_take (vendor profile : BitVec 16) (num : List UInt8) :
    (LE.bytes 2 vendor.toNat ++ LE.bytes 2 profile.toNat ++ num).take 4 =
      LE.bytes 2 vendor.toNat ++ LE.bytes 2 profile.toNat :=
  List.take_left' (by simp)

theorem full_field_eq_marker {vendor profile : BitVec 16} :
    LE.bytes 2 vendor.toNat ++ LE.bytes 2 profile.toNat = markerField ↔
      vendor = 0xFFFF ∧ profile = 0xFFFF := by
  have hmarker : markerField = LE.bytes 2 (0xFFFF : BitVec 16).toNat ++
      LE.bytes 2 (0xFFFF : BitVec 16).toNat := by decide
  rw [hmarker]
  constructor
  · intro h
    obtain ⟨hvendor, hprofile⟩ := List.append_inj h (by simp)
    exact ⟨toNat_bytes_injective (by decide) hvendor, toNat_bytes_injective (by decide) hprofile⟩
  · rintro ⟨rfl, rfl⟩
    rfl

theorem length_field_of_full {tag : Tag} (h : TagControl.fullyQualifiedSixBytes ≤ tag.control) :
    4 ≤ tag.field.length := by
  cases tag with
  | full6 vendor profile num => simp [field]
  | full8 vendor profile num => simp [field]
  | _ => exact absurd h (Nat.not_le_of_gt (Nat.le_of_ble_eq_true rfl))

/-- A tag has a profile unless it is relative to none or fully qualified with the marker. -/
theorem profileSpecified_iff {tag : Tag} {ip : Nat} : tag.profileSpecified ip = true ↔
    (tag.control = TagControl.implicitProfileTwoBytes ∨
        tag.control = TagControl.implicitProfileFourBytes → ip ≠ profileIdNotSpecified) ∧
      (TagControl.fullyQualifiedSixBytes ≤ tag.control → tag.field.take 4 ≠ markerField) := by
  cases tag with
  | anonymous | context num | common2 num | common4 num =>
    simp only [profileSpecified, control, true_iff]
    exact ⟨fun h => absurd h (by decide), fun h => absurd h (by decide)⟩
  | implicit2 num | implicit4 num =>
    simp only [profileSpecified, control, bne_iff_ne]
    exact ⟨fun h => ⟨fun _ => h, fun hle => absurd hle (by decide)⟩, fun h => h.1 (by decide)⟩
  | full6 vendor profile num | full8 vendor profile num =>
    have hmarker : vendor = 0xFFFF ∧ profile = 0xFFFF ↔ _ = markerField :=
      full_field_eq_marker.symm
    simp only [profileSpecified, Bool.not_eq_true', Bool.and_eq_false_iff, beq_eq_false_iff_ne,
      ← Decidable.not_and_iff_or_not]
    rw [field, full_field_take, hmarker]
    exact ⟨fun h => ⟨fun hc => absurd hc (by simp [control]), fun _ => h⟩,
      fun h => h.2 (Nat.le_of_ble_eq_true rfl)⟩

end Tag

section
variable {data bytes rest : List UInt8} {p ip elemType : Nat} {containerType : TLVType}
  {tag : Tag} {field : List UInt8} {r t : TLVReader}

/-- The head of an element, at `p` in a buffer that goes on with `rest`. -/
structure HeadBytes (data : List UInt8) (p : Nat) (tag : Tag) (elemType : Nat)
    (field rest : List UInt8) : Prop where
  type_lt : elemType < 25
  length_field : field.length = tlvFieldSizeToBytes (getTLVFieldSize elemType)
  drop_eq : data.drop p = encodeHead tag elemType field ++ rest

namespace HeadBytes

variable (h : HeadBytes data p tag elemType field rest)
include h

theorem controlAt_eq : controlAt data p = tag.control ||| elemType := by
  rw [controlAt, h.drop_eq, encodeHead, List.cons_append, List.headD_cons]
  exact tag.control_toNat h.type_lt

theorem typeAt_eq : typeAt data p = elemType := by
  rw [typeAt, h.controlAt_eq, tag.control_or_typeMask h.type_lt]

theorem drop_control : data.drop (p + 1) = tag.field ++ (field ++ rest) := by
  rw [← List.drop_drop, h.drop_eq, encodeHead, List.cons_append, List.drop_succ_cons,
    List.drop_zero, List.append_assoc]

theorem fieldAt_eq : fieldAt data p = LE.value field := by
  unfold fieldAt
  dsimp only
  rw [h.controlAt_eq, tag.tagFieldSize_eq h.type_lt, tag.valueFieldSize_eq h.type_lt,
    ← h.length_field, ← List.drop_drop, h.drop_control, List.drop_left, List.take_left]

theorem headEnd_eq : headEnd data p = p + (encodeHead tag elemType field).length := by
  rw [headEnd, h.controlAt_eq, headSize, tag.tagFieldSize_eq h.type_lt,
    tag.valueFieldSize_eq h.type_lt, ← h.length_field, encodeHead, List.length_cons,
    List.length_append]
  omega

theorem drop_headEnd : data.drop (headEnd data p) = rest := by
  rw [h.headEnd_eq, ← List.drop_drop, h.drop_eq, List.drop_left]

theorem length_eq : data.length = headEnd data p + rest.length := by
  have hlen := congrArg List.length h.drop_eq
  have hpos : 0 < (encodeHead tag elemType field).length := Nat.succ_pos _
  rw [List.length_drop, List.length_append] at hlen
  rw [h.headEnd_eq]
  omega

/-- The head is plain if its tag has a profile and a string its length. -/
theorem profile_ne_iff : (TagControl.fullyQualifiedSixBytes ≤ controlAt data p &&& tagControlMask →
      (data.drop (p + 1)).take 4 ≠ markerField) ↔
    (TagControl.fullyQualifiedSixBytes ≤ tag.control → tag.field.take 4 ≠ markerField) := by
  rw [h.controlAt_eq, tag.control_or_tagControlMask h.type_lt, h.drop_control]
  apply forall_congr'
  intro hle
  rw [List.take_append_of_le_length (Tag.length_field_of_full hle)]

end HeadBytes

/-- A control byte is put together from its two parts. -/
theorem control_join (b : UInt8) :
    UInt8.ofNat ((b.toNat &&& tagControlMask) ||| (b.toNat &&& typeMask)) = b := by
  have hall : ∀ n : Fin 256, ((n : Nat) &&& tagControlMask) ||| ((n : Nat) &&& typeMask) = n := by
    decide +kernel
  apply UInt8.toNat_inj.1
  rw [hall ⟨b.toNat, b.toNat_lt⟩, UInt8.toNat_ofNat']
  exact Nat.mod_eq_of_lt b.toNat_lt

/-- Bytes that are long enough are those of a head. -/
theorem exists_headBytes {b : UInt8} {bs : List UInt8} (hdrop : data.drop p = b :: bs)
    (hvalid : isValidTLVType (b.toNat &&& typeMask) = true)
    (hfit : headSize b.toNat ≤ data.length - p) : ∃ (tag : Tag) (field rest : List UInt8),
      tag.control = b.toNat &&& tagControlMask ∧ tag.field = bs.take (tagFieldSize b.toNat) ∧
      HeadBytes data p tag (b.toNat &&& typeMask) field rest := by
  have hlen := congrArg List.length hdrop
  rw [List.length_drop, List.length_cons] at hlen
  unfold headSize at hfit
  have htake : (bs.take (tagFieldSize b.toNat)).length = tagFieldSize b.toNat := by
    rw [List.length_take]
    omega
  obtain ⟨tag, hcontrol, hfield⟩ := Tag.exists_field b htake
  have htype : b.toNat &&& typeMask < 25 := by
    have hle : b.toNat &&& typeMask ≤ 0x18 := of_decide_eq_true hvalid
    omega
  refine ⟨tag, (bs.drop (tagFieldSize b.toNat)).take (valueFieldSize b.toNat),
    (bs.drop (tagFieldSize b.toNat)).drop (valueFieldSize b.toNat), hcontrol, hfield, htype, ?_, ?_⟩
  · rw [List.length_take, List.length_drop]
    exact Nat.min_eq_left (by omega)
  · have hbyte : UInt8.ofNat (tag.control ||| (b.toNat &&& typeMask)) = b := by
      rw [hcontrol]
      exact control_join b
    rw [hdrop, encodeHead, hbyte, hfield, List.cons_append, List.append_assoc,
      List.take_append_drop, List.take_append_drop]

/-! ## What `ReadElement` reads -/

theorem At.readPoint_lt (h : At data ip containerType bytes t)
    (hok : readElement.run t = .ok () r) : t.readPoint < data.length := by
  obtain ⟨b, bs, hdrop, -⟩ := readElement_cases h.inBounds hok
  have hlen := congrArg List.length hdrop
  rw [List.length_drop, List.length_cons] at hlen
  omega

/-- A successful `ReadElement` in front of a plain head has read a tag that has a profile. -/
theorem At.headBytes (h : At data ip containerType bytes t) (hplain : Plain data t.readPoint)
    (hok : readElement.run t = .ok () r) : ∃ (tag : Tag) (elemType : Nat) (field rest : List UInt8),
      HeadBytes data t.readPoint tag elemType field rest ∧ tag.profileSpecified ip = true ∧
      r = (t.advance (encodeHead tag elemType field).length).withHead
        ⟨tag.control ||| elemType, tag.value ip, LE.value field⟩ ∧
      verifyElement.run r = .ok () r := by
  obtain ⟨b, bs, hdrop, hvalid, hfit, hr, hverify⟩ := readElement_cases h.inBounds hok
  rw [h.inBounds.unread_eq] at hfit
  obtain ⟨tag, field, rest, hcontrol, -, hhead⟩ := exists_headBytes hdrop hvalid hfit
  have hprofile : tag.profileSpecified ip = true := by
    refine Tag.profileSpecified_iff.2 ⟨fun himplicit hip => ?_,
      hhead.profile_ne_iff.1 hplain.profile_ne⟩
    apply elemTag_of_verifyElement hverify
    rw [hr]
    show (decodeTag t.implicitProfileId b.toNat bs).1 = unknownImplicitTag
    rw [decodeTag, ← hcontrol, h.implicitProfileId_eq, hip]
    rcases himplicit with himplicit | himplicit <;> rw [himplicit] <;> rfl
  have hbytes : bytes = encodeHead tag (b.toNat &&& typeMask) field ++ rest := by
    rw [← h.drop_eq, hhead.drop_eq]
  subst hbytes
  have hrun := h.readElement_head hhead.type_lt hprofile hhead.length_field
  rw [hok] at hrun
  refine ⟨tag, _, field, rest, hhead, hprofile, ?_⟩
  rcases verifyElement_cases _ with hv | ⟨e, hv⟩
  · rw [hv] at hrun
    cases hrun
    exact ⟨rfl, hv⟩
  · rw [hv] at hrun
    cases hrun

/-- `VerifyElement` lets an end of container through if it is anonymous. -/
theorem anonymous_of_verifyElement (hok : verifyElement.run r = .ok () r)
    (hend : r.elementType = ElementType.endOfContainer) : r.elemTag = anonymousTag := by
  by_contra htag
  rw [verifyElement, get_bind] at hok
  dsimp only at hok
  rw [if_pos hend] at hok
  by_cases houter : r.containerType = .notSpecified
  · rw [if_pos houter] at hok
    cases hok
  · rw [if_neg houter, if_pos htag] at hok
    cases hok

/-- `VerifyElement` lets any other element through if its tag may stand in the container. -/
theorem verifyTag_of_verifyElement (hok : verifyElement.run r = .ok () r)
    (hend : r.elementType ≠ ElementType.endOfContainer) :
    verifyTag r.containerType r.elemTag = .ok () := by
  rw [verifyElement, get_bind] at hok
  dsimp only at hok
  rw [if_neg hend] at hok
  cases hverify : verifyTag r.containerType r.elemTag with
  | ok _ => rfl
  | error e =>
    rw [hverify] at hok
    cases hok

/-- The check of a tag is that of the containment rules. -/
theorem Tag.allowedIn_of_verifyTag (hip : ip < 2 ^ 32) (hprofile : tag.profileSpecified ip = true)
    (hok : verifyTag containerType (tag.value ip) = .ok ()) :
    tag.allowedIn containerType = true := by
  have hanon := Tag.value_eq_anonymous hip hprofile
  unfold verifyTag at hok
  rw [if_neg (Tag.value_ne_unknownImplicit hip hprofile)] at hok
  cases containerType with
  | notSpecified =>
    dsimp only at hok
    rw [Tag.isContextTag_value hip hprofile] at hok
    cases hctx : tag.isContext with
    | false => simp [allowedIn, hctx]
    | true =>
      rw [hctx, if_pos rfl] at hok
      cases hok
  | struct | path =>
    dsimp only at hok
    by_cases htag : tag.value ip = anonymousTag
    · rw [if_pos htag] at hok
      cases hok
    · rw [hanon, Bool.not_eq_true] at htag
      simp [allowedIn, htag]
  | array =>
    dsimp only at hok
    by_cases htag : tag.value ip = anonymousTag
    · exact hanon.1 htag
    · rw [if_pos htag] at hok
      cases hok
  | unknownContainer => rfl
  | _ => cases hok

/-- The reader has read the head of an element that is no end, in front of `rest`. -/
structure HeadOf (data : List UInt8) (ip : Nat) (containerType : TLVType) (tag : Tag)
    (elemType : Nat) (field rest : List UInt8) (r : TLVReader) : Prop where
  type_lt : elemType < 24
  length_field : field.length = tlvFieldSizeToBytes (getTLVFieldSize elemType)
  at_rest : At data ip containerType rest r
  controlByte_eq : r.controlByte = tag.control ||| elemType
  elemTag_eq : r.elemTag = tag.value ip
  elemLenOrVal_eq : r.elemLenOrVal = LE.value field
  allowed : tag.allowedIn containerType = true
  profile : tag.profileSpecified ip = true
  fits : tlvTypeHasLength elemType = true →
    LE.value field < 2 ^ 32 ∧ LE.value field ≤ rest.length

theorem HeadOf.elementType_eq (h : HeadOf data ip containerType tag elemType field rest r) :
    r.elementType = elemType := by
  have hlt := h.type_lt
  exact elementType_of_control_or (by omega) h.controlByte_eq

/-- `ReadElement` reads the head of an element, or the end of a container. -/
theorem At.decodes (h : At data ip containerType bytes t) (hregular : Regular data t.readPoint)
    (hok : readElement.run t = .ok () r) :
    (∃ rest, bytes = endOfContainer ++ rest ∧ containerType ≠ .notSpecified ∧
        At data ip containerType rest r ∧ r.elementType = ElementType.endOfContainer) ∨
      ∃ (tag : Tag) (elemType : Nat) (field rest : List UInt8),
        bytes = encodeHead tag elemType field ++ rest ∧
        HeadBytes data t.readPoint tag elemType field rest ∧
        HeadOf data ip containerType tag elemType field rest r := by
  have hplain : Plain data t.readPoint := hregular _ 0 .start (h.readPoint_lt hok)
  obtain ⟨tag, elemType, field, rest, hhead, hprofile, hr, hverify⟩ := h.headBytes hplain hok
  have hbytes : bytes = encodeHead tag elemType field ++ rest := by
    rw [← h.drop_eq, hhead.drop_eq]
  subst hbytes
  have hat : At data ip containerType rest r := hr ▸ h.advance.withHead _
  have hcontrol : r.controlByte = tag.control ||| elemType := by rw [hr]; rfl
  have htag : r.elemTag = tag.value ip := by rw [hr]; rfl
  have hval : r.elemLenOrVal = LE.value field := by rw [hr]; rfl
  have htype : r.elementType = elemType := elementType_of_control_or hhead.type_lt hcontrol
  by_cases hend : elemType = ElementType.endOfContainer
  · left
    subst hend
    have hanon := anonymous_of_verifyElement hverify htype
    rw [htag, Tag.value_eq_anonymous h.implicitProfileId_lt hprofile] at hanon
    obtain rfl : tag = .anonymous := by
      cases tag <;> first | rfl | cases hanon
    obtain rfl : field = [] := List.eq_nil_of_length_eq_zero hhead.length_field
    refine ⟨rest, rfl, ?_, hat, htype⟩
    rw [← hat.containerType_eq]
    exact containerType_of_verifyElement hverify htype
  · right
    have hlt := hhead.type_lt
    have hne : elemType ≠ 24 := hend
    have hcheck := verifyTag_of_verifyElement hverify (by rw [htype]; exact hend)
    rw [hat.containerType_eq, htag] at hcheck
    refine ⟨tag, elemType, field, rest, rfl, hhead, ?_⟩
    exact {
      type_lt := by omega
      length_field := hhead.length_field
      at_rest := hat
      controlByte_eq := hcontrol
      elemTag_eq := htag
      elemLenOrVal_eq := hval
      allowed := Tag.allowedIn_of_verifyTag h.implicitProfileId_lt hprofile hcheck
      profile := hprofile
      fits := fun hlen => by
        have hlong := hplain.length_lt (by rw [hhead.typeAt_eq]; exact hlen)
        rw [hhead.fieldAt_eq] at hlong
        have hle := length_le_of_verifyElement hat.inBounds hverify (by rw [htype]; exact hlen)
        rw [hval, Nat.mod_eq_of_lt hlong, hat.unread_eq] at hle
        exact ⟨hlong, hle⟩ }

/-- The bytes of a string, if it is one. -/
theorem HeadOf.exists_payload (h : HeadOf data ip containerType tag elemType field rest r) :
    ∃ payload rest', rest = payload ++ rest' ∧
      (tlvTypeHasLength elemType = true →
        LE.value field = payload.length ∧ payload.length < 2 ^ 32) ∧
      (tlvTypeHasLength elemType = false → payload = []) := by
  cases hlen : tlvTypeHasLength elemType with
  | true =>
    obtain ⟨hlong, hle⟩ := h.fits hlen
    have hlength : (rest.take (LE.value field)).length = LE.value field := by
      rw [List.length_take, Nat.min_eq_left hle]
    refine ⟨rest.take (LE.value field), rest.drop (LE.value field),
      (List.take_append_drop _ _).symm, fun _ => ?_, fun hnone => by cases hnone⟩
    rw [hlength]
    exact ⟨rfl, hlong⟩
  | false => exact ⟨[], rest, rfl, nofun, fun _ => rfl⟩

/-- The head of a value, with its bytes. -/
theorem HeadOf.prim (h : HeadOf data ip containerType tag elemType field rest r)
    (hcont : tlvTypeIsContainer elemType = false) : ∃ (p : Prim) (rest' : List UInt8),
      p.elemType = elemType ∧ p.field = field ∧ rest = p.payload ++ rest' ∧
      Positioned data ip containerType (.prim tag p) rest' r := by
  have htype : elemType < 0x15 := by
    have hlt := h.type_lt
    rw [← Bool.not_eq_true, tlvTypeIsContainer_iff] at hcont
    omega
  obtain ⟨payload, rest', rfl, hstring, hnone⟩ := h.exists_payload
  obtain ⟨p, rfl, rfl, rfl⟩ := Prim.exists_parts htype h.length_field hstring hnone
  exact ⟨p, rest', rfl, rfl, rfl, h.at_rest, h.controlByte_eq, h.elemTag_eq, h.elemLenOrVal_eq⟩

theorem ContainerKind.exists_elemType (hcont : tlvTypeIsContainer elemType = true) :
    ∃ kind : ContainerKind, kind.elemType = elemType := by
  rw [tlvTypeIsContainer_iff] at hcont
  obtain rfl | rfl | rfl : elemType = 0x15 ∨ elemType = 0x16 ∨ elemType = 0x17 := by omega
  · exact ⟨.struct, rfl⟩
  · exact ⟨.array, rfl⟩
  · exact ⟨.path, rfl⟩

/-! ## The walk -/

/-- What lies behind `Next` has reported the end: the members of a container have one, or the
buffer is used up. -/
def Stopped (data : List UInt8) (ip : Nat) (containerType : TLVType) (tail : List UInt8)
    (r : TLVReader) : Prop :=
  (∃ rest, tail = endOfContainer ++ rest ∧ containerType ≠ .notSpecified ∧
      At data ip containerType rest r ∧ r.elementType = ElementType.endOfContainer) ∨
    tail = [] ∧ At data ip containerType [] r ∧ Cleared r

theorem At.readPoint_eq (h : At data ip containerType bytes r) :
    r.readPoint = data.length - bytes.length := by
  have hle := h.inBounds.readPoint_le
  have hlen := congrArg List.length h.drop_eq
  rw [List.length_drop] at hlen
  omega

/-- `ExitContainer` finds no end where none is left. -/
theorem Stopped.exit (h : Stopped data ip containerType bytes r) {outer : TLVType}
    (hok : (exitContainer outer).run r = .ok () t) :
    ∃ rest, bytes = endOfContainer ++ rest ∧ At data ip outer rest t ∧ Cleared t := by
  rcases h with ⟨rest, rfl, -, hat, hend⟩ | ⟨rfl, hat, hclear⟩
  · obtain ⟨t', hexit, hat', hclear'⟩ := hat.exit_end hend outer
    rw [hexit] at hok
    cases hok
    exact ⟨rest, rfl, hat', hclear'⟩
  · obtain ⟨u, hskip, -⟩ := exitContainer_eq_ok.1 hok
    rw [skipToEnd_cleared hat.inBounds hclear, readOn, bind_err hat.readEmpty] at hskip
    cases hskip

/-- `Next` in front of plain bytes. -/
theorem Ready.next_ok (h : Ready data ip containerType bytes r)
    (hregular : Regular data (data.length - bytes.length)) (hok : next.run r = .ok () t) :
    ∃ (tag : Tag) (elemType : Nat) (field rest : List UInt8),
      bytes = encodeHead tag elemType field ++ rest ∧
      HeadBytes data (data.length - bytes.length) tag elemType field rest ∧
      HeadOf data ip containerType tag elemType field rest t := by
  obtain ⟨r₁, hskip, hat, -⟩ := h
  obtain ⟨r₁', hskip', hread, hnot⟩ := next_eq_ok.1 hok
  rw [hskip] at hskip'
  cases hskip'
  rw [← hat.readPoint_eq] at hregular ⊢
  rcases hat.decodes hregular hread with ⟨-, -, -, -, hend⟩ | hhead
  · exact absurd hend hnot
  · exact hhead

/-- `Next` reports the end in front of plain bytes. -/
theorem Ready.next_stopped (h : Ready data ip containerType bytes r)
    (hregular : Regular data (data.length - bytes.length)) (herr : next.run r = .err .endOfTLV t) :
    Stopped data ip containerType bytes t := by
  obtain ⟨r₁, hskip, hat, hclear⟩ := h
  rw [next, bind_ok hskip, bind_eq_err] at herr
  rcases herr with hread | ⟨_, r₂, hread, hend⟩
  · obtain ⟨rfl, hdrop⟩ := readElement_endOfTLV hat.inBounds hread
    rw [hat.drop_eq] at hdrop
    subst hdrop
    exact .inr ⟨rfl, hat, hclear⟩
  · have htype : r₂.elementType = ElementType.endOfContainer ∧ t = r₂ := by
      rw [gets_bind] at hend
      split at hend
      · cases hend
        exact ⟨‹_›, rfl⟩
      · cases hend
    obtain ⟨htype, rfl⟩ := htype
    rw [← hat.readPoint_eq] at hregular
    rcases hat.decodes hregular hread with hstop | ⟨_, _, _, _, -, -, hhead⟩
    · exact .inl hstop
    · have hlt := hhead.type_lt
      rw [hhead.elementType_eq] at htype
      rw [htype] at hlt
      exact absurd hlt (by decide)

theorem HeadBytes.headEnd_eq_sub (h : HeadBytes data p tag elemType field rest) :
    headEnd data p = data.length - rest.length ∧ headEnd data p ≤ data.length := by
  have hlen := h.length_eq
  omega

theorem HeadBytes.valueEnd_eq {q : Prim}
    (h : HeadBytes data p tag q.elemType q.field (q.payload ++ rest)) :
    valueEnd data p = data.length - rest.length ∧ valueEnd data p ≤ data.length := by
  have hlen := h.length_eq
  rw [List.length_append] at hlen
  unfold valueEnd
  rw [h.typeAt_eq, h.fieldAt_eq]
  rcases q.length_payload with ⟨hlength, hval, -⟩ | ⟨hlength, hnil⟩
  · rw [if_pos hlength, hval]
    omega
  · rw [hlength, if_neg (by decide)]
    rw [hnil, List.length_nil] at hlen
    omega

/-- From a value to the one behind it. -/
theorem HeadBytes.scan_prim {q : Prim}
    (h : HeadBytes data p tag q.elemType q.field (q.payload ++ rest)) :
    Scan data p (data.length - rest.length) 0 := by
  have hlt := q.elemType_lt
  have hvalue : IsValue data p := by
    unfold IsValue
    rw [h.typeAt_eq]
    refine ⟨decide_eq_true (show q.elemType ≤ 0x18 by omega), ?_, fun he => ?_⟩
    · rw [← Bool.not_eq_true, tlvTypeIsContainer_iff]
      omega
    · rw [he] at hlt
      exact absurd hlt (by decide)
  rw [← h.valueEnd_eq.1]
  exact .value .start hvalue h.valueEnd_eq.2

/-- From the head of a container to its first member. -/
theorem HeadBytes.scan_enter {kind : ContainerKind}
    (h : HeadBytes data p tag kind.elemType field rest) :
    Scan data p (data.length - rest.length) 1 := by
  have hcont : tlvTypeIsContainer (typeAt data p) = true := by
    rw [h.typeAt_eq]
    exact kind.elemType_spec.2.1
  rw [← h.headEnd_eq_sub.1]
  exact .enter .start hcont h.headEnd_eq_sub.2

/-- Over the end of a container. -/
theorem HeadBytes.scan_leave {n : Nat} {q : Nat}
    (h : HeadBytes data p tag ElementType.endOfContainer field rest)
    (hscan : Scan data q p (n + 1)) :
    Scan data q (data.length - rest.length) n := by
  rw [← h.headEnd_eq_sub.1]
  exact .leave hscan h.typeAt_eq h.headEnd_eq_sub.2

/-- The last bytes of the buffer, by their number. -/
theorem drop_of_suffix {front tail : List UInt8} (hdrop : data.drop p = front ++ tail) :
    data.drop (data.length - tail.length) = tail := by
  have hsuffix : tail <:+ data := by
    apply List.IsSuffix.trans (List.suffix_append front tail)
    rw [← hdrop]
    exact List.drop_suffix p data
  exact (List.suffix_iff_eq_drop.1 hsuffix).symm

theorem headBytes_end (hdrop : data.drop p = endOfContainer ++ rest) :
    HeadBytes data p .anonymous ElementType.endOfContainer [] rest := ⟨by decide, rfl, hdrop⟩

end

section
variable {usePtr : TLVReader → Bool} (hptr : ∀ r, usePtr r = true → r.readPoint ≠ r.bufEnd)
  {data : List UInt8} {ip : Nat}
include hptr

set_option linter.unusedSectionVars false

mutual

/-- A walk of one element has gone over the encoding of a tree. -/
theorem walkNode_decodes : ∀ (fuel : Nat) {containerType : TLVType} {p : Nat} {tag : Tag}
    {elemType : Nat} {field rest : List UInt8} {r r' : TLVReader} {node : Node},
    HeadBytes data p tag elemType field rest →
    HeadOf data ip containerType tag elemType field rest r → Regular data p →
    (walkNode usePtr fuel).run r = .ok node r' → ∃ (e : Elem) (rest' : List UInt8),
      encodeHead tag elemType field ++ rest = e.encode ++ rest' ∧
      e.wellFormed ip containerType = true ∧ e.node ip = node ∧
      Scan data p (data.length - rest'.length) 0 ∧ Ready data ip containerType rest' r'
  | 0, _, _, _, _, _, _, _, _, _, _, _, _, hrun => by cases hrun
  | fuel + 1, containerType, p, tag, elemType, field, rest, r, r', node, hbytes, hhead, hregular,
      hrun => by
    cases hcont : tlvTypeIsContainer elemType with
    | false =>
      obtain ⟨q, rest', rfl, rfl, rfl, hpos⟩ := hhead.prim hcont
      have hwf : Elem.wellFormed ip containerType (.prim tag q) = true := by
        rw [Elem.wellFormed, hhead.allowed, hhead.profile]
        rfl
      obtain ⟨r₁, hvalue, hready⟩ := hpos.readValue_ok (hptr r) hwf
      rw [walkNode, get_bind, hhead.elementType_eq, hcont, if_neg (by decide), bind_ok hvalue,
        run_pure, hpos.getType_prim, getTag, hhead.elemTag_eq] at hrun
      cases hrun
      refine ⟨.prim tag q, rest', ?_, hwf, ?_, hbytes.scan_prim, hready⟩
      · rw [Elem.encode, List.append_assoc]
      · rw [Elem.node]
    | true =>
      obtain ⟨kind, rfl⟩ := ContainerKind.exists_elemType hcont
      obtain rfl : field = [] := by
        have hnil := (Elem.container tag kind []).length_field
        exact List.eq_nil_of_length_eq_zero (hhead.length_field.trans hnil.symm)
      have hin := hhead.at_rest.left kind.type
      obtain ⟨-, -, -, -, hof, -⟩ := kind.elemType_spec
      have htype : r.getType = kind.type := by
        rw [getType_eq, hhead.elementType_eq]
        exact kind.typeOf_eq
      rw [walkNode, get_bind, hhead.elementType_eq, hcont, if_pos rfl,
        bind_ok (enterContainer_run (by rw [hhead.elementType_eq]; exact hcont)),
        hhead.elementType_eq, hof] at hrun
      obtain ⟨nodes, r₂, hmembers, hrun⟩ := bind_eq_ok.1 hrun
      obtain ⟨_, r₃, hexit, hrun⟩ := bind_eq_ok.1 hrun
      rw [run_pure, htype, getTag, hhead.elemTag_eq] at hrun
      cases hrun
      obtain ⟨es, tail, rfl, hwf, rfl, hscan, hstop⟩ := walkMembers_decodes fuel
        (hin.ready (cleared_clearElementState _)) (hregular.scan hbytes.scan_enter) hmembers
      obtain ⟨rest', rfl, hat, hclear⟩ := hstop.exit hexit
      have hend := headBytes_end (drop_of_suffix hbytes.drop_headEnd)
      refine ⟨.container tag kind es, rest', ?_, ?_, ?_, ?_, ?_⟩
      · rw [Elem.encode, List.append_assoc, List.append_assoc]
      · rw [Elem.wellFormed, hhead.allowed, hhead.profile, hwf]
        rfl
      · rw [Elem.node]
      · exact hend.scan_leave (hbytes.scan_enter.trans hscan)
      · rw [hhead.at_rest.containerType_eq] at hat
        exact hat.ready hclear

/-- A walk of members has gone over the encoding of a forest, up to an end. -/
theorem walkMembers_decodes : ∀ (fuel : Nat) {containerType : TLVType} {bytes : List UInt8}
    {r r' : TLVReader} {nodes : List Node}, Ready data ip containerType bytes r →
    Regular data (data.length - bytes.length) →
    (walkMembers usePtr fuel).run r = .ok nodes r' → ∃ (es : List Elem) (tail : List UInt8),
      bytes = encodeMembers es ++ tail ∧ membersWellFormed ip containerType es = true ∧
      memberNodes ip es = nodes ∧
      Scan data (data.length - bytes.length) (data.length - tail.length) 0 ∧
      Stopped data ip containerType tail r'
  | 0, _, _, _, _, _, _, _, hrun => by cases hrun
  | fuel + 1, containerType, bytes, r, r', nodes, hready, hregular, hrun => by
    rw [walkMembers] at hrun
    obtain ⟨result, r₁, hattempt, hrun⟩ := bind_eq_ok.1 hrun
    rcases attempt_eq_ok.1 hattempt with ⟨_, rfl, hnext⟩ | ⟨e, rfl, hnext⟩
    · obtain ⟨tag, elemType, field, rest, rfl, hbytes, hhead⟩ := hready.next_ok hregular hnext
      obtain ⟨node, r₂, hnode, hrun⟩ := bind_eq_ok.1 hrun
      obtain ⟨nodes', r₃, hmembers, hrun⟩ := bind_eq_ok.1 hrun
      cases hrun
      obtain ⟨e, rest', hencode, hwf, rfl, hscan, hready'⟩ :=
        walkNode_decodes fuel hbytes hhead hregular hnode
      obtain ⟨es, tail, rfl, hwfs, rfl, hscans, hstop⟩ :=
        walkMembers_decodes fuel hready' (hregular.scan hscan) hmembers
      refine ⟨e :: es, tail, ?_, ?_, ?_, hscan.trans hscans, hstop⟩
      · rw [encodeMembers_cons, List.append_assoc]
        exact hencode
      · rw [membersWellFormed, hwf, hwfs]
        rfl
      · rw [memberNodes]
    · cases e <;> cases hrun
      exact ⟨[], bytes, rfl, rfl, rfl, .start, hready.next_stopped hregular hnext⟩

end

end

/-! ## The heads of an encoding -/

/-- What is left of an encoding inside `n` containers. -/
def OpenBytes (ip : Nat) : Nat → List UInt8 → Prop
  | 0, bytes => ∃ containerType es, membersWellFormed ip containerType es = true ∧
      bytes = encodeMembers es
  | n + 1, bytes => ∃ containerType es rest, membersWellFormed ip containerType es = true ∧
      bytes = encodeMembers es ++ (endOfContainer ++ rest) ∧ OpenBytes ip n rest

section
variable {data bytes : List UInt8} {ip n p q : Nat}

/-- The ways in which it goes on: not at all, with an element, or with the end of a container. -/
theorem OpenBytes.cases (h : OpenBytes ip n bytes) :
    bytes = [] ∧ n = 0 ∨
      (∃ containerType, ∃ e : Elem, ∃ rest, e.wellFormed ip containerType = true ∧
        bytes = e.encode ++ rest ∧ OpenBytes ip n rest) ∨
      ∃ m rest, n = m + 1 ∧ bytes = endOfContainer ++ rest ∧ OpenBytes ip m rest := by
  cases n with
  | zero =>
    obtain ⟨containerType, es, hwf, rfl⟩ := h
    cases es with
    | nil => exact .inl ⟨rfl, rfl⟩
    | cons e es =>
      rw [membersWellFormed, Bool.and_eq_true] at hwf
      rw [encodeMembers_cons]
      exact .inr (.inl ⟨containerType, e, _, hwf.1, rfl, containerType, es, hwf.2, rfl⟩)
  | succ m =>
    obtain ⟨containerType, es, rest, hwf, rfl, hrest⟩ := h
    cases es with
    | nil => exact .inr (.inr ⟨m, rest, rfl, rfl, hrest⟩)
    | cons e es =>
      rw [membersWellFormed, Bool.and_eq_true] at hwf
      rw [encodeMembers_cons, List.append_assoc]
      exact .inr (.inl ⟨containerType, e, _, hwf.1, rfl, containerType, es, rest, hwf.2, rfl,
        hrest⟩)

theorem headBytes_elem {e : Elem} {rest : List UInt8} (hdrop : data.drop p = e.encode ++ rest) :
    HeadBytes data p e.tag e.elemType e.field (e.body ++ rest) := by
  have hlt := e.elemType_lt
  rw [Elem.encode_eq, List.append_assoc] at hdrop
  exact ⟨by omega, e.length_field, hdrop⟩

/-- A scan of an encoding stays on the heads of its elements. -/
theorem Scan.openBytes (h : Scan data p q n) (hopen : OpenBytes ip 0 (data.drop p)) :
    OpenBytes ip n (data.drop q) := by
  induction h with
  | start => exact hopen
  | @value q n hscan hvalue hfit ih =>
    rcases ih.cases with ⟨hnil, -⟩ | ⟨containerType, e, rest, hwf, hbytes, hrest⟩ |
      ⟨m, rest, -, hbytes, hrest⟩
    · have hlt := lt_headEnd data q
      have hle := headEnd_le_valueEnd data q
      rw [List.drop_eq_nil_iff] at hnil
      omega
    · have hhead := headBytes_elem hbytes
      have hcont := hvalue.2.1
      rw [hhead.typeAt_eq] at hcont
      cases e with
      | prim tag p =>
        have hend := HeadBytes.valueEnd_eq hhead
        rw [hend.1, drop_of_suffix hhead.drop_headEnd]
        exact hrest
      | container tag kind members =>
        rw [show (Elem.container tag kind members).elemType = kind.elemType from rfl,
          kind.elemType_spec.2.1] at hcont
        cases hcont
    · exact absurd (headBytes_end hbytes).typeAt_eq hvalue.2.2
  | @enter q n hscan hcont hfit ih =>
    rcases ih.cases with ⟨hnil, -⟩ | ⟨containerType, e, rest, hwf, hbytes, hrest⟩ |
      ⟨m, rest, -, hbytes, hrest⟩
    · have hlt := lt_headEnd data q
      rw [List.drop_eq_nil_iff] at hnil
      omega
    · have hhead := headBytes_elem hbytes
      rw [hhead.typeAt_eq] at hcont
      cases e with
      | prim tag p =>
        have hlt := p.elemType_lt
        rw [show (Elem.prim tag p).elemType = p.elemType from rfl, tlvTypeIsContainer_iff] at hcont
        omega
      | container tag kind members =>
        rw [Elem.wellFormed, Bool.and_eq_true] at hwf
        rw [hhead.drop_headEnd, Elem.body, List.append_assoc]
        exact ⟨kind.type, members, rest, hwf.2, rfl, hrest⟩
    · rw [(headBytes_end hbytes).typeAt_eq] at hcont
      exact absurd hcont (by decide)
  | @leave q n hscan hend hfit ih =>
    rcases ih.cases with ⟨-, hzero⟩ | ⟨containerType, e, rest, -, hbytes, -⟩ |
      ⟨m, rest, hm, hbytes, hrest⟩
    · cases hzero
    · have hlt := e.elemType_lt
      rw [(headBytes_elem hbytes).typeAt_eq] at hend
      rw [hend] at hlt
      exact absurd hlt (by decide)
    · cases hm
      rw [(headBytes_end hbytes).drop_headEnd]
      exact hrest

theorem OpenBytes.plain (h : OpenBytes ip n (data.drop p)) (hlt : p < data.length) :
    Plain data p := by
  rcases h.cases with ⟨hnil, -⟩ | ⟨containerType, e, rest, hwf, hbytes, -⟩ |
    ⟨m, rest, -, hbytes, -⟩
  · rw [List.drop_eq_nil_iff] at hnil
    omega
  · have hhead := headBytes_elem hbytes
    refine ⟨fun hlen => ?_, hhead.profile_ne_iff.2 ?_⟩
    · rw [hhead.typeAt_eq] at hlen
      rw [hhead.fieldAt_eq]
      cases e with
      | prim tag p =>
        rcases p.length_payload with ⟨-, hval, hshort⟩ | ⟨hnone, -⟩
        · show LE.value p.field < 2 ^ 32
          rw [hval]
          exact hshort
        · exact absurd (hnone.symm.trans hlen) (by simp)
      | container tag kind members =>
        exact absurd (kind.elemType_spec.2.2.1.symm.trans hlen) (by simp)
    · exact (Tag.profileSpecified_iff.1 (Elem.wellFormed_tag hwf).2).2
  · have hhead := headBytes_end hbytes
    refine ⟨fun hlen => ?_, hhead.profile_ne_iff.2 fun hle => ?_⟩
    · rw [hhead.typeAt_eq] at hlen
      exact absurd hlen (by decide)
    · exact absurd hle (by decide)

/-- The heads of an encoding are plain. -/
theorem regular_encodeMembers {containerType : TLVType} {es : List Elem}
    (hwf : membersWellFormed ip containerType es = true) : Regular (encodeMembers es) 0 := by
  intro q n hscan hlt
  have hopen : OpenBytes ip 0 ((encodeMembers es).drop 0) := ⟨containerType, es, hwf, rfl⟩
  exact (hscan.openBytes hopen).plain hlt

end

/-- The walk accepts exactly the encodings, each as that of one forest, and the buffers with heads
that no encoder writes. -/
theorem walk_accepts_iff (ip : Nat) (hip : ip < 2 ^ 32) (usePtr : TLVReader → Bool)
    (hptr : ∀ r, usePtr r = true → r.readPoint ≠ r.bufEnd) (data : List UInt8)
    (hlen : data.length < 2 ^ 32) (nodes : List Node) :
    (∃ r, (walk usePtr).run { init data data.length with implicitProfileId := ip } =
        .ok nodes r) ∧ Regular data 0 ↔
      ∃! es : List Elem, membersWellFormed ip .notSpecified es = true ∧
        encodeMembers es = data ∧ memberNodes ip es = nodes := by
  have hat : At data ip .notSpecified data
      { init data data.length with implicitProfileId := ip } :=
    ⟨(InBounds.init hlen).congr rfl rfl rfl rfl rfl, rfl, hip, rfl, rfl⟩
  have hready := hat.ready (if_pos rfl)
  have hunread := hat.unread_eq
  have hwalk : (walk usePtr).run { init data data.length with implicitProfileId := ip } =
      (walkMembers usePtr (data.length + 1)).run
        { init data data.length with implicitProfileId := ip } := by
    rw [walk, get_bind, hunread]
  rw [hwalk]
  constructor
  · rintro ⟨⟨r, hrun⟩, hregular⟩
    rw [← Nat.sub_self data.length] at hregular
    obtain ⟨es, tail, hdata, hwf, hnodes, -, hstop⟩ :=
      walkMembers_decodes hptr _ hready hregular hrun
    have hnil : tail = [] := by
      rcases hstop with ⟨-, -, hne, -⟩ | ⟨hnil, -⟩
      · exact absurd rfl hne
      · exact hnil
    rw [hnil, List.append_nil] at hdata
    exact ⟨es, ⟨hwf, hdata.symm, hnodes⟩, fun es' h =>
      encodeMembers_injective (h.2.1.trans hdata)⟩
  · rintro ⟨es, ⟨hwf, rfl, rfl⟩, -⟩
    have hready' : Ready (encodeMembers es) ip .notSpecified (encodeMembers es ++ [])
        { init (encodeMembers es) (encodeMembers es).length with implicitProfileId := ip } := by
      rw [List.append_nil]
      exact hready
    obtain ⟨r, hrun, -⟩ := walk_members hptr es hready' hwf (.inr ⟨rfl, rfl⟩)
      (Nat.lt_succ_self _)
    exact ⟨⟨r, hrun⟩, regular_encodeMembers hwf⟩

theorem walk_accepts_iff_sample :
    (0 < 2 ^ 32 ∧
      (∀ r : TLVReader, decide (r.readPoint ≠ r.bufEnd) = true → r.readPoint ≠ r.bufEnd) ∧
      (encodeMembers [sampleTree]).length < 2 ^ 32) ∧
    ((∃ r, (walk fun r => decide (r.readPoint ≠ r.bufEnd)).run
        { init (encodeMembers [sampleTree]) (encodeMembers [sampleTree]).length with
          implicitProfileId := 0 } = .ok (memberNodes 0 [sampleTree]) r) ∧
        Regular (encodeMembers [sampleTree]) 0 ↔
      ∃! es : List Elem, membersWellFormed 0 .notSpecified es = true ∧
        encodeMembers es = encodeMembers [sampleTree] ∧
        memberNodes 0 es = memberNodes 0 [sampleTree]) :=
  ⟨⟨by decide, fun _ h => of_decide_eq_true h, by decide⟩,
    walk_accepts_iff 0 (by decide) _ (fun _ h => of_decide_eq_true h)
      (encodeMembers [sampleTree]) (by decide) (memberNodes 0 [sampleTree])⟩

end Matter.TLV
