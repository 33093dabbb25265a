import MatterDissector.TLV.Encoding
import MatterDissector.TLV.Proof.ReaderSpec

/-!
# The reader at an encoded element

`At` is a reader in front of given bytes, `Positioned` one behind the head of an element. From the
first, `ReadElement` leads to the second (`At.readElement_ok`); the end of a container and the end
of the buffer are recognised (`At.readEnd`, `At.readEmpty`).
-/

namespace Matter.TLV

open Prog TLVReader

/-! ## The control byte -/

theorem control_bits : ∀ c ∈ [0x00, 0x20, 0x40, 0x60, 0x80, 0xA0, 0xC0, 0xE0], ∀ t : Fin 25,
    c ||| (t : Nat) < 256 ∧ (c ||| (t : Nat)) &&& typeMask = t ∧
      (c ||| (t : Nat)) &&& tagControlMask = c := by
  decide +kernel

namespace Tag

theorem control_mem (tag : Tag) :
    tag.control ∈ [0x00, 0x20, 0x40, 0x60, 0x80, 0xA0, 0xC0, 0xE0] := by
  cases tag <;> simp [control]

section
variable (tag : Tag) {elemType : Nat} (h : elemType < 25)
include h

theorem control_or_lt : tag.control ||| elemType < 256 :=
  (control_bits _ tag.control_mem ⟨elemType, h⟩).1

@[simp] theorem control_or_typeMask : (tag.control ||| elemType) &&& typeMask = elemType :=
  (control_bits _ tag.control_mem ⟨elemType, h⟩).2.1

@[simp] theorem control_or_tagControlMask :
    (tag.control ||| elemType) &&& tagControlMask = tag.control :=
  (control_bits _ tag.control_mem ⟨elemType, h⟩).2.2

theorem control_toNat :
    (UInt8.ofNat (tag.control ||| elemType)).toNat = tag.control ||| elemType := by
  have := tag.control_or_lt h
  simp only [UInt8.toNat_ofNat']
  omega

theorem tagFieldSize_eq : tagFieldSize (tag.control ||| elemType) = tag.field.length := by
  rw [tagFieldSize, tag.control_or_tagControlMask h]
  cases tag <;> simp [field, control] <;> decide

theorem valueFieldSize_eq :
    valueFieldSize (tag.control ||| elemType) = tlvFieldSizeToBytes (getTLVFieldSize elemType) := by
  rw [valueFieldSize, tag.control_or_typeMask h]

end

/-- The tag field is decoded to the tag. -/
theorem decodeTag_field {tag : Tag} {ip control : Nat} (rest : List UInt8)
    (hcontrol : control &&& tagControlMask = tag.control)
    (hprofile : tag.profileSpecified ip = true) :
    decodeTag ip control (tag.field ++ rest) = (tag.value ip, tag.field.length) := by
  unfold decodeTag
  rw [hcontrol]
  cases tag with
  | anonymous => rfl
  | context num =>
    have hnum := num.isLt
    show (contextTag (LE.value ((LE.bytes 1 num.toNat ++ rest).take 1)), 1) = _
    rw [LE.value_take_bytes (by omega)]
    rfl
  | common2 num =>
    have hnum := num.isLt
    show (commonTag (LE.value ((LE.bytes 2 num.toNat ++ rest).take 2)), 2) = _
    rw [LE.value_take_bytes (by omega)]
    rfl
  | common4 num =>
    have hnum := num.isLt
    show (commonTag (LE.value ((LE.bytes 4 num.toNat ++ rest).take 4)), 4) = _
    rw [LE.value_take_bytes (by omega)]
    rfl
  | implicit2 num =>
    have hnum := num.isLt
    have hip : ip ≠ profileIdNotSpecified := by simpa [profileSpecified] using hprofile
    show (if ip = profileIdNotSpecified then (unknownImplicitTag, 0)
      else (profileTag ip (LE.value ((LE.bytes 2 num.toNat ++ rest).take 2)), 2)) = _
    rw [if_neg hip, LE.value_take_bytes (by omega)]
    rfl
  | implicit4 num =>
    have hnum := num.isLt
    have hip : ip ≠ profileIdNotSpecified := by simpa [profileSpecified] using hprofile
    show (if ip = profileIdNotSpecified then (unknownImplicitTag, 0)
      else (profileTag ip (LE.value ((LE.bytes 4 num.toNat ++ rest).take 4)), 4)) = _
    rw [if_neg hip, LE.value_take_bytes (by omega)]
    rfl
  | full6 vendor profile num =>
    have hv := vendor.isLt; have hp := profile.isLt; have hn := num.isLt
    show (vendorProfileTag (LE.value ((field (.full6 vendor profile num) ++ rest).take 2))
      (LE.value (((field (.full6 vendor profile num) ++ rest).drop 2).take 2))
      (LE.value (((field (.full6 vendor profile num) ++ rest).drop 4).take 2)), 6) = _
    rw [show (4 : Nat) = 2 + 2 from rfl, ← List.drop_drop, field, List.append_assoc,
      List.append_assoc, LE.value_take_bytes (by omega), LE.drop_bytes,
      LE.value_take_bytes (by omega), LE.drop_bytes, LE.value_take_bytes (by omega)]
    rfl
  | full8 vendor profile num =>
    have hv := vendor.isLt; have hp := profile.isLt; have hn := num.isLt
    show (vendorProfileTag (LE.value ((field (.full8 vendor profile num) ++ rest).take 2))
      (LE.value (((field (.full8 vendor profile num) ++ rest).drop 2).take 2))
      (LE.value (((field (.full8 vendor profile num) ++ rest).drop (2 + 2)).take 4)), 8) = _
    rw [← List.drop_drop, field, List.append_assoc,
      List.append_assoc, LE.value_take_bytes (by omega), LE.drop_bytes,
      LE.value_take_bytes (by omega), LE.drop_bytes, LE.value_take_bytes (by omega)]
    rfl

/-- The three kinds of 64-bit tags. -/
theorem value_cases {tag : Tag} {ip : Nat} (hip : ip < 2 ^ 32)
    (hprofile : tag.profileSpecified ip = true) :
    tag = .anonymous ∨
      (∃ num, tag = .context num ∧ tag.value ip = 0xFFFFFFFF * 2 ^ 32 + num.toNat) ∨
      (tag.isAnonymous = false ∧ tag.isContext = false ∧ tag.value ip < 2 ^ 64 ∧
        tag.value ip / 2 ^ 32 ≠ 0xFFFFFFFF) := by
  have hvendor : ∀ vendor profile : BitVec 16, (vendor == 0xFFFF && profile == 0xFFFF) = false →
      vendor.toNat * 2 ^ 16 + profile.toNat ≠ 0xFFFFFFFF := by
    intro vendor profile hne heq
    have hp := profile.isLt; have hv := vendor.isLt
    have h1 : vendor = 0xFFFF := BitVec.eq_of_toNat_eq (by simp; omega)
    have h2 : profile = 0xFFFF := BitVec.eq_of_toNat_eq (by simp; omega)
    rw [h1, h2] at hne
    exact absurd hne (by decide)
  cases tag with
  | anonymous => exact .inl rfl
  | context num =>
    have hnum := num.isLt
    exact .inr (.inl ⟨num, rfl, contextTag_eq (by omega)⟩)
  | common2 num =>
    have hnum := num.isLt
    have hval : value ip (.common2 num) = num.toNat := commonTag_eq (by omega)
    exact .inr (.inr ⟨rfl, rfl, by rw [hval]; omega, by rw [hval]; omega⟩)
  | common4 num =>
    have hnum := num.isLt
    have hval : value ip (.common4 num) = num.toNat := commonTag_eq (by omega)
    exact .inr (.inr ⟨rfl, rfl, by rw [hval]; omega, by rw [hval]; omega⟩)
  | implicit2 num =>
    have hnum := num.isLt
    have hne : ip ≠ 0xFFFFFFFF := by simpa [profileSpecified, profileIdNotSpecified] using hprofile
    have hval : value ip (.implicit2 num) = ip * 2 ^ 32 + num.toNat := profileTag_eq (by omega)
    exact .inr (.inr ⟨rfl, rfl, by rw [hval]; omega, by rw [hval]; omega⟩)
  | implicit4 num =>
    have hnum := num.isLt
    have hne : ip ≠ 0xFFFFFFFF := by simpa [profileSpecified, profileIdNotSpecified] using hprofile
    have hval : value ip (.implicit4 num) = ip * 2 ^ 32 + num.toNat := profileTag_eq (by omega)
    exact .inr (.inr ⟨rfl, rfl, by rw [hval]; omega, by rw [hval]; omega⟩)
  | full6 vendor profile num =>
    have hv := vendor.isLt; have hp := profile.isLt; have hn := num.isLt
    have hne := hvendor vendor profile (by
      rw [profileSpecified, Bool.not_eq_true'] at hprofile; exact hprofile)
    have hval : value ip (.full6 vendor profile num) = _ :=
      vendorProfileTag_eq (v := vendor.toNat) hp (by omega)
    exact .inr (.inr ⟨rfl, rfl, by rw [hval]; omega, by rw [hval]; omega⟩)
  | full8 vendor profile num =>
    have hv := vendor.isLt; have hp := profile.isLt; have hn := num.isLt
    have hne := hvendor vendor profile (by
      rw [profileSpecified, Bool.not_eq_true'] at hprofile; exact hprofile)
    have hval : value ip (.full8 vendor profile num) = _ :=
      vendorProfileTag_eq (v := vendor.toNat) hp hn
    exact .inr (.inr ⟨rfl, rfl, by rw [hval]; omega, by rw [hval]; omega⟩)

section
variable {tag : Tag} {ip : Nat} (hip : ip < 2 ^ 32) (hprofile : tag.profileSpecified ip = true)
include hip hprofile

theorem value_ne_unknownImplicit : tag.value ip ≠ unknownImplicitTag := by
  rw [unknownImplicitTag_eq]
  rcases value_cases hip hprofile with rfl | ⟨num, -, hval⟩ | ⟨-, -, hlt, hne⟩
  · show anonymousTag ≠ _
    decide
  · have := num.isLt; omega
  · omega

theorem value_eq_anonymous : tag.value ip = anonymousTag ↔ tag.isAnonymous = true := by
  rcases value_cases hip hprofile with rfl | ⟨num, rfl, hval⟩ | ⟨hanon, -, hlt, hne⟩
  · exact iff_of_true rfl rfl
  · have := num.isLt
    refine iff_of_false (fun h => ?_) (by simp [isAnonymous])
    rw [anonymousTag_eq] at h
    omega
  · refine iff_of_false (fun h => ?_) (by simp [hanon])
    rw [anonymousTag_eq] at h
    omega

theorem isContextTag_value : isContextTag (tag.value ip) = tag.isContext := by
  rcases value_cases hip hprofile with rfl | ⟨num, rfl, hval⟩ | ⟨-, hctx, hlt, hne⟩
  · show isContextTag anonymousTag = false
    decide
  · have := num.isLt
    exact (isContextTag_iff (by omega)).2 (by omega)
  · rw [hctx, ← Bool.not_eq_true]
    exact fun h => hne ((isContextTag_iff hlt).1 h).1

/-- A tag that is allowed in a container passes the check of its element. -/
theorem verifyTag_value {containerType : TLVType} (hallowed : tag.allowedIn containerType = true) :
    verifyTag containerType (tag.value ip) = .ok () := by
  have hanon := value_eq_anonymous hip hprofile
  unfold verifyTag
  rw [if_neg (value_ne_unknownImplicit hip hprofile)]
  cases containerType with
  | notSpecified =>
    have hctx : tag.isContext = false := by simpa [allowedIn] using hallowed
    dsimp only
    rw [isContextTag_value hip hprofile, hctx, if_neg (by simp)]
  | struct | path =>
    have : tag.isAnonymous = false := by simpa [allowedIn] using hallowed
    exact if_neg fun h => by rw [hanon.1 h] at this; cases this
  | array => exact if_neg (not_not.2 (hanon.2 hallowed))
  | unknownContainer => rfl
  | _ => cases hallowed

end

end Tag

/-! ## In front of an element -/

/-- The reader of `data` in a container of type `containerType`, in front of `bytes`. -/
structure At (data : List UInt8) (ip : Nat) (containerType : TLVType) (bytes : List UInt8)
    (r : TLVReader) : Prop where
  inBounds : InBounds data r
  implicitProfileId_eq : r.implicitProfileId = ip
  implicitProfileId_lt : ip < 2 ^ 32
  containerType_eq : r.containerType = containerType
  drop_eq : data.drop r.readPoint = bytes

section
variable {data bytes rest : List UInt8} {ip : Nat} {containerType : TLVType} {r : TLVReader}

theorem At.unread_eq (h : At data ip containerType bytes r) : r.unread = bytes.length := by
  rw [h.inBounds.unread_eq, ← h.drop_eq, List.length_drop]

/-- The element state is no part of `At`. -/
theorem At.withHead (h : At data ip containerType bytes r) (hd : Head) :
    At data ip containerType bytes (r.withHead hd) where
  inBounds := h.inBounds.congr rfl rfl rfl rfl rfl
  implicitProfileId_eq := h.implicitProfileId_eq
  implicitProfileId_lt := h.implicitProfileId_lt
  containerType_eq := h.containerType_eq
  drop_eq := h.drop_eq

theorem At.clear (h : At data ip containerType bytes r) :
    At data ip containerType bytes r.clearElementState :=
  h.withHead ⟨controlByteNotSpecified, anonymousTag, 0⟩

theorem At.advance {front : List UInt8} (h : At data ip containerType (front ++ rest) r) :
    At data ip containerType rest (r.advance front.length) where
  inBounds := h.inBounds.advance (by rw [h.unread_eq, List.length_append]; omega)
  implicitProfileId_eq := h.implicitProfileId_eq
  implicitProfileId_lt := h.implicitProfileId_lt
  containerType_eq := h.containerType_eq
  drop_eq := by rw [readPoint_advance, ← List.drop_drop, h.drop_eq, List.drop_left]

/-- The head in front of the reader, before its check. -/
theorem At.readElement_head {tag : Tag} {elemType : Nat} {field : List UInt8}
    (h : At data ip containerType (encodeHead tag elemType field ++ rest) r)
    (htype : elemType < 25) (hprofile : tag.profileSpecified ip = true)
    (hfield : field.length = tlvFieldSizeToBytes (getTLVFieldSize elemType)) :
    readElement.run r = verifyElement.run
      ((r.advance (encodeHead tag elemType field).length).withHead
        ⟨tag.control ||| elemType, tag.value ip, LE.value field⟩) := by
  have hcontrol := tag.control_toNat htype
  have hvalid : isValidTLVType elemType = true := decide_eq_true (show elemType ≤ 0x18 by omega)
  have hsize : headSize (tag.control ||| elemType) = (encodeHead tag elemType field).length := by
    rw [headSize, tag.tagFieldSize_eq htype, tag.valueFieldSize_eq htype, ← hfield, encodeHead,
      List.length_cons, List.length_append]
    omega
  have hhead : decodeHead r.implicitProfileId (encodeHead tag elemType field ++ rest) =
      ⟨tag.control ||| elemType, tag.value ip, LE.value field⟩ := by
    have htag := Tag.decodeTag_field (field ++ rest) (tag.control_or_tagControlMask htype) hprofile
    rw [h.implicitProfileId_eq, encodeHead, List.cons_append, List.append_assoc, decodeHead,
      List.headD_cons, hcontrol, List.drop_succ_cons, List.drop_zero, htag, Nat.add_comm 1,
      List.drop_succ_cons,
      List.drop_left, tag.valueFieldSize_eq htype, ← hfield, List.take_left]
  rw [readElement_eq h.inBounds, h.drop_eq, h.unread_eq, encodeHead, List.cons_append]
  dsimp only
  rw [hcontrol, tag.control_or_typeMask htype, hvalid, hsize, if_neg (by simp), if_neg ?_]
  · rw [← List.cons_append, ← encodeHead, hhead]
  · rw [← List.cons_append, ← encodeHead, List.length_append]; omega

end

/-! ## Elements -/

theorem Width.code_lt (w : Width) : w.code < 4 := by
  cases w <;> decide

theorem Prim.elemType_lt (p : Prim) : p.elemType < 0x15 := by
  cases p with
  | sint w v => have := w.code_lt; show 0 + w.code < 0x15; omega
  | uint w v => have := w.code_lt; show 4 + w.code < 0x15; omega
  | bool b =>
    have : ∀ b, (Prim.bool b).elemType < 0x15 := by decide
    exact this b
  | float32 v => show (0x0A : Nat) < 0x15; decide
  | float64 v => show (0x0B : Nat) < 0x15; decide
  | utf8 w s => have := w.code_lt; show 0x0C + w.code < 0x15; omega
  | bytes w s => have := w.code_lt; show 0x10 + w.code < 0x15; omega
  | null => show (0x14 : Nat) < 0x15; decide

theorem Width.fieldSize_eq (w : Width) :
    tlvFieldSizeToBytes (getTLVFieldSize (ElementType.int8 + w.code)) = w.bytes ∧
      tlvFieldSizeToBytes (getTLVFieldSize (ElementType.uint8 + w.code)) = w.bytes ∧
      tlvFieldSizeToBytes (getTLVFieldSize (ElementType.utf8StringOneByteLength + w.code)) =
        w.bytes ∧
      tlvFieldSizeToBytes (getTLVFieldSize (0x10 + w.code)) = w.bytes := by
  cases w <;> decide

/-- The field of a value has the size that its type announces. -/
theorem Prim.length_field (p : Prim) :
    p.field.length = tlvFieldSizeToBytes (getTLVFieldSize p.elemType) := by
  cases p with
  | sint w v => exact (LE.length_bytes _ _).trans w.fieldSize_eq.1.symm
  | uint w v => exact (LE.length_bytes _ _).trans w.fieldSize_eq.2.1.symm
  | bool b =>
    have : ∀ b, (Prim.bool b).field.length =
      tlvFieldSizeToBytes (getTLVFieldSize (Prim.bool b).elemType) := by decide
    exact this b
  | float32 v =>
    have : tlvFieldSizeToBytes (getTLVFieldSize ElementType.floatingPointNumber32) = 4 := by decide
    exact (LE.length_bytes _ _).trans this.symm
  | float64 v =>
    have : tlvFieldSizeToBytes (getTLVFieldSize ElementType.floatingPointNumber64) = 8 := by decide
    exact (LE.length_bytes _ _).trans this.symm
  | utf8 w s => exact (LE.length_bytes _ _).trans w.fieldSize_eq.2.2.1.symm
  | bytes w s => exact (LE.length_bytes _ _).trans w.fieldSize_eq.2.2.2.symm
  | null => decide

theorem Width.hasLength_eq (w : Width) :
    tlvTypeHasLength (ElementType.int8 + w.code) = false ∧
      tlvTypeHasLength (ElementType.uint8 + w.code) = false ∧
      tlvTypeHasLength (ElementType.utf8StringOneByteLength + w.code) = true ∧
      tlvTypeHasLength (0x10 + w.code) = true := by
  cases w <;> decide

/-- Only a string has a length: that of its bytes. -/
theorem Prim.length_payload (p : Prim) :
    (tlvTypeHasLength p.elemType = true ∧ LE.value p.field = p.payload.length ∧
        p.payload.length < 2 ^ 32) ∨
      (tlvTypeHasLength p.elemType = false ∧ p.payload = []) := by
  cases p with
  | sint w v => exact .inr ⟨w.hasLength_eq.1, rfl⟩
  | uint w v => exact .inr ⟨w.hasLength_eq.2.1, rfl⟩
  | bool b => exact .inr ⟨by cases b <;> decide, rfl⟩
  | float32 v => exact .inr ⟨rfl, rfl⟩
  | float64 v => exact .inr ⟨rfl, rfl⟩
  | utf8 w s => exact .inl ⟨w.hasLength_eq.2.2.1, LE.value_bytes s.fits, s.lt_buffer⟩
  | bytes w s => exact .inl ⟨w.hasLength_eq.2.2.2, LE.value_bytes s.fits, s.lt_buffer⟩
  | null => exact .inr ⟨rfl, rfl⟩

theorem ContainerKind.elemType_spec (kind : ContainerKind) :
    kind.elemType < 24 ∧ tlvTypeIsContainer kind.elemType = true ∧
      tlvTypeHasLength kind.elemType = false ∧ tlvTypeHasValue kind.elemType = false ∧
      TLVType.ofElementType kind.elemType = kind.type ∧ kind.type ≠ .notSpecified := by
  cases kind <;> decide

theorem Elem.elemType_lt (e : Elem) : e.elemType < 24 := by
  cases e with
  | prim tag p => have := p.elemType_lt; show p.elemType < 24; omega
  | container tag kind members => exact kind.elemType_spec.1

theorem Elem.length_field (e : Elem) :
    e.field.length = tlvFieldSizeToBytes (getTLVFieldSize e.elemType) := by
  cases e with
  | prim tag p => exact p.length_field
  | container tag kind members => cases kind <;> rfl

/-- The reader behind the head of `e`, which `ReadElement` has just read. -/
structure Positioned (data : List UInt8) (ip : Nat) (containerType : TLVType) (e : Elem)
    (rest : List UInt8) (r : TLVReader) : Prop where
  at_body : At data ip containerType (e.body ++ rest) r
  controlByte_eq : r.controlByte = e.tag.control ||| e.elemType
  elemTag_eq : r.elemTag = e.tag.value ip
  elemLenOrVal_eq : r.elemLenOrVal = LE.value e.field

section
variable {data bytes rest : List UInt8} {ip : Nat} {containerType : TLVType} {r : TLVReader}
  {e : Elem}

theorem elementType_of_control_or {tag : Tag} {elemType : Nat} (h : elemType < 25)
    (hr : r.controlByte = tag.control ||| elemType) : r.elementType = elemType := by
  have hlt := tag.control_or_lt h
  rw [elementType, hr, if_neg (by unfold controlByteNotSpecified; omega),
    tag.control_or_typeMask h]

theorem Positioned.elementType_eq (h : Positioned data ip containerType e rest r) :
    r.elementType = e.elemType := by
  have := e.elemType_lt
  exact elementType_of_control_or (by omega) h.controlByte_eq

/-- `VerifyElement` in a state that passes its checks. -/
theorem verifyElement_ok (htag : verifyTag r.containerType r.elemTag = .ok ())
    (htype : r.elementType ≠ ElementType.endOfContainer)
    (hlen : tlvTypeHasLength r.elementType = true →
      r.elemLenOrVal % 2 ^ 32 ≤ sub32 r.maxLen r.lenRead) : verifyElement.run r = .ok () r := by
  rw [verifyElement, get_bind]
  dsimp only
  rw [if_neg htype, htag]
  dsimp only
  rw [if_neg (fun h => by have := hlen h.1; omega)]
  rfl

theorem verifyElement_end (htype : r.elementType = ElementType.endOfContainer)
    (htag : r.elemTag = anonymousTag) (hcontainer : r.containerType ≠ .notSpecified) :
    verifyElement.run r = .ok () r := by
  rw [verifyElement, get_bind]
  dsimp only
  rw [if_pos htype, if_neg hcontainer, if_neg (not_not.2 htag)]
  dsimp only
  rw [if_neg (fun hlen => by rw [htype] at hlen; exact absurd hlen.1 (by decide))]
  rfl

/-- The element that was read passes its checks. -/
theorem Positioned.verified (h : Positioned data ip containerType e rest r)
    (hallowed : e.tag.allowedIn containerType = true)
    (hprofile : e.tag.profileSpecified ip = true) : verifyElement.run r = .ok () r := by
  have htype := e.elemType_lt
  refine verifyElement_ok ?_ ?_ fun hlen => ?_
  · rw [h.at_body.containerType_eq, h.elemTag_eq]
    exact Tag.verifyTag_value h.at_body.implicitProfileId_lt hprofile hallowed
  · rw [h.elementType_eq]
    exact fun he => by rw [he] at htype; exact absurd htype (by decide)
  · rw [h.elementType_eq] at hlen
    have hun := h.at_body.unread_eq
    rw [h.at_body.inBounds.sub32_maxLen, hun, h.elemLenOrVal_eq, List.length_append]
    cases e with
    | prim tag p =>
      obtain ⟨-, hval, -⟩ | ⟨hno, -⟩ := p.length_payload
      · show LE.value p.field % 2 ^ 32 ≤ p.payload.length + _
        rw [hval]
        omega
      · exact absurd (hno.symm.trans hlen) (by simp)
    | container tag kind members =>
      exact absurd (kind.elemType_spec.2.2.1.symm.trans hlen) (by simp)

/-- `ReadElement` in front of an element. -/
theorem At.readElement_ok (h : At data ip containerType (e.encode ++ rest) r)
    (hallowed : e.tag.allowedIn containerType = true)
    (hprofile : e.tag.profileSpecified ip = true) :
    ∃ r', readElement.run r = .ok () r' ∧ Positioned data ip containerType e rest r' := by
  have htype := e.elemType_lt
  rw [Elem.encode_eq, List.append_assoc] at h
  have hrun := At.readElement_head h (by omega) hprofile e.length_field
  have hpos : Positioned data ip containerType e rest
      ((r.advance e.head.length).withHead
        ⟨e.tag.control ||| e.elemType, e.tag.value ip, LE.value e.field⟩) :=
    ⟨h.advance.withHead _, rfl, rfl, rfl⟩
  exact ⟨_, hrun.trans (hpos.verified hallowed hprofile), hpos⟩

/-- `ReadElement` in front of the end of a container. -/
theorem At.readEnd (h : At data ip containerType (endOfContainer ++ rest) r)
    (hcontainer : containerType ≠ .notSpecified) :
    ∃ r', readElement.run r = .ok () r' ∧ At data ip containerType rest r' ∧
      r'.elementType = ElementType.endOfContainer := by
  have hrun := @At.readElement_head _ _ _ _ _ .anonymous ElementType.endOfContainer [] h
    (by decide) rfl rfl
  have hat := (@At.advance _ _ _ _ _ endOfContainer h).withHead
    ⟨Tag.anonymous.control ||| ElementType.endOfContainer, Tag.anonymous.value ip, LE.value []⟩
  have htype : TLVReader.elementType _ = ElementType.endOfContainer :=
    elementType_of_control_or (by decide) (rfl : TLVReader.controlByte
      ((r.advance endOfContainer.length).withHead ⟨Tag.anonymous.control |||
        ElementType.endOfContainer, Tag.anonymous.value ip, LE.value []⟩) = _)
  refine ⟨_, hrun.trans (verifyElement_end htype rfl ?_), hat, htype⟩
  exact fun heq => hcontainer (hat.containerType_eq.symm.trans heq)

/-- `ReadElement` at the end of the buffer. -/
theorem At.readEmpty (h : At data ip containerType [] r) :
    readElement.run r = .err .endOfTLV r := by
  rw [readElement_eq h.inBounds, h.drop_eq]

end

end Matter.TLV
