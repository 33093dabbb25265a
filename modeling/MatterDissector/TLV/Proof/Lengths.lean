import MatterDissector.TLV.Proof.Skip

/-!
# The length of a string

`next_lengthFidelity_iff`: where `Next` has read the head of a string, the number in its length
field, the bytes that are left, `GetLength`, the copying accessors and `Skip` agree exactly if
that number fits the `uint32_t` to which all of them cut it.
-/

namespace Matter.TLV

open Prog TLVReader

section
variable {data : List UInt8} {ip p : Nat} {r r' t : TLVReader}

/-! ## The length or value field -/

/-- The control byte at `p`. -/
def controlAt (data : List UInt8) (p : Nat) : Nat := ((data.drop p).headD 0).toNat

/-- The number in the length or value field of the element whose head is at `p`. -/
def fieldAt (data : List UInt8) (p : Nat) : Nat :=
  let control := controlAt data p
  LE.value ((data.drop (p + 1 + tagFieldSize control)).take (valueFieldSize control))

/-- Where the head at `p` ends. -/
def headEnd (data : List UInt8) (p : Nat) : Nat := p + headSize (controlAt data p)

theorem verifyTag_unknownImplicit (containerType : TLVType) :
    verifyTag containerType unknownImplicitTag = .error .unknownImplicitTLVTag := if_pos rfl

/-- What `VerifyElement` lets through has a tag. -/
theorem elemTag_of_verifyElement (h : verifyElement.run r = .ok () r) :
    r.elemTag ≠ unknownImplicitTag := by
  intro htag
  rw [verifyElement, get_bind] at h
  dsimp only at h
  rw [htag, verifyTag_unknownImplicit] at h
  by_cases hend : r.elementType = ElementType.endOfContainer
  · rw [if_pos hend] at h
    by_cases hout : r.containerType = .notSpecified
    · rw [if_pos hout] at h
      cases h
    · rw [if_neg hout, if_pos (by decide)] at h
      cases h
  · rw [if_neg hend] at h
    cases h

/-- `ReadTag` reads the whole tag field, if it finds a tag. -/
theorem decodeTag_size (b : UInt8) (field : List UInt8)
    (h : (decodeTag ip b.toNat field).1 ≠ unknownImplicitTag) :
    (decodeTag ip b.toNat field).2 = tagFieldSize b.toNat := by
  have hc := tagControl_cases b
  simp only [List.mem_cons, List.not_mem_nil, or_false] at hc
  unfold decodeTag at h ⊢
  unfold tagFieldSize
  rcases hc with hc | hc | hc | hc | hc | hc | hc | hc <;> rw [hc] at h ⊢
  · rfl
  · rfl
  · rfl
  · rfl
  · by_cases hip : ip = profileIdNotSpecified
    · simp [hip] at h
    · simp [hip, tagSizes, tagControlShift]
  · by_cases hip : ip = profileIdNotSpecified
    · simp [hip] at h
    · simp [hip, tagSizes, tagControlShift]
  · rfl
  · rfl

/-- The head that `ReadElement` reads is the one at the read point. -/
theorem readElement_fieldAt (h : InBounds data r) (hok : readElement.run r = .ok () r') :
    r'.controlByte = controlAt data r.readPoint ∧ r'.elemLenOrVal = fieldAt data r.readPoint ∧
      r'.readPoint = headEnd data r.readPoint := by
  obtain ⟨b, bs, hdrop, -, -, rfl, hverify⟩ := readElement_cases h hok
  have hcontrol : controlAt data r.readPoint = b.toNat := by simp [controlAt, hdrop]
  have hsize : (decodeTag r.implicitProfileId b.toNat bs).2 = tagFieldSize b.toNat :=
    decodeTag_size b bs (elemTag_of_verifyElement hverify)
  refine ⟨hcontrol.symm, ?_, ?_⟩
  · show (decodeHead r.implicitProfileId (b :: bs)).lenOrVal = _
    rw [fieldAt, hcontrol, Nat.add_assoc, ← List.drop_drop, hdrop]
    simp [decodeHead, hsize]
  · rw [headEnd, hcontrol]
    rfl

theorem elementType_of_readElement (h : InBounds data r) (hok : readElement.run r = .ok () r') :
    r'.elementType = controlAt data r.readPoint &&& typeMask := by
  obtain ⟨b, bs, hdrop, -, -, rfl, -⟩ := readElement_cases h hok
  rw [elementType_of_control rfl]
  simp [controlAt, hdrop]

/-- `VerifyElement` compares the low 32 bits of a length. -/
theorem length_le_of_verifyElement (h : InBounds data r) (hok : verifyElement.run r = .ok () r)
    (hlen : tlvTypeHasLength r.elementType = true) : r.elemLenOrVal % 2 ^ 32 ≤ r.unread := by
  rw [verifyElement, get_bind] at hok
  dsimp only at hok
  split at hok
  · cases hok
  · rw [h.sub32_maxLen] at hok
    by_contra hlt
    rw [if_pos ⟨hlen, Nat.lt_of_not_le hlt⟩] at hok
    cases hok

/-! ## Strings -/

/-- `accessor` delivers `len` bytes. -/
def Delivers (accessor : ReaderM (List UInt8)) (len : Nat) (r : TLVReader) : Prop :=
  ∃ bytes r', accessor.run r = .ok bytes r' ∧ bytes.length = len

/-- The reader is behind the head, at `p`, of a string: the length in the head is that of the
string, for everything that asks. -/
structure LengthFidelity (data : List UInt8) (p : Nat) (r : TLVReader) : Prop where
  fits : fieldAt data p ≤ data.length - headEnd data p
  getLength_eq : r.getLength = fieldAt data p
  getBytes_delivers : ∀ bufSize, fieldAt data p ≤ bufSize →
    Delivers (getBytes bufSize) (fieldAt data p) r
  dupBytes_delivers : Delivers dupBytes (fieldAt data p) r
  dupString_delivers : Delivers dupString (fieldAt data p) r
  skip_advances : ∃ r', skip.run r = .ok () r' ∧ r'.readPoint = r.readPoint + fieldAt data p

theorem readData_external (h : InBounds data r) {len : Nat} (hfit : len ≤ r.unread) :
    (readData .external len).run r = .ok ((data.drop r.readPoint).take len) (r.advance len) := by
  rw [readData_eq h .external len (fun he => by cases he), if_pos hfit, ← h.data_eq]
  rfl

/-- All of them use the low 32 bits of the length. -/
theorem string_delivers (h : InBounds data r) (hstring : tlvTypeIsString r.elementType = true)
    (hfit : r.elemLenOrVal % 2 ^ 32 ≤ r.unread) :
    (∀ bufSize, r.elemLenOrVal ≤ bufSize →
      Delivers (getBytes bufSize) (r.elemLenOrVal % 2 ^ 32) r) ∧
    Delivers dupBytes (r.elemLenOrVal % 2 ^ 32) r ∧
    Delivers dupString (r.elemLenOrVal % 2 ^ 32) r := by
  have hread := readData_external h hfit
  have hlength : ((data.drop r.readPoint).take (r.elemLenOrVal % 2 ^ 32)).length =
      r.elemLenOrVal % 2 ^ 32 := by
    have := h.unread_eq
    rw [List.length_take, List.length_drop]
    omega
  let s : TLVReader := { r.advance (r.elemLenOrVal % 2 ^ 32) with elemLenOrVal := 0 }
  refine ⟨fun bufSize hsize => ⟨_, s, ?_, hlength⟩, ⟨_, s, ?_, hlength⟩, ⟨_, s, ?_, hlength⟩⟩
  · rw [getBytes, get_bind, hstring, bind_ok (run_verify_true _ _),
      decide_eq_true hsize, bind_ok (run_verify_true _ _), bind_ok hread]
    rfl
  · rw [dupBytes, get_bind, hstring, bind_ok (run_verify_true _ _), bind_ok hread]
    rfl
  · rw [dupString, get_bind, hstring, bind_ok (run_verify_true _ _), bind_ok hread]
    rfl

theorem string_not_container {elemType : Nat} (h : tlvTypeIsString elemType = true) :
    elemType ≠ ElementType.endOfContainer ∧ tlvTypeIsContainer elemType = false := by
  have hlen := tlvTypeHasLength_iff.1 (show tlvTypeHasLength elemType = true from h)
  rw [← Bool.not_eq_true, tlvTypeIsContainer_iff]
  exact ⟨fun he => by rw [he] at hlen; exact absurd hlen.2 (by decide), by omega⟩

/-- `Skip` advances by the low 32 bits of the length. -/
theorem skip_string (h : InBounds data r) (hstring : tlvTypeIsString r.elementType = true)
    (hfit : r.elemLenOrVal % 2 ^ 32 ≤ r.unread) :
    skip.run r = .ok () (r.advance (r.elemLenOrVal % 2 ^ 32)).clearElementState := by
  obtain ⟨hend, hcont⟩ := string_not_container hstring
  have hdata : skipData.run r = .ok () (r.advance (r.elemLenOrVal % 2 ^ 32)) := by
    rw [skipData_eq h, if_pos (show tlvTypeHasLength r.elementType = true from hstring),
      if_pos hfit]
  exact skip_eq_ok.2 (.value _ hend hcont hdata rfl)

/-- Behind a head that `ReadElement` has read. -/
theorem readElement_lengthFidelity_iff (h : InBounds data t) (hread : readElement.run t = .ok () r)
    (hstring : tlvTypeIsString r.elementType = true) :
    LengthFidelity data t.readPoint r ↔ fieldAt data t.readPoint < 2 ^ 32 := by
  obtain ⟨-, hfield, hend⟩ := readElement_fieldAt h hread
  have hr := (readElement_unread_lt h hread).1
  have hlen : tlvTypeHasLength r.elementType = true := hstring
  have hfit : r.elemLenOrVal % 2 ^ 32 ≤ r.unread := by
    obtain ⟨-, -, -, -, -, -, hverify⟩ := readElement_cases h hread
    exact length_le_of_verifyElement hr hverify hlen
  rw [← hfield]
  constructor
  · intro hfid
    have hget := hfid.getLength_eq
    rw [getLength_of_isString hstring, ← hfield] at hget
    omega
  · intro hlt
    have hmod : r.elemLenOrVal % 2 ^ 32 = r.elemLenOrVal := Nat.mod_eq_of_lt hlt
    obtain ⟨hbytes, hdup, hdupString⟩ := string_delivers hr hstring hfit
    have hskip := skip_string hr hstring hfit
    rw [hmod] at hfit hbytes hdup hdupString hskip
    rw [hr.unread_eq, hend] at hfit
    rw [hfield] at hfit hbytes hdup hdupString hskip
    exact {
      fits := hfit
      getLength_eq := by rw [getLength_of_isString hstring, hmod, hfield]
      getBytes_delivers := hbytes
      dupBytes_delivers := hdup
      dupString_delivers := hdupString
      skip_advances := ⟨_, hskip, rfl⟩ }

end

/-- Wherever a client has come, in the string that `Next` reads: `t` is in front of it. -/
theorem next_lengthFidelity_iff (data : List UInt8) (hlen : data.length < 2 ^ 32)
    (ops : List ReaderOp) {r t r' : TLVReader}
    (hrun : (runOps ops).run (init data data.length) = .ok () r) (hskip : skip.run r = .ok () t)
    (hnext : next.run r = .ok () r') (hstring : tlvTypeIsString r'.elementType = true) :
    LengthFidelity data t.readPoint r' ↔ fieldAt data t.readPoint < 2 ^ 32 := by
  have hr : InBounds data r := by
    have hkeep := runOps_keeps data ops _ (InBounds.init hlen)
    rw [hrun] at hkeep
    exact hkeep
  obtain ⟨t', hskip', hread, -⟩ := next_eq_ok.1 hnext
  rw [hskip] at hskip'
  cases hskip'
  exact readElement_lengthFidelity_iff (skip_inBounds hr hskip) hread hstring

/-- A byte string of two bytes, inside a structure. -/
theorem next_lengthFidelity_iff_short :
    ∃ r t r', (runOps [.next, .enterContainer]).run (init [0x15, 0x30, 0x01, 0x02, 7, 8, 0x18] 7) =
        .ok () r ∧ skip.run r = .ok () t ∧ next.run r = .ok () r' ∧
      tlvTypeIsString r'.elementType = true ∧
      (LengthFidelity [0x15, 0x30, 0x01, 0x02, 7, 8, 0x18] t.readPoint r' ↔
        fieldAt [0x15, 0x30, 0x01, 0x02, 7, 8, 0x18] t.readPoint < 2 ^ 32) :=
  ⟨_, _, _, rfl, rfl, rfl, by decide,
    next_lengthFidelity_iff _ (by decide) [.next, .enterContainer] rfl rfl rfl (by decide)⟩

/-- A byte string whose eight-byte length is 2^32: it is taken for empty. -/
def longString : List UInt8 := [0x13, 0, 0, 0, 0, 1, 0, 0, 0]

theorem next_longString : ∃ r', next.run (init longString longString.length) = .ok () r' ∧
    tlvTypeIsString r'.elementType = true ∧ fieldAt longString 0 = 2 ^ 32 ∧ r'.unread = 0 ∧
    r'.getLength = 0 ∧ (∃ s, skip.run r' = .ok () s ∧ s.readPoint = r'.readPoint) ∧
    ¬ LengthFidelity longString 0 r' := by
  refine ⟨_, rfl, by decide, by decide, by decide, by decide, ⟨_, rfl, by decide⟩, fun h => ?_⟩
  have hfits := h.fits
  revert hfits
  decide

end Matter.TLV
