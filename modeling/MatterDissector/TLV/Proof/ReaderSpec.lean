import MatterDissector.Lib.LittleEndian
import MatterDissector.TLV.Reader

/-!
# What each reader operation does

On a reader whose pointers are inside its buffer (`InBounds`) every operation of the layer below
has an equation: `readData_eq`, `readLE_eq`, `readTag_eq`, and `readElement_eq` for the parse of
one element head. The later modules reason with these and unfold nothing.
-/

namespace Matter.TLV.TLVReader

open Prog

/-- The reader of `data`: pointers inside the buffer, counters in step with the pointers. -/
structure InBounds (data : List UInt8) (r : TLVReader) : Prop where
  data_eq : r.data = data
  readPoint_eq : r.readPoint = r.lenRead
  lenRead_le : r.lenRead ≤ r.maxLen
  maxLen_eq : r.maxLen = data.length
  bufEnd_eq : r.bufEnd = data.length
  length_lt : data.length < 2 ^ 32

/-- The reader `n` bytes further on. -/
def advance (r : TLVReader) (n : Nat) : TLVReader :=
  { r with readPoint := r.readPoint + n, lenRead := (r.lenRead + n) % 2 ^ 32 }

@[simp] theorem data_advance (r : TLVReader) (n : Nat) : (r.advance n).data = r.data := rfl
@[simp] theorem readPoint_advance (r : TLVReader) (n : Nat) :
    (r.advance n).readPoint = r.readPoint + n := rfl
@[simp] theorem bufEnd_advance (r : TLVReader) (n : Nat) : (r.advance n).bufEnd = r.bufEnd := rfl

section
variable {data : List UInt8} {r : TLVReader} (h : InBounds data r)
include h

theorem InBounds.unread_eq : r.unread = data.length - r.readPoint := by
  rw [unread, h.data_eq]

theorem InBounds.readPoint_le : r.readPoint ≤ data.length := by
  have := h.readPoint_eq; have := h.lenRead_le; have := h.maxLen_eq; omega

theorem InBounds.advance {n : Nat} (hn : n ≤ r.unread) : InBounds data (r.advance n) := by
  have h1 := h.readPoint_eq
  have h2 := h.lenRead_le
  have h3 := h.maxLen_eq
  have h4 := h.length_lt
  have h5 := h.unread_eq
  have hmod : (r.lenRead + n) % 2 ^ 32 = r.lenRead + n := Nat.mod_eq_of_lt (by omega)
  exact {
    data_eq := h.data_eq
    readPoint_eq := by simp only [TLVReader.advance, hmod]; omega
    lenRead_le := by simp only [TLVReader.advance, hmod]; omega
    maxLen_eq := h3
    bufEnd_eq := h.bufEnd_eq
    length_lt := h4 }

theorem InBounds.advance_zero : r.advance 0 = r := by
  have h1 := h.readPoint_eq
  have h2 := h.readPoint_le
  have h3 := h.length_lt
  have hmod : r.lenRead % 2 ^ 32 = r.lenRead := Nat.mod_eq_of_lt (by omega)
  rw [TLVReader.advance, Nat.add_zero, Nat.add_zero, hmod]

/-- Nothing is left exactly at the end of the buffer. -/
theorem InBounds.atEnd_iff : r.readPoint = r.bufEnd ↔ r.unread = 0 := by
  have := h.readPoint_le; have := h.bufEnd_eq; have := h.unread_eq; omega

theorem InBounds.sub32_bufEnd : sub32 r.bufEnd r.readPoint = r.unread := by
  have := h.readPoint_le; have := h.length_lt
  rw [h.bufEnd_eq, h.unread_eq, sub32_of_le ‹_› ‹_›]

theorem InBounds.sub32_maxLen : sub32 r.maxLen r.lenRead = r.unread := by
  have := h.readPoint_le; have := h.length_lt; have := h.readPoint_eq
  rw [h.maxLen_eq, h.unread_eq, sub32_of_le (by omega) ‹_›]
  omega

end

/-- The element state is no part of `InBounds`. -/
theorem InBounds.congr {data : List UInt8} {r r' : TLVReader} (h : InBounds data r)
    (hd : r'.data = r.data) (hp : r'.readPoint = r.readPoint) (hb : r'.bufEnd = r.bufEnd)
    (hl : r'.lenRead = r.lenRead) (hm : r'.maxLen = r.maxLen) : InBounds data r' where
  data_eq := by rw [hd, h.data_eq]
  readPoint_eq := by rw [hp, hl, h.readPoint_eq]
  lenRead_le := by rw [hl, hm]; exact h.lenRead_le
  maxLen_eq := by rw [hm, h.maxLen_eq]
  bufEnd_eq := by rw [hb, h.bufEnd_eq]
  length_lt := h.length_lt

theorem InBounds.init {data : List UInt8} (hlen : data.length < 2 ^ 32) :
    InBounds data (init data data.length) where
  data_eq := rfl
  readPoint_eq := rfl
  lenRead_le := Nat.zero_le _
  maxLen_eq := rfl
  bufEnd_eq := rfl
  length_lt := hlen

/-! ## Reading data -/

theorem ensureData_ok {r : TLVReader} {e : MatterError} (h : r.readPoint ≠ r.bufEnd) :
    (ensureData e).run r = .ok () r := by
  rw [ensureData, get_bind, if_neg h]; rfl

theorem ensureData_err {r : TLVReader} {e : MatterError} (h : r.readPoint = r.bufEnd) :
    (ensureData e).run r = .err e r := by
  rw [ensureData, get_bind, if_pos h]; rfl

/-- What `ReadData` delivers: nothing for `NULL`. -/
def copied (buf : Dest) (r : TLVReader) (len : Nat) : List UInt8 :=
  match buf with
  | .null => []
  | _ => (r.data.drop r.readPoint).take len

theorem copyBytes_eq {mem : List UInt8} {p len : Nat} (h : p + len ≤ mem.length)
    (r : TLVReader) : (copyBytes mem p len).run r = .ok ((mem.drop p).take len) r := by
  simp [copyBytes, h]

section
variable {data : List UInt8} {r : TLVReader} (h : InBounds data r)
include h

/-- One round copies as much as is wanted and left. -/
theorem readDataRound_eq {buf : Dest} {len : Nat} (acc : List UInt8) (hlen : 0 < len)
    (hleft : 0 < r.unread)
    (hbuf : buf = .stagingBuf → acc.length + min len r.unread ≤ stagingBufSize) :
    (readDataRound buf (len, acc)).run r =
      .ok (.inl (len - min len r.unread, acc ++ copied buf r (min len r.unread)))
        (r.advance (min len r.unread)) := by
  obtain ⟨len, rfl⟩ : ∃ k, len = k + 1 := ⟨len - 1, by omega⟩
  have hne : r.readPoint ≠ r.bufEnd := fun he => by
    have := h.atEnd_iff.1 he; omega
  have hmin : (if len + 1 > r.unread then r.unread else len + 1) = min (len + 1) r.unread := by
    split <;> omega
  have hcopy : r.readPoint + min (len + 1) r.unread ≤ r.data.length := by
    have := h.unread_eq; have := h.readPoint_le; have := congrArg List.length h.data_eq; omega
  rw [readDataRound, bind_ok (ensureData_ok hne), get_bind]
  case x_1 => exact Nat.succ_ne_zero len
  dsimp only
  rw [h.sub32_bufEnd, hmin]
  cases buf with
  | null => rfl
  | stagingBuf =>
    dsimp only
    rw [if_pos (hbuf rfl), bind_ok (copyBytes_eq hcopy r)]
    rfl
  | external =>
    dsimp only
    rw [bind_ok (copyBytes_eq hcopy r)]
    rfl

theorem readDataRound_spent {buf : Dest} {len : Nat} {acc : List UInt8} (hlen : 0 < len)
    (hleft : r.unread = 0) : (readDataRound buf (len, acc)).run r = .err .tlvUnderrun r := by
  obtain ⟨len, rfl⟩ : ∃ k, len = k + 1 := ⟨len - 1, by omega⟩
  rw [readDataRound, bind_err (ensureData_err (h.atEnd_iff.2 hleft))]
  exact Nat.succ_ne_zero len

/-- `ReadData` delivers the next `len` bytes, or consumes what is left and fails. -/
theorem readData_eq (buf : Dest) (len : Nat)
    (hbuf : buf = .stagingBuf → min len r.unread ≤ stagingBufSize) :
    (readData buf len).run r =
      if len ≤ r.unread then .ok (copied buf r len) (r.advance len)
      else .err .tlvUnderrun (r.advance r.unread) := by
  show (loop _ _ (len + 1) (len, [])).run r = _
  rw [loop_succ]
  rcases Nat.eq_zero_or_pos len with rfl | hpos
  · rw [if_pos (Nat.zero_le _), h.advance_zero]
    cases buf <;> rfl
  obtain ⟨len, rfl⟩ : ∃ k, len = k + 1 := ⟨len - 1, by omega⟩
  rcases Nat.eq_zero_or_pos r.unread with hleft | hleft
  · rw [bind_err (readDataRound_spent h hpos hleft), if_neg (by omega), hleft, h.advance_zero]
  have hround := @readDataRound_eq _ _ h buf _ [] hpos hleft
    (fun hs => by simpa using hbuf hs)
  rw [bind_ok hround]
  simp only [List.nil_append, again_inl, loop_succ]
  by_cases hle : len + 1 ≤ r.unread
  · rw [Nat.min_eq_left hle, if_pos hle, Nat.sub_self]
    rfl
  · have hmin : min (len + 1) r.unread = r.unread := by omega
    have h' : InBounds data (r.advance r.unread) := h.advance (Nat.le_refl _)
    have hleft' : (r.advance r.unread).unread = 0 := by
      have := h.unread_eq; have := h.readPoint_le
      rw [h'.unread_eq, readPoint_advance]; omega
    rw [hmin, if_neg hle,
      bind_err (readDataRound_spent h' (by omega : 0 < len + 1 - r.unread) hleft')]

end

/-! ## Reading a head -/

theorem read8_eq {mem : List UInt8} {p : Nat} {b : UInt8} (h : mem[p]? = some b)
    (r : TLVReader) : (read8 mem p).run r = .ok b.toNat r := by
  simp [read8, h]

/-- `Read16`, `Read32` and `Read64` read the little-endian number at `p`. -/
theorem readLE_eq {mem : List UInt8} {p k : Nat} (h : p + k ≤ mem.length) (r : TLVReader) :
    (readLE mem p k).run r = .ok (LE.value ((mem.drop p).take k)) r := by
  induction k with
  | zero => simp [readLE]
  | succ k ih =>
    have hlt : p + k < mem.length := by omega
    have hb : mem[p + k]? = some mem[p + k] := List.getElem?_eq_getElem hlt
    have hb' : (mem.drop p)[k]? = some mem[p + k] := by rw [List.getElem?_drop, hb]
    rw [readLE, bind_ok (ih (by omega)), bind_ok (read8_eq hb r), run_pure,
      LE.value_take_succ hb']

/-- The size of the tag field that a control byte announces. -/
def tagFieldSize (control : Nat) : Nat :=
  tagSizes.getD ((control &&& tagControlMask) >>> tagControlShift) 0

/-- The size of the length or value field that a control byte announces. -/
def valueFieldSize (control : Nat) : Nat :=
  tlvFieldSizeToBytes (getTLVFieldSize (control &&& typeMask))

def headSize (control : Nat) : Nat := 1 + tagFieldSize control + valueFieldSize control

/-- The tag in the bytes after the control byte, and how many of them were read: an implicit tag
without an implicit profile reads none. -/
def decodeTag (implicitProfileId control : Nat) (field : List UInt8) : Nat × Nat :=
  match control &&& tagControlMask with
  | 0x20 => (contextTag (LE.value (field.take 1)), 1)
  | 0x40 => (commonTag (LE.value (field.take 2)), 2)
  | 0x60 => (commonTag (LE.value (field.take 4)), 4)
  | 0x80 =>
    if implicitProfileId = profileIdNotSpecified then (unknownImplicitTag, 0)
    else (profileTag implicitProfileId (LE.value (field.take 2)), 2)
  | 0xA0 =>
    if implicitProfileId = profileIdNotSpecified then (unknownImplicitTag, 0)
    else (profileTag implicitProfileId (LE.value (field.take 4)), 4)
  | 0xC0 =>
    (vendorProfileTag (LE.value (field.take 2)) (LE.value ((field.drop 2).take 2))
      (LE.value ((field.drop 4).take 2)), 6)
  | 0xE0 =>
    (vendorProfileTag (LE.value (field.take 2)) (LE.value ((field.drop 2).take 2))
      (LE.value ((field.drop 4).take 4)), 8)
  | _ => (anonymousTag, 0)

/-- The element state in a head. -/
structure Head where
  controlByte : Nat
  tag : Nat
  lenOrVal : Nat
  deriving DecidableEq, Repr

/-- The head at the start of `bs`, which holds all of it. -/
def decodeHead (implicitProfileId : Nat) (bs : List UInt8) : Head :=
  let control := (bs.headD 0).toNat
  let tag := decodeTag implicitProfileId control (bs.drop 1)
  { controlByte := control
    tag := tag.1
    lenOrVal := LE.value ((bs.drop (1 + tag.2)).take (valueFieldSize control)) }

def withHead (r : TLVReader) (hd : Head) : TLVReader :=
  { r with controlByte := hd.controlByte, elemTag := hd.tag, elemLenOrVal := hd.lenOrVal }

/-! ### The control byte -/

/-- The tag controls are the eight multiples of `0x20`. -/
theorem tagControl_cases (b : UInt8) : b.toNat &&& tagControlMask ∈
    [0x00, 0x20, 0x40, 0x60, 0x80, 0xA0, 0xC0, 0xE0] := by
  have h : ∀ n : Fin 256, (n : Nat) &&& tagControlMask ∈
      [0x00, 0x20, 0x40, 0x60, 0x80, 0xA0, 0xC0, 0xE0] := by decide +kernel
  exact h ⟨b.toNat, b.toNat_lt⟩

theorem headSize_le (b : UInt8) : headSize b.toNat ≤ stagingBufSize := by
  have h : ∀ n : Fin 256, headSize n ≤ stagingBufSize := by decide +kernel
  exact h ⟨b.toNat, b.toNat_lt⟩

theorem headSize_pos (control : Nat) : 0 < headSize control := by
  unfold headSize; omega

theorem decodeTag_le (implicitProfileId : Nat) (b : UInt8) (field : List UInt8) :
    (decodeTag implicitProfileId b.toNat field).2 ≤ tagFieldSize b.toNat := by
  have h := tagControl_cases b
  simp only [List.mem_cons, List.not_mem_nil, or_false] at h
  unfold decodeTag tagFieldSize
  rcases h with h | h | h | h | h | h | h | h <;> rw [h]
  · exact Nat.zero_le _
  · exact Nat.le_refl 1
  · exact Nat.le_refl 2
  · exact Nat.le_refl 4
  · show (ite _ _ _ : Nat × Nat).2 ≤ 2
    split <;> simp
  · show (ite _ _ _ : Nat × Nat).2 ≤ 4
    split <;> simp
  · exact Nat.le_refl 6
  · exact Nat.le_refl 8

/-- The two bytes at `p`, `p + 2` and so on lie in the tag field. -/
theorem readLE_drop {mem : List UInt8} {p i k : Nat} (h : p + i + k ≤ mem.length)
    (r : TLVReader) :
    (readLE mem (p + i) k).run r = .ok (LE.value (((mem.drop p).drop i).take k)) r := by
  rw [readLE_eq (by omega), List.drop_drop]

/-- A tag relative to the implicit profile. -/
theorem readTag_implicit {mem : List UInt8} {p k : Nat} {r : TLVReader} (h : p + k ≤ mem.length) :
    (if r.implicitProfileId = profileIdNotSpecified then pure (unknownImplicitTag, p)
      else do return (profileTag r.implicitProfileId (← readLE mem p k), p + k) :
        ReaderM (Nat × Nat)).run r =
      .ok ((if r.implicitProfileId = profileIdNotSpecified then (unknownImplicitTag, 0)
          else (profileTag r.implicitProfileId (LE.value ((mem.drop p).take k)), k)).1,
        p + (if r.implicitProfileId = profileIdNotSpecified then (unknownImplicitTag, 0)
          else (profileTag r.implicitProfileId (LE.value ((mem.drop p).take k)), k)).2) r := by
  split
  · rfl
  · rw [bind_ok (readLE_eq h r)]; rfl

/-- `ReadTag` decodes the tag field at `p`. -/
theorem readTag_eq {mem : List UInt8} {p : Nat} {b : UInt8} {r : TLVReader}
    (h : p + tagFieldSize b.toNat ≤ mem.length) :
    (readTag (b.toNat &&& tagControlMask) mem p).run r =
      .ok ((decodeTag r.implicitProfileId b.toNat (mem.drop p)).1,
        p + (decodeTag r.implicitProfileId b.toNat (mem.drop p)).2) r := by
  have hc := tagControl_cases b
  simp only [List.mem_cons, List.not_mem_nil, or_false] at hc
  unfold readTag decodeTag
  unfold tagFieldSize at h
  rw [bind_ok (run_gets _ r)]
  rcases hc with hc | hc | hc | hc | hc | hc | hc | hc <;> rw [hc] at h ⊢
  · rfl
  · replace h : p + 1 ≤ mem.length := h
    have hb : mem[p]? = some mem[p] := List.getElem?_eq_getElem h
    have hb' : (mem.drop p)[0]? = some mem[p] := by rw [List.getElem?_drop]; exact hb
    have hv : LE.value ((mem.drop p).take 1) = mem[p].toNat := by
      rw [LE.value_take_succ hb']; simp
    show (read8 mem p >>= fun b => pure (contextTag b, p + 1)).run r =
      .ok (contextTag (LE.value ((mem.drop p).take 1)), p + 1) r
    rw [bind_ok (read8_eq hb r), hv]; rfl
  · replace h : p + 2 ≤ mem.length := h
    show (readLE mem p 2 >>= fun n => pure (commonTag n, p + 2)).run r = _
    rw [bind_ok (readLE_eq h r)]; rfl
  · replace h : p + 4 ≤ mem.length := h
    show (readLE mem p 4 >>= fun n => pure (commonTag n, p + 4)).run r = _
    rw [bind_ok (readLE_eq h r)]; rfl
  · replace h : p + 2 ≤ mem.length := h
    exact readTag_implicit h
  · replace h : p + 4 ≤ mem.length := h
    exact readTag_implicit h
  · replace h : p + 6 ≤ mem.length := h
    show (readLE mem p 2 >>= fun v => readLE mem (p + 2) 2 >>= fun f =>
      readLE mem (p + 4) 2 >>= fun n => pure (vendorProfileTag v f n, p + 6)).run r = _
    rw [bind_ok (readLE_eq (by omega) r), bind_ok (readLE_drop (by omega) r),
      bind_ok (readLE_drop (by omega) r)]
    rfl
  · replace h : p + 8 ≤ mem.length := h
    show (readLE mem p 2 >>= fun v => readLE mem (p + 2) 2 >>= fun f =>
      readLE mem (p + 4) 4 >>= fun n => pure (vendorProfileTag v f n, p + 8)).run r = _
    rw [bind_ok (readLE_eq (by omega) r), bind_ok (readLE_drop (by omega) r),
      bind_ok (readLE_drop (by omega) r)]
    rfl

/-! ### The element -/

theorem elementType_of_control {r : TLVReader} {b : UInt8} (h : r.controlByte = b.toNat) :
    r.elementType = b.toNat &&& typeMask := by
  have := b.toNat_lt
  rw [elementType, h, if_neg (by unfold controlByteNotSpecified; omega)]

/-- `VerifyElement` changes nothing. -/
theorem verifyElement_cases (r : TLVReader) :
    verifyElement.run r = .ok () r ∨ ∃ e, verifyElement.run r = .err e r := by
  rw [verifyElement, get_bind]
  dsimp only
  split
  · exact .inr ⟨_, rfl⟩
  · split
    · exact .inr ⟨_, rfl⟩
    · exact .inl rfl

/-- `ReadElement`: the head at the read point, verified. -/
theorem readElement_eq {data : List UInt8} {r : TLVReader} (h : InBounds data r) :
    readElement.run r =
      match data.drop r.readPoint with
      | [] => .err .endOfTLV r
      | b :: bs =>
        if isValidTLVType (b.toNat &&& typeMask) = false then
          .err .invalidTLVElement { r with controlByte := b.toNat }
        else if r.unread < headSize b.toNat then
          .err .tlvUnderrun { r.advance r.unread with controlByte := b.toNat }
        else verifyElement.run ((r.advance (headSize b.toNat)).withHead
          (decodeHead r.implicitProfileId (b :: bs))) := by
  obtain rfl := h.data_eq
  have hun := h.unread_eq
  have hle := h.readPoint_le
  have hbe := h.bufEnd_eq
  unfold readElement
  cases hdrop : r.data.drop r.readPoint with
  | nil =>
    have hend : r.readPoint = r.bufEnd := by
      have := List.drop_eq_nil_iff.1 hdrop; omega
    rw [bind_err (ensureData_err hend)]
  | cons b bs =>
    have hlt : r.readPoint < r.data.length := by
      have := congrArg List.length hdrop
      rw [List.length_drop, List.length_cons] at this
      omega
    have hb : r.data[r.readPoint]? = some b := by
      have := congrArg (·[0]?) hdrop
      simpa [List.getElem?_drop] using this
    have hne : r.readPoint ≠ r.bufEnd := by omega
    have hens : (ensureData .endOfTLV).run r = .ok () r := ensureData_ok hne
    -- the reader once the control byte is stored
    have h1 : InBounds r.data { r with controlByte := b.toNat } := h.congr rfl rfl rfl rfl rfl
    have htype : TLVReader.elementType { r with controlByte := b.toNat } =
        b.toNat &&& typeMask := elementType_of_control rfl
    rw [bind_ok hens, bind_ok (run_get r), bind_ok (read8_eq hb r), bind_ok (run_modify _ _),
      bind_ok (run_gets _ _), htype]
    cases hvalid : isValidTLVType (b.toNat &&& typeMask) with
    | false => rw [bind_err (run_verify_false _ _)]; exact (if_pos hvalid).symm
    | true =>
      have hv : ¬ isValidTLVType (b.toNat &&& typeMask) = false := by rw [hvalid]; simp
      rw [bind_ok (run_verify_true _ _)]
      dsimp only
      rw [if_neg hv]
      rw [show 1 + tagSizes.getD ((b.toNat &&& tagControlMask) >>> tagControlShift) 0 +
        tlvFieldSizeToBytes (getTLVFieldSize (b.toNat &&& typeMask)) = headSize b.toNat from rfl]
      by_cases hshort : r.unread < headSize b.toNat
      · have hstage := readData_eq h1 .stagingBuf (headSize b.toNat)
          (fun _ => by have := headSize_le b; omega)
        have hun1 : TLVReader.unread { r with controlByte := b.toNat } = r.unread := rfl
        rw [hun1, if_neg (by omega)] at hstage
        rw [if_pos (by omega), if_pos hshort, bind_err hstage]
        rfl
      · have hmem : r.readPoint + headSize b.toNat ≤ r.data.length := by omega
        have hfield : r.readPoint + 1 + tagFieldSize b.toNat ≤ r.data.length := by
          unfold headSize at hmem; omega
        have hcut : r.data.drop (r.readPoint + 1) = bs := by
          rw [← List.drop_drop, hdrop]; rfl
        rw [if_neg (by omega), if_neg hshort]
        rw [modify_bind, pure_bind']
        dsimp only
        rw [bind_ok (readTag_eq hfield)]
        dsimp only
        have hval : r.readPoint + 1 +
            (decodeTag r.implicitProfileId b.toNat (r.data.drop (r.readPoint + 1))).2 +
              valueFieldSize b.toNat ≤ r.data.length := by
          have := decodeTag_le r.implicitProfileId b (r.data.drop (r.readPoint + 1))
          unfold headSize at hmem; omega
        rw [bind_ok (run_modify _ _)]
        have hread := readLE_eq hval
        rw [show tlvFieldSizeToBytes (getTLVFieldSize (b.toNat &&& typeMask)) =
          valueFieldSize b.toNat from rfl]
        rw [bind_ok (hread _), bind_ok (run_modify _ _)]
        rw [hcut, Nat.add_assoc, ← List.drop_drop, hdrop]
        rfl

end Matter.TLV.TLVReader
