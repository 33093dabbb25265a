import MatterDissector.TLV.Proof.Lengths

/-!
# Where elements end

The encoding as it lies in the buffer, whatever reads it: `Scan` goes from head to head and counts
the containers that are open, `Extent` says which bytes an element takes. A reader that has read a
head (`On`) agrees with it, as long as no string has a length that the reader cuts (`LongString`).
-/

namespace Matter.TLV

open Prog TLVReader

section
variable {data : List UInt8} {p q e m n : Nat} {r r' t : TLVReader}

/-! ## The bytes -/

/-- The element type in the control byte at `p`. -/
def typeAt (data : List UInt8) (p : Nat) : Nat := controlAt data p &&& typeMask

/-- Where the head at `p` and the bytes of its string, if it is one, end. -/
def valueEnd (data : List UInt8) (p : Nat) : Nat :=
  headEnd data p + if tlvTypeHasLength (typeAt data p) then fieldAt data p else 0

/-- The head at `p` is one of an element that is no container. -/
def IsValue (data : List UInt8) (p : Nat) : Prop :=
  isValidTLVType (typeAt data p) = true ∧ tlvTypeIsContainer (typeAt data p) = false ∧
    typeAt data p ≠ ElementType.endOfContainer

/-- From `p`, head by head, to `q`, where `n` containers are open that were not open at `p`. -/
inductive Scan (data : List UInt8) (p : Nat) : Nat → Nat → Prop where
  | start : Scan data p p 0
  | value {q n : Nat} (h : Scan data p q n) (hvalue : IsValue data q)
      (hfit : valueEnd data q ≤ data.length) : Scan data p (valueEnd data q) n
  | enter {q n : Nat} (h : Scan data p q n) (hcont : tlvTypeIsContainer (typeAt data q) = true)
      (hfit : headEnd data q ≤ data.length) : Scan data p (headEnd data q) (n + 1)
  | leave {q n : Nat} (h : Scan data p q (n + 1))
      (hend : typeAt data q = ElementType.endOfContainer)
      (hfit : headEnd data q ≤ data.length) : Scan data p (headEnd data q) n

/-- The element at `p` takes the bytes up to `q`. -/
inductive Extent (data : List UInt8) (p : Nat) : Nat → Prop where
  | value (hvalue : IsValue data p) (hfit : valueEnd data p ≤ data.length) :
      Extent data p (valueEnd data p)
  | container {e : Nat} (hcont : tlvTypeIsContainer (typeAt data p) = true)
      (hhead : headEnd data p ≤ data.length) (hmembers : Scan data (headEnd data p) e 0)
      (hend : typeAt data e = ElementType.endOfContainer) (hfit : headEnd data e ≤ data.length) :
      Extent data p (headEnd data e)

theorem lt_headEnd (data : List UInt8) (p : Nat) : p < headEnd data p := by
  have := headSize_pos (controlAt data p)
  unfold headEnd
  omega

theorem headEnd_le_valueEnd (data : List UInt8) (p : Nat) : headEnd data p ≤ valueEnd data p :=
  Nat.le_add_right _ _

/-- Behind the head of a container or of the end of one, nothing is skipped. -/
theorem valueEnd_eq_headEnd (hlen : tlvTypeHasLength (typeAt data q) = false) :
    valueEnd data q = headEnd data q := by
  simp [valueEnd, hlen]

theorem Scan.trans {u : Nat} (h : Scan data p q n) (h' : Scan data q u m) :
    Scan data p u (m + n) := by
  induction h' with
  | start => rw [Nat.zero_add]; exact h
  | value _ hvalue hfit ih => exact .value ih hvalue hfit
  | enter _ hcont hfit ih => rw [Nat.add_right_comm]; exact .enter ih hcont hfit
  | leave _ hend hfit ih => rw [Nat.add_right_comm] at ih; exact .leave ih hend hfit

theorem Scan.le (h : Scan data p q n) : p ≤ q := by
  induction h with
  | start => exact Nat.le_refl p
  | @value q n _ _ _ ih =>
    have := lt_headEnd data q
    have := headEnd_le_valueEnd data q
    omega
  | @enter q n _ _ _ ih => exact Nat.le_trans ih (lt_headEnd data q).le
  | @leave q n _ _ _ ih => exact Nat.le_trans ih (lt_headEnd data q).le

/-- Over a whole element the scan opens nothing. -/
theorem Extent.scan (h : Extent data p q) : Scan data p q 0 := by
  cases h with
  | value hvalue hfit => exact .value .start hvalue hfit
  | container hcont hhead hmembers hend hfit =>
    exact .leave (Scan.trans (.enter .start hcont hhead) hmembers) hend hfit

theorem Extent.lt (h : Extent data p q) : p < q := by
  cases h with
  | value => exact Nat.lt_of_lt_of_le (lt_headEnd data p) (headEnd_le_valueEnd data p)
  | container _ _ hmembers =>
    exact Nat.lt_of_lt_of_le (Nat.lt_of_lt_of_le (lt_headEnd data p) hmembers.le)
      (lt_headEnd data _).le

/-- The value is there as well. -/
theorem Extent.valueEnd_le (h : Extent data p q) : valueEnd data p ≤ data.length := by
  cases h with
  | value _ hfit => exact hfit
  | container hcont hhead =>
    rw [valueEnd_eq_headEnd (hasLength_of_isContainer hcont)]
    exact hhead

/-! ## The reader on a head -/

/-- A string whose length does not fit the buffer, but does once it is cut to 32 bits: the reader
takes it for one that ends there. -/
def LongString (data : List UInt8) (p : Nat) : Prop :=
  tlvTypeHasLength (typeAt data p) = true ∧ 2 ^ 32 ≤ fieldAt data p ∧
    headEnd data p + fieldAt data p % 2 ^ 32 ≤ data.length

/-- The reader has read the head at `q`, and nothing of the value. -/
structure On (data : List UInt8) (q : Nat) (r : TLVReader) : Prop where
  inBounds : InBounds data r
  elementType_eq : r.elementType = typeAt data q
  valid : isValidTLVType (typeAt data q) = true
  elemLenOrVal_eq : r.elemLenOrVal = fieldAt data q
  readPoint_eq : r.readPoint = headEnd data q
  fits : tlvTypeHasLength (typeAt data q) = true →
    headEnd data q + fieldAt data q % 2 ^ 32 ≤ data.length
  inside : typeAt data q = ElementType.endOfContainer → r.containerType ≠ .notSpecified

theorem On.headEnd_le (h : On data q r) : headEnd data q ≤ data.length := by
  have := h.inBounds.readPoint_le
  rw [h.readPoint_eq] at this
  exact this

theorem containerType_of_verifyElement (hok : verifyElement.run r = .ok () r)
    (hend : r.elementType = ElementType.endOfContainer) : r.containerType ≠ .notSpecified := by
  intro hout
  rw [verifyElement, get_bind] at hok
  dsimp only at hok
  rw [if_pos hend, if_pos hout] at hok
  cases hok

/-- `ReadElement` reads the head at the read point. -/
theorem readElement_on (h : InBounds data t) (hok : readElement.run t = .ok () r) :
    On data t.readPoint r := by
  obtain ⟨-, hfield, hread⟩ := readElement_fieldAt h hok
  have htype : r.elementType = typeAt data t.readPoint := elementType_of_readElement h hok
  have hr := (readElement_unread_lt h hok).1
  obtain ⟨b, bs, hdrop, hvalid, -, -, hverify⟩ := readElement_cases h hok
  have hcontrol : typeAt data t.readPoint = b.toNat &&& typeMask := by
    simp [typeAt, controlAt, hdrop]
  exact {
    inBounds := hr
    elementType_eq := htype
    valid := by rw [hcontrol]; exact hvalid
    elemLenOrVal_eq := hfield
    readPoint_eq := hread
    fits := fun hlen => by
      have hle := length_le_of_verifyElement hr hverify (by rw [htype]; exact hlen)
      rw [hr.unread_eq, hfield, hread] at hle
      have := hr.readPoint_le
      omega
    inside := fun hend => containerType_of_verifyElement hverify (by rw [htype, hend]) }

/-- `SkipData` goes to the end of the value. -/
theorem On.skipData_eq (h : On data q r) (hshort : ¬ LongString data q) :
    valueEnd data q ≤ data.length ∧ ∃ k, skipData.run r = .ok () (r.advance k) ∧
      InBounds data (r.advance k) ∧ r.readPoint + k = valueEnd data q := by
  have hread := h.readPoint_eq
  have hle := h.headEnd_le
  have hunread := h.inBounds.unread_eq
  by_cases hlen : tlvTypeHasLength (typeAt data q) = true
  · have hfits := h.fits hlen
    have hsmall : fieldAt data q < 2 ^ 32 := by
      by_contra hbig
      exact hshort ⟨hlen, Nat.le_of_not_lt hbig, hfits⟩
    have hmod : fieldAt data q % 2 ^ 32 = fieldAt data q := Nat.mod_eq_of_lt hsmall
    have hend : valueEnd data q = headEnd data q + fieldAt data q := by simp [valueEnd, hlen]
    rw [hmod] at hfits
    refine ⟨by omega, fieldAt data q, ?_, h.inBounds.advance (by omega), by omega⟩
    rw [TLV.skipData_eq h.inBounds, h.elementType_eq, if_pos hlen, h.elemLenOrVal_eq, hmod,
      if_pos (by omega)]
  · rw [Bool.not_eq_true] at hlen
    have hend := valueEnd_eq_headEnd hlen
    refine ⟨by omega, 0, ?_, h.inBounds.advance (Nat.zero_le _), by omega⟩
    rw [skipData_none (by rw [h.elementType_eq]; exact hlen), h.inBounds.advance_zero]

end

end Matter.TLV
