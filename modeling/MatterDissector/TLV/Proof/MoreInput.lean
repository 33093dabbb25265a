import MatterDissector.TLV.Proof.Contract
import MatterDissector.TLV.Proof.SkipWalk

/-!
# With more input

A reader whose buffer has more bytes behind it (`extend`) does what it does without them, as long
as it does not come to the end: every other result of `Skip` and `Next`, success or failure, is
decided by bytes that are there (`skip_follows`, `next_follows`, and `Next` of a dissector).
-/

namespace Matter.TLV

open Prog TLVReader

/-- The reader with `more` behind its buffer. -/
def extend (more : List UInt8) (r : TLVReader) : TLVReader :=
  { r with data := r.data ++ more, bufEnd := r.bufEnd + more.length,
           maxLen := r.maxLen + more.length }

def extendTlv (more : List UInt8) (d : TLVDissector) : TLVDissector :=
  { d with reader := extend more d.reader }

/-- The errors of a reader that has come to the end of its buffer. -/
def NoMoreData (e : MatterError) : Prop := e = .tlvUnderrun ∨ e = .endOfTLV

@[simp] theorem elementType_extend (more : List UInt8) (r : TLVReader) :
    (extend more r).elementType = r.elementType := rfl
@[simp] theorem containerType_extend (more : List UInt8) (r : TLVReader) :
    (extend more r).containerType = r.containerType := rfl

section
variable {data more : List UInt8} {r r' : TLVReader} {outer : TLVType} {level : Nat}

theorem TLVReader.InBounds.extend (h : InBounds data r) (hlen : (data ++ more).length < 2 ^ 32) :
    InBounds (data ++ more) (extend more r) where
  data_eq := by rw [← h.data_eq]; rfl
  readPoint_eq := h.readPoint_eq
  lenRead_le := Nat.le_trans h.lenRead_le (Nat.le_add_right _ _)
  maxLen_eq := by rw [List.length_append, ← h.maxLen_eq]; rfl
  bufEnd_eq := by rw [List.length_append, ← h.bufEnd_eq]; rfl
  length_lt := hlen

theorem unread_le_extend (h : InBounds data r) (more : List UInt8) :
    r.unread ≤ (extend more r).unread := by
  have hle := h.readPoint_le
  simp only [unread, TLV.extend, List.length_append]
  omega

/-! ## One head -/

/-- A field inside the bytes that are there. -/
theorem take_drop_append {bs : List UInt8} {i k : Nat} (hfit : i + k ≤ bs.length) :
    ((bs ++ more).drop i).take k = (bs.drop i).take k := by
  rw [List.drop_append_of_le_length (by omega), List.take_append_of_le_length]
  rw [List.length_drop]
  omega

theorem decodeTag_append {b : UInt8} {ip : Nat} {field : List UInt8}
    (hfit : tagFieldSize b.toNat ≤ field.length) :
    decodeTag ip b.toNat (field ++ more) = decodeTag ip b.toNat field := by
  have hc := tagControl_cases b
  simp only [List.mem_cons, List.not_mem_nil, or_false] at hc
  have htake : ∀ i k, i + k ≤ tagFieldSize b.toNat →
      ((field ++ more).drop i).take k = (field.drop i).take k := fun i k hik =>
    take_drop_append (Nat.le_trans hik hfit)
  have hfront : ∀ k, k ≤ tagFieldSize b.toNat → (field ++ more).take k = field.take k :=
    fun k hk => by simpa using htake 0 k (by omega)
  unfold decodeTag
  rcases hc with hc | hc | hc | hc | hc | hc | hc | hc <;>
    simp only [tagFieldSize, hc] at htake hfront ⊢
  · rw [hfront 1 (by decide)]
  · rw [hfront 2 (by decide)]
  · rw [hfront 4 (by decide)]
  · rw [hfront 2 (by decide)]
  · rw [hfront 4 (by decide)]
  · rw [hfront 2 (by decide), htake 2 2 (by decide), htake 4 2 (by decide)]
  · rw [hfront 2 (by decide), htake 2 2 (by decide), htake 4 4 (by decide)]

/-- A head that is there is read from the bytes that are there. -/
theorem decodeHead_append {b : UInt8} {ip : Nat} {bs : List UInt8}
    (hfit : headSize b.toNat ≤ bs.length + 1) :
    decodeHead ip (b :: (bs ++ more)) = decodeHead ip (b :: bs) := by
  unfold headSize at hfit
  have htag : decodeTag ip b.toNat (bs ++ more) = decodeTag ip b.toNat bs :=
    decodeTag_append (by omega)
  have hle := decodeTag_le ip b bs
  simp only [decodeHead, List.headD_cons, List.drop_succ_cons, List.drop_zero, htag,
    Nat.add_comm 1 (decodeTag ip b.toNat bs).2]
  rw [take_drop_append (by omega)]

theorem verifyElement_follows (h : InBounds data r) (hlen : (data ++ more).length < 2 ^ 32) :
    Follows (extend more) NoMoreData verifyElement r := by
  have hle := unread_le_extend h more
  have hmore : sub32 (extend more r).maxLen (extend more r).lenRead = (extend more r).unread :=
    (h.extend hlen).sub32_maxLen
  unfold Follows
  rw [verifyElement, get_bind, get_bind, elementType_extend, containerType_extend, hmore,
    h.sub32_maxLen]
  dsimp only
  rw [show (extend more r).elemTag = r.elemTag from rfl,
    show (extend more r).elemLenOrVal = r.elemLenOrVal from rfl]
  split <;> rename_i hrun
  · split at hrun
    · cases hrun
    · split at hrun
      · cases hrun
      · cases hrun
        rename_i hfit
        rw [if_neg]
        · rfl
        · rintro ⟨hlength, hlt⟩
          exact hfit ⟨hlength, Nat.lt_of_le_of_lt hle hlt⟩
  · split at hrun
    · cases hrun
      exact .inr rfl
    · split at hrun
      · cases hrun
        exact .inl (.inl rfl)
      · cases hrun
  · trivial

theorem readElement_follows (h : InBounds data r) (hlen : (data ++ more).length < 2 ^ 32) :
    Follows (extend more) NoMoreData readElement r := by
  have hrun := readElement_eq h
  have hrun' := readElement_eq (h.extend hlen)
  rw [show (extend more r).readPoint = r.readPoint from rfl,
    List.drop_append_of_le_length h.readPoint_le] at hrun'
  cases hdrop : data.drop r.readPoint with
  | nil =>
    rw [hdrop] at hrun
    exact .of_err hrun (.inl (.inr rfl))
  | cons b bs =>
    rw [hdrop] at hrun hrun'
    dsimp only [List.cons_append] at hrun hrun'
    by_cases hvalid : isValidTLVType (b.toNat &&& typeMask) = false
    · rw [if_pos hvalid] at hrun hrun'
      exact .of_err hrun (.inr hrun')
    rw [if_neg hvalid] at hrun hrun'
    by_cases hhead : r.unread < headSize b.toNat
    · rw [if_pos hhead] at hrun
      exact .of_err hrun (.inl (.inl rfl))
    have hunread : r.unread = bs.length + 1 := by
      rw [h.unread_eq, ← List.length_drop, hdrop, List.length_cons]
    have hmore := unread_le_extend h more
    rw [if_neg hhead] at hrun
    rw [if_neg (by omega), show (extend more r).implicitProfileId = r.implicitProfileId from rfl,
      decodeHead_append (by omega)] at hrun'
    have hr : InBounds data ((r.advance (headSize b.toNat)).withHead
        (decodeHead r.implicitProfileId (b :: bs))) :=
      (h.advance (Nat.le_of_not_lt hhead)).congr rfl rfl rfl rfl rfl
    exact (verifyElement_follows hr hlen).of_run hrun hrun'

/-! ## Over elements -/

theorem skipData_follows (h : InBounds data r) (hlen : (data ++ more).length < 2 ^ 32) :
    Follows (extend more) NoMoreData skipData r := by
  have hrun := TLV.skipData_eq h
  have hrun' := TLV.skipData_eq (h.extend hlen)
  rw [elementType_extend, show (extend more r).elemLenOrVal = r.elemLenOrVal from rfl] at hrun'
  by_cases hlength : tlvTypeHasLength r.elementType = true
  · rw [if_pos hlength] at hrun hrun'
    by_cases hfit : r.elemLenOrVal % 2 ^ 32 ≤ r.unread
    · rw [if_pos hfit] at hrun
      rw [if_pos (Nat.le_trans hfit (unread_le_extend h more))] at hrun'
      exact .of_ok hrun hrun'
    · rw [if_neg hfit] at hrun
      exact .of_err hrun (.inl (.inl rfl))
  · rw [if_neg hlength] at hrun hrun'
    exact .of_ok hrun hrun'

theorem skipLoop_follows (hlen : (data ++ more).length < 2 ^ 32) :
    ∀ (fuel : Nat) {level : Nat} {r : TLVReader}, r.unread < fuel → InBounds data r →
      Follows (extend more) NoMoreData (skipLoop outer level) r
  | 0, _, _, hfuel, _ => absurd hfuel (Nat.not_lt_zero _)
  | fuel + 1, level, r, hfuel, h => by
    have h' := h.extend hlen
    -- the rest of a round, and the rounds behind it
    have hon : ∀ (level' : Nat) (t : TLVReader), InBounds data t → t.unread ≤ r.unread →
        Follows (extend more) NoMoreData (skipOn outer level') t := by
      intro level' t ht hle
      apply (skipData_follows ht hlen).bind
      intro _ t₁ hskip
      obtain ⟨ht₁, hle₁⟩ := skipData_unread_le ht hskip
      apply (readElement_follows ht₁ hlen).bind
      intro _ t₂ hread
      obtain ⟨ht₂, hlt₂⟩ := readElement_unread_lt ht₁ hread
      exact skipLoop_follows hlen fuel (by omega) ht₂
    by_cases hend : r.elementType = ElementType.endOfContainer
    · cases level with
      | zero => exact .of_ok (skipLoop_end h outer hend) (skipLoop_end h' outer hend)
      | succ level =>
        have hin := inBounds_inContainer h (if level = 0 then outer else .unknownContainer)
        exact (hon level _ hin (Nat.le_refl _)).of_run (skipLoop_leave h outer level hend)
          (skipLoop_leave h' outer level hend)
    · by_cases hcont : tlvTypeIsContainer r.elementType = true
      · have hin := inBounds_inContainer h (.ofElementType r.elementType)
        exact (hon (level + 1) _ hin (Nat.le_refl _)).of_run (skipLoop_enter h outer level hcont)
          (skipLoop_enter h' outer level hcont)
      · rw [Bool.not_eq_true] at hcont
        exact (hon level r h (Nat.le_refl _)).of_run (skipLoop_over h outer level hend hcont)
          (skipLoop_over h' outer level hend hcont)

theorem exitContainer_follows (h : InBounds data r) (hlen : (data ++ more).length < 2 ^ 32) :
    Follows (extend more) NoMoreData (exitContainer outer) r := by
  refine Follows.bind ?_ fun _ s _ => .modify rfl
  exact (skipLoop_follows hlen (r.unread + 1) (Nat.lt_succ_self _) h).of_run (skipToEnd_eq r)
    (skipToEnd_eq _)

theorem enterContainer_follows : Follows (extend more) NoMoreData enterContainer r := by
  by_cases hcont : tlvTypeIsContainer r.elementType = true
  · exact .of_ok (enterContainer_run hcont) (enterContainer_run (r := extend more r) hcont)
  · rw [Bool.not_eq_true] at hcont
    exact .of_err (enterContainer_refused hcont)
      (.inr (enterContainer_refused (r := extend more r) hcont))

theorem skip_follows (h : InBounds data r) (hlen : (data ++ more).length < 2 ^ 32) :
    Follows (extend more) NoMoreData skip r := by
  refine (Follows.gets rfl).bind fun elemType s hs => ?_
  cases hs
  apply Follows.ite
  · exact fun _ => .throw MatterError.endOfTLV
  · intro _
    apply Follows.ite
    · intro _
      refine enterContainer_follows.bind fun outer s henter => ?_
      exact exitContainer_follows (enterContainer_inBounds h henter) hlen
    · intro _
      exact (skipData_follows h hlen).bind fun _ s _ => .modify rfl

theorem next_follows (h : InBounds data r) (hlen : (data ++ more).length < 2 ^ 32) :
    Follows (extend more) NoMoreData next r := by
  refine (skip_follows h hlen).bind fun _ t hskip => ?_
  refine (readElement_follows (skip_inBounds h hskip) hlen).bind fun _ s _ => ?_
  refine (Follows.gets rfl).bind fun elemType s hs => ?_
  apply Follows.ite
  · exact fun _ => .throw MatterError.endOfTLV
  · exact fun _ => .pure ()

end

/-- `Next` of a dissector. -/
theorem dissector_next_follows {data more : List UInt8} {d : TLVDissector}
    (h : InBounds data d.reader) (hlen : (data ++ more).length < 2 ^ 32) :
    Follows (extendTlv more) NoMoreData TLVDissector.next d := by
  have honReader : ∀ {x : ReaderM Unit} {d : TLVDissector},
      Follows (extend more) NoMoreData x d.reader →
      Follows (extendTlv more) NoMoreData (TLVDissector.onReader x) d := fun hx =>
    hx.zoom rfl fun _ => rfl
  refine (honReader (skip_follows h hlen)).bind fun _ d₁ hd₁ => ?_
  obtain ⟨t, hskip, rfl⟩ := onReader_eq_ok.1 hd₁
  have ht := skip_inBounds h hskip
  have hclear := skip_cleared hskip
  have hmark := @markElemStart_run { d with reader := t } hclear
  have hmark' := @markElemStart_run (extendTlv more { d with reader := t }) hclear
  refine (Follows.of_ok hmark hmark').bind fun _ d₂ hd₂ => ?_
  rw [hmark] at hd₂
  cases hd₂
  refine (honReader (next_follows ht hlen)).bind fun _ d₃ hd₃ => ?_
  obtain ⟨r, hnext, rfl⟩ := onReader_eq_ok.1 hd₃
  have hskip' := skip_follows (next_inBounds ht hnext) hlen
  unfold Follows
  rw [markElemLength_run]
  cases hcopy : TLVReader.skip.run r with
  | ok _ c =>
    exact markElemLength_eq_ok.2 ⟨_, hskip'.ok hcopy, rfl⟩
  | err e c =>
    refine (hskip'.err hcopy).imp_right fun hf => ?_
    exact markElemLength_eq_err.2 ⟨⟨_, hf⟩, rfl⟩
  | fault f => trivial

end Matter.TLV
