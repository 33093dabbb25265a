import MatterDissector.TLV.Proof.Handles
import MatterDissector.TLV.Proof.Walk

/-!
# The generic renderer

`Within n`: a program that keeps the reader in bounds, with no more than `n` bytes unread, and has
no fault. An element is at least a byte, so the depth that `addGenericTLVItemAt` grants suffices.

The renderer resets its string buffer without asking whether there is one. There is none exactly
when nothing has been appended (`NothingAppended`): an empty byte string, with neither a tag nor an
indentation in front (`addGenericTLVItem_nullDereference`). A member of a container is indented, so
only the element that the renderer is called on can be such a one (`addGenericTLVItemTo_within`).
-/

namespace Matter.TLV

open Prog Dissect Display
open TLVReader (InBounds)

section
variable {α β : Type} {data : List UInt8} {n : Nat}

/-! ## Programs without faults -/

/-- In bounds, with at most `n` bytes unread. -/
def AtMost (data : List UInt8) (n : Nat) (d : TLVDissector) : Prop :=
  TLVReader.AtMost data n d.reader

/-- `x` keeps the reader in bounds, does not go back, and has no fault. -/
def Within (data : List UInt8) (n : Nat) (x : DissectM α) : Prop :=
  Triple (fun s => AtMost data n s.tlv) x (fun _ s => AtMost data n s.tlv)
    (fun _ s => AtMost data n s.tlv)

theorem Within.pure (a : α) : Within data n (Pure.pure a : DissectM α) := Triple.pure fun _ h => h

theorem Within.throw (e : MatterError) : Within data n (Prog.throw e : DissectM α) :=
  Triple.throw fun _ h => h

theorem Within.bind {x : DissectM α} {k : α → DissectM β} (hx : Within data n x)
    (hk : ∀ a, Within data n (k a)) : Within data n (x >>= k) := Triple.bind hx hk

theorem Within.gets (f : DissectState → α) : Within data n (Prog.gets f) := Triple.gets fun _ h => h

theorem Within.ite {c : Prop} [Decidable c] {x y : DissectM α} (hx : Within data n x)
    (hy : Within data n y) : Within data n (if c then x else y) :=
  Triple.ite (fun _ => hx) fun _ => hy

/-- A move of the reader. -/
theorem onReader_within {Q : TLVReader → Prop} {x : ReaderM α} (hx : Triple
    (TLVReader.AtMost data n) x (fun _ => Q) (fun _ => TLVReader.AtMost data n)) :
    Triple (AtMost data n) (TLVDissector.onReader x) (fun _ d => Q d.reader)
      (fun _ => AtMost data n) :=
  Triple.zoom fun _ hs => hx.at hs

/-- A move of the dissector. -/
theorem onTlv_within {Q : TLVDissector → Prop} {x : DissectorM α} (hx : Triple (AtMost data n) x
    (fun _ => Q) (fun _ => AtMost data n)) :
    Triple (fun s => AtMost data n s.tlv) (onTlv x) (fun _ s => Q s.tlv)
      (fun _ s => AtMost data n s.tlv) :=
  Triple.zoom fun _ hs => hx.at hs

theorem within_onReader {x : ReaderM α} (hx : TLVReader.KeepsWithin data n x) :
    Within data n (onReader x) := onTlv_within (Q := AtMost data n) (onReader_within hx)

/-- A method that reads without moving. -/
theorem within_read {x : ReaderM α} (hkeep : TLVReader.Keeps data x) (hx : Leaves id x) :
    Within data n (onReader x) := within_onReader (TLVReader.keepsWithin_of_leaves hkeep hx)

theorem within_draw (call : Drawn) : Within data n (draw call) :=
  (Within.gets _).bind fun _ => Within.bind (Triple.modify fun _ h => h) fun _ => .pure _

theorem within_addShown (node : ProtoNode) (hfindex : HeaderField) (shown : Shown) :
    Within data n (addShown node hfindex shown) :=
  (Within.gets _).bind fun _ => within_draw _

theorem within_addLine (node : ProtoNode) (hfindex : HeaderField) (suppressHeader : Bool)
    (text : Text) : Within data n (addLine node hfindex suppressHeader text) :=
  .ite ((within_addShown _ _ _).bind fun _ => .pure _)
    ((within_addShown _ _ _).bind fun _ => .pure _)

/-! ## Programs with some faults -/

/-- As `Within`, but `x` may have a fault of `F`. -/
def Moves (F : Fault → Prop) (data : List UInt8) (n : Nat) (x : DissectM α) : Prop :=
  Ends F (fun s => AtMost data n s.tlv) x (fun _ s => AtMost data n s.tlv)
    (fun _ s => AtMost data n s.tlv)

section
variable {F : Fault → Prop} {x : DissectM α}

theorem within_iff_moves : Within data n x ↔ Moves (fun _ => False) data n x := Iff.rfl

theorem Within.moves (h : Within data n x) : Moves F data n x := Triple.ends h F

theorem Moves.pure (a : α) : Moves F data n (Pure.pure a : DissectM α) := (Within.pure a).moves

theorem Moves.throw (e : MatterError) : Moves F data n (Prog.throw e : DissectM α) :=
  (Within.throw e).moves

theorem Moves.bind {k : α → DissectM β} (hx : Moves F data n x) (hk : ∀ a, Moves F data n (k a)) :
    Moves F data n (x >>= k) := Ends.bind hx hk

theorem Moves.gets (f : DissectState → α) : Moves F data n (Prog.gets f) := (Within.gets f).moves

theorem Moves.verify (b : Bool) (e : MatterError) : Moves F data n (Prog.verify b e) :=
  Ends.verify (fun _ h _ => h) fun _ h _ => h

theorem Moves.ite {c : Prop} [Decidable c] {y : DissectM α} (hx : Moves F data n x)
    (hy : Moves F data n y) : Moves F data n (if c then x else y) :=
  Ends.ite (fun _ => hx) fun _ => hy

theorem Moves.attempt (hx : Moves F data n x) : Moves F data n (Prog.attempt x) :=
  Ends.attempt hx

/-- A program that looks at how much is unread. -/
theorem Moves.get_bind {k : DissectState → DissectM β}
    (hk : ∀ s, s.tlv.reader.unread ≤ n → Moves F data s.tlv.reader.unread (k s)) :
    Moves F data n (Prog.get >>= k) := by
  intro s hs
  have h := hk s hs.2 s ⟨hs.1, Nat.le_refl _⟩
  rw [Prog.get_bind]
  revert h
  cases (k s).run s with
  | ok a s' => exact fun h => ⟨h.1, Nat.le_trans h.2 hs.2⟩
  | err e s' => exact fun h => ⟨h.1, Nat.le_trans h.2 hs.2⟩
  | fault f => exact id

end

/-! ## Moving -/

theorem markElemStart_within :
    Triple (AtMost data n) TLVDissector.markElemStart (fun _ => AtMost data n)
      (fun _ => AtMost data n) :=
  Triple.get_bind fun _ => Triple.bind (Triple.verify (Q := fun _ => AtMost data n)
    (fun _ h _ => h.1) fun _ h _ => h.1) fun _ => Triple.modify fun _ h => h

/-- `MarkElemLength` does not move the reader. -/
theorem markElemLength_within {P : TLVReader → Prop} (hP : ∀ r, P r → InBounds data r) :
    Triple (fun d => P d.reader) TLVDissector.markElemLength (fun _ d => P d.reader)
      (fun _ d => P d.reader) := by
  intro d hd
  have hcopy := TLVReader.skip_keeps d.reader (hP _ hd)
  rw [markElemLength_run]
  cases hrun : TLVReader.skip.run d.reader with
  | ok a c => exact hd
  | err e c => exact hd
  | fault f => rw [hrun] at hcopy; exact hcopy

/-- In bounds, with less than `n` bytes unread. -/
def Below (data : List UInt8) (n : Nat) (d : TLVDissector) : Prop :=
  InBounds data d.reader ∧ d.reader.unread < n

theorem Below.atMost {d : TLVDissector} (h : Below data n d) : AtMost data n d := ⟨h.1, h.2.le⟩

/-- What the two forms of `Next` share. -/
theorem nextBy_progress (n : Nat) {readNext : ReaderM Unit} (h : Triple (TLVReader.AtMost data n)
    readNext (fun _ r => InBounds data r ∧ r.unread < n) (fun _ => TLVReader.AtMost data n)) :
    Triple (fun s => AtMost data n s.tlv) (onTlv (TLVDissector.nextBy readNext))
      (fun _ s => Below data n s.tlv) (fun _ s => AtMost data n s.tlv) := by
  refine onTlv_within (Q := Below data n) ?_
  refine Triple.bind (Q := fun _ => AtMost data n) (onReader_within (TLVReader.skip_within n))
    fun _ => Triple.bind markElemStart_within fun _ => ?_
  refine Triple.bind (onReader_within h) fun _ => ?_
  exact (markElemLength_within (P := fun r => InBounds data r ∧ r.unread < n)
    fun _ h => h.1).conseq (fun _ h => h) (fun _ _ h => h) fun _ _ h => Below.atMost h

/-- `Next` takes at least one byte. -/
theorem next_progress (n : Nat) :
    Triple (fun s => AtMost data n s.tlv) next (fun _ s => Below data n s.tlv)
      (fun _ s => AtMost data n s.tlv) := nextBy_progress n (TLVReader.next_progress n)

theorem enterContainer_within : Within data n enterContainer := by
  refine onTlv_within (Q := AtMost data n) ?_
  exact Triple.bind (Q := fun _ => AtMost data n)
    (onReader_within (TLVReader.enterContainer_within n)) fun _ => Triple.modify fun _ h => h

theorem exitContainer_within : Within data n exitContainer := by
  refine onTlv_within (Q := AtMost data n) (Triple.bind (Q := fun _ => AtMost data n) ?_
    fun containerType => onReader_within (TLVReader.exitContainer_within n containerType))
  refine Triple.get_bind fun d => ?_
  split
  · exact Triple.pure fun _ h => h.1
  · exact Triple.bind (Q := fun _ => AtMost data n) (Triple.modify fun _ h => h.1) fun _ =>
      Triple.pure fun _ h => h

/-! ## Loops over members -/

section
variable {F : Fault → Prop}

/-- What follows `Next` has less to read. -/
theorem moves_below {x : DissectM α} (hx : ∀ m, m < n → Moves F data m x) :
    Ends F (fun s => Below data n s.tlv) x (fun _ s => Below data n s.tlv)
      (fun _ s => AtMost data n s.tlv) := by
  refine Ends.of_each fun s hs => ?_
  have h := (hx _ hs.2).at (s := s) ⟨hs.1, Nat.le_refl _⟩
  exact h.conseq (fun _ h => h) (fun _ h => h) (fun _ _ h => ⟨h.1, Nat.lt_of_le_of_lt h.2 hs.2⟩)
    fun _ _ h => ⟨h.1, Nat.le_trans h.2 hs.2.le⟩

/-- After a round of a loop over members that began with `n` unread bytes. -/
abbrev MembersPost (data : List UInt8) (n : Nat) : β ⊕ β → DissectState → Prop :=
  RoundPost (fun _ (s : DissectState) => s.tlv.reader.unread)
    (fun _ (s : DissectState) => AtMost data n s.tlv)
    (fun _ (s : DissectState) => AtMost data n s.tlv) n

/-- A round of a loop over members: `Next` takes a byte, so the body has one less. -/
theorem memberRound_moves {body : β → DissectM β} (b : β)
    (hbody : ∀ m, m < n → Moves F data m (body b)) :
    Ends F (fun s => AtMost data n s.tlv)
      (do memberRound body b (← attempt next) : DissectM (β ⊕ β)) (MembersPost data n)
      (fun _ s => AtMost data n s.tlv) := by
  refine Ends.bind (Q := fun res s => match res with
    | .ok _ => Below data n s.tlv
    | .error _ => AtMost data n s.tlv) (Ends.attempt ((next_progress n).ends F)) fun res => ?_
  match res with
  | .ok () =>
    refine Ends.bind (moves_below hbody) fun b' => Ends.pure fun s hs => ?_
    exact ⟨hs.atMost, hs.2⟩
  | .error e => cases e <;> exact fun s hs => hs

/-- A loop whose rounds, from at most `n` unread bytes, take one. -/
theorem whileUnread_moves {body : β → DissectM (β ⊕ α)}
    (hround : ∀ b m, m ≤ n → Ends F (fun s => AtMost data m s.tlv) (body b)
      (RoundPost (fun _ s => s.tlv.reader.unread) (fun _ s => AtMost data m s.tlv)
        (fun _ s => AtMost data m s.tlv) m) (fun _ s => AtMost data m s.tlv)) (b : β) :
    Moves F data n (whileLoop (fun _ s => s.tlv.reader.unread) .outOfFuel body b) := by
  refine Ends.whileLoop (J := fun _ (s : DissectState) => AtMost data n s.tlv) (fun b m => ?_) b
  rintro s ⟨hs, rfl⟩
  have hmono : ∀ {d}, AtMost data s.tlv.reader.unread d → AtMost data n d :=
    fun h => ⟨h.1, Nat.le_trans h.2 hs.2⟩
  have h := hround b _ hs.2 s ⟨hs.1, Nat.le_refl _⟩
  revert h
  cases (body b).run s with
  | ok res s' =>
    cases res with
    | inl b' => exact fun h => ⟨hmono h.1, h.2⟩
    | inr a => exact hmono
  | err e s' => exact hmono
  | fault f => exact id

theorem forMembers_moves {body : β → DissectM β}
    (hbody : ∀ b m, m < n → Moves F data m (body b)) (b : β) :
    Moves F data n (forMembers body b) :=
  whileUnread_moves (fun b _ hm => memberRound_moves b fun k hk =>
    hbody b k (Nat.lt_of_lt_of_le hk hm)) b

end

theorem forMembers_within {body : β → DissectM β}
    (hbody : ∀ b m, m < n → Within data m (body b)) (b : β) :
    Within data n (forMembers body b) := within_iff_moves.2 (forMembers_moves hbody b)

/-! ## The string buffer -/

section
variable (host : Host)

/-- A terminated buffer, which is there unless `unallocated`. -/
def Buffered (unallocated : Prop) (strBuf : StrBuf) : Prop :=
  strBuf.Terminated ∧ (strBuf = none → unallocated)

theorem Buffered.mono {p q : Prop} {strBuf : StrBuf} (h : Buffered p strBuf) (hpq : p → q) :
    Buffered q strBuf := ⟨h.1, hpq ∘ h.2⟩

/-- What appends to the buffer. -/
def Appends (data : List UInt8) (n : Nat) (unallocated : Prop) (x : DissectM StrBuf) : Prop :=
  Triple (fun s => AtMost data n s.tlv) x
    (fun strBuf s => AtMost data n s.tlv ∧ Buffered unallocated strBuf)
    (fun _ s => AtMost data n s.tlv)

variable {unallocated : Prop} {strBuf : StrBuf}

theorem Appends.bind {x : DissectM α} {k : α → DissectM StrBuf} (hx : Within data n x)
    (hk : ∀ a, Appends data n unallocated (k a)) : Appends data n unallocated (x >>= k) :=
  Triple.bind hx hk

/-- Appending allocates, and looks at nothing else. -/
theorem append_eq (text : Text) (h : strBuf.Terminated) :
    ∃ strBuf', append host text strBuf = Pure.pure strBuf' ∧ Buffered False strBuf' := by
  obtain ⟨mem, hmem, h0⟩ := StrBuf.appendStringF_ok host.uninit text h
  refine ⟨some mem, by rw [append, hmem]; rfl, fun mem' he => ?_, fun he => by cases he⟩
  cases he
  exact h0

theorem append_appends (text : Text) (h : strBuf.Terminated) :
    Appends data n False (append host text strBuf) := by
  obtain ⟨strBuf', heq, hbuf⟩ := append_eq host text h
  rw [heq]
  exact Triple.pure fun s hs => ⟨hs, hbuf⟩

theorem appendTag_eq (suppressTag : Bool) (tag : Nat) (h : Buffered unallocated strBuf) :
    ∃ strBuf', appendTag host suppressTag tag strBuf = Pure.pure strBuf' ∧
      Buffered (unallocated ∧
        (suppressTag = true ∨ (isContextTag tag = false ∧ isProfileTag tag = false))) strBuf' := by
  have happend : ∀ text : Text, ∃ strBuf', append host text strBuf = Pure.pure strBuf' ∧
      Buffered (unallocated ∧ (suppressTag = true ∨
        (isContextTag tag = false ∧ isProfileTag tag = false))) strBuf' := fun text => by
    obtain ⟨strBuf', heq, hbuf⟩ := append_eq host text h.1
    exact ⟨strBuf', heq, hbuf.mono False.elim⟩
  unfold appendTag
  split
  · exact ⟨strBuf, rfl, h.mono fun hu => ⟨hu, .inl ‹_›⟩⟩
  split
  · exact happend _
  split
  · exact happend _
  · rename_i hcontext hprofile
    exact ⟨strBuf, rfl, h.mono fun hu => ⟨hu, .inr ⟨by simpa using hcontext,
      by simpa using hprofile⟩⟩⟩

/-- An empty byte string that `GetDataPtr` can point at. -/
def EmptyBytes (r : TLVReader) : Prop :=
  r.getType = .byteString ∧ r.getLength = 0 ∧ r.readPoint ≠ r.bufEnd

theorem elementType_cases (r : TLVReader) :
    r.elementType < 32 ∨ r.elementType = ElementType.notSpecified := by
  unfold TLVReader.elementType
  split
  · exact .inr rfl
  · exact .inl (Nat.lt_succ_of_le Nat.and_le_right)

theorem isString_of_byteString {r : TLVReader} (h : r.getType = .byteString) :
    tlvTypeIsString r.elementType = true := by
  unfold TLVReader.getType at h
  rcases elementType_cases r with hlt | heq
  · have hall : ∀ elemType < 32, typeOf elemType = .byteString →
        tlvTypeIsString elemType = true := by decide
    exact hall _ hlt h
  · rw [heq] at h
    exact absurd h (by decide)

section
variable {s : DissectState}

theorem dataBytes_run {p : Nat} (h : InBounds data s.tlv.reader)
    (hptr : TLVReader.getDataPtr.run s.tlv.reader = .ok p s.tlv.reader) :
    dataBytes.run s = .ok ((data.drop p).take s.tlv.reader.getLength) s := by
  have hfit := TLVReader.getDataPtr_inBuffer h hptr
  rw [dataBytes, bind_ok (dissect_onReader_eq_ok.2 ⟨_, hptr, rfl⟩)]
  refine dissect_onReader_eq_ok.2 ⟨s.tlv.reader, ?_, rfl⟩
  have hcopy := TLVReader.copyBytes_eq hfit s.tlv.reader
  rw [← h.data_eq] at hcopy ⊢
  exact hcopy

theorem dataBytes_cases (h : InBounds data s.tlv.reader) :
    (∃ e, dataBytes.run s = .err e s) ∨ (s.tlv.reader.readPoint ≠ s.tlv.reader.bufEnd ∧
      ∃ bytes, dataBytes.run s = .ok bytes s ∧ bytes.length = s.tlv.reader.getLength) := by
  have hkeep := TLVReader.getDataPtr_keeps s.tlv.reader h
  cases hptr : TLVReader.getDataPtr.run s.tlv.reader with
  | ok p r =>
    have hr : r = s.tlv.reader := leaves_getDataPtr.ok hptr
    subst hr
    have hfit := TLVReader.getDataPtr_inBuffer h hptr
    refine .inr ⟨(TLVReader.getDataPtr_eq_ok.1 hptr).2.1, _, dataBytes_run h hptr, ?_⟩
    rw [List.length_take, List.length_drop]
    omega
  | err e r =>
    have hr : r = s.tlv.reader := leaves_getDataPtr.err hptr
    subst hr
    exact .inl ⟨e, bind_err (dissect_onReader_eq_err.2 ⟨_, hptr, rfl⟩)⟩
  | fault f => rw [hptr] at hkeep; exact hkeep.elim

theorem dataBytes_empty (h : InBounds data s.tlv.reader) (hempty : EmptyBytes s.tlv.reader) :
    dataBytes.run s = .ok [] s := by
  obtain ⟨htype, hlen, hend⟩ := hempty
  have hstr := isString_of_byteString htype
  have hptr := TLVReader.getDataPtr_eq_ok.2 ⟨hstr, hend, by
    rw [← TLVReader.getLength_of_isString hstr, hlen]; exact Nat.zero_le _, rfl, rfl⟩
  rw [dataBytes_run h hptr, hlen]
  rfl

/-- A byte string is appended byte by byte. -/
theorem foldlM_appends (text : UInt8 → Text) :
    ∀ (bytes : List UInt8) {unallocated : Prop} {strBuf : StrBuf}, Buffered unallocated strBuf →
      Appends data n (unallocated ∧ bytes = [])
        (bytes.foldlM (fun strBuf b => append host (text b) strBuf) strBuf)
  | [], _, _, h => Triple.pure fun s hs => ⟨hs, h.mono fun hu => ⟨hu, rfl⟩⟩
  | b :: bytes, _, _, h =>
    Triple.bind (append_appends host (text b) h.1) fun strBuf' => by
      refine Triple.of_each fun s hs => ?_
      exact ((foldlM_appends text bytes hs.2).at hs.1).conseq (fun _ h => h)
        (fun _ _ h => ⟨h.1, h.2.mono fun hu => hu.1.elim⟩) fun _ _ h => h

/-- The value of an element appends something, unless it is an empty byte string. -/
theorem appendValue_appends (hs : AtMost data n s.tlv) (h : Buffered unallocated strBuf) :
    Triple (· = s) (appendValue host strBuf s.tlv.reader.getType)
      (fun strBuf s' => AtMost data n s'.tlv ∧
        Buffered (unallocated ∧ EmptyBytes s.tlv.reader) strBuf)
      (fun _ s' => AtMost data n s'.tlv) := by
  have hread : ∀ {γ : Type} {x : ReaderM γ} (text : γ → Text), TLVReader.Keeps data x →
      Leaves id x → Triple (· = s) (do append host (text (← onReader x)) strBuf)
        (fun strBuf s' => AtMost data n s'.tlv ∧
          Buffered (unallocated ∧ EmptyBytes s.tlv.reader) strBuf)
        (fun _ s' => AtMost data n s'.tlv) := fun text hkeep hx =>
    (Appends.bind (within_read hkeep hx) fun v =>
      (append_appends host (text v) h.1).conseq (fun _ h => h)
        (fun _ _ h => ⟨h.1, h.2.mono False.elim⟩) fun _ _ h => h).at hs
  have hlit : ∀ text : Text, Triple (· = s) (append host text strBuf)
        (fun strBuf s' => AtMost data n s'.tlv ∧
          Buffered (unallocated ∧ EmptyBytes s.tlv.reader) strBuf)
        (fun _ s' => AtMost data n s'.tlv) := fun text =>
    ((append_appends host text h.1).conseq (fun _ h => h)
      (fun _ _ h => ⟨h.1, h.2.mono False.elim⟩) fun _ _ h => h).at hs
  generalize htype : s.tlv.reader.getType = type
  unfold appendValue
  split
  · exact hread _ TLVReader.getInt64_keeps leaves_getInt64
  · exact hread _ TLVReader.getUInt64_keeps leaves_getUInt64
  · exact hread _ TLVReader.getBool_keeps leaves_getBool
  · exact hread _ TLVReader.getDouble_keeps leaves_getDouble
  · exact (Appends.bind (within_onReader (TLVReader.dupString_within n)) fun v =>
      (append_appends host _ h.1).conseq (fun _ h => h)
        (fun _ _ h => ⟨h.1, h.2.mono False.elim⟩) fun _ _ h => h).at hs
  · rintro _ rfl
    rcases dataBytes_cases hs.1 with ⟨e, hrun⟩ | ⟨hend, bytes, hrun, hlen⟩
    · rw [bind_err hrun]
      exact hs
    · rw [bind_ok hrun]
      refine (foldlM_appends host _ bytes h).conseq (fun _ h => h) (fun _ _ h => ⟨h.1,
        h.2.mono fun ⟨hu, hnil⟩ => ⟨hu, htype, ?_, hend⟩⟩) (fun _ _ h => h) _ hs
      rw [← hlen, hnil]
      rfl
  · exact hlit _
  · exact hlit _
  · exact hlit _
  · exact hlit _
  · rintro _ rfl
    exact hs

end

/-! ## The renderer -/

section
variable (node : ProtoNode) (hfindex : HeaderField)

/-- No part of the line has been appended to the buffer: not the indentation, not the tag, and
not the value. -/
def NothingAppended (suppressTag suppressHeader : Bool) (indentLevel : Nat) (r : TLVReader) :
    Prop :=
  ((if suppressHeader then indentLevel else 0) = 0 ∧
    (suppressTag = true ∨ (isContextTag r.getTag = false ∧ isProfileTag r.getTag = false))) ∧
  EmptyBytes r

theorem checked_eq {a : α} {x : Except Fault α} (h : x = .ok a) :
    checked x = Pure.pure a := by rw [h]; rfl

/-- The closing bracket. -/
theorem closing_within (text : Text) (indentLevel : Nat) (type : TLVType) {strBuf : StrBuf}
    (h : strBuf.Terminated) :
    Within data n (do
      let strBuf ← checked (strBuf.appendRepeated host.uninit text indentLevel)
      let strBuf ← append host (Text.lit (closeChar type)) strBuf
      addStringItemWithHeaderF node hfindex (← checked strBuf.shown)) := by
  obtain ⟨strBuf₁, hrepeat, hterm₁, -⟩ := StrBuf.appendRepeated_ok host.uninit text indentLevel h
  rw [checked_eq hrepeat, pure_bind]
  refine Triple.bind (append_appends host _ hterm₁) fun strBuf₂ => ?_
  refine Triple.of_each fun s hs => ?_
  obtain ⟨shown, hshown⟩ := StrBuf.shown_ok hs.2.1
  rw [checked_eq hshown, pure_bind]
  exact Triple.at (Within.bind (within_addShown _ _ _) fun _ => .pure _) hs.1

theorem addGenericTLVItemTo_succ {depth : Nat} (suppressTag suppressHeader : Bool)
    (indentLevel : Nat)
    (hmember : ∀ m, m < n → Within data m
      (addGenericTLVItemTo host node hfindex depth false true (indentLevel + 1))) :
    Triple (fun s => AtMost data n s.tlv ∧
        ¬ NothingAppended suppressTag suppressHeader indentLevel s.tlv.reader)
      (addGenericTLVItemTo host node hfindex (depth + 1) suppressTag suppressHeader indentLevel)
      (fun _ s => AtMost data n s.tlv) (fun _ s => AtMost data n s.tlv) := by
  refine Triple.of_each fun s hs => ?_
  unfold addGenericTLVItemTo
  have hrun : ∀ k : TLVType → Nat → DissectM Unit,
      Triple (· = s) (k s.tlv.reader.getType s.tlv.reader.getTag)
        (fun _ s => AtMost data n s.tlv) (fun _ s => AtMost data n s.tlv) →
      Triple (· = s) (do let type ← getType; let tag ← getTag; k type tag)
        (fun _ s => AtMost data n s.tlv) (fun _ s => AtMost data n s.tlv) := by
    rintro k hk _ rfl
    exact hk _ rfl
  refine hrun _ ?_
  dsimp only
  obtain ⟨strBuf₁, hrepeat, hterm₁, hnone₁, -⟩ := StrBuf.appendRepeated_ok host.uninit
    (Text.lit "    ") (if suppressHeader then indentLevel else 0) StrBuf.terminated_none
  obtain ⟨strBuf₂, htag, hbuf₂⟩ := appendTag_eq host suppressTag s.tlv.reader.getTag
    (⟨hterm₁, fun h => (hnone₁ h).2⟩ : Buffered _ strBuf₁)
  rw [checked_eq hrepeat, pure_bind, htag, pure_bind]
  refine Triple.bind (appendValue_appends host hs.1 hbuf₂) fun strBuf₃ => ?_
  refine Triple.of_each fun s₃ hs₃ => ?_
  obtain ⟨hs₃, hbuf₃⟩ := hs₃
  obtain ⟨shown, hshown⟩ := StrBuf.shown_ok hbuf₃.1
  rw [checked_eq hshown, pure_bind]
  cases strBuf₃ with
  | none => exact absurd (hbuf₃.2 rfl) hs.2
  | some mem =>
    obtain ⟨mem', hreset, hterm⟩ := StrBuf.reset_ok (hbuf₃.1 mem rfl)
    rw [checked_eq hreset]
    refine Triple.at (P := fun s => AtMost data n s.tlv) ?_ hs₃
    refine Within.bind (within_addLine _ _ _ _) fun _ => ?_
    rw [pure_bind]
    refine Within.ite ?_ (.pure _)
    refine enterContainer_within.bind fun _ => ?_
    refine (forMembers_within (fun _ m hm => hmember m hm) ()).bind fun _ => ?_
    refine exitContainer_within.bind fun _ => ?_
    exact closing_within host node hfindex _ _ _ fun mem'' he => by cases he; exact hterm

/-- A member of a container is indented, so something is appended. -/
theorem addGenericTLVItemTo_within :
    ∀ (depth : Nat) {n : Nat} (suppressTag : Bool) {indentLevel : Nat}, n < depth →
      0 < indentLevel → Within data n
        (addGenericTLVItemTo host node hfindex depth suppressTag true indentLevel)
  | 0, _, _, _, h, _ => absurd h (Nat.not_lt_zero _)
  | depth + 1, n, suppressTag, indentLevel, hn, hindent =>
    (addGenericTLVItemTo_succ host node hfindex suppressTag true indentLevel fun m hm =>
      addGenericTLVItemTo_within depth false (by omega) (Nat.succ_pos _)).conseq
        (fun s hs => ⟨hs, fun h => absurd h.1.1 (by simpa using hindent.ne')⟩)
        (fun _ _ h => h) fun _ _ h => h

/-- Where something is appended, there is no fault. -/
theorem addGenericTLVItemAt_noFault {s : DissectState} (suppressTag suppressHeader : Bool)
    (indentLevel : Nat) (h : InBounds data s.tlv.reader)
    (hsome : ¬ NothingAppended suppressTag suppressHeader indentLevel s.tlv.reader) :
    Triple (· = s) (addGenericTLVItemAt host node hfindex suppressTag suppressHeader indentLevel)
      (fun _ s' => AtMost data s.tlv.reader.unread s'.tlv)
      (fun _ s' => AtMost data s.tlv.reader.unread s'.tlv) := by
  have hmember : ∀ m, m < s.tlv.reader.unread → Within data m (addGenericTLVItemTo host node hfindex
      s.tlv.reader.unread false true (indentLevel + 1)) := fun m hm =>
    addGenericTLVItemTo_within host node hfindex _ false hm (Nat.succ_pos indentLevel)
  have hdepth := addGenericTLVItemTo_succ host node hfindex suppressTag suppressHeader indentLevel
    hmember
  intro s' hs'
  rw [hs', addGenericTLVItemAt, get_bind]
  exact hdepth s ⟨⟨h, Nat.le_refl _⟩, hsome⟩

/-- Where nothing is appended, the reset dereferences the null pointer. -/
theorem addGenericTLVItemAt_fault {s : DissectState} {suppressTag suppressHeader : Bool}
    {indentLevel : Nat} (h : InBounds data s.tlv.reader)
    (hnone : NothingAppended suppressTag suppressHeader indentLevel s.tlv.reader) :
    (addGenericTLVItemAt host node hfindex suppressTag suppressHeader indentLevel).run s =
      .fault .nullDereference := by
  obtain ⟨⟨hindent, htag⟩, hempty⟩ := hnone
  have happendTag : appendTag host suppressTag s.tlv.reader.getTag none = Pure.pure none := by
    rcases htag with hsuppress | ⟨hcontext, hprofile⟩
    · exact if_pos hsuppress
    · by_cases hsuppress : suppressTag = true
      · exact if_pos hsuppress
      · rw [appendTag, if_neg hsuppress, if_neg (by simp [hcontext]), if_neg (by simp [hprofile])]
  have hvalue : (appendValue host none s.tlv.reader.getType).run s = .ok none s := by
    rw [hempty.1]
    exact bind_ok (dataBytes_empty h hempty)
  rw [addGenericTLVItemAt, get_bind, addGenericTLVItemTo, getType, gets_bind, getTag, gets_bind,
    hindent]
  have hrepeat : checked (StrBuf.appendRepeated host.uninit (Text.lit "    ") 0 none) =
    Pure.pure none := rfl
  dsimp only
  rw [hrepeat, pure_bind, happendTag, pure_bind, bind_ok hvalue]
  have hshown : checked (StrBuf.shown none) = Pure.pure (Text.lit "(null)") := rfl
  rw [hshown, pure_bind]
  cases suppressHeader <;> rfl

/-- `AddGenericTLVItem` has a buffer to reset exactly when something has been appended. -/
theorem addGenericTLVItem_allocated_iff {s₀ s : DissectState} (hs₀ : InBounds data s₀.tlv.reader)
    (hnext : next.run s₀ = .ok () s) (suppressTag suppressHeader : Bool) (indentLevel : Nat) :
    (addGenericTLVItemAt host node hfindex suppressTag suppressHeader indentLevel).run s ≠
        .fault .nullDereference ↔
      ¬ NothingAppended suppressTag suppressHeader indentLevel s.tlv.reader := by
  obtain ⟨d, hd, rfl⟩ := onTlv_eq_ok.1 hnext
  have hbounds := (next_focused hs₀ hd).inBounds
  refine ⟨fun h hnone => h (addGenericTLVItemAt_fault host node hfindex hbounds hnone),
    fun hsome hfault => ?_⟩
  have hrun := addGenericTLVItemAt_noFault host node hfindex suppressTag suppressHeader indentLevel
    hbounds hsome _ rfl
  rw [hfault] at hrun
  exact hrun

end

end

end

/-- A host without escapes that shows no number. -/
def plainHost : Host where
  uninit _ := 0
  wsEscapeString := id
  formatG _ := []
  formatG17 _ := []

/-- In the structure of `15 30 01 00 18`, in front of its member. -/
def insideCommandData : DissectState :=
  .start
    { reader :=
        { TLVReader.init [0x15, 0x30, 0x01, 0x00, 0x18] 5 with
          readPoint := 1, lenRead := 1, containerType := .struct }
      sourceBufBaseOffset := 0
      elemStart := 0
      elemLen := 5
      containerStack := [⟨.notSpecified, 0, 5⟩] }

/-- The member `30 01 00`: a context-tagged empty byte string, shown without its tag. -/
theorem addGenericTLVItem_unallocated :
    (do next; enterContainer : DissectM Unit).run
        (.start (.init [0x15, 0x30, 0x01, 0x00, 0x18] 5 0)) = .ok () insideCommandData ∧
      ∃ s, next.run insideCommandData = .ok () s ∧
        (addGenericTLVItem plainHost .messageTree .commandRequestArgument true).run s =
          .fault .nullDereference :=
  ⟨rfl, _, rfl, rfl⟩

theorem addGenericTLVItem_allocated_iff_member :
    ∃ s, next.run insideCommandData = .ok () s ∧
      ((addGenericTLVItemAt plainHost .messageTree .commandRequestArgument false false 0).run s ≠
          .fault .nullDereference ↔ ¬ NothingAppended false false 0 s.tlv.reader) :=
  have h : InBounds [0x15, 0x30, 0x01, 0x00, 0x18] insideCommandData.tlv.reader :=
    ⟨rfl, rfl, by decide, rfl, rfl, by decide⟩
  ⟨_, rfl, addGenericTLVItem_allocated_iff plainHost .messageTree .commandRequestArgument h rfl
    false false 0⟩

end Matter.TLV
