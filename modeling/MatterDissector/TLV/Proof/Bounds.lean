import MatterDissector.TLV.Proof.ReaderSpec

/-!
# The reader stays inside its buffer

`InBounds` holds of every state that a client of the reader can bring about: each public
operation keeps it on success and on failure, without a fault (`Keeps`), so any sequence of them
does (`runOps_inBounds`), whatever the client makes of the error codes. The loops end because
every element read takes at least its control byte (`readElement_progress`).
-/

namespace Matter.TLV.TLVReader

open Prog

/-- `x` keeps the reader of `data` in bounds, and has no fault. -/
def Keeps {α : Type} (data : List UInt8) (x : ReaderM α) : Prop :=
  Triple (InBounds data) x (fun _ => InBounds data) (fun _ => InBounds data)

/-- In bounds, with at most `n` bytes unread. -/
def AtMost (data : List UInt8) (n : Nat) (r : TLVReader) : Prop := InBounds data r ∧ r.unread ≤ n

/-- As `Keeps`, and the reader does not go back. -/
def KeepsWithin {α : Type} (data : List UInt8) (n : Nat) (x : ReaderM α) : Prop :=
  Triple (AtMost data n) x (fun _ => AtMost data n) (fun _ => AtMost data n)

section
variable {α β : Type} {data : List UInt8} {n : Nat}

theorem Keeps.bind {x : ReaderM α} {k : α → ReaderM β} (hx : Keeps data x)
    (hk : ∀ a, Keeps data (k a)) : Keeps data (x >>= k) := Triple.bind hx hk

theorem Keeps.pure (a : α) : Keeps data (Pure.pure a : ReaderM α) := fun _ h => h

theorem Keeps.throw (e : MatterError) : Keeps data (Prog.throw e : ReaderM α) := fun _ h => h

theorem Keeps.get : Keeps data Prog.get := fun _ h => h

theorem Keeps.gets (f : TLVReader → α) : Keeps data (Prog.gets f) := fun _ h => h

theorem Keeps.verify (b : Bool) (e : MatterError) : Keeps data (Prog.verify b e) :=
  Triple.verify (fun _ h _ => h) (fun _ h _ => h)

theorem Keeps.attempt {x : ReaderM α} (hx : Keeps data x) : Keeps data (Prog.attempt x) :=
  Triple.attempt hx

theorem Keeps.modify {f : TLVReader → TLVReader} (hf : ∀ r, InBounds data r → InBounds data (f r)) :
    Keeps data (Prog.modify f) := hf

/-- A change of the element state. -/
theorem Keeps.setElement {f : TLVReader → TLVReader}
    (hf : ∀ r, (f r).data = r.data ∧ (f r).readPoint = r.readPoint ∧ (f r).bufEnd = r.bufEnd ∧
      (f r).lenRead = r.lenRead ∧ (f r).maxLen = r.maxLen := by
        exact fun _ => ⟨rfl, rfl, rfl, rfl, rfl⟩) : Keeps data (Prog.modify f) :=
  Keeps.modify fun r h => h.congr (hf r).1 (hf r).2.1 (hf r).2.2.1 (hf r).2.2.2.1 (hf r).2.2.2.2

theorem KeepsWithin.keeps {x : ReaderM α} (hx : ∀ n, KeepsWithin data n x) : Keeps data x :=
  fun r h => by
    have := hx r.unread r ⟨h, Nat.le_refl _⟩
    cases hr : x.run r with
    | ok a r' => rw [hr] at this; exact this.1
    | err e r' => rw [hr] at this; exact this.1
    | fault f => rw [hr] at this; exact this

/-- An operation that only looks. -/
theorem keepsWithin_of_leaves {x : ReaderM α} (hkeep : Keeps data x) (hx : Leaves id x) :
    KeepsWithin data n x := by
  intro r h
  have hr := hkeep r h.1
  cases hrun : x.run r with
  | ok a r' =>
    rw [show r' = r from hx.ok hrun]
    exact h
  | err e r' =>
    rw [show r' = r from hx.err hrun]
    exact h
  | fault f => rw [hrun] at hr; exact hr

theorem KeepsWithin.pure (a : α) : KeepsWithin data n (Pure.pure a : ReaderM α) :=
  Triple.pure fun _ h => h

theorem KeepsWithin.verify_bind (b : Bool) (e : MatterError) {k : Unit → ReaderM α}
    (hk : KeepsWithin data n (k ())) : KeepsWithin data n (Prog.verify b e >>= k) :=
  Triple.bind (Triple.verify (Q := fun _ => AtMost data n) (fun _ h _ => h) fun _ h _ => h)
    fun _ => hk

theorem KeepsWithin.get_bind {k : TLVReader → ReaderM α} (hk : ∀ r, KeepsWithin data n (k r)) :
    KeepsWithin data n (Prog.get >>= k) :=
  Triple.get_bind fun r => (hk r).conseq (fun _ h => h.1) (fun _ _ h => h) fun _ _ h => h

/-! ## The operations -/

theorem unread_advance_le (r : TLVReader) (n : Nat) : (r.advance n).unread ≤ r.unread := by
  simp only [unread, data_advance, readPoint_advance]
  omega

theorem readData_within (n : Nat) (buf : Dest) (len : Nat) (hbuf : buf ≠ .stagingBuf) :
    KeepsWithin data n (readData buf len) := by
  intro r ⟨h, hn⟩
  rw [readData_eq h buf len (fun he => absurd he hbuf)]
  by_cases hle : len ≤ r.unread
  · rw [if_pos hle]
    exact ⟨h.advance hle, Nat.le_trans (unread_advance_le r len) hn⟩
  · rw [if_neg hle]
    exact ⟨h.advance (Nat.le_refl _), Nat.le_trans (unread_advance_le r _) hn⟩

theorem skipData_within (n : Nat) : KeepsWithin data n skipData := by
  intro r h
  rw [skipData, get_bind]
  by_cases hlen : tlvTypeHasLength r.elementType = true
  · rw [if_pos hlen]
    exact Triple.bind (R := fun _ => AtMost data n)
      (readData_within n .null (r.elemLenOrVal % 2 ^ 32) (by decide))
      (fun _ => Triple.pure fun _ h => h) r h
  · rw [if_neg hlen]
    exact h

/-- Reading an element takes at least one byte. -/
theorem readElement_progress (n : Nat) :
    Triple (AtMost data n) readElement (fun _ r => InBounds data r ∧ r.unread < n)
      (fun _ => AtMost data n) := by
  intro r ⟨h, hn⟩
  rw [readElement_eq h]
  cases hd : data.drop r.readPoint with
  | nil => exact ⟨h, hn⟩
  | cons b bs =>
    dsimp only
    by_cases hvalid : isValidTLVType (b.toNat &&& typeMask) = false
    · rw [if_pos hvalid]
      exact ⟨h.congr rfl rfl rfl rfl rfl, hn⟩
    rw [if_neg hvalid]
    by_cases hhead : r.unread < headSize b.toNat
    · rw [if_pos hhead]
      exact ⟨(h.advance (Nat.le_refl _)).congr rfl rfl rfl rfl rfl,
        Nat.le_trans (unread_advance_le r _) hn⟩
    rw [if_neg hhead]
    have hpos := headSize_pos b.toNat
    have hadv : InBounds data (r.advance (headSize b.toNat)) := h.advance (by omega)
    have hkeep : InBounds data ((r.advance (headSize b.toNat)).withHead
        (decodeHead r.implicitProfileId (b :: bs))) := hadv.congr rfl rfl rfl rfl rfl
    have hless : ((r.advance (headSize b.toNat)).withHead
        (decodeHead r.implicitProfileId (b :: bs))).unread < n := by
      rw [hkeep.unread_eq]
      rw [h.unread_eq] at hn hhead
      simp only [withHead, readPoint_advance]
      omega
    rcases verifyElement_cases ((r.advance (headSize b.toNat)).withHead
      (decodeHead r.implicitProfileId (b :: bs))) with hv | ⟨e, hv⟩ <;> rw [hv]
    · exact ⟨hkeep, hless⟩
    · exact ⟨hkeep, hless.le⟩

/-- After a round of the skipping loop that began with `n` unread bytes. -/
abbrev SkipPost (data : List UInt8) (n : Nat) : Nat ⊕ Unit → TLVReader → Prop :=
  RoundPost (fun _ r => r.unread) (fun _ => InBounds data) (fun _ => AtMost data n) n

/-- A round of the skipping loop: after its own bookkeeping it skips data and reads an element. -/
theorem skipRound_tail (n level : Nat) (f : TLVReader → TLVReader)
    (hf : ∀ r, InBounds data r → InBounds data (f r) ∧ (f r).unread = r.unread) :
    Triple (fun r => InBounds data r ∧ r.unread = n)
      (do modify f; skipData; readElement; pure (.inl level) : ReaderM (Nat ⊕ Unit))
      (SkipPost data n) (fun _ => AtMost data n) := by
  refine Triple.bind (Triple.modify fun r h => ?_) fun _ =>
    Triple.bind (skipData_within n) fun _ =>
      Triple.bind (readElement_progress n) fun _ => Triple.pure fun r h => h
  exact ⟨(hf r h.1).1, by rw [(hf r h.1).2, h.2]⟩

theorem skipRound_keeps (outer : TLVType) (level n : Nat) :
    Triple (fun r => InBounds data r ∧ r.unread = n) (skipRound outer level)
      (SkipPost data n) (fun _ => AtMost data n) := by
  intro r h
  unfold skipRound
  rw [get_bind]
  dsimp only
  by_cases hend : r.elementType = ElementType.endOfContainer
  · rw [if_pos hend]
    cases level with
    | zero => exact ⟨h.1, h.2.le⟩
    | succ level =>
      exact skipRound_tail n level
        (fun r => { r with containerType := if level = 0 then outer else .unknownContainer })
        (fun r h => ⟨h.congr rfl rfl rfl rfl rfl, rfl⟩) r h
  rw [if_neg hend]
  by_cases hcont : tlvTypeIsContainer r.elementType = true
  · rw [if_pos hcont]
    exact skipRound_tail n (level + 1)
      (fun s => { s with containerType := .ofElementType r.elementType })
      (fun r h => ⟨h.congr rfl rfl rfl rfl rfl, rfl⟩) r h
  · rw [if_neg hcont]
    exact skipRound_tail n level id (fun r h => ⟨h, rfl⟩) r h

theorem skipToEndOfContainer_within (n : Nat) : KeepsWithin data n skipToEndOfContainer := by
  refine Triple.gets_bind fun outer => Triple.conseq (P := AtMost data n) ?_ (fun _ h => h.1)
    (fun _ _ h => h) (fun _ _ h => h)
  refine Triple.whileLoop (J := fun _ => AtMost data n) (fun level m => ?_) 0
  intro r ⟨⟨h, hn⟩, hm⟩
  have hround := skipRound_keeps outer level m r ⟨h, hm⟩
  have hmn : m ≤ n := hm ▸ hn
  cases hr : (skipRound outer level).run r with
  | ok next r' =>
    rw [hr] at hround
    cases next with
    | inl level' =>
      have hlt : r'.unread < m := hround.2
      exact ⟨⟨hround.1, by omega⟩, hlt⟩
    | inr _ => exact ⟨hround.1, Nat.le_trans hround.2 hmn⟩
  | err e r' => rw [hr] at hround; exact ⟨hround.1, Nat.le_trans hround.2 hmn⟩
  | fault f => rw [hr] at hround; exact hround

theorem enterContainer_within (n : Nat) : KeepsWithin data n enterContainer :=
  Triple.get_bind fun _ =>
    Triple.bind (Triple.verify (Q := fun _ => AtMost data n) (fun _ h _ => h.1)
      (fun _ h _ => h.1)) fun _ =>
      Triple.bind (Triple.modify (Q := fun _ => AtMost data n)
        fun _ h => ⟨h.1.congr rfl rfl rfl rfl rfl, h.2⟩) fun _ => Triple.pure fun _ h => h

theorem exitContainer_within (n : Nat) (outer : TLVType) :
    KeepsWithin data n (exitContainer outer) :=
  Triple.bind (skipToEndOfContainer_within n) fun _ =>
    Triple.modify fun _ h => ⟨h.1.congr rfl rfl rfl rfl rfl, h.2⟩

theorem skip_within (n : Nat) : KeepsWithin data n skip := by
  refine Triple.gets_bind fun elemType => Triple.conseq (P := AtMost data n) ?_ (fun _ h => h.1)
    (fun _ _ h => h) (fun _ _ h => h)
  refine Triple.ite (fun _ => Triple.throw fun _ h => h) fun _ =>
    Triple.ite (fun _ => ?_) fun _ => ?_
  · exact Triple.bind (enterContainer_within n) fun _ => exitContainer_within n _
  · exact Triple.bind (skipData_within n) fun _ =>
      Triple.modify fun _ h => ⟨h.1.congr rfl rfl rfl rfl rfl, h.2⟩

/-- `Next` takes at least one byte. -/
theorem next_progress (n : Nat) :
    Triple (AtMost data n) next (fun _ r => InBounds data r ∧ r.unread < n)
      (fun _ => AtMost data n) := by
  refine Triple.bind (skip_within n) fun _ => Triple.bind (readElement_progress n) fun _ =>
    Triple.gets_bind fun _ => ?_
  exact Triple.ite (fun _ => Triple.throw fun _ h => ⟨h.1.1, h.1.2.le⟩) fun _ =>
    Triple.pure fun _ h => h.1

theorem skipToEndOfContainer_keeps : Keeps data skipToEndOfContainer :=
  KeepsWithin.keeps fun n => skipToEndOfContainer_within n

theorem enterContainer_keeps : Keeps data enterContainer :=
  KeepsWithin.keeps fun n => enterContainer_within n

theorem exitContainer_keeps (outer : TLVType) : Keeps data (exitContainer outer) :=
  KeepsWithin.keeps fun n => exitContainer_within n outer

theorem skip_keeps : Keeps data skip := KeepsWithin.keeps fun n => skip_within n

theorem next_within : KeepsWithin data n next :=
  (next_progress n).conseq (fun _ h => h) (fun _ _ h => ⟨h.1, h.2.le⟩) fun _ _ h => h

theorem next_keeps : Keeps data next := KeepsWithin.keeps fun _ => next_within

theorem nextExpecting_keeps (type : TLVType) (tag : Nat) : Keeps data (nextExpecting type tag) :=
  next_keeps.bind fun _ => Keeps.get.bind fun _ => (Keeps.verify _ _).bind fun _ =>
    Keeps.verify _ _

theorem verifyEndOfContainer_keeps : Keeps data verifyEndOfContainer := by
  refine next_keeps.attempt.bind fun res => ?_
  split
  · exact Keeps.pure _
  · exact Keeps.throw _
  · exact Keeps.throw _

theorem getBool_keeps : Keeps data getBool := by
  refine (Keeps.gets _).bind fun _ => ?_
  split
  · exact Keeps.pure _
  split
  · exact Keeps.pure _
  · exact Keeps.throw _

theorem getUInt64_keeps : Keeps data getUInt64 := by
  refine Keeps.get.bind fun _ => ?_
  split <;> first | exact Keeps.pure _ | exact Keeps.throw _

theorem getInt64_keeps : Keeps data getInt64 := getUInt64_keeps.bind fun _ => Keeps.pure _

theorem getDouble_keeps : Keeps data getDouble := by
  refine Keeps.get.bind fun _ => ?_
  split <;> first | exact Keeps.pure _ | exact Keeps.throw _

theorem getDataPtr_keeps : Keeps data getDataPtr := by
  refine Keeps.get.bind fun r => (Keeps.verify _ _).bind fun _ => Keeps.bind ?_ fun _ =>
    (Keeps.verify _ _).bind fun _ => Keeps.pure _
  refine Keeps.get.bind fun _ => ?_
  split
  · exact Keeps.throw _
  · exact Keeps.pure _

/-- The accessors that copy a string. -/
theorem copyString_within {k : List UInt8 → ReaderM α} (len : Nat)
    (hk : ∀ bytes, KeepsWithin data n (k bytes)) :
    KeepsWithin data n (do
      let bytes ← readData .external len
      modify fun r => { r with elemLenOrVal := 0 }
      k bytes) := by
  refine Triple.bind (readData_within n .external _ (by decide)) fun bytes => ?_
  exact Triple.bind (Q := fun _ => AtMost data n)
    (Triple.modify fun _ h => ⟨h.1.congr rfl rfl rfl rfl rfl, h.2⟩) fun _ => hk bytes

theorem getBytes_within (bufSize : Nat) : KeepsWithin data n (getBytes bufSize) :=
  .get_bind fun _ => .verify_bind _ _ (.verify_bind _ _ (copyString_within _ fun _ => .pure _))

theorem dupBytes_within : KeepsWithin data n dupBytes :=
  .get_bind fun _ => .verify_bind _ _ (copyString_within _ fun _ => .pure _)

theorem dupString_within (n : Nat) : KeepsWithin data n dupString :=
  .get_bind fun _ => .verify_bind _ _ (copyString_within _ fun _ => .pure _)

theorem dupBytes_keeps : Keeps data dupBytes := KeepsWithin.keeps fun _ => dupBytes_within

theorem dupString_keeps : Keeps data dupString := KeepsWithin.keeps fun n => dupString_within n

theorem getBytes_keeps (bufSize : Nat) : Keeps data (getBytes bufSize) :=
  KeepsWithin.keeps fun _ => getBytes_within bufSize

end

/-! ## Clients -/

/-- What a client can do with a reader. -/
inductive ReaderOp where
  | next
  | nextExpecting (expectedType : TLVType) (expectedTag : Nat)
  | skip
  | getBool
  | getUInt (bits : Nat)
  | getInt (bits : Nat)
  | getInt64
  | getUInt64
  | getDouble
  | getDataPtr
  | getBytes (bufSize : Nat)
  | dupBytes
  | dupString
  | enterContainer
  | exitContainer (outerContainerType : TLVType)
  | verifyEndOfContainer
  | setImplicitProfileId (profileId : Nat)
  deriving DecidableEq, Repr

/-- The operation, its value dropped. -/
def ReaderOp.perform : ReaderOp → ReaderM Unit
  | .next => TLVReader.next
  | .nextExpecting type tag => TLVReader.nextExpecting type tag
  | .skip => TLVReader.skip
  | .getBool => do let _ ← TLVReader.getBool
  | .getUInt bits => do let _ ← TLVReader.getUInt bits
  | .getInt bits => do let _ ← TLVReader.getInt bits
  | .getInt64 => do let _ ← TLVReader.getInt64
  | .getUInt64 => do let _ ← TLVReader.getUInt64
  | .getDouble => do let _ ← TLVReader.getDouble
  | .getDataPtr => do let _ ← TLVReader.getDataPtr
  | .getBytes bufSize => do let _ ← TLVReader.getBytes bufSize
  | .dupBytes => do let _ ← TLVReader.dupBytes
  | .dupString => do let _ ← TLVReader.dupString
  | .enterContainer => do let _ ← TLVReader.enterContainer
  | .exitContainer outer => TLVReader.exitContainer outer
  | .verifyEndOfContainer => TLVReader.verifyEndOfContainer
  | .setImplicitProfileId profileId => modify fun r => { r with implicitProfileId := profileId }

/-- Any operations in a row, going on after errors. -/
def runOps : List ReaderOp → ReaderM Unit
  | [] => pure ()
  | op :: ops => do
    let _ ← attempt op.perform
    runOps ops

theorem ReaderOp.perform_keeps (data : List UInt8) (op : ReaderOp) : Keeps data op.perform := by
  cases op with
  | next => exact next_keeps
  | nextExpecting type tag => exact nextExpecting_keeps type tag
  | skip => exact skip_keeps
  | getBool => exact getBool_keeps.bind fun _ => Keeps.pure _
  | getUInt bits =>
    exact (getUInt64_keeps.bind fun _ => Keeps.pure _).bind fun _ => Keeps.pure _
  | getInt bits =>
    have hbits : Keeps data (TLVReader.getUInt bits) := getUInt64_keeps.bind fun _ => Keeps.pure _
    exact (hbits.bind fun _ => Keeps.pure _).bind fun _ => Keeps.pure _
  | getInt64 => exact getInt64_keeps.bind fun _ => Keeps.pure _
  | getUInt64 => exact getUInt64_keeps.bind fun _ => Keeps.pure _
  | getDouble => exact getDouble_keeps.bind fun _ => Keeps.pure _
  | getDataPtr => exact getDataPtr_keeps.bind fun _ => Keeps.pure _
  | getBytes bufSize => exact (getBytes_keeps bufSize).bind fun _ => Keeps.pure _
  | dupBytes => exact dupBytes_keeps.bind fun _ => Keeps.pure _
  | dupString => exact dupString_keeps.bind fun _ => Keeps.pure _
  | enterContainer => exact enterContainer_keeps.bind fun _ => Keeps.pure _
  | exitContainer outer => exact exitContainer_keeps outer
  | verifyEndOfContainer => exact verifyEndOfContainer_keeps
  | setImplicitProfileId profileId => exact Keeps.setElement

theorem runOps_keeps (data : List UInt8) : ∀ ops, Keeps data (runOps ops)
  | [] => Keeps.pure ()
  | op :: ops => (op.perform_keeps data).attempt.bind fun _ => runOps_keeps data ops

theorem getDataPtr_eq_ok {r r' : TLVReader} {p : Nat} :
    getDataPtr.run r = .ok p r' ↔ tlvTypeIsString r.elementType = true ∧ r.readPoint ≠ r.bufEnd ∧
      r.elemLenOrVal % 2 ^ 32 ≤ sub32 r.bufEnd r.readPoint ∧ p = r.readPoint ∧ r' = r := by
  rw [getDataPtr, get_bind, bind_eq_ok]
  constructor
  · rintro ⟨_, r₁, hv, h⟩
    obtain ⟨hstr, rfl⟩ := verify_eq_ok.1 hv
    obtain ⟨_, r₂, hens, h⟩ := bind_eq_ok.1 h
    by_cases hend : r.readPoint = r.bufEnd
    · rw [ensureData_err hend] at hens
      cases hens
    rw [ensureData_ok hend] at hens
    cases hens
    obtain ⟨_, r₃, hw, h⟩ := bind_eq_ok.1 h
    obtain ⟨hfit, rfl⟩ := verify_eq_ok.1 hw
    cases h
    exact ⟨hstr, hend, of_decide_eq_true hfit, rfl, rfl⟩
  · rintro ⟨hstr, hend, hfit, rfl, rfl⟩
    refine ⟨(), r', verify_eq_ok.2 ⟨hstr, rfl⟩, ?_⟩
    have hv : (verify (r'.elemLenOrVal % 2 ^ 32 ≤ sub32 r'.bufEnd r'.readPoint)
        .tlvUnderrun : ReaderM Unit).run r' = .ok () r' :=
      verify_eq_ok.2 ⟨decide_eq_true hfit, rfl⟩
    rw [bind_ok (ensureData_ok hend), bind_ok hv]
    rfl

theorem getLength_of_isString {r : TLVReader} (h : tlvTypeIsString r.elementType = true) :
    r.getLength = r.elemLenOrVal % 2 ^ 32 := if_pos h

/-- The string that `GetDataPtr` points at lies in the buffer. -/
theorem getDataPtr_inBuffer {data : List UInt8} {r r' : TLVReader} {p : Nat}
    (h : InBounds data r) (hp : getDataPtr.run r = .ok p r') :
    p + r.getLength ≤ data.length := by
  obtain ⟨hstr, -, hfit, rfl, -⟩ := getDataPtr_eq_ok.1 hp
  rw [h.sub32_bufEnd, h.unread_eq] at hfit
  have hle := h.readPoint_le
  rw [getLength_of_isString hstr]
  omega

/-- Whatever a client does, pointers and counters stay in step and inside the buffer, and no
access faults. -/
theorem runOps_inBounds (data : List UInt8) (hlen : data.length < 2 ^ 32) (ops : List ReaderOp) :
    ∃ r, (runOps ops).run (init data data.length) = .ok () r ∧
      r.data = data ∧ r.readPoint = r.lenRead ∧ r.lenRead ≤ r.maxLen ∧
      r.maxLen = data.length ∧ r.bufEnd = data.length ∧
      ∀ p r', getDataPtr.run r = .ok p r' → p + r.getLength ≤ data.length := by
  have hkeep := runOps_keeps data ops _ (InBounds.init hlen)
  have hok : ∀ ops r, ∀ e r', (runOps ops).run r ≠ .err e r' := by
    intro ops
    induction ops with
    | nil => intro r e r' h; cases h
    | cons op ops ih =>
      intro r e r' h
      rw [runOps, run_bind, run_attempt] at h
      cases hp : op.perform.run r with
      | ok a r₁ => rw [hp] at h; exact ih r₁ e r' h
      | err e₁ r₁ => rw [hp] at h; exact ih r₁ e r' h
      | fault f => rw [hp] at h; cases h
  cases hr : (runOps ops).run (init data data.length) with
  | ok a r =>
    rw [hr] at hkeep
    have h : InBounds data r := hkeep
    exact ⟨r, rfl, h.data_eq, h.readPoint_eq, h.lenRead_le, h.maxLen_eq, h.bufEnd_eq,
      fun p r' hp => getDataPtr_inBuffer h hp⟩
  | err e r => exact absurd hr (hok ops _ e r)
  | fault f => rw [hr] at hkeep; exact hkeep.elim

/-- A client that ignores every error of a truncated string. -/
theorem runOps_inBounds_truncated :
    ([0x0C, 0x05, 0x41] : List UInt8).length < 2 ^ 32 ∧
      ∃ r, (runOps [.next, .dupString, .next, .skip, .getDataPtr]).run
          (init [0x0C, 0x05, 0x41] 3) = .ok () r ∧
        r.data = [0x0C, 0x05, 0x41] ∧ r.readPoint = r.lenRead ∧ r.lenRead ≤ r.maxLen ∧
        r.maxLen = 3 ∧ r.bufEnd = 3 ∧
        ∀ p r', getDataPtr.run r = .ok p r' → p + r.getLength ≤ 3 :=
  ⟨by decide, runOps_inBounds [0x0C, 0x05, 0x41] (by decide) _⟩

end Matter.TLV.TLVReader
