import MatterDissector.TLV.Proof.Generic

/-!
# The reader comes to an end

What remains to be read, `mMaxLen - mLenRead`, is what every loop of the reader goes down on: a
round of `ReadData` copies a byte at least, a round of `SkipToEndOfContainer` reads an element.
No operation raises it (`Descends`), whether it returns or fails, and a `Next` that returns lowers
it.
-/

namespace Matter.TLV.TLVReader

open Prog

section
variable {α β : Type} {data : List UInt8} {n : Nat}

/-- In any state in bounds `x` comes to an end, and does not raise what remains. -/
def Descends (data : List UInt8) (x : ReaderM α) : Prop := ∀ r, InBounds data r →
  match x.run r with
  | .ok _ r' => InBounds data r' ∧ r'.getRemainingLength ≤ r.getRemainingLength
  | .err _ r' => InBounds data r' ∧ r'.getRemainingLength ≤ r.getRemainingLength
  | .fault f => f ≠ .outOfFuel

theorem InBounds.getRemainingLength_eq {r : TLVReader} (h : InBounds data r) :
    r.getRemainingLength = r.unread := h.sub32_maxLen

theorem descends_of_ends {x : ReaderM α} (h : ∀ n, Ends (· ≠ .outOfFuel) (AtMost data n) x
    (fun _ => AtMost data n) (fun _ => AtMost data n)) : Descends data x := by
  intro r hr
  have hrun := h r.unread r ⟨hr, Nat.le_refl _⟩
  have hmono : ∀ {r'}, AtMost data r.unread r' →
      InBounds data r' ∧ r'.getRemainingLength ≤ r.getRemainingLength := fun hr' => by
    rw [hr'.1.getRemainingLength_eq, hr.getRemainingLength_eq]
    exact hr'
  revert hrun
  cases x.run r with
  | ok a r' => exact hmono
  | err e r' => exact hmono
  | fault f => exact id

theorem KeepsWithin.descends {x : ReaderM α} (h : ∀ n, KeepsWithin data n x) : Descends data x :=
  descends_of_ends fun n => Triple.ends (h n) _

/-! ## The loops -/

/-- The bytes of a round: some, where some are left. -/
theorem readDataRound_ends (buf : Dest) (len : Nat) (copied : List UInt8) :
    Ends (· ≠ .outOfFuel) (AtMost data n) (readDataRound buf (len, copied))
      (RoundPost (fun (b : Nat × List UInt8) _ => b.1) (fun _ => AtMost data n)
        (fun _ => AtMost data n) len)
      (fun _ => AtMost data n) := by
  cases len with
  | zero => exact Ends.pure fun _ h => h
  | succ len =>
    intro r hr
    by_cases hend : r.readPoint = r.bufEnd
    · rw [readDataRound, bind_err (ensureData_err hend)]
      · exact hr
      · exact Nat.succ_ne_zero len
    have hleft : r.unread ≠ 0 := fun h => hend (hr.1.atEnd_iff.2 h)
    rw [readDataRound, bind_ok (ensureData_ok hend), get_bind]
    dsimp only
    rw [hr.1.sub32_bufEnd]
    generalize hread : (if len + 1 > r.unread then r.unread else len + 1) = readLen
    have hsome : 0 < readLen ∧ readLen ≤ r.unread := by
      rw [← hread]
      split <;> omega
    have hrest : ∀ chunk : List UInt8, Ends (· ≠ .outOfFuel) (· = r) (do
        modify fun r => { r with
          readPoint := r.readPoint + readLen
          lenRead := (r.lenRead + readLen) % 2 ^ 32 }
        pure (.inl (len + 1 - readLen, copied ++ chunk)) :
          ReaderM ((Nat × List UInt8) ⊕ List UInt8))
        (RoundPost (fun (b : Nat × List UInt8) _ => b.1) (fun _ => AtMost data n)
          (fun _ => AtMost data n) (len + 1)) (fun _ => AtMost data n) := by
      rintro chunk _ rfl
      have hmove := hr.1.advance hsome.2
      exact ⟨⟨hmove, Nat.le_trans (unread_advance_le _ readLen) hr.2⟩,
        Nat.sub_lt (Nat.succ_pos len) hsome.1⟩
    have hcopy : Ends (· ≠ .outOfFuel) (· = r) (copyBytes r.data r.readPoint readLen)
        (fun _ => (· = r)) (fun _ => AtMost data n) :=
      Ends.ite (fun _ => Ends.pure fun _ h => h) fun _ => Ends.stop (by decide)
    cases buf with
    | null => exact hrest [] r rfl
    | stagingBuf =>
      refine Ends.ite (fun _ => Ends.bind hcopy hrest) (fun _ => ?_) r rfl
      exact Ends.bind (Ends.stop (Q := fun _ => (· = r)) (by decide)) hrest
    | external => exact Ends.bind hcopy hrest r rfl
    exact Nat.succ_ne_zero len

/-- `ReadData` to any buffer, of any length. -/
theorem readData_descends (buf : Dest) (len : Nat) : Descends data (readData buf len) :=
  descends_of_ends fun n => Ends.whileLoop (J := fun _ => AtMost data n) (fun b m => by
    obtain ⟨len, copied⟩ := b
    exact Ends.of_each fun r ⟨hr, hm⟩ => hm ▸ (readDataRound_ends buf len copied).at hr) (len, [])

/-! ## The operations -/

theorem KeepsWithin.drop {x : ReaderM α} (h : KeepsWithin data n x) :
    KeepsWithin data n (do let _ ← x : ReaderM Unit) :=
  Triple.bind h fun _ => Triple.pure fun _ h => h

/-- As `Next`. -/
theorem nextExpecting_progress (type : TLVType) (tag : Nat) :
    Triple (AtMost data n) (nextExpecting type tag) (fun _ r => InBounds data r ∧ r.unread < n)
      (fun _ => AtMost data n) := by
  have hmono : ∀ r, InBounds data r ∧ r.unread < n → AtMost data n r := fun _ h => ⟨h.1, h.2.le⟩
  refine Triple.bind (next_progress n) fun _ => Triple.get_bind fun r => ?_
  refine Triple.bind (Triple.verify (Q := fun _ r => InBounds data r ∧ r.unread < n)
    (fun _ h _ => h.1) fun _ h _ => hmono _ h.1) fun _ => ?_
  exact Triple.verify (fun _ h _ => h) fun _ h _ => hmono _ h

theorem verifyEndOfContainer_within : KeepsWithin data n verifyEndOfContainer := by
  refine Triple.bind (Q := fun _ => AtMost data n) (Triple.attempt next_within) fun res => ?_
  split
  · exact Triple.pure fun _ h => h
  · exact Triple.throw fun _ h => h
  · exact Triple.throw fun _ h => h

theorem ReaderOp.perform_within (op : ReaderOp) : KeepsWithin data n op.perform := by
  cases op with
  | next => exact next_within
  | nextExpecting type tag =>
    exact (nextExpecting_progress type tag).conseq (fun _ h => h) (fun _ _ h => ⟨h.1, h.2.le⟩)
      fun _ _ h => h
  | skip => exact skip_within n
  | getBool => exact (keepsWithin_of_leaves getBool_keeps leaves_getBool).drop
  | getUInt bits =>
    exact (keepsWithin_of_leaves (getUInt64_keeps.bind fun _ => Keeps.pure _)
      (leaves_getUInt64.bind fun _ => .pure _)).drop
  | getInt bits =>
    have hbits : Keeps data (TLVReader.getUInt bits) := getUInt64_keeps.bind fun _ => Keeps.pure _
    exact (keepsWithin_of_leaves (hbits.bind fun _ => Keeps.pure _)
      ((leaves_getUInt64.bind fun _ => .pure _).bind fun _ => .pure _)).drop
  | getInt64 => exact (keepsWithin_of_leaves getInt64_keeps leaves_getInt64).drop
  | getUInt64 => exact (keepsWithin_of_leaves getUInt64_keeps leaves_getUInt64).drop
  | getDouble => exact (keepsWithin_of_leaves getDouble_keeps leaves_getDouble).drop
  | getDataPtr => exact (keepsWithin_of_leaves getDataPtr_keeps leaves_getDataPtr).drop
  | getBytes bufSize => exact (getBytes_within bufSize).drop
  | dupBytes => exact dupBytes_within.drop
  | dupString => exact (dupString_within n).drop
  | enterContainer => exact (enterContainer_within n).drop
  | exitContainer outer => exact exitContainer_within n outer
  | verifyEndOfContainer => exact verifyEndOfContainer_within
  | setImplicitProfileId profileId =>
    exact Triple.modify fun _ h => ⟨h.1.congr rfl rfl rfl rfl rfl, h.2⟩

theorem runOps_within : ∀ ops, KeepsWithin data n (runOps ops)
  | [] => .pure ()
  | op :: ops => Triple.bind (Q := fun _ => AtMost data n) (Triple.attempt op.perform_within)
      fun _ => runOps_within ops

/-- `GetString` writes outside of the buffer where the length and the terminator wrap around. -/
theorem getString_descends (bufSize : Nat) : Descends data (getString bufSize) := by
  refine descends_of_ends fun n => Ends.get_bind fun r => ?_
  have hverify : ∀ (b : Bool) (e : MatterError), Ends (· ≠ .outOfFuel)
      (fun s => AtMost data n s) (verify b e : ReaderM Unit) (fun _ => AtMost data n)
      (fun _ => AtMost data n) := fun b e => Ends.verify (fun _ h _ => h) fun _ h _ => h
  refine Ends.bind ((hverify _ _).conseq (fun _ h => h) (fun _ h => h.1) (fun _ _ h => h)
    fun _ _ h => h) fun _ => Ends.bind (hverify _ _) fun _ => ?_
  exact Ends.ite (fun _ => Triple.ends (getBytes_within _) _) fun _ => Ends.stop (by decide)

/-! ## Container readers -/

/-- `OpenContainer`, any operations on the container reader, and `CloseContainer`. -/
def readContainer (ops : List ReaderOp) : ReaderM Unit := do
  let containerReader ← openContainer
  let containerReader ← onOther containerReader (do
    runOps ops
    get)
  closeContainer true containerReader

/-- Operations on another reader that has no more to read, and what it has left then. -/
theorem onOther_within {other : TLVReader} {x : ReaderM Unit} (hx : KeepsWithin data n x)
    (hother : AtMost data n other) :
    Triple (AtMost data n) (onOther other (do x; get))
      (fun c r => AtMost data n r ∧ AtMost data n c) (fun _ => AtMost data n) := by
  refine Triple.zoom fun r hr => Triple.at (P := AtMost data n) ?_ hother
  exact Triple.bind (hx.conseq (fun _ h => h) (fun _ _ h => h) fun _ _ _ => hr) fun _ c hc =>
    ⟨hr, hc⟩

theorem closeContainer_within (containerOpen : Bool) {containerReader : TLVReader}
    (h : AtMost data n containerReader) :
    KeepsWithin data n (closeContainer containerOpen containerReader) := by
  refine .verify_bind _ _ (Triple.gets_bind fun elemType => ?_)
  refine Triple.bind (Q := fun _ => AtMost data n) (Triple.verify (fun _ h _ => h.1)
    fun _ h _ => h.1) fun _ => ?_
  refine Triple.bind (onOther_within (skipToEndOfContainer_within n) h) fun c => ?_
  exact Triple.modify fun r hr => ⟨hr.2.1.congr rfl rfl rfl rfl rfl, hr.2.2⟩

theorem readContainer_within (ops : List ReaderOp) : KeepsWithin data n (readContainer ops) := by
  have hopen : Triple (AtMost data n) openContainer
      (fun c r => AtMost data n r ∧ AtMost data n c) (fun _ => AtMost data n) :=
    Triple.get_bind fun r => Triple.bind (Q := fun _ s => AtMost data n s ∧ s = r)
      (Triple.verify (fun _ h _ => h) fun _ h _ => h.1) fun _ => Triple.pure fun s hs =>
        ⟨hs.1, (hs.2 ▸ hs.1).1.congr rfl rfl rfl rfl rfl, (hs.2 ▸ hs.1).2⟩
  refine Triple.bind hopen fun c => Triple.of_each fun r hr => ?_
  refine Triple.bind ((onOther_within (runOps_within ops) hr.2).at hr.1) fun c' => ?_
  refine Triple.of_each fun r' hr' => ?_
  exact (closeContainer_within true hr'.2).at hr'.1

/-! ## Any client -/

/-- What every use of a reader of `data` has: it begins in bounds, and each operation keeps it
there, comes to an end and does not raise what remains. -/
structure ReaderTerminates (data : List UInt8) : Prop where
  init : InBounds data (init data data.length)
  readData : ∀ buf len, Descends data (readData buf len)
  skipToEndOfContainer : Descends data skipToEndOfContainer
  perform : ∀ op : ReaderOp, Descends data op.perform
  getString : ∀ bufSize, Descends data (getString bufSize)
  readContainer : ∀ ops, Descends data (readContainer ops)
  next : ∀ r r', InBounds data r → next.run r = .ok () r' →
    r'.getRemainingLength < r.getRemainingLength
  nextExpecting : ∀ type tag r r', InBounds data r → (nextExpecting type tag).run r = .ok () r' →
    r'.getRemainingLength < r.getRemainingLength

/-- An operation that takes a byte if it returns. -/
theorem remaining_lt {x : ReaderM Unit} (hx : ∀ n, Triple (AtMost data n) x
    (fun _ r => InBounds data r ∧ r.unread < n) (fun _ => AtMost data n)) {r r' : TLVReader}
    (h : InBounds data r) (hrun : x.run r = .ok () r') :
    r'.getRemainingLength < r.getRemainingLength := by
  have hless := hx r.unread r ⟨h, Nat.le_refl _⟩
  rw [hrun] at hless
  rw [hless.1.getRemainingLength_eq, h.getRemainingLength_eq]
  exact hless.2

theorem readerTerminates (hlen : data.length < 2 ^ 32) : ReaderTerminates data where
  init := .init hlen
  readData := readData_descends
  skipToEndOfContainer := KeepsWithin.descends skipToEndOfContainer_within
  perform op := KeepsWithin.descends fun _ => op.perform_within
  getString := getString_descends
  readContainer ops := KeepsWithin.descends fun _ => readContainer_within ops
  next _ _ h hrun := remaining_lt next_progress h hrun
  nextExpecting type tag _ _ h hrun := remaining_lt (fun _ => nextExpecting_progress type tag) h hrun

end

end Matter.TLV.TLVReader
