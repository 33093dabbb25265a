import MatterDissector.TLV.Proof.Lengths
import MatterDissector.TLV.Proof.Handles

/-!
# Values and the position of the reader

Reading the value of an element does not change what comes after it: any accessors leave the
reader on the element or behind the bytes of its string, with the length set to zero (`Accessed`),
and `Skip` gets to the same place from both.

A pointer to a string and a copy of it agree, except at the end of the buffer, where `GetDataPtr`
does not find an empty string (`getDataPtr_agrees_iff`).
-/

namespace Matter.TLV.TLVReader

open Prog

section
variable {α : Type} {data : List UInt8} {r₀ r r' : TLVReader}

/-! ## On an element -/

/-- On an element that `Next` has read. -/
structure OnElement (data : List UInt8) (r : TLVReader) : Prop where
  inBounds : InBounds data r
  fits : tlvTypeIsString r.elementType = true → r.elemLenOrVal % 2 ^ 32 ≤ r.unread
  elemLenOrVal_lt : r.elemLenOrVal < 2 ^ 64
  unread_lt : r.unread < 2 ^ 32 - 1

theorem fieldAt_lt (data : List UInt8) (p : Nat) : fieldAt data p < 2 ^ 64 := by
  have hsize : valueFieldSize (controlAt data p) ≤ 8 := by
    unfold valueFieldSize
    cases getTLVFieldSize (controlAt data p &&& typeMask) <;> decide
  refine Nat.lt_of_lt_of_le (LE.value_lt _) ?_
  rw [show 2 ^ 64 = 256 ^ 8 by decide]
  exact Nat.pow_le_pow_right (by decide) (Nat.le_trans (List.length_take_le _ _) hsize)

theorem onElement_of_next (h : InBounds data r₀) (hnext : next.run r₀ = .ok () r) :
    OnElement data r := by
  obtain ⟨t, hskip, hread, -⟩ := next_eq_ok.1 hnext
  have ht := skip_inBounds h hskip
  obtain ⟨hr, hless⟩ := readElement_unread_lt ht hread
  obtain ⟨-, hfield, -⟩ := readElement_fieldAt ht hread
  have hlen := hr.length_lt
  have hunread := ht.unread_eq
  refine ⟨hr, fun hstring => ?_, hfield ▸ fieldAt_lt _ _, by omega⟩
  obtain ⟨-, -, -, -, -, -, hverify⟩ := readElement_cases ht hread
  exact length_le_of_verifyElement hr hverify hstring

/-! ## Reading its value -/

/-- Behind the string, of which nothing is left to read. -/
def consumed (r : TLVReader) : TLVReader :=
  { r.advance (r.elemLenOrVal % 2 ^ 32) with elemLenOrVal := 0 }

/-- What accessors make of `r`: a string may be consumed. -/
inductive Accessed (r : TLVReader) : TLVReader → Prop where
  | same : Accessed r r
  | consumed (hstring : tlvTypeIsString r.elementType = true) : Accessed r (consumed r)

theorem Accessed.inBounds (hr : OnElement data r) (h : Accessed r r') : InBounds data r' := by
  cases h with
  | same => exact hr.inBounds
  | consumed hstring => exact (hr.inBounds.advance (hr.fits hstring)).congr rfl rfl rfl rfl rfl

theorem Accessed.elementType_eq (h : Accessed r r') : r'.elementType = r.elementType := by
  cases h <;> rfl

/-- The bytes are copied once. -/
theorem Accessed.readData (hr : OnElement data r) (h : Accessed r r')
    (hstring : tlvTypeIsString r.elementType = true) :
    ∃ bytes s, (readData .external (r'.elemLenOrVal % 2 ^ 32)).run r' = .ok bytes s ∧
      { s with elemLenOrVal := 0 } = TLVReader.consumed r := by
  cases h with
  | same => exact ⟨_, _, readData_external hr.inBounds (hr.fits hstring), rfl⟩
  | consumed =>
    have hbounds := Accessed.inBounds hr (.consumed hstring)
    refine ⟨_, _, readData_external hbounds (Nat.zero_le _), ?_⟩
    show { (TLVReader.consumed r).advance 0 with elemLenOrVal := 0 } = TLVReader.consumed r
    rw [hbounds.advance_zero]
    rfl

/-- `x` goes from one of the states that accessors make of `r` to another. -/
def Accesses (r : TLVReader) (x : ReaderM α) : Prop :=
  Triple (Accessed r) x (fun _ => Accessed r) (fun _ => Accessed r)

/-- An accessor that only looks. -/
theorem accesses_of_leaves (hr : OnElement data r) {x : ReaderM α} (hkeep : Keeps data x)
    (hx : Leaves id x) : Accesses r x := by
  intro u hu
  have hrun := hkeep u (hu.inBounds hr)
  cases hres : x.run u with
  | ok a s =>
    rw [show s = u from hx.ok hres]
    exact hu
  | err e s =>
    rw [show s = u from hx.err hres]
    exact hu
  | fault f => rw [hres] at hrun; exact hrun

/-- An accessor that copies the string, if `copies` lets it. -/
theorem accesses_copy (hr : OnElement data r) (copies : TLVReader → Bool) (e : MatterError) :
    Accesses r (do
      let u ← get
      verify (tlvTypeIsString u.elementType) .wrongTLVType
      verify (copies u) e
      let bytes ← readData .external (u.elemLenOrVal % 2 ^ 32)
      modify fun r => { r with elemLenOrVal := 0 }
      pure bytes) := by
  intro u hu
  rw [get_bind]
  cases hstring : tlvTypeIsString u.elementType with
  | false => rw [bind_err (run_verify_false _ _)]; exact hu
  | true =>
    rw [bind_ok (run_verify_true _ _)]
    cases copies u with
    | false => rw [bind_err (run_verify_false _ _)]; exact hu
    | true =>
      rw [hu.elementType_eq] at hstring
      obtain ⟨bytes, s, hread, hs⟩ := hu.readData hr hstring
      rw [bind_ok (run_verify_true _ _), bind_ok hread, modify_bind, hs]
      exact .consumed hstring

theorem accesses_getBytes (hr : OnElement data r) (bufSize : Nat) :
    Accesses r (getBytes bufSize) :=
  accesses_copy hr (fun u => u.elemLenOrVal ≤ bufSize) .bufferTooSmall

theorem accesses_dup (hr : OnElement data r) : Accesses r dupBytes :=
  accesses_copy hr (fun _ => true) .wrongTLVType

/-- The terminator fits where the length does: the length cannot be the one that wraps around. -/
theorem accesses_getString (hr : OnElement data r) (bufSize : Nat) :
    Accesses r (getString bufSize) := by
  intro u hu
  rw [getString, get_bind]
  cases hstring : tlvTypeIsString u.elementType with
  | false => rw [bind_err (run_verify_false _ _)]; exact hu
  | true =>
    rw [bind_ok (run_verify_true _ _)]
    by_cases hsize : (u.elemLenOrVal + 1) % 2 ^ 64 ≤ bufSize
    · have hlt : u.elemLenOrVal < bufSize := by
        cases hu with
        | same =>
          have hfits := hr.fits hstring
          have hval := hr.elemLenOrVal_lt
          have hunread := hr.unread_lt
          omega
        | consumed => exact hsize
      rw [decide_eq_true hsize, bind_ok (run_verify_true _ _), if_pos hlt]
      exact accesses_getBytes hr _ u hu
    · rw [decide_eq_false hsize, bind_err (run_verify_false _ _)]
      exact hu

/-- The accessors of values. Where `malloc` fails, `DupBytes` and `DupString` do nothing more. -/
inductive Accessor where
  | getBool
  | getUInt (bits : Nat)
  | getInt (bits : Nat)
  | getUInt64
  | getInt64
  | getDouble
  | getLength
  | getTag
  | getType
  | getDataPtr
  | getBytes (bufSize : Nat)
  | getString (bufSize : Nat)
  | dupBytes (allocated : Bool)
  | dupString (allocated : Bool)
  deriving DecidableEq, Repr

/-- The accessor, its value dropped. -/
def Accessor.perform : Accessor → ReaderM Unit
  | .getBool => do let _ ← TLVReader.getBool
  | .getUInt bits => do let _ ← TLVReader.getUInt bits
  | .getInt bits => do let _ ← TLVReader.getInt bits
  | .getUInt64 => do let _ ← TLVReader.getUInt64
  | .getInt64 => do let _ ← TLVReader.getInt64
  | .getDouble => do let _ ← TLVReader.getDouble
  | .getLength => do let _ ← gets TLVReader.getLength
  | .getTag => do let _ ← gets TLVReader.getTag
  | .getType => do let _ ← gets TLVReader.getType
  | .getDataPtr => do let _ ← TLVReader.getDataPtr
  | .getBytes bufSize => do let _ ← TLVReader.getBytes bufSize
  | .getString bufSize => do let _ ← TLVReader.getString bufSize
  | .dupBytes allocated => if allocated then do let _ ← TLVReader.dupBytes else pure ()
  | .dupString allocated => if allocated then do let _ ← TLVReader.dupString else pure ()

/-- Any accessors in a row, whether they succeed or not. -/
def runAccessors : List Accessor → ReaderM Unit
  | [] => pure ()
  | accessor :: accessors => do
    let _ ← attempt accessor.perform
    runAccessors accessors

theorem Accesses.drop {x : ReaderM α} (h : Accesses r x) :
    Accesses r (do let _ ← x : ReaderM Unit) := Triple.bind h fun _ => Triple.pure fun _ h => h

theorem accesses_perform (hr : OnElement data r) (accessor : Accessor) :
    Accesses r accessor.perform := by
  have hpure : Accesses r (pure () : ReaderM Unit) := Triple.pure fun _ h => h
  cases accessor with
  | getBool => exact (accesses_of_leaves hr getBool_keeps leaves_getBool).drop
  | getUInt bits =>
    exact (accesses_of_leaves hr (getUInt64_keeps.bind fun _ => Keeps.pure _)
      (leaves_getUInt64.bind fun _ => .pure _)).drop
  | getInt bits =>
    exact (accesses_of_leaves hr
      ((getUInt64_keeps.bind fun _ => Keeps.pure _).bind fun _ => Keeps.pure _)
      ((leaves_getUInt64.bind fun _ => .pure _).bind fun _ => .pure _)).drop
  | getUInt64 => exact (accesses_of_leaves hr getUInt64_keeps leaves_getUInt64).drop
  | getInt64 => exact (accesses_of_leaves hr getInt64_keeps leaves_getInt64).drop
  | getDouble => exact (accesses_of_leaves hr getDouble_keeps leaves_getDouble).drop
  | getLength => exact (accesses_of_leaves hr (Keeps.gets _) (.gets _)).drop
  | getTag => exact (accesses_of_leaves hr (Keeps.gets _) (.gets _)).drop
  | getType => exact (accesses_of_leaves hr (Keeps.gets _) (.gets _)).drop
  | getDataPtr => exact (accesses_of_leaves hr getDataPtr_keeps leaves_getDataPtr).drop
  | getBytes bufSize => exact (accesses_getBytes hr bufSize).drop
  | getString bufSize => exact (accesses_getString hr bufSize).drop
  | dupBytes allocated => exact Triple.ite (fun _ => (accesses_dup hr).drop) fun _ => hpure
  | dupString allocated => exact Triple.ite (fun _ => (accesses_dup hr).drop) fun _ => hpure

theorem runAccessors_accessed (hr : OnElement data r) :
    ∀ (accessors : List Accessor) {u : TLVReader}, Accessed r u →
      ∃ r', (runAccessors accessors).run u = .ok () r' ∧ Accessed r r'
  | [], u, hu => ⟨u, rfl, hu⟩
  | accessor :: accessors, u, hu => by
    have hrun := accesses_perform hr accessor u hu
    cases hres : accessor.perform.run u with
    | ok a s =>
      rw [hres] at hrun
      rw [runAccessors, bind_ok (attempt_ok hres)]
      exact runAccessors_accessed hr accessors hrun
    | err e s =>
      rw [hres] at hrun
      rw [runAccessors, bind_ok (attempt_err hres)]
      exact runAccessors_accessed hr accessors hrun
    | fault f => rw [hres] at hrun; exact hrun.elim

/-- `Skip` makes up for what has been read of the string. -/
theorem Accessed.skip_eq (hr : OnElement data r) (h : Accessed r r') :
    skip.run r' = skip.run r := by
  cases h with
  | same => rfl
  | consumed hstring =>
    have hbounds := Accessed.inBounds hr (.consumed hstring)
    rw [skip_string hr.inBounds hstring (hr.fits hstring),
      skip_string hbounds hstring (Nat.zero_le _)]
    show _ = Outcome.ok () (TLVReader.consumed r).clearElementState
    congr 2
    exact hbounds.advance_zero

/-- Whatever is read of an element, the next one is the same. -/
theorem next_runAccessors (h : InBounds data r₀) (hnext : next.run r₀ = .ok () r)
    (accessors : List Accessor) :
    ∃ r', (runAccessors accessors).run r = .ok () r' ∧ next.run r' = next.run r := by
  have hr := onElement_of_next h hnext
  obtain ⟨r', hrun, hacc⟩ := runAccessors_accessed hr accessors .same
  refine ⟨r', hrun, ?_⟩
  unfold next
  rw [run_bind, run_bind, hacc.skip_eq hr]

/-- A string of three bytes in front of a number. -/
theorem next_runAccessors_string : ∃ r, InBounds [0x0C, 3, 65, 66, 67, 0x04, 7]
      (init [0x0C, 3, 65, 66, 67, 0x04, 7] 7) ∧
    next.run (init [0x0C, 3, 65, 66, 67, 0x04, 7] 7) = .ok () r ∧
    ∃ r', (runAccessors [.getBytes 2, .getString 4, .getUInt 8, .dupBytes true,
      .dupString false]).run r = .ok () r' ∧ next.run r' = next.run r :=
  have h : InBounds [0x0C, 3, 65, 66, 67, 0x04, 7] (init [0x0C, 3, 65, 66, 67, 0x04, 7] 7) :=
    @InBounds.init [0x0C, 3, 65, 66, 67, 0x04, 7] (by decide)
  ⟨_, h, rfl, next_runAccessors h rfl _⟩

/-! ## Pointers -/

/-- `GetDataPtr` succeeds, and `DupBytes` delivers the `GetLength` bytes that it points at. -/
def PointerAgrees (r : TLVReader) : Prop :=
  ∃ p r', getDataPtr.run r = .ok p r ∧
    dupBytes.run r = .ok ((r.data.drop p).take r.getLength) r' ∧
    ((r.data.drop p).take r.getLength).length = r.getLength

/-- A pointer is refused at the end of the buffer, even to an empty string. -/
theorem getDataPtr_agrees_iff (h : InBounds data r₀) (hnext : next.run r₀ = .ok () r)
    (hstring : tlvTypeIsString r.elementType = true) (hlen : r.elemLenOrVal < 2 ^ 32) :
    PointerAgrees r ↔ r.elemLenOrVal ≠ 0 ∨ r.readPoint ≠ r.bufEnd := by
  have hr := onElement_of_next h hnext
  have hfits := hr.fits hstring
  have hmod : r.elemLenOrVal % 2 ^ 32 = r.elemLenOrVal := Nat.mod_eq_of_lt hlen
  rw [hmod] at hfits
  constructor
  · rintro ⟨p, r', hptr, -, -⟩
    exact .inr (getDataPtr_eq_ok.1 hptr).2.1
  · intro hwhere
    have hend : r.readPoint ≠ r.bufEnd := by
      rcases hwhere with hsome | hend
      · intro hend
        have := hr.inBounds.atEnd_iff.1 hend
        omega
      · exact hend
    have hget : r.getLength = r.elemLenOrVal := by rw [getLength_of_isString hstring, hmod]
    refine ⟨r.readPoint, TLVReader.consumed r, getDataPtr_eq_ok.2 ⟨hstring, hend, ?_, rfl, rfl⟩,
      ?_, ?_⟩
    · rw [hr.inBounds.sub32_bufEnd, hmod]
      exact hfits
    · rw [dupBytes, get_bind, hstring, bind_ok (run_verify_true _ _),
        bind_ok (readData_external hr.inBounds (hr.fits hstring)), hget, hmod, hr.inBounds.data_eq]
      show _ = Outcome.ok _ (TLVReader.consumed r)
      rw [TLVReader.consumed, hmod]
      rfl
    · have hunread : r.unread = r.data.length - r.readPoint := rfl
      rw [List.length_take, List.length_drop, hget]
      omega

/-- The last string is empty. -/
theorem getDataPtr_agrees_iff_last : ∃ r, InBounds [0x10, 0x00] (init [0x10, 0x00] 2) ∧
    next.run (init [0x10, 0x00] 2) = .ok () r ∧ tlvTypeIsString r.elementType = true ∧
    r.elemLenOrVal < 2 ^ 32 ∧ (PointerAgrees r ↔ r.elemLenOrVal ≠ 0 ∨ r.readPoint ≠ r.bufEnd) :=
  have h : InBounds [0x10, 0x00] (init [0x10, 0x00] 2) :=
    @InBounds.init [0x10, 0x00] (by decide)
  ⟨_, h, rfl, by decide, by decide, getDataPtr_agrees_iff h rfl (by decide) (by decide)⟩

theorem not_pointerAgrees_last : ∃ r, next.run (init [0x10, 0x00] 2) = .ok () r ∧
    r.getType = .byteString ∧ r.getLength = 0 ∧ dupBytes.run r = .ok [] r ∧
    getDataPtr.run r = .err .tlvUnderrun r ∧ ¬ PointerAgrees r := by
  refine ⟨_, rfl, by decide, by decide, rfl, rfl, ?_⟩
  rintro ⟨p, r', hptr, -⟩
  cases hptr

end

end Matter.TLV.TLVReader
