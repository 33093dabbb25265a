import MatterDissector.TLV.Types

/-!
# Texts and the string buffer

The texts that the dissector shows are C strings, kept as their bytes; a conversion of `printf`
is a function to texts. `StrBuf` is the growing buffer of `AppendStringF` and `AppendRepeated`
(`TLVDissector.cpp`): `NULL`, or an allocation that holds a terminated string. `realloc` is taken
to succeed; the bytes it adds are indeterminate.
-/

namespace Matter

abbrev Text := List UInt8

namespace Text

def ofChars (cs : List Char) : Text := cs.map fun c => UInt8.ofNat c.toNat

/-- A string literal. -/
def lit (s : String) : Text := ofChars s.toList

/-- `%s`: the bytes in front of the terminator. -/
def cString (bytes : List UInt8) : Text := bytes.takeWhile (· ≠ 0)

def zeroPad (width : Nat) (t : Text) : Text := List.replicate (width - t.length) 48 ++ t

/-- `%u`, `%llu`. -/
def dec (n : Nat) : Text := ofChars (Nat.toDigits 10 n)

/-- `%d`, `%lld`. -/
def decInt (i : Int) : Text := if i < 0 then lit "-" ++ dec i.natAbs else dec i.natAbs

/-- `%x`. -/
def hex (n : Nat) : Text := ofChars (Nat.toDigits 16 n)

/-- `%X`. -/
def hexUpper (n : Nat) : Text := ofChars ((Nat.toDigits 16 n).map Char.toUpper)

/-- `snprintf` to a buffer of `size` bytes. -/
def snprintf (size : Nat) (t : Text) : Text := t.take (size - 1)

end Text

/-- `strBuf`: `NULL` or the bytes of the allocation, whose size is `strBufSize`. -/
abbrev StrBuf := Option (List UInt8)

namespace StrBuf

def size (strBuf : StrBuf) : Nat := (strBuf.getD []).length

/-- `strlen`; 0 for `NULL`, which the caller tests first. -/
def strlen : StrBuf → Except Fault Nat
  | none => .ok 0
  | some mem => if 0 ∈ mem then .ok (Text.cString mem).length else .error .outOfBoundsRead

/-- `vsnprintf(strBuf + offset, remaining, …)`, when the formatted text is `text`. -/
def vsnprintf (text : Text) (offset remaining : Nat) (strBuf : StrBuf) : Except Fault StrBuf :=
  if remaining = 0 then .ok strBuf
  else match strBuf with
    | none => .error .nullDereference
    | some mem =>
      let written := text.take (remaining - 1) ++ [0]
      if offset + written.length ≤ mem.length then
        .ok (some (mem.take offset ++ written ++ mem.drop (offset + written.length)))
      else .error .outOfBoundsWrite

/-- `realloc(strBuf, newSize)`; `uninit` is what the added memory holds. -/
def realloc (uninit : Nat → UInt8) (newSize : Nat) (strBuf : StrBuf) : StrBuf :=
  let mem := strBuf.getD []
  some (mem.take newSize ++ (List.range (newSize - mem.length)).map uninit)

/-- `while (strBufSize < needed) strBufSize *= 2`: a positive size is large enough after `needed`
rounds. -/
def doubled (needed : Nat) : Nat → Nat → Nat
  | 0, strBufSize => strBufSize
  | rounds + 1, strBufSize =>
    if strBufSize < needed then doubled needed rounds (strBufSize * 2) else strBufSize

/-- `AppendStringF`, when the formatted text is `text`. -/
def appendStringF (uninit : Nat → UInt8) (text : Text) (strBuf : StrBuf) :
    Except Fault StrBuf := do
  let curStrLen ← strBuf.strlen
  let strBufSize := strBuf.size
  let addedStrLen := text.length
  let strBuf ← strBuf.vsnprintf text curStrLen (strBufSize - curStrLen)
  if addedStrLen < strBufSize - curStrLen then return strBuf
  else
    let needed := curStrLen + addedStrLen + 1
    let strBufSize := if strBufSize = 0 then addedStrLen + 1
      else doubled needed needed strBufSize
    (strBuf.realloc uninit strBufSize).vsnprintf text curStrLen (strBufSize - curStrLen)

/-- `AppendRepeated`. -/
def appendRepeated (uninit : Nat → UInt8) (inStr : Text) :
    Nat → StrBuf → Except Fault StrBuf
  | 0, strBuf => .ok strBuf
  | repeatCount + 1, strBuf => do
    appendRepeated uninit inStr repeatCount (← appendStringF uninit inStr strBuf)

/-- `strBuf[0] = 0`. -/
def reset : StrBuf → Except Fault StrBuf
  | none => .error .nullDereference
  | some [] => .error .outOfBoundsWrite
  | some (_ :: mem) => .ok (some (0 :: mem))

/-- `%s` of `strBuf`: `printf` shows a null pointer as "(null)". -/
def shown : StrBuf → Except Fault Text
  | none => .ok (Text.lit "(null)")
  | some mem => if 0 ∈ mem then .ok (Text.cString mem) else .error .outOfBoundsRead

/-! ## What appending keeps -/

/-- `NULL`, or a terminated string. -/
def Terminated (strBuf : StrBuf) : Prop := ∀ mem, strBuf = some mem → 0 ∈ mem

theorem terminated_none : Terminated none := fun _ h => by cases h

theorem length_cString_lt {mem : List UInt8} (h : 0 ∈ mem) :
    (Text.cString mem).length < mem.length := by
  induction mem with
  | nil => cases h
  | cons b mem ih =>
    rw [Text.cString, List.takeWhile_cons]
    by_cases hb : b = 0
    · simp [hb]
    · have hlt := ih ((List.mem_cons.1 h).resolve_left fun h0 => hb h0.symm)
      rw [if_pos (by simpa using hb), List.length_cons, List.length_cons]
      exact Nat.succ_lt_succ hlt

theorem doubled_ge {needed : Nat} : ∀ {rounds size : Nat}, 0 < size → needed ≤ size + rounds →
    needed ≤ doubled needed rounds size
  | 0, _, _, h => h
  | rounds + 1, size, hpos, h => by
    rw [doubled]
    split
    · exact doubled_ge (by omega) (by omega)
    · omega

theorem cString_append {t t' : Text} (h : 0 ∉ t) : Text.cString (t ++ t') = t ++ Text.cString t' :=
  List.takeWhile_append_of_pos fun b hb => by
    have hne : b ≠ 0 := fun h0 => h (h0 ▸ hb)
    simpa using hne

/-- A text with a terminator behind it is a C string as it was. -/
theorem cString_terminated (t t' : Text) : Text.cString (t ++ (0 :: t')) = Text.cString t := by
  induction t with
  | nil => rfl
  | cons b t ih =>
    rw [Text.cString, Text.cString, List.cons_append, List.takeWhile_cons, List.takeWhile_cons]
    rw [Text.cString, Text.cString] at ih
    rw [ih]

theorem not_mem_cString (t : Text) : 0 ∉ Text.cString t := by
  intro h
  have hall : (Text.cString t).all (· ≠ 0) = true := List.all_takeWhile
  exact absurd (List.all_eq_true.1 hall 0 h) (by decide)

theorem take_length_cString (t : Text) : t.take (Text.cString t).length = Text.cString t :=
  List.prefix_iff_eq_take.1 (List.takeWhile_prefix _) |>.symm

/-- The text that the buffer holds. -/
def text : StrBuf → Text
  | none => []
  | some mem => Text.cString mem

theorem vsnprintf_ok {text : Text} {offset remaining : Nat} {mem : List UInt8}
    (h : offset + remaining ≤ mem.length) (hpos : 0 < remaining) :
    ∃ mem', vsnprintf text offset remaining (some mem) = .ok (some mem') ∧ 0 ∈ mem' ∧
      mem'.length = mem.length ∧ mem'.take offset = mem.take offset ∧
      (0 ∉ mem.take offset → text.length < remaining →
        Text.cString mem' = mem.take offset ++ Text.cString text) := by
  have hlen : (text.take (remaining - 1) ++ [0]).length ≤ remaining := by
    rw [List.length_append, List.length_take, List.length_singleton]; omega
  have htake : (mem.take offset).length = offset := by rw [List.length_take]; omega
  refine ⟨mem.take offset ++ (text.take (remaining - 1) ++ [0]) ++
    mem.drop (offset + (text.take (remaining - 1) ++ [0]).length), ?_, by simp, ?_, ?_, ?_⟩
  · rw [vsnprintf, if_neg (by omega)]
    exact if_pos (by omega)
  · simp only [List.length_append, List.length_take, List.length_drop, List.length_singleton]
      at hlen ⊢
    omega
  · rw [List.append_assoc]
    exact List.take_left' htake
  · intro hnul hfits
    have hall : text.take (remaining - 1) = text := List.take_of_length_le (by omega)
    rw [hall, List.append_assoc, List.append_assoc, cString_append hnul]
    exact congrArg _ (cString_terminated _ _)

theorem length_realloc (uninit : Nat → UInt8) (newSize : Nat) (strBuf : StrBuf) :
    ∃ mem, realloc uninit newSize strBuf = some mem ∧ mem.length = newSize ∧
      ∀ offset ≤ newSize, offset ≤ strBuf.size →
        mem.take offset = (strBuf.getD []).take offset := by
  refine ⟨_, rfl, ?_, fun offset hnew hold => ?_⟩
  · rw [List.length_append, List.length_take, List.length_map, List.length_range]
    omega
  · rw [size] at hold
    rw [List.take_append_of_le_length (by rw [List.length_take]; omega), List.take_take,
      Nat.min_eq_left hnew]

/-- `AppendStringF` leaves a terminated string, and never `NULL`: what was there, and the text up
to its own terminator. -/
theorem appendStringF_text (uninit : Nat → UInt8) (text : Text) {strBuf : StrBuf}
    (h : strBuf.Terminated) :
    ∃ mem, appendStringF uninit text strBuf = .ok (some mem) ∧ 0 ∈ mem ∧
      Text.cString mem = strBuf.text ++ Text.cString text := by
  cases strBuf with
  | none =>
    obtain ⟨mem, hmem, hlen, -⟩ := length_realloc uninit (text.length + 1) none
    obtain ⟨mem', hok, hnul, -, -, htext⟩ :=
      @vsnprintf_ok text 0 (text.length + 1) mem (by omega) (by omega)
    refine ⟨mem', ?_, hnul, htext List.not_mem_nil (Nat.lt_succ_self _)⟩
    show ((realloc uninit (text.length + 1) none).vsnprintf text 0 (text.length + 1 - 0)) = _
    rw [hmem]
    exact hok
  | some mem =>
    have h0 := h mem rfl
    have hlt := length_cString_lt h0
    have hfront := take_length_cString mem
    obtain ⟨mem', hok, hnul, hlen, hkept, htext⟩ := @vsnprintf_ok text (Text.cString mem).length
      (mem.length - (Text.cString mem).length) mem (by omega) (by omega)
    rw [hfront] at hkept htext
    have hrun : appendStringF uninit text (some mem) =
        if text.length < mem.length - (Text.cString mem).length then .ok (some mem')
        else
          let needed := (Text.cString mem).length + text.length + 1
          let strBufSize := if mem.length = 0 then text.length + 1
            else doubled needed needed mem.length
          (realloc uninit strBufSize (some mem')).vsnprintf text (Text.cString mem).length
            (strBufSize - (Text.cString mem).length) := by
      have hstrlen : strlen (some mem) = .ok (Text.cString mem).length := if_pos h0
      have hsize : size (some mem) = mem.length := rfl
      simp only [appendStringF, hstrlen, hsize, hok, bind, Except.bind]
      rfl
    rw [hrun]
    split
    · exact ⟨mem', rfl, hnul, htext (not_mem_cString mem) ‹_›⟩
    · have hge := @doubled_ge ((Text.cString mem).length + text.length + 1)
        ((Text.cString mem).length + text.length + 1) mem.length (by omega) (by omega)
      dsimp only
      rw [if_neg (by omega)]
      obtain ⟨mem₂, hmem₂, hlen₂, hkept₂⟩ := length_realloc uninit
        (doubled ((Text.cString mem).length + text.length + 1)
          ((Text.cString mem).length + text.length + 1) mem.length) (some mem')
      have hsize : size (some mem') = mem'.length := rfl
      have hfront₂ : mem₂.take (Text.cString mem).length = Text.cString mem :=
        (hkept₂ _ (by omega) (by omega)).trans hkept
      rw [hmem₂]
      obtain ⟨mem₃, hok₃, hnul₃, -, -, htext₃⟩ := @vsnprintf_ok text (Text.cString mem).length
        (doubled ((Text.cString mem).length + text.length + 1)
          ((Text.cString mem).length + text.length + 1) mem.length - (Text.cString mem).length)
        mem₂ (by omega) (by omega)
      rw [hfront₂] at htext₃
      exact ⟨mem₃, hok₃, hnul₃, htext₃ (not_mem_cString mem) (by omega)⟩

theorem appendStringF_ok (uninit : Nat → UInt8) (text : Text) {strBuf : StrBuf}
    (h : strBuf.Terminated) :
    ∃ mem, appendStringF uninit text strBuf = .ok (some mem) ∧ 0 ∈ mem := by
  obtain ⟨mem, hrun, hnul, -⟩ := appendStringF_text uninit text h
  exact ⟨mem, hrun, hnul⟩

theorem terminated_some {mem : List UInt8} (h : 0 ∈ mem) : Terminated (some mem) :=
  fun _ he => by cases he; exact h

/-- `AppendRepeated` allocates the buffer as soon as it appends once. -/
theorem appendRepeated_ok (uninit : Nat → UInt8) (inStr : Text) :
    ∀ (repeatCount : Nat) {strBuf : StrBuf}, strBuf.Terminated →
      ∃ strBuf', appendRepeated uninit inStr repeatCount strBuf = .ok strBuf' ∧
        strBuf'.Terminated ∧ (strBuf' = none → strBuf = none ∧ repeatCount = 0) ∧
        strBuf'.text = strBuf.text ++ (List.replicate repeatCount (Text.cString inStr)).flatten
  | 0, strBuf, h => ⟨strBuf, rfl, h, fun he => ⟨he, rfl⟩, (List.append_nil _).symm⟩
  | repeatCount + 1, strBuf, h => by
    obtain ⟨mem, hmem, h0, htext⟩ := appendStringF_text uninit inStr h
    obtain ⟨strBuf', hrun, hterm', hnone, htext'⟩ :=
      appendRepeated_ok uninit inStr repeatCount (terminated_some h0)
    refine ⟨strBuf', ?_, hterm', fun he => (by cases (hnone he).1), ?_⟩
    · rw [appendRepeated, hmem]
      exact hrun
    · rw [htext', text, htext, List.replicate_succ, List.flatten_cons, List.append_assoc]

theorem reset_ok {mem : List UInt8} (h : 0 ∈ mem) :
    ∃ mem', reset (some mem) = .ok (some mem') ∧ 0 ∈ mem' := by
  cases mem with
  | nil => cases h
  | cons b mem => exact ⟨0 :: mem, rfl, List.mem_cons_self⟩

theorem shown_ok {strBuf : StrBuf} (h : strBuf.Terminated) : ∃ text, strBuf.shown = .ok text := by
  cases strBuf with
  | none => exact ⟨_, rfl⟩
  | some mem => exact ⟨_, if_pos (h mem rfl)⟩

end StrBuf

end Matter
