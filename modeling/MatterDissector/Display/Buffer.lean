import MatterDissector.Display.Text
import Mathlib.Data.List.Infix
import Mathlib.Data.List.Induction

/-!
# The string buffer with its size

`AppendStringF`, `AppendRepeated` and `strBuf[0] = 0` (`TLVDissector.cpp`) on the two variables
they share, in the arithmetic of a 64-bit `size_t`. `StrBuf` takes the size from the allocation;
here it is a variable of its own, which may disagree. `appendStringF_eq` says when the two are
the same, and `run_holds` is what a sequence of calls leaves.
-/

namespace Matter

/-- `SIZE_MAX`. -/
def sizeMax : Nat := 2 ^ 64 - 1

/-- `INT_MAX`. -/
def intMax : Nat := 2 ^ 31 - 1

/-- `a - b` in `size_t`. -/
def subSize (a b : Nat) : Nat := (a + (2 ^ 64 - b % 2 ^ 64)) % 2 ^ 64

theorem subSize_of_le {a b : Nat} (h : b ≤ a) (ha : a < 2 ^ 64) : subSize a b = a - b := by
  unfold subSize; omega

/-- What `vsnprintf` returns, as a `size_t`: the length of the text, or a negative number when that
is no `int`. -/
def vsnprintfLength (text : Text) : Nat := if text.length ≤ intMax then text.length else sizeMax

structure Buffer where
  strBuf : StrBuf
  strBufSize : Nat
  deriving DecidableEq, Repr

namespace Buffer

/-- `strBuf = NULL`, `strBufSize = 0`. -/
def empty : Buffer := ⟨none, 0⟩

/-- `while (strBufSize < needed) strBufSize *= 2`. -/
def doubling (needed : Nat) : Nat → Nat → Except Fault Nat
  | 0, _ => .error .outOfFuel
  | rounds + 1, strBufSize =>
    if strBufSize < needed then doubling needed rounds (strBufSize * 2 % 2 ^ 64)
    else .ok strBufSize

/-- The size to reallocate to. After 64 doublings a `size_t` is 0 and stays 0, so the loop ends
within 65 tests or never. -/
def grownSize (b : Buffer) (curStrLen addedStrLen : Nat) : Except Fault Nat :=
  if b.strBuf = none ∨ b.strBufSize = 0 then .ok ((addedStrLen + 1) % 2 ^ 64)
  else doubling ((curStrLen + addedStrLen + 1) % 2 ^ 64) 65 b.strBufSize

/-- `AppendStringF`, when the formatted text is `text`; `uninit newSize` is what the memory holds
that `realloc` adds. Returns the buffer and the new length. -/
def appendStringF (uninit : Nat → Nat → UInt8) (text : Text) (b : Buffer) :
    Except Fault (Buffer × Nat) := do
  let curStrLen ← b.strBuf.strlen
  let remainingBufSize := subSize b.strBufSize curStrLen
  let addedStrLen := vsnprintfLength text
  let strBuf ← b.strBuf.vsnprintf text curStrLen remainingBufSize
  if addedStrLen < remainingBufSize then
    return (⟨strBuf, b.strBufSize⟩, (curStrLen + addedStrLen) % 2 ^ 64)
  else
    let strBufSize ← grownSize ⟨strBuf, b.strBufSize⟩ curStrLen addedStrLen
    let strBuf ← (strBuf.realloc (uninit strBufSize) strBufSize).vsnprintf text curStrLen
      (subSize strBufSize curStrLen)
    return (⟨strBuf, strBufSize⟩, (curStrLen + addedStrLen) % 2 ^ 64)

/-- `AppendRepeated`. -/
def appendRepeated (uninit : Nat → Nat → UInt8) (inStr : Text) :
    Nat → Buffer → Except Fault Buffer
  | 0, b => .ok b
  | repeatCount + 1, b => do
    appendRepeated uninit inStr repeatCount (← appendStringF uninit inStr b).1

/-- `strBuf[0] = 0`. -/
def reset (b : Buffer) : Except Fault Buffer := do
  return ⟨← b.strBuf.reset, b.strBufSize⟩

end Buffer

/-- What the renderers do with the buffer. -/
inductive BufferOp where
  | appendStringF (text : Text)
  | appendRepeated (inStr : Text) (repeatCount : Int)
  | reset
  deriving DecidableEq, Repr

namespace BufferOp

def run (uninit : Nat → Nat → UInt8) (b : Buffer) : BufferOp → Except Fault Buffer
  | .appendStringF text => do return (← b.appendStringF uninit text).1
  | .appendRepeated inStr repeatCount => b.appendRepeated uninit inStr repeatCount.toNat
  | .reset => b.reset

/-- The texts that are appended. -/
def texts : BufferOp → List Text
  | .appendStringF text => [text]
  | .appendRepeated inStr repeatCount => List.replicate repeatCount.toNat inStr
  | .reset => []

/-- The texts appended since the last reset, one operation further. -/
def append (before : List Text) (op : BufferOp) : List Text :=
  if op = .reset then [] else before ++ op.texts

end BufferOp

/-- The texts that the operations appended since the last reset. -/
def sinceReset (ops : List BufferOp) : List Text := ops.foldl BufferOp.append []

/-- From `strBuf = NULL`, `strBufSize = 0`. -/
def Buffer.runOps (uninit : Nat → Nat → UInt8) (ops : List BufferOp) : Except Fault Buffer :=
  ops.foldlM (fun b op => op.run uninit b) Buffer.empty

namespace StrBuf

theorem vsnprintf_size {text : Text} {offset remaining : Nat} {strBuf strBuf' : StrBuf}
    (h : strBuf.vsnprintf text offset remaining = .ok strBuf') : strBuf'.size = strBuf.size := by
  unfold vsnprintf at h
  split at h
  · cases h
    rfl
  · cases strBuf with
    | none => cases h
    | some mem =>
      dsimp only at h
      split at h
      case isTrue hle =>
        cases h
        simp only [size, Option.getD_some, List.length_append, List.length_take,
          List.length_drop, List.length_singleton] at hle ⊢
        omega
      case isFalse => cases h

theorem realloc_size (uninit : Nat → UInt8) (newSize : Nat) (strBuf : StrBuf) :
    (realloc uninit newSize strBuf).size = newSize := by
  obtain ⟨mem, hmem, hlen, -⟩ := length_realloc uninit newSize strBuf
  rw [hmem]
  exact hlen

theorem strlen_eq {strBuf : StrBuf} (h : strBuf.Terminated) :
    strBuf.strlen = .ok strBuf.text.length := by
  cases strBuf with
  | none => rfl
  | some mem => exact if_pos (h mem rfl)

theorem length_text_le (strBuf : StrBuf) (h : strBuf.Terminated) :
    strBuf.text.length ≤ strBuf.size := by
  cases strBuf with
  | none => exact Nat.le_refl 0
  | some mem => exact Nat.le_of_lt (length_cString_lt (h mem rfl))

theorem doubled_lt {needed limit : Nat} (hneeded : 2 * needed ≤ limit) :
    ∀ {rounds size : Nat}, size < limit → doubled needed rounds size < limit
  | 0, _, h => h
  | rounds + 1, size, h => by
    rw [doubled]
    split
    · exact doubled_lt hneeded (by omega)
    · exact h

end StrBuf

namespace Buffer

/-- The loop of the source is the one on unbounded numbers while nothing overflows. -/
theorem doubling_eq {needed : Nat} (hneeded : needed ≤ 2 ^ 63) :
    ∀ {fuel rounds size : Nat}, 0 < size → needed ≤ size * 2 ^ fuel → needed ≤ size + rounds →
      doubling needed (fuel + 1) size = .ok (StrBuf.doubled needed rounds size)
  | 0, rounds, size, _, hfuel, _ => by
    have hge : ¬ size < needed := by omega
    rw [doubling, if_neg hge]
    cases rounds with
    | zero => rfl
    | succ rounds => rw [StrBuf.doubled, if_neg hge]
  | fuel + 1, rounds, size, hpos, hfuel, hrounds => by
    rw [doubling]
    split
    case isTrue hlt =>
      obtain ⟨rounds, rfl⟩ : ∃ r, rounds = r + 1 := ⟨rounds - 1, by omega⟩
      have hword : size * 2 % 2 ^ 64 = size * 2 := Nat.mod_eq_of_lt (by omega)
      have hfuel' : needed ≤ size * 2 * 2 ^ fuel := by
        rw [Nat.mul_assoc, ← Nat.pow_succ']
        exact hfuel
      have hrounds' : needed ≤ size * 2 + rounds := by omega
      rw [hword, doubling_eq hneeded (by omega) hfuel' hrounds', StrBuf.doubled, if_pos hlt]
    case isFalse hge =>
      cases rounds with
      | zero => rfl
      | succ rounds => rw [StrBuf.doubled, if_neg hge]

/-- The size that the first text asks for, or the doubled one. -/
def newSize (b : Buffer) (text : Text) : Nat :=
  let needed := b.strBuf.text.length + text.length + 1
  if b.strBufSize = 0 then text.length + 1 else StrBuf.doubled needed needed b.strBufSize

section
variable {b : Buffer} {text : Text}

theorem newSize_lt (hword : b.strBufSize < 2 ^ 64)
    (htotal : b.strBuf.text.length + text.length < sizeMax / 2) : b.newSize text < 2 ^ 64 := by
  have hmax : sizeMax / 2 = 2 ^ 63 - 1 := rfl
  rw [newSize]
  split
  · omega
  · exact StrBuf.doubled_lt (by omega) hword

theorem newSize_ge (hle : b.strBuf.text.length ≤ b.strBufSize) :
    b.strBuf.text.length + text.length + 1 ≤ b.newSize text := by
  rw [newSize]
  split
  · omega
  · exact StrBuf.doubled_ge (by omega) (by omega)

theorem grownSize_eq {strBuf : StrBuf} (hsize : b.strBufSize = strBuf.size)
    (htotal : b.strBuf.text.length + text.length < sizeMax / 2) :
    grownSize ⟨strBuf, b.strBufSize⟩ b.strBuf.text.length text.length =
      .ok (b.newSize text) := by
  have hmax : sizeMax / 2 = 2 ^ 63 - 1 := rfl
  have hnull : strBuf = none ∨ b.strBufSize = 0 ↔ b.strBufSize = 0 := by
    refine ⟨fun h => h.elim (fun hnone => ?_) id, Or.inr⟩
    rw [hsize, hnone]
    rfl
  simp only [grownSize, newSize, hnull]
  split
  · rw [Nat.mod_eq_of_lt (by omega)]
  case isFalse hpos =>
    rw [Nat.mod_eq_of_lt (by omega)]
    refine doubling_eq (by omega) (Nat.pos_of_ne_zero hpos) ?_ (by omega)
    have hle : 1 * 2 ^ 64 ≤ b.strBufSize * 2 ^ 64 :=
      Nat.mul_le_mul_right _ (Nat.pos_of_ne_zero hpos)
    omega

/-- With the size of the allocation in `strBufSize`, and no overflow, `AppendStringF` is the
function on the allocation alone. -/
theorem appendStringF_eq (uninit : Nat → Nat → UInt8) (hsize : b.strBufSize = b.strBuf.size)
    (hterm : b.strBuf.Terminated) (hword : b.strBufSize < 2 ^ 64) (hint : text.length ≤ intMax)
    (htotal : b.strBuf.text.length + text.length < sizeMax / 2) {strBuf : StrBuf}
    (hrun : b.strBuf.appendStringF (uninit (b.newSize text)) text = .ok strBuf) :
    b.appendStringF uninit text =
        .ok (⟨strBuf, strBuf.size⟩, b.strBuf.text.length + text.length) ∧
      strBuf.size < 2 ^ 64 := by
  have hmax : sizeMax / 2 = 2 ^ 63 - 1 := rfl
  have hle := StrBuf.length_text_le b.strBuf hterm
  have hlength : vsnprintfLength text = text.length := if_pos hint
  have hremaining : subSize b.strBufSize b.strBuf.text.length =
      b.strBufSize - b.strBuf.text.length := subSize_of_le (by omega) hword
  have hreturn : (b.strBuf.text.length + text.length) % 2 ^ 64 =
      b.strBuf.text.length + text.length := Nat.mod_eq_of_lt (by omega)
  simp only [StrBuf.appendStringF, StrBuf.strlen_eq hterm, ← hsize, bind, Except.bind] at hrun
  simp only [appendStringF, StrBuf.strlen_eq hterm, hlength, hremaining, hreturn, bind,
    Except.bind]
  cases hfirst : b.strBuf.vsnprintf text b.strBuf.text.length
      (b.strBufSize - b.strBuf.text.length) with
  | error fault =>
    rw [hfirst] at hrun
    cases hrun
  | ok first =>
    rw [hfirst] at hrun
    have hkept := StrBuf.vsnprintf_size hfirst
    dsimp only at hrun ⊢
    split
    case isTrue hfits =>
      rw [if_pos hfits] at hrun
      cases hrun
      exact ⟨by rw [hkept, ← hsize]; rfl, by omega⟩
    case isFalse hfits =>
      rw [if_neg hfits] at hrun
      rw [grownSize_eq (by omega) htotal]
      have hnew := newSize_lt hword htotal
      have hcur := @newSize_ge b text (by omega)
      have hsub : subSize (b.newSize text) b.strBuf.text.length =
          b.newSize text - b.strBuf.text.length := subSize_of_le (by omega) hnew
      change ((first.realloc (uninit (b.newSize text)) (b.newSize text)).vsnprintf text
        b.strBuf.text.length (b.newSize text - b.strBuf.text.length)) = .ok strBuf at hrun
      have hgrown : strBuf.size = b.newSize text :=
        (StrBuf.vsnprintf_size hrun).trans (StrBuf.realloc_size _ _ _)
      dsimp only
      rw [hsub, hrun]
      exact ⟨by rw [hgrown]; rfl, by omega⟩

/-- What every call keeps: the size variable is the size of the allocation, which is terminated
and holds `content`. -/
structure Valid (b : Buffer) (content : Text) : Prop where
  size_eq : b.strBufSize = b.strBuf.size
  size_lt : b.strBufSize < 2 ^ 64
  terminated : b.strBuf.Terminated
  text_eq : b.strBuf.text = content

theorem valid_empty : empty.Valid [] :=
  ⟨rfl, by decide, StrBuf.terminated_none, rfl⟩

/-- `strBuf` is terminated, its string and the terminator fit `strBufSize` bytes, all of which are
allocated, and the string is `content`. -/
def Holds (b : Buffer) (content : Text) : Prop :=
  ∃ mem, b.strBuf = some mem ∧ mem.length = b.strBufSize ∧ 0 ∈ mem ∧
    (Text.cString mem).length + 1 ≤ b.strBufSize ∧ Text.cString mem = content

theorem Valid.holds {content : Text} (h : b.Valid content) (hnull : b.strBuf ≠ none) :
    b.Holds content := by
  obtain ⟨strBuf, strBufSize⟩ := b
  cases strBuf with
  | none => exact absurd rfl hnull
  | some mem =>
    have hnul := h.terminated mem rfl
    have hlen : mem.length = strBufSize := h.size_eq.symm
    exact ⟨mem, rfl, hlen, hnul, hlen ▸ StrBuf.length_cString_lt hnul, h.text_eq⟩

theorem appendStringF_valid (uninit : Nat → Nat → UInt8) {content : Text} (h : b.Valid content)
    (hint : text.length ≤ intMax) (htotal : content.length + text.length < sizeMax / 2) :
    ∃ b', b.appendStringF uninit text = .ok (b', content.length + text.length) ∧
      b'.strBuf ≠ none ∧ b'.Valid (content ++ Text.cString text) := by
  have hcontent := h.text_eq
  subst hcontent
  obtain ⟨mem, hrun, hnul, htext⟩ :=
    StrBuf.appendStringF_text (uninit (b.newSize text)) text h.terminated
  obtain ⟨heq, hlt⟩ := appendStringF_eq uninit h.size_eq h.terminated h.size_lt hint htotal hrun
  refine ⟨_, heq, fun hnone => (by cases hnone), ?_⟩
  exact ⟨rfl, hlt, StrBuf.terminated_some hnul, htext⟩

theorem appendRepeated_valid (uninit : Nat → Nat → UInt8) (hint : text.length ≤ intMax) :
    ∀ (repeatCount : Nat) {b : Buffer} {content : Text}, b.Valid content →
      content.length + (List.replicate repeatCount text).flatten.length < sizeMax / 2 →
      ∃ b', b.appendRepeated uninit text repeatCount = .ok b' ∧
        (repeatCount = 0 → b' = b) ∧ (0 < repeatCount → b'.strBuf ≠ none) ∧
        b'.Valid (content ++ (List.replicate repeatCount (Text.cString text)).flatten)
  | 0, b, content, h, _ =>
    ⟨b, rfl, fun _ => rfl, fun hpos => absurd hpos (Nat.lt_irrefl 0),
      (List.append_nil content).symm ▸ h⟩
  | repeatCount + 1, b, content, h, htotal => by
    rw [List.replicate_succ, List.flatten_cons, List.length_append] at htotal
    obtain ⟨b₁, hrun₁, hnull₁, hvalid₁⟩ := appendStringF_valid uninit h hint (by omega)
    have hshort : (Text.cString text).length ≤ text.length :=
      (List.takeWhile_prefix _).length_le
    obtain ⟨b₂, hrun₂, hsame₂, hnull₂, hvalid₂⟩ := appendRepeated_valid uninit hint repeatCount
      hvalid₁ (by rw [List.length_append]; omega)
    refine ⟨b₂, ?_, fun h0 => absurd h0 (Nat.succ_ne_zero _), fun _ => ?_, ?_⟩
    · rw [appendRepeated, hrun₁]
      exact hrun₂
    · cases repeatCount with
      | zero => exact hsame₂ rfl ▸ hnull₁
      | succ repeatCount => exact hnull₂ (Nat.succ_pos _)
    · rw [List.replicate_succ, List.flatten_cons, ← List.append_assoc]
      exact hvalid₂

theorem reset_valid {content : Text} (h : b.Valid content) (hnull : b.strBuf ≠ none) :
    ∃ b', b.reset = .ok b' ∧ b'.strBuf ≠ none ∧ b'.Valid [] := by
  obtain ⟨strBuf, strBufSize⟩ := b
  cases strBuf with
  | none => exact absurd rfl hnull
  | some mem =>
    have hnul := h.terminated mem rfl
    cases mem with
    | nil => cases hnul
    | cons c mem =>
      refine ⟨⟨some (0 :: mem), strBufSize⟩, rfl, fun hnone => (by cases hnone), ?_⟩
      exact ⟨h.size_eq, h.size_lt, StrBuf.terminated_some List.mem_cons_self, rfl⟩

end

/-! ## Sequences of calls -/

end Buffer

/-- What the callers keep to: each text is one that `vsnprintf` can count, the texts since the last
reset are short enough for a `size_t` to double, and `strBuf[0] = 0` comes after an append. -/
structure Admissible (ops : List BufferOp) : Prop where
  fits : ∀ op ∈ ops, ∀ text ∈ op.texts, text.length ≤ intMax
  total : ∀ done, done <+: ops → (sinceReset done).flatten.length < sizeMax / 2
  resets : ∀ done, done ++ [.reset] <+: ops → ∃ op ∈ done, op.texts ≠ []

namespace Admissible

theorem of_prefix {ops done : List BufferOp} (h : Admissible ops) (hdone : done <+: ops) :
    Admissible done where
  fits op hop := h.fits op (hdone.subset hop)
  total first hfirst := h.total first (hfirst.trans hdone)
  resets first hfirst := h.resets first (hfirst.trans hdone)

end Admissible

theorem sinceReset_concat (ops : List BufferOp) (op : BufferOp) :
    sinceReset (ops ++ [op]) = BufferOp.append (sinceReset ops) op := by
  rw [sinceReset, List.foldl_append]
  rfl

namespace Buffer

theorem runOps_concat {uninit : Nat → Nat → UInt8} {ops : List BufferOp} {b : Buffer}
    (h : runOps uninit ops = .ok b) (op : BufferOp) :
    runOps uninit (ops ++ [op]) = op.run uninit b := by
  rw [runOps, List.foldlM_append, ← runOps, h]
  show (op.run uninit b >>= pure) = _
  exact bind_pure _

/-- What the operations leave: the texts since the last reset, in a buffer that is `NULL` until
something is appended and never again. -/
structure After (ops : List BufferOp) (b : Buffer) : Prop where
  valid : b.Valid ((sinceReset ops).map Text.cString).flatten
  null : (∀ op ∈ ops, op.texts = []) → b = empty
  allocated : (∃ op ∈ ops, op.texts ≠ []) → b.strBuf ≠ none

theorem after_nil : After [] empty :=
  ⟨valid_empty, fun _ => rfl, fun ⟨_, hop, _⟩ => absurd hop List.not_mem_nil⟩

theorem length_cStrings_le (texts : List Text) :
    (texts.map Text.cString).flatten.length ≤ texts.flatten.length := by
  induction texts with
  | nil => exact Nat.le_refl 0
  | cons text texts ih =>
    rw [List.map_cons, List.flatten_cons, List.flatten_cons, List.length_append,
      List.length_append]
    exact Nat.add_le_add (List.takeWhile_prefix _).length_le ih

/-- An operation that does not reset extends what the buffer holds. -/
theorem After.append {ops : List BufferOp} {op : BufferOp} {b b' : Buffer} (h : After ops b)
    (hop : op ≠ .reset)
    (hvalid : b'.Valid
      (((sinceReset ops).map Text.cString).flatten ++ (op.texts.map Text.cString).flatten))
    (hnone : op.texts = [] → b' = b) (hsome : op.texts ≠ [] → b'.strBuf ≠ none) :
    After (ops ++ [op]) b' where
  valid := by
    rw [sinceReset_concat, BufferOp.append, if_neg hop, List.map_append, List.flatten_append]
    exact hvalid
  null hall := by
    rw [hnone (hall op (by simp))]
    exact h.null fun o ho => hall o (List.mem_append_left _ ho)
  allocated := by
    rintro ⟨o, ho, htexts⟩
    by_cases hempty : op.texts = []
    · rw [hnone hempty]
      refine h.allocated ⟨o, (List.mem_append.1 ho).resolve_right fun hmem => ?_, htexts⟩
      exact htexts (List.mem_singleton.1 hmem ▸ hempty)
    · exact hsome hempty

theorem run_after (uninit : Nat → Nat → UInt8) {ops : List BufferOp} {op : BufferOp} {b : Buffer}
    (h : After ops b) (hops : Admissible (ops ++ [op])) :
    ∃ b', op.run uninit b = .ok b' ∧ After (ops ++ [op]) b' := by
  have hfits := hops.fits op (by simp)
  have htotal := hops.total _ (List.prefix_refl _)
  have hshort := length_cStrings_le (sinceReset ops)
  rw [sinceReset_concat] at htotal
  cases op with
  | appendStringF text =>
    rw [BufferOp.append, if_neg (by simp), BufferOp.texts, List.flatten_append,
      List.length_append, List.flatten_singleton] at htotal
    obtain ⟨b', hrun, hnull, hvalid⟩ := appendStringF_valid uninit h.valid
      (hfits text (List.mem_singleton_self _)) (by omega)
    refine ⟨b', ?_, h.append (by simp) ?_ (fun hnil => by cases hnil) fun _ => hnull⟩
    · rw [BufferOp.run, hrun]
      rfl
    · rw [BufferOp.texts, List.map_singleton, List.flatten_singleton]
      exact hvalid
  | appendRepeated inStr repeatCount =>
    rw [BufferOp.append, if_neg (by simp), BufferOp.texts, List.flatten_append,
      List.length_append] at htotal
    by_cases h0 : repeatCount.toNat = 0
    · refine ⟨b, ?_, h.append (by simp) ?_ (fun _ => rfl) ?_⟩
      · rw [BufferOp.run, h0]
        rfl
      · simpa [BufferOp.texts, h0] using h.valid
      · simp [BufferOp.texts, h0]
    · have hmem : inStr ∈ (BufferOp.appendRepeated inStr repeatCount).texts :=
        List.mem_replicate.2 ⟨h0, rfl⟩
      obtain ⟨b', hrun, -, hnull, hvalid⟩ := appendRepeated_valid uninit (hfits inStr hmem)
        repeatCount.toNat h.valid (by omega)
      refine ⟨b', hrun, h.append (by simp) ?_ ?_ fun _ => hnull (Nat.pos_of_ne_zero h0)⟩
      · rw [BufferOp.texts, List.map_replicate]
        exact hvalid
      · intro hnil
        rw [hnil] at hmem
        cases hmem
  | reset =>
    obtain ⟨op, hop, htexts⟩ := hops.resets ops (List.prefix_refl _)
    obtain ⟨b', hrun, hnull, hvalid⟩ := reset_valid h.valid (h.allocated ⟨op, hop, htexts⟩)
    refine ⟨b', hrun, ?_, fun hall => ?_, fun _ => hnull⟩
    · rw [sinceReset_concat, BufferOp.append, if_pos rfl]
      exact hvalid
    · exact absurd (hall op (List.mem_append_left _ hop)) htexts

/-- No call of the sequence faults: nothing is written outside the allocation, and the doubling
loop ends. -/
theorem runOps_after (uninit : Nat → Nat → UInt8) {ops : List BufferOp} (h : Admissible ops) :
    ∃ b, runOps uninit ops = .ok b ∧ After ops b := by
  induction ops using List.reverseRecOn with
  | nil => exact ⟨empty, rfl, after_nil⟩
  | append_singleton ops op ih =>
    obtain ⟨b, hrun, hafter⟩ := ih (h.of_prefix (List.prefix_append _ _))
    obtain ⟨b', hrun', hafter'⟩ := run_after uninit hafter h
    exact ⟨b', (runOps_concat hrun op).trans hrun', hafter'⟩

/-- After each call the buffer is `NULL` if nothing has been appended, and otherwise holds the
texts appended since the last reset. -/
theorem runOps_holds (uninit : Nat → Nat → UInt8) (ops : List BufferOp) (h : Admissible ops) :
    ∀ done, done <+: ops → ∃ b, runOps uninit done = .ok b ∧
      ((∀ op ∈ done, op.texts = []) → b = empty) ∧
      ((∃ op ∈ done, op.texts ≠ []) →
        b.Holds ((sinceReset done).map Text.cString).flatten) := by
  intro done hdone
  obtain ⟨b, hrun, hafter⟩ := runOps_after uninit (h.of_prefix hdone)
  exact ⟨b, hrun, hafter.null, fun happended => hafter.valid.holds (hafter.allocated happended)⟩

/-- An opening bracket, and an indented line after the reset that follows it: the line grows the
buffer twice. -/
def lineOps : List BufferOp :=
  [.appendStringF (Text.lit "["), .reset, .appendRepeated (Text.lit "    ") 2,
    .appendStringF (Text.lit "1 = null")]

theorem runOps_holds_line :
    Admissible lineOps ∧ ∃ b, runOps (fun _ _ => 255) lineOps = .ok b ∧
      b.Holds (Text.lit "        1 = null") := by
  have hops : Admissible lineOps := by
    refine ⟨by decide +kernel, fun done hdone => ?_, fun done hdone => ?_⟩
    · have hall : ∀ d ∈ lineOps.inits, (sinceReset d).flatten.length < sizeMax / 2 := by
        decide +kernel
      exact hall done ((List.mem_inits _ _).2 hdone)
    · have hall : ∀ d ∈ lineOps.inits, d.getLast? = some .reset →
          ∃ op ∈ d.dropLast, op.texts ≠ [] := by decide +kernel
      simpa using hall _ ((List.mem_inits _ _).2 hdone)
  obtain ⟨b, hrun, -, hholds⟩ :=
    runOps_holds (fun _ _ => 255) lineOps hops lineOps (List.prefix_refl _)
  have hcontent : ((sinceReset lineOps).map Text.cString).flatten =
      Text.lit "        1 = null" := by decide +kernel
  exact ⟨hops, b, hrun, hcontent ▸ hholds ⟨.appendStringF (Text.lit "["), by decide +kernel⟩⟩

/-- A text that does not fit is formatted again, behind what the buffer held. -/
theorem appendStringF_grows {uninit : Nat → Nat → UInt8} {text : Text} {b : Buffer}
    {curStrLen strBufSize : Nat} {first second : StrBuf}
    (hstrlen : b.strBuf.strlen = .ok curStrLen)
    (hfirst : b.strBuf.vsnprintf text curStrLen (subSize b.strBufSize curStrLen) = .ok first)
    (hfits : ¬ vsnprintfLength text < subSize b.strBufSize curStrLen)
    (hgrown : grownSize ⟨first, b.strBufSize⟩ curStrLen (vsnprintfLength text) = .ok strBufSize)
    (hsecond : (first.realloc (uninit strBufSize) strBufSize).vsnprintf text curStrLen
      (subSize strBufSize curStrLen) = .ok second) :
    b.appendStringF uninit text =
      .ok (⟨second, strBufSize⟩, (curStrLen + vsnprintfLength text) % 2 ^ 64) := by
  simp only [appendStringF, hstrlen, hfirst, hgrown, hsecond, bind, Except.bind, if_neg hfits]
  rfl

/-- A text that `vsnprintf` cannot count asks for `SIZE_MAX + 1` bytes, which is 0. -/
theorem runOps_uncountable (uninit : Nat → Nat → UInt8) {text : Text}
    (h : intMax < text.length) :
    runOps uninit [.appendStringF text] = .ok ⟨some [], 0⟩ := by
  have hlength : vsnprintfLength text = sizeMax := if_neg (by omega)
  have hremaining : subSize 0 0 = 0 := by simp [subSize]
  have hnone : ∀ strBuf : StrBuf, strBuf.vsnprintf text 0 (subSize 0 0) = .ok strBuf := by
    intro strBuf
    rw [hremaining]
    unfold StrBuf.vsnprintf
    exact if_pos rfl
  have hgrown : grownSize ⟨none, 0⟩ 0 (vsnprintfLength text) = .ok 0 := by
    have hzero : (vsnprintfLength text + 1) % 2 ^ 64 = 0 := by
      rw [hlength]
      simp [sizeMax]
    rw [grownSize, if_pos (Or.inr rfl), hzero]
  have hfits : ¬ vsnprintfLength text < subSize 0 0 := by
    rw [hremaining]
    exact Nat.not_lt_zero _
  have hrun := @appendStringF_grows uninit text empty 0 0 none _ rfl (hnone _) hfits hgrown
    (hnone _)
  have hempty : runOps uninit [] = .ok empty := rfl
  refine (runOps_concat hempty _).trans ?_
  rw [BufferOp.run, hrun]
  rfl

theorem not_holds_zero {strBuf : StrBuf} {content : Text} : ¬ Holds ⟨strBuf, 0⟩ content :=
  fun ⟨_, _, _, _, hle, _⟩ => absurd hle (Nat.not_succ_le_zero _)

/-- An indentation of no steps leaves `NULL`, and a text of more than `INT_MAX` bytes an allocation
of none. -/
theorem runOps_not_holds :
    (∃ b, runOps (fun _ _ => 255) [.appendRepeated (Text.lit "    ") 0] = .ok b ∧
      ¬ b.Holds []) ∧
    ∃ text : Text, text.length = 2 ^ 31 ∧ text.length < sizeMax / 2 ∧ 0 ∉ text ∧
      ∃ b, runOps (fun _ _ => 255) [.appendStringF text] = .ok b ∧ ¬ b.Holds text := by
  refine ⟨⟨empty, rfl, not_holds_zero⟩, ?_⟩
  obtain ⟨text, htext⟩ : ∃ text : Text, text = List.replicate (2 ^ 31) 97 := ⟨_, rfl⟩
  have hlength : text.length = 2 ^ 31 := by rw [htext, List.length_replicate]
  have hsize : 2 ^ 31 < sizeMax / 2 := by decide
  have hnul : 0 ∉ text := by
    rw [htext]
    exact fun h0 => absurd (List.mem_replicate.1 h0).2 (by decide)
  have hlong : intMax < text.length := by
    rw [hlength]
    decide
  exact ⟨text, hlength, hlength ▸ hsize, hnul, _, runOps_uncountable _ hlong, not_holds_zero⟩

end Buffer

end Matter
