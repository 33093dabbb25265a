import MatterDissector.Lib.LittleEndian
import MatterDissector.TLV.Types

/-!
# Testy, virtual buffers

The part of Wireshark's `tvbuff` that the message layer calls. The accessors throw when the range
is not in the captured bytes; the reported length is the length on the wire, which the capture
may have cut.
-/

namespace Matter.Message

open Prog

inductive TvbError where
  | outOfRange
  deriving DecidableEq, Repr

structure Tvb where
  bytes : List UInt8
  reportedLength : Nat
  deriving DecidableEq, Repr

namespace Tvb

variable {σ : Type}

/-- A completely captured buffer. -/
def ofBytes (bytes : List UInt8) : Tvb := ⟨bytes, bytes.length⟩

/-- The little-endian number of `k` bytes at `offset`: `tvb_get_guint8`, `tvb_get_letohs`,
`tvb_get_letohl` and `tvb_get_letoh64` by `k`. -/
def getLE (k : Nat) (tvb : Tvb) (offset : Nat) : Prog TvbError Fault σ Nat :=
  if offset + k ≤ tvb.bytes.length then pure (LE.value ((tvb.bytes.drop offset).take k))
  else throw .outOfRange

abbrev getGuint8 (tvb : Tvb) (offset : Nat) : Prog TvbError Fault σ Nat := getLE 1 tvb offset
abbrev getLetohs (tvb : Tvb) (offset : Nat) : Prog TvbError Fault σ Nat := getLE 2 tvb offset
abbrev getLetohl (tvb : Tvb) (offset : Nat) : Prog TvbError Fault σ Nat := getLE 4 tvb offset
abbrev getLetoh64 (tvb : Tvb) (offset : Nat) : Prog TvbError Fault σ Nat := getLE 8 tvb offset

/-- `tvb_new_subset_remaining`. -/
def newSubsetRemaining (tvb : Tvb) (offset : Nat) : Prog TvbError Fault σ Tvb :=
  if offset ≤ tvb.bytes.length then
    pure ⟨tvb.bytes.drop offset, tvb.reportedLength - offset⟩
  else throw .outOfRange

/-- `tvb_new_subset_length`. -/
def newSubsetLength (tvb : Tvb) (offset length : Nat) : Prog TvbError Fault σ Tvb :=
  if offset + length ≤ tvb.bytes.length then
    pure (.ofBytes ((tvb.bytes.drop offset).take length))
  else throw .outOfRange

/-- The bytes of a range: `tvb_ensure_bytes_exist` and a read. -/
def getBytes (tvb : Tvb) (offset length : Nat) : Prog TvbError Fault σ (List UInt8) :=
  if offset + length ≤ tvb.bytes.length then pure ((tvb.bytes.drop offset).take length)
  else throw .outOfRange

/-- `tvb_memdup`: the length is cast to `int`; -1 is the rest of the buffer, a smaller one an
error. The copy of no bytes is `NULL` (the empty list). -/
def memdup (tvb : Tvb) (offset length : Nat) : Prog TvbError Fault σ (List UInt8) :=
  if tvb.bytes.length < offset then throw .outOfRange
  else if length = 2 ^ 32 - 1 then pure (tvb.bytes.drop offset)
  else if length < 2 ^ 31 ∧ offset + length ≤ tvb.bytes.length then
    pure ((tvb.bytes.drop offset).take length)
  else throw .outOfRange

/-- The bytes in the middle of the buffer are read as a number. -/
theorem getLE_of_eq {k offset : Nat} {tvb : Tvb} (pre mid post : List UInt8) (s : σ)
    (hbytes : tvb.bytes = pre ++ mid ++ post) (hpre : pre.length = offset)
    (hmid : mid.length = k) :
    (getLE k tvb offset : Prog TvbError Fault σ Nat).run s = .ok (LE.value mid) s := by
  have hmiddle : (tvb.bytes.drop offset).take k = mid := by
    rw [hbytes, List.append_assoc, ← hpre, List.drop_left]
    exact List.take_left' hmid
  have hle : offset + k ≤ tvb.bytes.length := by
    rw [hbytes, List.length_append, List.length_append]; omega
  rw [getLE, if_pos hle, hmiddle]
  rfl

theorem getLE_ok {k offset v : Nat} {tvb : Tvb} {s s' : σ}
    (h : (getLE k tvb offset : Prog TvbError Fault σ Nat).run s = .ok v s') :
    offset + k ≤ tvb.bytes.length ∧ v = LE.value ((tvb.bytes.drop offset).take k) := by
  unfold getLE at h
  split at h
  case isTrue hle =>
    cases h
    exact ⟨hle, rfl⟩
  case isFalse => cases h

/-- A number that was written there. -/
theorem getLE_bytes {k v offset : Nat} {tvb : Tvb} (pre post : List UInt8) (s : σ)
    (hbytes : tvb.bytes = pre ++ LE.bytes k v ++ post) (hpre : pre.length = offset)
    (hv : v < 256 ^ k) :
    (getLE k tvb offset : Prog TvbError Fault σ Nat).run s = .ok v s := by
  rw [getLE_of_eq pre _ post s hbytes hpre (LE.length_bytes k v), LE.value_bytes hv]

end Tvb

end Matter.Message
