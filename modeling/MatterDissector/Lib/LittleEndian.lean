import Mathlib.Tactic.Common
import Mathlib.Tactic.Ring

/-!
# Little-endian numbers

`LE.bytes k v`: the low `k` bytes of `v`, least significant first; `LE.value`: the number a byte
string spells. The two are inverse on numbers that fit (`value_bytes`), and a number can be read
byte by byte from its low end (`value_take_succ`).
-/

namespace LE

/-- The low `k` bytes of `v`. -/
def bytes : Nat → Nat → List UInt8
  | 0, _ => []
  | k + 1, v => UInt8.ofNat v :: bytes k (v / 256)

/-- The number spelled by `bs`. -/
def value : List UInt8 → Nat
  | [] => 0
  | b :: bs => b.toNat + 256 * value bs

@[simp] theorem value_nil : value [] = 0 := rfl

@[simp] theorem length_bytes (k v : Nat) : (bytes k v).length = k := by
  induction k generalizing v with
  | zero => rfl
  | succ k ih => simp [bytes, ih]

/-- Bytes keep the low part of a number. -/
theorem value_bytes_mod (k v : Nat) : value (bytes k v) = v % 256 ^ k := by
  induction k generalizing v with
  | zero => simp [bytes, Nat.mod_one]
  | succ k ih =>
    have hb : (UInt8.ofNat v).toNat = v % 256 := by simp [UInt8.toNat_ofNat']
    rw [bytes, value, ih, hb, Nat.pow_succ, Nat.mul_comm (256 ^ k) 256, Nat.mod_mul]

theorem value_bytes {k v : Nat} (h : v < 256 ^ k) : value (bytes k v) = v := by
  rw [value_bytes_mod, Nat.mod_eq_of_lt h]

/-- A number at the front of a byte string. -/
theorem value_take_bytes {k v : Nat} (h : v < 256 ^ k) (rest : List UInt8) :
    value ((bytes k v ++ rest).take k) = v := by
  rw [List.take_left' (length_bytes k v), value_bytes h]

@[simp] theorem drop_bytes (k v : Nat) (rest : List UInt8) :
    (bytes k v ++ rest).drop k = rest := List.drop_left' (length_bytes k v)

theorem value_lt (bs : List UInt8) : value bs < 256 ^ bs.length := by
  induction bs with
  | nil => simp
  | cons b bs ih =>
    have hb := b.toNat_lt
    rw [value, List.length_cons, Nat.pow_succ]
    omega

/-- A byte string is that of the number it spells. -/
theorem bytes_value (bs : List UInt8) : bytes bs.length (value bs) = bs := by
  induction bs with
  | nil => rfl
  | cons b bs ih =>
    have hb := b.toNat_lt
    have hhigh : (b.toNat + 256 * value bs) / 256 = value bs := by omega
    have hlow : UInt8.ofNat (b.toNat + 256 * value bs) = b := by
      apply UInt8.toNat_inj.1
      rw [UInt8.toNat_ofNat']
      omega
    rw [List.length_cons, value, bytes, hhigh, hlow, ih]

theorem bytes_injective {k v w : Nat} (hv : v < 256 ^ k) (hw : w < 256 ^ k)
    (h : bytes k v = bytes k w) : v = w := by
  rw [← value_bytes hv, h, value_bytes hw]

theorem value_append (xs ys : List UInt8) :
    value (xs ++ ys) = value xs + 256 ^ xs.length * value ys := by
  induction xs with
  | nil => simp
  | cons x xs ih =>
    rw [List.cons_append, value, value, ih, List.length_cons, Nat.pow_succ]
    ring

/-- One more byte at the high end. -/
theorem value_take_succ {bs : List UInt8} {k : Nat} {b : UInt8} (h : bs[k]? = some b) :
    value (bs.take (k + 1)) = value (bs.take k) ||| (b.toNat <<< (8 * k)) := by
  have hk : k < bs.length := (List.getElem?_eq_some_iff.1 h).1
  have hl : (bs.take k).length = k := by rw [List.length_take]; omega
  have hlt : value (bs.take k) < 2 ^ (8 * k) := by
    have := value_lt (bs.take k)
    rwa [hl, show (256 : Nat) = 2 ^ 8 by rfl, ← Nat.pow_mul] at this
  rw [List.take_add_one, h, Nat.or_comm, ← Nat.shiftLeft_add_eq_or_of_lt hlt, Nat.shiftLeft_eq,
    Option.toList_some, value_append, hl, value, value_nil,
    show (256 : Nat) ^ k = 2 ^ (8 * k) by rw [Nat.pow_mul]]
  ring

end LE
