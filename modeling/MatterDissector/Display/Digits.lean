import Mathlib.Data.Nat.Digits.Defs
import MatterDissector.Display.Text

/-!
# Numbers in texts

A hexadecimal number can be read back from a text, as long as what stands behind it does not
continue it (`hexUpper_append_inj`), and a decimal one from a text of its own (`dec_injective`).
-/

namespace Matter.Text

/-- The digits of `%X`. -/
def isHexDigit (b : UInt8) : Bool := (48 ≤ b && b ≤ 57) || (65 ≤ b && b ≤ 70)

def hexDigitValue (b : UInt8) : Nat := if b ≤ 57 then b.toNat - 48 else b.toNat - 55

/-- The number that `%X` shows as `t`. -/
def hexValue (t : Text) : Nat := t.foldl (fun v b => 16 * v + hexDigitValue b) 0

/-- A digit of `%X`. -/
def hexDigit (d : Nat) : UInt8 := UInt8.ofNat (Nat.digitChar d).toUpper.toNat

theorem hexDigit_spec :
    ∀ d < 16, isHexDigit (hexDigit d) = true ∧ hexDigitValue (hexDigit d) = d := by
  decide

/-- The last digit comes off the end. -/
theorem hexUpper_eq (n : Nat) :
    hexUpper n = (if n < 16 then [] else hexUpper (n / 16)) ++ [hexDigit (n % 16)] := by
  unfold hexUpper ofChars
  rw [Nat.toDigits_eq_if (by decide)]
  split
  · rename_i h
    rw [Nat.mod_eq_of_lt h]
    rfl
  · rw [List.map_append, List.map_append]
    rfl

theorem hexUpper_digits (n : Nat) : ∀ b ∈ hexUpper n, isHexDigit b = true := by
  induction n using Nat.strong_induction_on with
  | _ n ih =>
    intro b hb
    rw [hexUpper_eq, List.mem_append, List.mem_singleton] at hb
    rcases hb with hb | rfl
    · split at hb
      · cases hb
      · exact ih (n / 16) (by omega) b hb
    · exact (hexDigit_spec _ (Nat.mod_lt _ (by decide))).1

theorem hexValue_hexUpper (n : Nat) : hexValue (hexUpper n) = n := by
  induction n using Nat.strong_induction_on with
  | _ n ih =>
    have hlast := (hexDigit_spec (n % 16) (Nat.mod_lt _ (by decide))).2
    rw [hexUpper_eq, hexValue, List.foldl_append, List.foldl_cons, List.foldl_nil, hlast]
    split
    · rw [List.foldl_nil]
      omega
    · have hfront := ih (n / 16) (by omega)
      rw [hexValue] at hfront
      rw [hfront]
      omega

/-- A number of 64 bits has at most 16 digits. -/
theorem length_hexUpper {n : Nat} (h : n < 2 ^ 64) : (hexUpper n).length ≤ 16 := by
  unfold hexUpper ofChars
  rw [List.length_map, List.length_map]
  exact Nat.toDigits_length 16 n 16 (by decide) h

/-- `t` does not go on with a digit. -/
def Delimits (t : Text) : Prop := ∀ b, t.head? = some b → isHexDigit b = false

theorem delimits_nil : Delimits [] := fun _ h => by cases h

theorem delimits_cons {b : UInt8} (t : Text) (h : isHexDigit b = false) : Delimits (b :: t) := by
  rintro _ ⟨⟩
  exact h

theorem Delimits.append {t t' : Text} (h : Delimits t) (h' : t = [] → Delimits t') :
    Delimits (t ++ t') := by
  cases t with
  | nil => exact h' rfl
  | cons b t => exact delimits_cons _ (h b rfl)

theorem takeWhile_hexUpper (n : Nat) {t : Text} (h : Delimits t) :
    (hexUpper n ++ t).takeWhile isHexDigit = hexUpper n := by
  rw [List.takeWhile_append_of_pos (hexUpper_digits n)]
  cases t with
  | nil => rw [List.takeWhile_nil, List.append_nil]
  | cons b t =>
    rw [List.takeWhile_cons, h b rfl]
    exact List.append_nil _

/-- A number can be told from what stands behind it. -/
theorem hexUpper_append_inj {n m : Nat} {t u : Text} (ht : Delimits t) (hu : Delimits u)
    (h : hexUpper n ++ t = hexUpper m ++ u) : n = m ∧ t = u := by
  have hdigits : hexUpper n = hexUpper m := by
    rw [← takeWhile_hexUpper n ht, h, takeWhile_hexUpper m hu]
  refine ⟨?_, ?_⟩
  · rw [← hexValue_hexUpper n, hdigits, hexValue_hexUpper]
  · rw [hdigits] at h
    exact List.append_cancel_left h

/-! ## Decimal numbers -/

theorem isDigit_of_mem {n : Nat} {c : Char} (h : c ∈ Nat.toDigits 10 n) :
    48 ≤ c.toNat ∧ c.toNat ≤ 57 := by
  have hdigit := Nat.isDigit_of_mem_toDigits (by decide) (by decide) h
  rw [Char.isDigit, Bool.and_eq_true, decide_eq_true_eq, decide_eq_true_eq] at hdigit
  exact hdigit

theorem dec_digits (n : Nat) : ∀ b ∈ dec n, 48 ≤ b.toNat ∧ b.toNat ≤ 57 := by
  intro b hb
  obtain ⟨c, hc, rfl⟩ := List.mem_map.1 hb
  have hdigit := isDigit_of_mem hc
  have hbyte : c.toNat < UInt8.size := Nat.lt_of_le_of_lt hdigit.2 (by decide)
  rw [UInt8.toNat_ofNat_of_lt' hbyte]
  exact hdigit

theorem dec_ne_nil (n : Nat) : dec n ≠ [] := fun h => Nat.toDigits_ne_nil (List.map_eq_nil_iff.1 h)

/-- A number can be told from its digits. -/
theorem dec_injective {n m : Nat} (h : dec n = dec m) : n = m := by
  have hread : ∀ n, (dec n).map (fun b => Char.ofNat b.toNat) = Nat.toDigits 10 n := fun n => by
    rw [dec, ofChars, List.map_map]
    refine (List.map_congr_left fun c hc => ?_).trans (List.map_id _)
    have hbyte : c.toNat < UInt8.size := Nat.lt_of_le_of_lt (isDigit_of_mem hc).2 (by decide)
    rw [Function.comp_apply, UInt8.toNat_ofNat_of_lt' hbyte, Char.ofNat_toNat, id]
  have hdigits : Nat.toDigits 10 n = Nat.toDigits 10 m := by rw [← hread n, h, hread m]
  have hn : Nat.ofDigitChars 10 (Nat.toDigits 10 n) 0 = n := Nat.ofDigitChars_ten_toDigits
  have hm : Nat.ofDigitChars 10 (Nat.toDigits 10 m) 0 = m := Nat.ofDigitChars_ten_toDigits
  rw [← hn, hdigits, hm]

/-! ## Texts without a terminator -/

theorem cString_eq_self {t : Text} (h : 0 ∉ t) : cString t = t := by
  have hnil := @StrBuf.cString_append t [] h
  rwa [List.append_nil, show cString [] = [] from rfl, List.append_nil] at hnil

theorem not_mem_append {t t' : Text} (h : 0 ∉ t) (h' : 0 ∉ t') : 0 ∉ t ++ t' := fun h0 =>
  (List.mem_append.1 h0).elim h h'

theorem not_mem_dec (n : Nat) : 0 ∉ dec n := fun h => by
  have := (dec_digits n 0 h).1
  simp at this

theorem not_mem_hexUpper (n : Nat) : 0 ∉ hexUpper n := fun h => by
  have hdigit := hexUpper_digits n 0 h
  revert hdigit
  decide

theorem not_mem_zeroPad {t : Text} (width : Nat) (h : 0 ∉ t) : 0 ∉ zeroPad width t :=
  not_mem_append (fun h0 => absurd (List.eq_of_mem_replicate h0) (by decide)) h

end Matter.Text
