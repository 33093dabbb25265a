import MatterDissector.Message.HintLine
import MatterDissector.Display.Digits
import Mathlib.Data.List.Perm.Basic

/-!
# A hint line is read as it was written

`hintLine_roundTrip`: in every spelling and layout of a line, `ParseMatterProxyHintLine` finds the
hint that the line states. The stages are taken one at a time: the digits (`numberIn_digits`,
`hexKeyBytes_key`), the numbers (`parseUIntAuto_spell`), the tokens of a text (`tokens_pieces`), the
fields of a line in any order (`foldl_addToken`), and the line itself.
-/

namespace Matter.Message

/-! ## Digits -/

section
variable {base : Nat}

theorem digitByte_spec :
    ∀ d < 16, digitValue (digitByte d) = some d ∧ digitByte d ≠ 0 ∧ isSpace (digitByte d) = false ∧
      digitByte d ≠ 45 ∧ digitByte d ≠ 43 := by
  decide

theorem byte_forall {P : UInt8 → Prop} (h : ∀ n < 256, P (UInt8.ofNat n)) (ch : UInt8) : P ch := by
  have hch := h ch.toNat ch.toNat_lt
  rwa [UInt8.ofNat_toNat] at hch

theorem digitValue_upcase (ch : UInt8) : digitValue (upcase ch) = digitValue ch :=
  byte_forall (P := fun ch => digitValue (upcase ch) = digitValue ch) (by decide +kernel) ch

theorem recase_cons (upper : Nat → Bool) (ch : UInt8) (t : Text) :
    recase upper (ch :: t) =
      (if upper 0 then upcase ch else ch) :: recase (fun i => upper (i + 1)) t := by
  rw [recase, List.mapIdx_cons]
  rfl

theorem length_recase (upper : Nat → Bool) (t : Text) : (recase upper t).length = t.length :=
  List.length_mapIdx

/-- Another case keeps the values of the digits. -/
theorem map_digitValue_recase (upper : Nat → Bool) (t : Text) :
    (recase upper t).map digitValue = t.map digitValue := by
  induction t generalizing upper with
  | nil => rfl
  | cons ch t ih =>
    rw [recase_cons, List.map_cons, List.map_cons, ih]
    split
    · rw [digitValue_upcase]
    · rfl

/-- The digits of a number. -/
def digits (base n : Nat) : Text := Text.ofChars (Nat.toDigits base n)

theorem digits_eq (hbase : 1 < base) (n : Nat) :
    digits base n = (if n < base then [] else digits base (n / base)) ++ [digitByte (n % base)] := by
  unfold digits Text.ofChars
  rw [Nat.toDigits_eq_if hbase]
  split
  case isTrue h =>
    rw [Nat.mod_eq_of_lt h]
    rfl
  case isFalse =>
    rw [List.map_append]
    rfl

theorem isDigitIn_iff {ch : UInt8} :
    isDigitIn base ch = true ↔ ∃ v, digitValue ch = some v ∧ v < base := by
  unfold isDigitIn
  cases digitValue ch <;> simp

theorem digits_isDigitIn (hbase : 1 < base) (hle : base ≤ 16) (n : Nat) :
    ∀ ch ∈ digits base n, isDigitIn base ch = true := by
  induction n using Nat.strong_induction_on with
  | _ n ih =>
    intro ch hch
    rw [digits_eq hbase, List.mem_append, List.mem_singleton] at hch
    rcases hch with hch | rfl
    · split at hch
      case isTrue => cases hch
      case isFalse h =>
        exact ih (n / base) (Nat.div_lt_self (by omega) hbase) ch hch
    · have hmod := Nat.mod_lt n (show base > 0 by omega)
      exact isDigitIn_iff.2 ⟨_, (digitByte_spec _ (by omega)).1, hmod⟩

theorem digits_ne_nil (hbase : 1 < base) (n : Nat) : digits base n ≠ [] := by
  rw [digits_eq hbase]
  simp

theorem numberIn_concat (t : Text) (ch : UInt8) :
    numberIn base (t ++ [ch]) = numberIn base t * base + (digitValue ch).getD 0 := by
  rw [numberIn, List.foldl_append]
  rfl

theorem numberIn_digits (hbase : 1 < base) (hle : base ≤ 16) (n : Nat) :
    numberIn base (digits base n) = n := by
  induction n using Nat.strong_induction_on with
  | _ n ih =>
    have hmod := Nat.mod_lt n (show base > 0 by omega)
    rw [digits_eq hbase, numberIn_concat, (digitByte_spec _ (by omega)).1, Option.getD_some]
    split
    case isTrue h =>
      rw [Nat.mod_eq_of_lt h]
      exact (congrArg (· + n) (Nat.zero_mul base)).trans (Nat.zero_add n)
    case isFalse h =>
      rw [ih (n / base) (Nat.div_lt_self (by omega) hbase), Nat.mul_comm]
      exact Nat.div_add_mod n base

/-- A number depends on the values of its digits. -/
theorem numberIn_congr {t t' : Text} (h : t.map digitValue = t'.map digitValue) :
    numberIn base t = numberIn base t' := by
  have hfold : ∀ t : Text, numberIn base t =
      (t.map digitValue).foldl (fun v d => v * base + d.getD 0) 0 := fun t => by
    rw [numberIn, List.foldl_map]
  rw [hfold, hfold, h]

theorem numberIn_zeros (zeros : Nat) (t : Text) :
    numberIn base (List.replicate zeros 48 ++ t) = numberIn base t := by
  induction zeros with
  | zero => rfl
  | succ zeros ih =>
    rw [List.replicate_succ, List.cons_append, numberIn, List.foldl_cons]
    have hzero : 0 * base + (digitValue 48).getD 0 = 0 := Nat.zero_mul base
    rw [hzero]
    exact ih

/-- A decimal number has no leading zero. -/
theorem head_digits {n : Nat} (hn : n ≠ 0) : ∃ ch rest, digits 10 n = ch :: rest ∧ ch ≠ 48 := by
  induction n using Nat.strong_induction_on with
  | _ n ih =>
    rw [digits_eq (by decide)]
    split
    case isTrue h =>
      refine ⟨_, [], rfl, ?_⟩
      have hdigit : ∀ d < 10, d ≠ 0 → digitByte d ≠ 48 := by decide
      rw [Nat.mod_eq_of_lt h]
      exact hdigit n h hn
    case isFalse h =>
      obtain ⟨ch, rest, hrest, hne⟩ := ih (n / 10) (by omega) (by omega)
      exact ⟨ch, rest ++ [digitByte (n % 10)], by rw [hrest]; rfl, hne⟩

end

/-! ## Numbers -/

/-- What the stages of the parser look for, none of which is a character of a field. -/
structure Plain (ch : UInt8) : Prop where
  nul : ch ≠ 0
  space : isSpace ch = false
  comma : ch ≠ 44
  semicolon : ch ≠ 59
  hash : ch ≠ 35

theorem plain_of_isXDigit {ch : UInt8} (h : isXDigit ch = true) :
    Plain ch ∧ ch ≠ 45 ∧ ch ≠ 43 ∧ ch ≠ 61 := by
  have hall : ∀ n < 256, isXDigit (UInt8.ofNat n) = true →
      (UInt8.ofNat n ≠ 0 ∧ isSpace (UInt8.ofNat n) = false ∧ UInt8.ofNat n ≠ 44 ∧
        UInt8.ofNat n ≠ 59 ∧ UInt8.ofNat n ≠ 35) ∧
      UInt8.ofNat n ≠ 45 ∧ UInt8.ofNat n ≠ 43 ∧ UInt8.ofNat n ≠ 61 := by
    decide +kernel
  have hch := hall ch.toNat ch.toNat_lt
  rw [UInt8.ofNat_toNat] at hch
  obtain ⟨⟨hnul, hspace, hcomma, hsemicolon, hhash⟩, hrest⟩ := hch h
  exact ⟨⟨hnul, hspace, hcomma, hsemicolon, hhash⟩, hrest⟩

theorem isXDigit_of_isDigitIn {base : Nat} {ch : UInt8} (hle : base ≤ 16)
    (h : isDigitIn base ch = true) : isXDigit ch = true := by
  obtain ⟨v, hv, hlt⟩ := isDigitIn_iff.1 h
  exact isDigitIn_iff.2 ⟨v, hv, Nat.lt_of_lt_of_le hlt hle⟩

theorem isXDigit_recase {upper : Nat → Bool} {t : Text} (h : ∀ ch ∈ t, isXDigit ch = true) :
    ∀ ch ∈ recase upper t, isXDigit ch = true := by
  intro ch hch
  have hmem : digitValue ch ∈ (recase upper t).map digitValue := List.mem_map_of_mem hch
  rw [map_digitValue_recase, List.mem_map] at hmem
  obtain ⟨ch', hch', hvalue⟩ := hmem
  obtain ⟨v, hv, hlt⟩ := isDigitIn_iff.1 (h ch' hch')
  exact isDigitIn_iff.2 ⟨v, hvalue ▸ hv, hlt⟩

theorem strtoull_digits {s number : Text} {base : Nat} (hspace : s.dropWhile isSpace = s)
    (hsign : splitSign s = (false, s)) (hbase : detectBase s = (base, number))
    (hall : ∀ ch ∈ number, isDigitIn base ch = true) (hne : number ≠ [])
    (hlt : numberIn base number < 2 ^ 64) : strtoull s = some (numberIn base number, []) := by
  have htake : number.takeWhile (isDigitIn base) = number := List.takeWhile_eq_self_iff.2 hall
  have hdrop : number.dropWhile (isDigitIn base) = [] := List.dropWhile_eq_nil_iff.2 hall
  simp only [strtoull, hspace, hsign, hbase, htake, hdrop]
  rw [if_neg (not_or.2 ⟨hne, Nat.not_le.2 hlt⟩)]
  rfl

/-- A text that starts with a digit has no blanks in front, and no sign. -/
theorem starts_with_digit {ch : UInt8} (h : isXDigit ch = true) (rest : Text) :
    (ch :: rest).dropWhile isSpace = ch :: rest ∧ splitSign (ch :: rest) = (false, ch :: rest) := by
  obtain ⟨hplain, hminus, hplus, -⟩ := plain_of_isXDigit h
  refine ⟨List.dropWhile_cons_of_neg (by simp [hplain.space]), ?_⟩
  unfold splitSign
  split
  case h_1 => rename_i heq; cases heq; exact absurd rfl hminus
  case h_2 => rename_i heq; cases heq; exact absurd rfl hplus
  case h_3 => rfl

theorem detectBase_decimal {ch : UInt8} (h : ch ≠ 48) (rest : Text) :
    detectBase (ch :: rest) = (10, ch :: rest) := by
  unfold detectBase
  split
  case h_1 => rename_i heq; cases heq; exact absurd rfl h
  case h_2 => rename_i heq; cases heq; exact absurd rfl h
  case h_3 => rfl

theorem strtoull_dec {n : Nat} (h : n < 2 ^ 64) : strtoull (Text.dec n) = some (n, []) := by
  have hdec : Text.dec n = digits 10 n := rfl
  by_cases h0 : n = 0
  · subst h0
    decide
  · obtain ⟨ch, rest, hdigits, hne⟩ := head_digits h0
    have hall := digits_isDigitIn (show 1 < 10 by decide) (by decide) n
    have hnumber := numberIn_digits (show 1 < 10 by decide) (by decide) n
    rw [hdigits] at hall hnumber
    obtain ⟨hspace, hsign⟩ := starts_with_digit
      (isXDigit_of_isDigitIn (by decide) (hall ch List.mem_cons_self)) rest
    rw [hdec, hdigits, strtoull_digits hspace hsign (detectBase_decimal hne rest) hall
      (List.cons_ne_nil _ _) (hnumber ▸ h), hnumber]

/-- The digits behind `0x`. -/
theorem hexDigits_spec (zeros n : Nat) (upper : Nat → Bool) :
    (∀ ch ∈ List.replicate zeros 48 ++ recase upper (Text.hex n), isXDigit ch = true) ∧
      numberIn 16 (List.replicate zeros 48 ++ recase upper (Text.hex n)) = n ∧
      List.replicate zeros 48 ++ recase upper (Text.hex n) ≠ [] := by
  have hhex : Text.hex n = digits 16 n := rfl
  refine ⟨fun ch hch => ?_, ?_, fun hnil => ?_⟩
  · rcases List.mem_append.1 hch with hch | hch
    · rw [List.eq_of_mem_replicate hch]
      decide
    · exact isXDigit_recase (digits_isDigitIn (by decide) (by decide) n) ch hch
  · rw [numberIn_zeros, numberIn_congr (map_digitValue_recase upper _), hhex,
      numberIn_digits (by decide) (by decide)]
  · have hlen := congrArg List.length (List.append_eq_nil_iff.1 hnil).2
    rw [length_recase, hhex] at hlen
    exact digits_ne_nil (by decide) n (List.length_eq_zero_iff.1 hlen)

theorem strtoull_hex {n : Nat} (h : n < 2 ^ 64) (capitalX : Bool) (zeros : Nat)
    (upper : Nat → Bool) :
    strtoull ((NumberSpelling.hexadecimal capitalX zeros upper).spell n) = some (n, []) := by
  obtain ⟨hall, hnumber, hne⟩ := hexDigits_spec zeros n upper
  rw [NumberSpelling.spell]
  revert hall hnumber hne
  generalize List.replicate zeros 48 ++ recase upper (Text.hex n) = number
  intro hall hnumber hne
  obtain ⟨ch, rest, rfl⟩ := List.exists_cons_of_ne_nil hne
  obtain ⟨hspace, hsign⟩ := @starts_with_digit 48 (by decide)
    ((if capitalX then 88 else 120) :: ch :: rest)
  have hbase : detectBase (48 :: (if capitalX then 88 else 120) :: ch :: rest) =
      (16, ch :: rest) := by
    have hx : (if capitalX then 88 else 120 : UInt8) = 120 ∨
        (if capitalX then 88 else 120 : UInt8) = 88 := by
      cases capitalX
      · exact Or.inl rfl
      · exact Or.inr rfl
    exact if_pos ⟨hx, hall ch List.mem_cons_self⟩
  rw [strtoull_digits hspace hsign hbase hall hne (hnumber ▸ h), hnumber]

theorem spell_plain (n : Nat) (sp : NumberSpelling) : ∀ ch ∈ sp.spell n, Plain ch := by
  intro ch hch
  cases sp with
  | decimal =>
    have hdigit := digits_isDigitIn (show 1 < 10 by decide) (by decide) n ch hch
    exact (plain_of_isXDigit (isXDigit_of_isDigitIn (by decide) hdigit)).1
  | hexadecimal capitalX zeros upper =>
    rcases List.mem_cons.1 hch with rfl | hch
    · exact (plain_of_isXDigit (by decide)).1
    · rcases List.mem_cons.1 hch with rfl | hch
      · cases capitalX
        · exact ⟨by decide, by decide, by decide, by decide, by decide⟩
        · exact ⟨by decide, by decide, by decide, by decide, by decide⟩
      · exact (plain_of_isXDigit ((hexDigits_spec zeros n upper).1 ch hch)).1

theorem parseUIntAuto_spell {n : Nat} (h : n < 2 ^ 64) (sp : NumberSpelling) :
    parseUIntAuto (sp.spell n) = some n := by
  have hnul : 0 ∉ sp.spell n := fun h0 => (spell_plain n sp 0 h0).nul rfl
  have hread : strtoull (sp.spell n) = some (n, []) := by
    cases sp with
    | decimal => exact strtoull_dec h
    | hexadecimal capitalX zeros upper => exact strtoull_hex h capitalX zeros upper
  rw [parseUIntAuto, Text.cString_eq_self hnul, hread]

/-! ## Keys -/

theorem byteHex_spec (b : UInt8) :
    numberIn 16 (byteHex b) = b.toNat ∧ ∀ ch ∈ byteHex b, isXDigit ch = true := by
  have hb := b.toNat_lt
  have hhigh := (digitByte_spec (b.toNat / 16) (by omega)).1
  have hlow := (digitByte_spec (b.toNat % 16) (by omega)).1
  refine ⟨?_, fun ch hch => ?_⟩
  · rw [byteHex, numberIn, List.foldl_cons, List.foldl_cons, List.foldl_nil, hhigh, hlow]
    simp only [Option.getD_some]
    omega
  · rcases List.mem_cons.1 hch with rfl | hch
    · exact isDigitIn_iff.2 ⟨_, hhigh, by omega⟩
    · rw [List.mem_singleton.1 hch]
      exact isDigitIn_iff.2 ⟨_, hlow, by omega⟩

theorem length_flatMap_byteHex (key : List UInt8) :
    (key.flatMap byteHex).length = key.length * 2 := by
  induction key with
  | nil => rfl
  | cons b key ih =>
    rw [List.flatMap_cons, List.length_append, ih, List.length_cons, Nat.succ_mul, Nat.add_comm]
    rfl

/-- The digits of a byte are at twice its index. -/
theorem digits_at {key : List UInt8} :
    ∀ {i : Nat} (h : i < key.length), ((key.flatMap byteHex).drop (i * 2)).take 2 =
      byteHex key[i] := by
  induction key with
  | nil => exact fun h => absurd h (Nat.not_lt_zero _)
  | cons b key ih =>
    intro i h
    rw [List.flatMap_cons]
    cases i with
    | zero => exact List.take_left' rfl
    | succ i =>
      have hi : i < key.length := Nat.lt_of_succ_lt_succ h
      rw [Nat.succ_mul, Nat.add_comm, ← List.drop_drop,
        List.drop_left' (show (byteHex b).length = 2 from rfl), ih hi]
      rfl

theorem hexKeyBytes_congr {hex hex' : Text} (h : hex.map digitValue = hex'.map digitValue) :
    hexKeyBytes hex = hexKeyBytes hex' := by
  unfold hexKeyBytes
  refine List.map_congr_left fun i _ => congrArg UInt8.ofNat (numberIn_congr ?_)
  rw [List.map_take, List.map_drop, h, List.map_take, List.map_drop]

theorem hexKeyBytes_key {key : List UInt8} (h : key.length = dataEncKeyLengthAES128CCM) :
    hexKeyBytes (key.flatMap byteHex) = key := by
  apply List.ext_getElem
  · rw [length_hexKeyBytes, h]
  · intro i hi hkey
    simp only [hexKeyBytes, List.getElem_map, List.getElem_range]
    rw [digits_at hkey, (byteHex_spec key[i]).1, UInt8.ofNat_toNat]

theorem normalizeHex_key (upper : Nat → Bool) (key : List UInt8) :
    (∀ ch ∈ recase upper (key.flatMap byteHex), isXDigit ch = true) ∧
      normalizeHex (recase upper (key.flatMap byteHex)) = recase upper (key.flatMap byteHex) := by
  have hall : ∀ ch ∈ recase upper (key.flatMap byteHex), isXDigit ch = true := by
    apply isXDigit_recase
    intro ch hch
    obtain ⟨b, -, hb⟩ := List.mem_flatMap.1 hch
    exact (byteHex_spec b).2 ch hb
  exact ⟨hall, List.filter_eq_self.2 hall⟩

/-! ## Tokens -/

theorem tokens_blank {ch : UInt8} (h : isSpace ch = true) (s : Text) :
    tokens (ch :: s) = tokens s := by
  rw [tokens, List.splitOnP_cons_eq_if_modifyHead, if_pos h]
  rfl

theorem tokens_blanks {sep : Text} (h : ∀ ch ∈ sep, isSpace ch = true) (s : Text) :
    tokens (sep ++ s) = tokens s := by
  induction sep with
  | nil => rfl
  | cons ch sep ih =>
    rw [List.cons_append, tokens_blank (h ch List.mem_cons_self)]
    exact ih fun ch' hch' => h ch' (List.mem_cons_of_mem _ hch')

/-- A word ends at a blank or with the text. -/
theorem tokens_word {word : Text} (h : ∀ ch ∈ word, isSpace ch = false) (hne : word ≠ [])
    {s : Text} (hs : ∀ ch rest, s = ch :: rest → isSpace ch = true) :
    tokens (word ++ s) = word :: tokens s := by
  cases s with
  | nil =>
    rw [List.append_nil, tokens, List.splitOnP_eq_singleton h]
    simp [tokens, hne]
  | cons ch rest =>
    have hch := hs ch rest rfl
    rw [tokens_blank hch, tokens, List.splitOnP_append_cons_of_forall_mem h ch hch,
      List.filter_cons_of_pos (by simpa using hne)]
    rfl

theorem tokens_append_blank (s : Text) {ch : UInt8} (h : isSpace ch = true) :
    tokens (s ++ [ch]) = tokens s := by
  rw [tokens, List.splitOnP_append_cons s [] h, List.splitOnP_nil, List.filter_append]
  exact List.append_nil _

/-- `TrimStr` takes no token away. -/
theorem tokens_trimStr (s : Text) : tokens (trimStr s) = tokens s := by
  have hback : ∀ s : Text, tokens (s.rdropWhile isSpace) = tokens s := by
    intro s
    induction s using List.reverseRecOn with
    | nil => rfl
    | append_singleton s ch ih =>
      rw [List.rdropWhile_concat]
      split
      case isTrue h => rw [ih, tokens_append_blank s h]
      case isFalse => rfl
  have hfront : tokens (s.dropWhile isSpace) = tokens s := by
    induction s with
    | nil => rfl
    | cons ch s ih =>
      rw [List.dropWhile_cons]
      split
      case isTrue h => rw [ih, tokens_blank h]
      case isFalse => rfl
  exact (hback _).trans hfront

/-- The tokens of words between blanks. -/
theorem tokens_pieces {trailing : Text} (htrailing : ∀ ch ∈ trailing, isSpace ch = true) :
    ∀ {pieces : List (Text × Text)}, (∀ p ∈ pieces, ∀ ch ∈ p.1, isSpace ch = true) →
      (∀ p ∈ pieces, p.2 ≠ [] ∧ ∀ ch ∈ p.2, isSpace ch = false) →
      (∀ p ∈ pieces.tail, p.1 ≠ []) →
      tokens ((pieces.flatMap fun p => p.1 ++ p.2) ++ trailing) = pieces.map Prod.snd
  | [], _, _, _ => by
    rw [List.flatMap_nil, List.nil_append, ← List.append_nil trailing, tokens_blanks htrailing]
    rfl
  | (sep, word) :: pieces, hsep, hword, hapart => by
    obtain ⟨hne, hplain⟩ := hword _ List.mem_cons_self
    have hrest := @tokens_pieces trailing htrailing pieces
      (fun p hp => hsep p (List.mem_cons_of_mem _ hp))
      (fun p hp => hword p (List.mem_cons_of_mem _ hp))
      (fun p hp => hapart p (List.mem_of_mem_tail hp))
    have hblank : ∀ ch rest, (pieces.flatMap fun p => p.1 ++ p.2) ++ trailing = ch :: rest →
        isSpace ch = true := by
      intro ch rest heq
      cases pieces with
      | nil =>
        rw [List.flatMap_nil, List.nil_append] at heq
        exact htrailing ch (heq ▸ List.mem_cons_self)
      | cons p pieces =>
        obtain ⟨ch', sep', hsep'⟩ := List.exists_cons_of_ne_nil (hapart p List.mem_cons_self)
        rw [List.flatMap_cons, hsep'] at heq
        cases heq
        exact hsep p (List.mem_cons_of_mem _ List.mem_cons_self) _ (hsep' ▸ List.mem_cons_self)
    rw [List.flatMap_cons, List.append_assoc, List.append_assoc,
      tokens_blanks (hsep _ List.mem_cons_self), tokens_word hplain hne hblank, hrest]
    rfl

/-! ## Fields -/

/-- The text of a field. -/
def HintFields.set (fields : HintFields) (value : Text) : HintField → HintFields
  | .key => { fields with keyField := value }
  | .session => { fields with sessionField := value }
  | .src => { fields with srcField := value }

theorem names_plain : ∀ (field : HintField), ∀ name ∈ field.names,
    61 ∉ name ∧ name ≠ [] ∧ ∀ ch ∈ name, ch ≠ 0 ∧ isSpace ch = false ∧ ch ≠ 44 ∧ ch ≠ 59 ∧
      ch ≠ 35 := by
  intro field
  cases field <;> decide +kernel

theorem addToken_field {field : HintField} {name : Text} (h : name ∈ field.names) (value : Text)
    (fields : HintFields) : fields.addToken (name ++ 61 :: value) = fields.set value field := by
  obtain ⟨hname, -, -⟩ := names_plain field name h
  have hmem : ¬ (61 ∉ name ++ 61 :: value) := not_not.2 (by simp)
  have hk : (name ++ 61 :: value).takeWhile (· ≠ 61) = name := by
    rw [List.takeWhile_append_of_pos]
    · simp
    · intro ch hch
      have hne : ch ≠ 61 := fun heq => hname (heq ▸ hch)
      simpa using hne
  have hv : (name ++ 61 :: value).drop (name.length + 1) = value := by
    rw [← List.drop_drop, List.drop_left]
    rfl
  simp only [HintFields.addToken, if_neg hmem, hk, hv]
  cases field with
  | key => exact if_pos h
  | session =>
    have hdistinct : ∀ name ∈ HintField.session.names, name ∉ HintField.key.names := by
      decide +kernel
    exact (if_neg (hdistinct name h)).trans (if_pos h)
  | src =>
    have hdistinct : ∀ name ∈ HintField.src.names,
        name ∉ HintField.key.names ∧ name ∉ HintField.session.names := by
      decide +kernel
    obtain ⟨hkey, hsession⟩ := hdistinct name h
    exact (if_neg hkey).trans ((if_neg hsession).trans (if_pos h))

section
variable (sp : FieldSpelling) (hint : Hint)

/-- Different fields can be set in either order. -/
theorem set_comm (value : HintField → Text) (fields : HintFields) (f g : HintField) :
    (fields.set (value f) f).set (value g) g = (fields.set (value g) g).set (value f) f := by
  cases f <;> cases g <;> rfl

/-- The fields of a line, whatever their order. -/
theorem foldl_addToken {order : List HintField} (h : order.Perm hint.fields) :
    (order.map (sp.field hint)).foldl HintFields.addToken {} =
      { keyField := sp.value hint .key
        sessionField := if hint.session.isSome then sp.value hint .session else []
        srcField := if hint.src.isSome then sp.value hint .src else [] } := by
  have htokens : ∀ (order : List HintField) (fields : HintFields),
      (order.map (sp.field hint)).foldl HintFields.addToken fields =
        order.foldl (fun fields f => fields.set (sp.value hint f) f) fields := by
    intro order
    induction order with
    | nil => exact fun _ => rfl
    | cons f order ih =>
      intro fields
      rw [List.map_cons, List.foldl_cons, List.foldl_cons, FieldSpelling.field,
        addToken_field (sp.name_mem f), ih]
  rw [htokens, h.foldl_eq' fun f _ g _ fields => set_comm (sp.value hint) fields f g]
  unfold Hint.fields
  cases hint.session.isSome <;> cases hint.src.isSome <;> rfl

theorem value_plain (field : HintField) : ∀ ch ∈ sp.value hint field, Plain ch := by
  intro ch hch
  cases field with
  | key => exact (plain_of_isXDigit ((normalizeHex_key sp.upper hint.key).1 ch hch)).1
  | session => exact spell_plain _ sp.session ch hch
  | src => exact spell_plain _ sp.src ch hch

theorem field_plain (field : HintField) :
    sp.field hint field ≠ [] ∧ ∀ ch ∈ sp.field hint field, Plain ch := by
  obtain ⟨-, hne, hname⟩ := names_plain field _ (sp.name_mem field)
  refine ⟨fun hnil => hne (List.append_eq_nil_iff.1 hnil).1, fun ch hch => ?_⟩
  rcases List.mem_append.1 hch with hch | hch
  · obtain ⟨hnul, hspace, hcomma, hsemicolon, hhash⟩ := hname ch hch
    exact ⟨hnul, hspace, hcomma, hsemicolon, hhash⟩
  · rcases List.mem_cons.1 hch with rfl | hch
    · exact ⟨by decide, by decide, by decide, by decide, by decide⟩
    · exact value_plain sp hint field ch hch

end

/-! ## Lines -/

/-- A blank for another separator. -/
def blanked (ch : UInt8) : UInt8 := if ch ∈ ([44, 59, 9] : Text) then 32 else ch

theorem isSpace_blanked {ch : UInt8} (h : (isSeparator ch || isSpace ch) = true) :
    isSpace (blanked ch) = true ∧ ch ≠ 35 := by
  have hall : ∀ n < 256, (isSeparator (UInt8.ofNat n) || isSpace (UInt8.ofNat n)) = true →
      isSpace (blanked (UInt8.ofNat n)) = true ∧ UInt8.ofNat n ≠ 35 := by
    decide +kernel
  have hch := hall ch.toNat ch.toNat_lt
  rw [UInt8.ofNat_toNat] at hch
  exact hch h

theorem isSpace_map_blanked {t : Text} (h : ∀ ch ∈ t, isSeparator ch = true) :
    ∀ ch ∈ t.map blanked, isSpace ch = true := by
  intro ch hch
  obtain ⟨ch', hch', rfl⟩ := List.mem_map.1 hch
  exact (isSpace_blanked (by rw [h ch' hch']; rfl)).1

theorem map_blanked_plain {t : Text} (h : ∀ ch ∈ t, Plain ch) : t.map blanked = t := by
  refine (List.map_congr_left fun ch hch => ?_).trans (List.map_id t)
  have hplain := h ch hch
  have htab : ch ≠ 9 := fun heq => by
    have hspace := hplain.space
    rw [heq] at hspace
    exact absurd hspace (by decide)
  exact if_neg (by simp [hplain.comma, hplain.semicolon, htab])

/-- The comment is cut off. -/
theorem hintText_append_comment {body comment : Text} (hbody : ∀ ch ∈ body, ch ≠ 35)
    (hcomment : IsComment comment) : hintText (body ++ comment) = trimStr (body.map blanked) := by
  have hcut : (body ++ comment).takeWhile (· ≠ 35) = body := by
    rw [List.takeWhile_append_of_pos fun ch hch => by simpa using hbody ch hch]
    rcases hcomment with rfl | ⟨text, rfl⟩
    · exact List.append_nil body
    · rw [List.takeWhile_cons_of_neg (by simp), List.append_nil]
  rw [hintText, hcut]
  rfl

section
variable {sp : FieldSpelling} {hint : Hint} {layout : LineLayout}

/-- The tokens of a line are its fields. -/
theorem tokens_format (h : layout.Lays hint) :
    tokens (hintText (layout.format sp hint)) =
      (layout.pieces.map Prod.snd).map (sp.field hint) := by
  have hsep : ∀ {t : Text}, (∀ ch ∈ t, isSeparator ch = true) → ∀ ch ∈ t, ch ≠ 35 :=
    fun ht ch hch => (isSpace_blanked (by rw [ht ch hch]; rfl)).2
  have hbody : ∀ ch ∈ (layout.pieces.flatMap fun p => p.1 ++ sp.field hint p.2) ++
      layout.trailing, ch ≠ 35 := by
    intro ch hch
    rcases List.mem_append.1 hch with hch | hch
    · obtain ⟨p, hp, hch⟩ := List.mem_flatMap.1 hch
      rcases List.mem_append.1 hch with hch | hch
      · exact hsep (h.separators p hp) ch hch
      · exact ((field_plain sp hint p.2).2 ch hch).hash
    · exact hsep h.trailing ch hch
  let pieces := layout.pieces.map fun p => (p.1.map blanked, sp.field hint p.2)
  have hmap : ((layout.pieces.flatMap fun p => p.1 ++ sp.field hint p.2) ++
      layout.trailing).map blanked =
        (pieces.flatMap fun p => p.1 ++ p.2) ++ layout.trailing.map blanked := by
    rw [List.map_append, List.map_flatMap, List.flatMap_map]
    refine congrArg (· ++ _) (List.flatMap_congr fun p _ => ?_)
    rw [List.map_append, map_blanked_plain (field_plain sp hint p.2).2]
  rw [LineLayout.format, hintText_append_comment hbody h.comment, tokens_trimStr, hmap,
    tokens_pieces (isSpace_map_blanked h.trailing)]
  · rw [List.map_map, List.map_map]
    rfl
  · intro p hp
    obtain ⟨q, hq, rfl⟩ := List.mem_map.1 hp
    exact isSpace_map_blanked (h.separators q hq)
  · intro p hp
    obtain ⟨q, hq, rfl⟩ := List.mem_map.1 hp
    obtain ⟨hne, hplain⟩ := field_plain sp hint q.2
    exact ⟨hne, fun ch hch => (hplain ch hch).space⟩
  · intro p hp
    rw [← List.map_tail] at hp
    obtain ⟨q, hq, rfl⟩ := List.mem_map.1 hp
    exact fun hnil => h.apart q hq (List.map_eq_nil_iff.1 hnil)

/-- The fields give the hint. -/
theorem hintKey_fields (sp : FieldSpelling) (hint : Hint) :
    HintFields.hintKey
      { keyField := sp.value hint .key
        sessionField := if hint.session.isSome then sp.value hint .session else []
        srcField := if hint.src.isSome then sp.value hint .src else [] } =
      some
        { hasKeyId := hint.session.isSome
          keyId := hint.session.elim 0 UInt16.toNat
          hasSrcNodeId := hint.src.isSome
          srcNodeId := hint.src.elim 0 UInt64.toNat
          key := hint.key
          length_key := hint.length_key } := by
  have hnormal := (normalizeHex_key sp.upper hint.key).2
  have hlen : (recase sp.upper (hint.key.flatMap byteHex)).length =
      dataEncKeyLengthAES128CCM * 2 := by
    rw [length_recase, length_flatMap_byteHex, hint.length_key]
  have hkey : hexKeyBytes (recase sp.upper (hint.key.flatMap byteHex)) = hint.key :=
    (hexKeyBytes_congr (map_digitValue_recase _ _)).trans (hexKeyBytes_key hint.length_key)
  have hsession : (parseUIntAuto (if hint.session.isSome then sp.value hint .session
      else [])).filter (· ≤ 0xFFFF) = hint.session.map UInt16.toNat := by
    cases hsession : hint.session with
    | none => rfl
    | some id =>
      have hid := id.toNat_lt
      rw [Option.isSome_some, if_pos rfl, FieldSpelling.value, hsession, Option.elim_some,
        parseUIntAuto_spell (by omega)]
      exact Option.filter_some_pos (by simpa using Nat.le_of_lt_succ hid)
  have hsrc : parseUIntAuto (if hint.src.isSome then sp.value hint .src else []) =
      hint.src.map UInt64.toNat := by
    cases hsrc : hint.src with
    | none => rfl
    | some id =>
      rw [Option.isSome_some, if_pos rfl, FieldSpelling.value, hsrc, Option.elim_some,
        parseUIntAuto_spell id.toNat_lt]
      rfl
  have hvalue : sp.value hint .key = recase sp.upper (hint.key.flatMap byteHex) := rfl
  simp only [HintFields.hintKey, hvalue, hnormal, hlen, ne_eq, not_true_eq_false, if_false, hkey,
    hsession, hsrc]
  cases hint.session <;> cases hint.src <;> rfl

/-- `ParseMatterProxyHintLine` finds the hint that a line states, however it is written, and
rejects a line without fields. -/
theorem hintLine_roundTrip (hint : Hint) (sp : FieldSpelling) (layout : LineLayout)
    (h : layout.Lays hint) :
    parseMatterProxyHintLine (layout.format sp hint) =
        some
          { hasKeyId := hint.session.isSome
            keyId := hint.session.elim 0 UInt16.toNat
            hasSrcNodeId := hint.src.isSome
            srcNodeId := hint.src.elim 0 UInt64.toNat
            key := hint.key
            length_key := hint.length_key } ∧
      ∀ blank comment : Text, (∀ ch ∈ blank, (isSeparator ch || isSpace ch) = true) →
        IsComment comment → parseMatterProxyHintLine (blank ++ comment) = none := by
  refine ⟨?_, fun blank comment hblank hcomment => ?_⟩
  · have htokens := @tokens_format sp hint layout h
    have hne : hintText (layout.format sp hint) ≠ [] := by
      intro hnil
      rw [hnil, show tokens [] = [] by rfl] at htokens
      have hlen := h.order.length_eq
      rw [List.map_eq_nil_iff.1 htokens.symm] at hlen
      cases hlen
    rw [parseMatterProxyHintLine]
    simp only [if_neg hne, htokens, foldl_addToken sp hint h.order]
    exact hintKey_fields sp hint
  · have hspace : ∀ ch ∈ blank.map blanked, isSpace ch = true := by
      intro ch hch
      obtain ⟨ch', hch', rfl⟩ := List.mem_map.1 hch
      exact (isSpace_blanked (hblank ch' hch')).1
    have hnil : hintText (blank ++ comment) = [] := by
      rw [hintText_append_comment (fun ch hch => (isSpace_blanked (hblank ch hch)).2) hcomment,
        trimStr, List.dropWhile_eq_nil_iff.2 hspace, List.rdropWhile_nil]
    rw [parseMatterProxyHintLine]
    exact if_pos hnil

end

/-- The hint of a node in session 41826. -/
def nodeHint : Hint where
  key := [0x44, 0xD4, 0x3C, 0x91, 0xD2, 0x27, 0xF3, 0xBA, 0x08, 0x24, 0xC5, 0xD8, 0x7C, 0xB8, 0x1B,
    0x33]
  session := some 41826
  src := some 1
  length_key := rfl

def nodeSpelling : FieldSpelling where
  name
    | .key => Text.lit "key_hex"
    | .session => Text.lit "session"
    | .src => Text.lit "src"
  name_mem field := by cases field <;> decide +kernel
  upper := fun _ => true
  session := .decimal
  src := .hexadecimal false 15 fun _ => false

/-- The fields from the last to the first, with all separators. -/
def reversedLayout : LineLayout where
  pieces := [([], .src), (Text.lit "; ", .session), (Text.lit ",", .key)]
  trailing := Text.lit "\t"
  comment := Text.lit "# key=00"

theorem hintLine_roundTrip_reversed :
    parseMatterProxyHintLine (Text.lit ("src=0x0000000000000001; session=41826," ++
        "key_hex=44D43C91D227F3BA0824C5D87CB81B33\t# key=00")) =
      some
        { hasKeyId := true
          keyId := 41826
          hasSrcNodeId := true
          srcNodeId := 1
          key := nodeHint.key
          length_key := nodeHint.length_key } := by
  have hlays : reversedLayout.Lays nodeHint :=
    ⟨by decide +kernel, by decide +kernel, by decide +kernel, by decide +kernel,
      Or.inr ⟨Text.lit " key=00", by decide +kernel⟩⟩
  have hformat : reversedLayout.format nodeSpelling nodeHint =
      Text.lit ("src=0x0000000000000001; session=41826," ++
        "key_hex=44D43C91D227F3BA0824C5D87CB81B33\t# key=00") := by
    decide +kernel
  rw [← hformat]
  exact (hintLine_roundTrip nodeHint nodeSpelling reversedLayout hlays).1

end Matter.Message
