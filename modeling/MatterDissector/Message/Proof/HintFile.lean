import MatterDissector.Message.HintFile

/-!
# The two loaders of key hints

Both loaders cut the text into lines (`hintLines`) and parse each: `ParseMatterProxyHintBlob` the
line as it is, the `fgets` loop the pieces that fit its buffer (`hintPieces`), each up to its first
NUL byte. A line that is no longer than the buffer and has no NUL is its only piece, so a text of
such lines gives both loaders the same hints (`hintLoaders_undisturbed`). Only the others can make a
difference (`differingLines`).
-/

namespace Matter.Message

variable {bytes rest line content : Text} {read : Text → Text × Text} {n m : Nat}

/-! ## Loops -/

/-- `read` takes at least a byte. -/
def Consumes (read : Text → Text × Text) : Prop :=
  ∀ bytes, bytes ≠ [] → (read bytes).2.length < bytes.length

theorem readPieces_fuel (h : Consumes read) (hn : bytes.length ≤ n) (hm : bytes.length ≤ m) :
    readPieces read n bytes = readPieces read m bytes := by
  induction n generalizing m bytes with
  | zero =>
    rw [List.length_eq_zero_iff.1 (Nat.le_zero.1 hn)]
    cases m <;> rfl
  | succ n ih =>
    cases bytes with
    | nil => cases m <;> rfl
    | cons b bytes =>
      cases m with
      | zero => exact absurd hm (by simp)
      | succ m =>
        have hlt := h (b :: bytes) (by simp)
        simp only [List.length_cons] at hn hm hlt
        rw [readPieces, readPieces, ih (m := m) (by omega) (by omega)]

@[simp] theorem readAll_nil (read : Text → Text × Text) : readAll read [] = [] := rfl

theorem readAll_eq (h : Consumes read) (hne : bytes ≠ []) :
    readAll read bytes = (read bytes).1 :: readAll read (read bytes).2 := by
  have hlt := h bytes hne
  cases bytes with
  | nil => exact absurd rfl hne
  | cons b bytes =>
    rw [readAll, List.length_cons, readPieces, readAll]
    rw [readPieces_fuel h (Nat.le_of_lt_succ hlt) (Nat.le_refl _)]

theorem consumes_fgets : Consumes fgets := by
  intro bytes hne
  have hpos := List.length_pos_iff.2 hne
  simp only [fgets, hintLineSize, List.length_drop]
  omega

theorem consumes_getline : Consumes getline := by
  intro bytes hne
  have hpos := List.length_pos_iff.2 hne
  simp only [getline, List.length_drop]
  omega

/-! ## Lines -/

/-- The line in front with its newline, and the lines behind it. -/
def splitLine (bytes : Text) : Text × Text :=
  (bytes.take (lineLength bytes + 1), bytes.drop (lineLength bytes + 1))

/-- The lines of a text with their newlines. -/
def hintLines (content : Text) : List Text := readAll splitLine content

/-- What `fgets` makes of a line. -/
def hintPieces (line : Text) : List Text := readAll fgets line

theorem consumes_splitLine : Consumes splitLine := consumes_getline

theorem lineLength_cons (b : UInt8) (bytes : Text) :
    lineLength (b :: bytes) = if b = 10 then 0 else lineLength bytes + 1 := by
  by_cases hb : b = 10 <;> simp [lineLength, hb]

theorem lineLength_take (n : Nat) (bytes : Text) :
    lineLength (bytes.take n) = min n (lineLength bytes) := by
  induction bytes generalizing n with
  | nil => simp [lineLength]
  | cons b bytes ih =>
    cases n with
    | zero => simp [lineLength]
    | succ n =>
      rw [List.take_succ_cons, lineLength_cons, lineLength_cons, ih]
      split <;> omega

theorem lineLength_drop (h : n ≤ lineLength bytes) :
    lineLength (bytes.drop n) = lineLength bytes - n := by
  induction bytes generalizing n with
  | nil => simp [lineLength]
  | cons b bytes ih =>
    cases n with
    | zero => rfl
    | succ n =>
      rw [lineLength_cons] at h ⊢
      by_cases hb : b = 10
      · simp [hb] at h
      · rw [if_neg hb] at h ⊢
        rw [List.drop_succ_cons, ih (Nat.le_of_succ_le_succ h)]
        omega

theorem hintLines_eq (hne : content ≠ []) : hintLines content =
    content.take (lineLength content + 1) ::
      hintLines (content.drop (lineLength content + 1)) :=
  readAll_eq consumes_splitLine hne

theorem length_drop_lt (hne : content ≠ []) (n : Nat) :
    (content.drop (n + 1)).length < content.length := by
  have hpos := List.length_pos_iff.2 hne
  rw [List.length_drop]
  omega

/-- `getline` is left with the lines, without their newlines. -/
theorem readAll_getline (content : Text) :
    readAll getline content = (hintLines content).map fun line => line.take (lineLength line) := by
  induction hlen : content.length using Nat.strong_induction_on generalizing content with
  | _ len ih =>
    by_cases hne : content = []
    · subst hne
      rfl
    · have hlt := length_drop_lt hne (lineLength content)
      rw [hintLines_eq hne, List.map_cons, readAll_eq consumes_getline hne, lineLength_take,
        List.take_take, getline, ih _ (hlen ▸ hlt) _ rfl]
      simp

/-- The pieces of a text are those of its lines. -/
theorem readAll_fgets (content : Text) :
    readAll fgets content = (hintLines content).flatMap hintPieces := by
  induction hlen : content.length using Nat.strong_induction_on generalizing content with
  | _ len ih =>
    by_cases hne : content = []
    · subst hne
      rfl
    · have hline : content.take (lineLength content + 1) ≠ [] := by simpa using hne
      have hlength : lineLength (content.take (lineLength content + 1)) = lineLength content := by
        rw [lineLength_take]
        omega
      rw [hintLines_eq hne, List.flatMap_cons, readAll_eq consumes_fgets hne, hintPieces,
        readAll_eq consumes_fgets hline, fgets, fgets, hlength]
      rcases Nat.lt_or_ge (hintLineSize - 1) (lineLength content + 1) with hlong | hshort
      · -- the rest of the line is a line, too
        have hlt : (content.drop (hintLineSize - 1)).length < content.length :=
          length_drop_lt hne _
        have hrest : lineLength (content.drop (hintLineSize - 1)) =
            lineLength content - (hintLineSize - 1) := lineLength_drop (Nat.le_of_lt_succ hlong)
        have hsub : lineLength content - (hintLineSize - 1) + 1 =
            lineLength content + 1 - (hintLineSize - 1) := by omega
        rw [Nat.min_eq_left (Nat.le_of_lt hlong), List.take_take,
          Nat.min_eq_left (Nat.le_of_lt hlong), ih _ (hlen ▸ hlt) _ rfl, List.drop_take]
        by_cases hend : content.drop (hintLineSize - 1) = []
        · have hend' : content.drop (lineLength content + 1) = [] :=
            List.drop_eq_nil_of_le (by have := List.drop_eq_nil_iff.1 hend; omega)
          rw [hend, hend', List.take_nil]
          rfl
        · rw [hintLines_eq hend, hrest, hsub, List.drop_drop, List.flatMap_cons,
            Nat.add_sub_cancel' (Nat.le_of_lt hlong)]
          rw [List.cons_append, hintPieces]
      · -- the line fits
        have hlt := length_drop_lt hne (lineLength content)
        rw [Nat.min_eq_right hshort, List.take_take, Nat.min_self, ih _ (hlen ▸ hlt) _ rfl,
          List.drop_take, Nat.sub_self, List.take_zero]
        rfl

theorem length_le_of_mem_hintLines (h : line ∈ hintLines content) :
    line.length ≤ lineLength line + 1 := by
  induction hlen : content.length using Nat.strong_induction_on generalizing content with
  | _ len ih =>
    by_cases hne : content = []
    · subst hne
      cases h
    · rw [hintLines_eq hne] at h
      rcases List.mem_cons.1 h with rfl | h
      · rw [lineLength_take, List.length_take]
        omega
      · exact ih _ (hlen ▸ length_drop_lt hne _) h rfl

/-! ## The parser and the end of the line -/

theorem trimStr_concat {ch : UInt8} (hch : isSpace ch = true) (s : Text) :
    trimStr (s ++ [ch]) = trimStr s := by
  rw [trimStr, trimStr, List.dropWhile_append]
  split
  · rename_i hempty
    rw [List.isEmpty_iff.1 hempty]
    simp [hch]
  · rw [List.rdropWhile_concat_pos _ _ _ hch]

theorem hintText_concat (line : Text) : hintText (line ++ [10]) = hintText line := by
  have hcut : (line ++ [10]).takeWhile (· ≠ 35) = line.takeWhile (· ≠ 35) ∨
      (line ++ [10]).takeWhile (· ≠ 35) = line.takeWhile (· ≠ 35) ++ [10] := by
    rw [List.takeWhile_append]
    split
    · rename_i hall
      have hline : line.takeWhile (· ≠ 35) = line :=
        List.IsPrefix.eq_of_length (List.takeWhile_prefix _) hall
      right
      rw [hline]
      rfl
    · exact .inl rfl
  rw [hintText, hintText]
  rcases hcut with hcut | hcut
  · rw [hcut]
  · rw [hcut, List.map_append]
    exact trimStr_concat rfl _

/-- The newline of a line does not matter to the parser. -/
theorem parse_take_lineLength (h : line.length ≤ lineLength line + 1) :
    parseMatterProxyHintLine (line.take (lineLength line)) = parseMatterProxyHintLine line := by
  have htake : line.take (lineLength line) = line.takeWhile (· ≠ 10) :=
    (List.prefix_iff_eq_take.1 (List.takeWhile_prefix _)).symm
  have hsplit : line.takeWhile (· ≠ 10) ++ line.dropWhile (· ≠ 10) = line :=
    List.takeWhile_append_dropWhile
  rw [htake]
  cases hend : line.dropWhile (· ≠ 10) with
  | nil =>
    rw [hend, List.append_nil] at hsplit
    rw [hsplit]
  | cons ch rest =>
    have hch : ch = 10 := by
      have hhead := List.head?_dropWhile_not (fun b : UInt8 => decide (b ≠ 10)) line
      rw [hend] at hhead
      simpa using hhead
    have hrest : rest = [] := by
      have hlen := congrArg List.length hsplit
      rw [hend, List.length_append, List.length_cons] at hlen
      have hline : (line.takeWhile (· ≠ 10)).length = lineLength line := rfl
      exact List.length_eq_zero_iff.1 (by omega)
    rw [hend, hch, hrest] at hsplit
    have hparse := hintText_concat (line.takeWhile (· ≠ 10))
    rw [hsplit] at hparse
    rw [parseMatterProxyHintLine, parseMatterProxyHintLine, hparse]

/-! ## Lines that make no difference -/

/-- `fgets` or the end of a string may cut the line: it is longer than the buffer or has a NUL. -/
def Disturbed (line : Text) : Prop := hintLineSize - 1 < line.length ∨ 0 ∈ line

instance (line : Text) : Decidable (Disturbed line) := inferInstanceAs (Decidable (_ ∨ _))

/-- The hints in the pieces of a line. -/
def pieceHints (line : Text) : List MatterProxyHintKey :=
  (hintPieces line).filterMap fun piece => parseMatterProxyHintLine (Text.cString piece)

/-- The lines that `fgets` or the end of a string cuts into pieces with other hints. -/
def differingLines (content : Text) : List Text :=
  (hintLines content).filter fun line =>
    Disturbed line ∧ pieceHints line ≠ (parseMatterProxyHintLine line).toList

theorem pieceHints_undisturbed (hmem : line ∈ hintLines content) (h : ¬ Disturbed line) :
    pieceHints line = (parseMatterProxyHintLine line).toList := by
  obtain ⟨hlen, hnul⟩ := not_or.1 h
  have hlen := Nat.le_of_not_lt hlen
  have hline := length_le_of_mem_hintLines hmem
  by_cases hne : line = []
  · subst hne
    rfl
  · have hone : hintPieces line = [line] := by
      have hn : line.length ≤ min (hintLineSize - 1) (lineLength line + 1) := by omega
      rw [hintPieces, readAll_eq consumes_fgets hne, fgets, List.take_of_length_le hn,
        List.drop_eq_nil_of_le hn, readAll_nil]
    have hcString : Text.cString line = line := by
      refine List.takeWhile_eq_self_iff.2 fun b hb => ?_
      have hb0 : b ≠ 0 := fun heq => hnul (heq ▸ hb)
      simpa using hb0
    rw [pieceHints, hone, List.filterMap_cons, hcString, List.filterMap_nil]
    cases parseMatterProxyHintLine line <;> rfl

theorem readMatterProxyHintFile_eq (content : Text) :
    readMatterProxyHintFile content = (hintLines content).flatMap pieceHints := by
  rw [readMatterProxyHintFile, readAll_fgets, List.filterMap_flatMap]
  rfl

theorem parseMatterProxyHintBlob_eq (content : Text) : parseMatterProxyHintBlob content =
    (hintLines content).flatMap fun line => (parseMatterProxyHintLine line).toList := by
  rw [parseMatterProxyHintBlob, readAll_getline, List.filterMap_map,
    List.filterMap_eq_flatMap_toList]
  exact List.flatMap_congr fun line hline =>
    congrArg Option.toList (parse_take_lineLength (length_le_of_mem_hintLines hline))

/-! ## The loaders -/

/-- A line that is not among the differing ones has the same hints in pieces. -/
theorem pieceHints_eq (hmem : line ∈ hintLines content)
    (h : ¬ (Disturbed line ∧ pieceHints line ≠ (parseMatterProxyHintLine line).toList)) :
    pieceHints line = (parseMatterProxyHintLine line).toList := by
  by_cases hdisturbed : Disturbed line
  · by_contra hne
    exact h ⟨hdisturbed, hne⟩
  · exact pieceHints_undisturbed hmem hdisturbed

/-- Lines that fit the buffer, without a NUL. -/
theorem hintLoaders_undisturbed (content : Text) (st : DecryptState)
    (h : ∀ line ∈ hintLines content, line.length < hintLineSize ∧ 0 ∉ line) :
    (st.refreshMatterProxyHintKeys (.loaded (readMatterProxyHintFile content))).hintKeysFromFile =
      parseMatterProxyHintBlob content := by
  rw [parseMatterProxyHintBlob_eq]
  refine (readMatterProxyHintFile_eq content).trans (List.flatMap_congr fun line hline => ?_)
  obtain ⟨hlen, hnul⟩ := h line hline
  refine pieceHints_undisturbed hline ?_
  rintro (hlong | hzero)
  · omega
  · exact hnul hzero

/-- A text gives both loaders the same hints if no line differs, and not if one does. (The
differences of several lines may cancel.) -/
theorem hintLoaders_agree (content : Text) (st : DecryptState) :
    (differingLines content = [] →
      (st.refreshMatterProxyHintKeys (.loaded (readMatterProxyHintFile content))).hintKeysFromFile =
        parseMatterProxyHintBlob content) ∧
    ((differingLines content).length = 1 →
      (st.refreshMatterProxyHintKeys (.loaded (readMatterProxyHintFile content))).hintKeysFromFile ≠
        parseMatterProxyHintBlob content) := by
  have hfile : (st.refreshMatterProxyHintKeys
      (.loaded (readMatterProxyHintFile content))).hintKeysFromFile =
      (hintLines content).flatMap pieceHints := readMatterProxyHintFile_eq content
  rw [hfile, parseMatterProxyHintBlob_eq]
  constructor
  · intro hnone
    refine List.flatMap_congr fun line hline => pieceHints_eq hline fun hdiffers => ?_
    exact List.filter_eq_nil_iff.1 hnone line hline (by simpa using hdiffers)
  · intro hone
    obtain ⟨line, hline⟩ := List.length_eq_one_iff.1 hone
    obtain ⟨before, after, hlines, hbefore, hdiffers, hafter⟩ := List.filter_eq_cons_iff.1 hline
    have hafter := List.filter_eq_nil_iff.1 hafter
    have hsame : ∀ l ∈ before ++ after,
        pieceHints l = (parseMatterProxyHintLine l).toList := by
      intro l hl
      have hmem : l ∈ hintLines content := by
        rw [hlines]
        simp at hl ⊢
        tauto
      refine pieceHints_eq hmem fun hd => ?_
      · rcases List.mem_append.1 hl with hl | hl
        · exact hbefore l hl (by simpa using hd)
        · exact hafter l hl (by simpa using hd)
    have hfront : before.flatMap pieceHints = _ :=
      List.flatMap_congr fun l hl => hsame l (List.mem_append_left _ hl)
    have hback : after.flatMap pieceHints = _ :=
      List.flatMap_congr fun l hl => hsame l (List.mem_append_right _ hl)
    intro heq
    rw [hlines, List.flatMap_append, List.flatMap_append, List.flatMap_cons, List.flatMap_cons,
      hfront, hback] at heq
    have hcancel := List.append_cancel_right (List.append_cancel_left heq)
    have hdiffers : Disturbed line ∧
        pieceHints line ≠ (parseMatterProxyHintLine line).toList := by simpa using hdiffers
    exact hdiffers.2 hcancel

/-- `key=00112233445566778899aabbccddeeff` behind a NUL and a blank. -/
def nulHint : Text := 0 :: Text.lit " key=00112233445566778899aabbccddeeff"

/-- The file ends with the NUL, the block does not. -/
theorem hintLoaders_nul : ¬ ∀ (content : Text) (st : DecryptState),
    (st.refreshMatterProxyHintKeys (.loaded (readMatterProxyHintFile content))).hintKeysFromFile =
      parseMatterProxyHintBlob content := by
  intro h
  have hfile : readMatterProxyHintFile nulHint = [] := by decide
  have hblob : (parseMatterProxyHintBlob nulHint).length = 1 := by decide
  have heq : readMatterProxyHintFile nulHint = parseMatterProxyHintBlob nulHint :=
    h nulHint ⟨fun _ => [], [], [], []⟩
  rw [← heq, hfile] at hblob
  cases hblob

end Matter.Message
