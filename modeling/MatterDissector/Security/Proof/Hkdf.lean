import MatterDissector.Security.Hkdf

/-!
# `HKDF_expand` is the expansion of RFC 5869

The loop is in its round `i` when the blocks 1 to `i` have been written: the buffer's pointer,
its remaining length and the number of the next block, a `uint8_t`, are functions of `i`
(`InRound`). A length that is a multiple of the hash's takes one more round than it has blocks.
After 255 blocks the number of that round is 0, and it writes nothing (`hkdfExpand_eq`).
-/

namespace Matter.Security

open Prog

section

variable (md : EvpMd) (prKey info : List UInt8)

/-- `T(i)`: the empty string, and then the HMAC of the last block, the info and the number. -/
def hkdfBlock : Nat → List UInt8
  | 0 => []
  | i + 1 => md.hmac prKey (hkdfBlock i ++ info ++ [UInt8.ofNat (i + 1)])

/-- `T(1) | … | T(n)`. -/
def hkdfBlocks : Nat → List UInt8
  | 0 => []
  | n + 1 => hkdfBlocks n ++ hkdfBlock md prKey info (n + 1)

variable {md prKey info}

@[simp] theorem length_hkdfBlock_succ (i : Nat) :
    (hkdfBlock md prKey info (i + 1)).length = md.size := md.length_hmac _ _

@[simp] theorem length_hkdfBlocks (n : Nat) :
    (hkdfBlocks md prKey info n).length = n * md.size := by
  induction n with
  | zero => rw [hkdfBlocks, List.length_nil, Nat.zero_mul]
  | succ n ih => rw [hkdfBlocks, List.length_append, ih, length_hkdfBlock_succ, Nat.succ_mul]

/-- More blocks have the same first bytes. -/
theorem take_hkdfBlocks {n m len : Nat} (hnm : n ≤ m) (hlen : len ≤ n * md.size) :
    (hkdfBlocks md prKey info m).take len = (hkdfBlocks md prKey info n).take len := by
  induction m, hnm using Nat.le_induction with
  | base => rfl
  | succ m hnm ih =>
    have hle : len ≤ (hkdfBlocks md prKey info m).length := by
      rw [length_hkdfBlocks]
      exact Nat.le_trans hlen (Nat.mul_le_mul_right _ hnm)
    rw [hkdfBlocks, List.take_append_of_le_length hle, ih]

end

/-! ## Writing -/

theorem length_written {mem bytes : List UInt8} {p : Nat} (h : p + bytes.length ≤ mem.length) :
    (written mem p bytes).length = mem.length := by
  rw [written, List.length_append, List.length_append, List.length_take, List.length_drop]
  omega

/-- Writing behind what has been written. -/
theorem written_written {mem xs ys : List UInt8} {p : Nat}
    (h : p + xs.length + ys.length ≤ mem.length) :
    written (written mem p xs) (p + xs.length) ys = written mem p (xs ++ ys) := by
  have hfront : (mem.take p ++ xs).length = p + xs.length := by
    rw [List.length_append, List.length_take]
    omega
  have htail : (mem.drop (p + xs.length)).drop ys.length = mem.drop (p + (xs ++ ys).length) := by
    rw [List.drop_drop, List.length_append, Nat.add_assoc]
  rw [written, written, written, List.take_left' hfront, ← hfront, ← List.drop_drop,
    List.drop_left, hfront, htail, List.append_assoc (mem.take p)]

/-- The last bytes that were written. -/
theorem read_written (xs ys : List UInt8) {mem : List UInt8} {p : Nat} (h : p ≤ mem.length) :
    ((written mem p (xs ++ ys)).drop (p + xs.length)).take ys.length = ys := by
  have hfront : (mem.take p ++ xs).length = p + xs.length := by
    rw [List.length_append, List.length_take]
    omega
  rw [written, ← List.append_assoc, List.append_assoc, List.drop_left' hfront]
  exact List.take_left' rfl

/-! ## The rounds -/

section

variable {env : OpenSSL} {md : EvpMd} {prKey : List UInt8} {info : Option (List UInt8)}
  {mem : List UInt8} {p len : Nat}

/-- The bytes of the info: `NULL` stands for none. -/
def infoBytes (info : Option (List UInt8)) : List UInt8 := info.getD []

/-- The memory once `n` blocks are written. -/
def afterBlocks (md : EvpMd) (prKey : List UInt8) (info : Option (List UInt8))
    (mem : List UInt8) (p n : Nat) : List UInt8 :=
  written mem p (hkdfBlocks md prKey (infoBytes info) n)

/-- The loop has written `i` blocks. -/
structure InRound (md : EvpMd) (prKey : List UInt8) (info : Option (List UInt8))
    (mem : List UInt8) (p len i : Nat) (l : HkdfLoop) (s : List UInt8) : Prop where
  le : i ≤ 255
  outKey : l.outKey = p + i * md.size
  outKeyLen : l.outKeyLen + i * md.size = len
  hashNum : l.hashNum = (i + 1) % 256
  mem : s = afterBlocks md prKey info mem p i

/-- All calls into OpenSSL succeed. -/
def OpenSSL.Succeeds (env : OpenSSL) : Prop := ∀ call, env.succeeds call = true

theorem run_hmacInitEx (henv : env.Succeeds) (key s : List UInt8) :
    (hmacInitEx env key).run s = .ok ⟨key, []⟩ s := by
  rw [hmacInitEx, henv]
  rfl

theorem run_hmacUpdate (henv : env.Succeeds) (hmac : HmacCtx) (data s : List UInt8) :
    (hmacUpdate env hmac data).run s = .ok ⟨hmac.key, hmac.data ++ data⟩ s := by
  rw [hmacUpdate, henv]
  rfl

theorem run_hmacFinal (henv : env.Succeeds) (hmac : HmacCtx) (s : List UInt8) :
    (hmacFinal env md hmac).run s = .ok (md.hmac hmac.key hmac.data) s := by
  rw [hmacFinal, henv]
  rfl

theorem run_readMem {q size : Nat} {s : List UInt8} (h : q + size ≤ s.length) :
    (readMem q size).run s = .ok ((s.drop q).take size) s := by
  rw [readMem]
  show (if q + size ≤ s.length then _ else _ : HkdfM (List UInt8)).run s = _
  rw [if_pos h]
  rfl

theorem run_writeMem {q : Nat} {bytes s : List UInt8} (h : q + bytes.length ≤ s.length) :
    (writeMem q bytes).run s = .ok () (written s q bytes) := by
  rw [writeMem]
  show (if q + bytes.length ≤ s.length then _ else _ : HkdfM Unit).run s = _
  rw [if_pos h]
  rfl

/-- The info is the same data if it is left out for being empty. -/
theorem run_updateInfo (henv : env.Succeeds) (info : Option (List UInt8)) (hmac : HmacCtx)
    (s : List UInt8) : (updateInfo env info hmac).run s =
      .ok ⟨hmac.key, hmac.data ++ infoBytes info⟩ s := by
  cases info with
  | none => simp [updateInfo, infoBytes]
  | some info =>
    cases info with
    | nil => simp [updateInfo, infoBytes]
    | cons b bs => exact run_hmacUpdate henv hmac (b :: bs) s

/-- The last block is read back, from in front of the pointer. The number of the round after the
last block is 0: nothing is read. -/
theorem InRound.run_updatePrevious {i : Nat} {l : HkdfLoop} {s : List UInt8}
    (h : InRound md prKey info mem p len i l s) (henv : env.Succeeds)
    (hroom : p + len ≤ mem.length) (hmac : HmacCtx) :
    ∃ previous, (updatePrevious env md l hmac).run s = .ok ⟨hmac.key, hmac.data ++ previous⟩ s ∧
      (i < 255 → previous = hkdfBlock md prKey (infoBytes info) i) := by
  have hnum := h.hashNum
  have hle := h.le
  have hlen := h.outKeyLen
  have hout := h.outKey
  by_cases hread : 0 < i ∧ i < 255
  · obtain ⟨j, rfl⟩ : ∃ j, i = j + 1 := ⟨i - 1, by omega⟩
    rw [Nat.succ_mul] at hlen hout
    have hstart : l.outKey - md.size = p + (hkdfBlocks md prKey (infoBytes info) j).length := by
      rw [length_hkdfBlocks]
      omega
    have hlength : s.length = mem.length := by
      rw [h.mem, afterBlocks, length_written]
      rw [length_hkdfBlocks, Nat.succ_mul]
      omega
    have hblock : (s.drop (l.outKey - md.size)).take md.size =
        hkdfBlock md prKey (infoBytes info) (j + 1) := by
      have hp : p ≤ mem.length := by omega
      have hread := read_written (hkdfBlocks md prKey (infoBytes info) j)
        (hkdfBlock md prKey (infoBytes info) (j + 1)) hp
      rw [length_hkdfBlock_succ] at hread
      rw [h.mem, hstart]
      exact hread
    refine ⟨_, ?_, fun _ => hblock⟩
    rw [updatePrevious, if_pos (by omega), if_neg (by omega), bind_ok (run_readMem (by omega)),
      run_hmacUpdate henv]
  · refine ⟨[], ?_, fun hlt => ?_⟩
    · rw [updatePrevious, if_neg (by omega), List.append_nil]
      rfl
    · have hzero : i = 0 := by omega
      rw [hzero, hkdfBlock]

/-- The input of a round is that of its block. -/
theorem InRound.run_hkdfInput {i : Nat} {l : HkdfLoop} {s : List UInt8}
    (h : InRound md prKey info mem p len i l s) (henv : env.Succeeds)
    (hroom : p + len ≤ mem.length) :
    ∃ hmac, (hkdfInput env md prKey info l).run s = .ok hmac s ∧
      (i < 255 → md.hmac hmac.key hmac.data = hkdfBlock md prKey (infoBytes info) (i + 1)) := by
  obtain ⟨previous, hrun, hprevious⟩ := h.run_updatePrevious henv hroom ⟨prKey, []⟩
  refine ⟨⟨prKey, [] ++ previous ++ infoBytes info ++ [UInt8.ofNat l.hashNum]⟩, ?_, fun hlt => ?_⟩
  · rw [hkdfInput, bind_ok (run_hmacInitEx henv _ _), bind_ok hrun,
      bind_ok (run_updateInfo henv _ _ _), run_hmacUpdate henv]
  · have hnum : l.hashNum = i + 1 := by
      rw [h.hashNum]
      omega
    rw [hprevious hlt, hnum, List.nil_append, hkdfBlock]

/-- What the function has written when it is done. -/
def expanded (md : EvpMd) (prKey : List UInt8) (info : Option (List UInt8)) (mem : List UInt8)
    (p len : Nat) : List UInt8 :=
  written mem p ((hkdfBlocks md prKey (infoBytes info) 255).take len)

/-- A round writes its block, or the first bytes of it that are still wanted. -/
theorem InRound.run_hkdfRound {i : Nat} {l : HkdfLoop} {s : List UInt8}
    (h : InRound md prKey info mem p len i l s) (henv : env.Succeeds)
    (hmax : md.size ≤ env.evpMaxMdSize) (hlen : len ≤ 255 * md.size)
    (hroom : p + len ≤ mem.length) :
    (∃ l', (hkdfRound env md prKey info l).run s =
        .ok (.inl l') (afterBlocks md prKey info mem p (i + 1)) ∧
      InRound md prKey info mem p len (i + 1) l' (afterBlocks md prKey info mem p (i + 1)) ∧
      l'.outKeyLen < l.outKeyLen) ∨
    (hkdfRound env md prKey info l).run s = .ok (.inr ()) (expanded md prKey info mem p len) := by
  obtain ⟨hmac, hrun, hblock⟩ := h.run_hkdfInput henv hroom
  have hpos := md.size_pos
  have hle := h.le
  have hout := h.outKey
  have hrest := h.outKeyLen
  have hfront : (hkdfBlocks md prKey (infoBytes info) i).length = i * md.size :=
    length_hkdfBlocks i
  have hfrontle : i * md.size ≤ 255 * md.size := Nat.mul_le_mul_right _ hle
  have hlength : s.length = mem.length := by
    rw [h.mem, afterBlocks, length_written]
    rw [hfront]
    omega
  rw [hkdfRound, bind_ok hrun]
  by_cases hlast : l.outKeyLen < md.size
  · right
    rw [if_pos hlast, bind_ok (run_hmacFinal henv _ _), if_neg (by omega)]
    have htake : ((md.hmac hmac.key hmac.data).take l.outKeyLen).length = l.outKeyLen := by
      rw [List.length_take, md.length_hmac]
      omega
    rw [bind_ok (run_writeMem (by omega)), h.mem, afterBlocks, hout, ← hfront,
      written_written (by omega)]
    show Outcome.ok _ _ = Outcome.ok _ _
    rw [expanded]
    congr 2
    by_cases hlt : i < 255
    · have hsucc : len ≤ (i + 1) * md.size := by
        rw [Nat.succ_mul]
        omega
      have hdiff : len - i * md.size = l.outKeyLen := by omega
      have hwhole : (hkdfBlocks md prKey (infoBytes info) i).take len =
          hkdfBlocks md prKey (infoBytes info) i := List.take_of_length_le (by omega)
      rw [hblock hlt, take_hkdfBlocks (n := i + 1) (by omega) hsucc, hkdfBlocks,
        List.take_append, hwhole, hfront, hdiff]
    · have hall : i = 255 := by omega
      subst hall
      have hzero : l.outKeyLen = 0 := by omega
      rw [hzero, List.take_zero, List.append_nil, List.take_of_length_le (by omega)]
  · left
    have hlt : i < 255 := by
      rcases Nat.lt_or_ge i 255 with hlt | hge
      · exact hlt
      · have hall : i = 255 := by omega
        subst hall
        omega
    have hhash : (hkdfBlock md prKey (infoBytes info) (i + 1)).length = md.size :=
      length_hkdfBlock_succ i
    have hmem : written s l.outKey (hkdfBlock md prKey (infoBytes info) (i + 1)) =
        afterBlocks md prKey info mem p (i + 1) := by
      rw [h.mem, afterBlocks, hout, ← hfront, written_written (by omega)]
      rfl
    refine ⟨⟨l.outKey + md.size, l.outKeyLen - md.size, (l.hashNum + 1) % 256⟩, ?_, ?_, ?_⟩
    · rw [if_neg hlast, bind_ok (run_hmacFinal henv _ _), hblock hlt,
        bind_ok (run_writeMem (by omega)), hmem]
      rfl
    · have hsucc : (i + 1) * md.size = i * md.size + md.size := Nat.succ_mul _ _
      exact {
        le := hlt
        outKey := by
          show l.outKey + md.size = _
          omega
        outKeyLen := by
          show l.outKeyLen - md.size + _ = _
          omega
        hashNum := by
          show (l.hashNum + 1) % 256 = _
          rw [h.hashNum]
          omega
        mem := rfl }
    · show l.outKeyLen - md.size < l.outKeyLen
      omega

/-- All rounds from one on write the wanted bytes. -/
theorem run_hkdfLoop (henv : env.Succeeds) (hmax : md.size ≤ env.evpMaxMdSize)
    (hlen : len ≤ 255 * md.size) (hroom : p + len ≤ mem.length) :
    ∀ {fuel i : Nat} {l : HkdfLoop} {s : List UInt8}, InRound md prKey info mem p len i l s →
      l.outKeyLen < fuel → (loop .outOfFuel (hkdfRound env md prKey info) fuel l).run s =
        .ok () (expanded md prKey info mem p len)
  | 0, _, _, _, _, hfuel => absurd hfuel (Nat.not_lt_zero _)
  | fuel + 1, i, l, s, h, hfuel => by
    rw [loop_succ]
    rcases h.run_hkdfRound henv hmax hlen hroom with ⟨l', hrun, hnext, hless⟩ | hrun
    · rw [bind_ok hrun, again_inl]
      exact run_hkdfLoop henv hmax hlen hroom hnext (by omega)
    · rw [bind_ok hrun]
      rfl

/-- `HKDF_expand` writes the first bytes of the blocks of RFC 5869, and only these; it refuses
the lengths that have none. -/
theorem hkdfExpand_eq (henv : env.Succeeds) (hmax : md.size ≤ env.evpMaxMdSize)
    (prKey : List UInt8) (info : Option (List UInt8)) (mem : List UInt8) (p len : Nat) :
    (1 ≤ len → len ≤ 255 * md.size → p + len ≤ mem.length →
      (hkdfExpand env md prKey info p len).run mem = .ok 1
        (mem.take p ++ (hkdfBlocks md prKey (infoBytes info) 255).take len ++
          mem.drop (p + len))) ∧
    (¬ (1 ≤ len ∧ len ≤ 255 * md.size) →
      (hkdfExpand env md prKey info p len).run mem = .ok 0 mem) := by
  constructor
  · intro hpos hlen hroom
    have hstart : InRound md prKey info mem p len 0 ⟨p, len, 1⟩ mem := {
      le := by omega
      outKey := by
        show p = p + 0 * md.size
        omega
      outKeyLen := by
        show len + 0 * md.size = len
        omega
      hashNum := rfl
      mem := by
        show mem = mem.take p ++ [] ++ mem.drop p
        rw [List.append_nil, List.take_append_drop] }
    have hwritten : ((hkdfBlocks md prKey (infoBytes info) 255).take len).length = len := by
      rw [List.length_take, length_hkdfBlocks]
      omega
    have hloop : (whileLoop (fun l _ => l.outKeyLen) .outOfFuel (hkdfRound env md prKey info)
        ⟨p, len, 1⟩).run mem = .ok () (expanded md prKey info mem p len) :=
      run_hkdfLoop henv hmax hlen hroom hstart (Nat.lt_succ_self len)
    rw [hkdfExpand, if_neg (by omega), bind_ok (attempt_ok hloop)]
    show Outcome.ok 1 _ = Outcome.ok 1 _
    rw [expanded, written, hwritten]
  · intro hout
    rw [hkdfExpand, if_pos (by omega)]
    rfl

/-- A digest of one byte: the length of the data and the key. -/
def lengthMd : EvpMd where
  size := 1
  hmac key data := [UInt8.ofNat (key.length + data.length)]
  size_pos := Nat.le_refl 1
  length_hmac _ _ := rfl

def openSSL : OpenSSL := ⟨fun _ => true, 64⟩

theorem hkdfExpand_eq_three : openSSL.Succeeds ∧ lengthMd.size ≤ openSSL.evpMaxMdSize ∧
    (hkdfExpand openSSL lengthMd [7, 7] (some [9]) 1 3).run [0, 0, 0, 0, 0] =
      .ok 1 [0, 4, 5, 5, 0] := by
  have henv : openSSL.Succeeds := fun _ => rfl
  have hmax : lengthMd.size ≤ openSSL.evpMaxMdSize := by decide
  refine ⟨henv, hmax, ?_⟩
  rw [(hkdfExpand_eq henv hmax [7, 7] (some [9]) [0, 0, 0, 0, 0] 1 3).1 (by decide) (by decide)
    (by decide), take_hkdfBlocks (n := 3) (by decide) (by decide)]
  rfl

end

end Matter.Security
