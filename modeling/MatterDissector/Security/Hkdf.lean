import MatterDissector.TLV.Types

/-!
# HKDF

`HKDF_expand` (`HKDF.c`). OpenSSL is a parameter: a digest (`EvpMd`) is known by the length of its
hashes and by its HMAC, and each call that returns an `int` may fail (`OpenSSL.succeeds`).
-/

namespace Matter.Security

open Prog

/-! ## OpenSSL -/

/-- `EVP_MD`: `EVP_MD_size` (a positive `int`, so that `255 * hashSize` fits a `size_t`) and the
HMAC of a key and the data. -/
structure EvpMd where
  size : Nat
  hmac : List UInt8 → List UInt8 → List UInt8
  size_pos : 1 ≤ size
  length_hmac : ∀ key data, (hmac key data).length = size

/-- `HMAC_CTX`: the key and the data so far. -/
structure HmacCtx where
  key : List UInt8
  data : List UInt8
  deriving DecidableEq, Repr

inductive HmacCall where
  | init (key : List UInt8)
  | update (hmac : HmacCtx) (data : List UInt8)
  | final (hmac : HmacCtx)
  deriving DecidableEq, Repr

structure OpenSSL where
  succeeds : HmacCall → Bool
  /-- `EVP_MAX_MD_SIZE` -/
  evpMaxMdSize : Nat

/-- On the memory that the caller's buffer is in. A failed call leaves `HKDF_expand` with the
result 0. -/
abbrev HkdfM := Prog Unit Fault (List UInt8)

/-- `HMAC_Init_ex`. -/
def hmacInitEx (env : OpenSSL) (key : List UInt8) : HkdfM HmacCtx := do
  verify (env.succeeds (.init key)) ()
  pure ⟨key, []⟩

/-- `HMAC_Update`. -/
def hmacUpdate (env : OpenSSL) (hmac : HmacCtx) (data : List UInt8) : HkdfM HmacCtx := do
  verify (env.succeeds (.update hmac data)) ()
  pure { hmac with data := hmac.data ++ data }

/-- `HMAC_Final`: the bytes that it writes. -/
def hmacFinal (env : OpenSSL) (md : EvpMd) (hmac : HmacCtx) : HkdfM (List UInt8) := do
  verify (env.succeeds (.final hmac)) ()
  pure (md.hmac hmac.key hmac.data)

/-! ## Memory -/

def readMem (p size : Nat) : HkdfM (List UInt8) := do
  let mem ← get
  if p + size ≤ mem.length then pure ((mem.drop p).take size) else stop .outOfBoundsRead

/-- The bytes of `bytes` at `p`. -/
def written (mem : List UInt8) (p : Nat) (bytes : List UInt8) : List UInt8 :=
  mem.take p ++ bytes ++ mem.drop (p + bytes.length)

def writeMem (p : Nat) (bytes : List UInt8) : HkdfM Unit := do
  let mem ← get
  if p + bytes.length ≤ mem.length then modify fun mem => written mem p bytes
  else stop .outOfBoundsWrite

/-! ## `HKDF_expand` -/

/-- The variables of the loop. -/
structure HkdfLoop where
  outKey : Nat
  outKeyLen : Nat
  /-- a `uint8_t` -/
  hashNum : Nat
  deriving DecidableEq, Repr

/-- `if (hashNum > 1)`: the block in front of the pointer. -/
def updatePrevious (env : OpenSSL) (md : EvpMd) (l : HkdfLoop) (hmac : HmacCtx) : HkdfM HmacCtx :=
  if 1 < l.hashNum then
    if l.outKey < md.size then stop .outOfBoundsRead
    else readMem (l.outKey - md.size) md.size >>= hmacUpdate env hmac
  else pure hmac

/-- `if (info != NULL && infoLen > 0)`; `none` is `NULL`. -/
def updateInfo (env : OpenSSL) (info : Option (List UInt8)) (hmac : HmacCtx) : HkdfM HmacCtx :=
  match info with
  | some info => if 0 < info.length then hmacUpdate env hmac info else pure hmac
  | none => pure hmac

/-- The input of a round. -/
def hkdfInput (env : OpenSSL) (md : EvpMd) (prKey : List UInt8) (info : Option (List UInt8))
    (l : HkdfLoop) : HkdfM HmacCtx := do
  let hmac ← hmacInitEx env prKey
  let hmac ← updatePrevious env md l hmac
  let hmac ← updateInfo env info hmac
  hmacUpdate env hmac [UInt8.ofNat l.hashNum]

/-- A round of `while (1)`. -/
def hkdfRound (env : OpenSSL) (md : EvpMd) (prKey : List UInt8) (info : Option (List UInt8))
    (l : HkdfLoop) : HkdfM (HkdfLoop ⊕ Unit) := do
  let hmac ← hkdfInput env md prKey info l
  if l.outKeyLen < md.size then do
    let finalHash ← hmacFinal env md hmac
    -- `finalHash` is an array of `EVP_MAX_MD_SIZE` bytes
    if env.evpMaxMdSize < md.size then stop .outOfBoundsWrite
    else do
      writeMem l.outKey (finalHash.take l.outKeyLen)
      pure (.inr ())
  else do
    let hash ← hmacFinal env md hmac
    writeMem l.outKey hash
    pure (.inl ⟨l.outKey + md.size, l.outKeyLen - md.size, (l.hashNum + 1) % 256⟩)

/-- `HKDF_expand` with the buffer at `outKey`. -/
def hkdfExpand (env : OpenSSL) (md : EvpMd) (prKey : List UInt8) (info : Option (List UInt8))
    (outKey outKeyLen : Nat) : HkdfM Nat :=
  if outKeyLen < 1 ∨ 255 * md.size < outKeyLen then pure 0
  else do
    match ← attempt (whileLoop (fun l _ => l.outKeyLen) .outOfFuel
        (hkdfRound env md prKey info) ⟨outKey, outKeyLen, 1⟩) with
    | .ok () => pure 1
    | .error () => pure 0

end Matter.Security
