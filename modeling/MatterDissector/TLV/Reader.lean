import MatterDissector.TLV.Types

/-!
# The TLV reader

`MatterTLVReader.cpp`, reading from one buffer (`GetNextBuffer == NULL`, as `Init` sets it and
nothing in the program changes). Pointers are offsets into `data`; every access to memory is
checked and faults outside its object. `uint32_t` and `uint64_t` fields are naturals that wrap
where the source's arithmetic does.

`OpenContainer` and `CloseContainer` have no caller in the program. The flag that they share is an
argument of the second.
-/

namespace Matter.TLV

open Prog

/-- The reader's members. `data` is the memory its pointers point into. -/
structure TLVReader where
  data : List UInt8
  implicitProfileId : Nat
  elemTag : Nat
  elemLenOrVal : Nat
  readPoint : Nat
  bufEnd : Nat
  lenRead : Nat
  maxLen : Nat
  containerType : TLVType
  controlByte : Nat
  deriving DecidableEq, Repr

abbrev ReaderM := Prog MatterError Fault TLVReader

/-- `kTLVControlByte_NotSpecified`. -/
def controlByteNotSpecified : Nat := 0xFFFF

namespace TLVReader

def clearElementState (r : TLVReader) : TLVReader :=
  { r with elemTag := anonymousTag, controlByte := controlByteNotSpecified, elemLenOrVal := 0 }

/-- `Init(data, dataLen)`. -/
def init (data : List UInt8) (dataLen : Nat) : TLVReader where
  data
  implicitProfileId := profileIdNotSpecified
  elemTag := anonymousTag
  elemLenOrVal := 0
  readPoint := 0
  bufEnd := dataLen
  lenRead := 0
  maxLen := dataLen
  containerType := .notSpecified
  controlByte := controlByteNotSpecified

def elementType (r : TLVReader) : Nat :=
  if r.controlByte = controlByteNotSpecified then ElementType.notSpecified
  else r.controlByte &&& typeMask

/-! ## Accessors of the current element -/

def getType (r : TLVReader) : TLVType :=
  let elemType := r.elementType
  if elemType = ElementType.endOfContainer then .notSpecified
  else if elemType = ElementType.floatingPointNumber32
      ∨ elemType = ElementType.floatingPointNumber64 then .floatingPointNumber
  else if elemType = ElementType.notSpecified ∨ ElementType.null ≤ elemType then
    .ofElementType elemType
  else .ofElementType (elemType - (elemType &&& typeSizeMask))  -- elemType & ~kTLVTypeSizeMask

def getTag (r : TLVReader) : Nat := r.elemTag

def getLength (r : TLVReader) : Nat :=
  if tlvTypeHasLength r.elementType then r.elemLenOrVal % 2 ^ 32 else 0

/-- `(int64_t) (intN_t) v` stored in a `uint64_t`, for `N = bits`. -/
def signExtend64 (bits v : Nat) : Nat :=
  let low := v % 2 ^ bits
  if low < 2 ^ (bits - 1) then low else low + (2 ^ 64 - 2 ^ bits)

/-- A `uint64_t` assigned to an `int64_t`. -/
def toInt64 (v : Nat) : Int := if v < 2 ^ 63 then v else (v : Int) - 2 ^ 64

/-- `Get(bool &)`. -/
def getBool : ReaderM Bool := do
  let elemType ← gets elementType
  if elemType = ElementType.booleanFalse then pure false
  else if elemType = ElementType.booleanTrue then pure true
  else throw .wrongTLVType

/-- `Get(uint64_t &)`. -/
def getUInt64 : ReaderM Nat := do
  let r ← get
  match r.elementType with
  | 0x00 => pure (signExtend64 8 r.elemLenOrVal)
  | 0x01 => pure (signExtend64 16 r.elemLenOrVal)
  | 0x02 => pure (signExtend64 32 r.elemLenOrVal)
  | 0x03 | 0x04 | 0x05 | 0x06 | 0x07 => pure r.elemLenOrVal
  | _ => throw .wrongTLVType

/-- `Get(int64_t &)`. -/
def getInt64 : ReaderM Int := do return toInt64 (← getUInt64)

/-- `Get(uintN_t &)` for `N = bits < 64`: the low bits of the 64-bit value. -/
def getUInt (bits : Nat) : ReaderM Nat := do return (← getUInt64) % 2 ^ bits

/-- `Get(intN_t &)` for `N = bits < 64`: the same bits as a signed number. -/
def getInt (bits : Nat) : ReaderM Int := do
  let v ← getUInt bits
  pure (if v < 2 ^ (bits - 1) then v else (v : Int) - 2 ^ bits)

/-- The number a bit pattern stands for; `Get(double &)` widens a 32-bit one. -/
inductive FloatBits where
  | float (bits : Nat)
  | double (bits : Nat)
  deriving DecidableEq, Repr

/-- `Get(double &)`. -/
def getDouble : ReaderM FloatBits := do
  let r ← get
  match r.elementType with
  | 0x0A => pure (.float (r.elemLenOrVal % 2 ^ 32))
  | 0x0B => pure (.double r.elemLenOrVal)
  | _ => throw .wrongTLVType

/-! ## Reading the buffer -/

/-- Makes sure that a byte is left; there is no next buffer to fetch. -/
def ensureData (noDataErr : MatterError) : ReaderM Unit := do
  let r ← get
  if r.readPoint = r.bufEnd then throw noDataErr else pure ()

/-- `memcpy` of `len` bytes at offset `p` of `mem`. -/
def copyBytes (mem : List UInt8) (p len : Nat) : ReaderM (List UInt8) :=
  if p + len ≤ mem.length then pure ((mem.drop p).take len) else stop .outOfBoundsRead

/-- The size of `stagingBuf`: 1 control byte, 8 tag bytes and 8 length/value bytes. -/
def stagingBufSize : Nat := 17

/-- Where `ReadData` writes. The bounds of memory that the caller or `malloc` provides are not
part of the reader. -/
inductive Dest where
  | null
  | stagingBuf
  | external
  deriving DecidableEq, Repr

/-- One round of the loop of `ReadData`: the bytes still wanted, and those already in `buf`. -/
def readDataRound (buf : Dest) :
    Nat × List UInt8 → ReaderM ((Nat × List UInt8) ⊕ List UInt8)
  | (0, copied) => pure (.inr copied)
  | (len, copied) => do
    ensureData .tlvUnderrun
    let r ← get
    let remainingLen := sub32 r.bufEnd r.readPoint
    let readLen := if len > remainingLen then remainingLen else len
    let chunk ← match buf with
      | .null => pure []
      | .stagingBuf =>
        if copied.length + readLen ≤ stagingBufSize then copyBytes r.data r.readPoint readLen
        else stop .outOfBoundsWrite
      | .external => copyBytes r.data r.readPoint readLen
    modify fun r => { r with
      readPoint := r.readPoint + readLen
      lenRead := (r.lenRead + readLen) % 2 ^ 32 }
    pure (.inl (len - readLen, copied ++ chunk))

/-- `ReadData(buf, len)`: the bytes written to `buf` are the result. -/
def readData (buf : Dest) (len : Nat) : ReaderM (List UInt8) :=
  whileLoop (fun b _ => b.1) .outOfFuel (readDataRound buf) (len, [])

/-- `Read8(p)`. -/
def read8 (mem : List UInt8) (p : Nat) : ReaderM Nat :=
  match mem[p]? with
  | some b => pure b.toNat
  | none => stop .outOfBoundsRead

/-- `LittleEndian::Read16`, `Read32`, `Read64`, by their number of bytes. -/
def readLE (mem : List UInt8) (p : Nat) : Nat → ReaderM Nat
  | 0 => pure 0
  | k + 1 => do
    let res ← readLE mem p k
    let b ← read8 mem (p + k)
    pure (res ||| (b <<< (8 * k)))

/-- `ReadTag`: the tag, and the pointer past it. -/
def readTag (tagControl : Nat) (mem : List UInt8) (p : Nat) : ReaderM (Nat × Nat) := do
  let implicitProfileId ← gets (·.implicitProfileId)
  match tagControl with
  | 0x20 => do return (contextTag (← read8 mem p), p + 1)
  | 0x40 => do return (commonTag (← readLE mem p 2), p + 2)
  | 0x60 => do return (commonTag (← readLE mem p 4), p + 4)
  | 0x80 =>
    if implicitProfileId = profileIdNotSpecified then pure (unknownImplicitTag, p)
    else do return (profileTag implicitProfileId (← readLE mem p 2), p + 2)
  | 0xA0 =>
    if implicitProfileId = profileIdNotSpecified then pure (unknownImplicitTag, p)
    else do return (profileTag implicitProfileId (← readLE mem p 4), p + 4)
  | 0xC0 => do
    let vendorId ← readLE mem p 2
    let profileNum ← readLE mem (p + 2) 2
    let tagNum ← readLE mem (p + 4) 2
    return (vendorProfileTag vendorId profileNum tagNum, p + 6)
  | 0xE0 => do
    let vendorId ← readLE mem p 2
    let profileNum ← readLE mem (p + 2) 2
    let tagNum ← readLE mem (p + 4) 4
    return (vendorProfileTag vendorId profileNum tagNum, p + 8)
  | _ => pure (anonymousTag, p)

/-- The containment rules for the tag of an element that is no end of container. -/
def verifyTag (containerType : TLVType) (elemTag : Nat) : Except MatterError Unit :=
  if elemTag = unknownImplicitTag then .error .unknownImplicitTLVTag
  else match containerType with
    | .notSpecified => if isContextTag elemTag then .error .invalidTLVTag else .ok ()
    | .struct | .path => if elemTag = anonymousTag then .error .invalidTLVTag else .ok ()
    | .array => if elemTag ≠ anonymousTag then .error .invalidTLVTag else .ok ()
    | .unknownContainer => .ok ()
    | _ => .error .incorrectState

def verifyElement : ReaderM Unit := do
  let r ← get
  let tagCheck : Except MatterError Unit :=
    if r.elementType = ElementType.endOfContainer then
      if r.containerType = .notSpecified then .error .invalidTLVElement
      else if r.elemTag ≠ anonymousTag then .error .invalidTLVTag
      else .ok ()
    else verifyTag r.containerType r.elemTag
  match tagCheck with
  | .error e => throw e
  | .ok () =>
    -- the length is compared as a `uint32_t`
    if tlvTypeHasLength r.elementType ∧ sub32 r.maxLen r.lenRead < r.elemLenOrVal % 2 ^ 32 then
      throw .tlvUnderrun
    else pure ()

/-- `ReadElement`. -/
def readElement : ReaderM Unit := do
  ensureData .endOfTLV
  let r ← get
  let control ← read8 r.data r.readPoint
  modify fun r => { r with controlByte := control }
  let elemType ← gets elementType
  verify (isValidTLVType elemType) .invalidTLVElement
  let tagControl := control &&& tagControlMask
  let tagBytes := tagSizes.getD (tagControl >>> tagControlShift) 0
  let valOrLenBytes := tlvFieldSizeToBytes (getTLVFieldSize elemType)
  let elemHeadBytes := 1 + tagBytes + valOrLenBytes
  -- a head that overlaps the end of the buffer is gathered in the staging buffer
  let (mem, p) ←
    if (elemHeadBytes : Int) > (r.bufEnd : Int) - r.readPoint then do
      let stagingBuf ← readData .stagingBuf elemHeadBytes
      pure (stagingBuf, 0)
    else do
      modify fun r => { r with
        readPoint := r.readPoint + elemHeadBytes
        lenRead := (r.lenRead + elemHeadBytes) % 2 ^ 32 }
      pure (r.data, r.readPoint)
  let (tag, p) ← readTag tagControl mem (p + 1)
  modify fun r => { r with elemTag := tag }
  let lenOrVal ← readLE mem p valOrLenBytes
  modify fun r => { r with elemLenOrVal := lenOrVal }
  verifyElement

/-! ## Moving between elements -/

/-- `SkipData`: the length argument of `ReadData` is a `uint32_t`. -/
def skipData : ReaderM Unit := do
  let r ← get
  if tlvTypeHasLength r.elementType then
    let _ ← readData .null (r.elemLenOrVal % 2 ^ 32)
    pure ()
  else pure ()

/-- One round of the loop of `SkipToEndOfContainer`, at nesting level `nestLevel`. -/
def skipRound (outerContainerType : TLVType) (nestLevel : Nat) : ReaderM (Nat ⊕ Unit) := do
  let r ← get
  let elemType := r.elementType
  if elemType = ElementType.endOfContainer then
    match nestLevel with
    | 0 => pure (.inr ())
    | nestLevel + 1 =>
      modify fun r => { r with
        containerType := if nestLevel = 0 then outerContainerType else .unknownContainer }
      skipData
      readElement
      pure (.inl nestLevel)
  else if tlvTypeIsContainer elemType then
    modify fun r => { r with containerType := .ofElementType elemType }
    skipData
    readElement
    pure (.inl (nestLevel + 1))
  else
    skipData
    readElement
    pure (.inl nestLevel)

/-- `GetRemainingLength`. -/
def getRemainingLength (r : TLVReader) : Nat := sub32 r.maxLen r.lenRead

/-- The bytes of memory past the read point: every element read takes one at least. -/
def unread (r : TLVReader) : Nat := r.data.length - r.readPoint

/-- `SkipToEndOfContainer`. -/
def skipToEndOfContainer : ReaderM Unit := do
  let outerContainerType ← gets (·.containerType)
  whileLoop (fun _ r => r.unread) .outOfFuel (skipRound outerContainerType) 0

/-- `EnterContainer`: returns the type of the outer container. -/
def enterContainer : ReaderM TLVType := do
  let r ← get
  let elemType := r.elementType
  verify (tlvTypeIsContainer elemType) .incorrectState
  modify fun r => clearElementState { r with containerType := .ofElementType elemType }
  pure r.containerType

/-- `ExitContainer`. -/
def exitContainer (outerContainerType : TLVType) : ReaderM Unit := do
  skipToEndOfContainer
  modify fun r => clearElementState { r with containerType := outerContainerType }

/-- `Skip`. -/
def skip : ReaderM Unit := do
  let elemType ← gets elementType
  if elemType = ElementType.endOfContainer then throw .endOfTLV
  else if tlvTypeIsContainer elemType then
    let outerContainerType ← enterContainer
    exitContainer outerContainerType
  else
    skipData
    modify clearElementState

/-- `Next()`. -/
def next : ReaderM Unit := do
  skip
  readElement
  let elemType ← gets elementType
  if elemType = ElementType.endOfContainer then throw .endOfTLV else pure ()

/-- `Next(expectedType, expectedTag)`. -/
def nextExpecting (expectedType : TLVType) (expectedTag : Nat) : ReaderM Unit := do
  next
  let r ← get
  verify (r.getType = expectedType) .wrongTLVType
  verify (r.elemTag = expectedTag) .unexpectedTLVElement

/-- `VerifyEndOfContainer`. -/
def verifyEndOfContainer : ReaderM Unit := do
  match ← attempt next with
  | .error .endOfTLV => pure ()
  | .ok () => throw .unexpectedTLVElement
  | .error e => throw e

/-! ## Container readers -/

/-- `OpenContainer(containerReader)`: the container reader. -/
def openContainer : ReaderM TLVReader := do
  let r ← get
  verify (tlvTypeIsContainer r.elementType) .incorrectState
  pure (clearElementState { r with containerType := .ofElementType r.elementType })

/-- Methods of another reader. -/
def onOther {α : Type} (other : TLVReader) (x : ReaderM α) : ReaderM α :=
  zoom (fun _ => other) (fun _ r => r) x

/-- `CloseContainer(containerReader)`: a container reader that fails leaves this reader as it is. -/
def closeContainer (containerOpen : Bool) (containerReader : TLVReader) : ReaderM Unit := do
  verify containerOpen .incorrectState
  let elemType ← gets elementType
  verify (containerReader.containerType = .ofElementType elemType) .incorrectState
  let c ← onOther containerReader (do
    skipToEndOfContainer
    get)
  modify fun r => clearElementState { r with
    data := c.data, readPoint := c.readPoint, bufEnd := c.bufEnd, lenRead := c.lenRead
    maxLen := c.maxLen }

/-! ## Strings -/

/-- `GetBytes(buf, bufSize)`. -/
def getBytes (bufSize : Nat) : ReaderM (List UInt8) := do
  let r ← get
  verify (tlvTypeIsString r.elementType) .wrongTLVType
  verify (r.elemLenOrVal ≤ bufSize) .bufferTooSmall
  let bytes ← readData .external (r.elemLenOrVal % 2 ^ 32)
  modify fun r => { r with elemLenOrVal := 0 }
  pure bytes

/-- `GetString(buf, bufSize)`: the terminator is written before the bytes. -/
def getString (bufSize : Nat) : ReaderM (List UInt8) := do
  let r ← get
  verify (tlvTypeIsString r.elementType) .wrongTLVType
  -- `mElemLenOrVal + 1` is a `uint64_t`
  verify ((r.elemLenOrVal + 1) % 2 ^ 64 ≤ bufSize) .bufferTooSmall
  if r.elemLenOrVal < bufSize then getBytes (bufSize - 1) else stop .outOfBoundsWrite

/-- `DupBytes`: `malloc` of the 64-bit length (taken to succeed), then `ReadData` of its low 32
bits. -/
def dupBytes : ReaderM (List UInt8) := do
  let r ← get
  verify (tlvTypeIsString r.elementType) .wrongTLVType
  let bytes ← readData .external (r.elemLenOrVal % 2 ^ 32)
  modify fun r => { r with elemLenOrVal := 0 }
  pure bytes

/-- `DupString`: as `DupBytes`, with a terminator behind the bytes. -/
def dupString : ReaderM (List UInt8) := do
  let r ← get
  verify (tlvTypeIsString r.elementType) .wrongTLVType
  let bytes ← readData .external (r.elemLenOrVal % 2 ^ 32)
  modify fun r => { r with elemLenOrVal := 0 }
  pure bytes

/-- `GetDataPtr`: the pointer, as an offset into `data`. -/
def getDataPtr : ReaderM Nat := do
  let r ← get
  verify (tlvTypeIsString r.elementType) .wrongTLVType
  ensureData .tlvUnderrun
  verify (r.elemLenOrVal % 2 ^ 32 ≤ sub32 r.bufEnd r.readPoint) .tlvUnderrun
  pure r.readPoint

end TLVReader

end Matter.TLV
