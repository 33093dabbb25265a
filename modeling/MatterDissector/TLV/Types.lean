import MatterDissector.Lib.Prog
import Mathlib.Tactic.Ring

/-!
# TLV element types and tags

`MatterTLVTypes.h` and `MatterTLVTags.h`. Element types, tag controls and tags stay the numbers
the reader computes with (it masks, shifts and compares them); the public `TLVType` and the error
codes are enumerations.
-/

namespace Matter

/-- The error codes that the modelled functions return or test (`MATTER_NO_ERROR` is a return). -/
inductive MatterError where
  | endOfTLV
  | tlvUnderrun
  | invalidTLVElement
  | invalidTLVTag
  | unknownImplicitTLVTag
  | wrongTLVType
  | unexpectedTLVElement
  | incorrectState
  | bufferTooSmall
  | invalidArgument
  | messageIncomplete
  deriving DecidableEq, Repr

/-- The numbers of the error codes. -/
def MatterError.code : MatterError → Nat
  | .incorrectState => 4003
  | .messageIncomplete => 4013
  | .bufferTooSmall => 4025
  | .endOfTLV => 4033
  | .tlvUnderrun => 4034
  | .invalidTLVElement => 4035
  | .invalidTLVTag => 4036
  | .unknownImplicitTLVTag => 4037
  | .wrongTLVType => 4038
  | .unexpectedTLVElement => 4043
  | .invalidArgument => 4047

/-- What the source leaves undefined. -/
inductive Fault where
  | outOfBoundsRead
  | outOfBoundsWrite
  | nullDereference
  | outOfFuel
  deriving DecidableEq, Repr

/-- `a - b` in `uint32_t` (also of an `int` or pointer difference stored in one). -/
def sub32 (a b : Nat) : Nat := (a + (2 ^ 32 - b % 2 ^ 32)) % 2 ^ 32

theorem sub32_of_le {a b : Nat} (h : b ≤ a) (ha : a < 2 ^ 32) : sub32 a b = a - b := by
  unfold sub32; omega

namespace TLV

/-! ## Public element types -/

/-- `TLVType`; `other` is the cast of an element type that has no enumerator. -/
inductive TLVType where
  | notSpecified
  | unknownContainer
  | signedInteger
  | unsignedInteger
  | boolean
  | floatingPointNumber
  | utf8String
  | byteString
  | null
  | struct
  | array
  | path
  | other (code : Nat)
  deriving DecidableEq, Repr

/-- `(TLVType) elemType`. -/
def TLVType.ofElementType : Nat → TLVType
  | 0x00 => .signedInteger
  | 0x04 => .unsignedInteger
  | 0x08 => .boolean
  | 0x0A => .floatingPointNumber
  | 0x0C => .utf8String
  | 0x10 => .byteString
  | 0x14 => .null
  | 0x15 => .struct
  | 0x16 => .array
  | 0x17 => .path
  | 0xFF => .notSpecified
  | code => .other code

/-! ## Element types

An element type is the code in the low five bits of a control byte; `NotSpecified` (-1) reaches
the predicates below as the `uint8_t` 0xFF. -/

namespace ElementType

abbrev int8 : Nat := 0x00
abbrev int16 : Nat := 0x01
abbrev int32 : Nat := 0x02
abbrev int64 : Nat := 0x03
abbrev uint8 : Nat := 0x04
abbrev uint16 : Nat := 0x05
abbrev uint32 : Nat := 0x06
abbrev uint64 : Nat := 0x07
abbrev booleanFalse : Nat := 0x08
abbrev booleanTrue : Nat := 0x09
abbrev floatingPointNumber32 : Nat := 0x0A
abbrev floatingPointNumber64 : Nat := 0x0B
abbrev utf8StringOneByteLength : Nat := 0x0C
abbrev byteStringEightByteLength : Nat := 0x13
abbrev null : Nat := 0x14
abbrev struct : Nat := 0x15
abbrev array : Nat := 0x16
abbrev path : Nat := 0x17
abbrev endOfContainer : Nat := 0x18
abbrev notSpecified : Nat := 0xFF

end ElementType

/-- The size of the length or value field of an element. -/
inductive FieldSize where
  | zeroByte
  | oneByte
  | twoByte
  | fourByte
  | eightByte
  deriving DecidableEq, Repr

def typeMask : Nat := 0x1F
def typeSizeMask : Nat := 0x03

def isValidTLVType (type : Nat) : Bool := type ≤ ElementType.endOfContainer

def tlvTypeHasValue (type : Nat) : Bool :=
  type ≤ ElementType.uint64 ||
    (ElementType.floatingPointNumber32 ≤ type && type ≤ ElementType.byteStringEightByteLength)

def tlvTypeHasLength (type : Nat) : Bool :=
  ElementType.utf8StringOneByteLength ≤ type && type ≤ ElementType.byteStringEightByteLength

def tlvTypeIsContainer (type : Nat) : Bool :=
  ElementType.struct ≤ type && type ≤ ElementType.path

theorem tlvTypeHasLength_iff {type : Nat} :
    tlvTypeHasLength type = true ↔ 0x0C ≤ type ∧ type ≤ 0x13 := by
  simp [tlvTypeHasLength]

theorem tlvTypeIsContainer_iff {type : Nat} :
    tlvTypeIsContainer type = true ↔ 0x15 ≤ type ∧ type ≤ 0x17 := by
  simp [tlvTypeIsContainer]

def tlvTypeIsString (type : Nat) : Bool :=
  ElementType.utf8StringOneByteLength ≤ type && type ≤ ElementType.byteStringEightByteLength

/-- `(TLVFieldSize) (type & kTLVTypeSizeMask)`. -/
def FieldSize.ofCode : Nat → FieldSize
  | 0 => .oneByte
  | 1 => .twoByte
  | 2 => .fourByte
  | _ => .eightByte

def getTLVFieldSize (type : Nat) : FieldSize :=
  if tlvTypeHasValue type then .ofCode (type &&& typeSizeMask) else .zeroByte

def tlvFieldSizeToBytes : FieldSize → Nat
  | .zeroByte => 0
  | .oneByte => 1
  | .twoByte => 2
  | .fourByte => 4
  | .eightByte => 8

/-! ## Tags -/

def profileIdNotSpecified : Nat := 0xFFFFFFFF
def commonProfileId : Nat := 0

def profileIdMask : Nat := 0xFFFFFFFF00000000
def tagNumMask : Nat := 0x00000000FFFFFFFF
def specialTagMarker : Nat := 0xFFFFFFFF00000000
def contextTagMaxNum : Nat := 256

def anonymousTag : Nat := specialTagMarker ||| 0x00000000FFFFFFFF
def unknownImplicitTag : Nat := specialTagMarker ||| 0x00000000FFFFFFFE

/-- `ProfileTag(profileId, tagNum)`. -/
def profileTag (profileId tagNum : Nat) : Nat := (profileId <<< 32) ||| tagNum

/-- `ProfileTag(vendorId, profileNum, tagNum)`. -/
def vendorProfileTag (vendorId profileNum tagNum : Nat) : Nat :=
  (vendorId <<< 48) ||| (profileNum <<< 32) ||| tagNum

def contextTag (tagNum : Nat) : Nat := specialTagMarker ||| tagNum
def commonTag (tagNum : Nat) : Nat := profileTag commonProfileId tagNum

/-- `VendorIdFromTag`, a `uint16_t`. -/
def vendorIdFromTag (tag : Nat) : Nat := ((tag &&& profileIdMask) >>> 48) % 2 ^ 16

/-- `ProfileNumFromTag`, a `uint16_t`. -/
def profileNumFromTag (tag : Nat) : Nat := ((tag &&& profileIdMask) >>> 32) % 2 ^ 16

def profileIdFromTag (tag : Nat) : Nat := ((tag &&& profileIdMask) >>> 32) % 2 ^ 32
def tagNumFromTag (tag : Nat) : Nat := tag &&& tagNumMask
def isProfileTag (tag : Nat) : Bool := tag &&& profileIdMask != specialTagMarker

def isContextTag (tag : Nat) : Bool :=
  tag &&& profileIdMask == specialTagMarker && tagNumFromTag tag < contextTagMaxNum

/-- The bits of a control byte that give the form of the tag. -/
def tagControlMask : Nat := 0xE0
def tagControlShift : Nat := 5

namespace TagControl

abbrev anonymous : Nat := 0x00
abbrev contextSpecific : Nat := 0x20
abbrev commonProfileTwoBytes : Nat := 0x40
abbrev commonProfileFourBytes : Nat := 0x60
abbrev implicitProfileTwoBytes : Nat := 0x80
abbrev implicitProfileFourBytes : Nat := 0xA0
abbrev fullyQualifiedSixBytes : Nat := 0xC0
abbrev fullyQualifiedEightBytes : Nat := 0xE0

end TagControl

/-- `sTagSizes`: the bytes of the tag field, by tag control. -/
def tagSizes : List Nat := [0, 1, 2, 4, 2, 4, 6, 8]

/-! ### Arithmetic of tags -/

theorem and_profileIdMask {t : Nat} (h : t < 2 ^ 64) :
    t &&& profileIdMask = t / 2 ^ 32 * 2 ^ 32 := by
  have hm : profileIdMask = (2 ^ 32 - 1) <<< 32 := by decide
  apply Nat.eq_of_testBit_eq
  intro j
  rw [hm, Nat.testBit_and, Nat.testBit_shiftLeft, Nat.testBit_mul_two_pow,
    Nat.testBit_two_pow_sub_one, Nat.testBit_div_two_pow]
  by_cases hj : 32 ≤ j
  · rw [Nat.sub_add_cancel hj]
    by_cases hj' : j < 64
    · simp [hj]; omega
    · rw [Nat.testBit_lt_two_pow (Nat.lt_of_lt_of_le h (Nat.pow_le_pow_right (by decide)
        (by omega)))]
      simp
  · simp [hj]

@[simp] theorem tagNumFromTag_eq (t : Nat) : tagNumFromTag t = t % 2 ^ 32 :=
  Nat.and_two_pow_sub_one_eq_mod t 32

theorem profileTag_eq {p n : Nat} (hn : n < 2 ^ 32) : profileTag p n = p * 2 ^ 32 + n := by
  rw [profileTag, ← Nat.shiftLeft_add_eq_or_of_lt hn, Nat.shiftLeft_eq]

theorem vendorProfileTag_eq {v p n : Nat} (hp : p < 2 ^ 16) (hn : n < 2 ^ 32) :
    vendorProfileTag v p n = (v * 2 ^ 16 + p) * 2 ^ 32 + n := by
  have hv : (v <<< 48) ||| (p <<< 32) = ((v <<< 16) ||| p) <<< 32 := by
    rw [Nat.shiftLeft_or_distrib, ← Nat.shiftLeft_add]
  rw [vendorProfileTag, hv, ← Nat.shiftLeft_add_eq_or_of_lt hn,
    ← Nat.shiftLeft_add_eq_or_of_lt hp, Nat.shiftLeft_eq, Nat.shiftLeft_eq]

theorem contextTag_eq {n : Nat} (hn : n < 2 ^ 32) : contextTag n = 0xFFFFFFFF * 2 ^ 32 + n := by
  have := profileTag_eq (p := 0xFFFFFFFF) hn
  rw [← this]; rfl

theorem commonTag_eq {n : Nat} (hn : n < 2 ^ 32) : commonTag n = n := by
  rw [commonTag, profileTag_eq hn]; simp [commonProfileId]

theorem anonymousTag_eq : anonymousTag = 2 ^ 64 - 1 := by decide

theorem unknownImplicitTag_eq : unknownImplicitTag = 2 ^ 64 - 2 := by decide

theorem isContextTag_iff {t : Nat} (h : t < 2 ^ 64) :
    isContextTag t = true ↔ t / 2 ^ 32 = 0xFFFFFFFF ∧ t % 2 ^ 32 < 256 := by
  simp only [isContextTag, and_profileIdMask h, specialTagMarker, tagNumFromTag_eq,
    contextTagMaxNum, Bool.and_eq_true, beq_iff_eq, decide_eq_true_eq]
  omega

theorem isProfileTag_iff {t : Nat} (h : t < 2 ^ 64) :
    isProfileTag t = true ↔ t / 2 ^ 32 ≠ 0xFFFFFFFF := by
  simp only [isProfileTag, and_profileIdMask h, specialTagMarker, bne_iff_ne, ne_eq]
  omega

theorem vendorIdFromTag_eq {t : Nat} (h : t < 2 ^ 64) : vendorIdFromTag t = t / 2 ^ 48 := by
  rw [vendorIdFromTag, and_profileIdMask h, Nat.shiftRight_eq_div_pow]
  omega

theorem profileNumFromTag_eq {t : Nat} (h : t < 2 ^ 64) :
    profileNumFromTag t = t / 2 ^ 32 % 2 ^ 16 := by
  rw [profileNumFromTag, and_profileIdMask h, Nat.shiftRight_eq_div_pow]
  omega

end TLV

end Matter
