import MatterDissector.Lib.LittleEndian
import MatterDissector.TLV.Types

/-!
# The TLV format

TLV trees and their encoding, as the comments of `MatterTLVTypes.h` and `MatterTLVTags.h` give
them. Numbers have the width of their field and strings fit their length field by type; what a
type cannot say, the containment rules for tags, is `Elem.wellFormed`.
-/

namespace Matter.TLV

/-- The width of a number or of a length field. -/
inductive Width where
  | one
  | two
  | four
  | eight
  deriving DecidableEq, Repr

namespace Width

def bytes : Width → Nat
  | .one => 1
  | .two => 2
  | .four => 4
  | .eight => 8

/-- The low two bits of the element type. -/
def code : Width → Nat
  | .one => 0
  | .two => 1
  | .four => 2
  | .eight => 3

def bits (w : Width) : Nat := 8 * w.bytes

end Width

/-! ## Tags -/

/-- The forms of a tag, with the numbers of its field. -/
inductive Tag where
  | anonymous
  | context (num : BitVec 8)
  | common2 (num : BitVec 16)
  | common4 (num : BitVec 32)
  | implicit2 (num : BitVec 16)
  | implicit4 (num : BitVec 32)
  | full6 (vendor profile num : BitVec 16)
  | full8 (vendor profile : BitVec 16) (num : BitVec 32)
  deriving DecidableEq, Repr

namespace Tag

/-- The tag control bits. -/
def control : Tag → Nat
  | .anonymous => TagControl.anonymous
  | .context _ => TagControl.contextSpecific
  | .common2 _ => TagControl.commonProfileTwoBytes
  | .common4 _ => TagControl.commonProfileFourBytes
  | .implicit2 _ => TagControl.implicitProfileTwoBytes
  | .implicit4 _ => TagControl.implicitProfileFourBytes
  | .full6 .. => TagControl.fullyQualifiedSixBytes
  | .full8 .. => TagControl.fullyQualifiedEightBytes

def field : Tag → List UInt8
  | .anonymous => []
  | .context num => LE.bytes 1 num.toNat
  | .common2 num => LE.bytes 2 num.toNat
  | .common4 num => LE.bytes 4 num.toNat
  | .implicit2 num => LE.bytes 2 num.toNat
  | .implicit4 num => LE.bytes 4 num.toNat
  | .full6 vendor profile num =>
    LE.bytes 2 vendor.toNat ++ LE.bytes 2 profile.toNat ++ LE.bytes 2 num.toNat
  | .full8 vendor profile num =>
    LE.bytes 2 vendor.toNat ++ LE.bytes 2 profile.toNat ++ LE.bytes 4 num.toNat

/-- The 64-bit tag, with `implicitProfileId` for the implicit forms. -/
def value (implicitProfileId : Nat) : Tag → Nat
  | .anonymous => anonymousTag
  | .context num => contextTag num.toNat
  | .common2 num => commonTag num.toNat
  | .common4 num => commonTag num.toNat
  | .implicit2 num => profileTag implicitProfileId num.toNat
  | .implicit4 num => profileTag implicitProfileId num.toNat
  | .full6 vendor profile num => vendorProfileTag vendor.toNat profile.toNat num.toNat
  | .full8 vendor profile num => vendorProfileTag vendor.toNat profile.toNat num.toNat

/-- The profile of the tag is not the one that marks tags without profile. -/
def profileSpecified (implicitProfileId : Nat) : Tag → Bool
  | .implicit2 _ | .implicit4 _ => implicitProfileId != profileIdNotSpecified
  | .full6 vendor profile _ => !(vendor == 0xFFFF && profile == 0xFFFF)
  | .full8 vendor profile _ => !(vendor == 0xFFFF && profile == 0xFFFF)
  | _ => true

def isAnonymous : Tag → Bool
  | .anonymous => true
  | _ => false

def isContext : Tag → Bool
  | .context _ => true
  | _ => false

/-- The containment rules. -/
def allowedIn (containerType : TLVType) (tag : Tag) : Bool :=
  match containerType with
  | .notSpecified => !tag.isContext
  | .struct | .path => !tag.isAnonymous
  | .array => tag.isAnonymous
  | .unknownContainer => true
  | _ => false

end Tag

/-! ## Elements -/

/-- A string that its length field can hold, and no longer than a buffer. -/
structure SizedBytes (w : Width) where
  bytes : List UInt8
  fits : bytes.length < 256 ^ w.bytes
  lt_buffer : bytes.length < 2 ^ 32
  deriving DecidableEq

inductive Prim where
  | sint (w : Width) (v : BitVec w.bits)
  | uint (w : Width) (v : BitVec w.bits)
  | bool (b : Bool)
  | float32 (v : BitVec 32)
  | float64 (v : BitVec 64)
  | utf8 (w : Width) (s : SizedBytes w)
  | bytes (w : Width) (s : SizedBytes w)
  | null
  deriving DecidableEq

namespace Prim

/-- The element type. -/
def elemType : Prim → Nat
  | .sint w _ => ElementType.int8 + w.code
  | .uint w _ => ElementType.uint8 + w.code
  | .bool false => ElementType.booleanFalse
  | .bool true => ElementType.booleanTrue
  | .float32 _ => ElementType.floatingPointNumber32
  | .float64 _ => ElementType.floatingPointNumber64
  | .utf8 w _ => ElementType.utf8StringOneByteLength + w.code
  | .bytes w _ => 0x10 + w.code
  | .null => ElementType.null

/-- The value or length field. -/
def field : Prim → List UInt8
  | .sint w v => LE.bytes w.bytes v.toNat
  | .uint w v => LE.bytes w.bytes v.toNat
  | .float32 v => LE.bytes 4 v.toNat
  | .float64 v => LE.bytes 8 v.toNat
  | .utf8 w s => LE.bytes w.bytes s.bytes.length
  | .bytes w s => LE.bytes w.bytes s.bytes.length
  | .bool _ | .null => []

/-- The bytes of a string. -/
def payload : Prim → List UInt8
  | .utf8 _ s => s.bytes
  | .bytes _ s => s.bytes
  | _ => []

end Prim

inductive ContainerKind where
  | struct
  | array
  | path
  deriving DecidableEq, Repr

namespace ContainerKind

def elemType : ContainerKind → Nat
  | .struct => ElementType.struct
  | .array => ElementType.array
  | .path => ElementType.path

def type : ContainerKind → TLVType
  | .struct => .struct
  | .array => .array
  | .path => .path

end ContainerKind

/-- A TLV tree. -/
inductive Elem where
  | prim (tag : Tag) (p : Prim)
  | container (tag : Tag) (kind : ContainerKind) (members : List Elem)

/-- The head of an element. -/
def encodeHead (tag : Tag) (elemType : Nat) (field : List UInt8) : List UInt8 :=
  UInt8.ofNat (tag.control ||| elemType) :: (tag.field ++ field)

def endOfContainer : List UInt8 := [UInt8.ofNat ElementType.endOfContainer]

mutual

def Elem.encode : Elem → List UInt8
  | .prim tag p => encodeHead tag p.elemType p.field ++ p.payload
  | .container tag kind members =>
    encodeHead tag kind.elemType [] ++ (encodeMembers members ++ endOfContainer)

/-- Elements one after another. -/
def encodeMembers : List Elem → List UInt8
  | [] => []
  | e :: es => e.encode ++ encodeMembers es

end

mutual

/-- Every tag obeys the containment rules and has a profile if it should. -/
def Elem.wellFormed (implicitProfileId : Nat) (containerType : TLVType) : Elem → Bool
  | .prim tag _ => tag.allowedIn containerType && tag.profileSpecified implicitProfileId
  | .container tag kind members =>
    tag.allowedIn containerType && tag.profileSpecified implicitProfileId &&
      membersWellFormed implicitProfileId kind.type members

def membersWellFormed (implicitProfileId : Nat) (containerType : TLVType) : List Elem → Bool
  | [] => true
  | e :: es =>
    e.wellFormed implicitProfileId containerType &&
      membersWellFormed implicitProfileId containerType es

end

namespace Elem

def tag : Elem → Tag
  | .prim tag _ => tag
  | .container tag _ _ => tag

def elemType : Elem → Nat
  | .prim _ p => p.elemType
  | .container _ kind _ => kind.elemType

/-- The value or length field. -/
def field : Elem → List UInt8
  | .prim _ p => p.field
  | .container _ _ _ => []

/-- What comes behind the head. -/
def body : Elem → List UInt8
  | .prim _ p => p.payload
  | .container _ _ members => encodeMembers members ++ endOfContainer

def head (e : Elem) : List UInt8 := encodeHead e.tag e.elemType e.field

theorem encode_eq (e : Elem) : e.encode = e.head ++ e.body := by
  cases e with
  | prim tag p => rw [encode]; rfl
  | container tag kind members => rw [encode]; rfl

theorem wellFormed_tag {ip : Nat} {containerType : TLVType} {e : Elem}
    (h : e.wellFormed ip containerType = true) :
    e.tag.allowedIn containerType = true ∧ e.tag.profileSpecified ip = true := by
  cases e with
  | prim tag p =>
    rw [wellFormed, Bool.and_eq_true] at h
    exact h
  | container tag kind members =>
    rw [wellFormed, Bool.and_eq_true, Bool.and_eq_true] at h
    exact h.1

end Elem

@[simp] theorem encodeMembers_nil : encodeMembers [] = [] := by rw [encodeMembers]

@[simp] theorem encodeMembers_cons (e : Elem) (es : List Elem) :
    encodeMembers (e :: es) = e.encode ++ encodeMembers es := by rw [encodeMembers]

end Matter.TLV
