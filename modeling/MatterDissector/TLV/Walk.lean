import MatterDissector.TLV.Encoding
import MatterDissector.TLV.Reader

/-!
# Walking a buffer

A client that reads a whole buffer: `Next` until `MATTER_END_OF_TLV`, `EnterContainer` and
`ExitContainer` around the members of a container, an accessor for the value of every other
element. `Elem.node` is what it should find in the encoding of a tree.
-/

namespace Matter.TLV

open Prog

/-- What an accessor returns. -/
inductive Value where
  | int (v : Int)
  | uint (v : Nat)
  | bool (b : Bool)
  | float (v : TLVReader.FloatBits)
  | string (bytes : List UInt8)
  | null
  deriving DecidableEq, Repr

/-- What the walk has found: type and tag of every element, and its value or its members. -/
inductive Node where
  | leaf (type : TLVType) (tag : Nat) (value : Value)
  | container (type : TLVType) (tag : Nat) (members : List Node)

namespace TLVReader

/-- A string, by pointer or by copy. -/
def readString (usePtr : TLVReader → Bool) : ReaderM (List UInt8) := do
  let r ← get
  if usePtr r then do
    let p ← getDataPtr
    pure ((r.data.drop p).take r.getLength)
  else dupBytes

/-- The value of an element that is no container. -/
def readValue (usePtr : TLVReader → Bool) : ReaderM Value := do
  let r ← get
  match r.getType with
  | .signedInteger => .int <$> getInt64
  | .unsignedInteger => .uint <$> getUInt64
  | .boolean => .bool <$> getBool
  | .floatingPointNumber => .float <$> getDouble
  | .utf8String | .byteString => .string <$> readString usePtr
  | .null => pure .null
  | _ => throw .wrongTLVType

mutual

/-- The element that the reader is on; `fuel` bounds the number of its members. -/
def walkNode (usePtr : TLVReader → Bool) : Nat → ReaderM Node
  | 0 => stop .outOfFuel
  | fuel + 1 => do
    let r ← get
    if tlvTypeIsContainer r.elementType then
      let outerContainerType ← enterContainer
      let members ← walkMembers usePtr fuel
      exitContainer outerContainerType
      pure (.container r.getType r.getTag members)
    else
      let value ← readValue usePtr
      pure (.leaf r.getType r.getTag value)

/-- The elements up to the end of the container or buffer. -/
def walkMembers (usePtr : TLVReader → Bool) : Nat → ReaderM (List Node)
  | 0 => stop .outOfFuel
  | fuel + 1 => do
    match ← attempt next with
    | .error .endOfTLV => pure []
    | .error e => throw e
    | .ok () =>
      let node ← walkNode usePtr fuel
      let nodes ← walkMembers usePtr fuel
      pure (node :: nodes)

end

/-- The walk of what is left of the buffer. -/
def walk (usePtr : TLVReader → Bool) : ReaderM (List Node) := do
  let r ← get
  walkMembers usePtr (r.unread + 1)

end TLVReader

/-! ## What is in a tree -/

namespace Prim

def type : Prim → TLVType
  | .sint .. => .signedInteger
  | .uint .. => .unsignedInteger
  | .bool _ => .boolean
  | .float32 _ | .float64 _ => .floatingPointNumber
  | .utf8 .. => .utf8String
  | .bytes .. => .byteString
  | .null => .null

def value : Prim → Value
  | .sint _ v => .int v.toInt
  | .uint _ v => .uint v.toNat
  | .bool b => .bool b
  | .float32 v => .float (.float v.toNat)
  | .float64 v => .float (.double v.toNat)
  | .utf8 _ s => .string s.bytes
  | .bytes _ s => .string s.bytes
  | .null => .null

end Prim

mutual

def Elem.node (implicitProfileId : Nat) : Elem → Node
  | .prim tag p => .leaf p.type (tag.value implicitProfileId) p.value
  | .container tag kind members =>
    .container kind.type (tag.value implicitProfileId) (memberNodes implicitProfileId members)

def memberNodes (implicitProfileId : Nat) : List Elem → List Node
  | [] => []
  | e :: es => e.node implicitProfileId :: memberNodes implicitProfileId es

end

end Matter.TLV
