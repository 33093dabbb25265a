import MatterDissector.Display.Tree

/-!
# The TLV dissector

`TLVDissector.cpp`. A `TLVDissector` is a reader that also knows the range of its current element
and the containers it has entered; `next`, `enterContainer` and `exitContainer` are its moves. The
methods that show elements run on a `DissectState`, which adds the log of the display calls.

The container stack is a list, its depth the length. `mLastItem` is passed on as a result
instead: every use of it follows the call that set it. `realloc` of the stack is taken to succeed.

Wireshark's display calls are taken to return, as they do while no tree is visible. In a visible
tree, `proto_tree_add_uint` and the like also assert that the field has a type for the value.
-/

namespace Matter.TLV

open Prog Display

structure ContainerContext where
  containerType : TLVType
  elemStart : Nat
  elemLen : Nat
  deriving DecidableEq, Repr

structure TLVDissector where
  reader : TLVReader
  sourceBufBaseOffset : Nat
  elemStart : Nat
  elemLen : Nat
  containerStack : List ContainerContext
  deriving DecidableEq, Repr

abbrev DissectorM := Prog MatterError Fault TLVDissector

namespace TLVDissector

/-- `Init(data, dataLen, sourceBufBaseOffset)`. -/
def init (data : List UInt8) (dataLen sourceBufBaseOffset : Nat) : TLVDissector where
  reader := .init data dataLen
  sourceBufBaseOffset
  elemStart := 0
  elemLen := 0
  containerStack := []

/-- A method of the base class. -/
def onReader {α : Type} (x : ReaderM α) : DissectorM α :=
  zoom TLVDissector.reader (fun reader d => { d with reader }) x

/-- A method of a copy of the base class. -/
def onReaderCopy {α : Type} (x : ReaderM α) : DissectorM (α × TLVReader) :=
  zoom TLVDissector.reader (fun _ d => d) (do return (← x, ← get))

def markElemStart : DissectorM Unit := do
  let d ← get
  verify (d.reader.getType = .notSpecified) .incorrectState
  modify fun d => { d with elemStart := d.reader.lenRead }

def markElemLength : DissectorM Unit := do
  let (_, readerCopy) ← onReaderCopy TLVReader.skip
  modify fun d => { d with elemLen := sub32 readerCopy.lenRead d.elemStart }

/-- What the two forms of `Next` share. -/
def nextBy (readNext : ReaderM Unit) : DissectorM Unit := do
  onReader TLVReader.skip
  markElemStart
  onReader readNext
  markElemLength

/-- `Next()`. -/
def next : DissectorM Unit := nextBy TLVReader.next

/-- `Next(expectedType, expectedTag)`. -/
def nextExpecting (expectedType : TLVType) (expectedTag : Nat) : DissectorM Unit :=
  nextBy (TLVReader.nextExpecting expectedType expectedTag)

def pushContainer (containerType : TLVType) : DissectorM Unit :=
  modify fun d => { d with
    containerStack := ⟨containerType, d.elemStart, d.elemLen⟩ :: d.containerStack }

def popContainer : DissectorM TLVType := do
  let d ← get
  match d.containerStack with
  | [] => pure .notSpecified
  | ⟨containerType, elemStart, elemLen⟩ :: containerStack => do
    modify fun d => { d with elemStart, elemLen, containerStack }
    pure containerType

def enterContainer : DissectorM Unit := do
  pushContainer (← onReader TLVReader.enterContainer)

def exitContainer : DissectorM Unit := do
  let containerType ← popContainer
  onReader (TLVReader.exitContainer containerType)

end TLVDissector

/-! ## Showing elements -/

/-- What the dissector uses of the C library and Wireshark beyond the display calls. -/
structure Host where
  /-- what memory holds that `realloc` has added -/
  uninit : Nat → UInt8
  /-- `ws_escape_string(NULL, s, TRUE)` -/
  wsEscapeString : Text → Text
  /-- `%g` -/
  formatG : TLVReader.FloatBits → Text
  /-- `%.17g` -/
  formatG17 : TLVReader.FloatBits → Text

/-- The dissector at work. `retried` counts the nested information blocks that could not be
decoded and were shown generically instead; nothing in the program reads it. -/
structure DissectState where
  tlv : TLVDissector
  log : List Drawn
  retried : Nat
  deriving DecidableEq, Repr

abbrev DissectM := Prog MatterError Fault DissectState

namespace DissectState

def start (tlv : TLVDissector) : DissectState := ⟨tlv, [], 0⟩

end DissectState

namespace Dissect

variable {α β : Type}

def onTlv (x : DissectorM α) : DissectM α :=
  zoom DissectState.tlv (fun tlv s => { s with tlv }) x

def onReader (x : ReaderM α) : DissectM α := onTlv (TLVDissector.onReader x)

def next : DissectM Unit := onTlv TLVDissector.next
def enterContainer : DissectM Unit := onTlv TLVDissector.enterContainer
def exitContainer : DissectM Unit := onTlv TLVDissector.exitContainer

def getType : DissectM TLVType := gets (·.tlv.reader.getType)
def getTag : DissectM Nat := gets (·.tlv.reader.getTag)
def getLength : DissectM Nat := gets (·.tlv.reader.getLength)

/-- A function on buffers, whose faults are the program's. -/
def checked (x : Except Fault α) : DissectM α :=
  match x with
  | .ok a => pure a
  | .error f => stop f

/-! ### Display calls -/

/-- Adds a call to the log; the result is its item. -/
def draw (call : Drawn) : DissectM ProtoNode := do
  let n ← gets (·.log.length)
  modify fun s => { s with log := s.log ++ [call] }
  pure (.drawn n)

/-- A `proto_tree_add_` function on the range of the current element. -/
def addShown (tree : ProtoNode) (hfindex : HeaderField) (shown : Shown) : DissectM ProtoNode := do
  let d ← gets (·.tlv)
  draw (.add tree hfindex ((d.elemStart + d.sourceBufBaseOffset) % 2 ^ 32) d.elemLen shown)

/-- `AddStringItemF`, when the formatted text is `text`. -/
def addStringItemF (tree : ProtoNode) (hfindex : HeaderField) (text : Text) : DissectM Unit := do
  let _ ← addShown tree hfindex (.stringValue text)
  pure ()

/-- `AddStringItemWithHeaderF`. -/
def addStringItemWithHeaderF (tree : ProtoNode) (hfindex : HeaderField) (text : Text) :
    DissectM Unit := do
  let _ ← addShown tree hfindex (.stringLine text)
  pure ()

/-- `AddSubTreeItem`: the subtree, which is the item as well. -/
def addSubTreeItem (tree : ProtoNode) (hfindex : HeaderField) (ett : Ett) :
    DissectM ProtoNode := do
  verify ((← getType) ≠ .notSpecified) .incorrectState
  let lastItem ← addShown tree hfindex .item
  let _ ← draw (.addSubtree lastItem ett)
  pure lastItem

/-- `AddSubTreeItemF`, when the formatted text is `text`. -/
def addSubTreeItemF (tree : ProtoNode) (hfindex : HeaderField) (ett : Ett) (text : Text) :
    DissectM ProtoNode := do
  let subTree ← addSubTreeItem tree hfindex ett
  let _ ← draw (.setText subTree text)
  pure subTree

/-! ### Values -/

/-- An unsigned number of `bits` bits as a signed one of as many. -/
def toInt32 (v : Int) : Int := (v + 2 ^ 31) % 2 ^ 32 - 2 ^ 31

/-- The bytes that `GetDataPtr` points at, `GetLength` of them. -/
def dataBytes : DissectM (List UInt8) := do
  let data ← onReader TLVReader.getDataPtr
  let len ← getLength
  let mem ← gets (·.tlv.reader.data)
  onReader (TLVReader.copyBytes mem data len)

/-- The switch of `AddTypedItem` on the type of the element. -/
def addTypedValue (tree : ProtoNode) (hfindex : HeaderField) : TLVType → DissectM Unit
  | .signedInteger => do
    let val ← onReader TLVReader.getInt64
    let fieldType := hfindex.ftype
    if fieldType ∈ [.int8, .int16, .int24, .int32] then
      let _ ← addShown tree hfindex (.int (toInt32 val))
    else if fieldType ∈ [.int40, .int48, .int56, .int64] then
      let _ ← addShown tree hfindex (.int64 val)
    else throw .invalidArgument
  | .unsignedInteger => do
    let val ← onReader TLVReader.getUInt64
    let fieldType := hfindex.ftype
    if fieldType ∈ [.uint8, .uint16, .uint24, .uint32] then
      let _ ← addShown tree hfindex (.uint (val % 2 ^ 32))
    else if fieldType ∈ [.uint40, .uint48, .uint56, .uint64] then
      let _ ← addShown tree hfindex (.uint64 val)
    else throw .invalidArgument
  | .boolean => do
    let val ← onReader TLVReader.getBool
    let _ ← addShown tree hfindex (.boolean val)
  | .floatingPointNumber => do
    let val ← onReader TLVReader.getDouble
    let _ ← addShown tree hfindex (.double val)
  | .utf8String => do
    let val ← onReader TLVReader.dupString
    let _ ← addShown tree hfindex (.string (Text.cString val))
  | .byteString => do
    let val ← dataBytes
    let _ ← addShown tree hfindex (.bytes val)
  | .null => do
    let _ ← addShown tree hfindex (.noneFormat (Text.lit "null"))
  | _ => throw .unexpectedTLVElement

/-- `AddTypedItem`. -/
def addTypedItem (tree : ProtoNode) (hfindex : HeaderField) : DissectM Unit := do
  addTypedValue tree hfindex (← getType)

/-! ### Members of containers -/

/-- What a round of `forMembers` does with the result of `Next`. -/
def memberRound (body : β → DissectM β) (b : β) : Except MatterError Unit → DissectM (β ⊕ β)
  | .ok () => Sum.inl <$> body b
  | .error .endOfTLV => pure (.inr b)
  | .error e => throw e

/-- `while (true) { err = Next(); if (err == MATTER_END_OF_TLV) break; SuccessOrExit(err); … }`. -/
def forMembers (body : β → DissectM β) (b : β) : DissectM β :=
  whileLoop (fun _ s => s.tlv.reader.unread) .outOfFuel
    (fun b => do memberRound body b (← attempt next)) b

/-- `AddListItem`. -/
def addListItem (tree : ProtoNode) (hfindex : HeaderField) (ett : Ett)
    (elemHandler : ProtoNode → DissectM Unit) : DissectM Unit := do
  let type ← getType
  verify (type = .array ∨ type = .path) .incorrectState
  let listItem ← addSubTreeItem tree hfindex ett
  enterContainer
  let elemCount ← forMembers (fun elemCount => do
    elemHandler listItem
    pure ((elemCount + 1) % 2 ^ 32)) 0
  exitContainer
  let _ ← draw (.appendText listItem
    (Text.lit " (len = " ++ Text.dec elemCount ++ Text.lit ")"))

/-! ### Generic rendering -/

section
variable (host : Host)

def append (text : Text) (strBuf : StrBuf) : DissectM StrBuf :=
  checked (strBuf.appendStringF host.uninit text)

/-- The tag in front of a value. The format for profile tags lacks the `%` of its last
conversion. -/
def appendTag (suppressTag : Bool) (tag : Nat) (strBuf : StrBuf) : DissectM StrBuf :=
  if suppressTag then pure strBuf
  else if isContextTag tag then
    append host (Text.dec (tagNumFromTag tag) ++ Text.lit " = ") strBuf
  else if isProfileTag tag then
    append host (Text.zeroPad 8 (Text.hexUpper (profileIdFromTag tag)) ++ Text.lit ":d = ") strBuf
  else pure strBuf

/-- The text of a number: with ".0" behind it if it has neither a point nor an exponent. -/
def floatText (val : TLVReader.FloatBits) : Text :=
  let valBuf := Text.cString (Text.snprintf 64 (host.formatG17 val))
  if 46 ∉ valBuf ∧ 101 ∉ valBuf ∧ 69 ∉ valBuf then valBuf ++ Text.lit ".0" else valBuf

/-- The value of the current element, or the bracket that opens it. -/
def appendValue (strBuf : StrBuf) : TLVType → DissectM StrBuf
  | .signedInteger => do
    append host (Text.decInt (← onReader TLVReader.getInt64)) strBuf
  | .unsignedInteger => do
    append host (Text.dec (← onReader TLVReader.getUInt64)) strBuf
  | .boolean => do
    let val ← onReader TLVReader.getBool
    append host (Text.lit (if val then "true" else "false")) strBuf
  | .floatingPointNumber => do
    append host (floatText host (← onReader TLVReader.getDouble)) strBuf
  | .utf8String => do
    let val ← onReader TLVReader.dupString
    append host (Text.cString (host.wsEscapeString (Text.cString val))) strBuf
  | .byteString => do
    (← dataBytes).foldlM (fun strBuf b =>
      append host (Text.lit " " ++ Text.zeroPad 2 (Text.hex b.toNat)) strBuf) strBuf
  | .null => append host (Text.lit "null") strBuf
  | .struct => append host (Text.lit "\x7b") strBuf
  | .array => append host (Text.lit "[") strBuf
  | .path => append host (Text.lit "<") strBuf
  | _ => throw .unexpectedTLVElement

/-- The line of an element: the value of the field, or the whole text of its item. -/
def addLine (tree : ProtoNode) (hfindex : HeaderField) (suppressHeader : Bool) (text : Text) :
    DissectM Unit :=
  if suppressHeader then addStringItemWithHeaderF tree hfindex text
  else addStringItemF tree hfindex text

def closeChar : TLVType → String
  | .struct => "\x7d"
  | .array => "]"
  | .path => ">"
  | _ => " "

/-- `AddGenericTLVItem` with all its arguments, to a depth of `depth` elements. -/
def addGenericTLVItemTo (tree : ProtoNode) (hfindex : HeaderField) :
    Nat → Bool → Bool → Nat → DissectM Unit
  | 0, _, _, _ => stop .outOfFuel
  | depth + 1, suppressTag, suppressHeader, indentLevel => do
    let type ← getType
    let tag ← getTag
    let indent := Text.lit "    "
    let strBuf ← checked (StrBuf.appendRepeated host.uninit indent
      (if suppressHeader then indentLevel else 0) none)
    let strBuf ← appendTag host suppressTag tag strBuf
    let strBuf ← appendValue host strBuf type
    let text ← checked strBuf.shown
    addLine tree hfindex suppressHeader text
    let strBuf ← checked strBuf.reset
    if type = .struct ∨ type = .array ∨ type = .path then do
      enterContainer
      forMembers (fun () =>
        addGenericTLVItemTo tree hfindex depth false true (indentLevel + 1)) ()
      exitContainer
      let strBuf ← checked (strBuf.appendRepeated host.uninit indent indentLevel)
      let strBuf ← append host (Text.lit (closeChar type)) strBuf
      addStringItemWithHeaderF tree hfindex (← checked strBuf.shown)
    else pure ()

/-- `AddGenericTLVItem(tree, hfindex, tvb, suppressTag, suppressHeader, indentLevel)`: elements
nest no deeper than there are bytes. -/
def addGenericTLVItemAt (tree : ProtoNode) (hfindex : HeaderField)
    (suppressTag suppressHeader : Bool) (indentLevel : Nat) : DissectM Unit := do
  let s ← get
  addGenericTLVItemTo host tree hfindex (s.tlv.reader.unread + 1) suppressTag suppressHeader
    indentLevel

/-- `AddGenericTLVItem(tree, hfindex, tvb, suppressTag)`. -/
def addGenericTLVItem (tree : ProtoNode) (hfindex : HeaderField) (suppressTag : Bool) :
    DissectM Unit :=
  addGenericTLVItemAt host tree hfindex suppressTag false 0

end

end Dissect

end Matter.TLV
