import MatterDissector.Display.Text
import MatterDissector.Message.Decrypt
import Mathlib.Data.List.DropRight

/-!
# Hint files

The text format of key hints (`packet-matter.cpp`): `ParseMatterProxyHintLine` and what it calls,
and the two loaders of the format, the `fgets` loop of `RefreshMatterProxyHintKeys` for a file and
`ParseMatterProxyHintBlob` for a decryption-secrets block. Character classes are those of the C
locale.
-/

namespace Matter.Message

/-! ## The C library -/

/-- `isspace`. -/
def isSpace (ch : UInt8) : Bool := ch ∈ ([9, 10, 11, 12, 13, 32] : Text)

/-- The value of a digit, in bases up to 16. -/
def digitValue (ch : UInt8) : Option Nat :=
  if 48 ≤ ch ∧ ch ≤ 57 then some (ch.toNat - 48)
  else if 97 ≤ ch ∧ ch ≤ 102 then some (ch.toNat - 87)
  else if 65 ≤ ch ∧ ch ≤ 70 then some (ch.toNat - 55)
  else none

def isDigitIn (base : Nat) (ch : UInt8) : Bool :=
  match digitValue ch with
  | some v => v < base
  | none => false

/-- `isxdigit`. -/
def isXDigit (ch : UInt8) : Bool := isDigitIn 16 ch

def numberIn (base : Nat) (digits : Text) : Nat :=
  digits.foldl (fun v ch => v * base + (digitValue ch).getD 0) 0

/-- The base that `strtoull` finds for the base 0, and the digits behind its prefix. -/
def detectBase (s : Text) : Nat × Text :=
  match s with
  | 48 :: x :: ch :: rest =>
    if (x = 120 ∨ x = 88) ∧ isXDigit ch then (16, ch :: rest) else (8, s)
  | 48 :: _ => (8, s)
  | _ => (10, s)

/-- A sign and what is behind it. -/
def splitSign (s : Text) : Bool × Text :=
  match s with
  | 45 :: rest => (true, rest)
  | 43 :: rest => (false, rest)
  | _ => (false, s)

/-- `strtoull(s, &end, 0)` if it sets no `errno`, and what `end` points at; `none` behind no
conversion at all. -/
def strtoull (s : Text) : Option (Nat × Text) :=
  let (negative, digits) := splitSign (s.dropWhile isSpace)
  let (base, digits) := detectBase digits
  let number := digits.takeWhile (isDigitIn base)
  let v := numberIn base number
  if number = [] ∨ 2 ^ 64 ≤ v then none
  else some (if negative then (2 ^ 64 - v) % 2 ^ 64 else v, digits.dropWhile (isDigitIn base))

/-! ## A line -/

/-- `TrimStr`. -/
def trimStr (s : Text) : Text := (s.dropWhile isSpace).rdropWhile isSpace

/-- `NormalizeHex`. -/
def normalizeHex (s : Text) : Text := s.filter isXDigit

/-- `ParseUIntAuto`. -/
def parseUIntAuto (s : Text) : Option Nat :=
  match strtoull (Text.cString s) with
  | some (v, []) => some v
  | _ => none

/-- The bytes of 32 hexadecimal digits. -/
def hexKeyBytes (hex : Text) : List UInt8 :=
  (List.range dataEncKeyLengthAES128CCM).map fun i =>
    UInt8.ofNat (numberIn 16 ((hex.drop (i * 2)).take 2))

theorem length_hexKeyBytes (hex : Text) :
    (hexKeyBytes hex).length = dataEncKeyLengthAES128CCM := by
  rw [hexKeyBytes, List.length_map, List.length_range]

/-- The texts of the fields of a line. -/
structure HintFields where
  keyField : Text := []
  sessionField : Text := []
  srcField : Text := []
  deriving DecidableEq, Repr

/-- One token of a line. -/
def HintFields.addToken (fields : HintFields) (tok : Text) : HintFields :=
  if 61 ∉ tok then if fields.keyField = [] then { fields with keyField := tok } else fields
  else
    let k := tok.takeWhile (· ≠ 61)
    let v := tok.drop (k.length + 1)
    if k ∈ [Text.lit "key", Text.lit "key_hex", Text.lit "enc_key"] then
      { fields with keyField := v }
    else if k ∈ [Text.lit "session", Text.lit "session_id", Text.lit "key_id"] then
      { fields with sessionField := v }
    else if k ∈ [Text.lit "src", Text.lit "src_node", Text.lit "src_node_id"] then
      { fields with srcField := v }
    else fields

/-- `while (iss >> tok)`. -/
def tokens (line : Text) : List Text := (line.splitOnP isSpace).filter (· ≠ [])

/-- The line in front of a comment, with blanks for the other separators, trimmed. -/
def hintText (lineRaw : Text) : Text :=
  let line := lineRaw.takeWhile (· ≠ 35)
  trimStr (line.map fun ch => if ch ∈ ([44, 59, 9] : Text) then 32 else ch)

/-- The hint that the fields make. -/
def HintFields.hintKey (fields : HintFields) : Option MatterProxyHintKey :=
  let hex := normalizeHex fields.keyField
  if hex.length ≠ dataEncKeyLengthAES128CCM * 2 then none
  else
    let session := (parseUIntAuto fields.sessionField).filter (· ≤ 0xFFFF)
    let src := parseUIntAuto fields.srcField
    some
      { hasKeyId := session.isSome
        keyId := session.getD 0
        hasSrcNodeId := src.isSome
        srcNodeId := src.getD 0
        key := hexKeyBytes hex
        length_key := length_hexKeyBytes hex }

/-- `ParseMatterProxyHintLine`. -/
def parseMatterProxyHintLine (lineRaw : Text) : Option MatterProxyHintKey :=
  let line := hintText lineRaw
  if line = [] then none else ((tokens line).foldl HintFields.addToken {}).hintKey

/-! ## Loaders -/

/-- `char line[1024]`. -/
def hintLineSize : Nat := 1024

/-- The length of the line in front, without its newline. -/
def lineLength (bytes : Text) : Nat := (bytes.takeWhile (· ≠ 10)).length

/-- `fgets(line, sizeof(line), fp)`: what it stores, and what is left of the file. -/
def fgets (bytes : Text) : Text × Text :=
  let n := min (hintLineSize - 1) (lineLength bytes + 1)
  (bytes.take n, bytes.drop n)

/-- `std::getline(iss, line)`. -/
def getline (bytes : Text) : Text × Text :=
  (bytes.take (lineLength bytes), bytes.drop (lineLength bytes + 1))

/-- `fuel` rounds of `while (read(line))`. -/
def readPieces (read : Text → Text × Text) : Nat → Text → List Text
  | 0, _ => []
  | _ + 1, [] => []
  | fuel + 1, b :: bytes =>
    (read (b :: bytes)).1 :: readPieces read fuel (read (b :: bytes)).2

/-- `while (read(line))`; every round takes a byte. -/
def readAll (read : Text → Text × Text) (bytes : Text) : List Text :=
  readPieces read bytes.length bytes

/-- The loop of `RefreshMatterProxyHintKeys`; the parser gets a terminated string. -/
def readMatterProxyHintFile (content : Text) : List MatterProxyHintKey :=
  (readAll fgets content).filterMap fun line => parseMatterProxyHintLine (Text.cString line)

/-- `ParseMatterProxyHintBlob`. -/
def parseMatterProxyHintBlob (data : Text) : List MatterProxyHintKey :=
  (readAll getline data).filterMap parseMatterProxyHintLine

/-- `MatterProxyHintSecretsBlockCallback`. -/
def DecryptState.matterProxyHintSecretsBlockCallback (st : DecryptState) (secrets : Text) :
    DecryptState :=
  let parsed := parseMatterProxyHintBlob secrets
  { st with
    hintKeysFromDSB := parsed
    keyTable := parsed.foldl KeyTable.preloadHintKey st.keyTable }

end Matter.Message
