import MatterDissector.Message.HintFile

/-!
# Hint lines

The lines that state a hint, in all spellings of the format (`key=<32-hex> [session=<id>]
[src=<node-id>]`): the order of the fields, their names, the case of the digits, the base of the
numbers, the separators and a comment are free.
-/

namespace Matter.Message

/-- What a line states. -/
structure Hint where
  key : List UInt8
  session : Option UInt16
  src : Option UInt64
  length_key : key.length = dataEncKeyLengthAES128CCM

inductive HintField where
  | key
  | session
  | src
  deriving DecidableEq, Repr

namespace HintField

/-- The names of a field. -/
def names : HintField → List Text
  | .key => [Text.lit "key", Text.lit "key_hex", Text.lit "enc_key"]
  | .session => [Text.lit "session", Text.lit "session_id", Text.lit "key_id"]
  | .src => [Text.lit "src", Text.lit "src_node", Text.lit "src_node_id"]

end HintField

/-- The fields of the line. -/
def Hint.fields (hint : Hint) : List HintField :=
  .key :: ((if hint.session.isSome then [.session] else []) ++
    if hint.src.isSome then [.src] else [])

/-! ## Spellings -/

/-- The capital of a hexadecimal digit. -/
def upcase (ch : UInt8) : UInt8 := if 97 ≤ ch ∧ ch ≤ 102 then ch - 32 else ch

/-- Digits in either case: capitals where `upper` says so. -/
def recase (upper : Nat → Bool) (t : Text) : Text :=
  t.mapIdx fun i ch => if upper i then upcase ch else ch

/-- A digit. -/
def digitByte (d : Nat) : UInt8 := UInt8.ofNat (Nat.digitChar d).toNat

/-- The two digits of a byte. -/
def byteHex (b : UInt8) : Text := [digitByte (b.toNat / 16), digitByte (b.toNat % 16)]

/-- A decimal number without leading zeros, or a hexadecimal one with any number of them. -/
inductive NumberSpelling where
  | decimal
  | hexadecimal (capitalX : Bool) (zeros : Nat) (upper : Nat → Bool)

def NumberSpelling.spell (n : Nat) : NumberSpelling → Text
  | .decimal => Text.dec n
  | .hexadecimal capitalX zeros upper =>
    48 :: (if capitalX then 88 else 120) :: (List.replicate zeros 48 ++ recase upper (Text.hex n))

/-- How the fields are named, and their values spelled. -/
structure FieldSpelling where
  name : HintField → Text
  name_mem : ∀ field, name field ∈ field.names
  upper : Nat → Bool
  session : NumberSpelling
  src : NumberSpelling

namespace FieldSpelling

def value (sp : FieldSpelling) (hint : Hint) : HintField → Text
  | .key => recase sp.upper (hint.key.flatMap byteHex)
  | .session => sp.session.spell (hint.session.elim 0 UInt16.toNat)
  | .src => sp.src.spell (hint.src.elim 0 UInt64.toNat)

def field (sp : FieldSpelling) (hint : Hint) (field : HintField) : Text :=
  sp.name field ++ 61 :: sp.value hint field

end FieldSpelling

/-! ## Lines -/

/-- Blank, tab, comma and semicolon. -/
def isSeparator (ch : UInt8) : Bool := ch ∈ ([32, 9, 44, 59] : Text)

/-- No comment, or one up to the end of the line. -/
def IsComment (t : Text) : Prop := t = [] ∨ ∃ text, t = 35 :: text

/-- The fields, each behind its separators, what separates them from the comment, and the
comment. -/
structure LineLayout where
  pieces : List (Text × HintField)
  trailing : Text
  comment : Text

namespace LineLayout

/-- The separators stand between all fields, and may stand in front of and behind them. -/
structure Lays (layout : LineLayout) (hint : Hint) : Prop where
  order : (layout.pieces.map Prod.snd).Perm hint.fields
  separators : ∀ p ∈ layout.pieces, ∀ ch ∈ p.1, isSeparator ch = true
  apart : ∀ p ∈ layout.pieces.tail, p.1 ≠ []
  trailing : ∀ ch ∈ layout.trailing, isSeparator ch = true
  comment : IsComment layout.comment

def format (layout : LineLayout) (sp : FieldSpelling) (hint : Hint) : Text :=
  (layout.pieces.flatMap fun p => p.1 ++ sp.field hint p.2) ++ layout.trailing ++ layout.comment

end LineLayout

end Matter.Message
