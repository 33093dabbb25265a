import MatterDissector.TLV.Dissector
import MatterDissector.TLV.Walk

/-!
# The lines of a tree

`Elem.lines`: a tree on lines of its own, with given texts for tags and values. A line for each
element in pre-order, four blanks for each level, and brackets around the members of a container.
`Elem.prettyLines` is the reference: a tag is shown as its number, a profile tag as profile and
number, and a value in full.
-/

namespace Matter.TLV

open Display

namespace Tag

/-- The profile of a tag that has one. -/
def profileId (implicitProfileId : Nat) : Tag → Nat
  | .implicit2 _ | .implicit4 _ => implicitProfileId
  | .full6 vendor profile _ | .full8 vendor profile _ => vendor.toNat * 2 ^ 16 + profile.toNat
  | _ => commonProfileId

def num : Tag → Nat
  | .anonymous => 0
  | .context num => num.toNat
  | .common2 num | .implicit2 num | .full6 _ _ num => num.toNat
  | .common4 num | .implicit4 num | .full8 _ _ num => num.toNat

/-- What stands in front of a value: nothing, `num = ` or `profile:num = `. -/
def text (implicitProfileId : Nat) (tag : Tag) : Text :=
  if tag.isAnonymous then []
  else if tag.isContext then Text.dec tag.num ++ Text.lit " = "
  else Text.zeroPad 8 (Text.hexUpper (tag.profileId implicitProfileId)) ++
    (Text.lit ":" ++ (Text.dec tag.num ++ Text.lit " = "))

end Tag

/-- A byte of a byte string. -/
def byteText (b : UInt8) : Text := Text.lit " " ++ Text.zeroPad 2 (Text.hex b.toNat)

def Prim.text (host : Host) : Prim → Text
  | .sint _ v => Text.decInt v.toInt
  | .uint _ v => Text.dec v.toNat
  | .bool b => Text.lit (if b then "true" else "false")
  | .float32 v => Dissect.floatText host (.float v.toNat)
  | .float64 v => Dissect.floatText host (.double v.toNat)
  | .utf8 _ s => host.wsEscapeString s.bytes
  | .bytes _ s => s.bytes.flatMap byteText
  | .null => Text.lit "null"

namespace ContainerKind

def opening : ContainerKind → Text
  | .struct => Text.lit "\x7b"
  | .array => Text.lit "["
  | .path => Text.lit "<"

def closing : ContainerKind → Text
  | .struct => Text.lit "\x7d"
  | .array => Text.lit "]"
  | .path => Text.lit ">"

end ContainerKind

def indentation (level : Nat) : Text := (List.replicate level (Text.lit "    ")).flatten

section
variable (tagText : Tag → Text) (valueText : Prim → Text)

mutual

def Elem.lines (level : Nat) : Elem → List Text
  | .prim tag p => [indentation level ++ (tagText tag ++ valueText p)]
  | .container tag kind members =>
    (indentation level ++ (tagText tag ++ kind.opening)) ::
      (memberLines (level + 1) members ++ [indentation level ++ kind.closing])

def memberLines (level : Nat) : List Elem → List Text
  | [] => []
  | e :: es => e.lines level ++ memberLines level es

end

end

/-- The reference. -/
def Elem.prettyLines (host : Host) (implicitProfileId level : Nat) (e : Elem) : List Text :=
  e.lines (Tag.text implicitProfileId) (Prim.text host) level

/-! ## Trees of two printers -/

section
variable {tagText tagText' : Tag → Text} {valueText valueText' : Prim → Text}

theorem memberLines_eq (level : Nat) (es : List Elem) :
    memberLines tagText valueText level es = es.flatMap (Elem.lines tagText valueText level) := by
  induction es with
  | nil => rw [memberLines]; rfl
  | cons e es ih => rw [memberLines, ih]; rfl

mutual

/-- The number of lines is that of the tree. -/
theorem Elem.length_lines : ∀ (e : Elem) (level : Nat),
    (e.lines tagText valueText level).length = (e.lines tagText' valueText' level).length
  | .prim tag p, level => by
    rw [Elem.lines, Elem.lines]
    rfl
  | .container tag kind members, level => by
    have hmembers := length_memberLines members (level + 1)
    rw [Elem.lines, Elem.lines]
    apply congrArg Nat.succ
    rw [List.length_append, List.length_append, hmembers]

theorem length_memberLines : ∀ (es : List Elem) (level : Nat),
    (memberLines tagText valueText level es).length =
      (memberLines tagText' valueText' level es).length
  | [], level => by rw [memberLines, memberLines]
  | e :: es, level => by
    rw [memberLines, memberLines, List.length_append, List.length_append, e.length_lines level,
      length_memberLines es level]

end

mutual

/-- What is asked of the tags and values of a tree. -/
def Elem.All (tagOk : Tag → Prop) (primOk : Tag → Prim → Prop) : Elem → Prop
  | .prim tag p => primOk tag p
  | .container tag _ members => tagOk tag ∧ AllMembers tagOk primOk members

def AllMembers (tagOk : Tag → Prop) (primOk : Tag → Prim → Prop) : List Elem → Prop
  | [] => True
  | e :: es => e.All tagOk primOk ∧ AllMembers tagOk primOk es

end

theorem AllMembers.of_mem {tagOk : Tag → Prop} {primOk : Tag → Prim → Prop} :
    ∀ {es : List Elem}, AllMembers tagOk primOk es → ∀ e ∈ es, e.All tagOk primOk
  | [], _, e, he => by cases he
  | e' :: es, h, e, he => by
    rw [AllMembers] at h
    rcases List.mem_cons.1 he with rfl | he
    · exact h.1
    · exact h.2.of_mem e he

mutual

/-- Two printers agree on a tree when they do on each of its elements. -/
theorem Elem.lines_eq_iff : ∀ (e : Elem) (level : Nat),
    e.lines tagText valueText level = e.lines tagText' valueText' level ↔
      e.All (fun tag => tagText tag = tagText' tag)
        fun tag p => tagText tag ++ valueText p = tagText' tag ++ valueText' p
  | .prim tag p, level => by
    rw [Elem.lines, Elem.lines, Elem.All, List.cons_eq_cons, List.append_cancel_left_eq]
    exact and_iff_left rfl
  | .container tag kind members, level => by
    rw [Elem.lines, Elem.lines, Elem.All, List.cons_eq_cons, List.append_cancel_left_eq,
      List.append_cancel_right_eq, List.append_cancel_right_eq, memberLines_eq_iff members]

theorem memberLines_eq_iff : ∀ (es : List Elem) (level : Nat),
    memberLines tagText valueText level es = memberLines tagText' valueText' level es ↔
      AllMembers (fun tag => tagText tag = tagText' tag)
        (fun tag p => tagText tag ++ valueText p = tagText' tag ++ valueText' p) es
  | [], level => by
    rw [memberLines, memberLines, AllMembers]
    exact iff_of_true rfl trivial
  | e :: es, level => by
    rw [memberLines, memberLines, AllMembers, ← e.lines_eq_iff level,
      ← memberLines_eq_iff es level]
    constructor
    · intro h
      exact List.append_inj h (e.length_lines level)
    · rintro ⟨he, hes⟩
      rw [he, hes]

end

end

/-! ## Members -/

/-- `members` are those of a container in the tree. -/
inductive Siblings : Elem → ContainerKind → List Elem → Prop
  | here {tag : Tag} {kind : ContainerKind} {members : List Elem} :
    Siblings (.container tag kind members) kind members
  | inside {tag : Tag} {kind kind' : ContainerKind} {members members' : List Elem} {e : Elem} :
    e ∈ members → Siblings e kind' members' → Siblings (.container tag kind members) kind' members'

/-- The same element with another tag. -/
def Elem.withTag (tag : Tag) : Elem → Elem
  | .prim _ p => .prim tag p
  | .container _ kind members => .container tag kind members

theorem Siblings.all {tagOk : Tag → Prop} {primOk : Tag → Prim → Prop} {e : Elem}
    {kind : ContainerKind} {members : List Elem} (h : Siblings e kind members)
    (hall : e.All tagOk primOk) : ∀ m ∈ members, m.All tagOk primOk := by
  induction h with
  | here =>
    rw [Elem.All] at hall
    exact hall.2.of_mem
  | inside he _ ih =>
    rw [Elem.All] at hall
    exact ih (hall.2.of_mem _ he)

/-- Where tags are shown differently, so are elements that have nothing else in common. -/
theorem Elem.tagText_eq_of_lines {tagText : Tag → Text} {valueText : Prim → Text} {level : Nat}
    {tag : Tag} {e : Elem}
    (h : e.lines tagText valueText level = (e.withTag tag).lines tagText valueText level) :
    tagText e.tag = tagText tag := by
  cases e with
  | prim tag' p =>
    rw [Elem.withTag, Elem.lines, Elem.lines, List.cons_eq_cons, List.append_cancel_left_eq,
      List.append_cancel_right_eq] at h
    exact h.1
  | container tag' kind members =>
    rw [Elem.withTag, Elem.lines, Elem.lines, List.cons_eq_cons, List.append_cancel_left_eq,
      List.append_cancel_right_eq] at h
    exact h.1

end Matter.TLV
