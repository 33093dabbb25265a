import MatterDissector.TLV.Proof.Traverse
import MatterDissector.TLV.Walk

/-!
# The walk undoes the encoding

At the head of a value the accessor for its type returns it and leaves the reader ready for the
next element (`Positioned.readValue_ok`), so the walk of the encoding of a forest finds its trees
and nothing else, without an error (`walk_encode`).
-/

namespace Matter.TLV

open Prog TLVReader

/-! ## Accessors -/

/-- `GetType` as a function of the element type. -/
def typeOf (elemType : Nat) : TLVType :=
  if elemType = ElementType.endOfContainer then .notSpecified
  else if elemType = ElementType.floatingPointNumber32
      ∨ elemType = ElementType.floatingPointNumber64 then .floatingPointNumber
  else if elemType = ElementType.notSpecified ∨ ElementType.null ≤ elemType then
    .ofElementType elemType
  else .ofElementType (elemType - (elemType &&& typeSizeMask))

theorem getType_eq (r : TLVReader) : r.getType = typeOf r.elementType := rfl

theorem Width.pow_bits (w : Width) : 256 ^ w.bytes = 2 ^ w.bits := by
  cases w <;> rfl

theorem Width.typeOf_eq (w : Width) :
    typeOf (ElementType.int8 + w.code) = .signedInteger ∧
      typeOf (ElementType.uint8 + w.code) = .unsignedInteger ∧
      typeOf (ElementType.utf8StringOneByteLength + w.code) = .utf8String ∧
      typeOf (0x10 + w.code) = .byteString := by
  cases w <;> decide

theorem Prim.typeOf_eq (p : Prim) : typeOf p.elemType = p.type := by
  cases p with
  | sint w v => exact w.typeOf_eq.1
  | uint w v => exact w.typeOf_eq.2.1
  | bool b =>
    have : ∀ b, typeOf (Prim.bool b).elemType = (Prim.bool b).type := by decide
    exact this b
  | float32 v => show typeOf ElementType.floatingPointNumber32 = .floatingPointNumber; decide
  | float64 v => show typeOf ElementType.floatingPointNumber64 = .floatingPointNumber; decide
  | utf8 w s => exact w.typeOf_eq.2.2.1
  | bytes w s => exact w.typeOf_eq.2.2.2
  | null => decide

theorem ContainerKind.typeOf_eq (kind : ContainerKind) : typeOf kind.elemType = kind.type := by
  cases kind <;> decide

/-- The sign extension of a narrow number, as an `int64_t`. -/
theorem toInt64_signExtend64 {n : Nat} (v : BitVec n) (hpos : 0 < n) (hn : n ≤ 32) :
    toInt64 (signExtend64 n v.toNat) = v.toInt := by
  have hlt := v.isLt
  have hpow : 2 ^ n = 2 * 2 ^ (n - 1) := by
    rw [← Nat.pow_succ', Nat.succ_eq_add_one, Nat.sub_add_cancel hpos]
  have hle : 2 ^ n ≤ 2 ^ 32 := Nat.pow_le_pow_right (by decide) hn
  have hcut : 2 * v.toNat < 2 ^ n ↔ v.toNat < 2 ^ (n - 1) := by omega
  rw [BitVec.toInt_eq_toNat_cond, signExtend64, Nat.mod_eq_of_lt hlt, toInt64]
  by_cases hneg : v.toNat < 2 ^ (n - 1)
  · rw [if_pos hneg, if_pos (hcut.2 hneg), if_pos (by omega)]
  · rw [if_neg hneg, if_neg (fun h => hneg (hcut.1 h)), if_neg (by omega)]
    have : (2 : Int) ^ n = ((2 ^ n : Nat) : Int) := by norm_cast
    omega

theorem toInt64_toNat (v : BitVec 64) : toInt64 v.toNat = v.toInt := by
  have hlt := v.isLt
  rw [BitVec.toInt_eq_toNat_cond, toInt64]
  split <;> split <;> omega

section
variable {data rest : List UInt8} {ip : Nat} {containerType : TLVType} {r : TLVReader}

/-- A string whose bytes are consumed. -/
theorem At.ready_consumed (h : At data ip containerType rest r)
    (hlen : tlvTypeHasLength r.elementType = true) (hzero : r.elemLenOrVal = 0) :
    Ready data ip containerType rest r := by
  have hrange := tlvTypeHasLength_iff.1 hlen
  have hend : r.elementType ≠ ElementType.endOfContainer := by
    show r.elementType ≠ 0x18; omega
  have hcont : ¬ tlvTypeIsContainer r.elementType = true := by
    rw [tlvTypeIsContainer_iff]; omega
  have hskip : skipData.run r = .ok () (r.advance 0) := by
    rw [skipData_eq h.inBounds, if_pos hlen, hzero, Nat.zero_mod, if_pos (Nat.zero_le _)]
  refine ⟨(r.advance 0).clearElementState, ?_, (@At.advance _ _ _ _ _ [] h).clear,
    cleared_clearElementState _⟩
  rw [skip, gets_bind, if_neg hend, if_neg hcont, bind_ok hskip]
  rfl

section
variable {tag : Tag} {p : Prim} (h : Positioned data ip containerType (.prim tag p) rest r)
include h

theorem Positioned.getType_prim : r.getType = p.type := by
  rw [getType_eq, h.elementType_eq]
  exact p.typeOf_eq

theorem Positioned.getUInt64_uint {w : Width} {v : BitVec w.bits} (hp : p = .uint w v) :
    getUInt64.run r = .ok v.toNat r := by
  subst hp
  have hlt : v.toNat < 256 ^ w.bytes := by
    rw [w.pow_bits]; exact v.isLt
  have hval : r.elemLenOrVal = v.toNat := h.elemLenOrVal_eq.trans (LE.value_bytes hlt)
  have htype : r.elementType = 4 + w.code := h.elementType_eq
  rw [getUInt64, get_bind, htype, hval]
  cases w <;> rfl

theorem Positioned.getInt64_sint {w : Width} {v : BitVec w.bits} (hp : p = .sint w v) :
    getInt64.run r = .ok v.toInt r := by
  subst hp
  have hlt : v.toNat < 256 ^ w.bytes := by
    rw [w.pow_bits]; exact v.isLt
  have hval : r.elemLenOrVal = v.toNat := h.elemLenOrVal_eq.trans (LE.value_bytes hlt)
  have htype : r.elementType = 0 + w.code := h.elementType_eq
  have hget : getUInt64.run r =
      .ok (if w = .eight then v.toNat else signExtend64 w.bits v.toNat) r := by
    rw [getUInt64, get_bind, htype, hval]
    cases w <;> rfl
  rw [getInt64, bind_ok hget, run_pure]
  congr 1
  cases w with
  | one => exact toInt64_signExtend64 (n := 8) v (by decide) (by decide)
  | two => exact toInt64_signExtend64 (n := 16) v (by decide) (by decide)
  | four => exact toInt64_signExtend64 (n := 32) v (by decide) (by decide)
  | eight => exact toInt64_toNat v

theorem Positioned.getBool_bool {b : Bool} (hp : p = .bool b) : getBool.run r = .ok b r := by
  subst hp
  have htype : r.elementType = Prim.elemType (.bool b) := h.elementType_eq
  rw [getBool, gets_bind, htype]
  cases b <;> rfl

theorem Positioned.getDouble_float {bits : FloatBits} (hp : p.value = .float bits) :
    getDouble.run r = .ok bits r := by
  have htype : r.elementType = p.elemType := h.elementType_eq
  have hval : r.elemLenOrVal = LE.value p.field := h.elemLenOrVal_eq
  rw [getDouble, get_bind, htype, hval]
  cases p with
  | float32 v =>
    have hv := v.isLt
    cases hp
    show Outcome.ok (FloatBits.float (LE.value (LE.bytes 4 v.toNat) % 2 ^ 32)) r = _
    rw [LE.value_bytes (by omega), Nat.mod_eq_of_lt hv]
  | float64 v =>
    have hv := v.isLt
    cases hp
    show Outcome.ok (FloatBits.double (LE.value (LE.bytes 8 v.toNat))) r = _
    rw [LE.value_bytes (by omega)]
  | _ => cases hp

/-- A string, by either way; a pointer to an empty one needs a byte behind it. -/
theorem Positioned.readString_ok (hlen : tlvTypeHasLength p.elemType = true)
    {usePtr : TLVReader → Bool} (hptr : usePtr r = true → r.readPoint ≠ r.bufEnd)
    (hwf : Elem.wellFormed ip containerType (.prim tag p) = true) :
    ∃ r', (readString usePtr).run r = .ok p.payload r' ∧ Ready data ip containerType rest r' := by
  have htype : r.elementType = p.elemType := h.elementType_eq
  have hat : At data ip containerType (p.payload ++ rest) r := h.at_body
  have hstr : tlvTypeIsString r.elementType = true := by rw [htype]; exact hlen
  have hbytes : r.data.drop r.readPoint = p.payload ++ rest := by
    rw [hat.inBounds.data_eq]; exact hat.drop_eq
  obtain ⟨-, hval, hlt⟩ | ⟨hno, -⟩ := p.length_payload
  · have hlv : r.elemLenOrVal % 2 ^ 32 = p.payload.length := by
      rw [h.elemLenOrVal_eq]
      show LE.value p.field % 2 ^ 32 = _
      rw [hval, Nat.mod_eq_of_lt hlt]
    have hfit : p.payload.length ≤ r.unread := by
      rw [hat.unread_eq, List.length_append]; omega
    rw [readString, get_bind]
    by_cases huse : usePtr r = true
    · rw [if_pos huse]
      have hget : getDataPtr.run r = .ok r.readPoint r := by
        rw [getDataPtr, get_bind, hstr, bind_ok (run_verify_true _ _),
          bind_ok (ensureData_ok (hptr huse)), hlv, hat.inBounds.sub32_bufEnd,
          decide_eq_true hfit, bind_ok (run_verify_true _ _)]
        rfl
      have hgetLen : r.getLength = p.payload.length := by
        rw [getLength, htype, if_pos hlen, hlv]
      refine ⟨r, ?_, h.ready hwf⟩
      rw [bind_ok hget, run_pure, hbytes, hgetLen, List.take_left]
    · rw [if_neg huse]
      have hread := readData_eq hat.inBounds .external p.payload.length (fun he => by cases he)
      rw [if_pos hfit] at hread
      have hcopy : copied .external r p.payload.length = p.payload := by
        show (r.data.drop r.readPoint).take p.payload.length = _
        rw [hbytes, List.take_left]
      refine ⟨{ r.advance p.payload.length with elemLenOrVal := 0 }, ?_,
        At.ready_consumed (hat.advance.withHead ⟨r.controlByte, r.elemTag, 0⟩) ?_ rfl⟩
      · rw [dupBytes, get_bind, hstr, bind_ok (run_verify_true _ _), hlv, bind_ok hread, hcopy]
        rfl
      · exact hstr
  · rw [hno] at hlen; cases hlen

/-- The accessor for the type of a value returns it. -/
theorem Positioned.readValue_ok {usePtr : TLVReader → Bool}
    (hptr : usePtr r = true → r.readPoint ≠ r.bufEnd)
    (hwf : Elem.wellFormed ip containerType (.prim tag p) = true) :
    ∃ r', (readValue usePtr).run r = .ok p.value r' ∧ Ready data ip containerType rest r' := by
  have hready := h.ready hwf
  rw [readValue, get_bind, h.getType_prim]
  cases hp : p with
  | sint w v => exact ⟨r, map_ok (h.getInt64_sint hp), hready⟩
  | uint w v => exact ⟨r, map_ok (h.getUInt64_uint hp), hready⟩
  | bool b => exact ⟨r, map_ok (h.getBool_bool hp), hready⟩
  | float32 v => exact ⟨r, map_ok (h.getDouble_float (by rw [hp]; rfl)), hready⟩
  | float64 v => exact ⟨r, map_ok (h.getDouble_float (by rw [hp]; rfl)), hready⟩
  | utf8 w s =>
    subst hp
    obtain ⟨r', hrun, hready'⟩ := h.readString_ok w.hasLength_eq.2.2.1 hptr hwf
    exact ⟨r', map_ok hrun, hready'⟩
  | bytes w s =>
    subst hp
    obtain ⟨r', hrun, hready'⟩ := h.readString_ok w.hasLength_eq.2.2.2 hptr hwf
    exact ⟨r', map_ok hrun, hready'⟩
  | null => exact ⟨r, rfl, hready⟩

end

end

/-! ## The walk -/

/-- What the walk meets behind the members: the end of their container, or of the buffer. -/
def MembersEnd (containerType : TLVType) (tail rest : List UInt8) : Prop :=
  (containerType ≠ .notSpecified ∧ tail = endOfContainer ++ rest) ∨ (tail = [] ∧ rest = [])

/-- Behind the last member: the end that `Next` has reported. -/
structure Ended (data : List UInt8) (ip : Nat) (containerType : TLVType) (tail rest : List UInt8)
    (r : TLVReader) : Prop where
  at_rest : At data ip containerType rest r
  elementType_eq : tail ≠ [] → r.elementType = ElementType.endOfContainer

theorem Ready.next_ended {data tail rest : List UInt8} {ip : Nat} {containerType : TLVType}
    {r : TLVReader} (h : Ready data ip containerType tail r)
    (hend : MembersEnd containerType tail rest) :
    ∃ r', next.run r = .err .endOfTLV r' ∧ Ended data ip containerType tail rest r' := by
  rcases hend with ⟨hcontainer, rfl⟩ | ⟨rfl, rfl⟩
  · obtain ⟨r', hnext, hat, htype⟩ := h.next_end hcontainer
    exact ⟨r', hnext, hat, fun _ => htype⟩
  · obtain ⟨r', hnext, hat, -⟩ := h.next_empty
    exact ⟨r', hnext, hat, fun hne => absurd rfl hne⟩

theorem Elem.encode_length_pos (e : Elem) : 0 < e.encode.length := by
  rw [Elem.encode_eq, Elem.head, encodeHead, List.length_append, List.length_cons]
  omega

section
variable {usePtr : TLVReader → Bool} (hptr : ∀ r, usePtr r = true → r.readPoint ≠ r.bufEnd)
  {data : List UInt8} {ip : Nat}
include hptr

set_option linter.unusedSectionVars false

mutual

/-- The walk of one element finds its tree and is ready for the next one. -/
theorem walk_elem : ∀ (e : Elem) {fuel : Nat} {containerType : TLVType} {rest : List UInt8}
    {r : TLVReader}, Positioned data ip containerType e rest r →
      e.wellFormed ip containerType = true → e.encode.length ≤ fuel →
      ∃ r', (walkNode usePtr fuel).run r = .ok (e.node ip) r' ∧
        Ready data ip containerType rest r'
  | .prim tag p, fuel, containerType, rest, r, h, hwf, hfuel => by
    have hpos := Elem.encode_length_pos (.prim tag p)
    obtain ⟨fuel, rfl⟩ : ∃ n, fuel = n + 1 := ⟨fuel - 1, by omega⟩
    have hnot : ¬ tlvTypeIsContainer r.elementType = true := by
      have hlt := p.elemType_lt
      rw [h.elementType_eq, tlvTypeIsContainer_iff]
      show ¬ (0x15 ≤ p.elemType ∧ p.elemType ≤ 0x17)
      omega
    obtain ⟨r', hvalue, hready⟩ := h.readValue_ok (hptr r) hwf
    refine ⟨r', ?_, hready⟩
    rw [walkNode, get_bind, if_neg hnot, bind_ok hvalue, run_pure, h.getType_prim, getTag,
      h.elemTag_eq, Elem.node]
    rfl
  | .container tag kind members, fuel, containerType, rest, r, h, hwf, hfuel => by
    have hlen : (Elem.encode (.container tag kind members)).length =
        (encodeHead tag kind.elemType []).length + (encodeMembers members).length + 1 := by
      rw [Elem.encode, List.length_append, List.length_append, Nat.add_assoc]
      rfl
    have hhead : 0 < (encodeHead tag kind.elemType []).length := by
      rw [encodeHead, List.length_cons]; omega
    obtain ⟨fuel, rfl⟩ : ∃ n, fuel = n + 1 := ⟨fuel - 1, by omega⟩
    obtain ⟨-, hcont, -, -, -, hbase⟩ := kind.elemType_spec
    have hmembers : membersWellFormed ip kind.type members = true := by
      rw [Elem.wellFormed, Bool.and_eq_true] at hwf; exact hwf.2
    have htype : r.getType = kind.type := by
      rw [getType_eq, h.elementType_eq]; exact kind.typeOf_eq
    obtain ⟨r₁, henter, hclear, hat₁⟩ := h.enter_ok
    obtain ⟨r₂, hwalk, hended⟩ := walk_members members (hat₁.ready hclear) hmembers
      (.inl ⟨hbase, rfl⟩) (by omega : _ < fuel)
    obtain ⟨r₃, hexit, hat₃, hclear₃⟩ :=
      hended.at_rest.exit_end (hended.elementType_eq (List.cons_ne_nil _ _)) containerType
    refine ⟨r₃, ?_, hat₃.ready hclear₃⟩
    rw [walkNode, get_bind, if_pos (by rw [h.elementType_eq]; exact hcont), bind_ok henter,
      bind_ok hwalk, bind_ok hexit, run_pure, htype, getTag, h.elemTag_eq, Elem.node]
    rfl

/-- The walk of the members finds their trees and reports no error at their end. -/
theorem walk_members : ∀ (es : List Elem) {fuel : Nat} {containerType : TLVType}
    {tail rest : List UInt8} {r : TLVReader},
      Ready data ip containerType (encodeMembers es ++ tail) r →
      membersWellFormed ip containerType es = true → MembersEnd containerType tail rest →
      (encodeMembers es).length < fuel →
      ∃ r', (walkMembers usePtr fuel).run r = .ok (memberNodes ip es) r' ∧
        Ended data ip containerType tail rest r'
  | [], fuel, containerType, tail, rest, r, h, _, hend, hfuel => by
    obtain ⟨fuel, rfl⟩ : ∃ n, fuel = n + 1 := ⟨fuel - 1, by omega⟩
    rw [encodeMembers_nil, List.nil_append] at h
    obtain ⟨r', hnext, hended⟩ := h.next_ended hend
    refine ⟨r', ?_, hended⟩
    rw [walkMembers, bind_ok (attempt_err hnext), memberNodes]
    rfl
  | e :: es, fuel, containerType, tail, rest, r, h, hwf, hend, hfuel => by
    have hpos := e.encode_length_pos
    rw [encodeMembers_cons, List.length_append] at hfuel
    rw [encodeMembers_cons, List.append_assoc] at h
    rw [membersWellFormed, Bool.and_eq_true] at hwf
    obtain ⟨fuel, rfl⟩ : ∃ n, fuel = n + 1 := ⟨fuel - 1, by omega⟩
    obtain ⟨r₁, hnext, hpos₁⟩ := h.next_elem hwf.1
    obtain ⟨r₂, hnode, hready₂⟩ := walk_elem e hpos₁ hwf.1 (by omega : _ ≤ fuel)
    obtain ⟨r₃, hwalk, hended⟩ := walk_members es hready₂ hwf.2 hend (by omega : _ < fuel)
    refine ⟨r₃, ?_, hended⟩
    rw [walkMembers, bind_ok (attempt_ok hnext)]
    dsimp only
    rw [bind_ok hnode, bind_ok hwalk, run_pure, memberNodes]

end

end

/-- The walk of an encoded forest finds its trees, without an error and up to the last byte. -/
theorem walk_encode (ip : Nat) (hip : ip < 2 ^ 32) (usePtr : TLVReader → Bool)
    (hptr : ∀ r, usePtr r = true → r.readPoint ≠ r.bufEnd) (es : List Elem)
    (hwf : membersWellFormed ip .notSpecified es = true)
    (hlen : (encodeMembers es).length < 2 ^ 32) :
    ∃ r, (walk usePtr).run
        { init (encodeMembers es) (encodeMembers es).length with implicitProfileId := ip } =
      .ok (memberNodes ip es) r ∧ r.readPoint = (encodeMembers es).length := by
  have hat : At (encodeMembers es) ip .notSpecified (encodeMembers es ++ [])
      { init (encodeMembers es) (encodeMembers es).length with implicitProfileId := ip } :=
    ⟨(InBounds.init hlen).congr rfl rfl rfl rfl rfl, rfl, hip, rfl, (List.append_nil _).symm⟩
  have hunread := hat.unread_eq
  rw [List.append_nil] at hunread
  obtain ⟨r, hwalk, hended⟩ := walk_members hptr es (hat.ready (if_pos rfl)) hwf
    (.inr ⟨rfl, rfl⟩) (Nat.lt_succ_self _)
  refine ⟨r, ?_, ?_⟩
  · rw [walk, get_bind, hunread]
    exact hwalk
  · have hnil := hended.at_rest.drop_eq
    have hle := hended.at_rest.inBounds.readPoint_le
    rw [List.drop_eq_nil_iff] at hnil
    omega

/-- A structure with a negative number and an array of a string. -/
def sampleTree : Elem :=
  .container .anonymous .struct
    [.prim (.context 1) (.sint .two 0xFFFE),
      .container (.full6 1 2 3) .array
        [.prim .anonymous (.utf8 .one ⟨[0x41], by decide, by decide⟩)]]

theorem walk_encode_sample :
    (0 < 2 ^ 32 ∧
      (∀ r : TLVReader, decide (r.readPoint ≠ r.bufEnd) = true → r.readPoint ≠ r.bufEnd) ∧
      membersWellFormed 0 .notSpecified [sampleTree] = true ∧
      (encodeMembers [sampleTree]).length < 2 ^ 32) ∧
    ∃ r, (walk fun r => decide (r.readPoint ≠ r.bufEnd)).run
        { init (encodeMembers [sampleTree]) (encodeMembers [sampleTree]).length with
          implicitProfileId := 0 } = .ok (memberNodes 0 [sampleTree]) r ∧
      r.readPoint = (encodeMembers [sampleTree]).length :=
  ⟨⟨by decide, fun _ h => of_decide_eq_true h, by decide, by decide⟩,
    walk_encode 0 (by decide) _ (fun _ h => of_decide_eq_true h) [sampleTree] (by decide)
      (by decide)⟩

end Matter.TLV
