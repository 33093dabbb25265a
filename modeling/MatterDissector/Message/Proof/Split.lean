import MatterDissector.Message.Proof.Header
import MatterDissector.Message.Proof.Tail

/-!
# The protocol header and the payload

`dissectBody_split`: what `DissectMatter` makes of the body of a message, decrypted or not. The
first pass over the protocol header and the second one end at `6 + 2 * vBit`; the acknowledged
counter is read and shown behind it once, so the payload starts at `6 + 2 * vBit + 4 * aBit`. The
range check of the item that shows the payload makes up for the subtraction that `payloadLen` may
wrap in: header, payload and trailer are the whole body, except that a payload of 64 KiB or more is
cut to 16 bits, which only an unencrypted message can have.
-/

namespace Matter.Message

open Prog

/-! ## The header of a body -/

/-- The exchange flags, the first byte of a body. -/
def exchangeFlags (tvb : Tvb) : Nat := LE.value (tvb.bytes.take 1)

def vBit (exchHeader : Nat) : Nat := if exchHeader &&& exchangeFlagVendorProtocol ≠ 0 then 1 else 0

def aBit (exchHeader : Nat) : Nat := if exchHeader &&& exchangeFlagAckId ≠ 0 then 1 else 0

/-- The number of `k` bytes at `offset`. -/
def numberAt (tvb : Tvb) (k offset : Nat) : Nat := LE.value ((tvb.bytes.drop offset).take k)

section
variable {tvb : Tvb} {s s' : ProtocolState} {k offset length v : Nat} {field : ProtocolField}

theorem getLE_run (h : offset + k ≤ tvb.bytes.length) :
    (tvb.getLE k offset : ProtocolM Nat).run s = .ok (numberAt tvb k offset) s := by
  rw [Tvb.getLE, if_pos h]
  rfl

theorem getLE_eq_ok : (tvb.getLE k offset : ProtocolM Nat).run s = .ok v s' ↔
    offset + k ≤ tvb.bytes.length ∧ v = numberAt tvb k offset ∧ s' = s := by
  by_cases h : offset + k ≤ tvb.bytes.length
  · rw [getLE_run h]
    simp [h, eq_comm]
  · rw [Tvb.getLE, if_neg h]
    simp [h]

theorem addItem_run (h : offset + length ≤ tvb.bytes.length) :
    ∃ items, (addItem tvb field offset length).run s = .ok () { s with items } := by
  refine ⟨s.items ++ [⟨field, offset, (tvb.bytes.drop offset).take length⟩], ?_⟩
  rw [addItem, Tvb.getBytes, if_pos h]
  rfl

theorem le_of_addItem (h : (addItem tvb field offset length).run s = .ok () s') :
    offset + length ≤ tvb.bytes.length ∧ s'.info = s.info := by
  by_cases hle : offset + length ≤ tvb.bytes.length
  · obtain ⟨items, hrun⟩ := @addItem_run tvb s offset length field hle
    rw [hrun] at h
    cases h
    exact ⟨hle, rfl⟩
  · rw [addItem_err s (Nat.lt_of_not_le hle)] at h
    cases h

theorem addItems_run (h : offset + length ≤ tvb.bytes.length) (fields : List ProtocolField) :
    ∀ {s : ProtocolState}, ∃ items,
      (fields.forM fun field => addItem tvb field offset length).run s = .ok () { s with items } := by
  induction fields with
  | nil => exact fun {s} => ⟨s.items, rfl⟩
  | cons field fields ih =>
    intro s
    obtain ⟨items, hrun⟩ := @addItem_run tvb s offset length field h
    obtain ⟨items', hrest⟩ := @ih { s with items }
    exact ⟨items', (bind_ok hrun).trans hrest⟩

/-! ### The two passes -/

/-- What the first pass stores. -/
def ProtocolInfo.withHeader (info : ProtocolInfo) (tvb : Tvb) : ProtocolInfo :=
  { info with
    exchHeader := exchangeFlags tvb
    msgType := numberAt tvb 1 1
    exchId := numberAt tvb 2 2
    msgProtocolId := numberAt tvb 2 4
    msgProtocolVendorId :=
      if exchangeFlags tvb &&& exchangeFlagVendorProtocol ≠ 0 then numberAt tvb 2 6
      else info.msgProtocolVendorId }

theorem readVendorId_run {exchHeader parsePoint : Nat}
    (h : parsePoint + 2 * vBit exchHeader ≤ tvb.bytes.length) :
    (readVendorId tvb exchHeader parsePoint).run s = .ok (parsePoint + 2 * vBit exchHeader)
      { s with info := { s.info with
        msgProtocolVendorId :=
          if exchHeader &&& exchangeFlagVendorProtocol ≠ 0 then numberAt tvb 2 parsePoint
          else s.info.msgProtocolVendorId } } := by
  unfold readVendorId
  unfold vBit at h ⊢
  by_cases hv : exchHeader &&& exchangeFlagVendorProtocol ≠ 0
  · rw [if_pos hv] at h
    rw [if_pos hv, if_pos hv, if_pos hv, bind_ok (getLE_run (by omega)), setInfo, modify_bind]
    rfl
  · rw [if_neg hv, if_neg hv, if_neg hv]
    rfl

theorem readProtocolHeader_run (h : 6 + 2 * vBit (exchangeFlags tvb) ≤ tvb.bytes.length) :
    ∃ items, (readProtocolHeader tvb).run s =
      .ok (exchangeFlags tvb, 6 + 2 * vBit (exchangeFlags tvb))
        { info := s.info.withHeader tvb, items } := by
  unfold readProtocolHeader
  rw [bind_ok (getLE_run (by omega : 0 + 1 ≤ tvb.bytes.length))]
  have hflags : numberAt tvb 1 0 = exchangeFlags tvb := rfl
  rw [hflags, setInfo, modify_bind]
  obtain ⟨items, hitems⟩ := @addItems_run tvb 0 1 (by omega)
    [.exchangeHeader, .vFlag, .sxFlag, .rFlag, .aFlag, .iFlag]
    { s with info := { s.info with exchHeader := exchangeFlags tvb } }
  refine ⟨items, ?_⟩
  rw [bind_ok hitems, bind_ok (getLE_run (by omega)), setInfo, modify_bind,
    bind_ok (getLE_run (by omega)), setInfo, modify_bind, bind_ok (getLE_run (by omega)), setInfo,
    modify_bind]
  exact bind_ok (readVendorId_run h)

/-- The first pass proves that the header is there. -/
theorem le_of_readProtocolHeader {p : Nat × Nat} (h : (readProtocolHeader tvb).run s = .ok p s') :
    6 + 2 * vBit (exchangeFlags tvb) ≤ tvb.bytes.length := by
  unfold readProtocolHeader at h
  obtain ⟨flags, s₁, hflags, h⟩ := bind_eq_ok.1 h
  obtain ⟨-, rfl, -⟩ := getLE_eq_ok.1 hflags
  obtain ⟨_, s₂, -, h⟩ := bind_eq_ok.1 h
  obtain ⟨_, s₃, -, h⟩ := bind_eq_ok.1 h
  obtain ⟨_, s₄, -, h⟩ := bind_eq_ok.1 h
  obtain ⟨_, s₅, -, h⟩ := bind_eq_ok.1 h
  obtain ⟨_, s₆, -, h⟩ := bind_eq_ok.1 h
  obtain ⟨_, s₇, -, h⟩ := bind_eq_ok.1 h
  obtain ⟨_, s₈, hprotocolId, h⟩ := bind_eq_ok.1 h
  obtain ⟨hle, -, -⟩ := getLE_eq_ok.1 hprotocolId
  obtain ⟨_, s₉, -, h⟩ := bind_eq_ok.1 h
  obtain ⟨_, s₁₀, hvendor, -⟩ := bind_eq_ok.1 h
  unfold vBit
  by_cases hv : exchangeFlags tvb &&& exchangeFlagVendorProtocol ≠ 0
  · rw [readVendorId, if_pos (show numberAt tvb 1 0 &&& exchangeFlagVendorProtocol ≠ 0 from hv)]
      at hvendor
    obtain ⟨_, s₁₁, hread, -⟩ := bind_eq_ok.1 hvendor
    obtain ⟨hle', -, -⟩ := getLE_eq_ok.1 hread
    rw [if_pos hv]
    omega
  · rw [if_neg hv]
    omega

theorem showProtocolHeader_run {exchHeader : Nat} (h : 6 + 2 * vBit exchHeader ≤ tvb.bytes.length) :
    ∃ items, (showProtocolHeader tvb exchHeader).run s =
      .ok (6 + 2 * vBit exchHeader) { s with items } := by
  unfold showProtocolHeader
  obtain ⟨items₁, h₁⟩ := @addItem_run tvb s 1 1 .protocolOpcode (by omega)
  obtain ⟨items₂, h₂⟩ := @addItem_run tvb { s with items := items₁ } (1 + 1) 2 .exchangeId (by omega)
  obtain ⟨items₃, h₃⟩ := @addItem_run tvb { s with items := items₂ } (1 + 1 + 2) 2 .protocolId
    (by omega)
  rw [bind_ok h₁, bind_ok h₂, bind_ok h₃, showVendorId]
  unfold vBit at h ⊢
  by_cases hv : exchHeader &&& exchangeFlagVendorProtocol ≠ 0
  · rw [if_pos hv] at h ⊢
    obtain ⟨items₄, h₄⟩ := @addItem_run tvb { s with items := items₃ } (1 + 1 + 2 + 2) 2
      .protocolVendorId (by omega)
    rw [if_pos hv, bind_ok h₄]
    exact ⟨items₄, rfl⟩
  · rw [if_neg hv, if_neg hv]
    exact ⟨items₃, rfl⟩

/-! ### The acknowledged counter -/

def ProtocolInfo.withAck (info : ProtocolInfo) (tvb : Tvb) (exchHeader parsePoint : Nat) :
    ProtocolInfo :=
  { info with
    ackMsgCntr :=
      if exchHeader &&& exchangeFlagAckId ≠ 0 then numberAt tvb 4 parsePoint
      else info.ackMsgCntr }

theorem dissectAckMsgCntr_run {exchHeader parsePoint : Nat}
    (h : parsePoint + 4 * aBit exchHeader ≤ tvb.bytes.length) :
    ∃ items, (dissectAckMsgCntr tvb exchHeader parsePoint).run s =
      .ok (parsePoint + 4 * aBit exchHeader)
        { info := s.info.withAck tvb exchHeader parsePoint, items } := by
  unfold dissectAckMsgCntr ProtocolInfo.withAck
  unfold aBit at h ⊢
  by_cases ha : exchHeader &&& exchangeFlagAckId ≠ 0
  · rw [if_pos ha] at h
    obtain ⟨items, hitem⟩ := @addItem_run tvb
      { s with info := { s.info with ackMsgCntr := numberAt tvb 4 parsePoint } } parsePoint 4
      .ackMsgCntr (by omega)
    refine ⟨items, ?_⟩
    rw [if_pos ha, if_pos ha, if_pos ha, bind_ok (getLE_run (by omega)), setInfo, modify_bind,
      bind_ok hitem]
    rfl
  · rw [if_neg ha, if_neg ha, if_neg ha]
    exact ⟨s.items, rfl⟩

theorem le_of_dissectAckMsgCntr {exchHeader parsePoint payloadOffset : Nat}
    (hpoint : parsePoint ≤ tvb.bytes.length)
    (h : (dissectAckMsgCntr tvb exchHeader parsePoint).run s = .ok payloadOffset s') :
    parsePoint + 4 * aBit exchHeader ≤ tvb.bytes.length := by
  unfold aBit
  by_cases ha : exchHeader &&& exchangeFlagAckId ≠ 0
  · rw [dissectAckMsgCntr, if_pos ha] at h
    obtain ⟨_, s₁, hread, -⟩ := bind_eq_ok.1 h
    obtain ⟨hle, -, -⟩ := getLE_eq_ok.1 hread
    rw [if_pos ha]
    omega
  · rw [if_neg ha]
    omega

/-! ### The payload -/

/-- `payloadLen`, where the trailer lies behind `payloadOffset`. -/
theorem payloadLen_of_le {n payloadOffset trailerLen : Nat} (h : payloadOffset + trailerLen ≤ n) :
    sub32 n (payloadOffset + trailerLen) % 2 ^ 16 = (n - (payloadOffset + trailerLen)) % 2 ^ 16 := by
  unfold sub32
  omega

theorem showPayload_run {parsePoint payloadLen : Nat}
    (h : parsePoint + payloadLen ≤ tvb.bytes.length) :
    ∃ items, (showPayload tvb parsePoint payloadLen).run s = .ok () { s with items } := by
  by_cases hpos : payloadLen ≠ 0
  · rw [showPayload, if_pos hpos]
    exact addItem_run h
  · rw [showPayload, if_neg hpos]
    exact ⟨s.items, rfl⟩

theorem showIntegrityCheck_run {encrypted : Bool} {parsePoint : Nat}
    (h : encrypted = true → parsePoint + cryptoTagLength ≤ tvb.bytes.length) :
    ∃ items, (showIntegrityCheck tvb encrypted parsePoint).run s = .ok () { s with items } := by
  cases encrypted with
  | true => exact addItem_run (h rfl)
  | false => exact ⟨s.items, rfl⟩

/-- The trailer of an encrypted message is its tag, another one has none. -/
def TrailerOf (encrypted : Bool) (s : ProtocolState) : Prop :=
  s.info.trailerLen = if encrypted then cryptoTagLength else 0

theorem dissectPayload_run {encrypted : Bool} {payloadOffset : Nat} (htrailer : TrailerOf encrypted s)
    (h : payloadOffset + s.info.trailerLen ≤ tvb.bytes.length) :
    ∃ items, (dissectPayload tvb encrypted payloadOffset).run s = .ok ()
      { info := { s.info with
          payloadLen := (tvb.bytes.length - (payloadOffset + s.info.trailerLen)) % 2 ^ 16 }
        items } := by
  have hlen := payloadLen_of_le h
  have hmod := Nat.mod_le (tvb.bytes.length - (payloadOffset + s.info.trailerLen)) (2 ^ 16)
  unfold dissectPayload setInfo
  rw [gets_bind, hlen, modify_bind]
  generalize (tvb.bytes.length - (payloadOffset + s.info.trailerLen)) % 2 ^ 16 = payloadLen at *
  obtain ⟨items, hpayload⟩ := @showPayload_run tvb
    { s with info := { s.info with payloadLen } } payloadOffset payloadLen (by omega)
  obtain ⟨items', hcheck⟩ := @showIntegrityCheck_run tvb
    { info := { s.info with payloadLen }, items } encrypted (payloadOffset + payloadLen) (by
      intro hencrypted
      rw [TrailerOf, hencrypted, if_pos rfl] at htrailer
      omega)
  refine ⟨items', ?_⟩
  rw [bind_ok hpayload, hcheck]

/-- What is shown proves that header and trailer are there. -/
theorem le_of_dissectPayload {encrypted : Bool} {payloadOffset : Nat}
    (htrailer : TrailerOf encrypted s) (hoffset : payloadOffset ≤ tvb.bytes.length)
    (h : (dissectPayload tvb encrypted payloadOffset).run s = .ok () s') :
    payloadOffset + s.info.trailerLen ≤ tvb.bytes.length := by
  cases encrypted with
  | false =>
    rw [TrailerOf, if_neg Bool.false_ne_true] at htrailer
    omega
  | true =>
    rw [TrailerOf, if_pos rfl] at htrailer
    unfold dissectPayload setInfo at h
    rw [gets_bind, modify_bind] at h
    obtain ⟨_, s₁, -, hcheck⟩ := bind_eq_ok.1 h
    have hle := (le_of_addItem (show (addItem tvb .integrityCheck _ cryptoTagLength).run s₁ =
      .ok () s' from hcheck)).1
    omega

/-! ### The whole body -/

/-- Where the passes over the header of a body end: both at `6 + 2 * v`, and the acknowledged
counter, if there is one, behind that. -/
def PassesEnd (tvb : Tvb) (s : ProtocolState) (v a : Nat) : Prop :=
  ∃ s₁ s₂ s₃, (readProtocolHeader tvb).run s = .ok (exchangeFlags tvb, 6 + 2 * v) s₁ ∧
    (showProtocolHeader tvb (exchangeFlags tvb)).run s₁ = .ok (6 + 2 * v) s₂ ∧
    (dissectAckMsgCntr tvb (exchangeFlags tvb) (6 + 2 * v)).run s₂ = .ok (6 + 2 * v + 4 * a) s₃

/-- What is stored of the body in the end. -/
def ProtocolInfo.withBody (info : ProtocolInfo) (tvb : Tvb) : ProtocolInfo :=
  let exchHeader := exchangeFlags tvb
  let payloadOffset := 6 + 2 * vBit exchHeader + 4 * aBit exchHeader
  { (info.withHeader tvb).withAck tvb exchHeader (6 + 2 * vBit exchHeader) with
    payloadLen := (tvb.bytes.length - (payloadOffset + info.trailerLen)) % 2 ^ 16 }

theorem payloadLen_withBody (info : ProtocolInfo) : (info.withBody tvb).payloadLen =
    (tvb.bytes.length - (6 + 2 * vBit (exchangeFlags tvb) + 4 * aBit (exchangeFlags tvb) +
      info.trailerLen)) % 2 ^ 16 := rfl

/-- Header, payload and trailer are the whole body. -/
def WholeBody (body : Tvb) (payloadOffset : Nat) (info : ProtocolInfo) : Prop :=
  payloadOffset + info.payloadLen + info.trailerLen = body.bytes.length

section
variable {encrypted : Bool} (htrailer : TrailerOf encrypted s)
include htrailer

/-- A body that holds the header and the trailer. -/
theorem dissectProtocol_run
    (h : 6 + 2 * vBit (exchangeFlags tvb) + 4 * aBit (exchangeFlags tvb) + s.info.trailerLen ≤
      tvb.bytes.length) :
    PassesEnd tvb s (vBit (exchangeFlags tvb)) (aBit (exchangeFlags tvb)) ∧
      ∃ items, (dissectProtocol tvb encrypted).run s =
        .ok (6 + 2 * vBit (exchangeFlags tvb) + 4 * aBit (exchangeFlags tvb))
          { info := s.info.withBody tvb, items } := by
  obtain ⟨items₁, h₁⟩ := @readProtocolHeader_run tvb s (by omega)
  obtain ⟨items₂, h₂⟩ := @showProtocolHeader_run tvb
    { info := s.info.withHeader tvb, items := items₁ } (exchangeFlags tvb) (by omega)
  obtain ⟨items₃, h₃⟩ := @dissectAckMsgCntr_run tvb
    { info := s.info.withHeader tvb, items := items₂ } (exchangeFlags tvb)
    (6 + 2 * vBit (exchangeFlags tvb)) (by omega)
  refine ⟨⟨_, _, _, h₁, h₂, h₃⟩, ?_⟩
  obtain ⟨items₄, h₄⟩ := @dissectPayload_run tvb
    { info := (s.info.withHeader tvb).withAck tvb (exchangeFlags tvb)
        (6 + 2 * vBit (exchangeFlags tvb)), items := items₃ }
    encrypted (6 + 2 * vBit (exchangeFlags tvb) + 4 * aBit (exchangeFlags tvb))
    htrailer h
  refine ⟨items₄, ?_⟩
  unfold dissectProtocol
  rw [bind_ok h₁]
  dsimp only
  rw [bind_ok h₂, bind_ok h₃, bind_ok h₄]
  rfl

/-- A body that is dissected holds the header and the trailer. -/
theorem le_of_dissectProtocol {payloadOffset : Nat}
    (h : (dissectProtocol tvb encrypted).run s = .ok payloadOffset s') :
    6 + 2 * vBit (exchangeFlags tvb) + 4 * aBit (exchangeFlags tvb) + s.info.trailerLen ≤
      tvb.bytes.length := by
  unfold dissectProtocol at h
  obtain ⟨p, s₁, hread, h⟩ := bind_eq_ok.1 h
  have hheader := le_of_readProtocolHeader hread
  obtain ⟨items₁, h₁⟩ := @readProtocolHeader_run tvb s hheader
  rw [h₁] at hread
  cases hread
  dsimp only at h
  obtain ⟨items₂, h₂⟩ := @showProtocolHeader_run tvb
    { info := s.info.withHeader tvb, items := items₁ } (exchangeFlags tvb) hheader
  rw [bind_ok h₂] at h
  obtain ⟨offset, s₃, hack, h⟩ := bind_eq_ok.1 h
  have hle := le_of_dissectAckMsgCntr hheader hack
  obtain ⟨items₃, h₃⟩ := @dissectAckMsgCntr_run tvb
    { info := s.info.withHeader tvb, items := items₂ } (exchangeFlags tvb)
    (6 + 2 * vBit (exchangeFlags tvb)) hle
  rw [h₃] at hack
  cases hack
  obtain ⟨_, s₄, hpayload, -⟩ := bind_eq_ok.1 h
  have htrailer' : TrailerOf encrypted
      { info := (s.info.withHeader tvb).withAck tvb (exchangeFlags tvb)
          (6 + 2 * vBit (exchangeFlags tvb)), items := items₃ } := htrailer
  have hfit := le_of_dissectPayload htrailer' hle hpayload
  exact hfit

/-- The length of the payload is cut to 16 bits, and does not wrap below zero. -/
theorem wholeBody_iff {payloadOffset : Nat}
    (h : (dissectProtocol tvb encrypted).run s = .ok payloadOffset s') :
    WholeBody tvb payloadOffset s'.info ↔
      tvb.bytes.length < payloadOffset + s'.info.trailerLen + 2 ^ 16 := by
  have hfit := le_of_dissectProtocol htrailer h
  obtain ⟨-, items, hrun⟩ := dissectProtocol_run htrailer hfit
  rw [h] at hrun
  obtain ⟨hoffset, hs⟩ := Outcome.ok.inj hrun
  rw [← hoffset] at hfit
  have hpayload : s'.info.payloadLen =
      (tvb.bytes.length - (payloadOffset + s.info.trailerLen)) % 2 ^ 16 := by
    rw [hs, hoffset, payloadLen_withBody]
  have htrailerLen : s'.info.trailerLen = s.info.trailerLen := by
    rw [hs]
    rfl
  rw [WholeBody, hpayload, htrailerLen]
  omega

end

end

/-! ## The wire format -/

/-- A protocol header without secure extensions: V and A say whether there are a vendor id and an
acknowledged counter. -/
structure ProtocolHeader where
  exchangeFlags : UInt8
  opcode : UInt8
  exchangeId : UInt16
  protocolId : UInt16
  vendorId : Option UInt16
  ackCounter : Option UInt32
  noExtensions : exchangeFlags &&& 0x08 = 0
  vendorId_iff : exchangeFlags.toNat &&& exchangeFlagVendorProtocol ≠ 0 ↔ vendorId.isSome = true
  ackCounter_iff : exchangeFlags.toNat &&& exchangeFlagAckId ≠ 0 ↔ ackCounter.isSome = true

namespace ProtocolHeader

def fixedPart (h : ProtocolHeader) : List UInt8 :=
  LE.bytes 1 h.exchangeFlags.toNat ++ LE.bytes 1 h.opcode.toNat ++ LE.bytes 2 h.exchangeId.toNat ++
    LE.bytes 2 h.protocolId.toNat

def encodeVendorId (h : ProtocolHeader) : List UInt8 :=
  match h.vendorId with
  | none => []
  | some id => LE.bytes 2 id.toNat

def encodeAckCounter (h : ProtocolHeader) : List UInt8 :=
  match h.ackCounter with
  | none => []
  | some counter => LE.bytes 4 counter.toNat

def encode (h : ProtocolHeader) : List UInt8 := h.fixedPart ++ h.encodeVendorId ++ h.encodeAckCounter

/-- The V flag. -/
def v (h : ProtocolHeader) : Nat := if h.vendorId.isSome then 1 else 0

/-- The A flag. -/
def a (h : ProtocolHeader) : Nat := if h.ackCounter.isSome then 1 else 0

/-- `info` has the fields of `h`. -/
structure Recovered (h : ProtocolHeader) (info : ProtocolInfo) : Prop where
  exchHeader_eq : info.exchHeader = h.exchangeFlags.toNat
  msgType_eq : info.msgType = h.opcode.toNat
  exchId_eq : info.exchId = h.exchangeId.toNat
  msgProtocolId_eq : info.msgProtocolId = h.protocolId.toNat
  msgProtocolVendorId_eq : info.msgProtocolVendorId = h.vendorId.elim 0 UInt16.toNat
  ackMsgCntr_eq : info.ackMsgCntr = h.ackCounter.elim 0 UInt32.toNat

variable (h : ProtocolHeader)

@[simp] theorem length_fixedPart : h.fixedPart.length = 6 := by simp [fixedPart]

@[simp] theorem length_encodeVendorId : h.encodeVendorId.length = 2 * h.v := by
  unfold encodeVendorId v
  cases h.vendorId <;> simp

@[simp] theorem length_encodeAckCounter : h.encodeAckCounter.length = 4 * h.a := by
  unfold encodeAckCounter a
  cases h.ackCounter <;> simp

@[simp] theorem length_encode : h.encode.length = 6 + 2 * h.v + 4 * h.a := by
  simp [encode, Nat.add_assoc]

theorem vBit_eq : vBit h.exchangeFlags.toNat = h.v := by
  simp only [vBit, v, h.vendorId_iff]

theorem aBit_eq : aBit h.exchangeFlags.toNat = h.a := by
  simp only [aBit, a, h.ackCounter_iff]

end ProtocolHeader

section
variable {tvb : Tvb} {h : ProtocolHeader} {rest : List UInt8}

/-- A number that was written in the body. -/
theorem numberAt_bytes {k v offset : Nat} (pre post : List UInt8)
    (hbytes : tvb.bytes = pre ++ LE.bytes k v ++ post) (hpre : pre.length = offset)
    (hv : v < 256 ^ k) : numberAt tvb k offset = v := by
  have hrun := Tvb.getLE_bytes pre post () hbytes hpre hv
  have hle : offset + k ≤ tvb.bytes.length := by
    rw [hbytes]
    simp
    omega
  rw [Tvb.getLE, if_pos hle] at hrun
  cases hrun
  rfl

variable (hbytes : tvb.bytes = h.encode ++ rest)
include hbytes

theorem exchangeFlags_encode : exchangeFlags tvb = h.exchangeFlags.toNat := by
  have hlt := h.exchangeFlags.toNat_lt
  rw [ProtocolHeader.encode, ProtocolHeader.fixedPart] at hbytes
  exact numberAt_bytes [] _ (by simp only [hbytes, List.append_assoc, List.nil_append]; rfl) rfl
    (by omega)

/-- The fields of the fixed part. -/
theorem numberAt_fixedPart :
    numberAt tvb 1 1 = h.opcode.toNat ∧ numberAt tvb 2 2 = h.exchangeId.toNat ∧
      numberAt tvb 2 4 = h.protocolId.toNat := by
  have hopcode := h.opcode.toNat_lt
  have hexchange := h.exchangeId.toNat_lt
  have hprotocol := h.protocolId.toNat_lt
  rw [ProtocolHeader.encode, ProtocolHeader.fixedPart] at hbytes
  simp only [List.append_assoc] at hbytes
  refine ⟨?_, ?_, ?_⟩
  · exact numberAt_bytes (LE.bytes 1 h.exchangeFlags.toNat) _
      (by rw [hbytes]; simp only [List.append_assoc]; rfl) (by simp) (by omega)
  · exact numberAt_bytes (LE.bytes 1 h.exchangeFlags.toNat ++ LE.bytes 1 h.opcode.toNat) _
      (by rw [hbytes]; simp only [List.append_assoc]; rfl) (by simp) (by omega)
  · exact numberAt_bytes (LE.bytes 1 h.exchangeFlags.toNat ++ LE.bytes 1 h.opcode.toNat ++
      LE.bytes 2 h.exchangeId.toNat) _
      (by rw [hbytes]; simp only [List.append_assoc]; rfl) (by simp) (by omega)

/-- The vendor id, where there is one. -/
theorem numberAt_vendorId {id : UInt16} (hid : h.vendorId = some id) :
    numberAt tvb 2 6 = id.toNat := by
  have hlt := id.toNat_lt
  rw [ProtocolHeader.encode, ProtocolHeader.encodeVendorId, hid] at hbytes
  exact numberAt_bytes h.fixedPart _ (by rw [hbytes]; simp only [List.append_assoc]; rfl) (by simp)
    (by omega)

/-- The acknowledged counter, where there is one. -/
theorem numberAt_ackCounter {counter : UInt32} (hcounter : h.ackCounter = some counter) :
    numberAt tvb 4 (6 + 2 * h.v) = counter.toNat := by
  have hlt := counter.toNat_lt
  rw [ProtocolHeader.encode, ProtocolHeader.encodeAckCounter, hcounter] at hbytes
  exact numberAt_bytes (h.fixedPart ++ h.encodeVendorId) rest hbytes (by simp) (by omega)

theorem vBit_encode : vBit (exchangeFlags tvb) = h.v := by
  rw [exchangeFlags_encode hbytes, h.vBit_eq]

theorem aBit_encode : aBit (exchangeFlags tvb) = h.a := by
  rw [exchangeFlags_encode hbytes, h.aBit_eq]

/-- What is stored of an encoded header. -/
theorem recovered_withBody {info : ProtocolInfo} (hvendor : info.msgProtocolVendorId = 0)
    (hack : info.ackMsgCntr = 0) : h.Recovered (info.withBody tvb) := by
  obtain ⟨hopcode, hexchange, hprotocol⟩ := numberAt_fixedPart hbytes
  have hflags := exchangeFlags_encode hbytes
  have hv := h.vendorId_iff
  have ha := h.ackCounter_iff
  refine ⟨hflags, hopcode, hexchange, hprotocol, ?_, ?_⟩
  · show (if exchangeFlags tvb &&& exchangeFlagVendorProtocol ≠ 0 then numberAt tvb 2 6
      else info.msgProtocolVendorId) = _
    rw [hflags]
    cases hid : h.vendorId with
    | none =>
      rw [hid] at hv
      rw [if_neg (by simpa using hv)]
      exact hvendor
    | some id =>
      rw [hid] at hv
      rw [if_pos (hv.2 rfl)]
      exact numberAt_vendorId hbytes hid
  · show (if exchangeFlags tvb &&& exchangeFlagAckId ≠ 0 then
      numberAt tvb 4 (6 + 2 * vBit (exchangeFlags tvb)) else info.ackMsgCntr) = _
    rw [vBit_encode hbytes, hflags]
    cases hcounter : h.ackCounter with
    | none =>
      rw [hcounter] at ha
      rw [if_neg (by simpa using ha)]
      exact hack
    | some counter =>
      rw [hcounter] at ha
      rw [if_pos (ha.2 rfl)]
      exact numberAt_ackCounter hbytes hcounter

end

/-! ## The body of a message -/

section
variable {env : DecryptEnv} {st : DecryptState} {tvb body : Tvb} {msgInfo : MatterMessageInfo}
  {s₁ : BodyState}

/-- Up to the body nothing is stored but the length of the trailer. -/
theorem unencryptedMessage_eq_ok
    (h : (unencryptedMessage env tvb msgInfo).run ⟨st, {}⟩ = .ok (some body) s₁) :
    s₁.protocol =
      { info := { trailerLen := if messageIsEncrypted msgInfo then cryptoTagLength else 0 } } := by
  cases henc : messageIsEncrypted msgInfo with
  | true =>
    rw [unencryptedMessage, if_pos henc] at h
    obtain ⟨decrypted, s, hdecrypt, hrest⟩ := bind_eq_ok.1 h
    obtain ⟨decrypt, -, hs⟩ := zoom_eq_ok.1 hdecrypt
    cases decrypted with
    | none => cases hrest
    | some unencMsgTVB =>
      cases hrest
      rw [hs]
      rfl
  | false =>
    rw [unencryptedMessage, if_neg (by simp [henc])] at h
    obtain ⟨rest, s, hrest, hpure⟩ := bind_eq_ok.1 h
    rw [Tvb.newSubsetRemaining] at hrest
    split at hrest <;> cases hrest
    cases hpure
    rfl

/-- A decrypted body is no longer than its message. -/
theorem length_of_decrypted {ptype : PortType} {frame : Tvb}
    (hmsg : (dissectMessage ptype frame).run () = .ok (tvb, msgInfo) ())
    (hcipher : KeepsLength env) (hmalloc : IsMalloc env.malloc)
    (henc : messageIsEncrypted msgInfo = true)
    (h : (unencryptedMessage env tvb msgInfo).run ⟨st, {}⟩ = .ok (some body) s₁) :
    body.bytes.length < 2 ^ 16 := by
  obtain ⟨hmsgLen, hheaderLen⟩ := dissectMessage_lengths hmsg
  rw [unencryptedMessage, if_pos henc] at h
  obtain ⟨decrypted, s, hdecrypt, hrest⟩ := bind_eq_ok.1 h
  cases decrypted with
  | none => cases hrest
  | some unencMsgTVB =>
    cases hrest
    obtain ⟨decrypt, htry, -⟩ := zoom_eq_ok.1 hdecrypt
    obtain ⟨-, plaintext, calls, hfind, rfl, -⟩ := plaintext_of_tryDecryptMessage htry
    obtain ⟨-, hdataLen, hfit⟩ := length_of_findPlaintext hcipher hfind
    have hbuffer : (unencBuffer env msgInfo msgInfo.headerLen plaintext).bytes.length =
        plaintext.length + cryptoTagLength := by
      unfold unencBuffer
      rw [List.length_append, List.length_drop, hmalloc, hdataLen]
      omega
    rw [hbuffer, ← hdataLen]
    unfold sub32 at hfit ⊢
    omega

/-- `DissectMatter` goes on with the protocol header of the body. -/
theorem dissectBody_run {payloadOffset : Nat} {protocol : ProtocolState}
    (hbody : (unencryptedMessage env tvb msgInfo).run ⟨st, {}⟩ = .ok (some body) s₁)
    (hrun : (dissectProtocol body (messageIsEncrypted msgInfo)).run s₁.protocol =
      .ok payloadOffset protocol) :
    (dissectBody env tvb msgInfo).run ⟨st, {}⟩ =
      .ok (some (body, payloadOffset)) { s₁ with protocol } := by
  have hzoom : (BodyM.protocol (dissectProtocol body (messageIsEncrypted msgInfo))).run s₁ =
      .ok payloadOffset { s₁ with protocol } := zoom_eq_ok.2 ⟨_, hrun, rfl⟩
  rw [dissectBody, bind_ok hbody]
  dsimp only
  rw [bind_ok hzoom]
  rfl

/-- A body that starts with an encoded header. -/
theorem dissectBody_encode {h : ProtocolHeader} {payload trailer : List UInt8}
    (hbody : (unencryptedMessage env tvb msgInfo).run ⟨st, {}⟩ = .ok (some body) s₁)
    (hbytes : body.bytes = h.encode ++ payload ++ trailer)
    (hlength : trailer.length = if messageIsEncrypted msgInfo then cryptoTagLength else 0) :
    PassesEnd body s₁.protocol h.v h.a ∧
      ∃ s, (dissectBody env tvb msgInfo).run ⟨st, {}⟩ =
        .ok (some (body, 6 + 2 * h.v + 4 * h.a)) s ∧
      s.protocol.info = s₁.protocol.info.withBody body := by
  have hstart := unencryptedMessage_eq_ok hbody
  have htrailer : TrailerOf (messageIsEncrypted msgInfo) s₁.protocol := by rw [TrailerOf, hstart]
  rw [List.append_assoc] at hbytes
  have hfit : 6 + 2 * vBit (exchangeFlags body) + 4 * aBit (exchangeFlags body) +
      s₁.protocol.info.trailerLen ≤ body.bytes.length := by
    rw [vBit_encode hbytes, aBit_encode hbytes, htrailer, hbytes, List.length_append,
      List.length_append, h.length_encode, hlength]
    omega
  obtain ⟨hpasses, items, hrun⟩ := dissectProtocol_run htrailer hfit
  rw [vBit_encode hbytes, aBit_encode hbytes] at hpasses hrun
  exact ⟨hpasses, _, dissectBody_run hbody hrun, rfl⟩

theorem protocol_of_dissectBody {body' : Tvb} {payloadOffset : Nat} {s : BodyState}
    (hbody : (unencryptedMessage env tvb msgInfo).run ⟨st, {}⟩ = .ok (some body) s₁)
    (h : (dissectBody env tvb msgInfo).run ⟨st, {}⟩ = .ok (some (body', payloadOffset)) s) :
    (dissectProtocol body (messageIsEncrypted msgInfo)).run s₁.protocol =
      .ok payloadOffset s.protocol := by
  rw [dissectBody, bind_ok hbody] at h
  dsimp only at h
  obtain ⟨payloadOffset', s', hprotocol, hpure⟩ := bind_eq_ok.1 h
  cases hpure
  obtain ⟨protocol, hrun, rfl⟩ := zoom_eq_ok.1 hprotocol
  exact hrun

end

/-- The body of any message, with any header and payload. -/
theorem dissectBody_split {ptype : PortType} {frame tvb body : Tvb} {msgInfo : MatterMessageInfo}
    {env : DecryptEnv} {st : DecryptState} {s₁ : BodyState}
    (hmsg : (dissectMessage ptype frame).run () = .ok (tvb, msgInfo) ())
    (hcipher : KeepsLength env) (hmalloc : IsMalloc env.malloc)
    (hbody : (unencryptedMessage env tvb msgInfo).run ⟨st, {}⟩ = .ok (some body) s₁) :
    (∀ (h : ProtocolHeader) (payload trailer : List UInt8),
      body.bytes = h.encode ++ payload ++ trailer →
      trailer.length = (if messageIsEncrypted msgInfo then cryptoTagLength else 0) →
      PassesEnd body s₁.protocol h.v h.a ∧
        ∃ s, (dissectBody env tvb msgInfo).run ⟨st, {}⟩ =
          .ok (some (body, 6 + 2 * h.v + 4 * h.a)) s ∧ h.Recovered s.protocol.info) ∧
    ∀ payloadOffset s,
      (dissectBody env tvb msgInfo).run ⟨st, {}⟩ = .ok (some (body, payloadOffset)) s →
      (messageIsEncrypted msgInfo = true → WholeBody body payloadOffset s.protocol.info) ∧
      (WholeBody body payloadOffset s.protocol.info ↔
        body.bytes.length < payloadOffset + s.protocol.info.trailerLen + 2 ^ 16) := by
  have hstart := unencryptedMessage_eq_ok hbody
  have htrailer : TrailerOf (messageIsEncrypted msgInfo) s₁.protocol := by rw [TrailerOf, hstart]
  constructor
  · intro h payload trailer hbytes hlength
    obtain ⟨hpasses, s, hrun, hinfo⟩ := dissectBody_encode hbody hbytes hlength
    refine ⟨hpasses, s, hrun, ?_⟩
    rw [List.append_assoc] at hbytes
    rw [hinfo]
    exact recovered_withBody hbytes (by rw [hstart]) (by rw [hstart])
  · intro payloadOffset s h
    have hprotocol := protocol_of_dissectBody hbody h
    have hwhole := wholeBody_iff htrailer hprotocol
    refine ⟨fun henc => hwhole.2 ?_, hwhole⟩
    have hlt := length_of_decrypted hmsg hcipher hmalloc henc hbody
    omega

/-- The message that node 2 has sealed. -/
theorem dissectBody_split_sealed : ∃ body s₁,
    (unencryptedMessage sealedEnv sealedMessage sealedInfo).run ⟨emptyDecryptState, {}⟩ =
      .ok (some body) s₁ ∧
    ∀ payloadOffset s, (dissectBody sealedEnv sealedMessage sealedInfo).run
        ⟨emptyDecryptState, {}⟩ = .ok (some (body, payloadOffset)) s →
      WholeBody body payloadOffset s.protocol.info := by
  have hmsg : (dissectMessage .udp sealedMessage).run () = .ok (sealedMessage, sealedInfo) () := by
    decide
  have hsplit := @dissectBody_split .udp sealedMessage sealedMessage _ sealedInfo sealedEnv
    emptyDecryptState _ hmsg keepsLength_sealedEnv (fun _ => List.length_replicate) rfl
  exact ⟨_, _, rfl, fun payloadOffset s h => (hsplit.2 payloadOffset s h).1 (by decide)⟩

/-! ## An acknowledgement -/

def plainMessageHeader : MessageHeader where
  version := groupMessageHeader.version
  reserved := false
  sessionId := 0
  secFlags := 0
  counter := 7
  source := none
  destination := .none
  noExtensions := by decide

def ackProtocolHeader : ProtocolHeader where
  exchangeFlags := 2
  opcode := 0x10
  exchangeId := 1
  protocolId := 0
  vendorId := none
  ackCounter := some 6
  noExtensions := by decide
  vendorId_iff := by decide
  ackCounter_iff := by decide

/-- An acknowledgement, `n` bytes of payload behind it. -/
def ackBody (n : Nat) : List UInt8 := ackProtocolHeader.encode ++ List.replicate n 0

def ackMessage (n : Nat) : Tvb := Tvb.ofBytes (plainMessageHeader.encode ++ ackBody n)

def ackInfo (n : Nat) : MatterMessageInfo :=
  parsedInfo plainMessageHeader ((ackMessage n).bytes.length % 2 ^ 16)

theorem length_ackBody (n : Nat) : (ackBody n).length = 10 + n := by
  rw [ackBody, List.length_append, List.length_replicate, ackProtocolHeader.length_encode]
  rfl

theorem dissectMessage_ackMessage (n : Nat) :
    (dissectMessage .udp (ackMessage n)).run () = .ok (ackMessage n, ackInfo n) () := by
  have htransport : (transportMessage .udp (ackMessage n)).run () =
      .ok ((ackMessage n).bytes.length % 2 ^ 16, ackMessage n) () := transportMessage_frame () .udp _
  rw [dissectMessage, bind_ok htransport]
  dsimp only
  rw [ackMessage, bind_ok (dissectHeader_encode () plainMessageHeader _ _)]
  rfl

theorem unencryptedMessage_ackMessage (n : Nat) :
    (unencryptedMessage sealedEnv (ackMessage n) (ackInfo n)).run ⟨emptyDecryptState, {}⟩ =
      .ok (some (Tvb.ofBytes (ackBody n))) ⟨emptyDecryptState, {}⟩ := by
  have hplain : messageIsEncrypted (ackInfo n) = false := rfl
  have hheader : plainMessageHeader.encode.length = 8 := by decide
  have hrest : ((ackMessage n).newSubsetRemaining 8 : BodyM Tvb).run ⟨emptyDecryptState, {}⟩ =
      .ok (Tvb.ofBytes (ackBody n)) ⟨emptyDecryptState, {}⟩ := by
    rw [Tvb.newSubsetRemaining, ackMessage, Tvb.ofBytes]
    dsimp only
    rw [List.length_append, hheader, if_pos (Nat.le_add_right _ _), ← hheader, List.drop_left,
      Nat.add_sub_cancel_left]
    rfl
  rw [unencryptedMessage, hplain, if_neg Bool.false_ne_true]
  exact map_ok hrest

theorem dissectBody_ackMessage (n : Nat) : ∃ s,
    (dissectBody sealedEnv (ackMessage n) (ackInfo n)).run ⟨emptyDecryptState, {}⟩ =
      .ok (some (Tvb.ofBytes (ackBody n), 10)) s ∧
    s.protocol.info.payloadLen = n % 2 ^ 16 ∧ s.protocol.info.trailerLen = 0 := by
  have hbytes : (Tvb.ofBytes (ackBody n)).bytes =
      ackProtocolHeader.encode ++ List.replicate n 0 ++ [] := (List.append_nil _).symm
  have hlength : (Tvb.ofBytes (ackBody n)).bytes.length = 10 + n := length_ackBody n
  have hplain : messageIsEncrypted (ackInfo n) = false := rfl
  obtain ⟨-, s, hrun, hinfo⟩ := dissectBody_encode (unencryptedMessage_ackMessage n) hbytes
    (by rw [hplain]; rfl)
  rw [List.append_assoc] at hbytes
  refine ⟨s, hrun, ?_, by rw [hinfo]; rfl⟩
  rw [hinfo, payloadLen_withBody, hlength, vBit_encode hbytes, aBit_encode hbytes]
  have hpayload : 10 + n - (6 + 2 * ackProtocolHeader.v + 4 * ackProtocolHeader.a + 0) = n :=
    Nat.add_sub_cancel_left 10 n
  exact congrArg (· % 2 ^ 16) hpayload

/-- The first pass ends in front of the acknowledged counter, and a payload of 64 KiB counts as
none. -/
theorem dissectBody_ackMessage_long :
    (∃ s, (unencryptedMessage sealedEnv (ackMessage 0) (ackInfo 0)).run ⟨emptyDecryptState, {}⟩ =
        .ok (some (Tvb.ofBytes (ackBody 0))) ⟨emptyDecryptState, {}⟩ ∧
      (readProtocolHeader (Tvb.ofBytes (ackBody 0))).run {} = .ok (2, 6) s ∧
      6 + 2 * ackProtocolHeader.v + 4 * ackProtocolHeader.a = 10) ∧
    ∃ n s, (dissectMessage .udp (ackMessage n)).run () = .ok (ackMessage n, ackInfo n) () ∧
      (dissectBody sealedEnv (ackMessage n) (ackInfo n)).run ⟨emptyDecryptState, {}⟩ =
        .ok (some (Tvb.ofBytes (ackBody n), 10)) s ∧ n = 65536 ∧ s.protocol.info.payloadLen = 0 ∧
      ¬ WholeBody (Tvb.ofBytes (ackBody n)) 10 s.protocol.info := by
  refine ⟨⟨_, unencryptedMessage_ackMessage 0, rfl, by decide⟩, ?_⟩
  obtain ⟨n, hn⟩ : ∃ n, n = 65536 := ⟨_, rfl⟩
  obtain ⟨s, hrun, hpayload, htrailer⟩ := dissectBody_ackMessage n
  have hzero : s.protocol.info.payloadLen = 0 := by
    rw [hpayload, hn]
    norm_num
  refine ⟨n, s, dissectMessage_ackMessage n, hrun, hn, hzero, fun h => ?_⟩
  have hlength : (Tvb.ofBytes (ackBody n)).bytes.length = 10 + n := length_ackBody n
  rw [WholeBody, hzero, htrailer, hlength] at h
  omega

end Matter.Message
