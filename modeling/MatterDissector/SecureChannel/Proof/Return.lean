import MatterDissector.IM.Proof.MessagesEnd
import MatterDissector.SecureChannel.Dissector

/-!
# What the dissectors of the secure channel return

A dissector returns how many bytes it has taken, and 0 only for a message that it has not decoded
(`HonoursConvention`). The nine TLV dissectors always come to an end (`dissectTLVPayload_returns`),
and return their error code: 0 for a message that has been decoded, and a number over 4000 for one
that has not. So the convention holds for none of them; for the others it does unless the payload
is empty, which no number of bytes can be told from a refusal (`honoursConvention_iff`).
-/

namespace Matter.SecureChannel

open Prog Message Display TLV TLV.Dissect IM Tracker
open TLVReader (InBounds)

section
variable {data : List UInt8} {n : Nat} {F : Fault → Prop}

/-! ## The TLV dissectors come to an end -/

/-- In bounds, on an element with a context tag. -/
def AtContextTag (data : List UInt8) (n : Nat) (s : DissectState) : Prop :=
  AtMost data n s.tlv ∧ isContextTag s.tlv.reader.getTag = true

/-- As `Moves`, on an element with a context tag. -/
def MovesMember (F : Fault → Prop) (data : List UInt8) (n : Nat) (x : DissectM Unit) : Prop :=
  Ends F (AtContextTag data n) x (fun _ s => AtMost data n s.tlv) (fun _ s => AtMost data n s.tlv)

theorem MovesMember.of_moves {x : DissectM Unit} (h : Moves F data n x) :
    MovesMember F data n x :=
  h.conseq (fun _ h => h) (fun _ h => h.1) (fun _ _ h => h) fun _ _ h => h

/-- The tag is appended, so there is a buffer to reset. -/
theorem movesMember_addGenericTLVItem (host : Host) (tree : ProtoNode) (hfindex : HeaderField) :
    MovesMember F data n (addGenericTLVItem host tree hfindex false) := by
  intro s hs
  have hsome : ¬ NothingAppended false false 0 s.tlv.reader := fun hnone => by
    rcases hnone.1.2 with htag | ⟨htag, -⟩
    · cases htag
    · rw [hs.2] at htag
      cases htag
  have h := addGenericTLVItemAt_noFault host tree hfindex false false 0 hs.1.1 hsome
  exact (h.ends F).conseq (fun _ h => h) (fun _ h => h)
    (fun _ _ h => ⟨h.1, Nat.le_trans h.2 hs.1.2⟩) (fun _ _ h => ⟨h.1, Nat.le_trans h.2 hs.1.2⟩) s rfl

theorem moves_contextMember {member : Nat → DissectM Unit}
    (h : ∀ tag, MovesMember F data n (member tag)) : Moves F data n (contextMember member) := by
  intro s hs
  rw [contextMember, getTag, gets_bind]
  have hcheck : Ends F (· = s) (Prog.verify (isContextTag s.tlv.reader.getTag)
      .unexpectedTLVElement : DissectM Unit) (fun _ => AtContextTag data n)
      (fun _ s => AtMost data n s.tlv) :=
    Ends.verify (fun _ hs' htag => hs' ▸ ⟨hs, htag⟩) fun _ hs' _ => hs' ▸ hs
  exact Ends.bind hcheck (fun _ => h _) s rfl

/-- A block whose members have context tags. -/
theorem moves_addParameters {member : ProtoNode → Nat → DissectM Unit}
    (h : ∀ node m tag, MovesMember F data m (member node tag)) (containerHf : HeaderField)
    (ett : Ett) (tree : ProtoNode) : Moves F data n (addParameters containerHf ett member tree) :=
  moves_getType.bind fun _ => (Moves.verify _ _).bind fun _ =>
    (moves_addSubTreeItem _ _ _).bind fun node =>
      moves_overMembers (fun _ _ _ => moves_contextMember (h node _)) ()

section
variable (host : Host)

theorem moves_addSessionParameters (tree : ProtoNode) (containerHf : HeaderField) :
    Moves F data n (addSessionParameters host tree containerHf) := by
  refine moves_addParameters (fun node m tag => ?_) _ _ _
  unfold sessionParameter
  split
  case h_8 => exact movesMember_addGenericTLVItem host _ _
  all_goals exact .of_moves (moves_addTypedItem _ _)

theorem moves_addPBKDFParameterSet (tree : ProtoNode) :
    Moves F data n (addPBKDFParameterSet host tree) := by
  refine moves_addParameters (fun node m tag => ?_) _ _ _
  unfold pbkdfParameter
  split
  case h_3 => exact movesMember_addGenericTLVItem host _ _
  all_goals exact .of_moves (moves_addTypedItem _ _)

end

theorem moves_addItem (tree : ProtoNode) (hfindex : HeaderField) (start length : Nat) :
    Moves F data n (addItem tree hfindex start length) := (moves_draw _).bind fun _ => .pure _

theorem moves_addEncryptedField (tree : ProtoNode) (containerHf : HeaderField) :
    Moves F data n (addEncryptedField tree containerHf) := by
  refine moves_getLength.bind fun valueLen => (moves_addSubTreeItem _ _ _).bind fun node => ?_
  refine (moves_read TLVReader.getDataPtr_keeps leaves_getDataPtr).bind fun valuePtr => ?_
  refine .ite (.pure _) (.ite ?_ (moves_addItem _ _ _ _))
  exact (moves_addItem _ _ _ _).bind fun _ => moves_addItem _ _ _ _

theorem moves_typed (type : TLVType) (tree : ProtoNode) (hfindex : HeaderField) :
    Moves F data n (addOfType type (addTypedItem tree hfindex)) :=
  moves_addOfType type (moves_addTypedItem tree hfindex)

theorem moves_encrypted (tree : ProtoNode) (hfindex : HeaderField) :
    Moves F data n (addOfType .byteString (addEncryptedField tree hfindex)) :=
  moves_addOfType .byteString (moves_addEncryptedField tree hfindex)

theorem moves_dissectMembers {member : Nat → DissectM Unit}
    (h : ∀ m tag, Moves F data m (member tag)) (title : String) :
    Moves F data n (dissectMembers title member) := by
  have hnext : Moves F data n next := ((next_progress n).ends F).conseq (fun _ h => h)
    (fun _ h => h) (fun _ _ h => h.atMost) fun _ _ h => h
  exact (moves_draw _).bind fun _ => hnext.bind fun _ =>
    moves_overMembers (fun _ m _ => moves_contextMember fun tag => .of_moves (h m tag)) ()

theorem moves_dissectTLVMessage (host : Host) (msg : TLVMessage) :
    Moves F data n (dissectTLVMessage host msg) := by
  cases msg <;> refine moves_dissectMembers (fun m tag => ?_) _
  case pbkdfParamRequest =>
    unfold pbkdfParamRequestMember
    split
    case h_5 => exact moves_addSessionParameters host _ _
    case h_6 => exact .throw _
    all_goals exact moves_typed _ _ _
  case pbkdfParamResponse =>
    unfold pbkdfParamResponseMember
    split
    case h_4 => exact moves_addPBKDFParameterSet host _
    case h_5 => exact moves_addSessionParameters host _ _
    case h_6 => exact .throw _
    all_goals exact moves_typed _ _ _
  case pasePake1 =>
    unfold pasePake1Member
    split
    · exact moves_typed _ _ _
    · exact .throw _
  case pasePake2 =>
    unfold pasePake2Member
    split
    · exact moves_typed _ _ _
    · exact moves_typed _ _ _
    · exact .throw _
  case pasePake3 =>
    unfold pasePake3Member
    split
    · exact moves_typed _ _ _
    · exact .throw _
  case caseSigma1 =>
    unfold caseSigma1Member
    split
    case h_5 => exact moves_addSessionParameters host _ _
    case h_8 => exact .throw _
    all_goals exact moves_typed _ _ _
  case caseSigma2 =>
    unfold caseSigma2Member
    split
    case h_4 => exact moves_encrypted _ _
    case h_5 => exact moves_addSessionParameters host _ _
    case h_6 => exact .throw _
    all_goals exact moves_typed _ _ _
  case caseSigma3 =>
    unfold caseSigma3Member
    split
    · exact moves_encrypted _ _
    · exact .throw _
  case caseSigma2Resume =>
    unfold caseSigma2ResumeMember
    split
    case h_4 => exact moves_addSessionParameters host _ _
    case h_5 => exact .throw _
    all_goals exact moves_typed _ _ _

end

/-- A TLV dissector in bounds ends, with a result or an error. -/
theorem dissectTlv_returns {α : Type} {data : List UInt8} {x : DissectM α} {tlv : TLVDissector}
    (h : InBounds data tlv.reader)
    (hx : Moves (fun _ => False) data tlv.reader.unread x) (s : TrackerState) :
    ∃ err, (dissectTlv x tlv).run s = .ok err s := by
  have hrun := hx (.start tlv) ⟨h, Nat.le_refl _⟩
  unfold dissectTlv
  cases hres : x.run (.start tlv) with
  | ok a s' => exact ⟨.ok a, rfl⟩
  | err e s' => exact ⟨.error e, rfl⟩
  | fault f => rw [hres] at hrun; exact hrun.elim

theorem initCommon_inBounds {msgData : List UInt8} (hlen : msgData.length < 2 ^ 32) :
    InBounds msgData (initCommon msgData msgData.length).reader :=
  (InBounds.init hlen).congr rfl rfl rfl rfl rfl

section
variable {payload : List UInt8} {host : Host} {msgRec : RecordRef} {s s' : TrackerState}
  {r : Ended}

theorem memdup_payload (hlen : payload.length < 2 ^ 16) :
    ((Tvb.ofBytes payload).memdup 0 payload.length).run s = .ok payload s := by
  have hcopy : (Tvb.ofBytes payload).memdup 0 payload.length =
      (Pure.pure payload : TrackerM (List UInt8)) := by
    rw [Tvb.memdup, if_neg (Nat.not_lt_zero _), if_neg (by omega),
      if_pos ⟨by omega, by rw [Nat.zero_add]; exact Nat.le_refl _⟩]
    exact congrArg _ List.take_length
  rw [hcopy]
  rfl

/-- Whatever the payload of a TLV message, its dissector returns an error code. -/
theorem dissectTLVPayload_returns (hlen : payload.length < 2 ^ 16) (msg : TLVMessage) :
    ∃ err, (dissectTLVPayload host (.ofBytes payload) payload.length msg).run s =
      .ok ⟨.err err, err.isOk⟩ s := by
  have hbounds : InBounds payload (initCommon payload payload.length).reader :=
    initCommon_inBounds (by omega)
  obtain ⟨err, herr⟩ := dissectTlv_returns hbounds (moves_dissectTLVMessage host msg) s
  refine ⟨err, ?_⟩
  rw [dissectTLVPayload, bind_ok (memdup_payload hlen), bind_ok herr]
  rfl

/-! ## The convention -/

/-- The number returned is one of bytes of the payload, and 0 only for a message that has not been
decoded. -/
structure HonoursConvention (payloadLen : Nat) (r : Ended) : Prop where
  consumed : r.returned.value ≤ payloadLen
  refused : r.returned.value = 0 → r.decoded = false
  noError : ∀ e, r.returned ≠ .err (.error e)

/-- A decoded message is refused, and an error is taken for a number of bytes. -/
theorem not_honours_err (payloadLen : Nat) (err : Except MatterError Unit) :
    ¬ HonoursConvention payloadLen ⟨.err err, err.isOk⟩ := by
  intro h
  cases err with
  | ok u => cases h.refused rfl
  | error e => exact h.noError e rfl

theorem honours_bytes {payloadLen k : Nat} {decoded : Bool} (hk : 0 < k) (hle : k ≤ payloadLen) :
    HonoursConvention payloadLen ⟨.bytes k, decoded⟩ :=
  ⟨hle, fun h => absurd h hk.ne', fun _ h => by cases h⟩

/-- Of an empty payload no byte can be taken. -/
theorem not_honours_empty {k : Nat} : ¬ HonoursConvention 0 ⟨.bytes k, true⟩ := by
  intro h
  have hk : k = 0 := Nat.le_zero.1 h.consumed
  cases h.refused hk

/-- A number that is one of bytes of the payload where that is not empty. -/
theorem honours_nonempty_iff {payload : List UInt8} {k : Nat}
    (hk : payload ≠ [] → 0 < k ∧ k ≤ payload.length) :
    HonoursConvention payload.length ⟨.bytes k, true⟩ ↔ payload ≠ [] := by
  constructor
  · rintro h rfl
    exact not_honours_empty h
  · intro hpayload
    exact honours_bytes (hk hpayload).1 (hk hpayload).2

/-! ## The other dissectors -/

theorem endStatusReport_ok {tvb : Tvb} {payloadLen : Nat}
    (h : (endStatusReport host tvb payloadLen msgRec).run s = .ok r s') :
    8 ≤ tvb.bytes.length ∧ ∃ decoded, r = ⟨.bytes payloadLen, decoded⟩ := by
  obtain ⟨imSubscription, s₁, hreport, hr⟩ := bind_eq_ok.1 h
  cases hr
  obtain ⟨generalCode, s₂, -, hrest⟩ := bind_eq_ok.1 hreport
  obtain ⟨profileId, s₃, -, hrest⟩ := bind_eq_ok.1 hrest
  obtain ⟨statusCode, s₄, hstatus, -⟩ := bind_eq_ok.1 hrest
  exact ⟨(Tvb.getLE_ok hstatus).1, _, rfl⟩

theorem endStandaloneAck_ok (h : (endStandaloneAck msgRec).run s = .ok r s') :
    r = ⟨.bytes 1, true⟩ := by
  obtain ⟨imSubscription, s₁, -, hr⟩ := bind_eq_ok.1 h
  cases hr
  rfl

theorem dissectPasePakeError_ok {tvb : Tvb} {payloadLen : Nat}
    (h : (dissectPasePakeError tvb payloadLen).run s = .ok r s') :
    r = ⟨.bytes payloadLen, true⟩ := by
  obtain ⟨u, s₁, -, hr⟩ := bind_eq_ok.1 h
  cases hr
  rfl

theorem dissectICDCheckIn_ok {tvb : Tvb} {payloadLen : Nat}
    (h : (dissectICDCheckIn tvb payloadLen).run s = .ok r s') :
    r = ⟨.bytes payloadLen, true⟩ := by
  obtain ⟨u, s₁, -, hr⟩ := bind_eq_ok.1 h
  cases hr
  rfl

/-! ## All messages -/

/-- Where the convention holds: not for a TLV message, and for an acknowledgement, a check-in and
a PASE error not with an empty payload. -/
def ConventionHolds (payload : List UInt8) : Option MsgType → Prop
  | some (.tlv _) => False
  | some .standaloneAck | some .icdCheckIn | some .pasePakeError => payload ≠ []
  | some .statusReport | none => True

/-- What `DissectMatterCommon` returns honours the convention exactly where `ConventionHolds`; for
the TLV messages, where it never does, there always is a result. -/
theorem honoursConvention_iff (host : Host) {payload : List UInt8}
    (hlen : payload.length < 2 ^ 16) (msgType : Nat) (msgRec : RecordRef) (s : TrackerState) :
    (∀ r s', (dissectMatterCommon host (.ofBytes payload) payload.length msgType msgRec).run s =
        .ok r s' → (HonoursConvention payload.length r ↔
          ConventionHolds payload (MsgType.ofOpcode msgType))) ∧
      ∀ msg, MsgType.ofOpcode msgType = some (.tlv msg) → ∃ r,
        (dissectMatterCommon host (.ofBytes payload) payload.length msgType msgRec).run s =
          .ok r s := by
  unfold dissectMatterCommon
  have hsome : payload ≠ [] → 0 < payload.length ∧ payload.length ≤ payload.length := fun h =>
    ⟨List.length_pos_iff.2 h, Nat.le_refl _⟩
  cases MsgType.ofOpcode msgType with
  | none =>
    refine ⟨fun r s' hrun => ?_, fun msg h => by cases h⟩
    cases hrun
    exact ⟨fun _ => trivial, fun _ => ⟨Nat.zero_le _, fun _ => rfl, fun _ h => by cases h⟩⟩
  | some type =>
    cases type with
    | statusReport =>
      refine ⟨fun r s' hrun => ?_, fun msg h => by cases h⟩
      obtain ⟨hread, decoded, rfl⟩ := endStatusReport_ok hrun
      have hread : 8 ≤ payload.length := hread
      exact ⟨fun _ => trivial, fun _ => honours_bytes (by omega) (Nat.le_refl _)⟩
    | standaloneAck =>
      refine ⟨fun r s' hrun => ?_, fun msg h => by cases h⟩
      rw [endStandaloneAck_ok hrun]
      exact honours_nonempty_iff fun h => ⟨Nat.zero_lt_one, (hsome h).1⟩
    | icdCheckIn =>
      refine ⟨fun r s' hrun => ?_, fun msg h => by cases h⟩
      rw [dissectICDCheckIn_ok hrun]
      exact honours_nonempty_iff hsome
    | pasePakeError =>
      refine ⟨fun r s' hrun => ?_, fun msg h => by cases h⟩
      rw [dissectPasePakeError_ok hrun]
      exact honours_nonempty_iff hsome
    | tlv msg =>
      obtain ⟨err, hret⟩ := @dissectTLVPayload_returns payload host s hlen msg
      refine ⟨fun r s' hrun => ?_, fun _ _ => ⟨_, hret⟩⟩
      cases hret.symm.trans hrun
      exact ⟨fun h => not_honours_err _ _ h, False.elim⟩

end

/-- A Pake3 of one member, and a byte that is no element at all. -/
theorem honoursConvention_iff_pake3 :
    (HonoursConvention 6 ⟨.err (.ok ()), true⟩ ↔
        ConventionHolds [0x15, 0x30, 0x01, 0x01, 0xAA, 0x18] (MsgType.ofOpcode 0x24)) ∧
      ∃ r, (dissectMatterCommon plainHost (.ofBytes [0x15, 0x30, 0x01, 0x01, 0xAA, 0x18]) 6 0x24
        0).run .empty = .ok r .empty := by
  have h := @honoursConvention_iff plainHost [0x15, 0x30, 0x01, 0x01, 0xAA, 0x18] (by decide)
    0x24 0 .empty
  exact ⟨h.1 _ _ rfl, h.2 .pasePake3 rfl⟩

/-- The Pake3 is decoded and refused; for the byte the error code is the number of bytes. -/
theorem pake3_breaks_convention :
    (∃ r, (dissectMatterCommon plainHost (.ofBytes [0x15, 0x30, 0x01, 0x01, 0xAA, 0x18]) 6 0x24
        0).run .empty = .ok r .empty ∧ r.decoded = true ∧ r.returned.value = 0 ∧
        ¬ HonoursConvention 6 r) ∧
      ∃ r, (dissectMatterCommon plainHost (.ofBytes [0x1F]) 1 0x24 0).run .empty = .ok r .empty ∧
        r.decoded = false ∧ r.returned.value = 4035 ∧ ¬ HonoursConvention 1 r :=
  ⟨⟨_, rfl, rfl, rfl, not_honours_err 6 (.ok ())⟩,
    ⟨_, rfl, rfl, rfl, not_honours_err 1 (.error .invalidTLVElement)⟩⟩

end Matter.SecureChannel
