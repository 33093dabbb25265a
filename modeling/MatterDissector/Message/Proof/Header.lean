import MatterDissector.Message.Header

/-!
# The header parse against the wire format

`dissectHeader_encode`: on an encoded header whose destination is absent or a node id the parse
recovers every field and the end of the header. A 16-bit group id is not consumed
(`dissectHeader_groupId`), so over either transport the parse undoes the encoding for the other
two kinds of destination and no more (`dissectMessage_encode_iff`).
-/

namespace Matter.Message

open Prog

namespace MessageHeader

/-! ## The flags byte -/

theorem flags_bits : ∀ (v : Fin 16) (r s : Bool) (d : Fin 3),
    let n := (v : Nat) * 16 + (if r then 8 else 0) + (if s then 4 else 0) + d
    n < 256 ∧ (n &&& messageFlagSourceNodeId ≠ 0 ↔ s = true) ∧
      (n &&& messageFlagDestNodeId ≠ 0 ↔ d = 1) ∧
      (n &&& messageVersionMask) >>> messageVersionShift = v := by
  decide +kernel

theorem dsiz_lt (d : Destination) : d.dsiz < 3 := by
  cases d <;> simp [Destination.dsiz]

variable (h : MessageHeader)

theorem flags_spec : h.flags < 256 ∧
    (h.flags &&& messageFlagSourceNodeId ≠ 0 ↔ h.source.isSome = true) ∧
    (h.flags &&& messageFlagDestNodeId ≠ 0 ↔ h.destination.dsiz = 1) ∧
    (h.flags &&& messageVersionMask) >>> messageVersionShift = h.version := by
  have hb := flags_bits h.version h.reserved h.source.isSome ⟨_, dsiz_lt h.destination⟩
  refine ⟨hb.1, hb.2.1, hb.2.2.1.trans ?_, hb.2.2.2⟩
  rw [Fin.ext_iff]; rfl

theorem sessionType_eq :
    (h.secFlags.toNat &&& encryptionTypeMask) >>> encryptionTypeShift = h.secFlags.toNat % 4 :=
  Nat.and_two_pow_sub_one_eq_mod _ 2

/-- The bytes before the node ids. -/
def fixedPart : List UInt8 :=
  LE.bytes 1 h.flags ++ LE.bytes 2 h.sessionId.toNat ++ LE.bytes 1 h.secFlags.toNat ++
    LE.bytes 4 h.counter.toNat

@[simp] theorem length_fixedPart : h.fixedPart.length = 8 := by simp [fixedPart]

@[simp] theorem length_encodeSource : h.encodeSource.length = h.sourceLen := by
  unfold encodeSource sourceLen
  cases h.source <;> simp

/-- The end of the header is where the encoding ends. -/
theorem length_encode : h.encode.length = 8 + h.sourceLen + h.destination.size := by
  have hdest : h.destination.encode.length = h.destination.size := by
    cases h.destination <;> simp [Destination.encode, Destination.size]
  rw [encode, List.length_append, List.length_append, hdest, length_encodeSource]
  exact congrArg (· + _ + _) h.length_fixedPart

end MessageHeader

/-! ## The parse -/

section
variable {σ : Type} (s : σ)

theorem transportMessage_frame (ptype : PortType) (msg : List UInt8) :
    (transportMessage ptype (ptype.frame msg)).run s =
      .ok (msg.length % 2 ^ 16, Tvb.ofBytes msg) s := by
  cases ptype with
  | udp => rfl
  | tcp =>
    have hlen : ((PortType.tcp.frame msg).getLetohs 0 : Prog TvbError Fault σ Nat).run s =
        .ok (LE.value (LE.bytes 2 msg.length)) s :=
      Tvb.getLE_of_eq [] _ msg s rfl rfl (LE.length_bytes _ _)
    rw [LE.value_bytes_mod] at hlen
    rw [transportMessage, bind_ok hlen]
    have hsub : ((PortType.tcp.frame msg).newSubsetRemaining matterTCPMessageLengthFieldSize :
        Prog TvbError Fault σ Tvb).run s = .ok (Tvb.ofBytes msg) s := by
      rw [Tvb.newSubsetRemaining, if_pos (by
        simp [PortType.frame, frameMessage, Tvb.ofBytes, matterTCPMessageLengthFieldSize])]
      simp [PortType.frame, frameMessage, Tvb.ofBytes, matterTCPMessageLengthFieldSize,
        LE.bytes]
    rw [bind_ok hsub]
    rfl

variable (h : MessageHeader) (rest : List UInt8)

/-- The source node id, at the end of the fixed part. -/
theorem dissectNodeId_source {tvb : Tvb}
    (hbytes : tvb.bytes = h.fixedPart ++ h.encodeSource ++ rest) :
    (dissectNodeId tvb h.flags messageFlagSourceNodeId 8).run s =
      .ok (h.source.elim 0 UInt64.toNat, h.sourceLen) s := by
  have hflag := h.flags_spec.2.1
  unfold dissectNodeId MessageHeader.sourceLen
  cases hs : h.source with
  | none =>
    rw [hs] at hflag
    rw [if_neg (by simpa using hflag)]
    rfl
  | some id =>
    rw [hs] at hflag
    rw [MessageHeader.encodeSource, hs] at hbytes
    rw [if_pos (hflag.2 rfl)]
    have hid := id.toNat_lt
    have hget := Tvb.getLE_bytes _ _ s hbytes h.length_fixedPart (by omega)
    rw [bind_ok hget]
    rfl

/-- The destination node id behind it; a group id is passed over. -/
theorem dissectNodeId_destination {tvb : Tvb}
    (hbytes : tvb.bytes = h.fixedPart ++ h.encodeSource ++ h.destination.encode ++ rest) :
    (dissectNodeId tvb h.flags messageFlagDestNodeId (8 + h.sourceLen)).run s =
      .ok (h.destination.nodeIdOrZero,
        if h.destination.dsiz = 1 then 8 else 0) s := by
  have hflag := h.flags_spec.2.2.1
  unfold dissectNodeId
  by_cases hd : h.destination.dsiz = 1
  · rw [if_pos (hflag.2 hd), if_pos hd]
    cases hdest : h.destination with
    | none => rw [hdest] at hd; cases hd
    | groupId id => rw [hdest] at hd; cases hd
    | nodeId id =>
      rw [hdest] at hbytes
      have hid := id.toNat_lt
      have hget : (tvb.getLetoh64 (8 + h.sourceLen)).run s = .ok id.toNat s :=
        Tvb.getLE_bytes _ _ s hbytes (by simp) (by omega)
      rw [bind_ok hget]
      rfl
  · rw [if_neg (fun hf => hd (hflag.1 hf)), if_neg hd]
    cases hdest : h.destination with
    | nodeId id => rw [hdest] at hd; exact absurd rfl hd
    | none => rfl
    | groupId id => rfl

/-- The four fields of the fixed part. -/
theorem dissectHeader_fixed {tvb : Tvb} (hbytes : tvb.bytes = h.fixedPart ++ rest) :
    (tvb.getGuint8 0).run s = .ok h.flags s ∧
      (tvb.getLetohs 1).run s = .ok h.sessionId.toNat s ∧
      (tvb.getGuint8 3).run s = .ok h.secFlags.toNat s ∧
      (tvb.getLetohl 4).run s = .ok h.counter.toNat s := by
  have hflags := h.flags_spec.1
  have hsec := h.secFlags.toNat_lt
  have hsess := h.sessionId.toNat_lt
  have hctr := h.counter.toNat_lt
  rw [MessageHeader.fixedPart] at hbytes
  refine ⟨?_, ?_, ?_, ?_⟩
  · exact Tvb.getLE_bytes [] (LE.bytes 2 h.sessionId.toNat ++ (LE.bytes 1 h.secFlags.toNat ++
      (LE.bytes 4 h.counter.toNat ++ rest))) s (by simp [hbytes]) rfl (by omega)
  · exact Tvb.getLE_bytes (LE.bytes 1 h.flags) (LE.bytes 1 h.secFlags.toNat ++
      (LE.bytes 4 h.counter.toNat ++ rest)) s (by simp [hbytes]) (by simp) (by omega)
  · exact Tvb.getLE_bytes (LE.bytes 1 h.flags ++ LE.bytes 2 h.sessionId.toNat)
      (LE.bytes 4 h.counter.toNat ++ rest) s (by simp [hbytes]) (by simp) (by omega)
  · exact Tvb.getLE_bytes _ rest s hbytes (by simp) (by omega)

/-- What the parse makes of an encoded header: a group id is not counted. -/
def parsedInfo (msgLen : Nat) : MatterMessageInfo where
  msgVersion := h.version
  msgFlags := h.flags
  secFlags := h.secFlags.toNat
  srcNodeId := h.source.elim 0 UInt64.toNat
  destNodeId := h.destination.nodeIdOrZero
  msgId := h.counter.toNat
  sessionType := h.secFlags.toNat % 4
  sessionId := h.sessionId.toNat
  msgLen := msgLen
  headerLen := 8 + h.sourceLen + if h.destination.dsiz = 1 then 8 else 0

theorem dissectHeader_encode (msgLen : Nat) (payload : List UInt8) :
    (dissectHeader msgLen (Tvb.ofBytes (h.encode ++ payload))).run s =
      .ok (parsedInfo h msgLen) s := by
  have hbytes : (Tvb.ofBytes (h.encode ++ payload)).bytes =
      h.fixedPart ++ h.encodeSource ++ h.destination.encode ++ payload := by
    simp [Tvb.ofBytes, MessageHeader.encode, MessageHeader.fixedPart]
  obtain ⟨hflags, hsession, hsecFlags, hcounter⟩ := dissectHeader_fixed s h _
    (by rw [hbytes, List.append_assoc, List.append_assoc])
  unfold dissectHeader
  rw [bind_ok hflags, bind_ok hsession, bind_ok hsecFlags, bind_ok hcounter]
  dsimp only
  rw [bind_ok (dissectNodeId_source s h (h.destination.encode ++ payload)
    (by rw [hbytes, List.append_assoc]))]
  dsimp only
  rw [bind_ok (dissectNodeId_destination s h payload hbytes), h.flags_spec.2.2.2,
    h.sessionType_eq]
  rfl

/-- The end of header agrees with the wire for every destination but a group id. -/
theorem destinationLen_iff (d : Destination) :
    (if d.dsiz = 1 then 8 else 0) = d.size ↔ d.isGroupId = false := by
  cases d <;> simp [Destination.dsiz, Destination.size, Destination.isGroupId]

/-- Over either transport, the header of a message is recovered exactly when its destination is
no group id. -/
theorem dissectMessage_encode_iff (ptype : PortType) (payload : List UInt8) :
    (∃ info, (dissectMessage ptype (ptype.frame (h.encode ++ payload))).run s =
        .ok (Tvb.ofBytes (h.encode ++ payload), info) s ∧ h.Recovered info) ↔
      h.destination.isGroupId = false := by
  have hrun : (dissectMessage ptype (ptype.frame (h.encode ++ payload))).run s =
      .ok (Tvb.ofBytes (h.encode ++ payload),
        parsedInfo h ((h.encode ++ payload).length % 2 ^ 16)) s := by
    rw [dissectMessage, bind_ok (transportMessage_frame s ptype _),
      bind_ok (dissectHeader_encode s h _ payload)]
    rfl
  rw [← destinationLen_iff, hrun]
  refine ⟨fun ⟨info, heq, hrec⟩ => ?_, fun hlen => ⟨_, rfl, ?_⟩⟩
  · cases heq
    exact Nat.add_left_cancel hrec.headerLen_eq
  · exact ⟨rfl, rfl, rfl, rfl, rfl, rfl, congrArg _ hlen⟩

/-- A message to group 1. -/
def groupMessageHeader : MessageHeader where
  version := 0
  reserved := false
  sessionId := 1
  secFlags := 1
  counter := 7
  source := none
  destination := .groupId 1
  noExtensions := by decide

/-- Its header is taken to end before the group id. -/
theorem dissectMessage_groupId :
    ¬ ∃ info, (dissectMessage .udp (PortType.udp.frame
        (groupMessageHeader.encode ++ [0xAA]))).run () =
          .ok (Tvb.ofBytes (groupMessageHeader.encode ++ [0xAA]), info) () ∧
      groupMessageHeader.Recovered info := by
  rintro ⟨info, hrun, hrec⟩
  have hparse : (dissectMessage .udp (PortType.udp.frame
      (groupMessageHeader.encode ++ [0xAA]))).run () =
        .ok (Tvb.ofBytes (groupMessageHeader.encode ++ [0xAA]),
          { msgVersion := 0, msgFlags := 2, secFlags := 1, srcNodeId := 0, destNodeId := 0,
            msgId := 7, sessionType := 1, sessionId := 1, msgLen := 11, headerLen := 8 }) () := by
    decide
  rw [hparse] at hrun
  cases hrun
  exact absurd hrec.headerLen_eq (by decide)

end

end Matter.Message
