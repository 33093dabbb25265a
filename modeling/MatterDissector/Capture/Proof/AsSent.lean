import MatterDissector.Capture.Proof.Sound

/-!
# Messages as they were sent

A capture may hold anything, in any order and repeated. Still every message in it that is unsecured,
or sealed with a key that the dissector has by then, is shown as its sender made it: both headers,
and behind them what its payload dissector makes of the payload, byte for byte
(`dissectCapture_asSent`). Messages to a group are left out: their header is not decoded as it is
sent.
-/

namespace Matter.Capture

open Prog Message Tracker Security

/-- A message as its sender made it, to no group. -/
structure SentMessage where
  header : MessageHeader
  protocol : ProtocolHeader
  payload : List UInt8
  notGroup : header.destination.isGroupId = false

namespace SentMessage

/-- What is sealed. -/
def plaintext (m : SentMessage) : List UInt8 := m.protocol.encode ++ m.payload

/-- What `DissectMatter` makes of the header. -/
def info (m : SentMessage) (msgLen : Nat) : MatterMessageInfo := parsedInfo m.header msgLen

theorem headerLen_info (m : SentMessage) (msgLen : Nat) :
    (m.info msgLen).headerLen = m.header.encode.length := by
  have hdest := (destinationLen_iff m.header.destination).2 m.notGroup
  show 8 + m.header.sourceLen + (if m.header.destination.dsiz = 1 then 8 else 0) = _
  rw [hdest, m.header.length_encode]

theorem recovered_info (m : SentMessage) (msgLen : Nat) : m.header.Recovered (m.info msgLen) :=
  ⟨rfl, rfl, rfl, rfl, rfl, rfl, by rw [headerLen_info, m.header.length_encode]⟩

end SentMessage

/-- In the state `st₀` the dissector has a key that opens the sealed message; in `st₁`, when the
message comes, it has none that opens it to anything else. -/
structure Opens (env : DecryptEnv) (file : Option (List MatterProxyHintKey)) (call : CallEnv)
    (st₀ st₁ : DecryptState) (m : SentMessage) (ciphertext tag : List UInt8) : Prop where
  length_ciphertext : ciphertext.length = m.plaintext.length
  length_tag : tag.length = cryptoTagLength
  key : ∃ call₀ c, IsCandidate env (st₀.refreshed (env.forCall file call₀ st₀)) (m.info 0) c ∧
    c.1.length = dataEncKeyLengthAES128CCM ∧
    env.evpDecrypt c.1 (ccmNonce { m.info 0 with srcNodeId := c.2 }) m.header.encode tag
      ciphertext = some m.plaintext
  only : ∀ c plaintext, IsCandidate env (st₁.refreshed (env.forCall file call st₁)) (m.info 0) c →
    env.evpDecrypt c.1 (ccmNonce { m.info 0 with srcNodeId := c.2 }) m.header.encode tag
      ciphertext = some plaintext → plaintext = m.plaintext

/-- The message on the wire. -/
inductive OnWire (env : DecryptEnv) (file : Option (List MatterProxyHintKey)) (call : CallEnv)
    (st₀ st₁ : DecryptState) (m : SentMessage) : List UInt8 → Prop
  | unsecured (hplain : messageIsEncrypted (m.info 0) = false) :
      OnWire env file call st₀ st₁ m (m.header.encode ++ m.plaintext)
  | secured {ciphertext tag : List UInt8} (henc : messageIsEncrypted (m.info 0) = true)
      (hopens : Opens env file call st₀ st₁ m ciphertext tag) :
      OnWire env file call st₀ st₁ m (m.header.encode ++ (ciphertext ++ tag))

/-! ## The search for the key -/

section
variable {env : DecryptEnv} {file : Option (List MatterProxyHintKey)} {call : CallEnv}
  {st₀ st₁ : DecryptState} {m : SentMessage} {ciphertext tag : List UInt8}

theorem sub32_length {xs ys : List UInt8} (h : (xs ++ ys).length < 2 ^ 16) :
    sub32 (xs ++ ys).length xs.length = ys.length := by
  have hlt : (xs ++ ys).length < 2 ^ 32 := by omega
  rw [sub32_of_le (by simp) hlt, List.length_append, Nat.add_sub_cancel_left]

theorem copied_front {xs ys : List UInt8} (h : (xs ++ ys).length < 2 ^ 16) :
    (Tvb.ofBytes (xs ++ ys)).copied 0 xs.length = some xs := by
  rw [List.length_append] at h
  rw [Tvb.copied, Tvb.ofBytes]
  simp only [Nat.not_lt_zero, if_false, List.length_append, Nat.zero_add, List.drop_zero]
  rw [if_neg (by omega), if_pos ⟨by omega, by omega⟩, List.take_left]

theorem copied_rest {xs ys : List UInt8} (h : (xs ++ ys).length < 2 ^ 16) :
    (Tvb.ofBytes (xs ++ ys)).copied xs.length ys.length = some ys := by
  rw [List.length_append] at h
  rw [Tvb.copied, Tvb.ofBytes]
  simp only [List.length_append, List.drop_left]
  rw [if_neg (by omega), if_neg (by omega), if_pos ⟨by omega, by omega⟩, List.take_length]

/-- An attempt at a sealed message. -/
theorem decryptWith_sealed (hlen : (ciphertext ++ tag).length < 2 ^ 16)
    (hpos : 0 < ciphertext.length) (htag : tag.length = cryptoTagLength)
    (msgInfo : MatterMessageInfo) (c : Candidate) :
    decryptWith env (ciphertext ++ tag) (ciphertext ++ tag).length m.header.encode msgInfo c =
      if c.1.length ≠ dataEncKeyLengthAES128CCM then none
      else env.evpDecrypt c.1 (ccmNonce { msgInfo with srcNodeId := c.2 }) m.header.encode tag
        ciphertext := by
  have hlength : (ciphertext ++ tag).length = ciphertext.length + 16 := by
    rw [List.length_append, htag]
    rfl
  unfold decryptWith
  by_cases hkey : c.1.length ≠ dataEncKeyLengthAES128CCM
  · rw [if_pos hkey, if_pos hkey]
  · have hkey' : c.1.length = 16 := Classical.not_not.1 hkey
    have hsub : sub32 (ciphertext ++ tag).length aesBlockSize = ciphertext.length := by
      rw [sub32_of_le (by rw [hlength]; exact Nat.le_add_left _ _) (by omega), hlength]
      exact Nat.add_sub_cancel _ _
    have htagAt : (((ciphertext ++ tag).length : Int) - (aesBlockSize : Int)).toNat =
        ciphertext.length := by
      rw [hlength]
      simp [aesBlockSize]
    have hwhole : tag.take aesBlockSize = tag := List.take_of_length_le (Nat.le_of_eq htag)
    have hnonempty : ciphertext ≠ [] := List.ne_nil_of_length_pos hpos
    have hmax : ciphertext.length ≤ Message.intMax := by
      unfold Message.intMax
      omega
    rw [if_neg hkey, if_neg hkey, aesCcmDecrypt, if_pos]
    · simp only [hsub, htagAt, List.drop_left, List.take_left, hwhole]
    · simp only [CcmCall.checkArgs, CcmCall.checkLength, hsub]
      simp [hnonempty, hkey', hpos, hmax]

/-- What is found for a sealed message, whatever has been learned in the meantime. -/
theorem findPlaintext_sealed (hopens : Opens env file call st₀ st₁ m ciphertext tag)
    (hgrown : Grown st₀ st₁)
    (hlen : (m.header.encode ++ (ciphertext ++ tag)).length < 2 ^ 16) :
    findPlaintext (env.forCall file call st₁) st₁
      (.ofBytes (m.header.encode ++ (ciphertext ++ tag))) m.header.encode.length
      (m.info (m.header.encode ++ (ciphertext ++ tag)).length) = some m.plaintext := by
  obtain ⟨hct, htag, ⟨call₀, c, hc, hkey, hopen⟩, honly⟩ := hopens
  have hpos : 0 < ciphertext.length := by
    rw [hct, SentMessage.plaintext, List.length_append, m.protocol.length_encode]
    omega
  have hlen' : (ciphertext ++ tag).length < 2 ^ 16 := by
    rw [List.length_append] at hlen
    omega
  generalize hinfo : m.info (m.header.encode ++ (ciphertext ++ tag)).length = msgInfo
  have hmsgLen : sub32 msgInfo.msgLen m.header.encode.length = (ciphertext ++ tag).length := by
    rw [← hinfo]
    exact sub32_length hlen
  have hauth : ∀ c, decryptMessageWith (env.forCall file call st₁)
      (.ofBytes (m.header.encode ++ (ciphertext ++ tag))) m.header.encode.length msgInfo c =
      if c.1.length ≠ dataEncKeyLengthAES128CCM then none
      else env.evpDecrypt c.1 (ccmNonce { msgInfo with srcNodeId := c.2 }) m.header.encode tag
        ciphertext := by
    intro c
    rw [decryptMessageWith, hmsgLen, copied_rest hlen, copied_front hlen]
    exact decryptWith_sealed hlen' hpos htag msgInfo c
  have hcandidate : IsCandidate env (st₁.refreshed (env.forCall file call st₁)) msgInfo c :=
    hinfo ▸ isCandidate_grown hgrown hc
  have hfound : (decryptMessageWith (env.forCall file call st₁)
      (.ofBytes (m.header.encode ++ (ciphertext ++ tag))) m.header.encode.length msgInfo c).isSome
        = true := by
    rw [hauth, if_neg (fun hne => hne hkey), ← hinfo]
    exact Option.isSome_iff_exists.2 ⟨_, hopen⟩
  obtain ⟨plaintext, hfind⟩ := Option.isSome_iff_exists.1 (findKey_isSome hcandidate hfound)
  obtain ⟨c', hc', hplaintext⟩ := exists_of_findKey hfind
  rw [hauth] at hplaintext
  split at hplaintext
  · cases hplaintext
  · rw [← hinfo] at hc' hplaintext
    rw [← honly c' plaintext hc' hplaintext]
    exact hfind

end

/-! ## The body -/

section
variable {env : DecryptEnv} {file : Option (List MatterProxyHintKey)} {call : CallEnv}
  {st₀ st₁ : DecryptState} {m : SentMessage} {bytes : List UInt8}

theorem OnWire.header (hwire : OnWire env file call st₀ st₁ m bytes) :
    ∃ rest, bytes = m.header.encode ++ rest ∧ m.payload.length ≤ rest.length := by
  have hpayload : m.payload.length ≤ m.plaintext.length := by
    rw [SentMessage.plaintext, List.length_append]
    exact Nat.le_add_left _ _
  cases hwire with
  | unsecured => exact ⟨_, rfl, hpayload⟩
  | secured henc hopens =>
    refine ⟨_, rfl, hpayload.trans ?_⟩
    rw [List.length_append, hopens.length_ciphertext]
    exact Nat.le_add_right _ _

/-- The body of a message as it was sent: the plaintext, and where the tag was what `g_malloc` has
left there. -/
theorem unencryptedMessage_onWire (hwire : OnWire env file call st₀ st₁ m bytes)
    (hgrown : Grown st₀ st₁) (hmalloc : IsMalloc call.malloc) (hlen : bytes.length < 2 ^ 16) :
    ∃ body s₁ trailer,
      (unencryptedMessage (env.forCall file call st₁) (.ofBytes bytes)
        (m.info bytes.length)).run ⟨st₁, {}⟩ = .ok (some body) s₁ ∧
      body.bytes = m.protocol.encode ++ m.payload ++ trailer ∧
      trailer.length =
        if messageIsEncrypted (m.info bytes.length) then cryptoTagLength else 0 := by
  cases hwire with
  | unsecured hplain =>
    have hplain' : messageIsEncrypted (m.info (m.header.encode ++ m.plaintext).length) = false :=
      hplain
    have hrest : ((Tvb.ofBytes (m.header.encode ++ m.plaintext)).newSubsetRemaining
        m.header.encode.length : BodyM Tvb).run ⟨st₁, {}⟩ =
        .ok (.ofBytes m.plaintext) ⟨st₁, {}⟩ := by
      rw [Tvb.newSubsetRemaining, Tvb.ofBytes]
      dsimp only
      rw [if_pos (by simp), List.drop_left, List.length_append, Nat.add_sub_cancel_left]
      rfl
    refine ⟨.ofBytes m.plaintext, ⟨st₁, {}⟩, [], ?_, ?_, ?_⟩
    · rw [unencryptedMessage, hplain', if_neg Bool.false_ne_true, m.headerLen_info]
      exact map_ok hrest
    · exact (List.append_nil _).symm
    · rw [hplain']
      rfl
  | @secured ciphertext tag henc hopens =>
    generalize hinfo : m.info (m.header.encode ++ (ciphertext ++ tag)).length = msgInfo
    have henc' : messageIsEncrypted msgInfo = true := hinfo ▸ henc
    have hheader : msgInfo.headerLen = m.header.encode.length := hinfo ▸ m.headerLen_info _
    have hfind := findPlaintext_sealed hopens hgrown hlen
    rw [hinfo] at hfind
    obtain ⟨calls, htry⟩ := tryDecryptMessage_found henc' hfind
    have hdataLen : sub32 msgInfo.msgLen m.header.encode.length =
        m.plaintext.length + cryptoTagLength := by
      rw [← hinfo]
      refine (sub32_length hlen).trans ?_
      rw [List.length_append, hopens.length_ciphertext, hopens.length_tag]
    have hdecrypt : (BodyM.decrypt (tryDecryptMessage (env.forCall file call st₁)
        (.ofBytes (m.header.encode ++ (ciphertext ++ tag))) msgInfo.headerLen msgInfo)).run
          ⟨st₁, {}⟩ = .ok (some _) _ := zoom_eq_ok.2 ⟨_, hheader ▸ htry, rfl⟩
    obtain ⟨s₁, hrun⟩ : ∃ s₁, (unencryptedMessage (env.forCall file call st₁)
        (.ofBytes (m.header.encode ++ (ciphertext ++ tag))) msgInfo).run ⟨st₁, {}⟩ =
        .ok (some (unencBuffer (env.forCall file call st₁) msgInfo msgInfo.headerLen
          m.plaintext)) s₁ := by
      rw [unencryptedMessage, if_pos henc', decryptedMessage, bind_ok hdecrypt]
      exact ⟨_, rfl⟩
    refine ⟨_, s₁, (call.malloc (m.plaintext.length + cryptoTagLength)).drop m.plaintext.length,
      hrun, ?_, ?_⟩
    · unfold unencBuffer
      dsimp only
      rw [hheader, hdataLen]
      rfl
    · rw [henc', if_pos rfl, List.length_drop, hmalloc]
      exact Nat.add_sub_cancel_left _ _

end

/-! ## The packet -/

section
variable {env : DissectorEnv} {denv : DecryptEnv} {file : Option (List MatterProxyHintKey)}
  {call : CallEnv} {st st₀ st₁ : DecryptState} {msgs : List TrackedMessage}
  {s s' : DissectorState} {m : SentMessage} {bytes : List UInt8}

/-- The header of a message as it was sent. -/
theorem dissectMessage_onWire (hwire : OnWire denv file call st₀ st₁ m bytes)
    (hlen : bytes.length < 2 ^ 16) (ptype : PortType) :
    (dissectMessage ptype (ptype.frame bytes)).run s =
      .ok (.ofBytes bytes, m.info bytes.length) s := by
  obtain ⟨rest, hheader, -⟩ := hwire.header
  have htransport := transportMessage_frame s ptype bytes
  rw [Nat.mod_eq_of_lt hlen] at htransport
  rw [dissectMessage, bind_ok htransport]
  dsimp only
  rw [hheader, bind_ok (dissectHeader_encode s m.header _ rest)]
  rfl

/-- The protocol header of a message as it was sent, and its payload in the body. -/
theorem dissectBody_onWire (hwire : OnWire denv file call st₀ s.decrypt m bytes)
    (hgrown : Grown st₀ s.decrypt) (hmalloc : IsMalloc call.malloc)
    (hlen : bytes.length < 2 ^ 16) :
    ∃ body trailer protocol decrypt,
      (DissectorM.body (dissectBody (denv.forCall file call s.decrypt) (.ofBytes bytes)
        (m.info bytes.length))).run s =
        .ok (some (body, m.protocol.encode.length), protocol) { s with decrypt } ∧
      body.bytes = m.protocol.encode ++ m.payload ++ trailer ∧
      m.protocol.Recovered protocol.info ∧ protocol.info.payloadLen = m.payload.length := by
  obtain ⟨body, s₁, trailer, hbody, hbytes, htrailer⟩ :=
    unencryptedMessage_onWire hwire hgrown hmalloc hlen
  obtain ⟨-, b, hdissect, hinfo⟩ := dissectBody_encode hbody hbytes htrailer
  have hstart := unencryptedMessage_eq_ok hbody
  have hrest : body.bytes = m.protocol.encode ++ (m.payload ++ trailer) := by
    rw [hbytes, List.append_assoc]
  have hoffset : 6 + 2 * m.protocol.v + 4 * m.protocol.a = m.protocol.encode.length :=
    m.protocol.length_encode.symm
  refine ⟨body, trailer, b.protocol, b.decrypt, ?_, hbytes, ?_, ?_⟩
  · rw [hoffset] at hdissect
    unfold DissectorM.body
    dsimp only
    rw [hdissect]
  · rw [hinfo]
    exact recovered_withBody hrest (by rw [hstart]) (by rw [hstart])
  · obtain ⟨rest, hheader, hpayloadLe⟩ := hwire.header
    have hlt : m.payload.length < 2 ^ 16 := by
      rw [hheader, List.length_append] at hlen
      omega
    have htrailerLen : s₁.protocol.info.trailerLen = trailer.length := by
      rw [hstart, htrailer]
    rw [hinfo, payloadLen_withBody, vBit_encode hrest, aBit_encode hrest, htrailerLen, hbytes,
      hoffset, List.length_append, List.length_append]
    omega

/-- A message as it was sent has all its bytes behind the header. -/
theorem complete_onWire (hwire : OnWire denv file call st₀ st₁ m bytes)
    (hlen : bytes.length < 2 ^ 16) (pinfo : PacketInfo) (info : ProtocolInfo) :
    (⟨.ofBytes bytes, pinfo, { m.info bytes.length, info with }⟩ : TrackedMessage).complete =
      true := by
  obtain ⟨rest, hheader, -⟩ := hwire.header
  have hmsgLen : sub32 bytes.length m.header.encode.length = rest.length := by
    rw [hheader] at hlen ⊢
    exact sub32_length hlen
  rw [TrackedMessage.complete, decide_eq_true_eq, TrackedMessage.bodyLen]
  show (m.info bytes.length).headerLen +
    sub32 bytes.length (m.info bytes.length).headerLen ≤ bytes.length
  rw [m.headerLen_info, hmsgLen, hheader, List.length_append]

/-- A payload dissector at work on exactly the payload. -/
def SentMessage.dissectPayload (m : SentMessage) (env : DissectorEnv)
    (msgInfo : DecodedMessageInfo) (msgRec : RecordRef) : DissectorM Payload :=
  Payload.mk m.payload <$> Capture.dissectPayload env msgInfo (.ofBytes m.payload) msgRec

/-- The headers are those of the message. -/
structure HeadersAs (m : SentMessage) (msgInfo : DecodedMessageInfo) : Prop where
  header : m.header.Recovered msgInfo.toMatterMessageInfo
  protocol : m.protocol.Recovered msgInfo.toProtocolInfo
  payloadLen : msgInfo.payloadLen = m.payload.length

/-- The payload in the body is what its dissector gets. -/
theorem showPayload_onWire {msgInfo : DecodedMessageInfo} {body : Tvb} {trailer : List UInt8}
    (hbody : body.bytes = m.protocol.encode ++ m.payload ++ trailer)
    (hheaders : HeadersAs m msgInfo) (p : RecordRef) :
    (showPayload env msgInfo body m.protocol.encode.length p).run s =
      (m.dissectPayload env msgInfo p).run s := by
  have hsubset : (body.newSubsetLength m.protocol.encode.length msgInfo.payloadLen :
      DissectorM Tvb).run s = .ok (.ofBytes m.payload) s := by
    rw [Tvb.newSubsetLength, hbody, hheaders.payloadLen, if_pos (by simp), List.append_assoc,
      List.drop_left, List.take_left]
    rfl
  rw [showPayload, bind_ok hsubset]
  rfl

/-- The message `tm` of a packet is the one that was sent: what the tracker says of it, and what its
payload dissector does. -/
structure Delivered (env : DissectorEnv) (pinfo : PacketInfo) (msgs : List TrackedMessage)
    (s : DissectorState) (m : SentMessage) (tm : TrackedMessage) (a : Annotations)
    (t : DissectorState) (payload : Except TvbError Payload) (s' : DissectorState) : Prop where
  pinfo_eq : tm.pinfo = pinfo
  complete : tm.complete = true
  headers : HeadersAs m tm.msgInfo
  tracked : Tracked env.tracker msgs tm a t.tracker
  grown : Grown s.decrypt t.decrypt
  kept : t = { s with decrypt := t.decrypt, tracker := t.tracker }
  payload : (attempt (m.dissectPayload env tm.msgInfo a.msgRec)).run t = .ok payload s'

/-- `DissectMatter` on a message as it was sent, in any state between packets. -/
theorem dissectMatter_onWire (env : DissectorEnv)
    (henv : env.decrypt = denv.forCall file call s.decrypt)
    (hs : Sound env.tracker st msgs s) (hwire : OnWire denv file call st₀ s.decrypt m bytes)
    (hgrown : Grown st₀ s.decrypt) (hlen : bytes.length < 2 ^ 16) (hmalloc : IsMalloc call.malloc)
    {pinfo : PacketInfo} {result : Except TvbError Shown}
    (hrun : (attempt (dissectMatter env pinfo (pinfo.ptype.frame bytes))).run s =
      .ok result s') :
    ∃ tm a t items payload, Delivered env pinfo msgs s m tm a t payload s' ∧
      result = .ok (.message tm.msgInfo items (framesOf t.tracker a) payload) := by
  obtain ⟨body, trailer, protocol, decrypt, hbody, hbytes, hprotocol, hpayload⟩ :=
    dissectBody_onWire hwire hgrown hmalloc hlen
  rw [← henv] at hbody
  have hgrown' : Grown s.decrypt decrypt := by
    have hkeeps : Keeps (fun t : BodyState => Grown s.decrypt t.decrypt)
        (dissectBody env.decrypt (.ofBytes bytes) (m.info bytes.length)) := dissectBody_keeps
    have hend := body_ends hkeeps s rfl
    rw [hbody] at hend
    obtain ⟨decrypt', hgrown', hdecrypt⟩ := hend
    rw [show decrypt = decrypt' from congrArg DissectorState.decrypt hdecrypt]
    exact hgrown'
  have hcomplete := complete_onWire hwire hlen pinfo protocol.info
  generalize htm : (⟨.ofBytes bytes, pinfo, { m.info bytes.length, protocol.info with }⟩ :
    TrackedMessage) = tm at hcomplete
  have hheaders : HeadersAs m tm.msgInfo := by
    subst htm
    exact ⟨m.recovered_info bytes.length, hprotocol, hpayload⟩
  have hdecoded : (dissectMatter env pinfo (pinfo.ptype.frame bytes)).run s =
      (dissectDecoded env tm body m.protocol.encode.length protocol.items).run
        { s with decrypt } := by
    rw [dissectMatter, bind_ok (dissectMessage_onWire hwire hlen pinfo.ptype), bind_ok hbody, ← htm]
  obtain ⟨done, htracks⟩ := hs.tracks
  have htracks' : Tracks env.tracker msgs done ({ s with decrypt } : DissectorState).tracker :=
    htracks
  rcases dissectDecoded_cases htracks' tm body m.protocol.encode.length protocol.items with
    ⟨a, t, htracked, hshow⟩ | ⟨hincomplete, -⟩
  · rw [run_attempt, hdecoded, hshow, run_bind, run_attempt, showPayload_onWire hbytes hheaders,
      ← run_attempt] at hrun
    refine ⟨tm, a, { s with decrypt, tracker := t }, protocol.items, ?_⟩
    cases hattempt : (attempt (m.dissectPayload env tm.msgInfo a.msgRec)).run
        { s with decrypt, tracker := t } with
    | ok payload s₁ =>
      rw [hattempt] at hrun
      cases hrun
      refine ⟨payload, ?_, rfl⟩
      exact ⟨by rw [← htm], hcomplete, hheaders, htracked, hgrown', rfl, hattempt⟩
    | err e s₁ =>
      rw [hattempt] at hrun
      exact absurd hattempt (NeverFails.attempt _ _ _ _)
    | fault f =>
      rw [hattempt] at hrun
      cases hrun
  · exact absurd hcomplete hincomplete

/-- A packet that carries a message as it was sent. -/
theorem dissectPacket_onWire {packet : Packet} (hs : Sound env.tracker st msgs s)
    (hwire : OnWire env.decrypt file packet.call st₀ s.decrypt m bytes)
    (hgrown : Grown st₀ s.decrypt) (hframe : packet.frame = packet.pinfo.ptype.frame bytes)
    (hlen : bytes.length < 2 ^ 16) (hmalloc : IsMalloc packet.call.malloc)
    {result : Except TvbError Shown}
    (hrun : (attempt (dissectPacket env file packet)).run s = .ok result s') :
    ∃ tm a t items payload, Delivered env packet.pinfo msgs s m tm a t payload s' ∧
      result = .ok (.message tm.msgInfo items (framesOf t.tracker a) payload) := by
  have hpacket : (dissectPacket env file packet).run s =
      (dissectMatter { env with decrypt := env.decrypt.forCall file packet.call s.decrypt }
        packet.pinfo (packet.pinfo.ptype.frame bytes)).run s := by
    rw [dissectPacket, gets_bind, hframe]
  rw [run_attempt, hpacket, ← run_attempt] at hrun
  obtain ⟨tm, a, t, items, payload, h, hresult⟩ :=
    dissectMatter_onWire { env with decrypt := env.decrypt.forCall file packet.call s.decrypt } rfl
      hs hwire hgrown hlen hmalloc hrun
  refine ⟨tm, a, t, items, payload, ?_, hresult⟩
  exact ⟨h.pinfo_eq, h.complete, h.headers, h.tracked, h.grown, h.kept, h.payload⟩

end

/-! ## The capture -/

/-- The message is shown as it was sent, and behind it what its payload dissector has returned or
thrown, at work on exactly the payload. -/
def DispatchedAs (env : DissectorEnv) (m : SentMessage) (result : Except TvbError Shown) : Prop :=
  ∃ msgInfo items frames payload msgRec s s',
    result = .ok (.message msgInfo items frames payload) ∧ HeadersAs m msgInfo ∧
      (attempt (m.dissectPayload env msgInfo msgRec)).run s = .ok payload s'

section
variable {env : DissectorEnv} {file : Option (List MatterProxyHintKey)} {st : DecryptState}
  {capture : List Packet} {results₀ results₁ : List (Except TvbError Shown)}
  {s₀ s₁ : DissectorState}

theorem PacketStep.grown {pinfo : PacketInfo} {msgs : List TrackedMessage}
    {result : Except TvbError Shown} (h : PacketStep env pinfo msgs s₀ result s₁) :
    Grown s₀.decrypt s₁.decrypt := by
  cases h with
  | message hpinfo htracked hgrown hpayload =>
    cases hpayload with
    | keeps hs' =>
      rw [hs']
      exact hgrown
    | security hstep hs' =>
      rw [hs']
      exact hgrown.trans hstep.grown
  | other hresult hgrown => exact hgrown

/-- The state after `n` packets has grown from that after the first `k`. -/
theorem dissectCapture_grown {k n : Nat} (hkn : k ≤ n)
    (hk : (dissectCapture env file (capture.take k)).run (.start st) = .ok results₀ s₀)
    (hn : (dissectCapture env file (capture.take n)).run (.start st) = .ok results₁ s₁) :
    Grown s₀.decrypt s₁.decrypt := by
  induction hkn generalizing results₁ s₁ with
  | refl =>
    cases hk.symm.trans hn
    exact .refl _
  | @step n _ ih =>
    rw [List.take_add_one] at hn
    cases hpacket : capture[n]? with
    | none =>
      rw [hpacket, Option.toList_none, List.append_nil] at hn
      exact ih hn
    | some packet =>
      rw [hpacket] at hn
      obtain ⟨results, result, s, hcapture, hpacket, -⟩ := dissectCapture_concat.1 hn
      obtain ⟨msgs, hafter⟩ := dissectCapture_after hcapture
      exact (ih hcapture).trans (hafter.step hpacket).grown

/-- The next packet, if it carries a message as it was sent. -/
theorem After.asSent {capture : List Packet} {results : List (Except TvbError Shown)}
    {msgs : List TrackedMessage} {s s' : DissectorState}
    (h : After env file st capture results msgs s) {st₀ : DecryptState} {packet : Packet}
    {m : SentMessage} {bytes : List UInt8}
    (hwire : OnWire env.decrypt file packet.call st₀ s.decrypt m bytes)
    (hgrown : Grown st₀ s.decrypt) (hframe : packet.frame = packet.pinfo.ptype.frame bytes)
    (hlen : bytes.length < 2 ^ 16) (hmalloc : IsMalloc packet.call.malloc)
    {result : Except TvbError Shown}
    (hrun : (attempt (dissectPacket env file packet)).run s = .ok result s') :
    DispatchedAs env m result := by
  obtain ⟨tm, a, t, items, payload, hdelivered, rfl⟩ :=
    dissectPacket_onWire h.sound hwire hgrown hframe hlen hmalloc hrun
  exact ⟨_, items, _, payload, _, _, _, rfl, hdelivered.headers, hdelivered.payload⟩

/-- Every message of a capture that is unsecured or sealed with a key that the dissector has by
then is shown as it was sent, whatever else has come before it. -/
theorem dissectCapture_asSent (env : DissectorEnv) (file : Option (List MatterProxyHintKey))
    (st : DecryptState) (capture : List Packet)
    {results results₀ results₁ : List (Except TvbError Shown)} {s' s₀ s₁ : DissectorState}
    (hrun : (dissectCapture env file capture).run (.start st) = .ok results s') {k n : Nat}
    (hkn : k ≤ n)
    (hk : (dissectCapture env file (capture.take k)).run (.start st) = .ok results₀ s₀)
    (hn : (dissectCapture env file (capture.take n)).run (.start st) = .ok results₁ s₁)
    {packet : Packet} {m : SentMessage} {bytes : List UInt8} (hpacket : capture[n]? = some packet)
    (hwire : OnWire env.decrypt file packet.call s₀.decrypt s₁.decrypt m bytes)
    (hframe : packet.frame = packet.pinfo.ptype.frame bytes) (hlen : bytes.length < 2 ^ 16)
    (hmalloc : IsMalloc packet.call.malloc) :
    ∃ result, results[n]? = some result ∧ DispatchedAs env m result := by
  obtain ⟨s₂, s₃, result, hresult, hbefore, hpacket', -⟩ := dissectCapture_at hrun hpacket
  cases hbefore.symm.trans hn
  obtain ⟨msgs, hafter⟩ := dissectCapture_after hbefore
  have hgrown := dissectCapture_grown hkn hk hbefore
  exact ⟨result, hresult, hafter.asSent hwire hgrown hframe hlen hmalloc hpacket'⟩

end

/-! ## A capture of two packets -/

/-- An empty structure in session 1. -/
def sealedSent : SentMessage where
  header := { plainMessageHeader with sessionId := 1 }
  protocol :=
    { exchangeFlags := 1
      opcode := 0x20
      exchangeId := 1
      protocolId := 0
      vendorId := none
      ackCounter := none
      noExtensions := by decide
      vendorId_iff := by decide
      ackCounter_iff := by decide }
  payload := [0x15, 0x18]
  notGroup := rfl

/-- The message as node 2 has sealed it. -/
def sealedPacket (num : Nat) : Packet where
  pinfo := ⟨num, .udp, 0⟩
  frame := PortType.udp.frame (sealedSent.header.encode ++ (sealedCiphertext ++ sealedTag))
  call := ⟨false, sealedEnv.malloc⟩

def sealedDissector : DissectorEnv where
  decrypt := sealedEnv
  tracker := crc32Ccitt
  im := IM.plainEnv
  case := generatorCaseEnv
  kdf := generatorKdf

/-- It comes, is dissected again, and is sent again. -/
def sealedCapture : List Packet := [sealedPacket 1, sealedPacket 1, sealedPacket 2]

theorem onWire_sealedSent (call : CallEnv) (st : DecryptState) :
    OnWire sealedEnv none call emptyDecryptState st sealedSent
      (sealedSent.header.encode ++ (sealedCiphertext ++ sealedTag)) := by
  refine .secured (by decide) ⟨rfl, rfl, ⟨⟨false, sealedEnv.malloc⟩, (sharedKey, 2), ?_, rfl, rfl⟩,
    fun c plaintext _ h => ?_⟩
  · exact .inr (.inl ⟨_, List.mem_singleton_self _, 2, by decide, rfl⟩)
  · have hplaintext : sealedPlaintext = plaintext := by
      unfold sealedEnv sealedCipher at h
      dsimp only at h
      split at h
      · exact Option.some.inj h
      · cases h
    exact hplaintext.symm

/-- The third packet is shown. -/
theorem dissectCapture_sealedCapture : ∃ results s' shown,
    (dissectCapture sealedDissector none sealedCapture).run (.start emptyDecryptState) =
      .ok results s' ∧ results[2]? = some (.ok shown) := by
  have hrun : ((dissectCapture sealedDissector none sealedCapture).run
      (.start emptyDecryptState)).okAnd (fun results _ => results[2]?.any Except.isOk) = true := by
    decide +kernel
  obtain ⟨results, s', heq, hshown⟩ := Outcome.exists_of_okAnd hrun
  obtain ⟨result, hresult, hok⟩ := (Option.any_eq_true _ _).1 hshown
  cases result with
  | ok shown => exact ⟨results, s', shown, heq, hresult⟩
  | error e => cases hok

theorem dissectCapture_frames_again : ∃ results s' shown,
    (dissectCapture sealedDissector none sealedCapture).run (.start emptyDecryptState) =
      .ok results s' ∧ results[2]? = some (.ok shown) ∧ shown.AmongSeen 2 [1, 1, 2] := by
  have hpacket : sealedCapture[2]? = some (sealedPacket 2) := rfl
  obtain ⟨results, s', shown, hrun, hshown⟩ := dissectCapture_sealedCapture
  exact ⟨results, s', shown, hrun, hshown, dissectCapture_frames sealedDissector none
    emptyDecryptState sealedCapture hrun hpacket hshown⟩

theorem dissectCapture_asSent_again : ∃ results s' result,
    (dissectCapture sealedDissector none sealedCapture).run (.start emptyDecryptState) =
      .ok results s' ∧ results[2]? = some result ∧
      DispatchedAs sealedDissector sealedSent result := by
  have hpacket : sealedCapture[2]? = some (sealedPacket 2) := rfl
  have hstart : (dissectCapture sealedDissector none (sealedCapture.take 0)).run
      (.start emptyDecryptState) = .ok [] (.start emptyDecryptState) := rfl
  obtain ⟨results, s', -, hrun, -⟩ := dissectCapture_sealedCapture
  obtain ⟨s₁, -, -, -, hbefore, -, -⟩ := dissectCapture_at hrun hpacket
  obtain ⟨result, hresult, hdispatched⟩ := dissectCapture_asSent sealedDissector none
    emptyDecryptState sealedCapture hrun (Nat.zero_le 2) hstart hbefore hpacket
    (onWire_sealedSent _ _) rfl (by decide) fun _ => List.length_replicate
  exact ⟨results, s', result, hrun, hresult, hdispatched⟩

end Matter.Capture
