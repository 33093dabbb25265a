import MatterDissector.Capture.Proof.Exchange
import MatterDissector.Security.Proof.Exchange

/-!
# A session from its exchange on

Where the keys of a CASE exchange give its secret away, the dissector reads the session from then
on: in a capture with the two messages of the exchange, a later message that a party seals with the
session key is shown as it was sent, whatever came before the exchange, between its messages and
before the message (`caseSession_asSent`).
-/

namespace Matter.Capture

open Prog Message Tracker Security Ecdh

/-- An exchange on the curve, with the private keys `a` and `b`, that gives its secret away. -/
structure OpenExchange {E : Type} [AddCommGroup E] (c : Curve E) (a b : Nat)
    (env : CaseEnv) (req resp : List UInt8) : Prop where
  curve : curveGenerator (requestOf req).proposedCurveId = some (c.encode c.generator)
  generator_ne : c.generator ≠ 0
  reqKey_ne : c.publicKey a ≠ 0
  respKey_ne : c.publicKey b ≠ 0
  reqKey : (exchangeRecord env req resp).reqECDHPublicKey = c.encode (c.publicKey a)
  respKey : (exchangeRecord env req resp).respECDHPublicKey = c.encode (c.publicKey b)
  supported : Supported (exchangeRecord env req resp)
  given : c.publicKey a = c.generator ∨ c.publicKey b = c.generator

/-- In the state `st` no key that is tried on the message, which was sealed with a key of its
session, opens it to anything else. -/
structure SealedWith (env : DecryptEnv) (file : Option (List MatterProxyHintKey)) (call : CallEnv)
    (st : DecryptState) (key : MessageEncryptionKey) (m : SentMessage)
    (ciphertext tag : List UInt8) : Prop where
  encrypted : messageIsEncrypted (m.info 0) = true
  sessionId : (m.info 0).sessionId = key.keyId
  length_ciphertext : ciphertext.length = m.plaintext.length
  length_tag : tag.length = cryptoTagLength
  opens : env.evpDecrypt key.dataEncKey (ccmNonce (m.info 0)) m.header.encode tag ciphertext =
    some m.plaintext
  only : ∀ c plaintext, IsCandidate env (st.refreshed (env.forCall file call st)) (m.info 0) c →
    env.evpDecrypt c.1 (ccmNonce { m.info 0 with srcNodeId := c.2 }) m.header.encode tag
      ciphertext = some plaintext → plaintext = m.plaintext

/-- The packets `i` and `j` carry the first two messages of a CASE exchange. Both are dissected to
their end, and no other request of the exchange is in between. -/
structure BeginsSession (env : DissectorEnv) (capture : List Packet)
    (results : List (Except TvbError Shown)) (i j : Nat) (req resp : SentMessage) : Prop where
  lt : i < j
  request : ∃ packet, SecuritySent capture i packet req msgTypeCASEBeginSessionRequest
  response : ∃ packet, SecuritySent capture j packet resp msgTypeCASEBeginSessionResponse
  exchangeKey_eq : resp.exchangeKey = req.exchangeKey
  request_decodes : RequestDecodes env.case.host req.payload
  response_decodes : ResponseDecodes env.case.host resp.payload
  noOther : NoOtherRequest capture results req.exchangeKey req.payload i j

/-- The session key, as the responder derives it. -/
def sessionKey (env : DissectorEnv) {E : Type} [AddCommGroup E] (c : Curve E) (a b : Nat)
    (req resp : SentMessage) : MessageEncryptionKey :=
  sessionKeyOf env.kdf (exchangeRecord env.case req.payload resp.payload)
    (c.shared b (c.publicKey a))

/-! ## The key in the table -/

section
variable {env : DecryptEnv} {file : Option (List MatterProxyHintKey)} {call : CallEnv}
  {st₀ st₁ : DecryptState} {key : MessageEncryptionKey} {m : SentMessage}
  {ciphertext tag : List UInt8}

/-- An entry with the bytes of the key is tried with the source node id of the message, unless it
brings one of its own. -/
theorem tableCandidate_sameKey {entry : MessageEncryptionKey} {msgInfo : MatterMessageInfo}
    (hsame : entry.isSameKey key = true)
    (hown : entry.srcNodeId = 0 ∨ msgInfo.srcNodeId ≠ 0) :
    tableCandidate msgInfo entry = (key.dataEncKey, msgInfo.srcNodeId) := by
  rw [tableCandidate, (MessageEncryptionKey.isSameKey_iff.1 hsame).2, if_neg]
  rintro ⟨hne, hzero⟩
  exact hown.elim hne fun h => h hzero

/-- With the key in the table, the message can be opened. -/
theorem SealedWith.onWire (h : SealedWith env file call st₁ key m ciphertext tag)
    (hlength : key.dataEncKey.length = dataEncKeyLengthAES128CCM)
    (hentry : ∃ entry ∈ st₀.keyTable.findKeysById key.keyId,
      tableCandidate (m.info 0) entry = (key.dataEncKey, (m.info 0).srcNodeId)) :
    OnWire env file call st₀ st₁ m (m.header.encode ++ (ciphertext ++ tag)) := by
  obtain ⟨entry, hmem, hcandidate⟩ := hentry
  have hrefreshed := (grown_refreshed (env.forCall file ⟨false, env.malloc⟩ st₀) st₀).keyTable
  refine .secured h.encrypted ⟨h.length_ciphertext, h.length_tag,
    ⟨⟨false, env.malloc⟩, _, .inl ⟨entry, ?_, hcandidate.symm⟩, hlength, h.opens⟩, h.only⟩
  rw [h.sessionId]
  exact hrefreshed _ entry hmem

end

theorem length_sessionKeyOf (kdf : KdfEnv) (r : CASEExchangeRecord) (sharedSecret : List UInt8) :
    (sessionKeyOf kdf r sharedSecret).dataEncKey.length = dataEncKeyLengthAES128CCM := by
  have hsize := (kdf.hashAlgo r.config).size_pos
  rw [sessionKeyOf, hkdf, List.length_take, length_hkdfBlocks]
  exact Nat.min_eq_left (by unfold dataEncKeyLengthAES128CCM; omega)

/-- The two messages of an exchange that gives its secret away leave the session key in the
table. -/
theorem BeginsSession.sessionKey_known {env : DissectorEnv}
    {file : Option (List MatterProxyHintKey)} {st : DecryptState} {capture : List Packet}
    {results results₀ : List (Except TvbError Shown)} {s' s₀ : DissectorState} {i j : Nat}
    {req resp : SentMessage} (h : BeginsSession env capture results i j req resp)
    (hrun : (dissectCapture env file capture).run (.start st) = .ok results s')
    (hj : (dissectCapture env file (capture.take (j + 1))).run (.start st) = .ok results₀ s₀)
    (hkdf : env.kdf.Succeeds) {E : Type} [AddCommGroup E] [DecidableEq E] {c : Curve E} {a b : Nat}
    (hopen : OpenExchange c a b env.case req.payload resp.payload) :
    ∃ entry ∈ s₀.decrypt.keyTable.findKeysById (sessionKey env c a b req resp).keyId,
      entry.isSameKey (sessionKey env c a b req resp) = true := by
  obtain ⟨packet, hrequest⟩ := h.request
  obtain ⟨packet', hresponse⟩ := h.response
  obtain ⟨msgs, p₀, s, hafter, hleads⟩ := request_leads hrequest hrun h.request_decodes
  have hlt : j ≤ capture.length := (List.getElem?_eq_some_iff.1 hresponse.packet_eq).1.le
  obtain ⟨msgs', t, hafter', hleads'⟩ :=
    hleads.run hrun h.noOther hafter h.lt (Nat.le_refl j) hlt
  rw [← h.exchangeKey_eq] at hleads'
  obtain ⟨s₁, decrypt, hbehind, hrecover⟩ :=
    hleads'.response hresponse hrun hafter' hkdf h.response_decodes
  cases hbehind.symm.trans hj
  rw [recoverCASESessionKey_parties hkdf hopen.curve hopen.generator_ne hopen.reqKey_ne
    hopen.respKey_ne hopen.reqKey hopen.respKey, if_pos ⟨hopen.supported, hopen.given⟩,
    c.shared_comm] at hrecover
  have htable := congrArg DecryptState.keyTable (Outcome.ok.inj hrecover).2
  rw [← htable]
  exact KeyTable.exists_sameKey_addKey decrypt.keyTable (sessionKey env c a b req resp)

/-- In a capture with an exchange that gives its secret away, every later message sealed with the
key that the parties derive is shown as it was sent. -/
theorem caseSession_asSent (env : DissectorEnv) (file : Option (List MatterProxyHintKey))
    (st : DecryptState) (capture : List Packet)
    {results results₀ results₁ : List (Except TvbError Shown)} {s' s₀ s₁ : DissectorState}
    (hrun : (dissectCapture env file capture).run (.start st) = .ok results s')
    (hkdf : env.kdf.Succeeds) {E : Type} [AddCommGroup E] [DecidableEq E] {c : Curve E} {a b : Nat}
    {i j n : Nat} {req resp m : SentMessage}
    (hbegins : BeginsSession env capture results i j req resp)
    (hopen : OpenExchange c a b env.case req.payload resp.payload) (hjn : j < n)
    (hj : (dissectCapture env file (capture.take (j + 1))).run (.start st) = .ok results₀ s₀)
    (hentry : ∀ entry ∈ s₀.decrypt.keyTable.findKeysById (sessionKey env c a b req resp).keyId,
      entry.isSameKey (sessionKey env c a b req resp) = true →
        entry.srcNodeId = 0 ∨ (m.info 0).srcNodeId ≠ 0)
    (hn : (dissectCapture env file (capture.take n)).run (.start st) = .ok results₁ s₁)
    {packet : Packet} (hpacket : capture[n]? = some packet) {ciphertext tag : List UInt8}
    (hsealed : SealedWith env.decrypt file packet.call s₁.decrypt (sessionKey env c a b req resp)
      m ciphertext tag)
    (hframe : packet.frame =
      packet.pinfo.ptype.frame (m.header.encode ++ (ciphertext ++ tag)))
    (hlen : (m.header.encode ++ (ciphertext ++ tag)).length < 2 ^ 16)
    (hmalloc : IsMalloc packet.call.malloc) :
    ∃ result, results[n]? = some result ∧ DispatchedAs env m result := by
  obtain ⟨entry, hmem, hsame⟩ := hbegins.sessionKey_known hrun hj hkdf hopen
  have hwire : OnWire env.decrypt file packet.call s₀.decrypt s₁.decrypt m
      (m.header.encode ++ (ciphertext ++ tag)) :=
    hsealed.onWire (length_sessionKeyOf _ _ _)
      ⟨entry, hmem, tableCandidate_sameKey hsame (hentry entry hmem hsame)⟩
  obtain ⟨s₂, s₃, result, hresult, hbefore, hpacket', -⟩ := dissectCapture_at hrun hpacket
  cases hbefore.symm.trans hn
  obtain ⟨msgs, hafter⟩ := dissectCapture_after hbefore
  have hgrown := dissectCapture_grown hjn hj hbefore
  exact ⟨result, hresult, hafter.asSent hwire hgrown hframe hlen hmalloc hpacket'⟩

/-! ## A message of session 7 -/

def sessionSent : SentMessage where
  header := { plainMessageHeader with sessionId := 7 }
  protocol := sealedSent.protocol
  payload := sealedSent.payload
  notGroup := rfl

/-- It, sealed with the session key of the exchange. -/
def sessionCiphertext : List UInt8 := [0x06, 0x56, 0x84, 0x84, 0x59, 0xC6, 0xC4, 0xA4]

def sessionTag : List UInt8 :=
  [0x55, 0x8B, 0x34, 0x7A, 0x53, 0x13, 0x2B, 0xFA, 0x8F, 0x34, 0xAC, 0x0C, 0x1E, 0x9B, 0x22, 0x8A]

/-- AES-CCM, as far as the message goes. -/
def sessionCipher (key nonce aad tag ciphertext : List UInt8) : Option (List UInt8) :=
  if key = generatorSessionKey.dataEncKey ∧ nonce = 0 :: 7 :: List.replicate 11 0 ∧
      aad = [0, 7, 0, 0, 7, 0, 0, 0] ∧ tag = sessionTag ∧ ciphertext = sessionCiphertext then
    some [0x01, 0x20, 0x01, 0x00, 0x00, 0x00, 0x15, 0x18]
  else none

def sessionDissector : DissectorEnv where
  decrypt := { sealedEnv with evpDecrypt := sessionCipher }
  tracker := crc32Ccitt
  im := IM.plainEnv
  case := generatorCaseEnv
  kdf := generatorKdf

/-- A message of the exchange: from the initiator, or not. -/
def exchangeSent (initiator : Bool) (opcode : UInt8) (payload : List UInt8) : SentMessage where
  header := plainMessageHeader
  protocol :=
    { exchangeFlags := if initiator then 1 else 0
      opcode
      exchangeId := 1
      protocolId := 0x1004
      vendorId := none
      ackCounter := none
      noExtensions := by cases initiator <;> decide
      vendorId_iff := by cases initiator <;> decide
      ackCounter_iff := by cases initiator <;> decide }
  payload
  notGroup := rfl

def packetOf (num : Nat) (bytes : List UInt8) : Packet where
  pinfo := ⟨num, .udp, 0⟩
  frame := PortType.udp.frame bytes
  call := ⟨false, sealedEnv.malloc⟩

def exchangePacket (num : Nat) (m : SentMessage) : Packet :=
  packetOf num (m.header.encode ++ m.plaintext)

def sessionPacket (num : Nat) : Packet :=
  packetOf num (sessionSent.header.encode ++ (sessionCiphertext ++ sessionTag))

def requestSent : SentMessage := exchangeSent true 10 generatorRequest

def responseSent : SentMessage := exchangeSent false 11 generatorResponse

/-- The message comes before the exchange, and stays encrypted. In the exchange there is a key
confirmation in front of the response. Then the message is dissected again. -/
def sessionCapture : List Packet :=
  [sessionPacket 1, exchangePacket 2 requestSent,
    exchangePacket 3 (exchangeSent true 12 earlyKeyConfirm), exchangePacket 4 responseSent,
    sessionPacket 1]

theorem openExchange_generator :
    OpenExchange generatorCurve 1 1 generatorCaseEnv generatorRequest generatorResponse := by
  constructor <;> decide +kernel

theorem requestDecodes_generator : RequestDecodes sessionDissector.case.host generatorRequest :=
  ⟨by decide +kernel, by decide +kernel, fun _ => by decide +kernel, by decide +kernel⟩

theorem responseDecodes_generator : ResponseDecodes sessionDissector.case.host generatorResponse :=
  ⟨by decide +kernel, by decide +kernel, fun _ => by decide +kernel, by decide +kernel⟩

/-- The message as it is sealed in the capture. -/
theorem sealedWith_sessionKey (call : CallEnv) (st : DecryptState) :
    SealedWith sessionDissector.decrypt none call st generatorSessionKey sessionSent
      sessionCiphertext sessionTag := by
  refine ⟨by decide, by decide, rfl, rfl, by decide +kernel, fun c plaintext _ h => ?_⟩
  have hplaintext : [0x01, 0x20, 0x01, 0x00, 0x00, 0x00, 0x15, 0x18] = plaintext := by
    unfold sessionDissector sessionCipher at h
    dsimp only at h
    split at h
    · exact Option.some.inj h
    · cases h
  exact hplaintext.symm

/-- The run up to the response: the key is the only one of its session, and the key confirmation is
no request. -/
theorem dissectCapture_sessionCapture : ∃ results s' results₀ s₀,
    (dissectCapture sessionDissector none sessionCapture).run (.start emptyDecryptState) =
      .ok results s' ∧ (results[2]?.bind Except.toOption).bind Shown.request = none ∧
    (dissectCapture sessionDissector none (sessionCapture.take 4)).run
      (.start emptyDecryptState) = .ok results₀ s₀ ∧
    s₀.decrypt.keyTable.findKeysById 7 = [generatorSessionKey] := by
  have hrun : ((dissectCapture sessionDissector none sessionCapture).run
      (.start emptyDecryptState)).okAnd (fun results _ =>
        (results[2]?.bind Except.toOption).bind Shown.request = none) = true := by
    decide +kernel
  have hbefore : ((dissectCapture sessionDissector none (sessionCapture.take 4)).run
      (.start emptyDecryptState)).okAnd (fun _ s =>
        s.decrypt.keyTable.findKeysById 7 = [generatorSessionKey]) = true := by
    decide +kernel
  obtain ⟨results, s', hrun, hconfirm⟩ := Outcome.exists_of_okAnd hrun
  obtain ⟨results₀, s₀, hbefore, hkey⟩ := Outcome.exists_of_okAnd hbefore
  exact ⟨results, s', results₀, s₀, hrun, of_decide_eq_true hconfirm, hbefore,
    of_decide_eq_true hkey⟩

theorem securitySent_requestSent : SecuritySent sessionCapture 1 (exchangePacket 2 requestSent)
    requestSent msgTypeCASEBeginSessionRequest :=
  ⟨rfl, by decide, rfl, by decide +kernel, fun _ => List.length_replicate, by decide, by decide,
    by decide⟩

theorem securitySent_responseSent : SecuritySent sessionCapture 3 (exchangePacket 4 responseSent)
    responseSent msgTypeCASEBeginSessionResponse :=
  ⟨rfl, by decide, rfl, by decide +kernel, fun _ => List.length_replicate, by decide, by decide,
    by decide⟩

/-- The exchange of the capture. -/
theorem beginsSession_sessionCapture {results : List (Except TvbError Shown)}
    (hconfirm : (results[2]?.bind Except.toOption).bind Shown.request = none) :
    BeginsSession sessionDissector sessionCapture results 1 3 requestSent responseSent := by
  refine ⟨by decide, ⟨_, securitySent_requestSent⟩, ⟨_, securitySent_responseSent⟩, by decide,
    requestDecodes_generator, responseDecodes_generator, ?_⟩
  intro k packet shown bytes hik hkj _ hshown hrequest _
  have hk : k = 2 := by omega
  rw [hk] at hshown
  rw [hshown] at hconfirm
  cases hconfirm.symm.trans hrequest

/-- The last packet is shown as it was sent. -/
theorem caseSession_asSent_again : ∃ results s' result,
    (dissectCapture sessionDissector none sessionCapture).run (.start emptyDecryptState) =
      .ok results s' ∧ results[4]? = some result ∧
      DispatchedAs sessionDissector sessionSent result := by
  obtain ⟨results, s', results₀, s₀, hrun, hconfirm, hbefore, hkeys⟩ :=
    dissectCapture_sessionCapture
  have hkey : sessionKey sessionDissector generatorCurve 1 1 requestSent responseSent =
      generatorSessionKey := sessionKeyOf_generator
  have hentry : ∀ entry ∈ s₀.decrypt.keyTable.findKeysById (sessionKey sessionDissector
      generatorCurve 1 1 requestSent responseSent).keyId,
      entry.isSameKey (sessionKey sessionDissector generatorCurve 1 1 requestSent responseSent) =
        true → entry.srcNodeId = 0 ∨ (sessionSent.info 0).srcNodeId ≠ 0 := by
    intro entry hmem _
    rw [hkey, show generatorSessionKey.keyId = 7 from rfl, hkeys, List.mem_singleton] at hmem
    rw [hmem]
    exact .inl rfl
  obtain ⟨result, hresult, hdispatched⟩ := caseSession_asSent sessionDissector none
    emptyDecryptState sessionCapture hrun generatorKdf_succeeds
    (beginsSession_sessionCapture hconfirm) openExchange_generator (by decide) hbefore hentry
    hbefore rfl (hkey ▸ sealedWith_sessionKey _ _) rfl (by decide)
    fun _ => List.length_replicate
  exact ⟨results, s', result, hrun, hresult, hdispatched⟩

end Matter.Capture
