import MatterDissector.Security.Proof.CaseLayout
import MatterDissector.Security.Proof.SessionKey

/-!
# Messages that are dissected to their end

A request or a response that passes the checks of its length, whose lengths do not wrap and whose
sections decode is dissected to its end, in every state (`dissectRequest_returns`,
`dissectResponse_returns`).
-/

namespace Matter.Security

open Prog Message Display TLV

/-- A section of `length` bytes at `offset` decodes as a signature. -/
abbrev SignatureAt (bytes : List UInt8) (offset length : Nat) : Prop :=
  signatureDecodes ((bytes.drop offset).take length) = true

/-- A request can be dissected to its end. -/
structure RequestDecodes (host : Host) (bytes : List UInt8) : Prop where
  passes : RequestPasses bytes
  no_wrap : (requestOf bytes).lengthWithoutSig < 2 ^ 16
  certInfo : PassesCertInfo host bytes (requestOf bytes).certInfoOffset
    (requestOf bytes).certInfoLen
  signature : SignatureAt bytes (requestOf bytes).lengthWithoutSig
    (bytes.length - (requestOf bytes).lengthWithoutSig)

/-- A response can be dissected to its end. -/
structure ResponseDecodes (host : Host) (bytes : List UInt8) : Prop where
  passes : ResponsePasses bytes
  no_wrap : (responseOf bytes).signedLength + (responseOf bytes).keyConfirmHashLen < 2 ^ 16
  certInfo : PassesCertInfo host bytes (6 + (responseOf bytes).ecdhPublicKeyLen)
    (responseOf bytes).certInfoLen
  signature : SignatureAt bytes (responseOf bytes).signedLength
    (bytes.length - ((responseOf bytes).signedLength + (responseOf bytes).keyConfirmHashLen))

section
variable {tvb : Tvb} {host : Host} {fields : CommonFields} {env : CaseEnv} {bytes : List UInt8}
  {parsePoint keyLen certInfoLen payloadLen sigLen : Nat}

theorem showCommon_ok (hfields : fields.AreSections)
    (hend : parsePoint + keyLen + certInfoLen + payloadLen ≤ tvb.bytes.length)
    (hlen : tvb.bytes.length < 2 ^ 16)
    (hcert : PassesCertInfo host tvb.bytes (parsePoint + keyLen) certInfoLen) (s : CaseState) :
    ∃ s', (showCommon tvb host fields parsePoint keyLen certInfoLen payloadLen).run s =
      .ok (parsePoint + keyLen + certInfoLen + payloadLen) s' := by
  obtain ⟨p, s', hrun⟩ := (@showCommon_returns_iff tvb host fields s _ _ _ _ hfields hend hlen).2
    hcert
  obtain ⟨shown, -, ⟨s₁, hok, -⟩ | ⟨e, s₁, herr, -⟩⟩ := @showCommon_cases tvb host fields s
    parsePoint keyLen certInfoLen payloadLen hfields hend hlen
  · exact ⟨s₁, hok⟩
  · cases herr.symm.trans hrun

theorem showSignature_ok {hfSig : HeaderField} (hpos : 0 < sigLen)
    (hend : parsePoint + sigLen ≤ tvb.bytes.length) (hlen : tvb.bytes.length < 2 ^ 16)
    (hsig : SignatureAt tvb.bytes parsePoint sigLen) (s : CaseState) :
    ∃ s', (showSignature tvb hfSig parsePoint sigLen).run s = .ok (parsePoint + sigLen) s' := by
  have hadd : ∃ s', (addECDSASig tvb parsePoint sigLen hfSig).run s = .ok () s' :=
    (addSection_returns_iff (fun node node' => alike_ecdsaSigMember node node') hend
      (by omega) s).2 hsig
  obtain ⟨s', hrun⟩ := hadd
  refine ⟨s', ?_⟩
  rw [showSignature, if_pos hpos]
  exact bind_ok hrun

theorem dissectRequest_returns (hlen : bytes.length < 2 ^ 16)
    (h : RequestDecodes env.host bytes) (s : CaseState) :
    ∃ s', (dissectRequest (.ofBytes bytes) env).run s = .ok () s' := by
  obtain ⟨m, hm⟩ : ∃ m, m = requestOf bytes := ⟨_, rfl⟩
  obtain ⟨hpasses, hwrap, hcert, hsig⟩ := h
  have hmod : m.msgLenWithoutSig = m.lengthWithoutSig := by
    rw [hm]
    exact Nat.mod_eq_of_lt hwrap
  have hpayload : m.lengthWithoutSig < bytes.length := by
    rw [← hmod, hm]
    exact hpasses.2
  have hsum : m.lengthWithoutSig = 18 + m.altConfigCount * 4 + m.altCurveCount * 4 +
      m.ecdhPublicKeyLen + m.certInfoLen + m.payloadLen := rfl
  obtain ⟨s₁, hbegin, -⟩ := @shows_beginRequest (.ofBytes bytes) hpasses s
  rw [← hm] at hcert hsig
  have hbegin : (beginRequest (.ofBytes bytes)).run s = .ok m s₁ := hm ▸ hbegin
  obtain ⟨s₂, hlists, -⟩ := @shows_showAltLists (.ofBytes bytes) m
    (show _ ≤ bytes.length by omega) s₁
  obtain ⟨s₃, hcommon⟩ := @showCommon_ok (.ofBytes bytes) env.host requestFields _
    m.ecdhPublicKeyLen m.certInfoLen m.payloadLen requestFields_areSections
    (show _ ≤ bytes.length by omega) hlen hcert s₂
  have hsigEnd : m.lengthWithoutSig + (bytes.length - m.lengthWithoutSig) ≤ bytes.length := by omega
  obtain ⟨s₄, hsignature⟩ := @showSignature_ok (.ofBytes bytes) _ _ .caseRequestSignature
    (show 0 < bytes.length - m.lengthWithoutSig by omega) hsigEnd hlen hsig s₃
  obtain ⟨s₅, hrecord, -⟩ := @recordRequest_run (.ofBytes bytes) env m
    (18 + m.altConfigCount * 4 + m.altCurveCount * 4) (show _ ≤ bytes.length by omega)
    (show _ ≤ bytes.length by omega) hlen s₄
  refine ⟨s₅, ?_⟩
  have hsigLen : (Tvb.ofBytes bytes).bytes.length - m.msgLenWithoutSig =
      bytes.length - m.lengthWithoutSig := by rw [hmod]; rfl
  rw [dissectRequest, bind_ok hbegin]
  dsimp only
  rw [hsigLen, bind_ok hlists, bind_ok hcommon]
  exact (bind_ok hsignature).trans hrecord

theorem dissectResponse_returns (hlen : bytes.length < 2 ^ 16)
    (h : ResponseDecodes env.host bytes) (s : CaseState) :
    ∃ s', (dissectResponse (.ofBytes bytes) env).run s = .ok () s' := by
  obtain ⟨m, hm⟩ : ∃ m, m = responseOf bytes := ⟨_, rfl⟩
  obtain ⟨hpasses, hwrap, hcert, hsig⟩ := h
  obtain ⟨s₁, hbegin, -⟩ := @shows_beginResponse (.ofBytes bytes) hpasses s
  have hend : (responseOf bytes).msgLenWithoutSig < bytes.length := hpasses.2.2
  rw [← hm] at hcert hsig hwrap hend
  have hbegin : (beginResponse (.ofBytes bytes)).run s = .ok m s₁ := hm ▸ hbegin
  have hsum : m.signedLength = 6 + m.ecdhPublicKeyLen + m.certInfoLen + m.payloadLen := rfl
  have hsigned : m.signedMsgLen = m.signedLength := Nat.mod_eq_of_lt (by omega)
  have hmod : m.msgLenWithoutSig = m.signedLength + m.keyConfirmHashLen := by
    rw [CASEBeginSessionResponse.msgLenWithoutSig, hsigned]
    exact Nat.mod_eq_of_lt hwrap
  obtain ⟨s₂, hcommon⟩ := @showCommon_ok (.ofBytes bytes) env.host responseFields 6
    m.ecdhPublicKeyLen m.certInfoLen m.payloadLen responseFields_areSections
    (show _ ≤ bytes.length by omega) hlen hcert s₁
  rw [← hmod] at hsig
  obtain ⟨s₃, hsignature⟩ := @showSignature_ok (.ofBytes bytes) m.signedLength
    (bytes.length - m.msgLenWithoutSig) .caseResponseSignature (by omega)
    (show _ ≤ bytes.length by omega) hlen hsig s₂
  obtain ⟨s₄, hconfirm, -⟩ := @shows_showKeyConfirmHash (.ofBytes bytes)
    (m.signedLength + (bytes.length - m.msgLenWithoutSig)) m.keyConfirmHashLen
    (show _ ≤ bytes.length by omega) s₃
  obtain ⟨s₅, hrecord, -⟩ := @recordResponse_run (.ofBytes bytes) env m s₄
    (show _ ≤ bytes.length by omega) (show _ ≤ bytes.length by omega) hlen
  refine ⟨s₅, ?_⟩
  rw [dissectResponse, bind_ok hbegin]
  dsimp only
  rw [bind_ok hcommon]
  exact (bind_ok hsignature).trans ((bind_ok hconfirm).trans hrecord)

theorem recoveringResponse_returns {kdf : KdfEnv} (hkdf : kdf.Succeeds)
    (hlen : bytes.length < 2 ^ 16) (h : ResponseDecodes env.host bytes) (s : RecoveryState) :
    ∃ s', (recoveringResponse (.ofBytes bytes) env kdf).run s = .ok () s' := by
  obtain ⟨t, ht⟩ := dissectResponse_returns hlen h s.case
  have hzoom : (zoom RecoveryState.case (fun case s => { s with case })
      (dissectResponse (.ofBytes bytes) env)).run s = .ok () { s with case := t } :=
    zoom_eq_ok.2 ⟨t, ht, rfl⟩
  rw [recoveringResponse, gets_bind, bind_ok hzoom, gets_bind]
  cases recordCompleted s.case.caseExchangeRec t with
  | none => exact ⟨_, rfl⟩
  | some r =>
    have hrecover : (recoverCASESessionKey kdf r).run s.decrypt = .ok () _ :=
      recoverCASESessionKey_run hkdf s.decrypt
    exact ⟨_, zoom_eq_ok.2 ⟨_, mapError_eq_ok.2 hrecover, rfl⟩⟩

end

end Matter.Security
