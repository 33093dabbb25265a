import Mathlib.Algebra.Field.ZMod
import MatterDissector.Security.Proof.Records
import MatterDissector.Security.Proof.SessionKey

/-!
# The key of two messages

What a request and a response leave in the record of their exchange depends on their bytes only. So
the key that goes into the table behind them is the one that the parties derive from the bytes they
have sent: `caseExchange_sessionKey`.
-/

namespace Matter.Security

open Prog Message Ecdh

/-! ## Recovering a key -/

section
variable {env : CaseEnv} {kdf : KdfEnv} {st : DecryptState} {r : CASEExchangeRecord}

theorem recoverCASESessionKey_keeps (r : CASEExchangeRecord) :
    Keeps (Grown st) (recoverCASESessionKey kdf r) := by
  have hnothing : Keeps (Grown st) (pure () : DecryptM Unit) := Ends.pure fun _ h => h
  have hexpand : ∀ md masterKey, Keeps (Grown st) (expandSessionKey kdf md masterKey) := by
    intro md masterKey
    unfold expandSessionKey
    split
    · exact Ends.pure fun _ h => h
    · exact Ends.pure fun _ h => h
    · exact Ends.stop trivial
  have hderive : ∀ sharedSecret, Keeps (Grown st) (deriveCASESessionKey kdf r sharedSecret) := by
    intro sharedSecret
    refine Ends.ite (fun _ => hnothing) fun _ => ?_
    dsimp only
    split
    · exact hnothing
    · refine (hexpand _ _).bind fun sessionKeyData => ?_
      cases sessionKeyData with
      | none => exact hnothing
      | some sessionKeyData =>
        exact Ends.modify fun st₁ h => h.trans ⟨KeyTable.sub_addKey _ _, rfl⟩
  refine Ends.ite (fun _ => hnothing) fun _ => Ends.ite (fun _ => hnothing) fun _ => ?_
  refine Ends.ite (fun _ => hnothing) fun _ => Ends.ite (fun _ => hderive _) fun _ => ?_
  exact Ends.ite (fun _ => hderive _) fun _ => hnothing

/-- The payload of a request. -/
def requestPayload (msgType : Nat) (bytes : List UInt8) : Option (List UInt8) :=
  if msgType = msgTypeCASEBeginSessionRequest then some bytes else none

/-- What a security message does. -/
structure SecurityStep (env : CaseEnv) (request : Option (List UInt8)) (s t : RecoveryState) :
    Prop where
  case : CaseStep env request s.case t.case
  grown : Grown s.decrypt t.decrypt

theorem SecurityStep.mono {s t : RecoveryState} (h : SecurityStep env none s t)
    (request : Option (List UInt8)) : SecurityStep env request s t := ⟨h.case.mono _, h.grown⟩

theorem onCase_step {request : Option (List UInt8)} {x : CaseM Unit} {s : RecoveryState}
    (hx : Ends (fun _ => True) (· = s.case) x (fun _ => CaseStep env request s.case)
      (fun _ => CaseStep env none s.case)) :
    Ends (fun _ => True) (· = s) (onCase x) (fun _ => SecurityStep env request s)
      (fun _ => SecurityStep env none s) := by
  refine Ends.zoom ?_
  rintro _ rfl
  exact Ends.conseq hx (fun _ h => h) (fun _ h => h) (fun _ _ h => ⟨h, .refl _⟩)
    fun _ _ h => ⟨h, .refl _⟩

theorem dissectMatterSecurity_step (env : CaseEnv) (kdf : KdfEnv) (msgType : Nat)
    (bytes : List UInt8) (s : RecoveryState) :
    Ends (fun _ => True) (· = s) (dissectMatterSecurity env kdf msgType (.ofBytes bytes))
      (fun _ => SecurityStep env (requestPayload msgType bytes) s)
      (fun _ => SecurityStep env none s) := by
  refine Ends.ite (fun htype => ?_) fun htype => ?_
  · rw [requestPayload, if_pos htype]
    exact onCase_step (dissectRequest_step env bytes s.case)
  rw [requestPayload, if_neg htype]
  refine Ends.ite (fun _ => ?_) fun _ => ?_
  · refine Ends.gets_bind fun own => ?_
    refine Ends.bind (Q := fun _ => SecurityStep env none s) (Ends.conseq
      (onCase_step (dissectResponse_step env bytes s.case)) (fun _ h => h)
      (fun _ h => h.1) (fun _ _ h => h) fun _ _ h => h) fun _ => ?_
    refine Ends.gets_bind fun completed => Ends.of_each fun t ht => ?_
    cases completed with
    | none =>
      refine Ends.pure ?_
      rintro _ rfl
      exact ht.1
    | some r =>
      refine Ends.zoom ?_
      rintro t rfl
      have hkeeps := @recoverCASESessionKey_keeps kdf t.decrypt r t.decrypt
        (.refl _)
      rintro _ rfl
      rw [run_mapError]
      cases hrun : (recoverCASESessionKey kdf r).run t.decrypt with
      | ok _ st' =>
        rw [hrun] at hkeeps
        exact ⟨ht.1.case, ht.1.grown.trans hkeeps⟩
      | err e st' =>
        rw [hrun] at hkeeps
        exact ⟨ht.1.case, ht.1.grown.trans hkeeps⟩
      | fault f => trivial
  · refine Ends.ite (fun _ => onCase_step (dissectKeyConfirm_step env bytes s.case))
      fun _ => Ends.pure ?_
    rintro _ rfl
    exact ⟨.of_exchange rfl, .refl _⟩

/-! ## The exchange -/

theorem exchangeRecord_of_requestPart {req resp : List UInt8} (h : r.requestPart =
    requestRecord env req) : { r with
      respECDHPublicKey := (resp.drop 6).take (responseOf resp).ecdhPublicKeyLen
      respMsgHash := messageHash env r.config resp (responseOf resp).signedMsgLen } =
    exchangeRecord env req resp := by
  have hconfig : r.config = (requestOf req).proposedConfig :=
    congrArg CASEExchangeRecord.config h
  rw [exchangeRecord, ← h, ← hconfig]
  rfl

/-- A response that finds the record of a request recovers the key of that record. -/
theorem recoveringResponse_recovers {req resp : List UInt8} {s s' : RecoveryState} {p : Nat}
    (hown : s.case.caseExchangeRec = none)
    (hfound : s.case.prevByExchange.findSome? id = some p)
    (hr : s.case.records[p]? = some r) (hreq : r.requestPart = requestRecord env req)
    (hresp : (recoveringResponse (.ofBytes resp) env kdf).run s = .ok () s') :
    (recoverCASESessionKey kdf (exchangeRecord env req resp)).run s.decrypt =
      .ok () s'.decrypt := by
  unfold recoveringResponse at hresp
  rw [gets_bind] at hresp
  obtain ⟨_, s₁, hzoom, hresp⟩ := bind_eq_ok.1 hresp
  obtain ⟨t, hdissect, hs₁⟩ := zoom_eq_ok.1 hzoom
  obtain ⟨hownT, hrT⟩ := dissectResponse_record hdissect hown hfound hr
  have hrecord : recordCompleted none t = some (exchangeRecord env req resp) := by
    rw [recordCompleted, hownT, if_pos rfl, Option.bind_some, hrT,
      exchangeRecord_of_requestPart hreq]
  rw [gets_bind, hs₁, hown, hrecord] at hresp
  obtain ⟨st', hrecover, hs'⟩ := zoom_eq_ok.1 hresp
  rw [hs']
  exact mapError_eq_ok.1 hrecover

/-- A request and a response lead to the recovery of the key of their record. -/
theorem exchange_recovers {req resp : List UInt8} {records records₂ : List CASEExchangeRecord}
    {prev between : List (Option Nat)} {s₁ : CaseState} {s₂ : RecoveryState}
    (hreq : (dissectRequest (.ofBytes req) env).run (.start records none prev) = .ok () s₁)
    (hbetween : ∀ own ∈ between, own = none ∨ own = s₁.caseExchangeRec)
    (hkept : records₂[records.length]?.map (·.requestPart) =
      s₁.records[records.length]?.map (·.requestPart))
    (hresp : (recoveringResponse (.ofBytes resp) env kdf).run
      ⟨.start records₂ none (between ++ s₁.caseExchangeRec :: prev), st⟩ = .ok () s₂) :
    (recoverCASESessionKey kdf (exchangeRecord env req resp)).run st = .ok () s₂.decrypt := by
  obtain ⟨hrecords, hown⟩ := dissectRequest_record hreq rfl
  have hrecords : s₁.records = records ++ [requestRecord env req] := hrecords
  have hown : s₁.caseExchangeRec = some records.length := hown
  rw [hrecords, List.getElem?_concat_length] at hkept
  obtain ⟨r, hr, hpart⟩ := Option.map_eq_some_iff.1 hkept
  have hfound : (between ++ s₁.caseExchangeRec :: prev).findSome? id = some records.length := by
    rw [hown] at hbetween ⊢
    clear hresp
    induction between with
    | nil => rfl
    | cons own between ih =>
      rcases hbetween own List.mem_cons_self with rfl | rfl
      · exact ih fun own' h => hbetween own' (List.mem_cons_of_mem _ h)
      · rfl
  exact recoveringResponse_recovers rfl hfound hr hpart hresp

/-- The key that becomes known is the one that both parties derive. -/
theorem recoverCASESessionKey_parties (hkdf : kdf.Succeeds) {E : Type} [AddCommGroup E]
    [DecidableEq E] {c : Curve E} {a b : Nat}
    (hcurve : curveGenerator r.curveId = some (c.encode c.generator))
    (hgenerator : c.generator ≠ 0) (ha : c.publicKey a ≠ 0) (hb : c.publicKey b ≠ 0)
    (hreqKey : r.reqECDHPublicKey = c.encode (c.publicKey a))
    (hrespKey : r.respECDHPublicKey = c.encode (c.publicKey b)) :
    (recoverCASESessionKey kdf r).run st = .ok () (if Supported r ∧
        (c.publicKey a = c.generator ∨ c.publicKey b = c.generator) then
      { st with
        keyTable := st.keyTable.addKey (sessionKeyOf kdf r (c.shared a (c.publicKey b))) }
      else st) := by
  rw [recoverCASESessionKey_run hkdf, givenAway_parties hcurve hgenerator ha hb hreqKey hrespKey]
  by_cases hgiven : c.publicKey a = c.generator ∨ c.publicKey b = c.generator
  · simp only [hgiven, and_true, if_true]
  · simp only [hgiven, and_false, if_false]

end

/-- A request and a response that are dissected, with any messages between them but other requests
of the exchange: the public keys are points of a curve whose generator is known. If the session is
of a kind that the dissector supports and one of the keys is the generator, the key that both
parties derive is in the table then; otherwise the table stays as it is. -/
theorem caseExchange_sessionKey (env : CaseEnv) (kdf : KdfEnv) (hkdf : kdf.Succeeds) {E : Type}
    [AddCommGroup E] [DecidableEq E] (c : Curve E) (a b : Nat) {req resp : List UInt8}
    {records records₂ : List CASEExchangeRecord} {prev between : List (Option Nat)}
    {s₁ : CaseState} {s₂ : RecoveryState} (st : DecryptState)
    (hreq : (dissectRequest (.ofBytes req) env).run (.start records none prev) = .ok () s₁)
    (hbetween : ∀ own ∈ between, own = none ∨ own = s₁.caseExchangeRec)
    (hkept : records₂[records.length]?.map (·.requestPart) =
      s₁.records[records.length]?.map (·.requestPart))
    (hresp : (recoveringResponse (.ofBytes resp) env kdf).run
      ⟨.start records₂ none (between ++ s₁.caseExchangeRec :: prev), st⟩ = .ok () s₂)
    (hcurve : curveGenerator (requestOf req).proposedCurveId = some (c.encode c.generator))
    (hgenerator : c.generator ≠ 0) (ha : c.publicKey a ≠ 0) (hb : c.publicKey b ≠ 0)
    (hreqKey : (exchangeRecord env req resp).reqECDHPublicKey = c.encode (c.publicKey a))
    (hrespKey : (exchangeRecord env req resp).respECDHPublicKey = c.encode (c.publicKey b)) :
    s₂.decrypt = (if Supported (exchangeRecord env req resp) ∧
        (c.publicKey a = c.generator ∨ c.publicKey b = c.generator) then
      { st with
        keyTable := st.keyTable.addKey
          (sessionKeyOf kdf (exchangeRecord env req resp) (c.shared a (c.publicKey b))) }
      else st) ∧
    c.shared a (c.publicKey b) = c.shared b (c.publicKey a) := by
  refine ⟨?_, c.shared_comm a b⟩
  have hrecover := exchange_recovers hreq hbetween hkept hresp
  rw [recoverCASESessionKey_parties hkdf hcurve hgenerator ha hb hreqKey hrespKey] at hrecover
  exact (Outcome.ok.inj hrecover).2.symm

/-! ## An exchange on prime192v1 -/

/-- Two points: the generator, and none. -/
def generatorCurve : Curve (ZMod 2) where
  generator := 1
  size := 24
  x p := if p = 0 then List.replicate 24 0 else (prime192v1G.drop 1).take 24
  y p := if p = 0 then List.replicate 24 0 else prime192v1G.drop 25
  length_x p := by split <;> decide
  length_y p := by split <;> decide
  ext p q hp hq _ _ := by
    revert p q
    decide

/-- SHA-256 of what the request signs, and of what the response signs. -/
def generatorRequestHash : List UInt8 :=
  [0x49, 0x67, 0x84, 0x75, 0x5F, 0xEE, 0x0A, 0xF9, 0xA7, 0x4E, 0x63, 0x6D, 0xD4, 0xC0, 0xC0, 0x20,
    0x5B, 0x83, 0xBC, 0xD5, 0x7E, 0x03, 0x3A, 0xE9, 0x2C, 0xC3, 0xE3, 0xF6, 0x2C, 0xD0, 0xAF, 0x2D]

def generatorResponseHash : List UInt8 :=
  [0xC9, 0x58, 0xE9, 0xED, 0x89, 0x47, 0x4E, 0x36, 0x26, 0xD5, 0xF0, 0x61, 0xE0, 0x91, 0x49, 0xF0,
    0x14, 0x55, 0x25, 0x60, 0xA9, 0x59, 0xB2, 0xF4, 0x4F, 0x22, 0x0C, 0x6B, 0xD3, 0xAE, 0x23, 0x6D]

/-- The HMAC of the generator's x coordinate under the two hashes. -/
def generatorMasterKey : List UInt8 :=
  [0x9F, 0x75, 0x4D, 0x22, 0x47, 0x63, 0x2B, 0xB0, 0x74, 0xDB, 0x35, 0x92, 0x95, 0x37, 0xE9, 0x70,
    0x04, 0x65, 0xB3, 0x41, 0x4C, 0xC3, 0x84, 0xD5, 0x0B, 0x87, 0xF4, 0xE2, 0xAC, 0xA9, 0x8B, 0x15]

/-- The blocks of the expansion. -/
def generatorBlock1 : List UInt8 :=
  [0xA2, 0x21, 0x85, 0x62, 0xEE, 0x61, 0x8C, 0xE9, 0x56, 0x6C, 0x2B, 0x05, 0xEC, 0x33, 0x70, 0x96,
    0x56, 0x2A, 0xAF, 0x92, 0xC8, 0x7B, 0x77, 0x71, 0x56, 0xE2, 0x1A, 0x1F, 0xDF, 0x71, 0x1C, 0x16]

def generatorBlock2 : List UInt8 :=
  [0x66, 0xEA, 0x60, 0x12, 0x26, 0xC2, 0x44, 0x14, 0x75, 0xCE, 0xAB, 0x1F, 0x07, 0x94, 0xB6, 0xD0,
    0xAB, 0x5E, 0x0D, 0x99, 0x1C, 0x4B, 0xF4, 0xFA, 0x2B, 0x3D, 0x33, 0x33, 0x8E, 0x77, 0xB9, 0xEF]

/-- SHA-256, on the two messages. -/
def generatorSha256 (msg : List UInt8) : List UInt8 :=
  if msg = generatorRequest.take 97 then generatorRequestHash
  else if msg = generatorResponse.take 77 then generatorResponseHash
  else []

/-- HMAC of SHA-256, on what their session key is derived from. -/
def generatorHmac (key data : List UInt8) : List UInt8 :=
  if key = generatorRequestHash ++ generatorResponseHash ∧ data = (prime192v1G.drop 1).take 24 then
    generatorMasterKey
  else if key = generatorMasterKey ∧ data = [1] then generatorBlock1
  else if key = generatorMasterKey ∧ data = generatorBlock1 ++ [2] then generatorBlock2
  else List.replicate 32 0

def generatorMd : EvpMd where
  size := 32
  hmac := generatorHmac
  size_pos := by decide
  length_hmac key data := by
    unfold generatorHmac
    split
    · decide
    split
    · decide
    split
    · decide
    exact List.length_replicate

def zeroMd (size : Nat) (hsize : 1 ≤ size) : EvpMd where
  size := size
  hmac _ _ := List.replicate size 0
  size_pos := hsize
  length_hmac _ _ := List.length_replicate

def generatorCaseEnv : CaseEnv := { plainCaseEnv with sha256 := generatorSha256 }

def generatorKdf : KdfEnv where
  openSSL := openSSL
  sha1 := zeroMd 20 (by decide)
  sha256 := generatorMd
  hmacSucceeds _ _ := true
  stack := List.replicate 48 0
  size_sha1 := rfl
  size_sha256 := rfl
  length_stack := rfl

theorem generatorKdf_succeeds : generatorKdf.Succeeds := ⟨fun _ => rfl, fun _ _ => rfl, by decide⟩

/-- The key of session 7. -/
def generatorSessionKey : MessageEncryptionKey where
  keyId := 7
  sessionType := encryptionTypeAES128CCM
  dataEncKey := generatorBlock1.take 16
  srcNodeId := 0

theorem sessionKeyOf_generator : sessionKeyOf generatorKdf
    (exchangeRecord generatorCaseEnv generatorRequest generatorResponse)
      (generatorCurve.shared 1 (generatorCurve.publicKey 1)) = generatorSessionKey := by
  decide +kernel

/-- A key confirmation in front of the response that it confirms. -/
def earlyKeyConfirm : List UInt8 := List.replicate 20 0

theorem caseExchange_sessionKey_generator : ∃ s₁ s₂ s₃,
    (dissectRequest (.ofBytes generatorRequest) generatorCaseEnv).run (.start [] none []) =
      .ok () s₁ ∧
    (dissectKeyConfirm (.ofBytes earlyKeyConfirm)).run
      (.start s₁.records none [s₁.caseExchangeRec]) = .ok () s₂ ∧
    s₂.caseExchangeRec = some 0 ∧
    (recoveringResponse (.ofBytes generatorResponse) generatorCaseEnv generatorKdf).run
      ⟨.start s₂.records none [s₂.caseExchangeRec, s₁.caseExchangeRec], emptyDecryptState⟩ =
        .ok () s₃ ∧
    generatorSessionKey ∈ s₃.decrypt.keyTable.findKeysById 7 := by
  have hreqOk : ((dissectRequest (.ofBytes generatorRequest) generatorCaseEnv).run
      (.start [] none [])).okAnd (fun _ _ => true) = true := by decide +kernel
  obtain ⟨_, s₁, hreq, -⟩ := Outcome.exists_of_okAnd hreqOk
  obtain ⟨hrecords, hown⟩ := dissectRequest_record hreq rfl
  have hrecords : s₁.records = [requestRecord generatorCaseEnv generatorRequest] := hrecords
  have hown : s₁.caseExchangeRec = some 0 := hown
  have hconfirmOk : ((dissectKeyConfirm (.ofBytes earlyKeyConfirm)).run
      (.start [requestRecord generatorCaseEnv generatorRequest] none [some 0])).okAnd (fun _ s =>
        s.caseExchangeRec = some 0 ∧
          s.records = [requestRecord generatorCaseEnv generatorRequest]) = true := by
    decide +kernel
  obtain ⟨_, s₂, hconfirm, hs₂⟩ := Outcome.exists_of_okAnd hconfirmOk
  obtain ⟨hown₂, hrecords₂⟩ := of_decide_eq_true hs₂
  have hrespOk : ((recoveringResponse (.ofBytes generatorResponse) generatorCaseEnv
      generatorKdf).run ⟨.start [requestRecord generatorCaseEnv generatorRequest] none
        [some 0, some 0], emptyDecryptState⟩).okAnd (fun _ _ => true) = true := by decide +kernel
  obtain ⟨_, s₃, hresp, -⟩ := Outcome.exists_of_okAnd hrespOk
  have hbetween : ∀ own ∈ [s₂.caseExchangeRec], own = none ∨ own = s₁.caseExchangeRec := by
    intro own hmem
    rw [List.mem_singleton.1 hmem, hown₂, hown]
    exact .inr rfl
  have hkept : s₂.records[0]?.map (·.requestPart) = s₁.records[0]?.map (·.requestPart) := by
    rw [hrecords₂, hrecords]
  rw [← hrecords₂] at hresp
  have hprevs : [s₂.caseExchangeRec] ++ s₁.caseExchangeRec :: [] = [some 0, some 0] := by
    rw [hown₂, hown]
    rfl
  have hkey := (caseExchange_sessionKey generatorCaseEnv generatorKdf generatorKdf_succeeds
    generatorCurve 1 1 emptyDecryptState hreq hbetween hkept (hprevs ▸ hresp) (by decide)
    (by decide) (by decide) (by decide) (by decide +kernel) (by decide +kernel)).1
  rw [sessionKeyOf_generator, if_pos (by decide +kernel)] at hkey
  refine ⟨s₁, s₂, s₃, hreq, ?_, hown₂, ?_, ?_⟩
  · rw [hrecords, hown]
    exact hconfirm
  · rw [hown₂, hown]
    exact hresp
  have hnew : ∀ entry ∈ emptyDecryptState.keyTable.findKeysById 7,
      entry.isSameKey generatorSessionKey = false := by
    intro entry hentry
    cases hentry
  rw [hkey]
  dsimp only
  rw [KeyTable.addKey_new hnew, if_pos (by decide)]
  exact List.mem_cons_self

end Matter.Security
