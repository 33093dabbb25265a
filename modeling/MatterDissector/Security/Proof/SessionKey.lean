import MatterDissector.Lib.Ecdh
import MatterDissector.Message.Proof.Keys
import MatterDissector.Message.Proof.KeyTable
import MatterDissector.Security.Proof.CaseLayout
import MatterDissector.Security.Proof.Hkdf
import MatterDissector.Security.SessionKey

/-!
# The session key of a CASE exchange

`RecoverCASESessionKey` adds the key that HKDF makes of the two message hashes and the shared
secret, if a public key gives that secret away (`recoverCASESessionKey_run`). On a curve it does
when it is the generator (`givenAway_parties`).
-/

namespace Matter.Security

open Prog Message Ecdh

/-! ## HKDF -/

/-- HKDF of RFC 5869. -/
def hkdf (md : EvpMd) (salt ikm info : List UInt8) (len : Nat) : List UInt8 :=
  (hkdfBlocks md (md.hmac salt ikm) info 255).take len

/-- All calls into OpenSSL succeed, and its buffers are large enough for the digests. -/
structure KdfEnv.Succeeds (env : KdfEnv) : Prop where
  openSSL : env.openSSL.Succeeds
  hmac : ∀ salt inKey, env.hmacSucceeds salt inKey = true
  maxMdSize : caseMaxHashSize ≤ env.openSSL.evpMaxMdSize

section
variable {env : KdfEnv}

theorem size_hashAlgo (env : KdfEnv) (config : Nat) :
    20 ≤ (env.hashAlgo config).size ∧ (env.hashAlgo config).size ≤ caseMaxHashSize := by
  unfold KdfEnv.hashAlgo caseMaxHashSize
  split
  · rw [env.size_sha1]
    decide
  · rw [env.size_sha256]
    decide

/-- `HKDF_expand` into the whole of a buffer. -/
theorem hkdfExpand_whole {ssl : OpenSSL} {md : EvpMd} (hssl : ssl.Succeeds)
    (hmax : md.size ≤ ssl.evpMaxMdSize) (prKey mem : List UInt8) (hpos : 1 ≤ mem.length)
    (hlen : mem.length ≤ 255 * md.size) :
    (hkdfExpand ssl md prKey none 0 mem.length).run mem =
      .ok 1 ((hkdfBlocks md prKey [] 255).take mem.length) := by
  have hstart : InRound md prKey none mem 0 mem.length 0 ⟨0, mem.length, 1⟩ mem := {
    le := Nat.zero_le 255
    outKey := by
      show 0 = 0 + 0 * md.size
      omega
    outKeyLen := by
      show mem.length + 0 * md.size = mem.length
      omega
    hashNum := rfl
    mem := by
      show mem = mem.take 0 ++ [] ++ mem.drop 0
      rfl }
  have hwritten : ((hkdfBlocks md prKey [] 255).take mem.length).length = mem.length := by
    rw [List.length_take, length_hkdfBlocks]
    omega
  have hloop : (whileLoop (fun l _ => l.outKeyLen) .outOfFuel (hkdfRound ssl md prKey none)
      ⟨0, mem.length, 1⟩).run mem = .ok () (expanded md prKey none mem 0 mem.length) :=
    run_hkdfLoop hssl hmax hlen (Nat.le_of_eq (Nat.zero_add _)) hstart
      (Nat.lt_succ_self mem.length)
  have hwhole : expanded md prKey none mem 0 mem.length =
      (hkdfBlocks md prKey [] 255).take mem.length := by
    show mem.take 0 ++ (hkdfBlocks md prKey [] 255).take mem.length ++
      mem.drop (0 + ((hkdfBlocks md prKey [] 255).take mem.length).length) = _
    rw [hwritten, Nat.zero_add, List.drop_length, List.append_nil]
    rfl
  rw [hkdfExpand, if_neg (by omega), bind_ok (attempt_ok hloop), hwhole]
  rfl

theorem expandSessionKey_run (henv : env.Succeeds) (config : Nat) (masterKey : List UInt8)
    (st : DecryptState) :
    ∃ sessionKeyData, (expandSessionKey env (env.hashAlgo config) masterKey).run st =
        .ok (some sessionKeyData) st ∧
      sessionKeyData.take dataEncKeyLengthAES128CCM =
        (hkdfBlocks (env.hashAlgo config) masterKey [] 255).take dataEncKeyLengthAES128CCM := by
  obtain ⟨hmin, hmax⟩ := size_hashAlgo env config
  have hstack := env.length_stack
  have hlen : env.stack.length ≤ 255 * (env.hashAlgo config).size := by
    rw [hstack]
    show 48 ≤ _
    omega
  have hpos : 1 ≤ env.stack.length := by
    rw [hstack]
    decide
  have hrun := hkdfExpand_whole henv.openSSL (hmax.trans henv.maxMdSize) masterKey env.stack hpos
    hlen
  rw [hstack] at hrun
  refine ⟨_, by rw [expandSessionKey, hrun]; rfl, ?_⟩
  rw [List.take_take]
  rfl

end

/-! ## The key of a record -/

/-- The salt: both message hashes. -/
def saltOf (env : KdfEnv) (r : CASEExchangeRecord) : List UInt8 :=
  hashBytes r.reqMsgHash (env.hashAlgo r.config).size ++
    hashBytes r.respMsgHash (env.hashAlgo r.config).size

/-- The session key that the parties derive from a secret. -/
def sessionKeyOf (env : KdfEnv) (r : CASEExchangeRecord) (sharedSecret : List UInt8) :
    MessageEncryptionKey where
  keyId := r.keyId
  sessionType := r.sessionType
  dataEncKey :=
    hkdf (env.hashAlgo r.config) (saltOf env r) sharedSecret [] dataEncKeyLengthAES128CCM
  srcNodeId := 0

/-- A session that the dissector can decrypt. -/
def Supported (r : CASEExchangeRecord) : Prop :=
  (r.config = configConfig1 ∨ r.config = configConfig2) ∧ r.sessionType = encryptionTypeAES128CCM

instance (r : CASEExchangeRecord) : Decidable (Supported r) := inferInstanceAs (Decidable (_ ∧ _))

section
variable {env : KdfEnv} {r : CASEExchangeRecord} {st : DecryptState} {sharedSecret : List UInt8}

theorem deriveCASESessionKey_run (henv : env.Succeeds) (sharedSecret : List UInt8)
    (st : DecryptState) :
    (deriveCASESessionKey env r sharedSecret).run st = .ok ()
      (if r.sessionType = encryptionTypeAES128CCM then
        { st with keyTable := st.keyTable.addKey (sessionKeyOf env r sharedSecret) }
      else st) := by
  unfold deriveCASESessionKey
  by_cases htype : r.sessionType = encryptionTypeAES128CCM
  · obtain ⟨sessionKeyData, hrun, htake⟩ := expandSessionKey_run henv r.config
      ((env.hashAlgo r.config).hmac (saltOf env r) sharedSecret) st
    have hextract : hkdfExtract env (env.hashAlgo r.config) (saltOf env r) sharedSecret =
        some ((env.hashAlgo r.config).hmac (saltOf env r) sharedSecret) := by
      rw [hkdfExtract, if_pos (henv.hmac _ _)]
    rw [if_neg (not_not_intro htype), if_pos htype]
    dsimp only
    rw [← saltOf, hextract]
    dsimp only
    rw [bind_ok hrun]
    dsimp only
    rw [htake]
    rfl
  · rw [if_pos htype, if_neg htype]
    rfl

/-- The shared secret, if the public key of a party gives it away. -/
def givenAway (r : CASEExchangeRecord) : Option (List UInt8) :=
  (curveGenerator r.curveId).bind fun generator =>
    if r.reqECDHPublicKey.length ≠ r.respECDHPublicKey.length then none
    else if r.reqECDHPublicKey = generator then
      some (xOfPublicKey r.respECDHPublicKey r.reqECDHPublicKey.length)
    else if r.respECDHPublicKey = generator then
      some (xOfPublicKey r.reqECDHPublicKey r.reqECDHPublicKey.length)
    else none

theorem curveGenerator_isSome {curveId : Nat} : (curveGenerator curveId).isSome = true ↔
    curveId = curveIdPrime192v1 ∨ curveId = curveIdSecp224r1 ∨ curveId = curveIdPrime256v1 := by
  unfold curveGenerator
  split
  · simp [*]
  · split
    · simp [*]
    · split <;> simp [*]

/-- What becomes of the key table. -/
theorem recoverCASESessionKey_run (henv : env.Succeeds) (st : DecryptState) :
    (recoverCASESessionKey env r).run st = .ok ()
      (match givenAway r with
        | some sharedSecret => if Supported r then
            { st with keyTable := st.keyTable.addKey (sessionKeyOf env r sharedSecret) } else st
        | none => st) := by
  unfold recoverCASESessionKey
  by_cases hconfig : r.config ≠ configConfig1 ∧ r.config ≠ configConfig2
  · have hnot : ¬ Supported r := fun h => h.1.elim hconfig.1 hconfig.2
    simp only [if_pos hconfig, if_neg hnot]
    cases givenAway r <;> rfl
  · have hsupported : Supported r ↔ r.sessionType = encryptionTypeAES128CCM := by
      refine ⟨And.right, fun htype => ⟨?_, htype⟩⟩
      rwa [not_and_or, not_not, not_not] at hconfig
    rw [if_neg hconfig]
    unfold givenAway isCurveGenerator
    cases hcurve : curveGenerator r.curveId with
    | none =>
      have hnot := mt curveGenerator_isSome.2 (by rw [hcurve]; exact Bool.false_ne_true)
      rw [not_or, not_or] at hnot
      rw [if_pos hnot]
      rfl
    | some generator =>
      have hknown := curveGenerator_isSome.1 (by rw [hcurve]; rfl)
      rw [if_neg (by tauto), Option.bind_some]
      by_cases hlength : r.reqECDHPublicKey.length ≠ r.respECDHPublicKey.length
      · rw [if_pos hlength, if_pos hlength]
        rfl
      · rw [if_neg hlength, if_neg hlength]
        by_cases hreq : r.reqECDHPublicKey = generator
        · rw [if_pos (by simpa using hreq), if_pos hreq, deriveCASESessionKey_run henv]
          simp only [hsupported]
        · rw [if_neg (by simpa using hreq), if_neg hreq]
          by_cases hresp : r.respECDHPublicKey = generator
          · rw [if_pos (by simpa using hresp), if_pos hresp, deriveCASESessionKey_run henv]
            simp only [hsupported]
          · rw [if_neg (by simpa using hresp), if_neg hresp]
            rfl

/-- On a curve whose generator is known, the secret of two parties is given away when a public key
is the generator. -/
theorem givenAway_parties {E : Type} [AddCommGroup E] {c : Curve E} {a b : Nat}
    (hcurve : curveGenerator r.curveId = some (c.encode c.generator))
    (hgenerator : c.generator ≠ 0) (ha : c.publicKey a ≠ 0) (hb : c.publicKey b ≠ 0)
    (hreq : r.reqECDHPublicKey = c.encode (c.publicKey a))
    (hresp : r.respECDHPublicKey = c.encode (c.publicKey b)) [Decidable
      (c.publicKey a = c.generator ∨ c.publicKey b = c.generator)] :
    givenAway r = if c.publicKey a = c.generator ∨ c.publicKey b = c.generator then
      some (c.shared a (c.publicKey b)) else none := by
  have hlength : r.reqECDHPublicKey.length = r.respECDHPublicKey.length := by
    rw [hreq, hresp, c.length_encode, c.length_encode]
  have hinj : ∀ p, p ≠ 0 → (c.encode p = c.encode c.generator ↔ p = c.generator) := fun p hp =>
    ⟨c.encode_injective hp hgenerator, congrArg c.encode⟩
  have hx : ∀ p, xOfPublicKey (c.encode p) r.reqECDHPublicKey.length = c.x p := by
    intro p
    rw [xOfPublicKey, hreq, c.length_encode, ← c.length_encode p]
    exact c.x_of_encode p
  rw [givenAway, hcurve, Option.bind_some, if_neg (not_not_intro hlength)]
  by_cases hareq : c.publicKey a = c.generator
  · rw [if_pos (by rw [hreq, hareq]), if_pos (.inl hareq), hresp, hx,
      c.shared_of_generator hareq]
  · rw [if_neg (by rw [hreq, hinj _ ha]; exact hareq)]
    by_cases hbresp : c.publicKey b = c.generator
    · rw [if_pos (by rw [hresp, hbresp]), if_pos (.inr hbresp), hreq]
      rw [hreq] at hx
      rw [hx, c.shared_comm, c.shared_of_generator hbresp]
    · rw [if_neg (by rw [hresp, hinj _ hb]; exact hbresp), if_neg (by tauto)]

end

end Matter.Security
