import MatterDissector.Security.Proof.Decodes
import MatterDissector.Security.SessionKey
import MatterDissector.TLV.Proof.Generic

/-!
# The layout of the CASE messages

A dissection ends in one state, whatever stops it (`Finishes`), so what it has shown there is all
that it shows. From the public key on this is the layout exactly when the structures fill their
sections (`finishes_common`); the alternate lists of the request are as they should be when there
are as many configs as curves; and the lengths add up when the 16-bit sum does not wrap.
-/

namespace Matter.Security

open Prog Display TLV TLV.Dissect Message

/-! ## The end of a dissection -/

/-- From `s`, `x` ends in one state. There it has shown the sections `shown`, and hashed nothing
but `msg`. -/
def Finishes {α : Type} (x : CaseM α) (s : CaseState) (msg : List UInt8)
    (shown : List SectionRange) : Prop :=
  ∃ t, (∀ t', Reaches x s t' ↔ t' = t) ∧
    sections sectionFields t.log = sections sectionFields s.log ++ shown ∧
    ∀ m ∈ t.hashed, m ∈ s.hashed ∨ m = msg

section
variable {α β : Type} {x : CaseM α} {k : α → CaseM β} {s s' : CaseState} {msg : List UInt8}
  {shown shown' : List SectionRange}

theorem Finishes.of_err {e : CaseStop} (h : x.run s = .err e s')
    (hshowed : Showed sectionFields s s' shown) : Finishes (x >>= k) s msg shown :=
  ⟨s', fun _ => reaches_bind_err h, hshowed.sections_eq, fun _ hm => .inl (hshowed.hashed_eq ▸ hm)⟩

theorem Finishes.bind_ok {a : α} (h : x.run s = .ok a s')
    (hshowed : Showed sectionFields s s' shown) (hk : Finishes (k a) s' msg shown') :
    Finishes (x >>= k) s msg (shown ++ shown') := by
  obtain ⟨t, ht, hsections, hhashed⟩ := hk
  refine ⟨t, fun t' => (reaches_bind_ok h).trans (ht t'), ?_, fun m hm => ?_⟩
  · rw [hsections, hshowed.sections_eq, List.append_assoc]
  · rw [← hshowed.hashed_eq]
    exact hhashed m hm

theorem Finishes.shows {a : α} (hx : Shows sectionFields x a shown)
    (hk : ∀ s, Finishes (k a) s msg shown') : Finishes (x >>= k) s msg (shown ++ shown') := by
  obtain ⟨s', hrun, hshowed⟩ := hx s
  exact .bind_ok hrun hshowed (hk s')

/-- The error code is ignored where the dissection ends. -/
theorem reaches_ignoringCode {tvb : Tvb} {x : CaseM Unit} {t : CaseState} :
    Reaches (ignoringCode tvb x) s t ↔ Reaches x s t := by
  cases hx : x.run s with
  | ok a s' =>
    have hrun : (ignoringCode tvb x).run s = .ok tvb.bytes.length s' := by
      rw [ignoringCode, Prog.bind_ok (attempt_ok hx)]
      rfl
    rw [reaches_ok hrun, reaches_ok hx]
  | err e s' =>
    rw [reaches_err hx]
    have hattempt := attempt_err hx
    cases e with
    | code e =>
      have hrun : (ignoringCode tvb x).run s = .ok tvb.bytes.length s' := by
        rw [ignoringCode, Prog.bind_ok hattempt]
        rfl
      exact reaches_ok hrun
    | thrown e =>
      have hrun : (ignoringCode tvb x).run s = .err (.thrown e) s' := by
        rw [ignoringCode, Prog.bind_ok hattempt]
        rfl
      exact reaches_err hrun
    | crashed f =>
      have hrun : (ignoringCode tvb x).run s = .err (.crashed f) s' := by
        rw [ignoringCode, Prog.bind_ok hattempt]
        rfl
      exact reaches_err hrun
  | fault f =>
    have hrun : (ignoringCode tvb x).run s = .fault f := by
      rw [ignoringCode, bind_fault]
      rw [run_attempt, hx]
    unfold Reaches
    rw [hrun, hx]
    simp

end

/-! ## Prefixes -/

section
variable {l l' r r' : List SectionRange}

theorem append_prefix_append_iff (h : l.length = l'.length) :
    l ++ r <+: l' ++ r' ↔ l = l' ∧ r <+: r' := by
  constructor
  · rintro ⟨t, ht⟩
    rw [List.append_assoc] at ht
    obtain ⟨hl, hr⟩ := List.append_inj ht h
    exact ⟨hl, t, hr⟩
  · rintro ⟨rfl, hr⟩
    exact (List.prefix_append_right_inj l).2 hr

theorem prefix_append_iff (h : l.length ≤ l'.length) : l <+: l' ++ r ↔ l <+: l' :=
  ⟨fun hl => List.prefix_of_prefix_length_le hl (List.prefix_append l' r) h,
    fun hl => hl.trans (List.prefix_append l' r)⟩

end

/-! ## From the public key to the signature -/

/-- A section that is shown if it has bytes. -/
def sectionIf (field : HeaderField) (length : Nat) : List (HeaderField × Nat) :=
  if 0 < length then [(field, length)] else []

theorem span_sectionIf (field : HeaderField) (length : Nat) :
    span (sectionIf field length) = length := by
  unfold sectionIf
  split
  · exact Nat.add_zero _
  · exact (Nat.eq_zero_of_not_pos ‹_›).symm

/-- The structure that the bytes at `offset` begin with, if they do, is `length` bytes long. -/
def Fills (tagNum : Nat) (bytes : List UInt8) (offset length : Nat) : Prop :=
  ∀ n ∈ structureLength tagNum ((bytes.drop offset).take length) offset, n = length

section
variable {tvb : Tvb} {host : Host} {fields : CommonFields} {s : CaseState}
  {parsePoint keyLen certInfoLen payloadLen sigLen : Nat}

/-- The certificate information: what is shown of it, where the dissection goes on and where it
ends. -/
theorem showCertInfo_cases {hfindex : HeaderField} (hfield : hfindex ∈ sectionFields)
    (hend : parsePoint + certInfoLen ≤ tvb.bytes.length) (hlen : tvb.bytes.length < 2 ^ 16) :
    ∃ shown, ((0 < certInfoLen → Fills tagMatterCASECertificateInformation tvb.bytes parsePoint
        certInfoLen) ↔ shown <+: placed parsePoint (sectionIf hfindex certInfoLen)) ∧
      ((∃ s', (showCertInfo tvb host hfindex parsePoint certInfoLen).run s =
          .ok (parsePoint + certInfoLen) s' ∧ Showed sectionFields s s' shown ∧
          shown.length = (placed parsePoint (sectionIf hfindex certInfoLen)).length) ∨
        ∃ e s', (showCertInfo tvb host hfindex parsePoint certInfoLen).run s = .err e s' ∧
          Showed sectionFields s s' shown ∧
          shown.length ≤ (placed parsePoint (sectionIf hfindex certInfoLen)).length) := by
  unfold showCertInfo sectionIf Fills
  split
  · rename_i hpos
    rcases @addSection_cases tvb tagMatterCASECertificateInformation parsePoint certInfoLen hfindex
      .caseRequestCertInfo _ hfield (fun _ => noSections_certInfoMember host) hend (by omega)
      (by omega) s with
      ⟨n, s', hfound, hrun, hshowed⟩ | ⟨hfound, e, s', hrun, hshowed⟩
    · refine ⟨[⟨hfindex, parsePoint, n⟩], ?_, ?_⟩
      · rw [hfound]
        simp [placed, hpos]
      · rcases hrun with hrun | ⟨e, hrun⟩
        · exact .inl ⟨s', bind_ok hrun, hshowed, rfl⟩
        · exact .inr ⟨e, s', bind_err hrun, hshowed, Nat.le_refl _⟩
    · refine ⟨[], ?_, .inr ⟨e, s', bind_err hrun, hshowed, Nat.zero_le _⟩⟩
      rw [hfound]
      simp
  · rename_i hpos
    have hzero : certInfoLen = 0 := Nat.eq_zero_of_not_pos hpos
    subst hzero
    refine ⟨[], ?_, .inl ⟨s, rfl, .refl _ s, rfl⟩⟩
    simp [placed]

theorem shows_showCasePayload {hfindex : HeaderField} (hfield : hfindex ∈ sectionFields)
    (hend : parsePoint + payloadLen ≤ tvb.bytes.length) :
    Shows sectionFields (showCasePayload tvb hfindex parsePoint payloadLen)
      (parsePoint + payloadLen) (placed parsePoint (sectionIf hfindex payloadLen)) := by
  unfold showCasePayload sectionIf
  split
  · have hitem := @shows_addBytesItem _ sectionFields [] tvb .messageTree hfindex parsePoint
      payloadLen (fun _ => pure (parsePoint + payloadLen)) (parsePoint + payloadLen) hend
      fun _ => .pure _
    rw [sectionOf_of_mem hfield] at hitem
    exact hitem
  · have hzero : payloadLen = 0 := Nat.eq_zero_of_not_pos ‹_›
    subst hzero
    exact .pure _

/-- The fields are those of sections. -/
structure CommonFields.AreSections (fields : CommonFields) : Prop where
  ecdhPublicKey : fields.ecdhPublicKey ∈ sectionFields
  certInfo : fields.certInfo ∈ sectionFields
  payload : fields.payload ∈ sectionFields

/-- The sections from the public key to the payload. -/
def commonSections (fields : CommonFields) (keyLen certInfoLen payloadLen : Nat) :
    List (HeaderField × Nat) :=
  [(fields.ecdhPublicKey, keyLen)] ++ sectionIf fields.certInfo certInfoLen ++
    sectionIf fields.payload payloadLen

theorem span_append (l l' : List (HeaderField × Nat)) : span (l ++ l') = span l + span l' := by
  unfold span
  rw [List.map_append, List.sum_append]

theorem span_commonSections (fields : CommonFields) (keyLen certInfoLen payloadLen : Nat) :
    span (commonSections fields keyLen certInfoLen payloadLen) =
      keyLen + certInfoLen + payloadLen := by
  have hkey : span [(fields.ecdhPublicKey, keyLen)] = keyLen := Nat.add_zero _
  rw [commonSections, span_append, span_append, span_sectionIf, span_sectionIf, hkey]

theorem placed_commonSections (fields : CommonFields)
    (parsePoint keyLen certInfoLen payloadLen : Nat) :
    placed parsePoint (commonSections fields keyLen certInfoLen payloadLen) =
      [⟨fields.ecdhPublicKey, parsePoint, keyLen⟩] ++
        (placed (parsePoint + keyLen) (sectionIf fields.certInfo certInfoLen) ++
          placed (parsePoint + keyLen + certInfoLen) (sectionIf fields.payload payloadLen)) := by
  have hkey : span [(fields.ecdhPublicKey, keyLen)] = keyLen := Nat.add_zero _
  rw [commonSections, List.append_assoc, placed_append, placed_append, hkey, span_sectionIf]
  rfl

/-- As for the certificate information: what comes before and after it is shown as it is. -/
theorem showCommon_cases (hfields : fields.AreSections)
    (hend : parsePoint + keyLen + certInfoLen + payloadLen ≤ tvb.bytes.length)
    (hlen : tvb.bytes.length < 2 ^ 16) :
    ∃ shown, ((0 < certInfoLen → Fills tagMatterCASECertificateInformation tvb.bytes
        (parsePoint + keyLen) certInfoLen) ↔
          shown <+: placed (parsePoint + keyLen) (sectionIf fields.certInfo certInfoLen)) ∧
      ((∃ s', (showCommon tvb host fields parsePoint keyLen certInfoLen payloadLen).run s =
          .ok (parsePoint + keyLen + certInfoLen + payloadLen) s' ∧
          Showed sectionFields s s' ([⟨fields.ecdhPublicKey, parsePoint, keyLen⟩] ++ (shown ++
            placed (parsePoint + keyLen + certInfoLen) (sectionIf fields.payload payloadLen))) ∧
          shown.length =
            (placed (parsePoint + keyLen) (sectionIf fields.certInfo certInfoLen)).length) ∨
        ∃ e s', (showCommon tvb host fields parsePoint keyLen certInfoLen payloadLen).run s =
          .err e s' ∧
          Showed sectionFields s s' ([⟨fields.ecdhPublicKey, parsePoint, keyLen⟩] ++ shown) ∧
          shown.length ≤
            (placed (parsePoint + keyLen) (sectionIf fields.certInfo certInfoLen)).length) := by
  have hkey : ∃ node s₁, (addBytesItem tvb .messageTree fields.ecdhPublicKey parsePoint
      keyLen).run s = .ok node s₁ ∧
        Showed sectionFields s s₁ [⟨fields.ecdhPublicKey, parsePoint, keyLen⟩] := by
    obtain ⟨s₀, hbytes, hsame⟩ := @shows_getBytes sectionFields tvb parsePoint keyLen (by omega) s
    refine ⟨_, _, bind_ok hbytes, ?_⟩
    have hcall := @showed_call sectionFields s₀
      (.add .messageTree fields.ecdhPublicKey parsePoint keyLen .bytesItem)
    rw [sectionOf_of_mem hfields.ecdhPublicKey] at hcall
    exact hsame.trans hcall
  obtain ⟨node, s₁, hrun, hshowed⟩ := hkey
  obtain ⟨shown, hfills, hcases⟩ := @showCertInfo_cases tvb host s₁ (parsePoint + keyLen)
    certInfoLen fields.certInfo hfields.certInfo (by omega) hlen
  refine ⟨shown, hfills, ?_⟩
  rcases hcases with ⟨s₂, hrun₂, hshowed₂, hlength⟩ | ⟨e, s₂, hrun₂, hshowed₂, hlength⟩
  · obtain ⟨s₃, hrun₃, hshowed₃⟩ := shows_showCasePayload hfields.payload hend s₂
    refine .inl ⟨s₃, ?_, hshowed.trans (hshowed₂.trans hshowed₃), hlength⟩
    rw [showCommon, bind_ok hrun, bind_ok hrun₂, hrun₃]
  · refine .inr ⟨e, s₂, ?_, hshowed.trans hshowed₂, hlength⟩
    rw [showCommon, bind_ok hrun, bind_err hrun₂]

/-- The certificate information is absent or decodes: the dissection goes on behind it. -/
def PassesCertInfo (host : Host) (bytes : List UInt8) (offset length : Nat) : Prop :=
  0 < length → certInfoDecodes host ((bytes.drop offset).take length) = true

theorem showCertInfo_returns_iff {hfindex : HeaderField}
    (hend : parsePoint + certInfoLen ≤ tvb.bytes.length) (hlen : tvb.bytes.length < 2 ^ 16) :
    (∃ p s', (showCertInfo tvb host hfindex parsePoint certInfoLen).run s = .ok p s') ↔
      PassesCertInfo host tvb.bytes parsePoint certInfoLen := by
  unfold showCertInfo PassesCertInfo
  split
  · rename_i hpos
    rw [certInfoDecodes, ← addSection_returns_iff (fun node node' => alike_certInfoMember host node
      node') hend (by omega) s]
    constructor
    · rintro ⟨p, s', h⟩ -
      obtain ⟨_, s₁, hsection, -⟩ := bind_eq_ok.1 h
      exact ⟨s₁, hsection⟩
    · intro h
      obtain ⟨s₁, hsection⟩ := h hpos
      exact ⟨_, s₁, bind_ok hsection⟩
  · rename_i hpos
    exact ⟨fun _ h => absurd h hpos, fun _ => ⟨_, s, rfl⟩⟩

theorem showCommon_returns_iff (hfields : fields.AreSections)
    (hend : parsePoint + keyLen + certInfoLen + payloadLen ≤ tvb.bytes.length)
    (hlen : tvb.bytes.length < 2 ^ 16) :
    (∃ p s', (showCommon tvb host fields parsePoint keyLen certInfoLen payloadLen).run s =
      .ok p s') ↔ PassesCertInfo host tvb.bytes (parsePoint + keyLen) certInfoLen := by
  have hkey : ∃ node s₁, (addBytesItem tvb .messageTree fields.ecdhPublicKey parsePoint
      keyLen).run s = .ok node s₁ := by
    obtain ⟨s₀, hbytes, -⟩ := @shows_getBytes sectionFields tvb parsePoint keyLen (by omega) s
    exact ⟨_, _, bind_ok hbytes⟩
  obtain ⟨node, s₁, hrun⟩ := hkey
  have hcertEnd : parsePoint + keyLen + certInfoLen ≤ tvb.bytes.length := by omega
  rw [← @showCertInfo_returns_iff tvb host s₁ _ _ fields.certInfo hcertEnd hlen, showCommon,
    bind_ok hrun]
  constructor
  · rintro ⟨p, s', h⟩
    obtain ⟨p', s₂, hcert, -⟩ := bind_eq_ok.1 h
    exact ⟨p', s₂, hcert⟩
  · rintro ⟨p', s₂, hcert⟩
    have hp : p' = parsePoint + keyLen + certInfoLen := by
      rcases @showCertInfo_cases tvb host s₁ (parsePoint + keyLen) certInfoLen fields.certInfo
        hfields.certInfo (by omega) hlen with ⟨shown, -, ⟨s₃, hok, -⟩ | ⟨e, s₃, herr, -⟩⟩
      · cases hok.symm.trans hcert
        rfl
      · cases herr.symm.trans hcert
    subst hp
    obtain ⟨s₃, hpayload, -⟩ := @shows_showCasePayload tvb _ payloadLen fields.payload
      hfields.payload hend s₂
    exact ⟨_, s₃, (bind_ok hcert).trans hpayload⟩

/-- What comes behind the signature: it shows the sections `extra` and hashes `msg`. -/
def Concludes (k : CaseM Unit) (parsePoint : Nat) (extra : List (HeaderField × Nat))
    (msg : List UInt8) : Prop := ∀ s, Finishes k s msg (placed parsePoint extra)

/-- The signature and what follows. -/
theorem finishes_signature {hfSig : HeaderField} {k : Nat → CaseM Unit}
    {extra : List (HeaderField × Nat)} {msg : List UInt8} (hsig : hfSig ∈ sectionFields)
    (hpos : 0 < sigLen) (hend : parsePoint + sigLen ≤ tvb.bytes.length)
    (hlen : tvb.bytes.length < 2 ^ 16)
    (hk : Concludes (k (parsePoint + sigLen)) (parsePoint + sigLen) extra msg) :
    ∃ shown, Finishes (showSignature tvb hfSig parsePoint sigLen >>= k) s msg shown ∧
      (shown <+: ⟨hfSig, parsePoint, sigLen⟩ :: placed (parsePoint + sigLen) extra ↔
        Fills tagMatterCASESignature tvb.bytes parsePoint sigLen) := by
  unfold Fills
  rw [showSignature, if_pos hpos]
  rcases @addSection_cases tvb tagMatterCASESignature parsePoint sigLen hfSig
    .caseRequestSignature _ hsig (fun _ => noSections_ecdsaSigMember) hend (by omega) (by omega)
    s with
    ⟨n, s', hfound, hrun | ⟨e, hrun⟩, hshowed⟩ | ⟨hfound, e, s', hrun, hshowed⟩
  · refine ⟨[⟨hfSig, parsePoint, n⟩] ++ placed (parsePoint + sigLen) extra, ?_, ?_⟩
    · exact .bind_ok (bind_ok hrun) hshowed (hk s')
    · rw [hfound]
      simp
  · refine ⟨[⟨hfSig, parsePoint, n⟩], .of_err (bind_err hrun) hshowed, ?_⟩
    rw [hfound]
    simp
  · refine ⟨[], .of_err (bind_err hrun) hshowed, ?_⟩
    rw [hfound]
    simp

/-- From the public key on the sections are laid out as they should be exactly when the structures
fill theirs, the signature's where the dissection gets there. -/
theorem finishes_common {hfSig : HeaderField} {k : Nat → CaseM Unit}
    {extra : List (HeaderField × Nat)} {msg : List UInt8} (hfields : fields.AreSections)
    (hsig : hfSig ∈ sectionFields) (hpos : 0 < sigLen)
    (hend : parsePoint + keyLen + certInfoLen + payloadLen + sigLen ≤ tvb.bytes.length)
    (hlen : tvb.bytes.length < 2 ^ 16)
    (hk : Concludes (k (parsePoint + keyLen + certInfoLen + payloadLen + sigLen))
      (parsePoint + keyLen + certInfoLen + payloadLen + sigLen) extra msg) :
    ∃ shown, Finishes (do
        let parsePoint ← showCommon tvb host fields parsePoint keyLen certInfoLen payloadLen
        let parsePoint ← showSignature tvb hfSig parsePoint sigLen
        k parsePoint) s msg shown ∧
      (shown <+: placed parsePoint (commonSections fields keyLen certInfoLen payloadLen ++
          ((hfSig, sigLen) :: extra)) ↔
        (0 < certInfoLen → Fills tagMatterCASECertificateInformation tvb.bytes
          (parsePoint + keyLen) certInfoLen) ∧
        (PassesCertInfo host tvb.bytes (parsePoint + keyLen) certInfoLen →
          Fills tagMatterCASESignature tvb.bytes
            (parsePoint + keyLen + certInfoLen + payloadLen) sigLen)) := by
  obtain ⟨cert, hfills, hcases⟩ := @showCommon_cases tvb host fields s parsePoint keyLen certInfoLen
    payloadLen hfields (by omega) hlen
  have hspec : placed parsePoint (commonSections fields keyLen certInfoLen payloadLen ++
      ((hfSig, sigLen) :: extra)) = [⟨fields.ecdhPublicKey, parsePoint, keyLen⟩] ++
        (placed (parsePoint + keyLen) (sectionIf fields.certInfo certInfoLen) ++
          (placed (parsePoint + keyLen + certInfoLen) (sectionIf fields.payload payloadLen) ++
            (⟨hfSig, parsePoint + keyLen + certInfoLen + payloadLen, sigLen⟩ ::
              placed (parsePoint + keyLen + certInfoLen + payloadLen + sigLen) extra))) := by
    rw [placed_append, placed_commonSections, span_commonSections, placed]
    simp [Nat.add_assoc]
  rw [hspec, hfills, ← @showCommon_returns_iff tvb host fields s parsePoint keyLen certInfoLen
    payloadLen hfields (by omega) hlen]
  rcases hcases with ⟨s₁, hrun, hshowed, hlength⟩ | ⟨e, s₁, hrun, hshowed, hlength⟩
  · have hreached : ∃ p s', (showCommon tvb host fields parsePoint keyLen certInfoLen
        payloadLen).run s = .ok p s' := ⟨_, s₁, hrun⟩
    rw [forall_prop_of_true hreached]
    obtain ⟨sig, hfinishes, hsigFills⟩ := @finishes_signature tvb s₁
      (parsePoint + keyLen + certInfoLen + payloadLen) sigLen hfSig k extra msg hsig hpos hend hlen
      hk
    refine ⟨_, .bind_ok hrun hshowed hfinishes, ?_⟩
    rw [List.append_assoc, List.append_assoc, List.prefix_append_right_inj,
      append_prefix_append_iff hlength, List.prefix_append_right_inj, hsigFills]
    exact and_congr_left' ⟨fun h => h ▸ List.prefix_rfl, fun h => h.eq_of_length hlength⟩
  · have hnever : ¬ ∃ p s', (showCommon tvb host fields parsePoint keyLen certInfoLen
        payloadLen).run s = .ok p s' := by
      rintro ⟨p, s', hok⟩
      cases hrun.symm.trans hok
    refine ⟨_, .of_err hrun hshowed, ?_⟩
    rw [List.prefix_append_right_inj, prefix_append_iff hlength]
    exact ⟨fun h => ⟨h, fun hreached => absurd hreached hnever⟩, And.left⟩

end

/-! ## The request -/

section
variable {tvb : Tvb} {env : CaseEnv}

/-- A hash is of the first bytes of the message. -/
theorem computeCASEMessageHash_run {n : Nat} (h : n ≤ tvb.bytes.length)
    (hlen : tvb.bytes.length < 2 ^ 16) (config : Nat) (s : CaseState) :
    ∃ hash, (computeCASEMessageHash tvb env n config).run s =
      .ok hash { s with hashed := s.hashed ++ [tvb.bytes.take n] } := by
  have hbytes : 0 + n ≤ tvb.bytes.length := by omega
  rw [computeCASEMessageHash, bind_ok (onTvb_memdup hbytes (by omega) s)]
  exact ⟨_, rfl⟩

/-- A program that returns without showing a section. -/
theorem Finishes.of_ok {x : CaseM Unit} {s t : CaseState} {msg : List UInt8}
    (h : x.run s = .ok () t) (hlog : t.log = s.log)
    (hhashed : ∀ m ∈ t.hashed, m ∈ s.hashed ∨ m = msg) : Finishes x s msg [] :=
  ⟨t, fun _ => reaches_ok h, by rw [hlog, List.append_nil], hhashed⟩

/-- A record is made without showing a section. -/
theorem recordRequest_run {m : CASEBeginSessionRequest} {ecdhPublicKeyOffset : Nat}
    (hkey : ecdhPublicKeyOffset + m.ecdhPublicKeyLen ≤ tvb.bytes.length)
    (hmsg : m.msgLenWithoutSig ≤ tvb.bytes.length) (hlen : tvb.bytes.length < 2 ^ 16)
    (s : CaseState) :
    ∃ t, (recordRequest tvb env m ecdhPublicKeyOffset).run s = .ok () t ∧ t.log = s.log ∧
      ∀ msg ∈ t.hashed, msg ∈ s.hashed ∨ msg = tvb.bytes.take m.msgLenWithoutSig := by
  rw [recordRequest]
  cases hown : s.caseExchangeRec with
  | none =>
    obtain ⟨hash, hhash⟩ := @computeCASEMessageHash_run tvb env _ hmsg hlen m.proposedConfig s
    apply Exists.intro
    refine ⟨?_, ?_, ?_⟩
    · rw [gets_bind, if_pos hown, bind_ok (onTvb_memdup hkey (by omega) s), bind_ok hhash,
        run_modify]
    · rfl
    · intro x hx
      simpa using hx
  | some p =>
    have hrun : (gets (·.caseExchangeRec) : CaseM _).run s = .ok (some p) s := by
      rw [run_gets, hown]
    refine ⟨s, ?_, rfl, fun _ hx => .inl hx⟩
    rw [bind_ok hrun]
    rfl

theorem concludes_recordRequest {m : CASEBeginSessionRequest} {ecdhPublicKeyOffset : Nat}
    (parsePoint : Nat) (hkey : ecdhPublicKeyOffset + m.ecdhPublicKeyLen ≤ tvb.bytes.length)
    (hmsg : m.msgLenWithoutSig ≤ tvb.bytes.length) (hlen : tvb.bytes.length < 2 ^ 16) :
    Concludes (recordRequest tvb env m ecdhPublicKeyOffset) parsePoint []
      (tvb.bytes.take m.msgLenWithoutSig) := by
  intro s
  obtain ⟨t, hrun, hlog, hhashed⟩ := @recordRequest_run tvb env m _ hkey hmsg hlen s
  exact .of_ok hrun hlog hhashed

/-- The sections of a request behind its header. -/
def requestSections (m : CASEBeginSessionRequest) (sigLen : Nat) : List (HeaderField × Nat) :=
  altLists m ++ (commonSections requestFields m.ecdhPublicKeyLen m.certInfoLen m.payloadLen ++
    [(.caseRequestSignature, sigLen)])

/-- The bytes in front of the signature, as a natural number. -/
def CASEBeginSessionRequest.lengthWithoutSig (m : CASEBeginSessionRequest) : Nat :=
  18 + m.altConfigCount * 4 + m.altCurveCount * 4 + m.ecdhPublicKeyLen + m.certInfoLen +
    m.payloadLen

theorem span_requestSections (m : CASEBeginSessionRequest) (sigLen : Nat) :
    18 + span (requestSections m sigLen) = m.lengthWithoutSig + sigLen := by
  have hlists : span (altLists m) = m.altConfigCount * 4 + m.altCurveCount * 4 := rfl
  have hsig : span [(.caseRequestSignature, sigLen)] = sigLen := Nat.add_zero _
  rw [requestSections, span_append, span_append, span_commonSections, hlists, hsig,
    CASEBeginSessionRequest.lengthWithoutSig]
  omega

/-- The sections of a request add up to its payload, they are laid out side by side, and what is
hashed is everything in front of the signature. -/
structure RequestLaidOut (env : CaseEnv) (bytes : List UInt8) (s : CaseState) : Prop where
  adds_up : 18 + span (requestSections (requestOf bytes)
    (bytes.length - (requestOf bytes).msgLenWithoutSig)) = bytes.length
  laidOut : ∀ t, Reaches (dissectCASEBeginSessionRequest (.ofBytes bytes) env) s t →
    LaidOut (requestSections (requestOf bytes)
      (bytes.length - (requestOf bytes).msgLenWithoutSig)) 18 bytes.length
      (sections sectionFields t.log)
  hashed : ∀ t, Reaches (dissectCASEBeginSessionRequest (.ofBytes bytes) env) s t →
    ∀ msg ∈ t.hashed, msg = bytes.take (requestOf bytes).lengthWithoutSig

/-- Where the certificate information of a request begins. -/
def CASEBeginSessionRequest.certInfoOffset (m : CASEBeginSessionRequest) : Nat :=
  18 + m.altConfigCount * 4 + m.altCurveCount * 4 + m.ecdhPublicKeyLen

/-- The sum does not wrap, there are as many alternate configs as curves, and the structures fill
their sections: the signature's where the dissection gets there. -/
structure RequestFits (env : CaseEnv) (bytes : List UInt8) : Prop where
  no_wrap : (requestOf bytes).lengthWithoutSig < 2 ^ 16
  counts_eq : (requestOf bytes).altConfigCount = (requestOf bytes).altCurveCount
  certInfo_fills : 0 < (requestOf bytes).certInfoLen →
    Fills tagMatterCASECertificateInformation bytes (requestOf bytes).certInfoOffset
      (requestOf bytes).certInfoLen
  signature_fills :
    PassesCertInfo env.host bytes (requestOf bytes).certInfoOffset (requestOf bytes).certInfoLen →
      Fills tagMatterCASESignature bytes (requestOf bytes).lengthWithoutSig
        (bytes.length - (requestOf bytes).msgLenWithoutSig)

theorem requestFields_areSections : requestFields.AreSections := ⟨by decide, by decide, by decide⟩

/-- A request whose sum does not wrap: where it ends, and what it shows. -/
theorem finishes_dissectRequest {bytes : List UInt8} (hlen : bytes.length < 2 ^ 16)
    (hpasses : RequestPasses bytes) (hwrap : (requestOf bytes).lengthWithoutSig < 2 ^ 16)
    (s : CaseState) :
    ∃ shown, Finishes (dissectRequest (.ofBytes bytes) env) s
        (bytes.take (requestOf bytes).lengthWithoutSig) shown ∧
      (shown <+: placed 18 (requestSections (requestOf bytes)
          (bytes.length - (requestOf bytes).msgLenWithoutSig)) ↔
        RequestFits env bytes) := by
  obtain ⟨m, hm⟩ : ∃ m, m = requestOf bytes := ⟨_, rfl⟩
  have hmod : m.msgLenWithoutSig = m.lengthWithoutSig := by
    rw [hm]
    exact Nat.mod_eq_of_lt hwrap
  have hpayload : m.lengthWithoutSig < bytes.length := by
    rw [← hmod, hm]
    exact hpasses.2
  have hsum : m.lengthWithoutSig = 18 + m.altConfigCount * 4 + m.altCurveCount * 4 +
      m.ecdhPublicKeyLen + m.certInfoLen + m.payloadLen := rfl
  obtain ⟨s₁, hbegin, hshowed₁⟩ := @shows_beginRequest (.ofBytes bytes) hpasses s
  have hlists : 18 + m.altConfigCount * 4 + m.altCurveCount * 4 ≤ bytes.length := by omega
  obtain ⟨s₂, hlists, hshowed₂⟩ := @shows_showAltLists (.ofBytes bytes) m hlists s₁
  have hkey : 18 + m.altConfigCount * 4 + m.altCurveCount * 4 + m.ecdhPublicKeyLen ≤
      bytes.length := by omega
  have hend : 18 + m.altConfigCount * 4 + m.altCurveCount * 4 + m.ecdhPublicKeyLen +
      m.certInfoLen + m.payloadLen + (bytes.length - m.msgLenWithoutSig) ≤ bytes.length := by
    omega
  obtain ⟨shown, hfinishes, hiff⟩ := @finishes_common (.ofBytes bytes) env.host requestFields s₂ _
    m.ecdhPublicKeyLen m.certInfoLen m.payloadLen _ .caseRequestSignature
    (fun _ => recordRequest (.ofBytes bytes) env m
      (18 + m.altConfigCount * 4 + m.altCurveCount * 4)) _ _ requestFields_areSections (by decide)
    (by omega) hend hlen (concludes_recordRequest _ hkey (show _ ≤ bytes.length by omega) hlen)
  subst hm
  have hdissect : Finishes (dissectRequest (.ofBytes bytes) env) s
      (bytes.take (requestOf bytes).msgLenWithoutSig)
      ([] ++ (shownAltLists (requestOf bytes) bytes.length ++ shown)) := by
    rw [dissectRequest]
    exact .bind_ok hbegin hshowed₁ (.bind_ok hlists hshowed₂ hfinishes)
  rw [hmod] at hdissect
  have hspan : 18 + span (altLists (requestOf bytes)) =
      18 + (requestOf bytes).altConfigCount * 4 + (requestOf bytes).altCurveCount * 4 :=
    (Nat.add_assoc _ _ _).symm
  have hlength : (shownAltLists (requestOf bytes) bytes.length).length =
      (placed 18 (altLists (requestOf bytes))).length := rfl
  refine ⟨_, hdissect, ?_⟩
  rw [List.nil_append, requestSections, placed_append, append_prefix_append_iff hlength, hspan,
    hiff, shownAltLists_eq_iff (by omega)]
  constructor
  · rintro ⟨hcounts, hcert, hsig⟩
    exact ⟨hwrap, hcounts, hcert, hsig⟩
  · rintro ⟨-, hcounts, hcert, hsig⟩
    exact ⟨hcounts, hcert, hsig⟩

/-- A run that ends in one state has laid out what it has shown there. -/
theorem Finishes.laidOut {x : CaseM Unit} {s : CaseState} {msg : List UInt8}
    {shown : List SectionRange} {lengths : List (HeaderField × Nat)} {start total : Nat}
    (h : Finishes x s msg shown) (hlog : s.log = []) (htotal : start + span lengths = total) :
    (∀ t, Reaches x s t → LaidOut lengths start total (sections sectionFields t.log)) ↔
      shown <+: placed start lengths := by
  obtain ⟨t, ht, hsections, -⟩ := h
  rw [hlog] at hsections
  have hshown : sections sectionFields t.log = shown := hsections
  constructor
  · intro hall
    rw [← hshown]
    exact (hall t ((ht t).2 rfl)).consecutive
  · intro hprefix t' ht'
    rw [(ht t').1 ht', hshown]
    exact (laidOut_iff (Nat.le_of_eq htotal)).2 hprefix

theorem Finishes.hashed {x : CaseM Unit} {s : CaseState} {msg : List UInt8}
    {shown : List SectionRange} (h : Finishes x s msg shown) (hhashed : s.hashed = []) :
    ∀ t, Reaches x s t → ∀ m ∈ t.hashed, m = msg := by
  obtain ⟨t, ht, -, hmsg⟩ := h
  intro t' ht' m hm
  rw [(ht t').1 ht'] at hm
  rcases hmsg m hm with h | h
  · rw [hhashed] at h
    cases h
  · exact h

theorem requestLaidOut_iff {bytes : List UInt8} (hlen : bytes.length < 2 ^ 16)
    (hpasses : RequestPasses bytes) {s : CaseState} (hlog : s.log = []) (hhashed : s.hashed = []) :
    RequestLaidOut env bytes s ↔ RequestFits env bytes := by
  have hpayload : (requestOf bytes).msgLenWithoutSig < bytes.length := hpasses.2
  have hmod : (requestOf bytes).msgLenWithoutSig =
      (requestOf bytes).lengthWithoutSig % 2 ^ 16 := rfl
  have hadds : 18 + span (requestSections (requestOf bytes)
      (bytes.length - (requestOf bytes).msgLenWithoutSig)) = bytes.length ↔
      (requestOf bytes).lengthWithoutSig < 2 ^ 16 := by
    rw [span_requestSections]
    omega
  by_cases hwrap : (requestOf bytes).lengthWithoutSig < 2 ^ 16
  · obtain ⟨shown, hfinishes, hfits⟩ := @finishes_dissectRequest env _ hlen hpasses hwrap s
    rw [← hfits, ← hfinishes.laidOut hlog (hadds.2 hwrap)]
    constructor
    · intro h t ht
      exact h.laidOut t (reaches_ignoringCode.2 ht)
    · intro h
      refine ⟨hadds.2 hwrap, fun t ht => h t (reaches_ignoringCode.1 ht), fun t ht => ?_⟩
      exact hfinishes.hashed hhashed t (reaches_ignoringCode.1 ht)
  · exact ⟨fun h => absurd (hadds.1 h.adds_up) hwrap, fun h => absurd h.no_wrap hwrap⟩

/-! ## The response -/

/-- The sections of a response behind its header. -/
def responseSections (m : CASEBeginSessionResponse) (sigLen : Nat) : List (HeaderField × Nat) :=
  commonSections responseFields m.ecdhPublicKeyLen m.certInfoLen m.payloadLen ++
    ((.caseResponseSignature, sigLen) :: sectionIf .caseResponseKeyConfirmHash m.keyConfirmHashLen)

/-- The bytes in front of the signature, as a natural number. -/
def CASEBeginSessionResponse.signedLength (m : CASEBeginSessionResponse) : Nat :=
  6 + m.ecdhPublicKeyLen + m.certInfoLen + m.payloadLen

theorem span_responseSections (m : CASEBeginSessionResponse) (sigLen : Nat) :
    6 + span (responseSections m sigLen) = m.signedLength + sigLen + m.keyConfirmHashLen := by
  have hsig : ∀ extra, span ((.caseResponseSignature, sigLen) :: extra) = sigLen + span extra :=
    fun _ => rfl
  rw [responseSections, span_append, span_commonSections, hsig, span_sectionIf,
    CASEBeginSessionResponse.signedLength]
  omega

/-- As for a request. -/
structure ResponseLaidOut (env : CaseEnv) (bytes : List UInt8) (s : CaseState) : Prop where
  adds_up : 6 + span (responseSections (responseOf bytes)
    (bytes.length - (responseOf bytes).msgLenWithoutSig)) = bytes.length
  laidOut : ∀ t, Reaches (dissectCASEBeginSessionResponse (.ofBytes bytes) env) s t →
    LaidOut (responseSections (responseOf bytes)
      (bytes.length - (responseOf bytes).msgLenWithoutSig)) 6 bytes.length
      (sections sectionFields t.log)
  hashed : ∀ t, Reaches (dissectCASEBeginSessionResponse (.ofBytes bytes) env) s t →
    ∀ msg ∈ t.hashed, msg = bytes.take (responseOf bytes).signedLength

/-- The sum does not wrap, and the structures fill their sections: the signature's where the
dissection gets there. -/
structure ResponseFits (env : CaseEnv) (bytes : List UInt8) : Prop where
  no_wrap : (responseOf bytes).signedLength + (responseOf bytes).keyConfirmHashLen < 2 ^ 16
  certInfo_fills : 0 < (responseOf bytes).certInfoLen →
    Fills tagMatterCASECertificateInformation bytes (6 + (responseOf bytes).ecdhPublicKeyLen)
      (responseOf bytes).certInfoLen
  signature_fills :
    PassesCertInfo env.host bytes (6 + (responseOf bytes).ecdhPublicKeyLen)
      (responseOf bytes).certInfoLen →
      Fills tagMatterCASESignature bytes (responseOf bytes).signedLength
        (bytes.length - (responseOf bytes).msgLenWithoutSig)

theorem responseFields_areSections : responseFields.AreSections :=
  ⟨by decide, by decide, by decide⟩

theorem shows_showKeyConfirmHash {parsePoint keyConfirmHashLen : Nat}
    (hend : parsePoint + keyConfirmHashLen ≤ tvb.bytes.length) :
    Shows sectionFields (showKeyConfirmHash tvb parsePoint keyConfirmHashLen) ()
      (placed parsePoint (sectionIf .caseResponseKeyConfirmHash keyConfirmHashLen)) := by
  unfold showKeyConfirmHash sectionIf
  split
  · have hitem := @shows_addBytesItem _ sectionFields [] tvb .messageTree
      .caseResponseKeyConfirmHash parsePoint keyConfirmHashLen (fun _ => pure ()) () hend
      fun _ => .pure _
    rw [sectionOf_of_mem (by decide)] at hitem
    exact hitem
  · exact .pure _

/-- As for a request. -/
theorem recordResponse_run {m : CASEBeginSessionResponse} (s : CaseState)
    (hkey : 6 + m.ecdhPublicKeyLen ≤ tvb.bytes.length)
    (hmsg : m.signedMsgLen ≤ tvb.bytes.length) (hlen : tvb.bytes.length < 2 ^ 16) :
    ∃ t, (recordResponse tvb env m).run s = .ok () t ∧ t.log = s.log ∧
      ∀ msg ∈ t.hashed, msg ∈ s.hashed ∨ msg = tvb.bytes.take m.signedMsgLen := by
  rw [recordResponse]
  cases hfound : (if s.caseExchangeRec = none then findCASEExchangeRecord s else none) with
  | none =>
    refine ⟨s, ?_, rfl, fun _ hx => .inl hx⟩
    rw [gets_bind, gets_bind, hfound]
    rfl
  | some p =>
    obtain ⟨hash, hhash⟩ := @computeCASEMessageHash_run tvb env _ hmsg hlen
      ((s.records[p]?.map (·.config)).getD 0) { s with caseExchangeRec := some p }
    apply Exists.intro
    refine ⟨?_, ?_, ?_⟩
    · rw [gets_bind, gets_bind, hfound]
      dsimp only
      rw [recordResponseAt, modify_bind, bind_ok (onTvb_memdup hkey (by omega) _), gets_bind,
        bind_ok hhash, run_modify]
    · rfl
    · intro x hx
      simpa using hx

theorem concludes_response {m : CASEBeginSessionResponse} {parsePoint : Nat}
    (hend : parsePoint + m.keyConfirmHashLen ≤ tvb.bytes.length)
    (hkey : 6 + m.ecdhPublicKeyLen ≤ tvb.bytes.length)
    (hmsg : m.signedMsgLen ≤ tvb.bytes.length) (hlen : tvb.bytes.length < 2 ^ 16) :
    Concludes (do
        showKeyConfirmHash tvb parsePoint m.keyConfirmHashLen
        recordResponse tvb env m) parsePoint
      (sectionIf .caseResponseKeyConfirmHash m.keyConfirmHashLen)
      (tvb.bytes.take m.signedMsgLen) := by
  intro s
  have hboth : Finishes (showKeyConfirmHash tvb parsePoint m.keyConfirmHashLen >>=
      fun _ => recordResponse tvb env m) s (tvb.bytes.take m.signedMsgLen) _ :=
    Finishes.shows (shows_showKeyConfirmHash hend) fun s => by
      obtain ⟨t, hrun, hlog, hhashed⟩ := @recordResponse_run tvb env m s hkey hmsg hlen
      exact .of_ok hrun hlog hhashed
  rw [List.append_nil] at hboth
  exact hboth

/-- A response whose sum does not wrap: where it ends, and what it shows. -/
theorem finishes_dissectResponse {bytes : List UInt8} (hlen : bytes.length < 2 ^ 16)
    (hpasses : ResponsePasses bytes)
    (hwrap : (responseOf bytes).signedLength + (responseOf bytes).keyConfirmHashLen < 2 ^ 16)
    (s : CaseState) :
    ∃ shown, Finishes (dissectResponse (.ofBytes bytes) env) s
        (bytes.take (responseOf bytes).signedLength) shown ∧
      (shown <+: placed 6 (responseSections (responseOf bytes)
          (bytes.length - (responseOf bytes).msgLenWithoutSig)) ↔
        ResponseFits env bytes) := by
  obtain ⟨m, hm⟩ : ∃ m, m = responseOf bytes := ⟨_, rfl⟩
  have hsum : m.signedLength = 6 + m.ecdhPublicKeyLen + m.certInfoLen + m.payloadLen := rfl
  have hwrap' : m.signedLength + m.keyConfirmHashLen < 2 ^ 16 := by rw [hm]; exact hwrap
  have hsigned : m.signedMsgLen = m.signedLength := Nat.mod_eq_of_lt (by omega)
  have hmod : m.msgLenWithoutSig = m.signedLength + m.keyConfirmHashLen := by
    rw [CASEBeginSessionResponse.msgLenWithoutSig, hsigned]
    exact Nat.mod_eq_of_lt hwrap'
  have hpayload : m.signedLength + m.keyConfirmHashLen < bytes.length := by
    rw [← hmod, hm]
    exact hpasses.2.2
  obtain ⟨s₁, hbegin, hshowed₁⟩ := @shows_beginResponse (.ofBytes bytes) hpasses s
  have hkey : 6 + m.ecdhPublicKeyLen ≤ bytes.length := by omega
  have hend : 6 + m.ecdhPublicKeyLen + m.certInfoLen + m.payloadLen +
      (bytes.length - m.msgLenWithoutSig) ≤ bytes.length := by omega
  obtain ⟨shown, hfinishes, hiff⟩ := @finishes_common (.ofBytes bytes) env.host responseFields s₁ _
    m.ecdhPublicKeyLen m.certInfoLen m.payloadLen _ .caseResponseSignature
    (fun parsePoint => do
      showKeyConfirmHash (.ofBytes bytes) parsePoint m.keyConfirmHashLen
      recordResponse (.ofBytes bytes) env m) _ _ responseFields_areSections (by decide)
    (by omega) hend hlen (concludes_response (show _ ≤ bytes.length by omega) hkey
      (show _ ≤ bytes.length by omega) hlen)
  subst hm
  have hdissect : Finishes (dissectResponse (.ofBytes bytes) env) s
      (bytes.take (responseOf bytes).signedMsgLen) ([] ++ shown) := by
    rw [dissectResponse]
    exact .bind_ok hbegin hshowed₁ hfinishes
  rw [hsigned] at hdissect
  refine ⟨_, hdissect, ?_⟩
  rw [List.nil_append, responseSections, hiff]
  constructor
  · rintro ⟨hcert, hsig⟩
    exact ⟨hwrap, hcert, hsig⟩
  · rintro ⟨-, hcert, hsig⟩
    exact ⟨hcert, hsig⟩

theorem responseLaidOut_iff {bytes : List UInt8} (hlen : bytes.length < 2 ^ 16)
    (hpasses : ResponsePasses bytes) {s : CaseState} (hlog : s.log = [])
    (hhashed : s.hashed = []) :
    ResponseLaidOut env bytes s ↔ ResponseFits env bytes := by
  have hpayload : (responseOf bytes).msgLenWithoutSig < bytes.length := hpasses.2.2
  have hmod : (responseOf bytes).msgLenWithoutSig = ((responseOf bytes).signedLength % 2 ^ 16 +
      (responseOf bytes).keyConfirmHashLen) % 2 ^ 16 := rfl
  have hadds : 6 + span (responseSections (responseOf bytes)
      (bytes.length - (responseOf bytes).msgLenWithoutSig)) = bytes.length ↔
      (responseOf bytes).signedLength + (responseOf bytes).keyConfirmHashLen < 2 ^ 16 := by
    rw [span_responseSections]
    omega
  by_cases hwrap : (responseOf bytes).signedLength + (responseOf bytes).keyConfirmHashLen < 2 ^ 16
  · obtain ⟨shown, hfinishes, hfits⟩ := @finishes_dissectResponse env _ hlen hpasses hwrap s
    rw [← hfits, ← hfinishes.laidOut hlog (hadds.2 hwrap)]
    constructor
    · intro h t ht
      exact h.laidOut t (reaches_ignoringCode.2 ht)
    · intro h
      refine ⟨hadds.2 hwrap, fun t ht => h t (reaches_ignoringCode.1 ht), fun t ht => ?_⟩
      exact hfinishes.hashed hhashed t (reaches_ignoringCode.1 ht)
  · exact ⟨fun h => absurd (hadds.1 h.adds_up) hwrap, fun h => absurd h.no_wrap hwrap⟩

end

/-! ## Both messages -/

/-- In payloads that pass the checks of their length, the sections add up to the payload, the ones
shown are laid out side by side and everything in front of the signature is hashed, exactly when
the sums do not wrap and the sections fit. -/
theorem caseBeginSession_laidOut_iff (env : CaseEnv) (bytes : List UInt8)
    (hlen : bytes.length < 2 ^ 16) (records : List CASEExchangeRecord)
    (caseExchangeRec : Option Nat) (prevByExchange : List (Option Nat)) :
    (RequestPasses bytes →
      (RequestLaidOut env bytes (.start records caseExchangeRec prevByExchange) ↔
        RequestFits env bytes)) ∧
    (ResponsePasses bytes →
      (ResponseLaidOut env bytes (.start records caseExchangeRec prevByExchange) ↔
        ResponseFits env bytes)) :=
  ⟨fun hpasses => requestLaidOut_iff hlen hpasses rfl rfl,
    fun hpasses => responseLaidOut_iff hlen hpasses rfl rfl⟩

def plainCaseEnv : CaseEnv := { host := plainHost, sha1 := fun _ => [], sha256 := fun _ => [] }

/-- A reference to a certificate by its public key. -/
def someCertInfo : List UInt8 :=
  [0x95, 0x07, 0x00, 0x35, 0x02, 0x30, 0x02, 0x08, 0xA0, 0xA1, 0xA2, 0xA3, 0xA4, 0xA5, 0xA6, 0xA7,
    0x18, 0x18]

/-- Two numbers of four bytes. -/
def someSignature : List UInt8 :=
  [0x95, 0x08, 0x00, 0x30, 0x01, 0x04, 0x01, 0x02, 0x03, 0x04, 0x30, 0x02, 0x04, 0x05, 0x06, 0x07,
    0x08, 0x18]

/-- A request for session 7: Config2 or Config1, prime192v1 or prime256v1. -/
def generatorRequest : List UInt8 :=
  [0x01, 1, 1, 49, 18, 0, 4, 0, 0x02, 0x00, 0x5A, 0x23, 0x15, 0x00, 0x5A, 0x23, 7, 0,
    0x01, 0x00, 0x5A, 0x23, 0x1B, 0x00, 0x5A, 0x23] ++ prime192v1G ++ someCertInfo ++
    [0xDE, 0xAD, 0xBE, 0xEF] ++ someSignature

/-- A response with a key confirmation of 32 bytes. -/
def generatorResponse : List UInt8 :=
  [0x40, 49, 18, 0, 4, 0] ++ prime192v1G ++ someCertInfo ++ [0xDE, 0xAD, 0xBE, 0xEF] ++
    someSignature ++ List.replicate 32 0

theorem Fills.of_eq {tagNum : Nat} {bytes : List UInt8} {offset length : Nat}
    (h : structureLength tagNum ((bytes.drop offset).take length) offset = some length) :
    Fills tagNum bytes offset length := fun _ hn => Option.some.inj (hn.symm.trans h)

theorem caseBeginSession_laidOut_generator :
    RequestLaidOut plainCaseEnv generatorRequest (.start [] none []) ∧
      ResponseLaidOut plainCaseEnv generatorResponse (.start [] none []) := by
  have hreq : RequestFits plainCaseEnv generatorRequest :=
    ⟨by decide, by decide, fun _ => .of_eq (by decide +kernel), fun _ => .of_eq (by decide +kernel)⟩
  have hresp : ResponseFits plainCaseEnv generatorResponse :=
    ⟨by decide, fun _ => .of_eq (by decide +kernel), fun _ => .of_eq (by decide +kernel)⟩
  have hrequest := caseBeginSession_laidOut_iff plainCaseEnv generatorRequest
    (by decide +kernel) [] none []
  have hresponse := caseBeginSession_laidOut_iff plainCaseEnv generatorResponse
    (by decide +kernel) [] none []
  exact ⟨(hrequest.1 (by decide +kernel)).2 hreq, (hresponse.2 (by decide +kernel)).2 hresp⟩

/-- A request of 20 bytes that claims 65535 bytes of certificate information and 2 of payload. -/
def wrappedRequest : List UInt8 :=
  [0, 0, 0, 0, 0xFF, 0xFF, 2, 0, 0, 0, 0, 0, 0, 0, 0, 0, 0, 0, 0, 0]

/-- It passes the check, since the sum wraps. -/
theorem wrappedRequest_not_laidOut :
    RequestPasses wrappedRequest ∧
      ¬ RequestLaidOut plainCaseEnv wrappedRequest (.start [] none []) := by
  have hpasses : RequestPasses wrappedRequest := by decide
  refine ⟨hpasses, fun h => ?_⟩
  have hfits := (requestLaidOut_iff (by decide) hpasses rfl rfl).1 h
  exact absurd hfits.no_wrap (by decide)

end Matter.Security
