import MatterDissector.IM.Value
import MatterDissector.TLV.Proof.Elsewhere

/-!
# Byte strings that crash their decoder

`crashes env fieldName value`: the decoder for the bytes of a field crashes on `value`, on a
dissector that holds nothing else. Where the field stands does not matter: every decoder runs a
dissector of its own, and from the one it is called on it only takes the range of what it shows
(`addDecodedBytes_fault_iff`).
-/

namespace Matter.IM

open Prog TLV Display TLV.Dissect

section
variable {α β : Type} {T : TLVDissector → TLVDissector → Prop}

/-! ## Loops over members -/

theorem alike_overMembers {body body' : β → DissectM β} (h : ∀ b, AlikeHere (body b) (body' b))
    (b : β) : AlikeHere (overMembers body b) (overMembers body' b) :=
  alike_enterContainer.seq fun _ => (alike_forMembers h b).seq fun _ =>
    alike_exitContainer.seq fun _ => .pure rfl

theorem alike_scanRound {body body' : β → DissectM β} (h : ∀ b, AlikeHere (body b) (body' b))
    (b : β) : AlikeHere (scanRound body b) (scanRound body' b) := by
  refine (alike_next.seq fun _ => h b).attempt.seq fun res => ?_
  cases res with
  | ok b => exact .pure rfl
  | error e => exact .pure rfl

theorem alike_scanMembers {body body' : β → DissectM β} (h : ∀ b, AlikeHere (body b) (body' b))
    (b : β) : AlikeHere (scanMembers body b) (scanMembers body' b) := by
  refine Alike.whileLoop (fun _ s s' hs => ?_) (alike_scanRound h) b
  exact congrArg TLVReader.unread (SameBytes.reader_eq hs)

theorem alike_scanArray {body body' : α → DissectM α} (h : ∀ a, AlikeHere (body a) (body' a))
    (a : α) : AlikeHere (scanArray body a) (scanArray body' a) := by
  refine alike_enterContainer.attempt.seq fun res => ?_
  cases res with
  | error e => exact .pure rfl
  | ok u =>
    refine (alike_scanMembers h a).seq fun found => ?_
    exact alike_exitContainer.attempt.seq fun _ => .pure rfl

theorem alike_decodeOr {decode decode' fallback fallback' : DissectM α}
    (hdecode : AlikeHere decode decode') (hfallback : AlikeHere fallback fallback') :
    AlikeHere (decodeOr decode fallback) (decodeOr decode' fallback') := by
  refine alike_getType.seq fun type => hdecode.attempt.seq fun res => ?_
  cases res with
  | ok a => exact .pure rfl
  | error e =>
    refine Alike.seq (.modify fun _ _ h => ?_) fun _ => hfallback
    exact h

/-! ## Fields -/

section
variable (tree tree' : ProtoNode)

theorem alike_addField (text : Text) :
    Alike (OfTlv T) Eq (addField tree text) (addField tree' text) := alike_addStringItemF _ _ _ _

theorem alike_addDataTree (hT : OnElements T) (text : Text) :
    Alike (OfTlv T) AnyNodes (addDataTree tree text) (addDataTree tree' text) :=
  alike_addSubTreeItemF _ _ _ hT _ _

theorem alike_addFieldIf (label : String) (text : Option Text) :
    Alike (OfTlv T) Eq (addFieldIf tree label text) (addFieldIf tree' label text) := by
  cases text with
  | some text => exact alike_addField _ _ _
  | none => exact .pure rfl

theorem alike_addPublicKey (pubKey : Option PublicKey) :
    Alike (OfTlv T) Eq (addPublicKey tree pubKey) (addPublicKey tree' pubKey) := by
  cases pubKey with
  | some pubKey => exact (alike_addFieldIf _ _ _ _).seq fun _ => alike_addField _ _ _
  | none => exact .pure rfl

theorem alike_addCmsSigner (signer : Option CmsSigner) :
    Alike (OfTlv T) Eq (addCmsSigner tree signer) (addCmsSigner tree' signer) := by
  cases signer with
  | some si => exact (alike_addFieldIf _ _ _ _).seq fun _ => alike_addFieldIf _ _ _ _
  | none => exact .pure rfl

theorem alike_addNumberOr (fieldName : Text) (lookupName : Nat → Option Text)
    {other other' : DissectM Unit} (h : AlikeHere other other') :
    AlikeHere (addNumberOr tree fieldName lookupName other)
      (addNumberOr tree' fieldName lookupName other') := by
  refine alike_getType.seq fun type => ?_
  cases type with
  | unsignedInteger => exact (alike_onReader _).seq fun _ => alike_addField _ _ _
  | signedInteger => exact (alike_onReader _).seq fun _ => alike_addField _ _ _
  | _ => exact h

end

theorem alike_unsignedValue : AlikeHere unsignedValue unsignedValue := by
  refine alike_getType.seq fun type => .ite ?_ (.pure rfl)
  refine (alike_onReader _).attempt.seq fun res => ?_
  cases res with
  | ok value => exact .pure rfl
  | error e => exact .pure rfl

theorem alike_dataBytesIf : AlikeHere dataBytesIf dataBytesIf := by
  refine alike_dataBytes.attempt.seq fun res => ?_
  cases res with
  | ok bytes => exact .pure rfl
  | error e => exact .pure rfl

theorem alike_startInner : AlikeHere startInner startInner := by
  refine (alike_nextExpecting _ _).attempt.seq fun res => ?_
  cases res with
  | ok u => exact .pure rfl
  | error e => exact .throw _

/-- What runs on dissectors of its own. -/
theorem alike_decodeIn {T' : TLVDissector → TLVDissector → Prop} {R : α → β → Prop}
    {other other' : TLVDissector} {x : DissectM α} {y : DissectM β} (hother : T' other other')
    (h : Alike (OfTlv T') R x y) : Alike (OfTlv T) R (decodeIn other x) (decodeIn other' y) :=
  h.zoom (fun _ _ _ => hother) fun _ _ _ _ hs _ => hs

/-! ## Decoders -/

section
variable (env : Env)

theorem alike_addUnknown (tree tree' : ProtoNode) :
    AlikeHere (addUnknown env tree) (addUnknown env tree') := alike_addGenericTLVItem _ _ _ _ _

theorem alike_addDecodedX509Certificate (hT : OnElements T) (tree tree' : ProtoNode)
    (fieldName : Text) (value : List UInt8) :
    Alike (OfTlv T) Eq (addDecodedX509Certificate env tree fieldName value)
      (addDecodedX509Certificate env tree' fieldName value) := by
  unfold addDecodedX509Certificate
  split
  · exact .throw _
  · refine (alike_addDataTree _ _ hT _).bind fun certTree certTree' _ => ?_
    have hfield : ∀ label text, Alike (OfTlv T) Eq (addFieldIf certTree label text)
        (addFieldIf certTree' label text) := alike_addFieldIf certTree certTree'
    refine (hfield _ _).seq fun _ => (hfield _ _).seq fun _ => (hfield _ _).seq fun _ => ?_
    refine (hfield _ _).seq fun _ => (hfield _ _).seq fun _ => (hfield _ _).seq fun _ => ?_
    exact alike_addPublicKey _ _ _

theorem alike_addDecodedX509CSR (hT : OnElements T) (tree tree' : ProtoNode) (fieldName : Text)
    (value : List UInt8) :
    Alike (OfTlv T) Eq (addDecodedX509CSR env tree fieldName value)
      (addDecodedX509CSR env tree' fieldName value) := by
  unfold addDecodedX509CSR
  split
  · exact .throw _
  · refine (alike_addDataTree _ _ hT _).bind fun csrTree csrTree' _ => ?_
    refine (alike_addFieldIf csrTree csrTree' _ _).seq fun _ => ?_
    exact (alike_addPublicKey _ _ _).seq fun _ => alike_addFieldIf _ _ _ _

variable {named : ProtoNode → Text → DissectM Unit}
  (hnamed : ∀ tree tree' fieldName, AlikeHere (named tree fieldName) (named tree' fieldName))

section
variable (tree tree' : ProtoNode)

include hnamed

/-! ### Matter certificates -/

theorem alike_dnMember : AlikeHere (dnMember env named tree) (dnMember env named tree') :=
  alike_getTag.seq fun _ => .ite
    (alike_decodeOr (hnamed _ _ _) (alike_addUnknown env _ _)) (alike_addUnknown env _ _)

theorem alike_addDecodedMatterCertificateDN (label : Text) :
    AlikeHere (addDecodedMatterCertificateDN env named tree label)
      (addDecodedMatterCertificateDN env named tree' label) := by
  refine alike_getType.seq fun type => (Alike.verify _ _).seq fun _ => ?_
  refine (alike_addDataTree _ _ SameBytes.onElements _).bind fun dnTree dnTree' _ => ?_
  exact alike_overMembers (fun _ => alike_dnMember env hnamed _ _) ()

theorem alike_ecdsaMember :
    AlikeHere (ecdsaMember env named tree) (ecdsaMember env named tree') := by
  refine alike_getTag.seq fun tag => ?_
  split
  · exact alike_decodeOr (hnamed _ _ _) (alike_addUnknown env _ _)
  · exact alike_addUnknown env _ _

theorem alike_addDecodedMatterECDSASignature :
    AlikeHere (addDecodedMatterECDSASignature env named tree)
      (addDecodedMatterECDSASignature env named tree') := by
  refine alike_getType.seq fun type => (Alike.verify _ _).seq fun _ => ?_
  refine (alike_addDataTree _ _ SameBytes.onElements _).bind fun sigTree sigTree' _ => ?_
  exact alike_overMembers (fun _ => alike_ecdsaMember env hnamed _ _) ()

theorem alike_basicConstraintsMember :
    AlikeHere (basicConstraintsMember env named tree) (basicConstraintsMember env named tree') := by
  refine alike_getTag.seq fun tag => .ite ?_ (alike_addUnknown env _ _)
  split
  · exact hnamed _ _ _
  · exact hnamed _ _ _
  · exact alike_addUnknown env _ _

theorem alike_addBasicConstraints :
    AlikeHere (addBasicConstraints env named tree) (addBasicConstraints env named tree') := by
  refine alike_getType.seq fun type => .ite ?_ (hnamed _ _ _)
  refine (alike_addDataTree _ _ SameBytes.onElements _).bind fun bcTree bcTree' _ => ?_
  exact alike_overMembers (fun _ => alike_basicConstraintsMember env hnamed _ _) ()

theorem alike_addExtendedKeyUsage :
    AlikeHere (addExtendedKeyUsage env named tree) (addExtendedKeyUsage env named tree') := by
  refine alike_getType.seq fun type => .ite ?_ (hnamed _ _ _)
  refine (alike_addDataTree _ _ SameBytes.onElements _).bind fun ekuTree ekuTree' _ => ?_
  exact alike_overMembers
    (fun _ => alike_addNumberOr _ _ _ _ (alike_addUnknown env ekuTree ekuTree')) ()

theorem alike_extensionsMember :
    AlikeHere (extensionsMember env named tree) (extensionsMember env named tree') := by
  refine alike_getTag.seq fun tag => .ite ?_ (alike_addUnknown env _ _)
  split
  · exact alike_addBasicConstraints env hnamed _ _
  · exact alike_addNumberOr _ _ _ _ (hnamed _ _ _)
  · exact alike_addExtendedKeyUsage env hnamed _ _
  · exact hnamed _ _ _
  · exact hnamed _ _ _
  · exact alike_addUnknown env _ _

theorem alike_addDecodedMatterCertificateExtensions :
    AlikeHere (addDecodedMatterCertificateExtensions env named tree)
      (addDecodedMatterCertificateExtensions env named tree') := by
  refine alike_getType.seq fun type => (Alike.verify _ _).seq fun _ => ?_
  refine (alike_addDataTree _ _ SameBytes.onElements _).bind fun extTree extTree' _ => ?_
  exact alike_overMembers (fun _ => alike_extensionsMember env hnamed _ _) ()

theorem alike_certificateMember :
    AlikeHere (certificateMember env named tree) (certificateMember env named tree') := by
  refine alike_getTag.seq fun tag => alike_getType.seq fun type => ?_
  refine .ite ?_ (alike_addUnknown env _ _)
  split
  · exact hnamed _ _ _
  · exact alike_addNumberOr _ _ _ _ (hnamed _ _ _)
  · exact alike_addDecodedMatterCertificateDN env hnamed _ _ _
  · exact hnamed _ _ _
  · exact hnamed _ _ _
  · exact alike_addDecodedMatterCertificateDN env hnamed _ _ _
  · exact alike_addNumberOr _ _ _ _ (hnamed _ _ _)
  · exact alike_addNumberOr _ _ _ _ (hnamed _ _ _)
  · exact hnamed _ _ _
  · exact alike_addDecodedMatterCertificateExtensions env hnamed _ _
  · exact .ite (alike_addDecodedMatterECDSASignature env hnamed _ _) (hnamed _ _ _)
  · exact alike_addUnknown env _ _

omit hnamed in
theorem sameBytes_certDissector (value : List UInt8) (offset offset' : Nat) :
    SameBytes (certDissector value offset) (certDissector value offset') := rfl

omit hnamed in
theorem alike_startCertificate (value : List UInt8) (offset offset' : Nat) :
    AlikeHere (startCertificate value offset) (startCertificate value offset') := by
  refine (alike_nextExpecting _ _).attempt.seq fun res => ?_
  cases res with
  | ok u => exact .pure rfl
  | error e =>
    refine Alike.seq (.modify fun _ _ _ => ?_) fun _ => alike_nextExpecting _ _
    exact sameBytes_certDissector value offset offset'

theorem alike_addDecodedMatterCertificate (fieldName : Text) (value : List UInt8)
    (offset offset' : Nat) :
    Alike (OfTlv T) Eq (addDecodedMatterCertificate env named fieldName value offset tree)
      (addDecodedMatterCertificate env named fieldName value offset' tree') := by
  refine alike_decodeIn (sameBytes_certDissector value offset offset') ?_
  refine (alike_startCertificate value offset offset').seq fun _ => ?_
  refine (alike_addDataTree _ _ SameBytes.onElements _).bind fun certTree certTree' _ => ?_
  exact alike_overMembers (fun _ => alike_certificateMember env hnamed _ _) ()

/-! ### Attestation -/

theorem alike_attestationMember :
    AlikeHere (attestationMember env named tree) (attestationMember env named tree') := by
  refine alike_getTag.seq fun tag => alike_getType.seq fun type => ?_
  refine alike_getLength.seq fun length => ?_
  refine .ite ?_ (.ite (alike_addField _ _ _) (alike_addUnknown env _ _))
  split
  · exact hnamed _ _ _
  · exact alike_addUnknown env _ _

variable {parent parent' : TLVDissector}

theorem alike_addDecodedAttestationElements (hT : OnElements T) (value : List UInt8)
    (offset offset' : Nat) :
    Alike (OfTlv T) Eq (addDecodedAttestationElements env named value offset tree)
      (addDecodedAttestationElements env named value offset' tree') := by
  have htlv : Alike (OfTlv T) T (gets (·.tlv) : DissectM TLVDissector) (gets (·.tlv)) :=
    .gets fun _ _ h => h
  refine htlv.bind fun parent parent' hparent => ?_
  refine alike_decodeIn (SameBytes.init value value.length offset offset') ?_
  refine alike_startInner.seq fun _ => ?_
  refine (alike_decodeIn hparent (alike_addDataTree _ _ hT _)).bind fun elems elems' _ => ?_
  exact alike_overMembers (fun _ => alike_attestationMember env hnamed _ _) ()

omit hnamed in
theorem alike_addCSR (hT : OnElements T) (hparent : T parent parent') :
    AlikeHere (addCSR env parent tree) (addCSR env parent' tree') := by
  refine alike_getType.seq fun type => alike_getLength.seq fun length => ?_
  have helemLen : AlikeHere (gets (·.tlv.elemLen)) (gets (·.tlv.elemLen)) :=
    .gets fun _ _ h => SameBytes.elemLen_eq h
  refine helemLen.seq fun elemLen => .ite ?_ (.pure rfl)
  refine alike_dataBytes.seq fun csrValue => ?_
  refine (alike_decodeIn hparent (alike_addDecodedX509CSR env hT _ _ _ _)).attempt.seq fun _ => ?_
  exact .pure rfl

theorem alike_nocsrMember (hT : OnElements T) (hparent : T parent parent') :
    AlikeHere (nocsrMember env named parent tree) (nocsrMember env named parent' tree') := by
  refine alike_getTag.seq fun tag => .ite (.ite ?_ ?_) (alike_addUnknown env _ _)
  · exact (hnamed _ _ _).seq fun _ => alike_addCSR env _ _ hT hparent
  · split
    · exact hnamed _ _ _
    · exact alike_addUnknown env _ _

theorem alike_addDecodedNOCSRElements (hT : OnElements T) (value : List UInt8)
    (offset offset' : Nat) :
    Alike (OfTlv T) Eq (addDecodedNOCSRElements env named value offset tree)
      (addDecodedNOCSRElements env named value offset' tree') := by
  have htlv : Alike (OfTlv T) T (gets (·.tlv) : DissectM TLVDissector) (gets (·.tlv)) :=
    .gets fun _ _ h => h
  refine htlv.bind fun parent parent' hparent => ?_
  refine alike_decodeIn (SameBytes.init value value.length offset offset') ?_
  refine alike_startInner.seq fun _ => ?_
  refine (alike_decodeIn hparent (alike_addDataTree _ _ hT _)).bind fun elems elems' _ => ?_
  exact alike_overMembers (fun _ => alike_nocsrMember env hnamed _ _ hT hparent) ()

/-! ### Certification declarations -/

theorem alike_addProductIds (hparent : T parent parent') :
    AlikeHere (addProductIds named parent tree) (addProductIds named parent' tree') := by
  refine alike_getType.seq fun type => .ite ?_ (hnamed _ _ _)
  refine (alike_scanArray (fun products => ?_) _).seq fun res => ?_
  · refine alike_unsignedValue.seq fun found => ?_
    cases found with
    | some productId => exact .pure rfl
    | none => exact .pure rfl
  · exact alike_decodeIn hparent (alike_addField _ _ _)

theorem alike_addCertificationType (hparent : T parent parent') :
    AlikeHere (addCertificationType named parent tree)
      (addCertificationType named parent' tree') := by
  refine alike_unsignedValue.seq fun found => ?_
  cases found with
  | some v => exact alike_decodeIn hparent (alike_addField _ _ _)
  | none => exact hnamed _ _ _

omit hnamed in
theorem alike_paaMember (hparent : T parent parent') (index : Nat) :
    AlikeHere (paaMember parent tree index) (paaMember parent' tree' index) := by
  refine alike_getType.seq fun type => .ite ?_ (.pure rfl)
  refine alike_dataBytesIf.seq fun found => ?_
  cases found with
  | some item => exact (alike_decodeIn hparent (alike_addField _ _ _)).seq fun _ => .pure rfl
  | none => exact .pure rfl

theorem alike_addAuthorizedPAAList (hT : OnElements T) (hparent : T parent parent') :
    AlikeHere (addAuthorizedPAAList named parent tree)
      (addAuthorizedPAAList named parent' tree') := by
  refine alike_getType.seq fun type => .ite ?_ (hnamed _ _ _)
  refine (alike_decodeIn hparent (alike_addDataTree _ _ hT _)).bind fun paaTree paaTree' _ => ?_
  refine (alike_scanArray (alike_paaMember _ _ hparent) _).seq fun res => ?_
  cases res with
  | ok _ => exact .pure rfl
  | error e => exact alike_decodeIn hparent (alike_addField _ _ _)

theorem alike_declarationMember (hT : OnElements T) (hparent : T parent parent') :
    AlikeHere (declarationMember named parent tree) (declarationMember named parent' tree') := by
  refine alike_getTag.seq fun tag => .ite ?_ (.pure rfl)
  split
  · exact alike_addProductIds hnamed _ _ hparent
  · exact alike_addCertificationType hnamed _ _ hparent
  · exact alike_addAuthorizedPAAList hnamed _ _ hT hparent
  · split
    · exact hnamed _ _ _
    · exact alike_decodeIn hparent (alike_addField _ _ _)

theorem alike_addDecodedCertificationDeclarationTLV (hT : OnElements T) (content : List UInt8) :
    Alike (OfTlv T) Eq (addDecodedCertificationDeclarationTLV named content tree)
      (addDecodedCertificationDeclarationTLV named content tree') := by
  have htlv : Alike (OfTlv T) T (gets (·.tlv) : DissectM TLVDissector) (gets (·.tlv)) :=
    .gets fun _ _ h => h
  refine htlv.bind fun parent parent' hparent => ?_
  refine alike_decodeIn (SameBytes.init content content.length 0 0) ?_
  refine alike_startInner.seq fun _ => ?_
  refine (alike_decodeIn hparent (alike_addDataTree _ _ hT _)).bind fun cdTree cdTree' _ => ?_
  exact alike_overMembers (fun _ => alike_declarationMember hnamed _ _ hT hparent) ()

theorem alike_addCmsContent (hT : OnElements T) (content : List UInt8) :
    Alike (OfTlv T) Eq (addCmsContent named tree content) (addCmsContent named tree' content) := by
  refine .ite (.pure rfl) ?_
  refine (alike_addField _ _ _).seq fun _ => ?_
  exact (alike_addDecodedCertificationDeclarationTLV hnamed _ _ hT _).attempt.seq fun _ => .pure rfl

theorem alike_addDecodedCertificationDeclarationCMS (hT : OnElements T) (value : List UInt8) :
    Alike (OfTlv T) Eq (addDecodedCertificationDeclarationCMS env named value tree)
      (addDecodedCertificationDeclarationCMS env named value tree') := by
  unfold addDecodedCertificationDeclarationCMS
  split
  · exact .throw _
  · refine (alike_addDataTree _ _ hT _).bind fun cmsTree cmsTree' _ => ?_
    refine (alike_addFieldIf _ _ _ _).seq fun _ => (alike_addField _ _ _).seq fun _ => ?_
    refine (alike_addCmsSigner _ _ _).seq fun _ => (alike_addField _ _ _).seq fun _ => ?_
    exact alike_addCmsContent hnamed _ _ hT _

/-! ### Byte strings and named values -/

theorem alike_addCertificate (hT : OnElements T) (fieldName : Text) (value : List UInt8)
    (offset offset' : Nat) :
    Alike (OfTlv T) Eq (addCertificate env named tree fieldName value offset)
      (addCertificate env named tree' fieldName value offset') := by
  refine (alike_addDecodedX509Certificate env hT _ _ _ _).attempt.seq fun res => ?_
  cases res with
  | ok u => exact .pure rfl
  | error e =>
    refine (alike_addDecodedMatterCertificate env hnamed _ _ _ _ _ _).attempt.seq fun _ => ?_
    exact .pure rfl

theorem alike_addDecodedBytes (hT : OnElements T) (fieldName : Text) (value : List UInt8)
    (elemStart elemStart' : Nat) {elemLen elemLen' : Nat}
    (hlen : elemLen < value.length ↔ elemLen' < value.length) :
    Alike (OfTlv T) Eq (addDecodedBytes env named tree fieldName value elemStart elemLen)
      (addDecodedBytes env named tree' fieldName value elemStart' elemLen') := by
  have hdrop : ∀ {x y : DissectM Unit}, Alike (OfTlv T) Eq x y →
      Alike (OfTlv T) Eq (do let _ ← attempt x; pure ()) (do let _ ← attempt y; pure ()) :=
    fun h => h.attempt.seq fun _ => .pure rfl
  unfold addDecodedBytes
  dsimp only
  simp only [hlen]
  refine .ite (.pure rfl) (.ite ?_ (.ite (.pure rfl) (.ite ?_ (.ite ?_ (.ite ?_ (.pure rfl))))))
  · exact hdrop (alike_addDecodedCertificationDeclarationCMS env hnamed _ _ hT _)
  · exact alike_addCertificate env hnamed _ _ hT _ _ _ _
  · exact hdrop (alike_addDecodedAttestationElements env hnamed _ _ hT _ _ _)
  · exact hdrop (alike_addDecodedNOCSRElements env hnamed _ _ hT _ _ _)

theorem alike_addNamedCommandValueBy (fieldName : Text) :
    AlikeHere (addNamedCommandValueBy env named tree fieldName)
      (addNamedCommandValueBy env named tree' fieldName) := by
  have hread : ∀ {δ : Type} (x : ReaderM δ) (text : δ → Text),
      AlikeHere (do addField tree (text (← onReader x)))
        (do addField tree' (text (← onReader x))) :=
    fun x text => (alike_onReader x).seq fun _ => alike_addField _ _ _
  have hcontainer : AlikeHere (do
      addField tree (fieldName ++ Text.lit "=" ++ [])
      addGenericTLVItem env.host tree .imCommonUnknown true) (do
      addField tree' (fieldName ++ Text.lit "=" ++ [])
      addGenericTLVItem env.host tree' .imCommonUnknown true) :=
    (alike_addField _ _ _).seq fun _ => alike_addGenericTLVItem _ _ _ _ _
  refine alike_getType.seq fun type => ?_
  cases type with
  | signedInteger => exact hread _ _
  | unsignedInteger => exact hread _ _
  | boolean => exact hread _ _
  | floatingPointNumber => exact hread _ _
  | utf8String => exact hread _ _
  | byteString =>
    refine alike_getLength.seq fun valueLen => alike_dataBytes.seq fun value => ?_
    refine (alike_addField _ _ _).seq fun _ => ?_
    have htlv : Alike (OfTlv SameBytes) SameBytes (gets (·.tlv) : DissectM TLVDissector)
        (gets (·.tlv)) := .gets fun _ _ h => h
    refine htlv.bind fun d d' hd => ?_
    refine alike_addDecodedBytes env hnamed _ _ SameBytes.onElements _ _ _ _ ?_
    rw [hd.elemLen_eq]
  | null => exact alike_addField _ _ _
  | struct | array | path => exact hcontainer
  | _ => exact .throw _

end

end

theorem alike_addNamedCommandValueTo (env : Env) : ∀ (levels : Nat) (tree tree' : ProtoNode)
    (fieldName : Text), AlikeHere (addNamedCommandValueTo env levels tree fieldName)
      (addNamedCommandValueTo env levels tree' fieldName)
  | 0, _, _, _ => .stop _
  | levels + 1, tree, tree', fieldName =>
    alike_addNamedCommandValueBy env (alike_addNamedCommandValueTo env levels) tree tree' fieldName

/-! ## Crashes -/

/-- A dissector on a byte string with these bytes. -/
def onBytes (value : List UInt8) : TLVDissector :=
  let d := TLVDissector.init value value.length 0
  { d with
    reader := { d.reader with controlByte := ElementType.byteStringEightByteLength }
    elemLen := value.length }

/-- The decoder for the bytes of a field with this name crashes on `value`. -/
def crashes (env : Env) (fieldName : Text) (value : List UInt8) : Bool :=
  match (addDecodedBytes env (addNamedCommandValueTo env 3) .messageTree fieldName value 0
    value.length).run (.start (onBytes value)) with
  | .fault _ => true
  | _ => false

theorem crashes_iff {env : Env} {fieldName : Text} {value : List UInt8} :
    crashes env fieldName value = true ↔
      ∃ f, (addDecodedBytes env (addNamedCommandValueTo env 3) .messageTree fieldName value 0
        value.length).run (.start (onBytes value)) = .fault f := by
  unfold crashes
  split
  · rename_i f hrun
    exact iff_of_true rfl ⟨f, hrun⟩
  · rename_i hrun
    exact iff_of_false (by decide) fun ⟨f, hf⟩ => hrun f hf

/-- Both dissectors are on an element. -/
def BothOnElements (d d' : TLVDissector) : Prop :=
  d.reader.getType ≠ .notSpecified ∧ d'.reader.getType ≠ .notSpecified

/-- The bytes crash their decoder wherever their field stands. -/
theorem addDecodedBytes_fault_iff (env : Env) (tree : ProtoNode) (fieldName : Text)
    (value : List UInt8) (elemStart : Nat) {elemLen : Nat} {s : DissectState}
    (htype : s.tlv.reader.getType ≠ .notSpecified) (hlen : value.length ≤ elemLen) :
    (∃ f, (addDecodedBytes env (addNamedCommandValueTo env 3) tree fieldName value elemStart
      elemLen).run s = .fault f) ↔ crashes env fieldName value = true := by
  have hT : OnElements BothOnElements := fun _ _ h => iff_of_false h.1 h.2
  have halike : Alike (OfTlv BothOnElements) Eq
      (addDecodedBytes env (addNamedCommandValueTo env 3) tree fieldName value elemStart elemLen)
      (addDecodedBytes env (addNamedCommandValueTo env 3) .messageTree fieldName value 0
        value.length) :=
    alike_addDecodedBytes env (alike_addNamedCommandValueTo env 3) _ _ hT _ _ _ _
      (iff_of_false (Nat.not_lt.2 hlen) (lt_irrefl _))
  have honBytes : (onBytes value).reader.getType = .byteString := by
    have hcontrol :
        (onBytes value).reader.controlByte = ElementType.byteStringEightByteLength := rfl
    unfold TLVReader.getType TLVReader.elementType
    rw [hcontrol]
    decide
  rw [crashes_iff]
  refine (halike s (.start (onBytes value)) ⟨htype, fun hnone => ?_⟩).fault_iff
  cases honBytes.symm.trans hnone

end

end Matter.IM
