import MatterDissector.IM.Proof.Handles
import MatterDissector.TLV.Proof.Descent

/-!
# The dissection comes to an end

`Terminates data n`: from at most `n` unread bytes of `data` a program comes to an end without going
back, whatever errors it ignores on the way. The only fault it may have is the null dereference of
`AddGenericTLVItem`. A loop over members needs this of its body for fewer bytes
(`moves_overMembers`), and so does a block that calls itself on a member.

A decoder inside a byte string begins again on the bytes of the string. What goes down there is
`levelsOf`, which the name of a field bounds: the fields that a decoder shows have fewer levels than
the one that it was called for.
-/

namespace Matter.IM

open Prog TLV Display TLV.Dissect
open TLVReader (InBounds)

section
variable {α β : Type} {data : List UInt8} {n : Nat} {F : Fault → Prop}

/-- From at most `n` unread bytes, `x` comes to an end and does not go back. -/
abbrev Terminates (data : List UInt8) (n : Nat) (x : DissectM α) : Prop :=
  Moves (· = .nullDereference) data n x

/-! ## Programs that show something -/

/-- `x` has no fault on any dissector. -/
def NoFault (x : DissectM α) : Prop :=
  Triple (fun _ => True) x (fun _ _ => True) (fun _ _ => True)

theorem NoFault.pure (a : α) : NoFault (Pure.pure a : DissectM α) := Triple.pure fun _ h => h

theorem NoFault.throw (e : MatterError) : NoFault (Prog.throw e : DissectM α) :=
  Triple.throw fun _ h => h

theorem NoFault.bind {x : DissectM α} {k : α → DissectM β} (hx : NoFault x)
    (hk : ∀ a, NoFault (k a)) : NoFault (x >>= k) := Triple.bind hx hk

theorem NoFault.gets (f : DissectState → α) : NoFault (Prog.gets f) := Triple.gets fun _ h => h

theorem NoFault.modify (f : DissectState → DissectState) : NoFault (Prog.modify f) :=
  Triple.modify fun _ h => h

theorem NoFault.verify (b : Bool) (e : MatterError) : NoFault (Prog.verify b e) :=
  Triple.verify (fun _ _ _ => trivial) fun _ _ _ => trivial

theorem noFault_draw (call : Drawn) : NoFault (draw call) :=
  (NoFault.gets _).bind fun _ => (NoFault.modify _).bind fun _ => .pure _

theorem noFault_addShown (tree : ProtoNode) (hfindex : HeaderField) (shown : Shown) :
    NoFault (addShown tree hfindex shown) := (NoFault.gets _).bind fun _ => noFault_draw _

theorem noFault_addStringItemF (tree : ProtoNode) (hfindex : HeaderField) (text : Text) :
    NoFault (addStringItemF tree hfindex text) := (noFault_addShown _ _ _).bind fun _ => .pure _

theorem noFault_addSubTreeItem (tree : ProtoNode) (hfindex : HeaderField) (ett : Ett) :
    NoFault (addSubTreeItem tree hfindex ett) :=
  (NoFault.gets _).bind fun _ => (NoFault.verify _ _).bind fun _ =>
    (noFault_addShown _ _ _).bind fun _ => (noFault_draw _).bind fun _ => .pure _

theorem noFault_addSubTreeItemF (tree : ProtoNode) (hfindex : HeaderField) (ett : Ett)
    (text : Text) : NoFault (addSubTreeItemF tree hfindex ett text) :=
  (noFault_addSubTreeItem _ _ _).bind fun _ => (noFault_draw _).bind fun _ => .pure _

theorem noFault_addField (tree : ProtoNode) (text : Text) : NoFault (addField tree text) :=
  noFault_addStringItemF _ _ _

theorem noFault_addDataTree (tree : ProtoNode) (text : Text) : NoFault (addDataTree tree text) :=
  noFault_addSubTreeItemF _ _ _ _

theorem noFault_addFieldIf (tree : ProtoNode) (label : String) :
    ∀ text, NoFault (addFieldIf tree label text)
  | some _ => noFault_addField _ _
  | none => .pure _

theorem noFault_addPublicKey (tree : ProtoNode) : ∀ pubKey, NoFault (addPublicKey tree pubKey)
  | some _ => (noFault_addFieldIf _ _ _).bind fun _ => noFault_addField _ _
  | none => .pure _

section
variable (env : Env)

theorem noFault_addDecodedX509Certificate (tree : ProtoNode) (fieldName : Text)
    (value : List UInt8) : NoFault (addDecodedX509Certificate env tree fieldName value) := by
  unfold addDecodedX509Certificate
  split
  · exact .throw _
  · refine (noFault_addDataTree _ _).bind fun certTree => ?_
    refine (noFault_addFieldIf _ _ _).bind fun _ => ?_
    refine (noFault_addFieldIf _ _ _).bind fun _ => ?_
    refine (noFault_addFieldIf _ _ _).bind fun _ => ?_
    refine (noFault_addFieldIf _ _ _).bind fun _ => ?_
    refine (noFault_addFieldIf _ _ _).bind fun _ => ?_
    exact (noFault_addFieldIf _ _ _).bind fun _ => noFault_addPublicKey _ _

theorem noFault_addDecodedX509CSR (tree : ProtoNode) (fieldName : Text) (value : List UInt8) :
    NoFault (addDecodedX509CSR env tree fieldName value) := by
  unfold addDecodedX509CSR
  split
  · exact .throw _
  · refine (noFault_addDataTree _ _).bind fun csrTree => ?_
    refine (noFault_addFieldIf _ _ _).bind fun _ => ?_
    exact (noFault_addPublicKey _ _).bind fun _ => noFault_addFieldIf _ _ _

end

/-- A program that stays on the element. -/
theorem moves_still {x : DissectM α} (hstill : Still x) (h : NoFault x) :
    Moves F data n x := by
  intro s hs
  have hrun := h s trivial
  cases hx : x.run s with
  | ok a s' =>
    dsimp only
    rw [(hstill.ok hx).1]
    exact hs
  | err e s' =>
    dsimp only
    rw [(hstill.err hx).1]
    exact hs
  | fault f => rw [hx] at hrun; exact hrun.elim

theorem moves_getType : Moves F data n getType := .gets _
theorem moves_getTag : Moves F data n getTag := .gets _
theorem moves_getLength : Moves F data n getLength := .gets _

theorem moves_addField (tree : ProtoNode) (text : Text) :
    Moves F data n (addField tree text) :=
  moves_still (still_addField _ _) (noFault_addField _ _)

theorem moves_addFieldIf (tree : ProtoNode) (label : String) (text : Option Text) :
    Moves F data n (addFieldIf tree label text) :=
  moves_still (still_addFieldIf _ _ _) (noFault_addFieldIf _ _ _)

theorem moves_addDataTree (tree : ProtoNode) (text : Text) :
    Moves F data n (addDataTree tree text) :=
  moves_still (still_addDataTree _ _) (noFault_addDataTree _ _)

theorem moves_addStringItemF (tree : ProtoNode) (hfindex : HeaderField) (text : Text) :
    Moves F data n (addStringItemF tree hfindex text) :=
  moves_still (still_addStringItemF _ _ _) (noFault_addStringItemF _ _ _)

theorem moves_addSubTreeItem (tree : ProtoNode) (hfindex : HeaderField) (ett : Ett) :
    Moves F data n (addSubTreeItem tree hfindex ett) :=
  moves_still (still_addSubTreeItem _ _ _) (noFault_addSubTreeItem _ _ _)

theorem moves_draw (call : Drawn) : Moves F data n (draw call) :=
  moves_still (still_draw _) (noFault_draw _)

/-! ## Reading -/

theorem moves_read {x : ReaderM α} (hkeep : TLVReader.Keeps data x) (hx : Leaves id x) :
    Moves F data n (onReader x) := (within_read hkeep hx).moves

theorem moves_getUInt64 : Moves F data n (onReader TLVReader.getUInt64) :=
  moves_read TLVReader.getUInt64_keeps leaves_getUInt64

theorem moves_getInt64 : Moves F data n (onReader TLVReader.getInt64) :=
  moves_read TLVReader.getInt64_keeps leaves_getInt64

theorem moves_dupString : Moves F data n (onReader TLVReader.dupString) :=
  (within_onReader (TLVReader.dupString_within n)).moves

/-- The bytes of a string are fewer than a `uint32_t` can count. -/
theorem dataBytes_ends (F : Fault → Prop) :
    Ends F (fun s => AtMost data n s.tlv) dataBytes
      (fun bytes s => AtMost data n s.tlv ∧ bytes.length < 2 ^ 32)
      (fun _ s => AtMost data n s.tlv) := by
  intro s hs
  rcases dataBytes_cases hs.1 with ⟨e, hrun⟩ | ⟨-, bytes, hrun, hlen⟩
  · rw [hrun]
    exact hs
  · rw [hrun]
    refine ⟨hs, hlen ▸ ?_⟩
    unfold TLVReader.getLength
    split
    · exact Nat.mod_lt _ (by decide)
    · decide

theorem moves_dataBytes : Moves F data n dataBytes :=
  (dataBytes_ends _).conseq (fun _ h => h) (fun _ h => h) (fun _ _ h => h.1) fun _ _ h => h

/-- `Next(expectedType, expectedTag)`. -/
theorem moves_nextExpecting (type : TLVType) (tag : Nat) :
    Moves F data n (onTlv (TLVDissector.nextExpecting type tag)) :=
  ((nextBy_progress n (TLVReader.nextExpecting_progress type tag)).ends _).conseq (fun _ h => h)
    (fun _ h => h) (fun _ _ h => h.atMost) fun _ _ h => h

theorem moves_unsignedValue : Moves F data n unsignedValue := by
  refine moves_getType.bind fun type => .ite ?_ (.pure _)
  refine moves_getUInt64.attempt.bind fun res => ?_
  cases res <;> exact .pure _

theorem moves_dataBytesIf : Moves F data n dataBytesIf := by
  refine moves_dataBytes.attempt.bind fun res => ?_
  cases res <;> exact .pure _

theorem moves_addTypedItem (tree : ProtoNode) (hfindex : HeaderField) :
    Moves F data n (addTypedItem tree hfindex) := by
  have hshow : ∀ shown, Moves F data n (do let _ ← addShown tree hfindex shown) := fun shown =>
    (moves_still (still_addShown _ _ _) (noFault_addShown _ _ _)).bind fun _ => .pure _
  refine moves_getType.bind fun type => ?_
  unfold addTypedValue
  split
  · refine moves_getInt64.bind fun _ => ?_
    exact .ite (hshow _) (.ite (hshow _) (.throw _))
  · refine moves_getUInt64.bind fun _ => ?_
    exact .ite (hshow _) (.ite (hshow _) (.throw _))
  · exact (moves_read TLVReader.getBool_keeps leaves_getBool).bind fun _ => hshow _
  · exact (moves_read TLVReader.getDouble_keeps leaves_getDouble).bind fun _ => hshow _
  · exact moves_dupString.bind fun _ => hshow _
  · exact moves_dataBytes.bind fun _ => hshow _
  · exact hshow _
  · exact .throw _

/-- The renderer has enough depth, and resets a buffer that may not be there. -/
theorem terminates_addGenericTLVItemAt (host : Host) (tree : ProtoNode) (hfindex : HeaderField)
    (suppressTag suppressHeader : Bool) (indentLevel : Nat) : Terminates data n
      (addGenericTLVItemAt host tree hfindex suppressTag suppressHeader indentLevel) := by
  intro s hs
  by_cases hsome : NothingAppended suppressTag suppressHeader indentLevel s.tlv.reader
  · rw [addGenericTLVItemAt_fault host tree hfindex hs.1 hsome]
  · have h := addGenericTLVItemAt_noFault host tree hfindex suppressTag suppressHeader indentLevel
      hs.1 hsome
    exact (h.ends _).conseq (fun _ h => h) (fun _ h => h)
      (fun _ _ h => ⟨h.1, Nat.le_trans h.2 hs.2⟩) (fun _ _ h => ⟨h.1, Nat.le_trans h.2 hs.2⟩) s rfl

theorem terminates_addGenericTLVItem (host : Host) (tree : ProtoNode) (hfindex : HeaderField)
    (suppressTag : Bool) : Terminates data n (addGenericTLVItem host tree hfindex suppressTag) :=
  terminates_addGenericTLVItemAt host tree hfindex suppressTag false 0

theorem terminates_addUnknown (env : Env) (tree : ProtoNode) :
    Terminates data n (addUnknown env tree) := terminates_addGenericTLVItem _ _ _ _

/-! ## Loops and fallbacks -/

theorem moves_enterContainer : Moves F data n enterContainer := enterContainer_within.moves
theorem moves_exitContainer : Moves F data n exitContainer := exitContainer_within.moves

theorem moves_overMembers {body : β → DissectM β}
    (hbody : ∀ b m, m < n → Moves F data m (body b)) (b : β) :
    Moves F data n (overMembers body b) :=
  moves_enterContainer.bind fun _ => (forMembers_moves hbody b).bind fun _ =>
    moves_exitContainer.bind fun _ => .pure _

/-- What a round of `scanMembers` leaves: less, unless it has failed. -/
def ScanPost (data : List UInt8) (m : Nat) (s : DissectState) : Except MatterError β → Prop
  | .ok _ => Below data m s.tlv
  | .error _ => AtMost data m s.tlv

/-- A loop that ends with any error: a round that goes on has read an element. -/
theorem terminates_scanMembers {body : β → DissectM β}
    (hbody : ∀ b m, m < n → Terminates data m (body b)) (b : β) :
    Terminates data n (scanMembers body b) := by
  refine whileUnread_moves (fun b m hm => ?_) b
  refine Ends.bind (Q := fun res s => ScanPost data m s res) (Ends.attempt (Ends.bind
    ((next_progress m).ends _) fun _ => moves_below fun k hk =>
      hbody b k (Nat.lt_of_lt_of_le hk hm))) fun res => ?_
  match res with
  | .ok b' => exact Ends.pure fun s hs => ⟨hs.atMost, hs.2⟩
  | .error e => exact Ends.pure fun s hs => hs

theorem terminates_scanArray {body : α → DissectM α}
    (hbody : ∀ a m, m < n → Terminates data m (body a)) (a : α) :
    Terminates data n (scanArray body a) := by
  refine moves_enterContainer.attempt.bind fun res => ?_
  cases res with
  | error e => exact .pure _
  | ok u =>
    exact (terminates_scanMembers hbody a).bind fun _ =>
      moves_exitContainer.attempt.bind fun _ => .pure _

theorem terminates_addListItem {elemHandler : ProtoNode → DissectM Unit}
    (h : ∀ node m, m < n → Terminates data m (elemHandler node)) (tree : ProtoNode)
    (hfindex : HeaderField) (ett : Ett) :
    Terminates data n (addListItem tree hfindex ett elemHandler) := by
  refine moves_getType.bind fun type => (Moves.verify _ _).bind fun _ => ?_
  refine (moves_addSubTreeItem _ _ _).bind fun listItem => ?_
  refine moves_enterContainer.bind fun _ => Moves.bind ?_ fun elemCount => ?_
  · exact forMembers_moves (fun _ m hm => (h listItem m hm).bind fun _ => .pure _) 0
  · exact moves_exitContainer.bind fun _ => (moves_draw _).bind fun _ => .pure _

theorem terminates_decodeOr {decode fallback : DissectM α} (hdecode : Terminates data n decode)
    (hfallback : Terminates data n fallback) : Terminates data n (decodeOr decode fallback) := by
  refine moves_getType.bind fun type => hdecode.attempt.bind fun res => ?_
  cases res with
  | ok a => exact .pure a
  | error e => exact Moves.bind (Ends.modify fun _ h => h) fun _ => hfallback

/-- Another dissector, which begins on bytes of its own. -/
theorem terminates_decodeIn {value : List UInt8} {other : TLVDissector} {x : DissectM α}
    (hother : InBounds value other.reader)
    (hx : Terminates value other.reader.unread x) : Terminates data n (decodeIn other x) := by
  refine Ends.zoom fun s hs => ?_
  have h : AtMost value other.reader.unread other := ⟨hother, Nat.le_refl _⟩
  exact (Ends.at hx h).conseq (fun _ h => h) (fun _ h => h) (fun _ _ _ => hs) fun _ _ _ => hs

/-- Another dissector that only shows something. -/
theorem terminates_showIn (other : TLVDissector) {x : DissectM α} (hx : NoFault x) :
    Terminates data n (decodeIn other x) := by
  refine Ends.zoom fun s hs => Ends.at (P := fun _ => True) ?_ trivial
  exact (Triple.ends hx _).conseq (fun _ h => h) (fun _ h => h) (fun _ _ _ => hs) fun _ _ _ => hs

theorem terminates_ignored {x : DissectM Unit} (h : Terminates data n x) :
    Terminates data n (do let _ ← attempt x; pure ()) := h.attempt.bind fun _ => .pure _

/-! ## Decoders inside byte strings -/

/-- How many decoders may run inside one another on the value of the field. -/
def levelsOf (fieldName : Text) : Nat :=
  if fieldName = Text.lit "AttestationElements" then 4
  else if fieldName = Text.lit "CertificationDeclaration" then 3
  else if isMatterCertificateLikeFieldName fieldName ∨ fieldName = Text.lit "NOCSRElements" then 2
  else 1

theorem levelsOf_le (fieldName : Text) : levelsOf fieldName ≤ 4 := by
  unfold levelsOf
  split
  · exact Nat.le_refl _
  split
  · decide
  split <;> decide

/-- The fields of a certificate, of the elements and of a declaration that are not decoded. -/
def plainFields : List String :=
  ["r", "s", "IsCA", "PathLenConstraint", "BasicConstraints", "KeyUsage", "ExtendedKeyUsage",
    "AuthorityKeyIdentifier", "SubjectKeyIdentifier", "SerialNumber", "SignatureAlgorithm",
    "NotBefore", "NotAfter", "PublicKeyAlgorithm", "EllipticCurveIdentifier", "PublicKey",
    "Signature", "AttestationNonce", "Timestamp", "FirmwareInfo", "CSR", "CSRNonce",
    "VendorReserved1", "VendorReserved2", "VendorReserved3", "FormatVersion", "VendorId",
    "ProductIds", "DeviceTypeId", "SecurityLevel", "SecurityInformation",
    "VersionNumber", "CertificationType", "DACOriginVendorId", "DACOriginProductId",
    "AuthorizedPAAList"]

theorem levelsOf_plain {label : String} (h : label ∈ plainFields) :
    levelsOf (Text.lit label) ≤ 1 := by
  have hall : ∀ label ∈ plainFields, levelsOf (Text.lit label) ≤ 1 := by decide +kernel
  exact hall label h

/-- The fields of several levels, the identifier of a certificate among them for its name. -/
theorem levelsOf_decoded :
    levelsOf (Text.lit "CertificationDeclaration") = 3 ∧ levelsOf (Text.lit "NOCSRElements") = 2 ∧
      levelsOf (Text.lit "CertificateId") = 2 := by decide +kernel

/-- No attribute of a distinguished name has a decoder. -/
theorem levelsOf_dnAttrName (attrTag : Nat) : levelsOf (dnAttrName attrTag) ≤ 1 := by
  have hall : ∀ attrTagBase < 128, levelsOf (dnAttrName attrTagBase) ≤ 1 := by decide +kernel
  have hbase : dnAttrName (attrTag &&& 0x7F) = dnAttrName attrTag := by
    have hmask : attrTag &&& 0x7F &&& 0x7F = attrTag &&& 0x7F := by
      rw [Nat.and_assoc, Nat.and_self]
    unfold dnAttrName
    rw [hmask]
  rw [← hbase]
  exact hall _ (Nat.lt_succ_of_le Nat.and_le_right)

/-- `named` comes to an end on fields of at most `levels` levels. -/
def NamedTo (named : ProtoNode → Text → DissectM Unit) (levels : Nat) : Prop :=
  ∀ {data n} tree fieldName, levelsOf fieldName ≤ levels →
    Terminates data n (named tree fieldName)

section
variable {env : Env} {named : ProtoNode → Text → DissectM Unit} {levels : Nat}

theorem NamedTo.mono {levels' : Nat} (h : NamedTo named levels) (hle : levels' ≤ levels) :
    NamedTo named levels' := fun tree fieldName hlevels => h tree fieldName (hlevels.trans hle)

theorem terminates_addNumberOr {other : DissectM Unit} (h : Terminates data n other)
    (tree : ProtoNode) (fieldName : Text) (lookupName : Nat → Option Text) :
    Terminates data n (addNumberOr tree fieldName lookupName other) := by
  refine moves_getType.bind fun type => ?_
  split
  · exact moves_getUInt64.bind fun _ => moves_addField _ _
  · exact moves_getInt64.bind fun _ => moves_addField _ _
  · exact h

/-! ### Matter certificates -/

section
variable (hnamed : NamedTo named 1)
include hnamed

theorem terminates_dnMember (dnTree : ProtoNode) :
    Terminates data n (dnMember env named dnTree) := by
  refine moves_getTag.bind fun tag => .ite ?_ (terminates_addUnknown env _)
  exact terminates_decodeOr (hnamed _ _ (levelsOf_dnAttrName _)) (terminates_addUnknown env _)

theorem terminates_addDecodedMatterCertificateDN (tree : ProtoNode) (label : Text) :
    Terminates data n (addDecodedMatterCertificateDN env named tree label) :=
  moves_getType.bind fun _ => (Moves.verify _ _).bind fun _ =>
    (moves_addDataTree _ _).bind fun dnTree =>
      moves_overMembers (fun _ _ _ => terminates_dnMember hnamed dnTree) ()

theorem terminates_ecdsaMember (sigTree : ProtoNode) :
    Terminates data n (ecdsaMember env named sigTree) := by
  have hname : ∀ tagNum fieldName, ecdsaFieldName tagNum = some fieldName →
      levelsOf fieldName ≤ 1 := by
    intro tagNum fieldName h
    unfold ecdsaFieldName at h
    split at h <;> cases h <;> exact levelsOf_plain (by decide)
  refine moves_getTag.bind fun tag => ?_
  split
  · rename_i fieldName heq
    split at heq
    · exact terminates_decodeOr (hnamed _ _ (hname _ _ heq)) (terminates_addUnknown env _)
    · cases heq
  · exact terminates_addUnknown env _

theorem terminates_addDecodedMatterECDSASignature (tree : ProtoNode) :
    Terminates data n (addDecodedMatterECDSASignature env named tree) :=
  moves_getType.bind fun _ => (Moves.verify _ _).bind fun _ =>
    (moves_addDataTree _ _).bind fun sigTree =>
      moves_overMembers (fun _ _ _ => terminates_ecdsaMember hnamed sigTree) ()

theorem terminates_basicConstraintsMember (bcTree : ProtoNode) :
    Terminates data n (basicConstraintsMember env named bcTree) := by
  refine moves_getTag.bind fun tag => .ite ?_ (terminates_addUnknown env _)
  split
  · exact hnamed _ _ (levelsOf_plain (by decide))
  · exact hnamed _ _ (levelsOf_plain (by decide))
  · exact terminates_addUnknown env _

theorem terminates_addBasicConstraints (extTree : ProtoNode) :
    Terminates data n (addBasicConstraints env named extTree) := by
  refine moves_getType.bind fun type => .ite ?_ (hnamed _ _ (levelsOf_plain (by decide)))
  exact (moves_addDataTree _ _).bind fun bcTree =>
    moves_overMembers (fun _ _ _ => terminates_basicConstraintsMember hnamed bcTree) ()

theorem terminates_addExtendedKeyUsage (extTree : ProtoNode) :
    Terminates data n (addExtendedKeyUsage env named extTree) := by
  refine moves_getType.bind fun type => .ite ?_ (hnamed _ _ (levelsOf_plain (by decide)))
  exact (moves_addDataTree _ _).bind fun ekuTree => moves_overMembers (fun _ _ _ =>
    terminates_addNumberOr (terminates_addUnknown env ekuTree) _ _ _) ()

theorem terminates_extensionsMember (extTree : ProtoNode) :
    Terminates data n (extensionsMember env named extTree) := by
  refine moves_getTag.bind fun tag => .ite ?_ (terminates_addUnknown env _)
  split
  · exact terminates_addBasicConstraints hnamed extTree
  · exact terminates_addNumberOr (hnamed _ _ (levelsOf_plain (by decide))) _ _ _
  · exact terminates_addExtendedKeyUsage hnamed extTree
  · exact hnamed _ _ (levelsOf_plain (by decide))
  · exact hnamed _ _ (levelsOf_plain (by decide))
  · exact terminates_addUnknown env _

theorem terminates_addDecodedMatterCertificateExtensions (tree : ProtoNode) :
    Terminates data n (addDecodedMatterCertificateExtensions env named tree) :=
  moves_getType.bind fun _ => (Moves.verify _ _).bind fun _ =>
    (moves_addDataTree _ _).bind fun extTree =>
      moves_overMembers (fun _ _ _ => terminates_extensionsMember hnamed extTree) ()

theorem terminates_certificateMember (certTree : ProtoNode) :
    Terminates data n (certificateMember env named certTree) := by
  refine moves_getTag.bind fun certTag => moves_getType.bind fun type =>
    .ite ?_ (terminates_addUnknown env _)
  split
  · exact hnamed _ _ (levelsOf_plain (by decide))
  · exact terminates_addNumberOr (hnamed _ _ (levelsOf_plain (by decide))) _ _ _
  · exact terminates_addDecodedMatterCertificateDN hnamed _ _
  · exact hnamed _ _ (levelsOf_plain (by decide))
  · exact hnamed _ _ (levelsOf_plain (by decide))
  · exact terminates_addDecodedMatterCertificateDN hnamed _ _
  · exact terminates_addNumberOr (hnamed _ _ (levelsOf_plain (by decide))) _ _ _
  · exact terminates_addNumberOr (hnamed _ _ (levelsOf_plain (by decide))) _ _ _
  · exact hnamed _ _ (levelsOf_plain (by decide))
  · exact terminates_addDecodedMatterCertificateExtensions hnamed _
  · exact .ite (terminates_addDecodedMatterECDSASignature hnamed _)
      (hnamed _ _ (levelsOf_plain (by decide)))
  · exact terminates_addUnknown env _

omit hnamed in
theorem certDissector_inBounds {value : List UInt8} (hlen : value.length < 2 ^ 32)
    (valueOffset : Nat) : InBounds value (certDissector value valueOffset).reader :=
  (InBounds.init hlen).congr rfl rfl rfl rfl rfl

omit hnamed in
theorem terminates_startCertificate {value : List UInt8} (hlen : value.length < 2 ^ 32)
    (valueOffset : Nat) :
    Terminates value value.length (startCertificate value valueOffset) := by
  refine (moves_nextExpecting _ _).attempt.bind fun res => ?_
  cases res with
  | ok u => exact .pure _
  | error e =>
    refine Moves.bind (Ends.modify fun s _ => ?_) fun _ => moves_nextExpecting _ _
    exact ⟨certDissector_inBounds hlen valueOffset, Nat.le_refl _⟩

theorem terminates_addDecodedMatterCertificate {value : List UInt8} (hlen : value.length < 2 ^ 32)
    (fieldName : Text) (valueOffset : Nat) (tree : ProtoNode) :
    Terminates data n
      (addDecodedMatterCertificate env named fieldName value valueOffset tree) := by
  refine terminates_decodeIn (certDissector_inBounds hlen valueOffset) ?_
  refine (terminates_startCertificate hlen valueOffset).bind fun _ => ?_
  exact (moves_addDataTree _ _).bind fun certTree =>
    moves_overMembers (fun _ _ _ => terminates_certificateMember hnamed certTree) ()

end

/-! ### Attestation -/

theorem terminates_startInner : Terminates data n startInner := by
  refine (moves_nextExpecting _ _).attempt.bind fun res => ?_
  cases res with
  | ok u => exact .pure _
  | error e => exact .throw _

/-- A decoder that begins with the structure in `value`, showing a tree of the message. -/
theorem terminates_inner {value : List UInt8} (hlen : value.length < 2 ^ 32) (base : Nat)
    (parent : TLVDissector) (tree : ProtoNode) (label : Text) {body : ProtoNode → DissectM Unit}
    (hbody : ∀ node m, Terminates value m (body node)) :
    Terminates data n (decodeIn (.init value value.length base) (do
      startInner
      let node ← decodeIn parent (addDataTree tree label)
      overMembers (fun () => body node) ())) := by
  have hinner : InBounds value (TLVDissector.init value value.length base).reader := .init hlen
  refine terminates_decodeIn hinner ?_
  refine terminates_startInner.bind fun _ => ?_
  exact (terminates_showIn parent (noFault_addDataTree _ _)).bind fun node =>
    moves_overMembers (fun _ m _ => hbody node m) ()

theorem terminates_attestationMember (hnamed : NamedTo named 3) (elementsTree : ProtoNode) :
    Terminates data n (attestationMember env named elementsTree) := by
  have hname : ∀ tagNum fieldName, attestationFieldName tagNum = some fieldName →
      levelsOf fieldName ≤ 3 := by
    intro tagNum fieldName h
    unfold attestationFieldName at h
    split at h <;> cases h
    · exact Nat.le_of_eq levelsOf_decoded.1
    all_goals exact (levelsOf_plain (by decide)).trans (by decide)
  refine moves_getTag.bind fun tag => moves_getType.bind fun type =>
    moves_getLength.bind fun length => .ite ?_ (.ite (moves_addField _ _)
      (terminates_addUnknown env _))
  split
  · exact hnamed _ _ (hname _ _ ‹_›)
  · exact terminates_addUnknown env _

theorem terminates_addDecodedAttestationElements (hnamed : NamedTo named 3) {value : List UInt8}
    (hlen : value.length < 2 ^ 32) (valueOffset : Nat) (tree : ProtoNode) :
    Terminates data n (addDecodedAttestationElements env named value valueOffset tree) :=
  Moves.bind (.gets _) fun parent => terminates_inner hlen valueOffset parent tree _
    fun node _ => terminates_attestationMember hnamed node

theorem terminates_addCSR (parent : TLVDissector) (elementsTree : ProtoNode) :
    Terminates data n (addCSR env parent elementsTree) := by
  refine moves_getType.bind fun type => moves_getLength.bind fun length =>
    Moves.bind (.gets _) fun elemLen => .ite ?_ (.pure _)
  exact moves_dataBytes.bind fun csrValue =>
    terminates_ignored (terminates_showIn parent (noFault_addDecodedX509CSR env _ _ _))

theorem terminates_nocsrMember (hnamed : NamedTo named 1) (parent : TLVDissector)
    (elementsTree : ProtoNode) :
    Terminates data n (nocsrMember env named parent elementsTree) := by
  have hname : ∀ tagNum fieldName, nocsrFieldName tagNum = some fieldName →
      levelsOf fieldName ≤ 1 := by
    intro tagNum fieldName h
    unfold nocsrFieldName at h
    split at h <;> cases h <;> exact levelsOf_plain (by decide)
  refine moves_getTag.bind fun tag => .ite (.ite ?_ ?_) (terminates_addUnknown env _)
  · exact (hnamed _ _ (levelsOf_plain (by decide))).bind fun _ => terminates_addCSR parent _
  · split
    · exact hnamed _ _ (hname _ _ ‹_›)
    · exact terminates_addUnknown env _

theorem terminates_addDecodedNOCSRElements (hnamed : NamedTo named 1) {value : List UInt8}
    (hlen : value.length < 2 ^ 32) (valueOffset : Nat) (tree : ProtoNode) :
    Terminates data n (addDecodedNOCSRElements env named value valueOffset tree) :=
  Moves.bind (.gets _) fun parent => terminates_inner hlen valueOffset parent tree _
    fun node _ => terminates_nocsrMember hnamed parent node

/-! ### Certification declarations -/

theorem terminates_productMember (products : Text) :
    Terminates data n (productMember products) := by
  refine moves_unsignedValue.bind fun value => ?_
  split
  · exact .pure _
  · exact .pure _

theorem terminates_addProductIds (hnamed : NamedTo named 1) (parent : TLVDissector)
    (cdTree : ProtoNode) : Terminates data n (addProductIds named parent cdTree) := by
  refine moves_getType.bind fun type => .ite ?_ (hnamed _ _ (levelsOf_plain (by decide)))
  exact (terminates_scanArray (fun products _ _ => terminates_productMember products) []).bind
    fun _ => terminates_showIn parent (noFault_addField _ _)

theorem terminates_addCertificationType (hnamed : NamedTo named 1) (parent : TLVDissector)
    (cdTree : ProtoNode) : Terminates data n (addCertificationType named parent cdTree) := by
  refine moves_unsignedValue.bind fun value => ?_
  split
  · exact terminates_showIn parent (noFault_addField _ _)
  · exact hnamed _ _ (levelsOf_plain (by decide))

theorem terminates_paaMember (parent : TLVDissector) (paaTree : ProtoNode) (index : Nat) :
    Terminates data n (paaMember parent paaTree index) := by
  refine moves_getType.bind fun type => .ite ?_ (.pure _)
  refine moves_dataBytesIf.bind fun item => ?_
  split
  · exact (terminates_showIn parent (noFault_addField _ _)).bind fun _ => .pure _
  · exact .pure _

theorem terminates_addAuthorizedPAAList (hnamed : NamedTo named 1) (parent : TLVDissector)
    (cdTree : ProtoNode) : Terminates data n (addAuthorizedPAAList named parent cdTree) := by
  refine moves_getType.bind fun type => .ite ?_ (hnamed _ _ (levelsOf_plain (by decide)))
  refine (terminates_showIn parent (noFault_addDataTree _ _)).bind fun paaTree => ?_
  refine (terminates_scanArray (fun index _ _ => terminates_paaMember parent paaTree index)
    0).bind fun res => ?_
  split
  · exact .pure _
  · exact terminates_showIn parent (noFault_addField _ _)

theorem terminates_declarationMember (hnamed : NamedTo named 2) (parent : TLVDissector)
    (cdTree : ProtoNode) : Terminates data n (declarationMember named parent cdTree) := by
  have hname : ∀ tagNum fieldName, declarationFieldName tagNum = some fieldName →
      levelsOf fieldName ≤ 2 := by
    intro tagNum fieldName h
    unfold declarationFieldName at h
    split at h <;> cases h
    case h_4 => exact Nat.le_of_eq levelsOf_decoded.2.2
    all_goals exact (levelsOf_plain (by decide)).trans (by decide)
  have hleaf : NamedTo named 1 := hnamed.mono (by decide)
  refine moves_getTag.bind fun tag => .ite ?_ (.pure _)
  split
  · exact terminates_addProductIds hleaf parent cdTree
  · exact terminates_addCertificationType hleaf parent cdTree
  · exact terminates_addAuthorizedPAAList hleaf parent cdTree
  · split
    · exact hnamed _ _ (hname _ _ ‹_›)
    · exact terminates_showIn parent (noFault_addField _ _)

theorem terminates_addDecodedCertificationDeclarationTLV (hnamed : NamedTo named 2)
    {content : List UInt8} (hlen : content.length < 2 ^ 32) (tree : ProtoNode) :
    Terminates data n (addDecodedCertificationDeclarationTLV named content tree) :=
  Moves.bind (.gets _) fun parent => terminates_inner hlen 0 parent tree _
    fun node _ => terminates_declarationMember hnamed parent node

theorem terminates_addCmsContent (hnamed : NamedTo named 2) {content : List UInt8}
    (hlen : content.length < 2 ^ 32) (cmsTree : ProtoNode) :
    Terminates data n (addCmsContent named cmsTree content) :=
  .ite (.pure _) ((moves_addField _ _).bind fun _ => terminates_ignored
    (terminates_addDecodedCertificationDeclarationTLV hnamed hlen cmsTree))

/-- A signed message holds no more bytes than an `int` can count. -/
def OpenSSL.ContentFits (openssl : OpenSSL) : Prop :=
  ∀ value cms, openssl.d2iCmsContentInfo value = some cms → cms.content.length < 2 ^ 31

theorem terminates_addDecodedCertificationDeclarationCMS (hssl : env.openssl.ContentFits)
    (hnamed : NamedTo named 2) (value : List UInt8) (tree : ProtoNode) :
    Terminates data n (addDecodedCertificationDeclarationCMS env named value tree) := by
  unfold addDecodedCertificationDeclarationCMS
  split
  · exact .throw _
  · rename_i cms hcms
    have hlen := hssl value cms hcms
    have hsigner : ∀ signer tree, Terminates data n (addCmsSigner tree signer) := by
      intro signer tree
      cases signer with
      | none => exact .pure _
      | some si => exact (moves_addFieldIf _ _ _).bind fun _ => moves_addFieldIf _ _ _
    refine (moves_addDataTree _ _).bind fun cmsTree => ?_
    refine (moves_addFieldIf _ _ _).bind fun _ => ?_
    refine (moves_addField _ _).bind fun _ => (hsigner _ _).bind fun _ => ?_
    exact (moves_addField _ _).bind fun _ =>
      terminates_addCmsContent hnamed (by omega) cmsTree

/-! ### Named values -/

theorem terminates_addCertificate (hnamed : NamedTo named 1) {value : List UInt8}
    (hlen : value.length < 2 ^ 32) (tree : ProtoNode) (fieldName : Text) (valueOffset : Nat) :
    Terminates data n (addCertificate env named tree fieldName value valueOffset) := by
  have hx509 : Terminates data n (addDecodedX509Certificate env tree fieldName value) :=
    moves_still (still_addDecodedX509Certificate env _ _ _)
      (noFault_addDecodedX509Certificate env _ _ _)
  refine hx509.attempt.bind fun res => ?_
  cases res with
  | ok u => exact .pure _
  | error e =>
    exact terminates_ignored
      (terminates_addDecodedMatterCertificate hnamed hlen fieldName valueOffset tree)

/-- What is decoded of a byte string needs the fields with fewer levels. -/
theorem terminates_addDecodedBytes (hssl : env.openssl.ContentFits) {fieldName : Text}
    (hnamed : ∀ levels, levels < levelsOf fieldName → NamedTo named levels) {value : List UInt8}
    (hlen : value.length < 2 ^ 32) (tree : ProtoNode) (elemStart elemLen : Nat) :
    Terminates data n (addDecodedBytes env named tree fieldName value elemStart elemLen) := by
  unfold addDecodedBytes
  refine .ite (.pure _) ?_
  split
  · rename_i hname
    have hlevels : levelsOf fieldName = 3 := by rw [hname, levelsOf_decoded.1]
    exact terminates_ignored (terminates_addDecodedCertificationDeclarationCMS hssl
      (hnamed 2 (by omega)) value tree)
  refine .ite (.pure _) ?_
  split
  · rename_i hdeclaration hname
    have hlevels : 2 ≤ levelsOf fieldName := by
      unfold levelsOf
      rw [if_neg hdeclaration, if_pos (Or.inl hname)]
      split <;> decide
    exact terminates_addCertificate (hnamed 1 (by omega)) hlen tree fieldName _
  split
  · rename_i hname
    have hlevels : levelsOf fieldName = 4 := if_pos hname
    exact terminates_ignored (terminates_addDecodedAttestationElements (hnamed 3 (by omega)) hlen
      _ tree)
  split
  · rename_i hname
    have hlevels : levelsOf fieldName = 2 := by rw [hname, levelsOf_decoded.2.1]
    exact terminates_ignored (terminates_addDecodedNOCSRElements (hnamed 1 (by omega)) hlen
      _ tree)
  · exact .pure _

theorem terminates_addNamedCommandValueBy (hssl : env.openssl.ContentFits) {fieldName : Text}
    (hnamed : ∀ levels, levels < levelsOf fieldName → NamedTo named levels) (tree : ProtoNode) :
    Terminates data n (addNamedCommandValueBy env named tree fieldName) := by
  have hline : ∀ text, Terminates data n
      (addField tree (fieldName ++ Text.lit "=" ++ text)) := fun text => moves_addField _ _
  refine moves_getType.bind fun type => ?_
  split
  · exact moves_getInt64.bind fun _ => hline _
  · exact moves_getUInt64.bind fun _ => hline _
  · exact (moves_read TLVReader.getBool_keeps leaves_getBool).bind fun _ => hline _
  · exact (moves_read TLVReader.getDouble_keeps leaves_getDouble).bind fun _ => hline _
  · exact moves_dupString.bind fun _ => hline _
  · refine moves_getLength.bind fun _ => Ends.bind (dataBytes_ends _) fun value =>
      Ends.of_each fun s hs => Ends.at (P := fun s => AtMost data n s.tlv) ?_ hs.1
    exact (hline _).bind fun _ => Moves.bind (.gets _) fun d =>
      terminates_addDecodedBytes hssl hnamed hs.2 tree _ _
  · exact hline _
  · exact (hline _).bind fun _ => terminates_addGenericTLVItem _ _ _ _
  · exact (hline _).bind fun _ => terminates_addGenericTLVItem _ _ _ _
  · exact (hline _).bind fun _ => terminates_addGenericTLVItem _ _ _ _
  · exact .throw _

end

section
variable {env : Env} (hssl : env.openssl.ContentFits)
include hssl

/-- As many levels as the field has are enough. -/
theorem namedTo_addNamedCommandValueTo :
    ∀ levels, NamedTo (addNamedCommandValueTo env levels) levels
  | 0, _, _, _, fieldName, h => by
    have hpos : 0 < levelsOf fieldName := by
      unfold levelsOf
      split
      · decide
      split
      · decide
      split <;> decide
    omega
  | levels + 1, _, _, tree, _, h =>
    terminates_addNamedCommandValueBy hssl (fun _ hlt =>
      NamedTo.mono (namedTo_addNamedCommandValueTo levels) (by omega)) tree

theorem terminates_addNamedCommandValue (tree : ProtoNode) (fieldName : Text) :
    Terminates data n (addNamedCommandValue env tree fieldName) :=
  namedTo_addNamedCommandValueTo hssl 4 tree fieldName (levelsOf_le fieldName)

theorem terminates_addFieldBy (tree : ProtoNode) (getFieldName : Nat → Option Text) :
    Terminates data n (addFieldBy env tree getFieldName) := by
  refine moves_getTag.bind fun tag => ?_
  split
  · exact terminates_addNamedCommandValue hssl _ _
  · exact terminates_addUnknown env _

end

end

end Matter.IM
