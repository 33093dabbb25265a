import MatterDissector.IM.Proof.Crashes
import MatterDissector.Security.Proof.Case

/-!
# Sections that decode

Whether a section can be decoded depends on its bytes only, not on where it is in the message nor on
what has been shown before it (`sectionDecodes`, `addSection_returns_iff`).
-/

namespace Matter.Security

open Prog Display TLV TLV.Dissect Message
open IM (overMembers alike_overMembers)

/-! ## Members of the sections -/

section
variable (host : Host) (tree tree' : ProtoNode)

theorem alike_addTypedItem (hfindex : HeaderField) :
    AlikeHere (addTypedItem tree hfindex) (addTypedItem tree' hfindex) := by
  have hshow : ∀ shown, AlikeHere (do let _ ← addShown tree hfindex shown)
      (do let _ ← addShown tree' hfindex shown) := fun shown =>
    (alike_addShown tree tree' hfindex shown).bind fun _ _ _ => .pure rfl
  have hread : ∀ {δ : Type} (x : ReaderM δ) (shown : δ → Shown),
      AlikeHere (do let val ← onReader x; let _ ← addShown tree hfindex (shown val))
        (do let val ← onReader x; let _ ← addShown tree' hfindex (shown val)) :=
    fun x shown => (alike_onReader x).seq fun val => hshow (shown val)
  refine alike_getType.seq fun type => ?_
  cases type with
  | signedInteger =>
    refine (alike_onReader _).seq fun val => ?_
    exact .ite (hshow _) (.ite (hshow _) (.throw _))
  | unsignedInteger =>
    refine (alike_onReader _).seq fun val => ?_
    exact .ite (hshow _) (.ite (hshow _) (.throw _))
  | boolean => exact hread _ _
  | floatingPointNumber => exact hread _ _
  | utf8String => exact hread _ _
  | byteString => exact alike_dataBytes.seq fun val => hshow _
  | null => exact hshow _
  | _ => exact .throw _

theorem alike_addListItem (hfindex : HeaderField) (ett : Ett)
    {elemHandler : ProtoNode → DissectM Unit}
    (h : ∀ node node', AlikeHere (elemHandler node) (elemHandler node')) :
    AlikeHere (addListItem tree hfindex ett elemHandler)
      (addListItem tree' hfindex ett elemHandler) := by
  refine alike_getType.seq fun type => (Alike.verify _ _).seq fun _ => ?_
  refine (alike_addSubTreeItem tree tree' hfindex SameBytes.onElements ett).bind
    fun node node' _ => ?_
  refine alike_enterContainer.seq fun _ => ?_
  refine (alike_forMembers (fun _ => (h node node').seq fun _ => .pure rfl) 0).seq fun _ => ?_
  exact alike_exitContainer.seq fun _ => (alike_draw _ _).bind fun _ _ _ => .pure rfl

theorem alike_certDNMember (hfAttr : HeaderField) :
    AlikeHere (certDNMember host tree hfAttr) (certDNMember host tree' hfAttr) := by
  refine alike_getTag.seq fun tag => alike_getType.seq fun type => ?_
  cases type with
  | utf8String => exact (alike_onReader _).seq fun _ => alike_addStringItemF _ _ _ _
  | unsignedInteger => exact (alike_onReader _).seq fun _ => alike_addStringItemF _ _ _ _
  | _ => exact alike_addGenericTLVItem tree tree' _ host false

/-- A structure of members. -/
theorem alike_subtree (hfindex : HeaderField) (ett : Ett) (check : TLVType → Bool)
    (e : MatterError) {member : ProtoNode → DissectM Unit}
    (h : ∀ node node', AlikeHere (member node) (member node')) :
    AlikeHere (do
        let type ← getType
        verify (check type) e
        let node ← addSubTreeItem tree hfindex ett
        overMembers (fun () => member node) ())
      (do
        let type ← getType
        verify (check type) e
        let node ← addSubTreeItem tree' hfindex ett
        overMembers (fun () => member node) ()) := by
  refine alike_getType.seq fun type => (Alike.verify _ _).seq fun _ => ?_
  refine (alike_addSubTreeItem tree tree' hfindex SameBytes.onElements ett).bind
    fun node node' _ => ?_
  exact alike_overMembers (fun _ => h node node') ()

theorem alike_addCertDN (hfContainer hfAttr : HeaderField) :
    AlikeHere (addCertDN host tree hfContainer hfAttr) (addCertDN host tree' hfContainer hfAttr) :=
  alike_subtree tree tree' hfContainer .certDN (fun type => type = .path ∨ type = .struct) _
    fun node node' => alike_certDNMember host node node' hfAttr

theorem alike_certMember : AlikeHere (certMember host tree) (certMember host tree') := by
  refine alike_getTag.seq fun tag => alike_getType.seq fun type => ?_
  refine (Alike.verify _ _).seq fun _ => ?_
  split
  all_goals first
    | exact alike_addTypedItem tree tree' _
    | exact alike_addCertDN host tree tree' _ _
    | exact alike_addGenericTLVItem tree tree' _ host false
    | exact (Alike.verify _ _).seq fun _ => alike_addGenericTLVItem tree tree' _ host false

theorem alike_addCert (hfindex : HeaderField) :
    AlikeHere (addCert host hfindex tree) (addCert host hfindex tree') :=
  alike_subtree tree tree' hfindex .cert (fun type => type = .struct) _
    fun node node' => alike_certMember host node node'

theorem alike_certRefMember : AlikeHere (certRefMember host tree) (certRefMember host tree') := by
  refine alike_getTag.seq fun tag => alike_getType.seq fun type => ?_
  refine (Alike.verify _ _).seq fun _ => ?_
  split
  · exact (Alike.verify _ _).seq fun _ => alike_addCertDN host tree tree' _ _
  · exact (Alike.verify _ _).seq fun _ => alike_addTypedItem tree tree' _
  · exact alike_addGenericTLVItem tree tree' _ host false

theorem alike_addCertRef (hfindex : HeaderField) :
    AlikeHere (addCertRef host hfindex tree) (addCertRef host hfindex tree') :=
  alike_subtree tree tree' hfindex .certRef (fun type => type = .struct) _
    fun node node' => alike_certRefMember host node node'

theorem alike_certInfoMember :
    AlikeHere (certInfoMember host tree) (certInfoMember host tree') := by
  refine alike_getTag.seq fun tag => alike_getType.seq fun type => ?_
  refine (Alike.verify _ _).seq fun _ => ?_
  split
  · exact (Alike.verify _ _).seq fun _ => alike_addCert host tree tree' _
  · exact (Alike.verify _ _).seq fun _ => alike_addCertRef host tree tree' _
  · exact (Alike.verify _ _).seq fun _ => alike_addListItem tree tree' _ _
      fun node node' => alike_addCert host node node' _
  · exact (Alike.verify _ _).seq fun _ => alike_addListItem tree tree' _ _
      fun node node' => alike_addCertRef host node node' _
  · exact .throw _

theorem alike_ecdsaSigMember : AlikeHere (ecdsaSigMember tree) (ecdsaSigMember tree') := by
  refine alike_getTag.seq fun tag => alike_getType.seq fun type => ?_
  refine (Alike.verify _ _).seq fun _ => ?_
  split
  · exact (Alike.verify _ _).seq fun _ => alike_addTypedItem tree tree' _
  · exact (Alike.verify _ _).seq fun _ => alike_addTypedItem tree tree' _
  · exact .throw _

end

/-! ## Sections -/

/-- The bytes of a section, on their own, begin with its structure, and the members decode. -/
def sectionDecodes (tagNum : Nat) (member : ProtoNode → DissectM Unit) (data : List UInt8) : Bool :=
  (do
    Dissect.onTlv (TLVDissector.nextExpecting .struct (profileTag profileSecurity tagNum))
    overMembers (fun () => member .messageTree) () : DissectM Unit).run
      (.start (sectionDissector data 0)) |>.okAnd fun _ _ => true

def certInfoDecodes (host : Host) (data : List UInt8) : Bool :=
  sectionDecodes tagMatterCASECertificateInformation (certInfoMember host) data

def signatureDecodes (data : List UInt8) : Bool :=
  sectionDecodes tagMatterCASESignature ecdsaSigMember data

section
variable {tvb : Tvb} {tagNum offset length : Nat} {hfindex : HeaderField} {ett : Ett}
  {member : ProtoNode → DissectM Unit} {s : CaseState}

/-- What a TLV dissector at work starts with. -/
abbrev CaseState.withTlv (s : CaseState) (tlv : TLVDissector) : DissectState :=
  { tlv, log := s.log, retried := 0 }

theorem onTlv_returns_iff {α : Type} {tlv : TLVDissector} {x : DissectM α} :
    (∃ a s', (onTlv tlv x).run s = .ok a s') ↔
      ∃ a t, x.run (s.withTlv tlv) = .ok a t := by
  cases hrun : x.run (s.withTlv tlv) with
  | ok a t =>
    rw [onTlv_ok hrun]
    exact ⟨fun _ => ⟨a, t, rfl⟩, fun _ => ⟨_, _, rfl⟩⟩
  | err e t =>
    rw [onTlv_err hrun]
    constructor <;> rintro ⟨_, _, h⟩ <;> cases h
  | fault f =>
    rw [onTlv_fault hrun]
    constructor <;> rintro ⟨_, _, h⟩ <;> cases h

/-- Where the structure begins. -/
abbrev openStructure (tagNum : Nat) : DissectM Unit :=
  Dissect.onTlv (TLVDissector.nextExpecting .struct (profileTag profileSecurity tagNum))

/-- The structure is shown exactly when it is there. -/
theorem addStructure_cases (data : List UInt8) (offset : Nat) (s : CaseState) :
    (∃ d node s', (openStructure tagNum).run (s.withTlv (sectionDissector data offset)) =
        .ok () (s.withTlv d) ∧
      (onTlv (sectionDissector data offset) (addStructure tagNum hfindex ett)).run
        s = .ok (node, d) s') ∨
    (¬ (∃ u t, (openStructure tagNum).run (s.withTlv (sectionDissector data offset)) = .ok u t) ∧
      ∃ e s', (onTlv (sectionDissector data offset) (addStructure tagNum hfindex ett)).run s =
        .err e s') := by
  cases hnext : (TLVDissector.nextExpecting .struct (profileTag profileSecurity tagNum)).run
      (sectionDissector data offset) with
  | ok u d =>
    obtain ⟨-, -, htype⟩ := nextExpecting_first hnext
    refine .inl ⟨d, _, _, ?_, onTlv_ok (addStructure_run hnext htype)⟩
    exact onTlv_eq_ok.2 ⟨d, hnext, rfl⟩
  | err e d =>
    have hopen : (openStructure tagNum).run (s.withTlv (sectionDissector data offset)) =
        .err e (s.withTlv d) :=
      onTlv_eq_err.2 ⟨d, hnext, rfl⟩
    refine .inr ⟨?_, _, _, onTlv_err (bind_err hopen)⟩
    rintro ⟨u, t, hrun⟩
    cases hopen.symm.trans hrun
  | fault f =>
    have hopen : (openStructure tagNum).run (s.withTlv (sectionDissector data offset)) =
        .fault f := by
      rw [openStructure, Dissect.onTlv, run_zoom, hnext]
    refine .inr ⟨?_, _, _, onTlv_fault (bind_fault hopen)⟩
    rintro ⟨u, t, hrun⟩
    cases hopen.symm.trans hrun

/-- A section is decoded exactly when its bytes decode, wherever it is. -/
theorem addSection_returns_iff (hmember : ∀ node node', AlikeHere (member node) (member node'))
    (hend : offset + length ≤ tvb.bytes.length) (hlength : length < 2 ^ 31) (s : CaseState) :
    (∃ s', (addSection tvb tagNum offset length hfindex ett member).run s = .ok () s') ↔
      sectionDecodes tagNum member ((tvb.bytes.drop offset).take length) = true := by
  generalize hdata : (tvb.bytes.drop offset).take length = data
  have halike : ∀ node, ((do
        openStructure tagNum
        overMembers (fun () => member node) () : DissectM Unit).run
        (s.withTlv (sectionDissector data offset))).Alike (OfTlv SameBytes) Eq
      ((do
        openStructure tagNum
        overMembers (fun () => member .messageTree) () : DissectM Unit).run
        (.start (sectionDissector data 0))) := fun node =>
    (alike_nextExpecting _ _).seq (fun _ => alike_overMembers (fun _ => hmember node _) ()) _ _ rfl
  rw [addSection, bind_ok (onTvb_memdup hend hlength s), hdata, sectionDecodes, Outcome.okAnd_true]
  rcases @addStructure_cases tagNum hfindex ett data offset s with
    ⟨d, node, s₁, hopen, hrun⟩ | ⟨hnever, e, s₁, hrun⟩
  · rw [bind_ok hrun]
    have hreturns := (halike node).returns_iff
    have hshown := (alike_overMembers (fun _ => hmember node node) () (s₁.withTlv d) (s.withTlv d)
      rfl).returns_iff
    rw [bind_ok hopen, ← hshown, ← onTlv_returns_iff] at hreturns
    rw [← hreturns]
    constructor
    · rintro ⟨s', h⟩
      obtain ⟨a, s₂, h, -⟩ := bind_eq_ok.1 h
      exact ⟨a, s₂, h⟩
    · rintro ⟨a, s₂, h⟩
      exact ⟨s₂, bind_ok h⟩
  · rw [bind_err hrun]
    constructor
    · rintro ⟨s', h⟩
      cases h
    · rintro h
      obtain ⟨u, t, hrun'⟩ := (halike .messageTree).returns_iff.2 h
      obtain ⟨u', t', hopen, -⟩ := bind_eq_ok.1 hrun'
      exact absurd ⟨u', t', hopen⟩ hnever

end

end Matter.Security
