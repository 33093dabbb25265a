import MatterDissector.Lib.Alike
import MatterDissector.TLV.Dissector

/-!
# The same bytes elsewhere

What a dissector reads does not depend on where its buffer begins in the message, nor on what has
been shown before: from dissectors that differ in nothing else, every program that shows elements
ends alike (`Alike`, on the dissectors by `SameBytes`). The nodes of the two trees may differ.
-/

namespace Matter.TLV

open Prog Display

/-- The dissectors differ in nothing but where the buffer begins. -/
def SameBytes (d d' : TLVDissector) : Prop :=
  d' = { d with sourceBufBaseOffset := d'.sourceBufBaseOffset }

/-- States with dissectors that `T` relates. -/
def OfTlv (T : TLVDissector → TLVDissector → Prop) (s s' : DissectState) : Prop := T s.tlv s'.tlv

/-- `T` relates dissectors that are on an element only to others that are. -/
def OnElements (T : TLVDissector → TLVDissector → Prop) : Prop :=
  ∀ d d', T d d' → (d.reader.getType = .notSpecified ↔ d'.reader.getType = .notSpecified)

/-- Any two nodes. -/
def AnyNodes (_ _ : ProtoNode) : Prop := True

namespace SameBytes

variable {d d' : TLVDissector}

theorem reader_eq (h : SameBytes d d') : d.reader = d'.reader := by
  rw [h]

theorem elemLen_eq (h : SameBytes d d') : d.elemLen = d'.elemLen := by
  rw [h]

theorem containerStack_eq (h : SameBytes d d') : d.containerStack = d'.containerStack := by
  rw [h]

theorem onElements : OnElements SameBytes := fun _ _ h => by rw [h.reader_eq]

theorem init (data : List UInt8) (dataLen base base' : Nat) :
    SameBytes (.init data dataLen base) (.init data dataLen base') := rfl

/-- A change of the other fields that looks at nothing else. -/
theorem change (h : SameBytes d d') {f : TLVDissector → TLVDissector}
    (hf : ∀ d base, f { d with sourceBufBaseOffset := base } =
      { f d with sourceBufBaseOffset := base })
    (hbase : ∀ d, (f d).sourceBufBaseOffset = d.sourceBufBaseOffset) :
    SameBytes (f d) (f d') := by
  have hfd := hf d d'.sourceBufBaseOffset
  have heq : { d with sourceBufBaseOffset := d'.sourceBufBaseOffset } = d' := h.symm
  rw [heq] at hfd
  unfold SameBytes
  rw [hbase d', hfd]

end SameBytes

/-! ## Moves -/

section
variable {α : Type}

theorem alike_tlv_onReader (x : ReaderM α) :
    Alike SameBytes Eq (TLVDissector.onReader x) (TLVDissector.onReader x) := by
  refine (Alike.refl x).zoom (fun d d' h => h.reader_eq) fun d d' r r' h hr => ?_
  subst hr
  exact h.change (f := fun d => { d with reader := r }) (fun _ _ => rfl) fun _ => rfl

theorem alike_onReaderCopy (x : ReaderM α) :
    Alike SameBytes Eq (TLVDissector.onReaderCopy x) (TLVDissector.onReaderCopy x) :=
  (Alike.refl _).zoom (fun _ _ h => h.reader_eq) fun _ _ _ _ h _ => h

theorem alike_markElemStart :
    Alike SameBytes Eq TLVDissector.markElemStart TLVDissector.markElemStart := by
  refine Alike.get.bind fun d d' h => ?_
  rw [h.reader_eq]
  refine (Alike.verify _ _).seq fun _ => .modify fun d d' h => ?_
  exact h.change (f := fun d => { d with elemStart := d.reader.lenRead }) (fun _ _ => rfl)
    fun _ => rfl

theorem alike_markElemLength :
    Alike SameBytes Eq TLVDissector.markElemLength TLVDissector.markElemLength := by
  refine (alike_onReaderCopy _).seq fun copy => .modify fun d d' h => ?_
  exact h.change (f := fun d => { d with elemLen := sub32 copy.2.lenRead d.elemStart })
    (fun _ _ => rfl) fun _ => rfl

theorem alike_nextBy (readNext : ReaderM Unit) :
    Alike SameBytes Eq (TLVDissector.nextBy readNext) (TLVDissector.nextBy readNext) :=
  (alike_tlv_onReader _).seq fun _ => alike_markElemStart.seq fun _ =>
    (alike_tlv_onReader _).seq fun _ => alike_markElemLength

theorem alike_tlv_enterContainer :
    Alike SameBytes Eq TLVDissector.enterContainer TLVDissector.enterContainer := by
  refine (alike_tlv_onReader _).seq fun containerType => .modify fun d d' h => ?_
  exact h.change (f := fun d => { d with
    containerStack := ⟨containerType, d.elemStart, d.elemLen⟩ :: d.containerStack })
    (fun _ _ => rfl) fun _ => rfl

theorem alike_popContainer :
    Alike SameBytes Eq TLVDissector.popContainer TLVDissector.popContainer := by
  refine Alike.get.bind fun d d' h => ?_
  rw [h.containerStack_eq]
  split
  · exact .pure rfl
  · rename_i containerType elemStart elemLen containerStack _
    refine (Alike.modify fun d d' h => ?_).seq fun _ => .pure rfl
    exact h.change (f := fun d => { d with elemStart, elemLen, containerStack })
      (fun _ _ => rfl) fun _ => rfl

theorem alike_tlv_exitContainer :
    Alike SameBytes Eq TLVDissector.exitContainer TLVDissector.exitContainer :=
  alike_popContainer.seq fun _ => alike_tlv_onReader _

/-! ## Programs that show elements -/

open Dissect

variable {T : TLVDissector → TLVDissector → Prop}

/-- The two programs end alike on dissectors of the same bytes. -/
abbrev AlikeHere (x y : DissectM α) : Prop := Alike (OfTlv SameBytes) Eq x y

theorem alike_onTlv {x : DissectorM α} (h : Alike T Eq x x) :
    Alike (OfTlv T) Eq (onTlv x) (onTlv x) :=
  h.zoom (fun _ _ hs => hs) fun _ _ _ _ _ hd => hd

theorem alike_onReader (x : ReaderM α) : AlikeHere (onReader x) (onReader x) :=
  alike_onTlv (alike_tlv_onReader x)

theorem alike_next : AlikeHere Dissect.next Dissect.next := alike_onTlv (alike_nextBy _)

theorem alike_nextExpecting (expectedType : TLVType) (expectedTag : Nat) :
    AlikeHere (onTlv (TLVDissector.nextExpecting expectedType expectedTag))
      (onTlv (TLVDissector.nextExpecting expectedType expectedTag)) :=
  alike_onTlv (alike_nextBy _)

theorem alike_enterContainer : AlikeHere Dissect.enterContainer Dissect.enterContainer :=
  alike_onTlv alike_tlv_enterContainer

theorem alike_exitContainer : AlikeHere Dissect.exitContainer Dissect.exitContainer :=
  alike_onTlv alike_tlv_exitContainer

theorem alike_getsReader (f : TLVReader → α) :
    AlikeHere (gets fun s => f s.tlv.reader) (gets fun s => f s.tlv.reader) :=
  .gets fun _ _ h => congrArg f (SameBytes.reader_eq h)

theorem alike_getType : AlikeHere getType getType := alike_getsReader _
theorem alike_getTag : AlikeHere getTag getTag := alike_getsReader _
theorem alike_getLength : AlikeHere getLength getLength := alike_getsReader _

theorem alike_dataBytes : AlikeHere dataBytes dataBytes :=
  (alike_onReader _).seq fun _ => alike_getLength.seq fun _ =>
    (alike_getsReader TLVReader.data).seq fun _ => alike_onReader _

theorem alike_draw (call call' : Drawn) : Alike (OfTlv T) AnyNodes (draw call) (draw call') := by
  have hlength : Alike (OfTlv T) (fun _ _ => True)
      (gets fun s => s.log.length : DissectM Nat) (gets fun s => s.log.length) :=
    .gets fun _ _ _ => trivial
  refine hlength.bind fun n n' _ => ?_
  refine Alike.seq (.modify fun _ _ h => h) fun _ => ?_
  exact .pure trivial

variable (tree tree' : ProtoNode) (hfindex : HeaderField)

theorem alike_addShown (shown : Shown) :
    Alike (OfTlv T) AnyNodes (addShown tree hfindex shown) (addShown tree' hfindex shown) := by
  have htlv : Alike (OfTlv T) T (gets (·.tlv) : DissectM TLVDissector) (gets (·.tlv)) :=
    .gets fun _ _ h => h
  refine htlv.bind fun d d' _ => ?_
  exact alike_draw _ _

theorem alike_addStringItemF (text : Text) :
    Alike (OfTlv T) Eq (addStringItemF tree hfindex text) (addStringItemF tree' hfindex text) :=
  (alike_addShown tree tree' hfindex _).bind fun _ _ _ => .pure rfl

theorem alike_addStringItemWithHeaderF (text : Text) :
    Alike (OfTlv T) Eq (addStringItemWithHeaderF tree hfindex text)
      (addStringItemWithHeaderF tree' hfindex text) :=
  (alike_addShown tree tree' hfindex _).bind fun _ _ _ => .pure rfl

theorem alike_addSubTreeItem (hT : OnElements T) (ett : Ett) :
    Alike (OfTlv T) AnyNodes (addSubTreeItem tree hfindex ett)
      (addSubTreeItem tree' hfindex ett) := by
  have htype : Alike (OfTlv T) (fun a b : TLVType => a = .notSpecified ↔ b = .notSpecified)
      getType getType := .gets fun _ _ h => hT _ _ h
  refine htype.bind fun type type' h => ?_
  rw [show decide (type ≠ .notSpecified) = decide (type' ≠ .notSpecified) from
    decide_eq_decide.2 (not_congr h)]
  refine (Alike.verify _ _).seq fun _ => (alike_addShown tree tree' hfindex _).bind fun _ _ _ => ?_
  exact (alike_draw _ _).bind fun _ _ _ => .pure trivial

theorem alike_addSubTreeItemF (hT : OnElements T) (ett : Ett) (text : Text) :
    Alike (OfTlv T) AnyNodes (addSubTreeItemF tree hfindex ett text)
      (addSubTreeItemF tree' hfindex ett text) :=
  (alike_addSubTreeItem tree tree' hfindex hT ett).bind fun _ _ _ =>
    (alike_draw _ _).bind fun _ _ _ => .pure trivial

theorem alike_checked (x : Except Fault α) : Alike (OfTlv T) Eq (checked x) (checked x) := by
  cases x with
  | ok a => exact .pure rfl
  | error f => exact .stop f

/-! ## Loops and the generic renderer -/

variable {β : Type}

theorem alike_memberRound {body body' : β → DissectM β} (h : ∀ b, AlikeHere (body b) (body' b))
    (b : β) (res : Except MatterError Unit) :
    AlikeHere (memberRound body b res) (memberRound body' b res) := by
  cases res with
  | ok _ => exact (h b).seq fun _ => .pure rfl
  | error e => cases e <;> first | exact .throw _ | exact .pure rfl

theorem alike_forMembers {body body' : β → DissectM β} (h : ∀ b, AlikeHere (body b) (body' b))
    (b : β) : AlikeHere (forMembers body b) (forMembers body' b) := by
  refine Alike.whileLoop (fun _ s s' hs => ?_) (fun b => ?_) b
  · exact congrArg TLVReader.unread (SameBytes.reader_eq hs)
  · exact alike_next.attempt.seq fun res => alike_memberRound h b res

variable (host : Host)

theorem alike_append (text : Text) (strBuf : StrBuf) :
    AlikeHere (append host text strBuf) (append host text strBuf) := alike_checked _

theorem alike_appendTag (suppressTag : Bool) (tag : Nat) (strBuf : StrBuf) :
    AlikeHere (appendTag host suppressTag tag strBuf) (appendTag host suppressTag tag strBuf) :=
  .ite (.pure rfl) (.ite (alike_append host _ _) (.ite (alike_append host _ _) (.pure rfl)))

theorem alike_appendValue (strBuf : StrBuf) (type : TLVType) :
    AlikeHere (appendValue host strBuf type) (appendValue host strBuf type) := by
  have hread : ∀ {δ : Type} (x : ReaderM δ) (text : δ → Text),
      AlikeHere (do append host (text (← onReader x)) strBuf)
        (do append host (text (← onReader x)) strBuf) :=
    fun x text => (alike_onReader x).seq fun _ => alike_append host _ _
  cases type with
  | signedInteger => exact hread _ _
  | unsignedInteger => exact hread _ _
  | boolean => exact hread _ _
  | floatingPointNumber => exact hread _ _
  | utf8String => exact hread _ _
  | byteString =>
    exact alike_dataBytes.seq fun bytes => .foldlM (fun _ _ => alike_append host _ _) bytes strBuf
  | null | struct | array | path => exact alike_append host _ _
  | _ => exact .throw _

theorem alike_addLine (suppressHeader : Bool) (text : Text) :
    AlikeHere (addLine tree hfindex suppressHeader text)
      (addLine tree' hfindex suppressHeader text) :=
  .ite (alike_addStringItemWithHeaderF _ _ _ _) (alike_addStringItemF _ _ _ _)

theorem alike_addGenericTLVItemTo : ∀ (depth : Nat) (suppressTag suppressHeader : Bool)
    (indentLevel : Nat),
    AlikeHere (addGenericTLVItemTo host tree hfindex depth suppressTag suppressHeader indentLevel)
      (addGenericTLVItemTo host tree' hfindex depth suppressTag suppressHeader indentLevel)
  | 0, _, _, _ => .stop _
  | depth + 1, suppressTag, suppressHeader, indentLevel => by
    refine alike_getType.seq fun type => alike_getTag.seq fun tag => ?_
    refine (alike_checked _).seq fun strBuf => (alike_appendTag host _ _ _).seq fun strBuf => ?_
    refine (alike_appendValue host _ _).seq fun strBuf => (alike_checked _).seq fun text => ?_
    refine (alike_addLine tree tree' hfindex _ _).seq fun _ => ?_
    refine (alike_checked _).seq fun strBuf => ?_
    refine .ite ?_ (.pure rfl)
    refine alike_enterContainer.seq fun _ => ?_
    refine (alike_forMembers (fun _ => alike_addGenericTLVItemTo depth _ _ _) ()).seq fun _ => ?_
    refine alike_exitContainer.seq fun _ => (alike_checked _).seq fun strBuf => ?_
    refine (alike_append host _ _).seq fun strBuf => (alike_checked _).seq fun text => ?_
    exact alike_addStringItemWithHeaderF _ _ _ _

theorem alike_addGenericTLVItem (suppressTag : Bool) :
    AlikeHere (addGenericTLVItem host tree hfindex suppressTag)
      (addGenericTLVItem host tree' hfindex suppressTag) := by
  refine Alike.get.bind fun s s' h => ?_
  rw [SameBytes.reader_eq h]
  exact alike_addGenericTLVItemTo tree tree' hfindex host _ _ _ _

end

end Matter.TLV
