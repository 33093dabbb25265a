import MatterDissector.TLV.Dissector

/-!
# The display calls of a program

`Calls allowed x`: whatever `x` adds to the log, an item that it shows is of a field and a kind
that `allowed` admits. One lemma for each method of the dissector; the handler of a list and the
body of a loop are asked for the same.
-/

namespace Matter.TLV

open Prog Display Dissect

/-- The call shows what `allowed` admits, if it shows an item. -/
def Allowed (allowed : HeaderField → Shown → Prop) : Drawn → Prop
  | .add _ hfindex _ _ shown => allowed hfindex shown
  | _ => True

/-- `x` makes allowed calls. -/
abbrev Calls {α : Type} (allowed : HeaderField → Shown → Prop) (x : DissectM α) : Prop :=
  Appends DissectState.log (Allowed allowed) x

section
variable {α β : Type} {allowed : HeaderField → Shown → Prop}

theorem calls_onTlv (x : DissectorM α) : Calls allowed (onTlv x) := by
  have hleaves : Leaves DissectState.log (onTlv x) := Leaves.zoom x fun _ _ => rfl
  exact hleaves.appends

theorem calls_onReader (x : ReaderM α) : Calls allowed (onReader x) := calls_onTlv _

theorem calls_next : Calls allowed next := calls_onTlv _
theorem calls_enterContainer : Calls allowed enterContainer := calls_onTlv _
theorem calls_exitContainer : Calls allowed exitContainer := calls_onTlv _

theorem calls_checked (x : Except Fault α) : Calls allowed (checked x) := by
  cases x with
  | ok a => exact .pure a
  | error f => exact .stop f

theorem calls_dataBytes : Calls allowed dataBytes :=
  (calls_onReader _).bind fun _ => Appends.bind (.gets _) fun _ => Appends.bind (.gets _) fun _ =>
    calls_onReader _

/-! ## Items -/

theorem calls_draw (call : Drawn) (h : Allowed allowed call) : Calls allowed (draw call) := by
  refine Appends.bind (.gets _) fun n => Appends.bind ?_ fun _ => .pure _
  intro s
  refine ⟨[call], rfl, fun c hc => ?_⟩
  rw [List.mem_singleton.1 hc]
  exact h

theorem calls_addShown {tree : ProtoNode} {hfindex : HeaderField} {shown : Shown}
    (h : allowed hfindex shown) : Calls allowed (addShown tree hfindex shown) :=
  Appends.bind (.gets _) fun _ => calls_draw _ h

theorem calls_addStringItemF {tree : ProtoNode} {hfindex : HeaderField} {text : Text}
    (h : allowed hfindex (.stringValue text)) :
    Calls allowed (addStringItemF tree hfindex text) := (calls_addShown h).bind fun _ => .pure _

theorem calls_addStringItemWithHeaderF {tree : ProtoNode} {hfindex : HeaderField} {text : Text}
    (h : allowed hfindex (.stringLine text)) :
    Calls allowed (addStringItemWithHeaderF tree hfindex text) :=
  (calls_addShown h).bind fun _ => .pure _

theorem calls_addSubTreeItem {tree : ProtoNode} {hfindex : HeaderField} {ett : Ett}
    (h : allowed hfindex .item) : Calls allowed (addSubTreeItem tree hfindex ett) :=
  Appends.bind (.gets _) fun _ => Appends.bind (.verify _ _) fun _ =>
    (calls_addShown h).bind fun _ => (calls_draw (.addSubtree _ _) trivial).bind fun _ => .pure _

theorem calls_addTypedItem {tree : ProtoNode} {hfindex : HeaderField}
    (h : ∀ shown, allowed hfindex shown) : Calls allowed (addTypedItem tree hfindex) := by
  have hshown : ∀ shown, Calls allowed (do let _ ← addShown tree hfindex shown : DissectM Unit) :=
    fun shown => (calls_addShown (h shown)).bind fun _ => .pure _
  refine Appends.bind (.gets _) fun type => ?_
  unfold addTypedValue
  split
  · exact (calls_onReader _).bind fun _ => .ite (hshown _) (.ite (hshown _) (.throw _))
  · exact (calls_onReader _).bind fun _ => .ite (hshown _) (.ite (hshown _) (.throw _))
  · exact (calls_onReader _).bind fun _ => hshown _
  · exact (calls_onReader _).bind fun _ => hshown _
  · exact (calls_onReader _).bind fun _ => hshown _
  · exact calls_dataBytes.bind fun _ => hshown _
  · exact hshown _
  · exact .throw _

/-! ## Members -/

theorem calls_forMembers {body : β → DissectM β} (hbody : ∀ b, Calls allowed (body b)) (b : β) :
    Calls allowed (forMembers body b) := by
  refine Appends.whileLoop (fun b => (Appends.attempt calls_next).bind fun res => ?_) b
  unfold memberRound
  split
  · exact (hbody b).map _
  · exact .pure _
  · exact .throw _

theorem calls_addListItem {tree : ProtoNode} {hfindex : HeaderField} {ett : Ett}
    {elemHandler : ProtoNode → DissectM Unit} (h : allowed hfindex .item)
    (hhandler : ∀ node, Calls allowed (elemHandler node)) :
    Calls allowed (addListItem tree hfindex ett elemHandler) := by
  refine Appends.bind (.gets _) fun _ => Appends.bind (.verify _ _) fun _ => ?_
  refine (calls_addSubTreeItem h).bind fun listItem => calls_enterContainer.bind fun _ => ?_
  refine (calls_forMembers (fun _ => (hhandler listItem).bind fun _ => .pure _) 0).bind fun _ => ?_
  exact calls_exitContainer.bind fun _ =>
    (calls_draw (.appendText _ _) trivial).bind fun _ => .pure _

/-! ## Generic rendering -/

section
variable (host : Host)

theorem calls_append (text : Text) (strBuf : StrBuf) : Calls allowed (append host text strBuf) :=
  calls_checked _

theorem calls_appendTag (suppressTag : Bool) (tag : Nat) (strBuf : StrBuf) :
    Calls allowed (appendTag host suppressTag tag strBuf) :=
  .ite (.pure _) (.ite (calls_append host _ _) (.ite (calls_append host _ _) (.pure _)))

theorem calls_appendValue (strBuf : StrBuf) (type : TLVType) :
    Calls allowed (appendValue host strBuf type) := by
  unfold appendValue
  split
  · exact (calls_onReader _).bind fun _ => calls_append host _ _
  · exact (calls_onReader _).bind fun _ => calls_append host _ _
  · exact (calls_onReader _).bind fun _ => calls_append host _ _
  · exact (calls_onReader _).bind fun _ => calls_append host _ _
  · exact (calls_onReader _).bind fun _ => calls_append host _ _
  · exact calls_dataBytes.bind fun _ => .foldlM (fun _ _ => calls_append host _ _) _ _
  · exact calls_append host _ _
  · exact calls_append host _ _
  · exact calls_append host _ _
  · exact calls_append host _ _
  · exact .throw _

theorem calls_addGenericTLVItemTo {tree : ProtoNode} {hfindex : HeaderField}
    (h : ∀ text, allowed hfindex (.stringValue text))
    (hline : ∀ text, allowed hfindex (.stringLine text)) :
    ∀ (depth : Nat) (suppressTag suppressHeader : Bool) (indentLevel : Nat),
      Calls allowed
        (addGenericTLVItemTo host tree hfindex depth suppressTag suppressHeader indentLevel)
  | 0, _, _, _ => .stop _
  | depth + 1, suppressTag, suppressHeader, indentLevel => by
    refine Appends.bind (.gets _) fun type => Appends.bind (.gets _) fun tag => ?_
    refine (calls_checked _).bind fun strBuf => (calls_appendTag host _ _ _).bind fun strBuf => ?_
    refine (calls_appendValue host _ _).bind fun strBuf => (calls_checked _).bind fun text => ?_
    refine Appends.bind (.ite (calls_addStringItemWithHeaderF (hline _))
      (calls_addStringItemF (h _))) fun _ => (calls_checked _).bind fun strBuf => ?_
    refine .ite ?_ (.pure _)
    refine calls_enterContainer.bind fun _ => (calls_forMembers (fun _ =>
      calls_addGenericTLVItemTo h hline depth _ _ _) ()).bind fun _ => ?_
    refine calls_exitContainer.bind fun _ => (calls_checked _).bind fun strBuf => ?_
    exact (calls_append host _ _).bind fun _ => (calls_checked _).bind fun _ =>
      calls_addStringItemWithHeaderF (hline _)

theorem calls_addGenericTLVItem {tree : ProtoNode} {hfindex : HeaderField} {suppressTag : Bool}
    (h : ∀ text, allowed hfindex (.stringValue text))
    (hline : ∀ text, allowed hfindex (.stringLine text)) :
    Calls allowed (addGenericTLVItem host tree hfindex suppressTag) :=
  Appends.bind .get fun _ => calls_addGenericTLVItemTo host h hline _ _ _ _

end

end

end Matter.TLV
