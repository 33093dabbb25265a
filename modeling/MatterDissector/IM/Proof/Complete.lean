import MatterDissector.IM.Proof.Reached

/-!
# Which messages are dissected to their end

A message is an anonymous structure, and its dissector goes over the members as long as their
handlers succeed and leave them behind. What each asks of its members is `MsgType.memberOk`: of a
list that all of its elements are decoded, and in write requests and responses that there is none.
With these the members are visited to the last, unless one of the byte strings that are decoded
(`MsgType.decodedBytes`) crashes its decoder (`visitsAll_iff`).
-/

namespace Matter.IM

open Prog TLV Display TLV.Dissect
open TLVReader (InBounds)

section
variable {δ : Type} {data rest : List UInt8} {ip : Nat} {containerType : TLVType} {e : Elem}
  {s s' : DissectState} {may crash : Prop} {bad : δ → Prop}

/-! ## Lists -/

/-- The element is an array or a list. -/
def isList (e : Elem) : Bool := e.type = .array || e.type = .path

theorem isList_iff : isList e = true ↔ e.type = .array ∨ e.type = .path := by
  simp [isList]

theorem guarded_bind {α β : Type} (ok : Bool) (a : α) (g : α → β) :
    ((guarded ok a).bind fun a => some (g a)) = guarded ok (g a) := by
  cases ok <;> rfl

/-- A handler that is asked for the elements of a list. -/
def HandlesElems (may : Prop) (bad : δ → Prop) (data : List UInt8) (ip : Nat)
    (e : Elem) (elemHandler : ProtoNode → DissectM Unit) (ok : Elem → Bool)
    (reached : Elem → List δ) : Prop :=
  ∀ node, ∀ m ∈ e.members, ∀ rest s, rest ≠ [] → OnSized data ip e.type m rest s →
    DoesUnless may bad (reached m) data (elemHandler node) s (guarded (ok m) ())

/-- `AddListItem` on a list: every element is handled. -/
theorem addListItem_unless {elemHandler : ProtoNode → DissectM Unit} {ok : Elem → Bool}
    {reached : Elem → List δ} (tree : ProtoNode) (hfindex : HeaderField) (ett : Ett)
    (h : OnElem data ip containerType e rest s) (hlist : isList e = true)
    (hbody : HandlesElems may bad data ip e elemHandler ok reached)
    (hgrows : may → ∀ node, Grows DissectState.retried (elemHandler node)) :
    DoesUnless may bad (e.members.flatMap reached) data (addListItem tree hfindex ett elemHandler) s
      (guarded (e.members.all ok) ()) := by
  have htype : decide (s.tlv.reader.getType = .array ∨ s.tlv.reader.getType = .path) = true := by
    rw [h.type_eq, decide_eq_true_iff, ← isList_iff]
    exact hlist
  have hcontainer : e.isContainer = true := by
    cases e with
    | prim tag p =>
      rw [isList_iff] at hlist
      exact absurd (.inr hlist) p.type_ne_container
    | container tag kind members => rfl
  have hmembers : ∀ listItem s', OnElem data ip containerType e rest s' →
      DoesUnless may bad (e.members.flatMap reached) data (overMembers (fun elemCount => do
          elemHandler listItem
          pure ((elemCount + 1) % 2 ^ 32)) 0 >>= fun elemCount => do
        let _ ← draw (.appendText listItem
          (Text.lit " (len = " ++ Text.dec elemCount ++ Text.lit ")"))
        pure ()) s' (guarded (e.members.all ok) ()) := by
    intro listItem s' h'
    have hcounts : BodyUnless may bad data ip e.type e.members (fun elemCount => do
        elemHandler listItem
        pure ((elemCount + 1) % 2 ^ 32)) ok (fun elemCount _ => (elemCount + 1) % 2 ^ 32)
        fun _ => reached := fun elemCount m hm rest s hrest hs =>
      (hbody listItem m hm rest s hrest hs).returning ((elemCount + 1) % 2 ^ 32)
    have hloop := overMembers_unless h' hcounts
      (fun hmay elemCount => (hgrows hmay listItem).bind fun _ => .pure _) 0
    have hdoes := hloop.bind (g := fun _ => some ()) (fun _ elemCount => (still_draw
      (.appendText listItem (Text.lit " (len = " ++ Text.dec elemCount ++ Text.lit ")"))
      ).grows_retried.bind fun _ => .pure ()) fun elemCount s₁ hbal =>
        .of_ok rfl rfl hbal.focused.balanced
    rw [membersReached_const, guarded_bind, hcontainer, Bool.true_and] at hdoes
    exact hdoes
  have hdoes := (showsTree_addSubTreeItem tree hfindex ett).bind_unless h hmembers
  refine hdoes.congr ?_ rfl rfl
  rw [addListItem, getType, gets_bind, htype, bind_ok (run_verify_true _ _)]
  simp only [overMembers, bind_assoc, pure_bind]

/-- `AddListItem` leaves the list. -/
theorem getType_addListItem {tree : ProtoNode} {hfindex : HeaderField} {ett : Ett}
    {elemHandler : ProtoNode → DissectM Unit}
    (h : (addListItem tree hfindex ett elemHandler).run s = .ok () s') :
    s'.tlv.reader.getType = .notSpecified := by
  rw [addListItem, getType, gets_bind] at h
  obtain ⟨_, s₁, -, h⟩ := bind_eq_ok.1 h
  obtain ⟨listItem, s₂, -, h⟩ := bind_eq_ok.1 h
  obtain ⟨_, s₃, -, h⟩ := bind_eq_ok.1 h
  obtain ⟨elemCount, s₄, -, h⟩ := bind_eq_ok.1 h
  obtain ⟨_, s₅, hexit, h⟩ := bind_eq_ok.1 h
  obtain ⟨_, s₆, hdraw, h⟩ := bind_eq_ok.1 h
  cases h
  rw [((still_draw _).ok hdraw).1]
  exact getType_exitContainer hexit

/-! ## Entries -/

section
variable (env : Env)

theorem addAnyEntry_does (tree : ProtoNode) (hfEntry : HeaderField) {n : Nat}
    (h : OnElem data ip containerType e rest s) (hrest : rest ≠ []) (hn : e.contextNum = some n) :
    Does may crash data (addAnyEntry env tree hfEntry) s (some ()) :=
  addGenericTLVItem_does env.host tree hfEntry h hrest (shown_context h hn)

theorem addEntry_does (tree : ProtoNode) (hfEntry : HeaderField) {n : Nat}
    (h : OnElem data ip containerType e rest s) (hrest : rest ≠ []) (hn : e.contextNum = some n) :
    Does may crash data (addEntry env tree hfEntry) s (some ()) :=
  Does.ite (fun _ => .pure h.focused ()) fun _ => addAnyEntry_does env tree hfEntry h hrest hn

/-- A list must have elements that are `ok`. -/
def listOk (ok : Elem → Bool) (e : Elem) : Bool := !isList e || e.members.all ok

/-- What is reached in the elements of a list. -/
def listReached (reached : Elem → List δ) (e : Elem) : List δ :=
  if isList e = true then e.members.flatMap reached else []

theorem listReached_none : listReached (fun _ => ([] : List δ)) e = [] := by
  unfold listReached
  split
  · simp
  · rfl

/-- An element that is no list is left to what follows. -/
theorem listEntry_other {tree : ProtoNode} {hfindex : HeaderField} {ett : Ett}
    {elemHandler : ProtoNode → DissectM Unit} (h : OnElem data ip containerType e rest s)
    (hlist : isList e = false) :
    (listEntry tree hfindex ett elemHandler).run s = .ok hfindex s := by
  rw [listEntry, getType, gets_bind, if_neg, run_pure]
  rw [h.type_eq, ← isList_iff, hlist]
  decide

theorem listEntry_list {tree : ProtoNode} {hfindex : HeaderField} {ett : Ett}
    {elemHandler : ProtoNode → DissectM Unit} (h : OnElem data ip containerType e rest s)
    (hlist : isList e = true) :
    (listEntry tree hfindex ett elemHandler).run s =
      (addListItem tree hfindex ett elemHandler >>= fun _ => pure .unset).run s := by
  rw [listEntry, getType, gets_bind, if_pos]
  rwa [h.type_eq, ← isList_iff]

/-- A list, or any other element generically. -/
theorem listEntry_unless {elemHandler : ProtoNode → DissectM Unit} {ok : Elem → Bool}
    {reached : Elem → List δ} (tree : ProtoNode) (hfindex : HeaderField) (ett : Ett) {n : Nat}
    (h : OnElem data ip containerType e rest s) (hrest : rest ≠ []) (hn : e.contextNum = some n)
    (hbody : HandlesElems may bad data ip e elemHandler ok reached)
    (hgrows : may → ∀ node, Grows DissectState.retried (elemHandler node)) :
    DoesUnless may bad (listReached reached e) data
      (do addEntry env tree (← listEntry tree hfindex ett elemHandler)) s
      (guarded (listOk ok e) ()) := by
  unfold listOk listReached
  cases hlist : isList e with
  | true =>
    have hlists := (addListItem_unless tree hfindex ett h hlist hbody hgrows).returning ()
    refine hlists.congr ?_ rfl rfl
    rw [run_bind, listEntry_list h hlist, ← run_bind, bind_assoc]
    rfl
  | false =>
    exact Does.unless (Does.bind_run (listEntry_other h hlist) rfl h.focused.balanced
      (addEntry_does env tree hfindex h hrest hn))

/-- A list whose handler reaches nothing. -/
theorem plainList_unless {elemHandler : ProtoNode → DissectM Unit} {ok : Elem → Bool}
    (tree : ProtoNode) (hfindex : HeaderField) (ett : Ett) {n : Nat}
    (h : OnElem data ip containerType e rest s) (hrest : rest ≠ []) (hn : e.contextNum = some n)
    (hbody : ∀ node, ∀ m ∈ e.members, ∀ rest s, rest ≠ [] → OnElem data ip e.type m rest s →
      Does may False data (elemHandler node) s (guarded (ok m) ()))
    (hgrows : may → ∀ node, Grows DissectState.retried (elemHandler node)) :
    DoesUnless may bad [] data (do addEntry env tree (← listEntry tree hfindex ett elemHandler)) s
      (guarded (listOk ok e) ()) := by
  have hbody' : HandlesElems may bad data ip e elemHandler ok fun _ => [] :=
    fun node m hm rest s hrest hs => (hbody node m hm rest s hrest hs.toOnElem).unless
  have hlist := listEntry_unless env tree hfindex ett h hrest hn hbody' hgrows
  rwa [listReached_none] at hlist

/-- The same without the test for the field: a list has been left when it is asked for again. -/
theorem listEntry_any_does {elemHandler : ProtoNode → DissectM Unit} (tree : ProtoNode)
    (hfindex : HeaderField) (ett : Ett) {n : Nat} (h : OnElem data ip containerType e rest s)
    (hrest : rest ≠ []) (hn : e.contextNum = some n) :
    Does may crash data (do addAnyEntry env tree (← listEntry tree hfindex ett elemHandler)) s
      (guarded (!isList e) ()) := by
  cases hlist : isList e with
  | true =>
    intro u s' hrun
    obtain ⟨hfEntry, s₁, hentry, hrun⟩ := bind_eq_ok.1 hrun
    rw [listEntry_list h hlist] at hentry
    obtain ⟨_, s₂, hitem, hpure⟩ := bind_eq_ok.1 hentry
    cases hpure
    exact absurd hrun
      (addGenericTLVItem_needsElement env.host tree .unset false (getType_addListItem hitem))
  | false =>
    exact Does.bind_run (listEntry_other h hlist) rfl h.focused.balanced
      (addAnyEntry_does env tree hfindex h hrest hn)

/-- What a message asks of the member with a tag. -/
def MsgType.memberOk : MsgType → Nat → Elem → Bool
  | readRequest, 0 => listOk (isPath (.noteFirst PathKind.attribute.tags))
  | readRequest, 1 => listOk (isPath (.noteFirst PathKind.event.tags))
  | readRequest, 2 => listOk (isBlockOf fun _ => true)
  | readRequest, 4 => listOk (isBlockOf (contextOk dataVersionFilterOk true))
  | reportData, 1 => listOk isAttributeReport
  | reportData, 2 => listOk (isBlockOf fun m => !isPathLike m)
  | subscribeRequest, 3 => listOk (isPath (.noteFirst PathKind.attribute.tags))
  | subscribeRequest, 4 => listOk (isPath (.noteFirst PathKind.event.tags))
  | subscribeRequest, 5 => listOk (isBlockOf fun _ => true)
  | subscribeRequest, 8 => listOk (isBlockOf (contextOk dataVersionFilterOk true))
  | writeRequest, 2 => fun e => !isList e
  | writeResponse, 0 => fun e => !isList e
  | invokeRequest, 0 => fun e => e.type = .boolean
  | invokeRequest, 1 => fun e => e.type = .boolean
  | invokeRequest, 2 => fun e => e.type = .array && e.members.all isCommandData
  | invokeResponse, 1 => fun e => e.type = .array && e.members.all isInvokeResponse
  | timedRequest, 0 => fun e => typedOk .timedRequestTimeoutMs e.type
  | _, _ => fun _ => true

/-- The byte strings that are decoded in the member with a tag, with the names of their fields. -/
def MsgType.memberBytes : MsgType → Nat → Elem → List (Text × List UInt8)
  | reportData, 1 => listReached (reportBytes env)
  | invokeRequest, 2 => fun e => e.members.flatMap (commandBytes env true)
  | invokeResponse, 1 => fun e => e.members.flatMap (responseBytes env)
  | _, _ => fun _ => []

/-- The handler of a message's members. -/
def MsgType.member : MsgType → ProtoNode → Nat → DissectM Unit
  | statusResponse => statusResponseMember env
  | readRequest => readRequestMember env
  | subscribeRequest => subscribeRequestMember env
  | subscribeResponse => subscribeResponseMember env
  | reportData => reportDataMember env
  | writeRequest => writeRequestMember env
  | writeResponse => writeResponseMember env
  | invokeRequest => commandRequestMember env
  | invokeResponse => commandResponseMember env
  | timedRequest => timedRequestMember env

theorem dissectIMMessage_eq (msgType : MsgType) : ∃ title,
    dissectIMMessage env msgType = dissectMessage title (msgType.member env .messageTree) := by
  cases msgType <;> exact ⟨_, rfl⟩

/-- A list of paths. -/
theorem pathList_unless (kind : PathKind) (tree : ProtoNode) (hfindex : HeaderField) {n : Nat}
    (h : OnElem data ip containerType e rest s) (hrest : rest ≠ []) (hn : e.contextNum = some n) :
    DoesUnless may bad [] data (do
      addEntry env tree (← listEntry tree hfindex .subscribeRequestPathList
        fun tree => addNamedPathItem env tree kind)) s
      (guarded (listOk (isPath (.noteFirst kind.tags)) e) ()) :=
  plainList_unless env tree hfindex _ h hrest hn
    (fun node _ _ _ _ _ hs => addNamedPathItem_does env node kind hs)
    fun _ node => (handles_addNamedPathItem env node kind : Handles True _).retried

theorem eventFilters_unless (tree : ProtoNode) (hfindex : HeaderField) {n : Nat}
    (h : OnElem data ip containerType e rest s) (hrest : rest ≠ []) (hn : e.contextNum = some n) :
    DoesUnless may bad [] data (do addEntry env tree (← listEntry tree hfindex .dataElem
      (addEventFilterIBItem env))) s (guarded (listOk (isBlockOf fun _ => true) e) ()) :=
  plainList_unless env tree hfindex _ h hrest hn
    (fun node _ _ _ _ _ hs => addEventFilterIBItem_does env node hs)
    fun _ node => (handles_addEventFilterIBItem env node : Handles True _).retried

theorem dataVersionFilters_unless (tree : ProtoNode) (hfindex : HeaderField) {n : Nat}
    (h : OnElem data ip containerType e rest s) (hrest : rest ≠ []) (hn : e.contextNum = some n) :
    DoesUnless True bad [] data (do addEntry env tree (← listEntry tree hfindex .dataElem
      (addDataVersionFilterIBItem env))) s
      (guarded (listOk (isBlockOf (contextOk dataVersionFilterOk true)) e) ()) :=
  plainList_unless env tree hfindex _ h hrest hn
    (fun node _ _ _ _ _ hs => addDataVersionFilterIBItem_does env node hs)
    fun _ node => (handles_addDataVersionFilterIBItem env node).retried

/-- Event reports must not hold a list or a structure. -/
theorem eventReports_unless (tree : ProtoNode) {n : Nat}
    (h : OnElem data ip containerType e rest s) (hrest : rest ≠ []) (hn : e.contextNum = some n) :
    DoesUnless False bad [] data (do
      addEntry env tree (← listEntry tree .reportDataEventReports .dataElem
        (addEventReportIBItem env))) s
      (guarded (listOk (isBlockOf fun m => !isPathLike m) e) ()) :=
  plainList_unless env tree _ _ h hrest hn
    (fun node _ _ _ _ _ hs => addEventReportIBItem_does env node False.elim hs) False.elim

/-- What follows the test for a type. -/
theorem addOfType_unless {type : TLVType} {x : DissectM Unit} {ok : Bool} {reached : List δ}
    (h : OnElem data ip containerType e rest s)
    (hx : e.type = type → DoesUnless may bad reached data x s (guarded ok ())) :
    DoesUnless may bad reached data (addOfType type x) s (guarded (e.type = type && ok) ()) := by
  have hverified : DoesUnless may bad reached data
      (verify (s.tlv.reader.getType = type) .unexpectedTLVElement >>= fun _ => x) s
      (guarded (e.type = type && ok) ()) := type_verified_unless h hx
  refine hverified.congr ?_ rfl rfl
  rw [addOfType, getType, gets_bind]

/-- A flag that must be a boolean. -/
theorem flag_unless (tree : ProtoNode) (hfindex : HeaderField)
    (h : OnElem data ip containerType e rest s) (hrest : rest ≠ []) :
    DoesUnless may bad [] data (addOfType .boolean (addTypedItem tree hfindex)) s
      (guarded (e.type = .boolean) ()) := by
  have hitem : Does may False data (addTypedItem tree hfindex) s _ :=
    addTypedItem_does tree hfindex h hrest
  rw [← Bool.and_true (decide (e.type = .boolean))]
  refine addOfType_unless h fun htype => ?_
  rw [htype] at hitem
  exact hitem.unless

/-- A list that must be an array. -/
theorem array_unless {elemHandler : ProtoNode → DissectM Unit} {ok : Elem → Bool}
    {reached : Elem → List δ} (tree : ProtoNode) (hfindex : HeaderField) (ett : Ett)
    (h : OnElem data ip containerType e rest s)
    (hbody : HandlesElems may bad data ip e elemHandler ok reached)
    (hgrows : may → ∀ node, Grows DissectState.retried (elemHandler node)) :
    DoesUnless may bad (e.members.flatMap reached) data
      (addOfType .array (addListItem tree hfindex ett elemHandler)) s
      (guarded (e.type = .array && e.members.all ok) ()) :=
  addOfType_unless h fun htype =>
    addListItem_unless tree hfindex ett h (isList_iff.2 (.inl htype)) hbody hgrows

section
variable {n : Nat} (tree : ProtoNode) (h : OnElem data ip containerType e rest s)
  (hrest : rest ≠ []) (hn : e.contextNum = some n)

include h hrest hn

/-- A member that has a field of its own. -/
theorem fieldEntry_unless (hfEntry : HeaderField) :
    DoesUnless may bad [] data (do addEntry env tree (← pure hfEntry)) s (guarded true ()) := by
  rw [pure_bind]
  exact Does.unless (addEntry_does env tree hfEntry h hrest hn)

theorem fieldEntry_any_unless (hfEntry : HeaderField) :
    DoesUnless may bad [] data (do addAnyEntry env tree (← pure hfEntry)) s
      (guarded true ()) := by
  rw [pure_bind]
  exact Does.unless (addAnyEntry_does env tree hfEntry h hrest hn)

theorem readRequestMember_unless : DoesUnless True bad [] data (readRequestMember env tree n) s
    (guarded (MsgType.readRequest.memberOk n e) ()) := by
  have hentry : ∀ hfEntry, DoesUnless True bad [] data (do addEntry env tree (← pure hfEntry)) s
      (guarded true ()) := fieldEntry_unless env tree h hrest hn
  match n with
  | 0 => exact pathList_unless env .attribute tree _ h hrest hn
  | 1 => exact pathList_unless env .event tree _ h hrest hn
  | 2 => exact eventFilters_unless env tree _ h hrest hn
  | 3 => exact hentry _
  | 4 => exact dataVersionFilters_unless env tree _ h hrest hn
  | n + 5 => exact hentry _

theorem subscribeRequestMember_unless :
    DoesUnless True bad [] data (subscribeRequestMember env tree n) s
      (guarded (MsgType.subscribeRequest.memberOk n e) ()) := by
  have hentry : ∀ hfEntry, DoesUnless True bad [] data (do addEntry env tree (← pure hfEntry)) s
      (guarded true ()) := fieldEntry_unless env tree h hrest hn
  match n with
  | 0 | 1 | 2 | 6 | 7 => exact hentry _
  | 3 => exact pathList_unless env .attribute tree _ h hrest hn
  | 4 => exact pathList_unless env .event tree _ h hrest hn
  | 5 => exact eventFilters_unless env tree _ h hrest hn
  | 8 => exact dataVersionFilters_unless env tree _ h hrest hn
  | n + 9 => exact hentry _

theorem reportDataMember_unless :
    DoesUnless True (Crashing env) (MsgType.reportData.memberBytes env n e) data
      (reportDataMember env tree n) s (guarded (MsgType.reportData.memberOk n e) ()) := by
  have hentry : ∀ hfEntry, DoesUnless True (Crashing env) [] data
      (do addEntry env tree (← pure hfEntry)) s (guarded true ()) :=
    fieldEntry_unless env tree h hrest hn
  match n with
  | 0 | 3 | 4 => exact hentry _
  | 1 =>
    exact listEntry_unless env tree _ _ h hrest hn
      (fun node _ _ _ _ _ hs => addAttributeReportIBItem_unless env node hs.toOnElem)
      fun _ node => (handles_addAttributeReportIBItem env node).retried
  | 2 => exact (eventReports_unless env tree h hrest hn).mono False.elim
  | n + 5 => exact hentry _

theorem writeRequestMember_unless : DoesUnless True bad [] data (writeRequestMember env tree n) s
    (guarded (MsgType.writeRequest.memberOk n e) ()) := by
  have hentry : ∀ hfEntry, DoesUnless True bad [] data (do addAnyEntry env tree (← pure hfEntry)) s
      (guarded true ()) := fieldEntry_any_unless env tree h hrest hn
  match n with
  | 0 | 1 | 3 => exact hentry _
  | 2 => exact Does.unless (listEntry_any_does env tree _ _ h hrest hn)
  | n + 4 => exact hentry _

theorem writeResponseMember_unless : DoesUnless True bad [] data (writeResponseMember env tree n) s
    (guarded (MsgType.writeResponse.memberOk n e) ()) := by
  match n with
  | 0 => exact Does.unless (listEntry_any_does env tree _ _ h hrest hn)
  | n + 1 => exact fieldEntry_any_unless env tree h hrest hn _

theorem commandRequestMember_unless :
    DoesUnless True (Crashing env) (MsgType.invokeRequest.memberBytes env n e) data
      (commandRequestMember env tree n) s (guarded (MsgType.invokeRequest.memberOk n e) ()) := by
  match n with
  | 0 | 1 => exact flag_unless tree _ h hrest
  | 2 =>
    exact array_unless tree _ _ h
      (fun node _ _ _ _ _ hs => addCommandDataIB_unless env true node hs.toOnElem)
      fun _ node => (handles_addCommandDataIB env node true true : Handles True _).retried
  | n + 3 => exact Does.unless (addAnyEntry_does env tree _ h hrest hn)

theorem commandResponseMember_unless :
    DoesUnless True (Crashing env) (MsgType.invokeResponse.memberBytes env n e) data
      (commandResponseMember env tree n) s (guarded (MsgType.invokeResponse.memberOk n e) ()) := by
  match n with
  | 0 => exact Does.unless (addEntry_does env tree _ h hrest hn)
  | 1 =>
    exact array_unless tree _ _ h
      (fun node _ _ _ _ _ hs => addInvokeResponseIB_unless env node hs.toOnElem)
      fun _ node => (handles_addInvokeResponseIB env node : Handles True _).retried
  | n + 2 => exact Does.unless (addEntry_does env tree _ h hrest hn)

theorem timedRequestMember_unless : DoesUnless True bad [] data (timedRequestMember env tree n) s
    (guarded (MsgType.timedRequest.memberOk n e) ()) := by
  match n with
  | 0 => exact Does.unless (addTypedItem_does tree _ h hrest)
  | n + 1 => exact Does.unless (addAnyEntry_does env tree _ h hrest hn)

/-- The handlers of members under context tags. -/
theorem member_unless (msgType : MsgType) :
    DoesUnless True (Crashing env) (msgType.memberBytes env n e) data (msgType.member env tree n) s
      (guarded (msgType.memberOk n e) ()) := by
  cases msgType with
  | statusResponse => exact Does.unless (addEntry_does env tree _ h hrest hn)
  | readRequest => exact readRequestMember_unless env tree h hrest hn
  | subscribeRequest => exact subscribeRequestMember_unless env tree h hrest hn
  | subscribeResponse => exact Does.unless (addEntry_does env tree _ h hrest hn)
  | reportData => exact reportDataMember_unless env tree h hrest hn
  | writeRequest => exact writeRequestMember_unless env tree h hrest hn
  | writeResponse => exact writeResponseMember_unless env tree h hrest hn
  | invokeRequest => exact commandRequestMember_unless env tree h hrest hn
  | invokeResponse => exact commandResponseMember_unless env tree h hrest hn
  | timedRequest => exact timedRequestMember_unless env tree h hrest hn

end

/-! ## What goes on after a retry -/

/-- `x` leaves no container that it has not entered, and counts its retries. -/
structure Rises {α : Type} (x : DissectM α) : Prop where
  retried : Grows DissectState.retried x
  depth : Grows DissectState.depth x

theorem Rises.of_handles {α : Type} {x : DissectM α} (h : Handles may x) : Rises x :=
  ⟨h.retried, h.depth⟩

theorem Rises.of_still {α : Type} {x : DissectM α} (h : Still x) : Rises x :=
  ⟨h.grows_retried, h.grows_depth⟩

theorem Rises.bind {α β : Type} {x : DissectM α} {k : α → DissectM β} (hx : Rises x)
    (hk : ∀ a, Rises (k a)) : Rises (x >>= k) :=
  ⟨hx.retried.bind fun a => (hk a).retried, hx.depth.bind fun a => (hk a).depth⟩

theorem Rises.map {α β : Type} {x : DissectM α} (hx : Rises x) (f : α → β) : Rises (f <$> x) := by
  rw [← bind_pure_comp]
  exact hx.bind fun _ => .of_still (Leaves.pure _)

theorem Rises.ite {α : Type} {c : Prop} [Decidable c] {x y : DissectM α} (hx : Rises x)
    (hy : Rises y) : Rises (if c then x else y) :=
  ⟨.ite hx.retried hy.retried, .ite hx.depth hy.depth⟩

theorem Rises.container {α β : Type} {body : β → DissectM β} {b₀ : β} {k : β → DissectM α}
    (hbody : ∀ b, Rises (body b)) (hk : ∀ b, Rises (k b)) :
    Rises (do
      enterContainer
      let b ← forMembers body b₀
      exitContainer
      k b) :=
  ⟨grows_retried_container (fun b => (hbody b).retried) fun b => (hk b).retried,
    grows_depth_container (fun b => (hbody b).depth) fun b => (hk b).depth⟩

theorem rises_decodeOr {α : Type} {decode fallback : DissectM α} (hdecode : Rises decode)
    (hfallback : Rises fallback) : Rises (decodeOr decode fallback) :=
  ⟨grows_decodeOr grows_retried_noteRetry hdecode.retried hfallback.retried,
    grows_decodeOr grows_depth_noteRetry hdecode.depth hfallback.depth⟩

theorem rises_addListItem (tree : ProtoNode) (hfindex : HeaderField) (ett : Ett)
    {elemHandler : ProtoNode → DissectM Unit} (h : ∀ node, Rises (elemHandler node)) :
    Rises (addListItem tree hfindex ett elemHandler) := by
  refine Rises.bind (.of_still still_getType) fun type => ?_
  refine Rises.bind (.of_still (Leaves.verify _ _)) fun _ => ?_
  refine Rises.bind (.of_still (still_addSubTreeItem _ _ _)) fun listItem => ?_
  refine Rises.container (fun elemCount => ?_) fun elemCount => ?_
  · exact (h listItem).bind fun _ => .of_still (Leaves.pure _)
  · exact Rises.bind (.of_still (still_draw _)) fun _ => .of_still (Leaves.pure _)

theorem rises_lookAheadEventPath : Rises lookAheadEventPath := by
  constructor
  · refine Grows.bind (grows_retried_onTlv _).attempt fun res => ?_
    cases res with
    | error err => exact .pure _
    | ok u =>
      refine (grows_scanMembers (grows_retried_onTlv _)
        (fun found => (still_eventPathMember found).grows_retried) _).bind fun res => ?_
      dsimp only
      exact .ite ((grows_retried_onTlv _).attempt.bind fun _ => .pure _) (.pure _)
  · refine grows_depth_lookAhead (k := fun res => do
      let _ ← if res.2 = .endOfTLV then attempt exitContainer else pure (.ok ())
      pure (res.1.2.map fun eventId => (res.1.1, eventId))) still_eventPathMember
      (fun res s a s' h => ?_) fun res => ?_
    · dsimp only at h
      split at h
      · obtain ⟨left, s₁, hexit, hpure⟩ := bind_eq_ok.1 h
        cases hpure
        exact depth_attempt_exitContainer hexit
      · cases h
        exact Nat.le_succ _
    · dsimp only
      exact .ite ((NeverFails.attempt _).bind fun _ => .pure _) (.pure _)

theorem rises_addEventReportIBItem (tree : ProtoNode) : Rises (addEventReportIBItem env tree) := by
  have hgeneric : ∀ node hfindex, Rises (addGenericTLVItem env.host node hfindex false) :=
    fun node hfindex => .of_handles (handles_addGenericTLVItem env.host node hfindex false :
      Handles False _)
  have hdata : ∀ itemTree tag type eventPath,
      Rises (addNamedStructData env itemTree .event tag type eventPath) := by
    intro itemTree tag type eventPath
    unfold addNamedStructData
    split
    · refine Rises.bind (.of_still (still_addSubTreeItem _ _ _)) fun eventDataTree => ?_
      exact .of_handles (handles_overMembers (fun _ => handles_addFieldBy env _ _) () :
        Handles False _)
    · exact hgeneric _ _
  refine Rises.bind (.of_still still_getType) fun type => ?_
  refine Rises.bind (.of_still (Leaves.verify _ _)) fun _ => ?_
  refine Rises.bind (.of_still (still_addSubTreeItem _ _ _)) fun itemTree => ?_
  have hpath : ∀ tag type eventPath, Rises (do
      decodeOr (addNamedPathItem env itemTree .event)
        (addNamedStructData env itemTree .event tag type eventPath)
      pure eventPath) := by
    intro tag type eventPath
    refine (rises_decodeOr ?_ (hdata _ _ _ _)).bind fun _ => .of_still (Leaves.pure _)
    exact .of_handles (handles_addNamedPathItem env itemTree .event : Handles False _)
  have hmember : ∀ eventPath, Rises (namedStructMember env itemTree .event eventPath) := by
    intro eventPath
    refine Rises.bind (.of_still still_getTag) fun tag => ?_
    refine Rises.bind (.of_still still_getType) fun type => .ite ?_ ?_
    · exact Rises.bind (rises_lookAheadEventPath.map _) fun eventPath => hpath _ _ eventPath
    · exact (hdata _ _ _ _).bind fun _ => .of_still (Leaves.pure _)
  have hmembers : Rises (overMembers (namedStructMember env itemTree .event) none) :=
    .container hmember fun _ => .of_still (Leaves.pure _)
  exact hmembers.bind fun _ => .of_still (Leaves.pure _)

theorem handles_listEntry (tree : ProtoNode) (hfindex : HeaderField) (ett : Ett)
    {elemHandler : ProtoNode → DissectM Unit} (h : ∀ node, Handles may (elemHandler node)) :
    Handles may (listEntry tree hfindex ett elemHandler) :=
  Handles.bind still_getType.handles fun _ =>
    .ite ((handles_addListItem tree hfindex ett h).bind fun _ => .pure _) (.pure _)

theorem handles_addAnyEntry (tree : ProtoNode) (hfEntry : HeaderField) :
    Handles may (addAnyEntry env tree hfEntry) := handles_addGenericTLVItem _ _ _ _

theorem handles_addEntry (tree : ProtoNode) (hfEntry : HeaderField) :
    Handles may (addEntry env tree hfEntry) := .ite (.pure _) (handles_addGenericTLVItem _ _ _ _)

theorem handles_addOfType {type : TLVType} {x : DissectM Unit} (h : Handles may x) :
    Handles may (addOfType type x) :=
  Handles.bind still_getType.handles fun _ => (handles_verify _ _).bind fun _ => h

section
variable (tree : ProtoNode) (n : Nat)

theorem handles_readRequestEntry : Handles True (readRequestEntry env tree n) := by
  unfold readRequestEntry
  split
  · exact handles_listEntry tree _ _ fun node => handles_addNamedPathItem env node _
  · exact handles_listEntry tree _ _ fun node => handles_addNamedPathItem env node _
  · exact handles_listEntry tree _ _ (handles_addEventFilterIBItem env)
  · exact .pure _
  · exact handles_listEntry tree _ _ (handles_addDataVersionFilterIBItem env)
  · exact .pure _

theorem handles_subscribeRequestEntry : Handles True (subscribeRequestEntry env tree n) := by
  unfold subscribeRequestEntry
  split
  · exact .pure _
  · exact .pure _
  · exact .pure _
  · exact handles_listEntry tree _ _ fun node => handles_addNamedPathItem env node _
  · exact handles_listEntry tree _ _ fun node => handles_addNamedPathItem env node _
  · exact handles_listEntry tree _ _ (handles_addEventFilterIBItem env)
  · exact .pure _
  · exact handles_listEntry tree _ _ (handles_addDataVersionFilterIBItem env)
  · exact .pure _

theorem handles_reportDataEntry (hn : n ≠ 2) : Handles True (reportDataEntry env tree n) := by
  unfold reportDataEntry
  split
  · exact .pure _
  · exact handles_listEntry tree _ _ (handles_addAttributeReportIBItem env)
  · exact absurd rfl hn
  · exact .pure _
  · exact .pure _
  · exact .pure _

theorem handles_writeRequestEntry : Handles True (writeRequestEntry env tree n) := by
  unfold writeRequestEntry
  split
  · exact .pure _
  · exact .pure _
  · exact handles_listEntry tree _ _ (handles_addAttributeDataIBItem env)
  · exact .pure _
  · exact .pure _

theorem handles_writeResponseEntry : Handles True (writeResponseEntry env tree n) := by
  unfold writeResponseEntry
  split
  · exact handles_listEntry tree _ _ (handles_addAttributeStatusIBItem env)
  · exact .pure _

theorem handles_commandRequestMember : Handles True (commandRequestMember env tree n) := by
  unfold commandRequestMember
  split
  · exact handles_addOfType (handles_addTypedItem _ _)
  · exact handles_addOfType (handles_addTypedItem _ _)
  · exact handles_addOfType
      (handles_addListItem tree _ _ fun node => handles_addCommandDataIB env node true true)
  · exact handles_addAnyEntry env tree _

theorem handles_commandResponseMember : Handles True (commandResponseMember env tree n) := by
  unfold commandResponseMember
  split
  · exact handles_addEntry env tree _
  · exact handles_addOfType (handles_addListItem tree _ _ (handles_addInvokeResponseIB env))
  · exact handles_addEntry env tree _

theorem handles_timedRequestMember : Handles True (timedRequestMember env tree n) := by
  unfold timedRequestMember
  split
  · exact handles_addTypedItem _ _
  · exact handles_addAnyEntry env tree _

/-- The handlers of all members but that of the event reports. -/
theorem handles_member (msgType : MsgType) (h : ¬ (msgType = .reportData ∧ n = 2)) :
    Handles True (msgType.member env tree n) := by
  cases msgType with
  | statusResponse => exact handles_addEntry env tree _
  | readRequest => exact (handles_readRequestEntry env tree n).bind fun _ => handles_addEntry ..
  | subscribeRequest =>
    exact (handles_subscribeRequestEntry env tree n).bind fun _ => handles_addEntry ..
  | subscribeResponse => exact handles_addEntry env tree _
  | reportData =>
    exact (handles_reportDataEntry env tree n fun hn => h ⟨rfl, hn⟩).bind fun _ =>
      handles_addEntry ..
  | writeRequest =>
    exact (handles_writeRequestEntry env tree n).bind fun _ => handles_addAnyEntry ..
  | writeResponse =>
    exact (handles_writeResponseEntry env tree n).bind fun _ => handles_addAnyEntry ..
  | invokeRequest => exact handles_commandRequestMember env tree n
  | invokeResponse => exact handles_commandResponseMember env tree n
  | timedRequest => exact handles_timedRequestMember env tree n

theorem rises_member (msgType : MsgType) : Rises (msgType.member env tree n) := by
  by_cases h : msgType = .reportData ∧ n = 2
  · obtain ⟨rfl, rfl⟩ := h
    refine Rises.bind ?_ fun hfEntry => .of_handles (handles_addEntry env tree _ : Handles False _)
    refine Rises.bind (.of_still still_getType) fun type => .ite ?_ (.of_still (Leaves.pure _))
    exact (rises_addListItem _ _ _ (rises_addEventReportIBItem env)).bind fun _ =>
      .of_still (Leaves.pure _)
  · exact .of_handles (handles_member env tree n msgType h)

/-- Behind a member that is not what the message asks for the dissector is too deep. -/
theorem member_sinks (msgType : MsgType) (h : OnElem data ip containerType e rest s)
    (hrest : rest ≠ []) (hn : e.contextNum = some n) (hok : msgType.memberOk n e = false)
    (hrun : (msgType.member env tree n).run s = .ok () s') : s.depth < s'.depth := by
  by_cases hevents : msgType = .reportData ∧ n = 2
  · obtain ⟨rfl, rfl⟩ := hevents
    have hlist : DoesUnless False (fun _ : Unit => False) [] data _ s
        (guarded (listOk (isBlockOf fun m => !isPathLike m) e) ()) :=
      eventReports_unless env tree h hrest hn
    rw [show listOk (isBlockOf fun m => !isPathLike m) e = false from hok] at hlist
    exact absurd hrun (hlist.does.none_run () s')
  · have hdoes := (member_unless env tree h hrest hn msgType).does
    rw [hok] at hdoes
    have hretried := (hdoes () s' hrun).2
    rcases (handles_member env tree n msgType hevents).onTrack h.focused hrun with
      ⟨heq, -⟩ | ⟨-, -, hdeep⟩
    · omega
    · exact hdeep

end

/-! ## The loop over the members -/

/-- A round of `forMembers`. -/
theorem loop_sinks {β : Type} {body : β → DissectM β} {ok : Elem → Bool} {g : β → Elem → β}
    {reachedBy : β → Elem → List δ} {d₀ : TLVDissector} (hrises : ∀ b, Rises (body b)) :
    ∀ (es : List Elem) (fuel : Nat) (b : β) {b' : β} {s s' : DissectState},
      BodyUnless may bad data ip containerType es body ok g reachedBy →
      (∀ b, ∀ m ∈ es, ∀ rest s, rest ≠ [] → OnElem data ip containerType m rest s → ok m = false →
        ∀ b' s', (body b).run s = .ok b' s' → s.depth < s'.depth) →
      Before data ip containerType d₀ (encodeMembers es ++ (endOfContainer ++ rest)) s.tlv →
      membersWellFormed ip containerType es = true → es.all ok = false →
      (loop .outOfFuel (memberRounds body) fuel b).run s = .ok b' s' → s.depth < s'.depth
  | [], _, _, _, _, _, _, _, _, _, hall, _ => by cases hall
  | _ :: _, 0, _, _, _, _, _, _, _, _, _, hrun => by cases hrun
  | e :: es, fuel + 1, b, b', s, s', hdoes, hsinks, hbefore, hwf, hall, hrun => by
    rw [encodeMembers_cons, List.append_assoc] at hbefore
    rw [membersWellFormed, Bool.and_eq_true] at hwf
    obtain ⟨d', hd', hinside, hpos⟩ := hbefore.next_elem hwf.1
    have hlen := (next_measured hbefore.ready hwf.1 hd' hpos).2.1
    have hnext : next.run s = .ok () { s with tlv := d' } := onTlv_eq_ok.2 ⟨d', hd', rfl⟩
    have hdepth : DissectState.depth { s with tlv := d' } = s.depth :=
      congrArg (fun p => p.1.length) (next_depth.ok hnext)
    have helem : OnSized data ip containerType e _ { s with tlv := d' } := ⟨⟨hpos, hwf.1⟩, hlen⟩
    have hrest : encodeMembers es ++ (endOfContainer ++ rest) ≠ [] := by simp [endOfContainer]
    rw [loop_succ, bind_eq_ok] at hrun
    obtain ⟨res, s₁, hround, hagain⟩ := hrun
    rw [memberRounds, bind_ok (attempt_ok hnext)] at hround
    obtain ⟨b₁, s₂, hbody, hinl⟩ := bind_eq_ok.1 hround
    cases hinl
    have hgrows : ∀ b, Grows DissectState.depth (memberRounds body b) := fun b =>
      grows_next_depth.attempt.bind (grows_memberRound (fun b => (hrises b).depth) b)
    have hlater := (Grows.loop hgrows fuel b₁).ok hagain
    cases hok : ok e with
    | false =>
      have hdeep := hsinks b e (.head _) _ _ hrest helem.toOnElem hok _ _ hbody
      omega
    | true =>
      rw [List.all_cons, hok, Bool.true_and] at hall
      have hmember := (hdoes b e (.head _) _ _ hrest helem).does
      rw [hok, guarded_true] at hmember
      rcases hmember with ⟨s₃, hrun₃, -, hbal⟩ | ⟨-, f, hfault⟩
      · cases hrun₃.symm.trans hbody
        have hsame : s₁.depth = s.depth :=
          (congrArg List.length hbal.containerStack_eq).trans hdepth
        have hbehind : Before data ip containerType d₀ _ s₁.tlv :=
          .behind hinside hpos hwf.1 hbal
        have hdeep := loop_sinks hrises es fuel _ (fun b m hm => hdoes b m (.tail _ hm))
          (fun b m hm => hsinks b m (.tail _ hm)) hbehind hwf.2 hall hagain
        omega
      · cases hfault.symm.trans hbody

/-- Behind a container one of whose members is not `ok` the dissector is too deep. -/
theorem overMembers_sinks {β : Type} {body : β → DissectM β} {ok : Elem → Bool} {g : β → Elem → β}
    {reachedBy : β → Elem → List δ} (h : OnElem data ip containerType e rest s)
    (hdoes : BodyUnless may bad data ip e.type e.members body ok g reachedBy)
    (hsinks : ∀ b, ∀ m ∈ e.members, ∀ rest s, rest ≠ [] → OnElem data ip e.type m rest s →
      ok m = false → ∀ b' s', (body b).run s = .ok b' s' → s.depth < s'.depth)
    (hrises : ∀ b, Rises (body b)) {b b' : β} (hall : e.members.all ok = false)
    (hrun : (overMembers body b).run s = .ok b' s') : s.depth < s'.depth := by
  cases e with
  | prim tag p => cases hall
  | container tag kind members =>
    obtain ⟨d₀, hd₀, hbefore, hwf, -, -⟩ := h.entered
    have henter : enterContainer.run s = .ok () { s with tlv := d₀ } :=
      onTlv_eq_ok.2 ⟨d₀, hd₀, rfl⟩
    rw [overMembers, bind_ok henter] at hrun
    obtain ⟨b₁, s₁, hloop, hrun⟩ := bind_eq_ok.1 hrun
    obtain ⟨_, s₂, hexit, hpure⟩ := bind_eq_ok.1 hrun
    cases hpure
    have hdepth := (depth_enterContainer henter).1
    rw [forMembers, run_whileLoop] at hloop
    have hbody : BodyUnless may bad data ip kind.type members body ok g reachedBy := hdoes
    have hdeep := loop_sinks hrises members _ b hbody hsinks hbefore hwf hall hloop
    have hleft := (depth_exitContainer hexit).1
    omega

end

/-! ## Messages -/

section
variable (env : Env)

/-- The structure of a message. -/
def message (members : List Elem) : Elem := .container .anonymous .struct members

/-- All members are visited, in their order, and the dissector has left the structure. -/
def VisitsAll (msgType : MsgType) (members : List Elem) : Prop :=
  ∃ s, dissectIM env msgType (message members).encode =
      .ok (members.filterMap Elem.contextNum) s ∧ s.tlv.containerStack = []

/-- The byte strings of a message that are decoded. -/
def MsgType.decodedBytes (msgType : MsgType) (members : List Elem) : List (Text × List UInt8) :=
  members.flatMap fun e =>
    (e.contextNum.map fun n => msgType.memberBytes env n e).getD []

theorem messageMember_unless (msgType : MsgType) (visited : List Nat)
    (h : OnElem data ip containerType e rest s) (hrest : rest ≠ []) :
    DoesUnless True (Crashing env)
      ((e.contextNum.map fun n => msgType.memberBytes env n e).getD []) data
      (messageMember (msgType.member env .messageTree) visited) s
      (guarded (contextOk msgType.memberOk false e) (visited ++ e.contextNum.toList)) := by
  refine contextOk_verified_unless (k := fun n => do
    msgType.member env .messageTree n
    pure (visited ++ [n])) h fun n hn => ?_
  rw [hn]
  exact (member_unless env .messageTree h hrest hn msgType).returning (visited ++ [n])

theorem foldl_visited (members : List Elem) : ∀ visited : List Nat,
    members.foldl (fun visited e => visited ++ e.contextNum.toList) visited =
      visited ++ members.filterMap Elem.contextNum := by
  induction members with
  | nil => simp
  | cons e es ih =>
    intro visited
    rw [List.foldl_cons, ih, List.filterMap_cons]
    cases e.contextNum <;> simp

/-- A message is dissected from the first element on. -/
theorem dissectIM_run (msgType : MsgType) {members : List Elem}
    (hwf : (message members).wellFormed profileIdNotSpecified .notSpecified = true)
    (hlen : (message members).encode.length < 2 ^ 32) :
    ∃ s, OnElem (message members).encode profileIdNotSpecified .notSpecified
        (message members) [] s ∧
      s.tlv.containerStack = [] ∧
      dissectIM env msgType (message members).encode =
        (overMembers (messageMember (msgType.member env .messageTree)) []).run s := by
  obtain ⟨s, hnext, hs⟩ := onElem_first hwf (List.append_nil _).symm hlen
  obtain ⟨d, hd, rfl⟩ := onTlv_eq_ok.1 hnext
  have hexpected : (TLVDissector.nextExpecting .struct anonymousTag).run
      (TLVDissector.init (message members).encode (message members).encode.length 0) =
        .ok () d := by
    obtain ⟨t, r, c, hskip, hread, hcopy, rfl⟩ := nextBy_eq_ok.1 hd
    refine nextBy_eq_ok.2 ⟨t, r, c, hskip, ?_, hcopy, rfl⟩
    have htype : r.getType = .struct := hs.type_eq
    have htag : r.elemTag = anonymousTag := hs.tag_eq
    rw [TLVReader.nextExpecting, bind_ok hread, get_bind, htype, htag]
    rfl
  obtain ⟨title, htitle⟩ := dissectIMMessage_eq env msgType
  obtain ⟨u, s₀, hdraw⟩ : ∃ u s₀, (draw (.appendText .messageParent (Text.lit title))).run
      (.start (.init (message members).encode (message members).encode.length 0)) = .ok u s₀ :=
    ⟨_, _, rfl⟩
  have htlv := ((still_draw _).ok hdraw).1
  have hfirst : (onTlv (TLVDissector.nextExpecting .struct anonymousTag)).run s₀ =
      .ok () { s₀ with tlv := d } := onTlv_eq_ok.2 ⟨d, htlv ▸ hexpected, rfl⟩
  refine ⟨{ s₀ with tlv := d }, hs.congr rfl, leaves_next.ok hd, ?_⟩
  rw [dissectIM, htitle, dissectMessage, bind_ok hdraw, bind_ok hfirst]

theorem rises_messageMember (msgType : MsgType) (visited : List Nat) :
    Rises (messageMember (msgType.member env .messageTree) visited) :=
  Rises.bind (.of_still still_getTag) fun _ => Rises.bind (.of_still (Leaves.verify _ _)) fun _ =>
    (rises_member env .messageTree _ msgType).bind fun _ => .of_still (Leaves.pure _)

theorem messageMember_sinks (msgType : MsgType) {visited visited' : List Nat}
    (h : OnElem data ip containerType e rest s) (hrest : rest ≠ [])
    (hok : contextOk msgType.memberOk false e = false)
    (hrun : (messageMember (msgType.member env .messageTree) visited).run s = .ok visited' s') :
    s.depth < s'.depth := by
  rw [messageMember, getTag, gets_bind] at hrun
  unfold contextOk at hok
  cases hn : e.contextNum with
  | none =>
    rw [contextNum_none h hn, bind_err (run_verify_false _ _)] at hrun
    cases hrun
  | some n =>
    obtain ⟨htag, hnum⟩ := contextNum_some h hn
    rw [htag, bind_ok (run_verify_true _ _), hnum] at hrun
    rw [hn] at hok
    obtain ⟨_, s₁, hmember, hpure⟩ := bind_eq_ok.1 hrun
    cases hpure
    exact member_sinks env .messageTree n msgType h hrest hn hok hmember

section
variable (msgType : MsgType) {members : List Elem}
  (hwf : (message members).wellFormed profileIdNotSpecified .notSpecified = true)
  (hlen : (message members).encode.length < 2 ^ 32)

include hwf hlen

/-- What the loop over the members of a message does. -/
theorem message_body : ∃ s, OnElem (message members).encode profileIdNotSpecified .notSpecified
      (message members) [] s ∧ s.tlv.containerStack = [] ∧
    dissectIM env msgType (message members).encode =
      (overMembers (messageMember (msgType.member env .messageTree)) []).run s ∧
    BodyUnless True (Crashing env) (message members).encode profileIdNotSpecified .struct members
      (messageMember (msgType.member env .messageTree)) (contextOk msgType.memberOk false)
      (fun visited e => visited ++ e.contextNum.toList)
      fun _ e => (e.contextNum.map fun n => msgType.memberBytes env n e).getD [] := by
  obtain ⟨s, hs, hstack, hrun⟩ := dissectIM_run env msgType hwf hlen
  refine ⟨s, hs, hstack, hrun, fun visited e _ rest s hrest hse => ?_⟩
  exact messageMember_unless env msgType visited hse.toOnElem hrest

/-- With members that are what the message asks for, the dissection comes to its end or crashes. -/
theorem message_unless (hall : members.all (contextOk msgType.memberOk false) = true) :
    ((∃ p ∈ msgType.decodedBytes env members, Crashing env p) →
      ∃ f, dissectIM env msgType (message members).encode = .fault f) ∧
    (VisitsAll env msgType members ∨
      ∃ p ∈ msgType.decodedBytes env members, Crashing env p) := by
  obtain ⟨s, hs, hstack, hrun, hbody⟩ := message_body env msgType hwf hlen
  have hdoes := overMembers_unless hs hbody
    (fun _ visited => (rises_messageMember env msgType visited).retried) []
  rw [membersReached_const, foldl_visited, List.nil_append, message, Elem.members, hall,
    Elem.isContainer, Bool.and_self, guarded_true] at hdoes
  refine ⟨fun hcrash => ?_, hdoes.does.imp (fun hok => ?_) And.left⟩
  · obtain ⟨f, hfault⟩ := hdoes.faults rfl hcrash
    exact ⟨f, hrun.trans hfault⟩
  · obtain ⟨s', hok, -, hbal⟩ := hok
    exact ⟨s', hrun.trans hok, hbal.containerStack_eq.trans hstack⟩

theorem all_of_visitsAll (h : VisitsAll env msgType members) :
    members.all (contextOk msgType.memberOk false) = true := by
  obtain ⟨s, hs, hstack, hrun, hbody⟩ := message_body env msgType hwf hlen
  obtain ⟨s', hok, hleft⟩ := h
  by_contra hall
  rw [Bool.not_eq_true] at hall
  have hdeep := overMembers_sinks hs hbody (fun visited m _ rest s hrest hm hfalse visited' s' =>
    messageMember_sinks env msgType hm hrest hfalse) (rises_messageMember env msgType) hall
      (hrun.symm.trans hok)
  rw [DissectState.depth, DissectState.depth, hstack, hleft] at hdeep
  exact absurd hdeep (lt_irrefl _)

/-- A message is dissected to its end exactly if its members are what it asks for and none of the
byte strings that it hands to a decoder crashes it. -/
theorem visitsAll_iff : VisitsAll env msgType members ↔
    members.all (contextOk msgType.memberOk false) = true ∧
      ∀ p ∈ msgType.decodedBytes env members, crashes env p.1 p.2 = false := by
  constructor
  · intro h
    have hall := all_of_visitsAll env msgType hwf hlen h
    refine ⟨hall, fun p hp => ?_⟩
    rw [← Bool.not_eq_true]
    intro hcrash
    obtain ⟨f, hfault⟩ := (message_unless env msgType hwf hlen hall).1 ⟨p, hp, hcrash⟩
    obtain ⟨s, hok, -⟩ := h
    cases hok.symm.trans hfault
  · rintro ⟨hall, hspared⟩
    rcases (message_unless env msgType hwf hlen hall).2 with hvisits | ⟨p, hp, hcrash⟩
    · exact hvisits
    · exact absurd ((hspared p hp).symm.trans hcrash) (by decide)

end

end

end

/-! ## Messages that are cut short -/

/-- A request to write `true` to an attribute. -/
def writeTrue : List Elem :=
  [.container (.context 2) .array
    [.container .anonymous .struct
      [.container (.context 1) .path [.prim (.context 4) (.uint .one 0)],
        .prim (.context 2) (.bool true)]]]

/-- A request to read all attributes. -/
def readAnyAttribute : List Elem :=
  [.container (.context 0) .array [.container .anonymous .path []]]

/-- Neither is dissected to its end. -/
theorem not_visitsAll_writeTrue :
    (message writeTrue).wellFormed profileIdNotSpecified .notSpecified = true ∧
    (message readAnyAttribute).wellFormed profileIdNotSpecified .notSpecified = true ∧
    ¬ VisitsAll plainEnv .writeRequest writeTrue ∧
    ¬ VisitsAll plainEnv .readRequest readAnyAttribute := by
  refine ⟨by decide, by decide, ?_, ?_⟩
  · rintro ⟨s, hrun, -⟩
    cases hrun
  · rintro ⟨s, hrun, -⟩
    cases hrun

theorem visitsAll_iff_writeTrue :
    VisitsAll plainEnv .writeRequest writeTrue ↔
      writeTrue.all (contextOk MsgType.writeRequest.memberOk false) = true ∧
        ∀ p ∈ MsgType.writeRequest.decodedBytes plainEnv writeTrue,
          crashes plainEnv p.1 p.2 = false :=
  visitsAll_iff plainEnv .writeRequest (by decide) (by decide)

end Matter.IM
