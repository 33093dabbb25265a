import MatterDissector.IM.Proof.Success
import MatterDissector.IM.Proof.Decodes

/-!
# The look-aheads

`DetectAttributeIBKind` and the loop of `AddNamedStructItem` that looks for the path of an event
enter the element and leave it again, which puts the dissector behind it. So the first leaves
everything but structures as they are, the second no element, and an event report is decoded
exactly if it has nothing to look into (`lookAheads_stay_iff`).
-/

namespace Matter.IM

open Prog TLV Display TLV.Dissect
open TLVReader (InBounds)

section
variable {α β : Type} {data rest : List UInt8} {ip : Nat} {containerType : TLVType} {e : Elem}
  {s s' : DissectState} {may crash : Prop}

/-! ## Scanning members -/

/-- A loop that ends with any error, over members without one. -/
theorem roundDoes_scanRound {es : List Elem} {body : β → DissectM β} {f : β → Elem → β}
    (h : BodyDoes False False data ip containerType es body fun b e => some (f b e)) :
    RoundDoes False False data ip containerType es (scanRound body) body
      (fun b e => some (f b e)) fun b => (b, .endOfTLV) where
  member b e he {rest s s₁} hrest hnext hs := by
    have hdoes := h b e he rest s₁ hrest hs
    obtain ⟨s', hrun, -⟩ := hdoes.some_run
    refine ⟨?_, hdoes⟩
    have hround : (do next; body b : DissectM β).run s = .ok (f b e) s' :=
      (bind_ok hnext).trans hrun
    rw [scanRound, bind_ok (attempt_ok hround), map_ok hrun]
    rfl
  ending b {s s'} hnext := by
    have hround : (do next; body b : DissectM β).run s = .err .endOfTLV s' := bind_err hnext
    rw [scanRound, bind_ok (attempt_err hround)]
    rfl
  grows := False.elim

/-- The scan of a container ends at its end. -/
theorem scanMembers_does {tag : Tag} {kind : ContainerKind} {members : List Elem}
    {body : β → DissectM β} {f : β → Elem → β}
    (h : OnElem data ip containerType (.container tag kind members) rest s)
    (hbody : BodyDoes False False data ip kind.type members body fun b e => some (f b e))
    (b : β) :
    ∃ s₀ s₁, enterContainer.run s = .ok () s₀ ∧
      (scanMembers body b).run s₀ = .ok (members.foldl f b, .endOfTLV) s₁ := by
  obtain ⟨d₀, hd₀, hbefore, hwf, hcontainer, hlen⟩ := h.entered
  have hloop := loop_members hcontainer members _ b { s with tlv := d₀ }
    (roundDoes_scanRound hbody) hbefore hwf (Nat.lt_succ_of_le hlen)
  have hfold : members.foldlM (fun b e => some (f b e)) b = some (members.foldl f b) :=
    List.foldlM_pure
  rw [hfold] at hloop
  obtain ⟨d, s₁, hrun, -⟩ := hloop.resolve_right fun hcrash => hcrash.1
  exact ⟨_, s₁, onTlv_eq_ok.2 ⟨d₀, hd₀, rfl⟩, hrun⟩

/-! ## The path of an event -/

theorem still_eventPathMember (found : Nat × Option Nat) : Still (eventPathMember found) := by
  refine still_bind still_getTag fun tag => still_bind still_getType fun type =>
    still_ite (still_bind (still_onReader leaves_getUInt64) fun v => ?_) (Leaves.pure _)
  split <;> exact Leaves.pure _

/-- What the look-ahead has found after a member of an event path. -/
def noteEvent (found : Nat × Option Nat) (e : Elem) : Nat × Option Nat :=
  (e.number.map fun number =>
    if number.1 = 2 then (number.2 % 2 ^ 32, found.2)
    else if number.1 = 3 then (found.1, some (number.2 % 2 ^ 32))
    else found).getD found

theorem eventPathMember_does (found : Nat × Option Nat)
    (h : OnElem data ip containerType e rest s) :
    Does may crash data (eventPathMember found) s (some (noteEvent found e)) := by
  have hrun : (eventPathMember found).run s = .ok (noteEvent found e) s := by
    rw [eventPathMember, getTag, gets_bind, getType, gets_bind, noteEvent]
    refine (ifNumber_run h).trans ?_
    cases hn : e.number with
    | none => rfl
    | some number =>
      obtain ⟨-, -, htag, -⟩ := number_some h hn
      rw [htag, Option.map_some, Option.map_some, Option.getD_some, Option.getD_some]
      split
      · rename_i heq
        rw [if_pos heq, run_pure]
      · rename_i heq
        rw [heq, if_neg (by decide), if_pos rfl, run_pure]
      · rename_i hcluster hevent
        rw [if_neg hcluster, if_neg hevent, run_pure]
  exact .of_ok hrun rfl h.focused.balanced

/-- The look-ahead for an event ends behind the element that it looks into. -/
theorem lookAheadEventPath_past {tag : Tag} {kind : ContainerKind} {members : List Elem}
    (h : OnElem data ip containerType (.container tag kind members) rest s) :
    ∃ found s', lookAheadEventPath.run s = .ok found s' ∧
      Balanced data s.tlv s'.tlv ∧ s'.tlv.reader.getType = .notSpecified := by
  obtain ⟨s₀, s₁, henter, hscan⟩ :=
    scanMembers_does h (fun found e _ rest' s' _ hs => eventPathMember_does found hs) (0, none)
  obtain ⟨s₂, hexit, -, hbal, hnone⟩ := lookAhead_exit still_eventPathMember h.focused henter hscan
  refine ⟨(members.foldl noteEvent (0, none)).2.map fun eventId =>
    ((members.foldl noteEvent (0, none)).1, eventId), s₂, ?_, hbal, hnone⟩
  rw [lookAheadEventPath, bind_ok (attempt_ok henter)]
  dsimp only
  rw [bind_ok hscan]
  dsimp only
  rw [if_pos rfl, bind_ok (attempt_ok hexit), run_pure]

section
variable (env : Env)

theorem addSubTreeItem_needsElement (tree : ProtoNode) (hfindex : HeaderField) (ett : Ett) :
    NeedsElement (addSubTreeItem tree hfindex ett) := by
  intro s a s' hnone h
  rw [addSubTreeItem, getType, gets_bind, hnone, decide_eq_false (not_not_intro rfl),
    bind_err (run_verify_false _ _)] at h
  cases h

theorem addNamedStructData_needsElement (itemTree : ProtoNode) (kind : PathKind) (tag : Nat)
    (type : TLVType) (eventPath : Option (Nat × Nat)) :
    NeedsElement (addNamedStructData env itemTree kind tag type eventPath) := by
  unfold addNamedStructData
  split
  · exact NeedsElement.bind (addSubTreeItem_needsElement itemTree _ _) _
  · exact addGenericTLVItem_needsElement env.host itemTree _ _

/-- A list or a structure in an event report: the look-ahead has left it, so neither is it decoded
as a path nor shown generically. -/
theorem namedStructMember_event {eventPath : Option (Nat × Nat)} (itemTree : ProtoNode)
    {tag : Tag} {kind : ContainerKind} {members : List Elem} (hkind : kind ≠ .array)
    (h : OnElem data ip containerType (.container tag kind members) rest s) :
    Does may crash data (namedStructMember env itemTree .event eventPath) s none := by
  have htype : s.tlv.reader.getType = .path ∨ s.tlv.reader.getType = .struct := by
    rw [h.type_eq]
    cases kind with
    | struct => exact .inr rfl
    | array => exact absurd rfl hkind
    | path => exact .inl rfl
  obtain ⟨found, s₁, hlook, -, hnone⟩ := lookAheadEventPath_past h
  intro a s' hrun
  exfalso
  rw [namedStructMember, getTag, gets_bind, getType, gets_bind, if_pos htype, if_pos rfl,
    bind_ok (map_ok hlook)] at hrun
  obtain ⟨_, s₂, hdecode, -⟩ := bind_eq_ok.1 hrun
  have hrefused : (addNamedPathItem env itemTree .event).run s₁ = .err .unexpectedTLVElement s₁ :=
    bind_err (readPathIds_other _ (by simp [hnone]))
  rw [decodeOr, getType, gets_bind, bind_ok (attempt_err hrefused)] at hdecode
  obtain ⟨_, s₃, hnote, hfallback⟩ := bind_eq_ok.1 hdecode
  refine addNamedStructData_needsElement env itemTree _ _ _ _ ?_ hfallback
  rw [(noteRetry_eq_ok hnote).1]
  exact hnone

/-- Anything else in an event report is shown generically. -/
theorem namedStructMember_other {eventPath : Option (Nat × Nat)} (itemTree : ProtoNode)
    (htype : ¬ (e.type = .path ∨ e.type = .struct)) (hrest : rest ≠ [])
    (hcontainer : containerType = .struct ∨ containerType = .path)
    (h : OnElem data ip containerType e rest s) :
    Does may crash data (namedStructMember env itemTree .event eventPath) s (some eventPath) := by
  have hgeneric : Does may crash data (addGenericTLVItem env.host itemTree .dataElemPropertyData
      false) s (some ()) :=
    addGenericTLVItem_does env.host itemTree .dataElemPropertyData h hrest (h.shown hcontainer)
  have hdata : addNamedStructData env itemTree .event s.tlv.reader.getTag s.tlv.reader.getType
      eventPath = addGenericTLVItem env.host itemTree .dataElemPropertyData false := by
    rw [addNamedStructData, if_neg]
    rintro ⟨-, -, -, hstruct⟩
    exact htype (.inr (h.type_eq ▸ hstruct))
  have hrun : (namedStructMember env itemTree .event eventPath).run s =
      (addGenericTLVItem env.host itemTree .dataElemPropertyData false >>=
        fun _ => pure eventPath).run s := by
    rw [namedStructMember, getTag, gets_bind, getType, gets_bind, if_neg (by rwa [h.type_eq]),
      hdata]
  exact (hgeneric.bind (g := fun _ => some eventPath) (fun _ _ => .pure _)
    fun _ s₁ _ hbal => .pure hbal.focused eventPath).congr hrun rfl rfl

theorem namedStructMember_does (itemTree : ProtoNode) (es : List Elem) :
    BodyDoes may crash data ip .struct es (namedStructMember env itemTree .event)
      fun eventPath e => guarded (!isPathLike e) eventPath := by
  intro eventPath e _ rest s hrest h
  show Does may crash data _ s (guarded (!isPathLike e) eventPath)
  cases hpath : isPathLike e with
  | true =>
    cases e with
    | prim tag p =>
      rw [isPathLike_iff] at hpath
      exact absurd (hpath.elim (fun h => .inr (.inr h)) .inl) p.type_ne_container
    | container tag kind members =>
      refine namedStructMember_event env itemTree (fun hkind => ?_) h
      subst hkind
      cases hpath
  | false =>
    exact namedStructMember_other env itemTree (by simp [← isPathLike_iff, hpath]) hrest (.inl rfl) h

/-- An event report is decoded if none of its members is a list or a structure. -/
theorem addEventReportIBItem_does (tree : ProtoNode)
    (hgrows : may → ∀ itemTree eventPath, Grows DissectState.retried
      (namedStructMember env itemTree .event eventPath))
    (h : OnElem data ip containerType e rest s) :
    Does may crash data (addEventReportIBItem env tree) s
      (guarded (isBlockOf (fun e => !isPathLike e) e) ()) :=
  structBlock_does_unit (showsTree_addSubTreeItem _ _ _) h
    (fun itemTree => namedStructMember_does env itemTree e.members) hgrows none

/-! ## Both look-aheads -/

/-- `DetectAttributeIBKind` leaves the dissector as it is unless it is on a structure. -/
theorem detectAttributeIBKind_stays_iff (h : OnElem data ip containerType e rest s) :
    (∃ kind s', detectAttributeIBKind.run s = .ok kind s' ∧ s'.tlv = s.tlv) ↔
      e.type ≠ .struct := by
  constructor
  · rintro ⟨kind, s', hrun, hstay⟩ hstruct
    have htype := h.type_eq.trans hstruct
    have hnone := (detectAttributeIBKind_struct h.focused htype hrun).2.2
    rw [hstay, htype] at hnone
    cases hnone
  · intro hne
    refine ⟨.unknown, s, ?_, rfl⟩
    rw [detectAttributeIBKind, getType, gets_bind, if_neg (by rwa [h.type_eq]), run_pure]

theorem not_lookAheadEventPath_stays (h : OnElem data ip containerType e rest s)
    (hpath : isPathLike e = true) :
    ¬ ∃ found s', lookAheadEventPath.run s = .ok found s' ∧ s'.tlv = s.tlv := by
  rintro ⟨found, s', hrun, hstay⟩
  cases e with
  | prim tag p =>
    rw [isPathLike_iff] at hpath
    exact absurd (hpath.elim (fun h => .inr (.inr h)) .inl) p.type_ne_container
  | container tag kind members =>
    obtain ⟨found', s₁, hrun', -, hnone⟩ := lookAheadEventPath_past h
    cases hrun'.symm.trans hrun
    rw [hstay, h.type_eq] at hnone
    cases kind <;> cases hnone

/-- Where the two look-aheads leave the dissector as it was, and where an event report is decoded:
`DetectAttributeIBKind` on elements that are no structure, the look-ahead for an event on no list
or structure, `AddEventReportIBItem` on a structure without a list or structure in it. -/
theorem lookAheads_stay_iff (env : Env) (tree : ProtoNode)
    (h : OnElem data ip containerType e rest s) :
    ((∃ kind s', detectAttributeIBKind.run s = .ok kind s' ∧ s'.tlv = s.tlv) ↔
      e.type ≠ .struct) ∧
    (isPathLike e = true →
      ¬ ∃ found s', lookAheadEventPath.run s = .ok found s' ∧ s'.tlv = s.tlv) ∧
    (e.type = .struct →
      ((∃ s', (addEventReportIBItem env tree).run s = .ok () s' ∧ Contract s s') ↔
        e.members.any isPathLike = false)) := by
  refine ⟨detectAttributeIBKind_stays_iff h, not_lookAheadEventPath_stays h, fun htype => ?_⟩
  have hdoes : Does False False data (addEventReportIBItem env tree) s _ :=
    addEventReportIBItem_does env tree False.elim h
  rw [isBlockOf, decide_eq_true htype, Bool.true_and, ← List.not_any_eq_all_not] at hdoes
  cases hany : e.members.any isPathLike with
  | true =>
    rw [hany] at hdoes
    refine iff_of_false ?_ fun he => by cases he
    rintro ⟨s', hrun, -⟩
    exact hdoes.none_run () s' hrun
  | false =>
    rw [hany] at hdoes
    obtain ⟨s', hrun, -, hbal⟩ := hdoes.some_run
    exact iff_of_true ⟨s', hrun, contract_of_balanced h.focused hbal⟩ rfl

end

end

/-! ## An event report -/

/-- The report of an event: a structure with its path. -/
def eventReport : Elem :=
  .container .anonymous .struct
    [.container (.context 1) .struct
      [.container (.context 0) .path
        [.prim (.context 2) (.uint .one 0x28), .prim (.context 3) (.uint .one 0)]]]

/-- Neither look-ahead leaves it as it is, and it is not decoded. -/
theorem not_lookAheads_stay_eventReport :
    eventReport.wellFormed profileIdNotSpecified .notSpecified = true ∧
    ∃ s, next.run (.start (.init eventReport.encode eventReport.encode.length 0)) = .ok () s ∧
      (∀ kind s', detectAttributeIBKind.run s = .ok kind s' → s'.tlv ≠ s.tlv) ∧
      (∀ found s', lookAheadEventPath.run s = .ok found s' → s'.tlv ≠ s.tlv) ∧
      ∀ s', (addEventReportIBItem plainEnv .messageTree).run s ≠ .ok () s' := by
  refine ⟨by decide, _, rfl, ?_, ?_, ?_⟩
  · intro kind s' hrun
    cases hrun
    exact fun he => absurd (congrArg (fun d => d.reader.readPoint) he) (by decide)
  · intro found s' hrun
    cases hrun
    exact fun he => absurd (congrArg (fun d => d.reader.readPoint) he) (by decide)
  · intro s' hrun
    cases hrun

theorem lookAheads_stay_iff_eventReport :
    ∃ s, next.run (.start (.init eventReport.encode eventReport.encode.length 0)) = .ok () s ∧
      ((∃ kind s', detectAttributeIBKind.run s = .ok kind s' ∧ s'.tlv = s.tlv) ↔
        eventReport.type ≠ .struct) ∧
      (isPathLike eventReport = true →
        ¬ ∃ found s', lookAheadEventPath.run s = .ok found s' ∧ s'.tlv = s.tlv) ∧
      (eventReport.type = .struct →
        ((∃ s', (addEventReportIBItem plainEnv .messageTree).run s = .ok () s' ∧ Contract s s') ↔
          eventReport.members.any isPathLike = false)) := by
  obtain ⟨s, hnext, hs⟩ := onElem_first (by decide) (List.append_nil eventReport.encode).symm
    (by decide)
  exact ⟨s, hnext, lookAheads_stay_iff plainEnv .messageTree hs⟩

end Matter.IM
