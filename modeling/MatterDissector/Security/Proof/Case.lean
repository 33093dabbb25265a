import MatterDissector.Security.Case
import MatterDissector.TLV.Proof.Calls
import MatterDissector.TLV.Proof.Handles

/-!
# The sections of the CASE messages

`placed` lays sections of given lengths side by side, and `LaidOut` says that the sections shown are
such ones. `Shows` is what a program does that ends without an error and shows given sections, and
one rule puts two of them in a row. A section that is a structure is shown with the length of that
structure, and its members show no section (`addSection_cases`).
-/

namespace Matter.Security

open Prog Display TLV TLV.Dissect Message

/-! ## Layouts -/

/-- A section of the message on the screen. -/
structure SectionRange where
  field : HeaderField
  start : Nat
  length : Nat
  deriving DecidableEq, Repr

/-- Sections side by side from `start` on. -/
def placed (start : Nat) : List (HeaderField × Nat) → List SectionRange
  | [] => []
  | (field, length) :: rest => ⟨field, start, length⟩ :: placed (start + length) rest

/-- The bytes of all of them. -/
def span (lengths : List (HeaderField × Nat)) : Nat := (lengths.map Prod.snd).sum

theorem placed_within : ∀ {start : Nat} {lengths : List (HeaderField × Nat)},
    ∀ r ∈ placed start lengths, start ≤ r.start ∧ r.start + r.length ≤ start + span lengths
  | _, [], r, hr => by cases hr
  | start, (field, length) :: rest, r, hr => by
    have hspan : span ((field, length) :: rest) = length + span rest := rfl
    rcases List.mem_cons.1 hr with rfl | hr
    · rw [hspan]
      dsimp only
      omega
    · have := placed_within r hr
      omega

theorem placed_disjoint : ∀ {start : Nat} {lengths : List (HeaderField × Nat)},
    (placed start lengths).Pairwise fun r r' => r.start + r.length ≤ r'.start
  | _, [] => .nil
  | _, (_, _) :: _ => .cons (fun _ hr => (placed_within _ hr).1) placed_disjoint

theorem placed_append (start : Nat) (rest : List (HeaderField × Nat)) :
    ∀ lengths : List (HeaderField × Nat),
      placed start (lengths ++ rest) = placed start lengths ++ placed (start + span lengths) rest
  | [] => rfl
  | (field, length) :: lengths => by
    have hspan : start + span ((field, length) :: lengths) = start + length + span lengths :=
      (Nat.add_assoc _ _ _).symm
    rw [List.cons_append, placed, placed_append (start + length) rest lengths, hspan]
    rfl

/-- The sections shown are the first ones of the message: consecutive, disjoint, inside the
payload and of the right lengths. -/
structure LaidOut (lengths : List (HeaderField × Nat)) (start total : Nat)
    (shown : List SectionRange) : Prop where
  consecutive : shown <+: placed start lengths
  disjoint : shown.Pairwise fun r r' => r.start + r.length ≤ r'.start
  inside : ∀ r ∈ shown, r.start + r.length ≤ total

/-- The first of sections side by side are disjoint and inside. -/
theorem laidOut_iff {lengths : List (HeaderField × Nat)} {start total : Nat}
    {shown : List SectionRange} (htotal : start + span lengths ≤ total) :
    LaidOut lengths start total shown ↔ shown <+: placed start lengths := by
  refine ⟨LaidOut.consecutive, fun h => ⟨h, ?_, fun r hr => ?_⟩⟩
  · exact placed_disjoint.sublist h.sublist
  · have := (placed_within r (h.subset hr)).2
    omega

/-! ## What is shown -/

def sectionOf (fields : List HeaderField) : Drawn → Option SectionRange
  | .add _ hfindex start length _ =>
    if hfindex ∈ fields then some ⟨hfindex, start, length⟩ else none
  | _ => none

/-- The sections in a log: the items of the fields. -/
def sections (fields : List HeaderField) (log : List Drawn) : List SectionRange :=
  log.filterMap (sectionOf fields)

/-- From `s` to `s'` the sections `shown` have been shown, and nothing else has been done. -/
structure Showed (fields : List HeaderField) (s s' : CaseState) (shown : List SectionRange) :
    Prop where
  sections_eq : sections fields s'.log = sections fields s.log ++ shown
  same : s' = { s with log := s'.log }

section
variable {α β : Type} {fields : List HeaderField} {s s' s'' : CaseState}
  {shown shown' : List SectionRange}

theorem Showed.refl (fields : List HeaderField) (s : CaseState) : Showed fields s s [] :=
  ⟨(List.append_nil _).symm, rfl⟩

theorem Showed.trans (h : Showed fields s s' shown) (h' : Showed fields s' s'' shown') :
    Showed fields s s'' (shown ++ shown') := by
  refine ⟨?_, ?_⟩
  · rw [h'.sections_eq, h.sections_eq, List.append_assoc]
  · rw [h'.same, h.same]

theorem Showed.hashed_eq (h : Showed fields s s' shown) : s'.hashed = s.hashed := by rw [h.same]

/-- A log that has grown by other calls. -/
theorem Showed.of_calls {l : List Drawn} (hlog : s'.log = s.log ++ l)
    (hsame : s' = { s with log := s'.log }) :
    Showed fields s s' (l.filterMap (sectionOf fields)) := by
  refine ⟨?_, hsame⟩
  rw [sections, hlog, List.filterMap_append]
  rfl

/-- `x` returns `a` and shows the sections `shown`. -/
def Shows (fields : List HeaderField) (x : CaseM α) (a : α) (shown : List SectionRange) : Prop :=
  ∀ s, ∃ s', x.run s = .ok a s' ∧ Showed fields s s' shown

theorem Shows.pure (a : α) : Shows fields (Pure.pure a : CaseM α) a [] :=
  fun s => ⟨s, rfl, .refl fields s⟩

theorem Shows.bind {x : CaseM α} {k : α → CaseM β} {a : α} {b : β}
    (hx : Shows fields x a shown) (hk : Shows fields (k a) b shown') :
    Shows fields (x >>= k) b (shown ++ shown') := by
  intro s
  obtain ⟨s₁, hrun, hshowed⟩ := hx s
  obtain ⟨s₂, hrun', hshowed'⟩ := hk s₁
  exact ⟨s₂, by rw [bind_ok hrun, hrun'], hshowed.trans hshowed'⟩

/-- A first part that shows no section. -/
theorem Shows.seq {x : CaseM α} {k : α → CaseM β} {a : α} {b : β}
    (hx : Shows fields x a []) (hk : Shows fields (k a) b shown) :
    Shows fields (x >>= k) b shown := hx.bind hk

theorem Shows.verify {b : Bool} {e : CaseStop} (h : b = true) :
    Shows fields (Prog.verify b e : CaseM Unit) () [] := by
  subst h
  exact fun s => ⟨s, rfl, .refl fields s⟩

theorem shows_onTvb {x : Prog TvbError Fault CaseState α} {a : α}
    (h : ∀ s, x.run s = .ok a s) : Shows fields (onTvb x) a [] := by
  intro s
  refine ⟨s, ?_, .refl fields s⟩
  rw [onTvb, run_mapError, h s]

theorem showed_call (s : CaseState) (call : Drawn) :
    Showed fields s { s with log := s.log ++ [call] } (sectionOf fields call).toList := by
  have hcalls : Showed fields s { s with log := s.log ++ [call] }
      ([call].filterMap (sectionOf fields)) := .of_calls rfl rfl
  cases hsection : sectionOf fields call <;> simpa [hsection] using hcalls

/-- A call, whose item is for what follows. -/
theorem Shows.draw {call : Drawn} {k : ProtoNode → CaseM β} {b : β}
    (hk : ∀ node, Shows fields (k node) b shown) :
    Shows fields (drawCase call >>= k) b ((sectionOf fields call).toList ++ shown) := by
  intro s
  obtain ⟨s', hrun, hshowed⟩ := hk (.drawn s.log.length) { s with log := s.log ++ [call] }
  exact ⟨s', hrun, (showed_call s call).trans hshowed⟩

/-! ## Items -/

section
variable {tvb : Tvb} {tree : ProtoNode} {hfindex : HeaderField} {start length : Nat}
  {k : ProtoNode → CaseM β} {b : β}

theorem shows_getBytes (h : start + length ≤ tvb.bytes.length) :
    Shows fields (onTvb (tvb.getBytes start length)) ((tvb.bytes.drop start).take length) [] :=
  shows_onTvb fun s => by rw [Tvb.getBytes, if_pos h]; rfl

theorem onTvb_memdup (h : start + length ≤ tvb.bytes.length) (hlength : length < 2 ^ 31)
    (s : CaseState) :
    (onTvb (tvb.memdup start length)).run s = .ok ((tvb.bytes.drop start).take length) s := by
  rw [onTvb, run_mapError, Tvb.memdup, if_neg (by omega), if_neg (by omega), if_pos ⟨hlength, h⟩]
  rfl

/-- The number of `k` bytes at an offset. -/
def lengthAt (k : Nat) (bytes : List UInt8) (offset : Nat) : Nat :=
  LE.value ((bytes.drop offset).take k)

theorem shows_getLE {k offset : Nat} (h : offset + k ≤ tvb.bytes.length) :
    Shows fields (onTvb (tvb.getLE k offset)) (lengthAt k tvb.bytes offset) [] :=
  shows_onTvb fun s => by rw [Tvb.getLE, if_pos h]; rfl

/-- The length of an item of `proto_tree_add_item`. -/
def itemLength (tvb : Tvb) (hfindex : HeaderField) (start length : Nat) : Nat :=
  if hfindex.ftype = .none then min length (tvb.bytes.length - start) else length

theorem shows_addItem (h : start + itemLength tvb hfindex start length ≤ tvb.bytes.length)
    (hk : ∀ node, Shows fields (k node) b shown) :
    Shows fields (addItem tvb tree hfindex start length >>= k) b
      ((sectionOf fields (.add tree hfindex start (itemLength tvb hfindex start length)
        .item)).toList ++ shown) := by
  rw [addItem, bind_assoc]
  exact (shows_getBytes h).seq (Shows.draw hk)

theorem shows_addBytesItem (h : start + length ≤ tvb.bytes.length)
    (hk : ∀ node, Shows fields (k node) b shown) :
    Shows fields (addBytesItem tvb tree hfindex start length >>= k) b
      ((sectionOf fields (.add tree hfindex start length .bytesItem)).toList ++ shown) := by
  rw [addBytesItem, bind_assoc]
  exact (shows_getBytes h).seq (Shows.draw hk)

theorem sectionOf_of_mem {value : Shown} (h : hfindex ∈ fields) :
    sectionOf fields (.add tree hfindex start length value) = some ⟨hfindex, start, length⟩ :=
  if_pos h

theorem sectionOf_of_notMem {value : Shown} (h : hfindex ∉ fields) :
    sectionOf fields (.add tree hfindex start length value) = none := if_neg h

/-- An item of a field that is no section. -/
theorem shows_addItem_other (h : start + length ≤ tvb.bytes.length) (hfield : hfindex ∉ fields)
    (htype : hfindex.ftype ≠ .none) (hk : ∀ node, Shows fields (k node) b shown) :
    Shows fields (addItem tvb tree hfindex start length >>= k) b shown := by
  have hlength : itemLength tvb hfindex start length = length := if_neg htype
  have hitem := @shows_addItem _ fields shown tvb tree hfindex start length k b
    (hlength.symm ▸ h) hk
  rw [sectionOf_of_notMem hfield] at hitem
  exact hitem

end

end

/-! ## The headers -/

/-- The fields of the sections. -/
def sectionFields : List HeaderField :=
  [.caseRequestAltConfigList, .caseRequestAltCurveList, .caseRequestECDHPublicKey,
    .caseRequestCertInfo, .caseRequestPayload, .caseRequestSignature, .caseResponseECDHPublicKey,
    .caseResponseCertInfo, .caseResponsePayload, .caseResponseSignature,
    .caseResponseKeyConfirmHash]

/-- The fields of a request's header. -/
def requestOf (bytes : List UInt8) : CASEBeginSessionRequest where
  proposedEncType := lengthAt 1 bytes 0 &&& 0x0F
  altConfigCount := lengthAt 1 bytes 1
  altCurveCount := lengthAt 1 bytes 2
  ecdhPublicKeyLen := lengthAt 1 bytes 3
  certInfoLen := lengthAt 2 bytes 4
  payloadLen := lengthAt 2 bytes 6
  proposedConfig := lengthAt 4 bytes 8
  proposedCurveId := lengthAt 4 bytes 12
  proposedSessionId := lengthAt 2 bytes 16

section
variable {tvb : Tvb}

theorem shows_readRequest (h : 18 < tvb.bytes.length) :
    Shows sectionFields (readRequest tvb) (requestOf tvb.bytes) [] := by
  refine (shows_getLE (by omega)).seq ?_
  refine shows_addItem_other (by omega) (by decide) (by decide) fun _ => ?_
  refine shows_addItem_other (by omega) (by decide) (by decide) fun _ => ?_
  refine shows_addItem_other (by omega) (by decide) (by decide) fun _ => ?_
  refine (shows_getLE (by omega)).seq ((shows_getLE (by omega)).seq ?_)
  refine (shows_getLE (by omega)).seq ((shows_getLE (by omega)).seq ?_)
  refine (shows_getLE (by omega)).seq ((shows_getLE (by omega)).seq ?_)
  refine shows_addItem_other (by omega) (by decide) (by decide) fun _ => ?_
  refine (shows_getLE (by omega)).seq ?_
  refine shows_addItem_other (by omega) (by decide) (by decide) fun _ => ?_
  refine (shows_getLE (by omega)).seq ?_
  exact shows_addItem_other (by omega) (by decide) (by decide) fun _ => .pure _

/-- What the checks of a request's length ask for. -/
def RequestPasses (bytes : List UInt8) : Prop :=
  18 < bytes.length ∧ (requestOf bytes).msgLenWithoutSig < bytes.length

instance (bytes : List UInt8) : Decidable (RequestPasses bytes) :=
  inferInstanceAs (Decidable (_ ∧ _))

theorem shows_beginRequest (h : RequestPasses tvb.bytes) :
    Shows sectionFields (beginRequest tvb) (requestOf tvb.bytes) [] := by
  refine @Shows.draw _ _ _ (.appendText _ _) _ _ fun _ => ?_
  refine (Shows.verify (decide_eq_true h.1)).seq ?_
  refine (shows_readRequest h.1).seq ?_
  exact (Shows.verify (decide_eq_true h.2)).seq (.pure _)

/-- The fields of a response's header. -/
def responseOf (bytes : List UInt8) : CASEBeginSessionResponse where
  keyConfirmHashLen := (keyConfirmHashLength (lengthAt 1 bytes 0)).getD 0
  ecdhPublicKeyLen := lengthAt 1 bytes 1
  certInfoLen := lengthAt 2 bytes 2
  payloadLen := lengthAt 2 bytes 4

/-- What the checks of a response ask for: a length of the hash, and the length of the message. -/
def ResponsePasses (bytes : List UInt8) : Prop :=
  6 < bytes.length ∧ keyConfirmHashLength (lengthAt 1 bytes 0) ≠ none ∧
    (responseOf bytes).msgLenWithoutSig < bytes.length

instance (bytes : List UInt8) : Decidable (ResponsePasses bytes) :=
  inferInstanceAs (Decidable (_ ∧ _))

theorem shows_checkKeyConfirmHashLength {control : Nat} (h : keyConfirmHashLength control ≠ none) :
    Shows sectionFields (checkKeyConfirmHashLength control)
      ((keyConfirmHashLength control).getD 0) [] := by
  unfold checkKeyConfirmHashLength
  split
  · rename_i heq
    rw [heq]
    exact .pure _
  · exact absurd ‹_› h

theorem shows_readResponse (h : 6 < tvb.bytes.length)
    (hhash : keyConfirmHashLength (lengthAt 1 tvb.bytes 0) ≠ none) :
    Shows sectionFields (readResponse tvb) (responseOf tvb.bytes) [] := by
  refine (shows_getLE (by omega)).seq ((shows_checkKeyConfirmHashLength hhash).seq ?_)
  refine shows_addItem_other (by omega) (by decide) (by decide) fun _ => ?_
  rw [addUintFormatValue, bind_assoc]
  refine (shows_getBytes (by omega)).seq (@Shows.draw _ _ _ (.add _ _ _ _ _) _ _ fun _ => ?_)
  refine (shows_getLE (by omega)).seq ((shows_getLE (by omega)).seq ?_)
  exact (shows_getLE (by omega)).seq (.pure _)

theorem shows_beginResponse (h : ResponsePasses tvb.bytes) :
    Shows sectionFields (beginResponse tvb) (responseOf tvb.bytes) [] := by
  refine @Shows.draw _ _ _ (.appendText _ _) _ _ fun _ => ?_
  refine (Shows.verify (decide_eq_true h.1)).seq ?_
  refine (shows_readResponse h.1 h.2.1).seq ?_
  exact (Shows.verify (decide_eq_true h.2.2)).seq (.pure _)

/-! ## Alternate lists -/

theorem shows_addListElems {listTree : ProtoNode} {hfindex : HeaderField}
    (hfield : hfindex ∉ sectionFields) (htype : hfindex.ftype ≠ .none) :
    ∀ (count parsePoint : Nat), parsePoint + count * 4 ≤ tvb.bytes.length →
      Shows sectionFields (addListElems tvb listTree hfindex parsePoint count)
        (parsePoint + count * 4) []
  | 0, parsePoint, _ => .pure _
  | count + 1, parsePoint, h => by
    have hend : parsePoint + (count + 1) * 4 = parsePoint + 4 + count * 4 := by omega
    rw [hend] at h ⊢
    exact shows_addItem_other (by omega) hfield htype fun _ =>
      shows_addListElems hfield htype count (parsePoint + 4) h

/-- The item of a list has the length that `itemCount` says, as far as the buffer goes. -/
theorem shows_showAltList {hfindex hfElem : HeaderField} {ett : Ett}
    {parsePoint itemCount count : Nat} (hfield : hfindex ∈ sectionFields)
    (htype : hfindex.ftype = .none) (hfieldElem : hfElem ∉ sectionFields)
    (htypeElem : hfElem.ftype ≠ .none) (h : parsePoint + count * 4 ≤ tvb.bytes.length) :
    Shows sectionFields (showAltList tvb hfindex hfElem ett parsePoint itemCount count)
      (parsePoint + count * 4)
      [⟨hfindex, parsePoint, min (itemCount * 4) (tvb.bytes.length - parsePoint)⟩] := by
  have hlength : itemLength tvb hfindex parsePoint (itemCount * 4) =
      min (itemCount * 4) (tvb.bytes.length - parsePoint) := if_pos htype
  have hsection : [⟨hfindex, parsePoint, min (itemCount * 4) (tvb.bytes.length - parsePoint)⟩] =
      (sectionOf sectionFields (.add .messageTree hfindex parsePoint
        (itemLength tvb hfindex parsePoint (itemCount * 4)) .item)).toList ++ [] := by
    rw [sectionOf_of_mem hfield, hlength]
    rfl
  rw [hsection]
  refine shows_addItem (by rw [hlength]; omega) fun node => ?_
  refine @Shows.draw _ _ _ (.addSubtree node ett) _ _ fun _ => ?_
  refine (shows_addListElems hfieldElem htypeElem count parsePoint h).seq ?_
  exact @Shows.draw _ _ _ (.appendText node _) _ _ fun _ => .pure _

/-- What is shown of the alternate lists in a payload of `total` bytes. -/
def shownAltLists (m : CASEBeginSessionRequest) (total : Nat) : List SectionRange :=
  [⟨.caseRequestAltConfigList, 18, m.altConfigCount * 4⟩,
    ⟨.caseRequestAltCurveList, 18 + m.altConfigCount * 4,
      min (m.altConfigCount * 4) (total - (18 + m.altConfigCount * 4))⟩]

def altLists (m : CASEBeginSessionRequest) : List (HeaderField × Nat) :=
  [(.caseRequestAltConfigList, m.altConfigCount * 4),
    (.caseRequestAltCurveList, m.altCurveCount * 4)]

/-- In a longer payload the item of the curves is right when that of the configs would be. -/
theorem shownAltLists_eq_iff {m : CASEBeginSessionRequest} {total : Nat}
    (h : 18 + m.altConfigCount * 4 + m.altCurveCount * 4 < total) :
    shownAltLists m total = placed 18 (altLists m) ↔ m.altConfigCount = m.altCurveCount := by
  simp only [shownAltLists, altLists, placed, List.cons.injEq, SectionRange.mk.injEq, true_and,
    and_true]
  omega

theorem shows_showAltLists {m : CASEBeginSessionRequest}
    (h : 18 + m.altConfigCount * 4 + m.altCurveCount * 4 ≤ tvb.bytes.length) :
    Shows sectionFields (showAltLists tvb m) (18 + m.altConfigCount * 4 + m.altCurveCount * 4)
      (shownAltLists m tvb.bytes.length) := by
  have hconfigs : min (m.altConfigCount * 4) (tvb.bytes.length - 18) = m.altConfigCount * 4 := by
    omega
  have hlist := @shows_showAltList tvb .caseRequestAltConfigList .caseRequestAltConfigListElem
    .caseRequestAltConfigList 18 m.altConfigCount m.altConfigCount (by decide) rfl (by decide)
    (by decide) (by omega)
  rw [hconfigs] at hlist
  exact hlist.bind (shows_showAltList (by decide) rfl (by decide) (by decide) h)

end

/-! ## Sections that are structures -/

/-- The length of the element that `Next` has found. -/
def foundLength : Outcome MatterError Fault TLVDissector Unit → Option Nat
  | .ok () d => some d.elemLen
  | _ => none

/-- The length of the structure that a section begins with. -/
def structureLength (tagNum : Nat) (data : List UInt8) (offset : Nat) : Option Nat :=
  foundLength ((TLVDissector.nextExpecting .struct (profileTag profileSecurity tagNum)).run
    (sectionDissector data offset))

/-- The first element of a section is at its start. -/
theorem nextExpecting_first {type : TLVType} {tag offset : Nat} {data : List UInt8}
    {d : TLVDissector}
    (h : (TLVDissector.nextExpecting type tag).run (sectionDissector data offset) = .ok () d) :
    d.elemStart = 0 ∧ d.sourceBufBaseOffset = offset ∧ d.reader.getType = type := by
  obtain ⟨t, r, c, hskip, hread, -, rfl⟩ := nextBy_eq_ok.1 h
  have hclear : TLVReader.skip.run (sectionDissector data offset).reader =
      .ok () (sectionDissector data offset).reader.clearElementState :=
    skip_of_cleared rfl
  rw [hclear] at hskip
  cases hskip
  obtain ⟨_, r₁, -, hverify⟩ := bind_eq_ok.1 hread
  rw [get_bind, bind_eq_ok] at hverify
  obtain ⟨_, r₂, htype, htag⟩ := hverify
  obtain ⟨htypeIs, rfl⟩ := verify_eq_ok.1 htype
  obtain ⟨-, rfl⟩ := verify_eq_ok.1 htag
  exact ⟨rfl, rfl, of_decide_eq_true htypeIs⟩

section
variable {α : Type} {tlv : TLVDissector} {x : DissectM α} {s : CaseState} {t : DissectState}

theorem onTlv_ok {a : α} (h : x.run { tlv, log := s.log, retried := 0 } = .ok a t) :
    (onTlv tlv x).run s = .ok (a, t.tlv) { s with log := t.log } := by
  simp only [onTlv, h]

theorem onTlv_err {e : MatterError}
    (h : x.run { tlv, log := s.log, retried := 0 } = .err e t) :
    (onTlv tlv x).run s = .err (.code e) { s with log := t.log } := by
  simp only [onTlv, h]

theorem onTlv_fault {f : Fault} (h : x.run { tlv, log := s.log, retried := 0 } = .fault f) :
    (onTlv tlv x).run s = .err (.crashed f) s := by
  simp only [onTlv, h]

end

section
variable {tvb : Tvb} {tagNum offset length : Nat} {hfindex : HeaderField} {ett : Ett}
  {data : List UInt8} {s : CaseState}

/-- A section that begins with the structure. -/
theorem addStructure_run {t : DissectState} {d : TLVDissector}
    (hnext : (TLVDissector.nextExpecting .struct (profileTag profileSecurity tagNum)).run t.tlv =
      .ok () d) (htype : d.reader.getType = .struct) :
    (addStructure tagNum hfindex ett).run t = .ok (.drawn t.log.length) { t with
      tlv := d
      log := t.log ++ [.add .messageTree hfindex ((d.elemStart + d.sourceBufBaseOffset) % 2 ^ 32)
        d.elemLen .item] ++ [.addSubtree (.drawn t.log.length) ett] } := by
  have hmoved : (Dissect.onTlv (TLVDissector.nextExpecting .struct
      (profileTag profileSecurity tagNum))).run t = .ok () { t with tlv := d } :=
    onTlv_eq_ok.2 ⟨d, hnext, rfl⟩
  have hshown : d.reader.getType ≠ .notSpecified := by
    rw [htype]
    exact TLVType.noConfusion
  rw [addStructure, bind_ok hmoved]
  exact @addSubTreeItem_run { t with tlv := d } .messageTree hfindex ett hshown

/-- The start of a section: its structure is shown, or there is none. -/
theorem onTlv_addStructure (hfield : hfindex ∈ sectionFields) (hoffset : offset < 2 ^ 32) :
    (∃ n node tlv s', structureLength tagNum data offset = some n ∧
      (onTlv (sectionDissector data offset) (addStructure tagNum hfindex ett)).run s =
        .ok (node, tlv) s' ∧ Showed sectionFields s s' [⟨hfindex, offset, n⟩]) ∨
    (structureLength tagNum data offset = none ∧ ∃ e s',
      (onTlv (sectionDissector data offset) (addStructure tagNum hfindex ett)).run s =
        .err e s' ∧ Showed sectionFields s s' []) := by
  cases hnext : (TLVDissector.nextExpecting .struct (profileTag profileSecurity tagNum)).run
      (sectionDissector data offset) with
  | ok u d =>
    obtain ⟨hstart, hbase, htype⟩ := nextExpecting_first hnext
    have hrange : (d.elemStart + d.sourceBufBaseOffset) % 2 ^ 32 = offset := by
      rw [hstart, hbase]
      omega
    have hfound : structureLength tagNum data offset = some d.elemLen := by
      rw [structureLength, hnext]
      rfl
    refine .inl ⟨d.elemLen, _, _, _, hfound, onTlv_ok (addStructure_run hnext htype), ?_⟩
    rw [hrange]
    have hshowed := @Showed.of_calls sectionFields s
      { s with log := s.log ++ [.add .messageTree hfindex offset d.elemLen .item] ++
        [.addSubtree (.drawn s.log.length) ett] }
      [.add .messageTree hfindex offset d.elemLen .item, .addSubtree (.drawn s.log.length) ett]
      (List.append_assoc _ _ _) rfl
    rw [List.filterMap_cons_some (sectionOf_of_mem hfield)] at hshowed
    exact hshowed
  | err e d =>
    have hnone : structureLength tagNum data offset = none := by
      rw [structureLength, hnext]
      rfl
    have herr := @onTlv_err _ (sectionDissector data offset) (addStructure tagNum hfindex ett) s _ _
      (bind_err (onTlv_eq_err.2 ⟨d, hnext, rfl⟩))
    exact .inr ⟨hnone, _, _, herr, .refl _ s⟩
  | fault f =>
    have hnone : structureLength tagNum data offset = none := by
      rw [structureLength, hnext]
      rfl
    have hmoved : (Dissect.onTlv (TLVDissector.nextExpecting .struct
        (profileTag profileSecurity tagNum))).run
          { tlv := sectionDissector data offset, log := s.log, retried := 0 } = .fault f := by
      rw [Dissect.onTlv, run_zoom, hnext]
    exact .inr ⟨hnone, _, _, onTlv_fault (bind_fault hmoved), .refl _ s⟩

end

/-! ### Members -/

/-- `x` shows no section. -/
abbrev NoSections {α : Type} (x : DissectM α) : Prop :=
  Calls (fun hfindex _ => hfindex ∉ sectionFields) x

section
variable {node tree : ProtoNode} {hfindex : HeaderField}

theorem noSections_overMembers {body : DissectM Unit} (hbody : NoSections body) :
    NoSections (IM.overMembers (fun () => body) ()) :=
  calls_enterContainer.bind fun _ => (calls_forMembers (fun _ => hbody) ()).bind fun _ =>
    calls_exitContainer.bind fun _ => .pure _

theorem noSections_addTypedItem (h : hfindex ∉ sectionFields) :
    NoSections (addTypedItem tree hfindex) := calls_addTypedItem fun _ => h

theorem noSections_addGenericTLVItem (host : Host) (h : hfindex ∉ sectionFields) :
    NoSections (addGenericTLVItem host tree hfindex false) :=
  calls_addGenericTLVItem host (fun _ => h) fun _ => h

/-- A structure with members, behind a check of its type. -/
theorem noSections_structure {p : TLVType → Bool} {ett : Ett} {member : ProtoNode → DissectM Unit}
    (h : hfindex ∉ sectionFields) (hmember : ∀ node, NoSections (member node)) :
    NoSections (do
      let type ← getType
      verify (p type) .unexpectedTLVElement
      let node ← addSubTreeItem tree hfindex ett
      IM.overMembers (fun () => member node) ()) :=
  Appends.bind (.gets _) fun _ => Appends.bind (.verify _ _) fun _ =>
    (calls_addSubTreeItem h).bind fun node => noSections_overMembers (hmember node)

section
variable (host : Host)

theorem noSections_certDNMember {hfAttr : HeaderField} (h : hfAttr ∉ sectionFields) :
    NoSections (certDNMember host node hfAttr) := by
  refine Appends.bind (.gets _) fun tag => Appends.bind (.gets _) fun type => ?_
  split
  · exact (calls_onReader _).bind fun _ => calls_addStringItemF h
  · exact (calls_onReader _).bind fun _ => calls_addStringItemF h
  · exact noSections_addGenericTLVItem host (by decide)

theorem noSections_addCertDN {hfContainer hfAttr : HeaderField}
    (h : hfContainer ∉ sectionFields) (hattr : hfAttr ∉ sectionFields) :
    NoSections (addCertDN host tree hfContainer hfAttr) :=
  noSections_structure h fun _ => noSections_certDNMember host hattr

theorem noSections_certMember : NoSections (certMember host node) := by
  refine Appends.bind (.gets _) fun tag => Appends.bind (.gets _) fun type =>
    Appends.bind (.verify _ _) fun _ => ?_
  split
  · exact noSections_addTypedItem (by decide)
  · exact noSections_addCertDN host (by decide) (by decide)
  · exact noSections_addCertDN host (by decide) (by decide)
  · exact noSections_addTypedItem (by decide)
  · exact noSections_addTypedItem (by decide)
  · exact noSections_addTypedItem (by decide)
  · exact noSections_addTypedItem (by decide)
  · exact noSections_addTypedItem (by decide)
  · exact Appends.bind (.verify _ _) fun _ => noSections_addGenericTLVItem host (by decide)
  · exact noSections_addGenericTLVItem host (by decide)

theorem noSections_addCert (h : hfindex ∉ sectionFields) :
    NoSections (addCert host hfindex tree) :=
  noSections_structure h fun _ => noSections_certMember host

theorem noSections_certRefMember : NoSections (certRefMember host node) := by
  refine Appends.bind (.gets _) fun tag => Appends.bind (.gets _) fun type =>
    Appends.bind (.verify _ _) fun _ => ?_
  split
  · exact Appends.bind (.verify _ _) fun _ => noSections_addCertDN host (by decide) (by decide)
  · exact Appends.bind (.verify _ _) fun _ => noSections_addTypedItem (by decide)
  · exact noSections_addGenericTLVItem host (by decide)

theorem noSections_addCertRef (h : hfindex ∉ sectionFields) :
    NoSections (addCertRef host hfindex tree) :=
  noSections_structure h fun _ => noSections_certRefMember host

theorem noSections_certInfoMember : NoSections (certInfoMember host node) := by
  refine Appends.bind (.gets _) fun tag => Appends.bind (.gets _) fun type =>
    Appends.bind (.verify _ _) fun _ => ?_
  split
  · exact Appends.bind (.verify _ _) fun _ => noSections_addCert host (by decide)
  · exact Appends.bind (.verify _ _) fun _ => noSections_addCertRef host (by decide)
  · exact Appends.bind (.verify _ _) fun _ =>
      calls_addListItem (by decide) fun _ => noSections_addCert host (by decide)
  · exact Appends.bind (.verify _ _) fun _ =>
      calls_addListItem (by decide) fun _ => noSections_addCertRef host (by decide)
  · exact .throw _

end

theorem noSections_ecdsaSigMember : NoSections (ecdsaSigMember node) := by
  refine Appends.bind (.gets _) fun tag => Appends.bind (.gets _) fun type =>
    Appends.bind (.verify _ _) fun _ => ?_
  split
  · exact Appends.bind (.verify _ _) fun _ => noSections_addTypedItem (by decide)
  · exact Appends.bind (.verify _ _) fun _ => noSections_addTypedItem (by decide)
  · exact .throw _

end

/-! ### The whole of a section -/

section
variable {tvb : Tvb} {tagNum offset length : Nat} {hfindex : HeaderField} {ett : Ett}
  {data : List UInt8} {s : CaseState}

/-- A TLV dissector that shows no section. -/
theorem onTlv_showed {α : Type} {x : DissectM α} (hx : NoSections x)
    (tlv : TLVDissector) (s : CaseState) :
    (∃ a s', (onTlv tlv x).run s = .ok a s' ∧ Showed sectionFields s s' []) ∨
      ∃ e s', (onTlv tlv x).run s = .err e s' ∧ Showed sectionFields s s' [] := by
  have hnone : ∀ {l : List Drawn}, (∀ c ∈ l, Allowed (fun hfindex _ => hfindex ∉ sectionFields) c) →
      l.filterMap (sectionOf sectionFields) = [] := by
    intro l hl
    refine List.filterMap_eq_nil_iff.2 fun c hc => ?_
    have hallowed := hl c hc
    cases c with
    | add tree hfindex start length shown => exact sectionOf_of_notMem hallowed
    | addSubtree item ett => rfl
    | setText item text => rfl
    | appendText item text => rfl
  cases hrun : x.run { tlv, log := s.log, retried := 0 } with
  | ok a t =>
    obtain ⟨l, hlog, hl⟩ := hx.ok hrun
    refine .inl ⟨_, _, onTlv_ok hrun, ?_⟩
    rw [← hnone hl]
    exact .of_calls hlog rfl
  | err e t =>
    obtain ⟨l, hlog, hl⟩ := hx.err hrun
    refine .inr ⟨_, _, onTlv_err hrun, ?_⟩
    rw [← hnone hl]
    exact .of_calls hlog rfl
  | fault f => exact .inr ⟨_, _, onTlv_fault hrun, .refl _ s⟩

/-- A section: it is shown with the length of its structure, whether its members can be decoded
or not, or it is not shown and the dissection ends. -/
theorem addSection_cases {member : ProtoNode → DissectM Unit} (hfield : hfindex ∈ sectionFields)
    (hmember : ∀ node, NoSections (member node))
    (hend : offset + length ≤ tvb.bytes.length) (hlength : length < 2 ^ 31)
    (hoffset : offset < 2 ^ 32) (s : CaseState) :
    (∃ n s', structureLength tagNum ((tvb.bytes.drop offset).take length) offset = some n ∧
      ((addSection tvb tagNum offset length hfindex ett member).run s = .ok () s' ∨
        ∃ e, (addSection tvb tagNum offset length hfindex ett member).run s = .err e s') ∧
      Showed sectionFields s s' [⟨hfindex, offset, n⟩]) ∨
    (structureLength tagNum ((tvb.bytes.drop offset).take length) offset = none ∧ ∃ e s',
      (addSection tvb tagNum offset length hfindex ett member).run s = .err e s' ∧
        Showed sectionFields s s' []) := by
  rw [addSection, bind_ok (onTvb_memdup hend hlength s)]
  rcases @onTlv_addStructure tagNum offset hfindex ett _ s hfield hoffset with
    ⟨n, node, tlv, s₂, hlen, hrun, hshowed₂⟩ | ⟨hlen, e, s₂, hrun, hshowed₂⟩
  · rw [bind_ok hrun]
    rcases onTlv_showed (noSections_overMembers (hmember node)) tlv s₂ with
      ⟨a, s₃, hrun₃, hshowed₃⟩ | ⟨e, s₃, hrun₃, hshowed₃⟩
    · refine .inl ⟨n, s₃, hlen, .inl (bind_ok hrun₃), ?_⟩
      simpa using hshowed₂.trans hshowed₃
    · refine .inl ⟨n, s₃, hlen, .inr ⟨e, bind_err hrun₃⟩, ?_⟩
      simpa using hshowed₂.trans hshowed₃
  · exact .inr ⟨hlen, e, s₂, bind_err hrun, hshowed₂⟩

end

end Matter.Security
