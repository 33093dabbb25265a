import MatterDissector.TLV.Proof.Draws
import MatterDissector.IM.Proof.Decodes
import MatterDissector.SecureChannel.Proof.Return

/-!
# What is shown of a message of the secure channel

`View`: how a member is shown, as the dissectors do it (`View.run`) and on the tree of the message
(`View.calls`). Every one of the nine messages is a table of views by the number of the context tag
(`TLVMessage.view`), so what is drawn of it is read off its tree: the dissector returns if every
member can be shown, with these display calls and no others (`dissectTLVMessage_shows_iff`).
-/

namespace Matter.SecureChannel

open Prog Display TLV TLV.Dissect IM Tracker

/-! ## Views -/

/-- How a member is shown. -/
inductive View where
  /-- there is no such member -/
  | rejected
  /-- as a value, whatever its type is -/
  | typed (hfindex : HeaderField)
  /-- as a value of this type -/
  | value (type : TLVType) (hfindex : HeaderField)
  /-- as bytes whose last 16 are the integrity check -/
  | encrypted (hfindex : HeaderField)
  /-- as lines of text -/
  | generic (hfindex : HeaderField)
  /-- as a structure, whose members are shown below it -/
  | block (hfindex : HeaderField) (ett : Ett) (member : Nat → View)

/-- The calls of `AddEncryptedField` for the bytes themselves. -/
def encryptedRanges (encryptedTree : ProtoNode) (start len : Nat) : List Drawn :=
  (if 16 < len then [.add encryptedTree .sessionEncryptedCiphertext start (len - 16) .item]
    else []) ++
  (if 0 < len then [.add encryptedTree .sessionEncryptedMic (start + (len - 16)) (min len 16) .item]
    else [])

/-- The calls of `AddEncryptedField`. -/
def encryptedCalls (tree : ProtoNode) (hfindex : HeaderField) (place : Place) :
    Elem → Option (List Drawn)
  | .prim tag (.bytes w v) =>
    let e := .prim tag (.bytes w v)
    some (place.subTree tree hfindex .sessionEncrypted e ++
      encryptedRanges (.drawn place.drawn) (place.pos + e.head.length) v.bytes.length)
  | _ => none

/-- A member is shown by the number of its context tag. -/
def byContextNum (f : Nat → Place → Elem → Option (List Drawn)) (place : Place) (e : Elem) :
    Option (List Drawn) := e.contextNum.bind fun n => f n place e

namespace View

variable (host : Host)

/-- What the dissector does. -/
def run : View → ProtoNode → DissectM Unit
  | rejected, _ => throw .unexpectedTLVElement
  | typed hfindex, tree => addTypedItem tree hfindex
  | value type hfindex, tree => addOfType type (addTypedItem tree hfindex)
  | encrypted hfindex, tree => addOfType .byteString (addEncryptedField tree hfindex)
  | generic hfindex, tree => addGenericTLVItem host tree hfindex false
  | block hfindex ett member, tree =>
    addParameters hfindex ett (fun paramsTree n => (member n).run paramsTree) tree

/-- What is shown of the element: nothing, if it cannot be shown. -/
def calls : View → ProtoNode → Place → Elem → Option (List Drawn)
  | rejected, _, _, _ => none
  | typed hfindex, tree, place, e => e.typedCalls tree hfindex place
  | value type hfindex, tree, place, e =>
    if e.type = type then e.typedCalls tree hfindex place else none
  | encrypted hfindex, tree, place, e => encryptedCalls tree hfindex place e
  | generic hfindex, tree, place, e => some (e.lineCalls host tree hfindex false 0 place)
  | block hfindex ett member, tree, place, e =>
    let opening := place.subTree tree hfindex ett e
    let shown := byContextNum fun n => (member n).calls (.drawn place.drawn)
    if e.type = .struct then
      (memberCalls shown ((place.past opening).inside e) e.members).map (opening ++ ·)
    else none

end View

section
variable {α β : Type} {data rest : List UInt8} {place : Place} {containerType : TLVType}
  {e : Elem} {s : DissectState}

/-! ## Handlers -/

theorem addOfType_draws {type : TLVType} {x : DissectM Unit} {o : Option (List Drawn)}
    (h : OnElemAt data place containerType e rest s) (hx : e.type = type → Draws data x s o) :
    Draws data (addOfType type x) s (if e.type = type then o else none) := by
  rw [addOfType, getType]
  have hverified : Draws data (verify (decide (s.tlv.reader.getType = type)) .unexpectedTLVElement
      >>= fun _ => x) s (if decide (e.type = type) = true then o else none) := by
    rw [h.onElem.type_eq]
    exact Draws.verify_bind fun htype => hx (of_decide_eq_true htype)
  simpa only [decide_eq_true_eq] using hverified.congr (gets_bind _ _ _)

theorem overMembers_draws {body : β → DissectM β} {f : Place → Elem → Option (List Drawn)}
    (h : OnElemAt data place containerType e rest s)
    (hbody : BodyDraws data place.ip e.type e.members body f) (b : β) :
    Draws data (overMembers body b) s
      (if e.isContainer then memberCalls f (place.inside e) e.members else none) := by
  cases e with
  | prim tag p =>
    have htype : tlvTypeIsContainer s.tlv.reader.elementType = false := by
      rw [h.onElem.positioned.elementType_eq]
      exact p.isContainer_elemType
    obtain ⟨err, s', henter⟩ := enterContainer_fails htype
    exact .of_err (bind_err henter)
  | container tag kind members => exact members_draws h hbody b

/-- A member with a context tag. -/
theorem contextMember_draws {member : Nat → DissectM Unit}
    {f : Nat → Place → Elem → Option (List Drawn)} (h : OnElemAt data place containerType e rest s)
    (hmember : ∀ n, e.contextNum = some n → Draws data (member n) s (f n place e)) :
    Draws data (contextMember member) s (byContextNum f place e) := by
  refine Draws.congr ?_ (gets_bind _ _ _)
  rw [byContextNum]
  cases hn : e.contextNum with
  | none =>
    rw [contextNum_none h.onElem hn]
    exact .of_err rfl
  | some n =>
    obtain ⟨hcontext, hnum⟩ := contextNum_some h.onElem hn
    rw [hcontext, hnum]
    exact hmember n hn

/-! ## Encrypted bytes -/

/-- The bytes of a string lie behind the head of its element. -/
theorem getDataPtr_run {tag : Tag} {w : Width} {v : SizedBytes w}
    (h : OnElemAt data place containerType (.prim tag (.bytes w v)) rest s) (hrest : rest ≠ []) :
    (onReader TLVReader.getDataPtr).run s =
        .ok (place.pos + (Elem.prim tag (.bytes w v)).head.length) s ∧
      s.tlv.reader.getLength = v.bytes.length := by
  have hend := h.onElem.readPoint_ne_bufEnd hrest
  have hbytes := h.onElem.dataBytes_eq hend
  obtain ⟨p, s', hptr, -⟩ := bind_eq_ok.1 hbytes
  obtain ⟨r, hread, rfl⟩ := dissect_onReader_eq_ok.1 hptr
  obtain ⟨-, -, -, rfl, rfl⟩ := TLVReader.getDataPtr_eq_ok.1 hread
  have hpoint := h.onElem.inBounds.readPoint_eq
  have hbody := h.onElem.positioned.at_body.lenRead_add
  have hends := h.ends
  rw [Elem.encode_eq, List.length_append] at hends
  rw [List.length_append] at hbody
  have hstart : s.tlv.reader.readPoint =
      place.pos + (Elem.prim tag (.bytes w v)).head.length := by omega
  refine ⟨hstart ▸ hptr, ?_⟩
  rcases dataBytes_cases h.onElem.inBounds with ⟨err, hrun⟩ | ⟨-, bytes, hrun, hlen⟩
  · cases hbytes.symm.trans hrun
  · cases hbytes.symm.trans hrun
    exact hlen.symm

theorem addItem_run (tree : ProtoNode) (hfindex : HeaderField) (start length : Nat) :
    (addItem tree hfindex start length).run s =
      .ok () { s with log := s.log ++ [.add tree hfindex start length .item] } := rfl

theorem addEncryptedBytes_draws (hs : Focused data s.tlv) (tree : ProtoNode) (start len : Nat) :
    Draws data (addEncryptedBytes tree start len) s (some (encryptedRanges tree start len)) := by
  rw [addEncryptedBytes, encryptedRanges]
  by_cases hzero : len = 0
  · rw [if_pos hzero, if_neg (by omega), if_neg (by omega)]
    exact .pure hs ()
  rw [if_neg hzero]
  by_cases hlong : 16 < len
  · rw [if_pos hlong, if_pos hlong, if_pos (by omega), Nat.min_eq_right (by omega)]
    exact .bind_call (addItem_run _ _ _ _) rfl hs.balanced
      (.of_ok (addItem_run _ _ _ _) rfl hs.balanced)
  · rw [if_neg hlong, if_neg hlong, if_pos (by omega), Nat.min_eq_left (by omega),
      Nat.sub_eq_zero_of_le (by omega)]
    exact .of_ok (addItem_run _ _ _ _) rfl hs.balanced

theorem addEncryptedField_draws (tree : ProtoNode) (hfindex : HeaderField)
    (h : OnElemAt data place containerType e rest s) (hrest : rest ≠ [])
    (htype : e.type = .byteString) :
    Draws data (addEncryptedField tree hfindex) s (encryptedCalls tree hfindex place e) := by
  obtain ⟨tag, w, v, rfl⟩ : ∃ tag w, ∃ v : SizedBytes w, e = .prim tag (.bytes w v) := by
    cases e with
    | prim tag p => cases p <;> cases htype; exact ⟨_, _, _, rfl⟩
    | container tag kind members => cases kind <;> cases htype
  refine Draws.congr ?_ (gets_bind _ _ _)
  rw [(getDataPtr_run h hrest).2]
  refine addSubTreeItem_draws (o := some (encryptedRanges _ _ _)) tree hfindex .sessionEncrypted h
    fun s' h' => ?_
  refine (addEncryptedBytes_draws h'.onElem.focused _ _ _).congr ?_
  exact bind_ok (getDataPtr_run h' hrest).1

theorem encryptedCalls_eq_none {tree : ProtoNode} {hfindex : HeaderField}
    (htype : e.type ≠ .byteString) : encryptedCalls tree hfindex place e = none := by
  unfold encryptedCalls
  split
  · exact absurd rfl htype
  · rfl

/-! ## The views -/

/-- A member is handled by the number of its context tag. -/
theorem members_byContextNum {ip : Nat} {es : List Elem} {member : Nat → DissectM Unit}
    {f : Nat → Place → Elem → Option (List Drawn)}
    (hmember : ∀ n {place : Place} {e : Elem} {rest : List UInt8} {s : DissectState},
      OnElemAt data place containerType e rest s → rest ≠ [] → e.contextNum = some n →
        Draws data (member n) s (f n place e)) :
    BodyDraws data ip containerType es (fun () => contextMember member) (byContextNum f) :=
  fun _ _ _ _ _ _ _ hrest h => contextMember_draws h fun n hn => hmember n h hrest hn

/-- A structure is shown with its members below it. -/
theorem addParameters_draws {member : ProtoNode → Nat → DissectM Unit}
    {f : Place → Elem → Option (List Drawn)} (tree : ProtoNode) (hfindex : HeaderField) (ett : Ett)
    (h : OnElemAt data place containerType e rest s)
    (hmember : BodyDraws data place.ip .struct e.members
      (fun () => contextMember (member (.drawn place.drawn))) f) :
    Draws data (addParameters hfindex ett member tree) s (if e.type = .struct then
      (memberCalls f ((place.past (place.subTree tree hfindex ett e)).inside e) e.members).map
        (place.subTree tree hfindex ett e ++ ·) else none) := by
  have hblock : Draws data (verify (decide (s.tlv.reader.getType = .struct)) .unexpectedTLVElement
      >>= fun _ => addSubTreeItem tree hfindex ett >>= fun paramsTree =>
        overMembers (fun () => contextMember (member paramsTree)) ()) s
      (if decide (e.type = .struct) = true then (memberCalls f ((place.past
        (place.subTree tree hfindex ett e)).inside e) e.members).map
          (place.subTree tree hfindex ett e ++ ·) else none) := by
    rw [h.onElem.type_eq]
    refine Draws.verify_bind fun htype => ?_
    have htype : e.type = .struct := of_decide_eq_true htype
    refine addSubTreeItem_draws tree hfindex ett h fun s' h' => ?_
    have hmembers := overMembers_draws h' (htype ▸ hmember) ()
    rwa [if_pos (Elem.isContainer_of_type htype)] at hmembers
  simpa only [decide_eq_true_eq] using hblock.congr (gets_bind _ _ _)

/-- The dissector shows what the view says: by induction on the view, whose blocks have members. -/
theorem View.run_draws (host : Host) (view : View) : ∀ (tree : ProtoNode) {place : Place}
    {containerType : TLVType} {e : Elem} {rest : List UInt8} {s : DissectState} {n : Nat},
    OnElemAt data place containerType e rest s → rest ≠ [] → e.contextNum = some n →
      Draws data (view.run host tree) s (view.calls host tree place e) := by
  induction view with
  | rejected =>
    intro tree place containerType e rest s n h hrest hn
    exact .of_err rfl
  | typed hfindex =>
    intro tree place containerType e rest s n h hrest hn
    exact addTypedItem_draws tree hfindex hrest h
  | value type hfindex =>
    intro tree place containerType e rest s n h hrest hn
    exact addOfType_draws h fun _ => addTypedItem_draws tree hfindex hrest h
  | encrypted hfindex =>
    intro tree place containerType e rest s n h hrest hn
    have hdraws := addOfType_draws h (addEncryptedField_draws tree hfindex h hrest)
    by_cases htype : e.type = .byteString
    · rwa [if_pos htype] at hdraws
    · rwa [if_neg htype, ← @encryptedCalls_eq_none place e tree hfindex htype] at hdraws
  | generic hfindex =>
    intro tree place containerType e rest s n h hrest hn
    exact addGenericTLVItem_draws host tree hfindex h hrest (shown_context h.onElem hn)
  | block hfindex ett member ih =>
    intro tree place containerType e rest s n h hrest hn
    exact addParameters_draws tree hfindex ett h
      (members_byContextNum fun n => ih n (.drawn place.drawn))

theorem Draws.ok_iff {x : DissectM α} {o : Option (List Drawn)} (h : Draws data x s o)
    (log : List Drawn) :
    (∃ a s', x.run s = .ok a s' ∧ s'.log = log) ↔ o.map (s.log ++ ·) = some log := by
  cases o with
  | none =>
    refine iff_of_false ?_ fun h => by cases h
    rintro ⟨a, s', hrun, -⟩
    exact h a s' hrun
  | some calls =>
    obtain ⟨a, s₁, hrun, hlog, -⟩ := h
    rw [Option.map_some, Option.some_inj, ← hlog]
    constructor
    · rintro ⟨b, s', hrun', rfl⟩
      cases hrun.symm.trans hrun'
      rfl
    · rintro rfl
      exact ⟨a, s₁, hrun, rfl⟩

/-! ## The messages -/

def sessionParameterView : Nat → View
  | 1 => .typed .sessionIdleRetransTimeout
  | 2 => .typed .sessionActiveRetransTimeout
  | 3 => .typed .sessionActiveThreshold
  | 4 => .typed .sessionDataModelRevision
  | 5 => .typed .sessionInteractionModelRevision
  | 6 => .typed .sessionSpecificationVersion
  | 7 => .typed .sessionMaxPathsPerInvoke
  | _ => .generic .sessionUnknownParam

def sessionParametersView (containerHf : HeaderField) : View :=
  .block containerHf .sessionParameters sessionParameterView

def pbkdfParameterView : Nat → View
  | 1 => .typed .pbkdfParamResponsePbkdfIterationCount
  | 2 => .typed .pbkdfParamResponsePbkdfSalt
  | _ => .generic .sessionUnknownParam

def pbkdfParameterSetView : View :=
  .block .pbkdfParamResponsePbkdfParameters .pbkdfParameters pbkdfParameterView

namespace TLVMessage

/-- What is appended to the line of the message. -/
def title : TLVMessage → String
  | pbkdfParamRequest => ": PASE PBKDF Param Request"
  | pbkdfParamResponse => ": PASE PBKDF Param Response"
  | pasePake1 => ": PASE Pake1"
  | pasePake2 => ": PASE Pake2"
  | pasePake3 => ": PASE Pake3"
  | caseSigma1 => ": CASE Sigma1"
  | caseSigma2 => ": CASE Sigma2"
  | caseSigma3 => ": CASE Sigma3"
  | caseSigma2Resume => ": CASE Sigma2 Resume"

/-- The members of the message by their numbers. -/
def view : TLVMessage → Nat → View
  | pbkdfParamRequest, 1 => .value .byteString .pbkdfParamRequestInitiatorRandom
  | pbkdfParamRequest, 2 => .value .unsignedInteger .pbkdfParamRequestLocalSessionId
  | pbkdfParamRequest, 3 => .value .unsignedInteger .pbkdfParamRequestPasscodeId
  | pbkdfParamRequest, 4 => .value .boolean .pbkdfParamRequestHasPbkdfParams
  | pbkdfParamRequest, 5 => sessionParametersView .pbkdfParamRequestMrpParams
  | pbkdfParamResponse, 1 => .value .byteString .pbkdfParamRequestInitiatorRandom
  | pbkdfParamResponse, 2 => .value .byteString .pbkdfParamResponseResponderRandom
  | pbkdfParamResponse, 3 => .value .unsignedInteger .pbkdfParamResponseResponderSessionId
  | pbkdfParamResponse, 4 => pbkdfParameterSetView
  | pbkdfParamResponse, 5 => sessionParametersView .pbkdfParamResponseMrpParams
  | pasePake1, 1 => .value .byteString .pake1PA
  | pasePake2, 1 => .value .byteString .pake2PB
  | pasePake2, 2 => .value .byteString .pake2CB
  | pasePake3, 1 => .value .byteString .pake3CA
  | caseSigma1, 1 => .value .byteString .pbkdfParamRequestInitiatorRandom
  | caseSigma1, 2 => .value .unsignedInteger .pbkdfParamRequestLocalSessionId
  | caseSigma1, 3 => .value .byteString .sessionDestinationId
  | caseSigma1, 4 => .value .byteString .sessionEphPublicKey
  | caseSigma1, 5 => sessionParametersView .sessionSleepyParams
  | caseSigma1, 6 => .value .byteString .sessionResumptionId
  | caseSigma1, 7 => .value .byteString .sessionResumeMic
  | caseSigma2, 1 => .value .byteString .pbkdfParamResponseResponderRandom
  | caseSigma2, 2 => .value .unsignedInteger .pbkdfParamRequestLocalSessionId
  | caseSigma2, 3 => .value .byteString .sessionEphPublicKey
  | caseSigma2, 4 => .encrypted .sessionEncrypted2
  | caseSigma2, 5 => sessionParametersView .sessionSleepyParams
  | caseSigma3, 1 => .encrypted .sessionEncrypted3
  | caseSigma2Resume, 1 => .value .byteString .sessionResumptionId
  | caseSigma2Resume, 2 => .value .byteString .sessionResumeMic
  | caseSigma2Resume, 3 => .value .unsignedInteger .pbkdfParamRequestLocalSessionId
  | caseSigma2Resume, 4 => sessionParametersView .sessionSleepyParams
  | _, _ => .rejected

/-- The display calls for a message: its title, and those of its members. -/
def calls (host : Host) (msg : TLVMessage) (e : Elem) : Option (List Drawn) :=
  let opening : List Drawn := [.appendText .messageParent (Text.lit msg.title)]
  let shown := byContextNum fun n => (msg.view n).calls host .messageTree
  let place : Place := ⟨profileCommon, 0, 0, opening.length⟩
  (if e.isContainer then memberCalls shown (place.inside e) e.members else none).map (opening ++ ·)

end TLVMessage

section
variable (host : Host)

theorem addSessionParameters_eq (tree : ProtoNode) (containerHf : HeaderField) :
    addSessionParameters host tree containerHf =
      (sessionParametersView containerHf).run host tree := by
  have hmember : ∀ paramsTree n,
      sessionParameter host paramsTree n = (sessionParameterView n).run host paramsTree := by
    intro paramsTree n
    rcases n with _ | _ | _ | _ | _ | _ | _ | _ | n <;> rfl
  rw [addSessionParameters, funext₂ hmember]
  rfl

theorem addPBKDFParameterSet_eq (tree : ProtoNode) :
    addPBKDFParameterSet host tree = pbkdfParameterSetView.run host tree := by
  have hmember : ∀ pbkdfTree n,
      pbkdfParameter host pbkdfTree n = (pbkdfParameterView n).run host pbkdfTree := by
    intro pbkdfTree n
    rcases n with _ | _ | _ | n <;> rfl
  rw [addPBKDFParameterSet, funext₂ hmember]
  rfl

/-- The dissectors do what the table says. -/
theorem dissectTLVMessage_eq (msg : TLVMessage) : dissectTLVMessage host msg =
    dissectMembers msg.title fun n => (msg.view n).run host .messageTree := by
  cases msg <;> refine congrArg (dissectMembers _) (funext fun n => ?_) <;>
    rcases n with _ | _ | _ | _ | _ | _ | _ | _ | n
  case pbkdfParamRequest.succ.succ.succ.succ.succ.zero => exact addSessionParameters_eq host _ _
  case pbkdfParamResponse.succ.succ.succ.succ.zero => exact addPBKDFParameterSet_eq host _
  case pbkdfParamResponse.succ.succ.succ.succ.succ.zero => exact addSessionParameters_eq host _ _
  case caseSigma1.succ.succ.succ.succ.succ.zero => exact addSessionParameters_eq host _ _
  case caseSigma2.succ.succ.succ.succ.succ.zero => exact addSessionParameters_eq host _ _
  case caseSigma2Resume.succ.succ.succ.succ.zero => exact addSessionParameters_eq host _ _
  all_goals rfl

end

/-- `Next` leads to the first element of a message. -/
theorem next_first {e : Elem} {rest data : List UInt8}
    (hwf : e.wellFormed profileCommon .notSpecified = true) (hdata : data = e.encode ++ rest)
    (hlen : data.length < 2 ^ 32) (log : List Drawn) :
    ∃ s, next.run { DissectState.start (initCommon data data.length) with log := log } = .ok () s ∧
      s.log = log ∧ OnElemAt data ⟨profileCommon, 0, 0, log.length⟩ .notSpecified e rest s := by
  have hat : At data profileCommon .notSpecified (e.encode ++ rest)
      (initCommon data data.length).reader :=
    ⟨initCommon_inBounds hlen, rfl, by decide, rfl, hdata⟩
  have hready := hat.ready (if_pos rfl)
  obtain ⟨d, hnext, hpos⟩ := next_positioned hready hwf
  obtain ⟨hstart, helem, hbase⟩ := next_measured hready hwf hnext hpos
  refine ⟨_, onTlv_eq_ok.2 ⟨d, hnext, rfl⟩, rfl, ⟨hpos, hwf⟩, hbase, ?_, helem, rfl, ?_, ?_⟩
  · have hends := congrArg List.length hdata
    rw [List.length_append] at hends
    show d.elemStart = 0
    omega
  · rw [hdata, List.length_append]
    exact Nat.zero_add _
  · exact (Nat.zero_add _).symm ▸ hlen

/-- A message is shown as the table of its members says, each at the bytes that it takes, and its
dissector returns if and only if they all can be shown. -/
theorem dissectTLVMessage_shows_iff (host : Host) (msg : TLVMessage) {e : Elem}
    (rest : List UInt8) (hwf : e.wellFormed profileCommon .notSpecified = true)
    (hlen : (e.encode ++ rest).length < 2 ^ 32) (log : List Drawn) :
    (∃ s, (dissectTLVMessage host msg).run
        (.start (initCommon (e.encode ++ rest) (e.encode ++ rest).length)) = .ok () s ∧
        s.log = log) ↔ msg.calls host e = some log := by
  let opening : List Drawn := [.appendText .messageParent (Text.lit msg.title)]
  obtain ⟨s, hnext, hlog, hon⟩ := next_first hwf rfl hlen opening
  have hrun : (dissectTLVMessage host msg).run
      (.start (initCommon (e.encode ++ rest) (e.encode ++ rest).length)) =
      (overMembers (fun () => contextMember fun n => (msg.view n).run host .messageTree) ()).run
        s := by
    rw [dissectTLVMessage_eq]
    exact bind_ok hnext
  have hmembers := overMembers_draws hon (members_byContextNum fun n _ _ _ _ =>
    (msg.view n).run_draws host .messageTree) ()
  have hiff := Draws.ok_iff hmembers log
  rw [hlog, ← hrun] at hiff
  refine Iff.trans ?_ hiff
  exact ⟨fun ⟨s', h⟩ => ⟨(), s', h⟩, fun ⟨_, s', h⟩ => ⟨s', h⟩⟩

/-- A Sigma2 with 17 encrypted bytes, an idle interval and a session parameter that is not
known. -/
def sigma2 : Elem :=
  .container .anonymous .struct
    [.prim (.context 4) (.bytes .one ⟨List.replicate 17 0xAB, by decide, by decide⟩),
      .container (.context 5) .struct
        [.prim (.context 1) (.uint .two 500), .prim (.context 9) (.bool true)]]

theorem dissectTLVMessage_shows_iff_sigma2 : ∃ s, (dissectTLVMessage plainHost .caseSigma2).run
    (.start (initCommon (sigma2.encode ++ []) (sigma2.encode ++ []).length)) = .ok () s ∧ s.log =
      [.appendText .messageParent (Text.lit ": CASE Sigma2"),
        .add .messageTree .sessionEncrypted2 1 20 .item,
        .addSubtree (.drawn 1) .sessionEncrypted,
        .add (.drawn 1) .sessionEncryptedCiphertext 4 1 .item,
        .add (.drawn 1) .sessionEncryptedMic 5 16 .item,
        .add .messageTree .sessionSleepyParams 21 9 .item,
        .addSubtree (.drawn 5) .sessionParameters,
        .add (.drawn 5) .sessionIdleRetransTimeout 23 4 (.uint 500),
        .add (.drawn 5) .sessionUnknownParam 27 2 (.stringValue (Text.lit "9 = true"))] :=
  (dissectTLVMessage_shows_iff plainHost .caseSigma2 [] (by decide) (by decide) _).2 rfl

end

end Matter.SecureChannel
