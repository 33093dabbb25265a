import MatterDissector.Security.Dissect
import MatterDissector.Security.Proof.CaseLayout

/-!
# The records of an exchange

Showing sections does not touch the CASE records. What a request and a response leave in the record
of their exchange depends on their bytes only (`dissectRequest_record`, `dissectResponse_record`).
Whatever a security message does and wherever it ends, it is one of three things: it leaves the
records of the requests and its own as they are, it takes over the record that the messages before
it lead to, or it is a request and makes one (`CaseStep`, `dissectMatterSecurity_step`).
-/

namespace Matter.Security

open Prog Message TLV TLV.Dissect Display

/-! ## Showing leaves the records alone -/

/-- All but the log and what was hashed. -/
def CaseState.exchange (s : CaseState) : List CASEExchangeRecord × Option Nat × List (Option Nat) :=
  (s.records, s.caseExchangeRec, s.prevByExchange)

section
variable {α : Type} {tvb : Tvb} {host : Host}

theorem leaves_onTvb {x : Prog TvbError Fault CaseState α} (hx : Leaves CaseState.exchange x) :
    Leaves CaseState.exchange (onTvb x) := by
  intro s
  have hend := hx s
  rw [onTvb, run_mapError]
  cases hrun : x.run s with
  | ok a s' =>
    rw [hrun] at hend
    exact hend
  | err e s' =>
    rw [hrun] at hend
    exact hend
  | fault f => trivial

theorem leaves_onTlv (tlv : TLVDissector) (x : DissectM α) :
    Leaves CaseState.exchange (onTlv tlv x) := by
  intro s
  unfold onTlv
  dsimp only
  cases x.run { tlv, log := s.log, retried := 0 } with
  | ok a t => rfl
  | err e t => rfl
  | fault f => rfl

theorem leaves_getBytes (start length : Nat) :
    Leaves CaseState.exchange (onTvb (tvb.getBytes start length)) :=
  leaves_onTvb (.ite (.pure _) (.throw _))

theorem leaves_memdup (start length : Nat) :
    Leaves CaseState.exchange (onTvb (tvb.memdup start length)) :=
  leaves_onTvb (.ite (.throw _) (.ite (.pure _) (.ite (.pure _) (.throw _))))

theorem leaves_getLE (k offset : Nat) :
    Leaves CaseState.exchange (onTvb (tvb.getLE k offset)) :=
  leaves_onTvb (.ite (.pure _) (.throw _))

theorem leaves_drawCase (call : Drawn) : Leaves CaseState.exchange (drawCase call) := by
  refine (Leaves.gets _).bind fun n => Leaves.bind (Leaves.modify ?_) fun _ => .pure _
  intro s
  rfl

theorem leaves_addItem (tree : ProtoNode) (hfindex : HeaderField) (start length : Nat) :
    Leaves CaseState.exchange (addItem tvb tree hfindex start length) :=
  (leaves_getBytes _ _).bind fun _ => leaves_drawCase _

theorem leaves_addBytesItem (tree : ProtoNode) (hfindex : HeaderField) (start length : Nat) :
    Leaves CaseState.exchange (addBytesItem tvb tree hfindex start length) :=
  (leaves_getBytes _ _).bind fun _ => leaves_drawCase _

theorem leaves_addSection (tagNum offset length : Nat) (hfindex : HeaderField) (ett : Ett)
    (member : ProtoNode → DissectM Unit) :
    Leaves CaseState.exchange (addSection tvb tagNum offset length hfindex ett member) := by
  refine (leaves_memdup _ _).bind fun data => ?_
  refine (leaves_onTlv _ _).bind fun ⟨tree, tlv⟩ => ?_
  exact (leaves_onTlv _ _).bind fun _ => .pure _

theorem leaves_showSignature (hfindex : HeaderField) (parsePoint sigLen : Nat) :
    Leaves CaseState.exchange (showSignature tvb hfindex parsePoint sigLen) :=
  .ite ((leaves_addSection _ _ _ _ _ _).bind fun _ => .pure _) (.pure _)

theorem leaves_showCommon (fields : CommonFields)
    (parsePoint ecdhPublicKeyLen certInfoLen payloadLen : Nat) :
    Leaves CaseState.exchange
      (showCommon tvb host fields parsePoint ecdhPublicKeyLen certInfoLen payloadLen) := by
  have hcert : ∀ parsePoint, Leaves CaseState.exchange
      (showCertInfo tvb host fields.certInfo parsePoint certInfoLen) := fun parsePoint =>
    .ite ((leaves_addSection _ _ _ _ _ _).bind fun _ => .pure _) (.pure _)
  refine (leaves_addBytesItem _ _ _ _).bind fun _ => (hcert _).bind fun _ => ?_
  exact .ite ((leaves_addBytesItem _ _ _ _).bind fun _ => .pure _) (.pure _)

theorem leaves_addListElems (listTree : ProtoNode) (hfindex : HeaderField) :
    ∀ (parsePoint count : Nat),
      Leaves CaseState.exchange (addListElems tvb listTree hfindex parsePoint count)
  | _, 0 => .pure _
  | parsePoint, count + 1 => (leaves_addItem _ _ _ _).bind fun _ =>
    leaves_addListElems listTree hfindex (parsePoint + 4) count

theorem leaves_showAltList (hfindex hfElem : HeaderField) (ett : Ett)
    (parsePoint itemCount count : Nat) : Leaves CaseState.exchange
      (showAltList tvb hfindex hfElem ett parsePoint itemCount count) := by
  refine (leaves_addItem _ _ _ _).bind fun list => (leaves_drawCase _).bind fun _ => ?_
  exact (leaves_addListElems _ _ _ _).bind fun _ => (leaves_drawCase _).bind fun _ => .pure _

theorem leaves_showKeyConfirmHash (parsePoint keyConfirmHashLen : Nat) :
    Leaves CaseState.exchange (showKeyConfirmHash tvb parsePoint keyConfirmHashLen) :=
  .ite ((leaves_addBytesItem _ _ _ _).bind fun _ => .pure _) (.pure _)

/-! ## What the accesses return -/

variable {s s' : CaseState}

theorem onTvb_ok {x : Prog TvbError Fault CaseState α} {a : α}
    (h : (onTvb x).run s = .ok a s') : x.run s = .ok a s' := by
  rw [onTvb, run_mapError] at h
  cases hrun : x.run s with
  | ok a' s₁ =>
    rw [hrun] at h
    cases h
    rfl
  | err e s₁ =>
    rw [hrun] at h
    cases h
  | fault f =>
    rw [hrun] at h
    cases h

/-- A short copy. -/
theorem memdup_ok {start length : Nat} {data : List UInt8} (hlength : length < 2 ^ 16)
    (h : (onTvb (tvb.memdup start length)).run s = .ok data s') :
    data = (tvb.bytes.drop start).take length ∧ s' = s := by
  have h := onTvb_ok h
  rw [Tvb.memdup] at h
  split at h
  · cases h
  · rw [if_neg (by omega)] at h
    split at h
    · cases h
      exact ⟨rfl, rfl⟩
    · cases h

theorem addListElems_ok {listTree : ProtoNode} {hfindex : HeaderField} {parsePoint count a : Nat}
    (h : (addListElems tvb listTree hfindex parsePoint count).run s = .ok a s') :
    a = parsePoint + count * 4 := by
  induction count generalizing parsePoint s with
  | zero =>
    cases h
    omega
  | succ count ih =>
    unfold addListElems at h
    obtain ⟨node, s₁, -, h⟩ := bind_eq_ok.1 h
    have ha := ih h
    omega

theorem showAltList_ok {hfindex hfElem : HeaderField} {ett : Ett}
    {parsePoint itemCount count a : Nat}
    (h : (showAltList tvb hfindex hfElem ett parsePoint itemCount count).run s = .ok a s') :
    a = parsePoint + count * 4 := by
  unfold showAltList at h
  obtain ⟨list, s₁, -, h⟩ := bind_eq_ok.1 h
  obtain ⟨-, s₂, -, h⟩ := bind_eq_ok.1 h
  obtain ⟨a', s₃, helems, h⟩ := bind_eq_ok.1 h
  obtain ⟨-, s₄, -, h⟩ := bind_eq_ok.1 h
  cases h
  exact addListElems_ok helems

theorem showAltLists_ok {m : CASEBeginSessionRequest} {a : Nat}
    (h : (showAltLists tvb m).run s = .ok a s') :
    a = 18 + m.altConfigCount * 4 + m.altCurveCount * 4 ∧ s'.exchange = s.exchange := by
  have hleaves : Leaves CaseState.exchange (showAltLists tvb m) :=
    (leaves_showAltList _ _ _ _ _ _).bind fun _ => leaves_showAltList _ _ _ _ _ _
  refine ⟨?_, hleaves.ok h⟩
  unfold showAltLists at h
  obtain ⟨parsePoint, s₁, hconfigs, hcurves⟩ := bind_eq_ok.1 h
  rw [showAltList_ok hcurves, showAltList_ok hconfigs]

/-! ## The two headers -/

/-- A message that is dissected passes the checks of its length. -/
theorem beginRequest_ok {m : CASEBeginSessionRequest} (h : (beginRequest tvb).run s = .ok m s') :
    m = requestOf tvb.bytes ∧ s'.exchange = s.exchange := by
  have hpasses : RequestPasses tvb.bytes := by
    unfold beginRequest at h
    obtain ⟨node, s₁, -, h⟩ := bind_eq_ok.1 h
    obtain ⟨_, s₂, hlong, h⟩ := bind_eq_ok.1 h
    obtain ⟨m', s₃, hread, h⟩ := bind_eq_ok.1 h
    obtain ⟨_, s₄, hwhole, h⟩ := bind_eq_ok.1 h
    have hlong := of_decide_eq_true (verify_eq_ok.1 hlong).1
    obtain ⟨s₅, hrun, -⟩ := shows_readRequest hlong s₂
    cases hrun.symm.trans hread
    exact ⟨hlong, of_decide_eq_true (verify_eq_ok.1 hwhole).1⟩
  obtain ⟨s₁, hrun, hshowed⟩ := shows_beginRequest hpasses s
  cases hrun.symm.trans h
  refine ⟨rfl, ?_⟩
  rw [hshowed.same]
  rfl

theorem beginResponse_ok {m : CASEBeginSessionResponse}
    (h : (beginResponse tvb).run s = .ok m s') :
    m = responseOf tvb.bytes ∧ s'.exchange = s.exchange := by
  have hpasses : ResponsePasses tvb.bytes := by
    unfold beginResponse at h
    obtain ⟨node, s₁, -, h⟩ := bind_eq_ok.1 h
    obtain ⟨_, s₂, hlong, h⟩ := bind_eq_ok.1 h
    obtain ⟨m', s₃, hread, h⟩ := bind_eq_ok.1 h
    obtain ⟨_, s₄, hwhole, h⟩ := bind_eq_ok.1 h
    have hlong := of_decide_eq_true (verify_eq_ok.1 hlong).1
    have hhash : keyConfirmHashLength (lengthAt 1 tvb.bytes 0) ≠ none := by
      intro hnone
      obtain ⟨s₅, hcontrol, -⟩ := @shows_getLE sectionFields tvb 1 0 (by omega) s₂
      rw [readResponse, bind_ok hcontrol, checkKeyConfirmHashLength, hnone] at hread
      cases hread
    obtain ⟨s₅, hrun, -⟩ := shows_readResponse hlong hhash s₂
    cases hrun.symm.trans hread
    exact ⟨hlong, hhash, of_decide_eq_true (verify_eq_ok.1 hwhole).1⟩
  obtain ⟨s₁, hrun, hshowed⟩ := shows_beginResponse hpasses s
  cases hrun.symm.trans h
  refine ⟨rfl, ?_⟩
  rw [hshowed.same]
  rfl

/-! ## The record of the exchange -/

variable {env : CaseEnv}

/-- The hash of a message's first bytes. -/
def messageHash (env : CaseEnv) (config : Nat) (msg : List UInt8) (len : Nat) : List UInt8 :=
  if config = configConfig1 then env.sha1 (msg.take len) else env.sha256 (msg.take len)

/-- The record that a request leaves. -/
def requestRecord (env : CaseEnv) (req : List UInt8) : CASEExchangeRecord :=
  let m := requestOf req
  { config := m.proposedConfig
    curveId := m.proposedCurveId
    keyId := m.proposedSessionId
    sessionType := m.proposedEncType
    reqECDHPublicKey := (req.drop (18 + m.altConfigCount * 4 + m.altCurveCount * 4)).take
      m.ecdhPublicKeyLen
    reqMsgHash := messageHash env m.proposedConfig req m.msgLenWithoutSig }

/-- The record once the response has come. -/
def exchangeRecord (env : CaseEnv) (req resp : List UInt8) : CASEExchangeRecord :=
  let m := responseOf resp
  { requestRecord env req with
    respECDHPublicKey := (resp.drop 6).take m.ecdhPublicKeyLen
    respMsgHash := messageHash env (requestOf req).proposedConfig resp m.signedMsgLen }

theorem lengthAt_lt (k : Nat) (bytes : List UInt8) (offset : Nat) :
    lengthAt k bytes offset < 256 ^ k := by
  refine Nat.lt_of_lt_of_le (LE.value_lt _) (Nat.pow_le_pow_right (by decide) ?_)
  exact List.length_take_le _ _

theorem computeCASEMessageHash_ok {config len : Nat} {msgHash : List UInt8} (hlen : len < 2 ^ 16)
    (h : (computeCASEMessageHash tvb env len config).run s = .ok msgHash s') :
    msgHash = messageHash env config tvb.bytes len ∧ s'.exchange = s.exchange := by
  unfold computeCASEMessageHash at h
  obtain ⟨msgWithoutSig, s₁, hcopy, h⟩ := bind_eq_ok.1 h
  obtain ⟨hmsg, hs₁⟩ := memdup_ok hlen hcopy
  rw [modify_bind, hmsg, hs₁] at h
  cases h
  exact ⟨rfl, rfl⟩

/-- The first message of an exchange. -/
theorem dissectRequest_record {req : List UInt8}
    (h : (dissectRequest (.ofBytes req) env).run s = .ok () s')
    (hown : s.caseExchangeRec = none) :
    s'.records = s.records ++ [requestRecord env req] ∧
      s'.caseExchangeRec = some s.records.length := by
  unfold dissectRequest at h
  obtain ⟨m, s₁, hbegin, h⟩ := bind_eq_ok.1 h
  obtain ⟨rfl, h₁⟩ := beginRequest_ok hbegin
  obtain ⟨offset, s₂, hlists, h⟩ := bind_eq_ok.1 h
  obtain ⟨rfl, h₂⟩ := showAltLists_ok hlists
  obtain ⟨parsePoint, s₃, hcommon, h⟩ := bind_eq_ok.1 h
  have h₃ := (leaves_showCommon _ _ _ _ _).ok hcommon
  obtain ⟨_, s₄, hsignature, h⟩ := bind_eq_ok.1 h
  have h₄ := (leaves_showSignature _ _ _).ok hsignature
  have hexchange : s₄.exchange = s.exchange := h₄.trans (h₃.trans (h₂.trans h₁))
  have hrecords : s₄.records = s.records := congrArg Prod.fst hexchange
  have hown₄ : s₄.caseExchangeRec = none :=
    (congrArg (fun e => e.2.1) hexchange).trans hown
  unfold recordRequest at h
  rw [gets_bind, if_pos hown₄] at h
  obtain ⟨reqECDHPublicKey, s₅, hkey, h⟩ := bind_eq_ok.1 h
  obtain ⟨hkeyEq, hs₅⟩ := memdup_ok (Nat.lt_trans (lengthAt_lt 1 req 3) (by decide)) hkey
  rw [hkeyEq, hs₅] at h
  obtain ⟨reqMsgHash, s₆, hhash, h⟩ := bind_eq_ok.1 h
  obtain ⟨hhashEq, h₆⟩ := computeCASEMessageHash_ok (Nat.mod_lt _ (by decide)) hhash
  rw [hhashEq] at h
  cases h
  have hrecords₆ : s₆.records = s.records := (congrArg Prod.fst h₆).trans hrecords
  exact ⟨congrArg (· ++ [requestRecord env req]) hrecords₆,
    congrArg (fun records => some records.length) hrecords₆⟩

/-- The response that finds the record at `p` among the messages before it. -/
theorem dissectResponse_record {resp : List UInt8} {p : Nat} {r : CASEExchangeRecord}
    (h : (dissectResponse (.ofBytes resp) env).run s = .ok () s')
    (hown : s.caseExchangeRec = none) (hprev : s.prevByExchange.findSome? id = some p)
    (hr : s.records[p]? = some r) :
    s'.caseExchangeRec = some p ∧ s'.records[p]? = some { r with
      respECDHPublicKey := (resp.drop 6).take (responseOf resp).ecdhPublicKeyLen
      respMsgHash := messageHash env r.config resp (responseOf resp).signedMsgLen } := by
  unfold dissectResponse at h
  obtain ⟨m, s₁, hbegin, h⟩ := bind_eq_ok.1 h
  obtain ⟨rfl, h₁⟩ := beginResponse_ok hbegin
  obtain ⟨parsePoint, s₂, hcommon, h⟩ := bind_eq_ok.1 h
  have h₂ := (leaves_showCommon _ _ _ _ _).ok hcommon
  obtain ⟨_, s₃, hsignature, h⟩ := bind_eq_ok.1 h
  have h₃ := (leaves_showSignature _ _ _).ok hsignature
  obtain ⟨_, s₄, hconfirm, h⟩ := bind_eq_ok.1 h
  have h₄ := (leaves_showKeyConfirmHash _ _).ok hconfirm
  have hexchange : s₄.exchange = s.exchange := h₄.trans (h₃.trans (h₂.trans h₁))
  have hr₄ : s₄.records[p]? = some r := by
    rw [show s₄.records = s.records from congrArg Prod.fst hexchange]
    exact hr
  have hown₄ : s₄.caseExchangeRec = none :=
    (congrArg (fun e => e.2.1) hexchange).trans hown
  have hfound : findCASEExchangeRecord s₄ = some p := by
    have hbefore : s₄.prevByExchange = s.prevByExchange := congrArg (fun e => e.2.2) hexchange
    rw [findCASEExchangeRecord, hown₄, hbefore, hprev]
    rfl
  unfold recordResponse at h
  rw [gets_bind, gets_bind, hown₄, hfound, if_pos rfl] at h
  unfold recordResponseAt at h
  rw [modify_bind] at h
  obtain ⟨respECDHPublicKey, s₅, hkey, h⟩ := bind_eq_ok.1 h
  obtain ⟨hkeyEq, hs₅⟩ := memdup_ok (Nat.lt_trans (lengthAt_lt 1 resp 1) (by decide)) hkey
  have hconfig : (s₄.records[p]?.map (·.config)).getD 0 = r.config := by
    rw [hr₄]
    rfl
  rw [gets_bind, hkeyEq, hs₅, hconfig] at h
  obtain ⟨respMsgHash, s₆, hhash, h⟩ := bind_eq_ok.1 h
  obtain ⟨hhashEq, h₆⟩ := computeCASEMessageHash_ok (Nat.mod_lt _ (by decide)) hhash
  rw [hhashEq] at h
  cases h
  have hrecords : s₆.records = s₄.records := congrArg Prod.fst h₆
  have hown₆ : s₆.caseExchangeRec = some p := congrArg (fun e => e.2.1) h₆
  refine ⟨hown₆, ?_⟩
  show (s₆.records.modify p _)[p]? = _
  rw [List.getElem?_modify_eq, hrecords, hr₄]
  rfl

end

/-! ## What a security message does -/

/-- The fields that a request sets. -/
def CASEExchangeRecord.requestPart (r : CASEExchangeRecord) : CASEExchangeRecord :=
  { r with respECDHPublicKey := [], respMsgHash := [] }

/-- What a message does to the CASE records and to its own; `request` is its payload, if it is a
request. -/
inductive CaseStep (env : CaseEnv) (request : Option (List UInt8)) (s t : CaseState) : Prop
  | keeps (hrecords : t.records.map (·.requestPart) = s.records.map (·.requestPart))
      (hown : t.caseExchangeRec = s.caseExchangeRec)
  | takes (hrecords : t.records.map (·.requestPart) = s.records.map (·.requestPart))
      (hnone : s.caseExchangeRec = none)
      (hown : t.caseExchangeRec = s.prevByExchange.findSome? id)
  | requests {bytes : List UInt8} (hrequest : request = some bytes)
      (hnone : s.caseExchangeRec = none)
      (hrecords : t.records = s.records ++ [requestRecord env bytes])
      (hown : t.caseExchangeRec = some s.records.length)

section
variable {tvb : Tvb} {env : CaseEnv} {s t : CaseState}

theorem CaseStep.of_exchange (h : t.exchange = s.exchange) : CaseStep env none s t := by
  obtain ⟨hrecords, hown⟩ := Prod.mk.inj h
  exact .keeps (congrArg (List.map _) hrecords) (congrArg Prod.fst hown)

/-- What any other message does, a request may do, too. -/
theorem CaseStep.mono (h : CaseStep env none s t) (request : Option (List UInt8)) :
    CaseStep env request s t := by
  cases h with
  | keeps hrecords hown => exact .keeps hrecords hown
  | takes hrecords hnone hown => exact .takes hrecords hnone hown
  | requests hrequest => cases hrequest

/-- The request parts of the records stay. -/
theorem CaseStep.kept {request : Option (List UInt8)} {p : Nat} {r : CASEExchangeRecord}
    (h : CaseStep env request s t) (hp : s.records[p]?.map (·.requestPart) = some r) :
    t.records[p]?.map (·.requestPart) = some r := by
  cases h with
  | keeps hrecords =>
    rw [← List.getElem?_map, hrecords, List.getElem?_map]
    exact hp
  | takes hrecords =>
    rw [← List.getElem?_map, hrecords, List.getElem?_map]
    exact hp
  | requests _ _ hrecords =>
    obtain ⟨r', hr', -⟩ := Option.map_eq_some_iff.1 hp
    rw [hrecords, List.getElem?_append_left (List.getElem?_eq_some_iff.1 hr').1]
    exact hp

/-! ### Requests -/

theorem leaves_readRequest : Leaves CaseState.exchange (readRequest tvb) := by
  refine (leaves_getLE 1 0).bind fun control => ?_
  refine (leaves_addItem _ _ _ _).bind fun _ => (leaves_addItem _ _ _ _).bind fun _ => ?_
  refine (leaves_addItem _ _ _ _).bind fun _ => ?_
  refine (leaves_getLE 1 1).bind fun _ => (leaves_getLE 1 2).bind fun _ => ?_
  refine (leaves_getLE 1 3).bind fun _ => (leaves_getLE 2 4).bind fun _ => ?_
  refine (leaves_getLE 2 6).bind fun _ => (leaves_getLE 4 8).bind fun _ => ?_
  refine (leaves_addItem _ _ _ _).bind fun _ => (leaves_getLE 4 12).bind fun _ => ?_
  refine (leaves_addItem _ _ _ _).bind fun _ => (leaves_getLE 2 16).bind fun _ => ?_
  exact (leaves_addItem _ _ _ _).bind fun _ => .pure _

theorem leaves_beginRequest : Leaves CaseState.exchange (beginRequest tvb) :=
  (leaves_drawCase _).bind fun _ => (Leaves.verify _ _).bind fun _ =>
    leaves_readRequest.bind fun _ => (Leaves.verify _ _).bind fun _ => .pure _

theorem leaves_showAltLists (m : CASEBeginSessionRequest) :
    Leaves CaseState.exchange (showAltLists tvb m) :=
  (leaves_showAltList _ _ _ _ _ _).bind fun _ => leaves_showAltList _ _ _ _ _ _

theorem leaves_computeCASEMessageHash (len config : Nat) :
    Leaves CaseState.exchange (computeCASEMessageHash tvb env len config) := by
  refine (leaves_memdup _ _).bind fun msg => Leaves.bind (.modify ?_) fun _ => .pure _
  intro s
  rfl

/-- Only where it returns, and only a message without a record, makes one. -/
theorem recordRequest_keeps (m : CASEBeginSessionRequest) (offset : Nat) (s : CaseState) :
    Ends (fun _ => True) (fun t => t.exchange = s.exchange) (recordRequest tvb env m offset)
      (fun _ t => s.caseExchangeRec ≠ none → t.exchange = s.exchange)
      (fun _ t => t.exchange = s.exchange) := by
  refine Ends.gets_bind fun own => Ends.ite (fun hnone => ?_) fun _ => Ends.pure fun t ht _ => ht.1
  have hstart : Keeps (fun t : CaseState => t.exchange = s.exchange)
      (onTvb (tvb.memdup offset m.ecdhPublicKeyLen)) := (leaves_memdup _ _).keeps (· = s.exchange)
  have hhash : Keeps (fun t : CaseState => t.exchange = s.exchange)
      (computeCASEMessageHash tvb env m.msgLenWithoutSig m.proposedConfig) :=
    (leaves_computeCASEMessageHash _ _).keeps (· = s.exchange)
  refine Ends.of_each fun t ht => ?_
  have hown : s.caseExchangeRec = none :=
    (congrArg (fun e => e.2.1) ht.1).symm.trans (ht.2.trans hnone)
  refine Ends.conseq (P := fun t => t.exchange = s.exchange) ?_ (fun _ h => h) ?_
    (fun _ _ h => h) fun _ _ h => h
  · refine Ends.bind hstart fun key => Ends.bind hhash fun hash => Ends.modify fun t _ hsome => ?_
    exact absurd hown hsome
  · rintro _ rfl
    exact ht.1

theorem dissectRequest_step (env : CaseEnv) (bytes : List UInt8) (s : CaseState) :
    Ends (fun _ => True) (· = s) (dissectRequest (.ofBytes bytes) env)
      (fun _ => CaseStep env (some bytes) s) (fun _ => CaseStep env none s) := by
  have hkeeps : Ends (fun _ => True) (fun t => t.exchange = s.exchange)
      (dissectRequest (.ofBytes bytes) env)
      (fun _ t => s.caseExchangeRec ≠ none → t.exchange = s.exchange)
      (fun _ t => t.exchange = s.exchange) := by
    refine Ends.bind (leaves_beginRequest.keeps (· = s.exchange)) fun m => ?_
    refine Ends.bind ((leaves_showAltLists m).keeps (· = s.exchange)) fun offset => ?_
    refine Ends.bind ((leaves_showCommon _ _ _ _ _).keeps (· = s.exchange)) fun parsePoint => ?_
    refine Ends.bind ((leaves_showSignature _ _ _).keeps (· = s.exchange)) fun _ => ?_
    exact recordRequest_keeps m offset s
  rintro s rfl
  have hend := hkeeps s rfl
  cases hrun : (dissectRequest (.ofBytes bytes) env).run s with
  | ok _ t =>
    rw [hrun] at hend
    by_cases hnone : s.caseExchangeRec = none
    · obtain ⟨hrecords, hown⟩ := dissectRequest_record hrun hnone
      exact .requests rfl hnone hrecords hown
    · exact (CaseStep.of_exchange (hend hnone)).mono _
  | err e t =>
    rw [hrun] at hend
    exact .of_exchange hend
  | fault f => trivial

/-! ### Responses -/

theorem leaves_beginResponse : Leaves CaseState.exchange (beginResponse tvb) := by
  have hcheck : ∀ control, Leaves CaseState.exchange (checkKeyConfirmHashLength control) := by
    intro control
    unfold checkKeyConfirmHashLength
    split
    · exact .pure _
    · exact .throw _
  refine (leaves_drawCase _).bind fun _ => (Leaves.verify _ _).bind fun _ => ?_
  refine Leaves.bind ?_ fun _ => (Leaves.verify _ _).bind fun _ => .pure _
  refine (leaves_getLE 1 0).bind fun control => (hcheck control).bind fun _ => ?_
  refine (leaves_addItem _ _ _ _).bind fun _ => ?_
  refine Leaves.bind ((leaves_getBytes _ _).bind fun _ => leaves_drawCase _) fun _ => ?_
  refine (leaves_getLE 1 1).bind fun _ => (leaves_getLE 2 2).bind fun _ => ?_
  exact (leaves_getLE 2 4).bind fun _ => .pure _

/-- The record that a message takes over is that of a message before it. -/
theorem found_of_exchange {own : Option Nat} {p : Nat} (h : t.exchange = s.exchange)
    (hown : t.caseExchangeRec = own)
    (hfound : (if own = none then findCASEExchangeRecord t else none) = some p) :
    s.caseExchangeRec = none ∧ s.prevByExchange.findSome? id = some p := by
  have hown' : s.caseExchangeRec = own := (congrArg (fun e => e.2.1) h).symm.trans hown
  have hprev : t.prevByExchange = s.prevByExchange := congrArg (fun e => e.2.2) h
  split at hfound
  · rename_i hnone
    rw [findCASEExchangeRecord, hown, hnone, hprev] at hfound
    exact ⟨hown'.trans hnone, hfound⟩
  · cases hfound

theorem recordResponseAt_step (m : CASEBeginSessionResponse) {p : Nat}
    (hnone : s.caseExchangeRec = none) (hfound : s.prevByExchange.findSome? id = some p) :
    Ends (fun _ => True) (fun t => t.exchange = s.exchange) (recordResponseAt tvb env m p)
      (fun _ => CaseStep env none s) (fun _ => CaseStep env none s) := by
  have htakes : ∀ t : CaseState, t.exchange = (s.records, some p, s.prevByExchange) →
      CaseStep env none s t := by
    intro t ht
    have hown : t.caseExchangeRec = some p := congrArg (fun e => e.2.1) ht
    exact .takes (congrArg (fun e => e.1.map (·.requestPart)) ht) hnone (hown.trans hfound.symm)
  refine Ends.bind (Q := fun _ t => t.exchange = (s.records, some p, s.prevByExchange))
    (Ends.modify fun t ht => ?_) fun _ => ?_
  · show (t.records, some p, t.prevByExchange) = _
    rw [show t.records = s.records from congrArg Prod.fst ht,
      show t.prevByExchange = s.prevByExchange from congrArg (fun e => e.2.2) ht]
  refine Ends.bind (Ends.conseq ((leaves_memdup _ _).keeps (· = _)) (fun _ h => h) (fun _ h => h)
    (fun _ _ h => h) fun _ => htakes) fun key => ?_
  refine Ends.gets_bind fun config => Ends.conseq (P := fun t =>
    t.exchange = (s.records, some p, s.prevByExchange)) ?_ (fun _ h => h) (fun t ht => ht.1)
    (fun _ _ h => h) fun _ _ h => h
  refine Ends.bind (Ends.conseq ((leaves_computeCASEMessageHash _ _).keeps (· = _)) (fun _ h => h)
    (fun _ h => h) (fun _ _ h => h) fun _ => htakes) fun hash => Ends.modify fun t ht => ?_
  have hrecords : t.records = s.records := congrArg Prod.fst ht
  have hown : t.caseExchangeRec = some p := congrArg (fun e => e.2.1) ht
  refine .takes ?_ hnone (hown.trans hfound.symm)
  show (t.records.modify p _).map _ = _
  rw [hrecords]
  refine List.ext_getElem? fun q => ?_
  rw [List.getElem?_map, List.getElem?_map, List.getElem?_modify]
  cases s.records[q]? with
  | none => rfl
  | some r => by_cases hq : p = q <;> simp [hq, CASEExchangeRecord.requestPart]

theorem dissectResponse_step (env : CaseEnv) (bytes : List UInt8) (s : CaseState) :
    Ends (fun _ => True) (· = s) (dissectResponse (.ofBytes bytes) env)
      (fun _ => CaseStep env none s) (fun _ => CaseStep env none s) := by
  have hsame : ∀ {β : Type} {x : CaseM β}, Leaves CaseState.exchange x →
      Ends (fun _ => True) (fun t => t.exchange = s.exchange) x
        (fun _ t => t.exchange = s.exchange) (fun _ => CaseStep env none s) := fun hx =>
    Ends.conseq (hx.keeps (· = s.exchange)) (fun _ h => h) (fun _ h => h) (fun _ _ h => h)
      fun _ _ h => .of_exchange h
  refine Ends.conseq (P := fun t => t.exchange = s.exchange) ?_ (fun _ h => h)
    (fun t ht => ht ▸ rfl) (fun _ _ h => h) fun _ _ h => h
  refine Ends.bind (hsame leaves_beginResponse) fun m => ?_
  refine Ends.bind (hsame (leaves_showCommon _ _ _ _ _)) fun parsePoint => ?_
  refine Ends.bind (hsame (leaves_showSignature _ _ _)) fun parsePoint => ?_
  refine Ends.bind (hsame (leaves_showKeyConfirmHash _ _)) fun _ => ?_
  refine Ends.gets_bind fun own => Ends.gets_bind fun found => ?_
  refine Ends.of_each fun t ht => ?_
  obtain ⟨⟨hexchange, hown⟩, hfind⟩ := ht
  cases hfound : (if own = none then found else none) with
  | none => exact Ends.pure fun t' ht' => .of_exchange (ht' ▸ hexchange)
  | some p =>
    rw [← hfind] at hfound
    obtain ⟨hnone, hprev⟩ := found_of_exchange hexchange hown hfound
    exact (recordResponseAt_step m hnone hprev).at hexchange

/-! ### Key confirmations -/

theorem dissectKeyConfirm_step (env : CaseEnv) (bytes : List UInt8) (s : CaseState) :
    Ends (fun _ => True) (· = s) (dissectKeyConfirm (.ofBytes bytes))
      (fun _ => CaseStep env none s) (fun _ => CaseStep env none s) := by
  have hsame : ∀ {β : Type} {x : CaseM β}, Leaves CaseState.exchange x →
      Ends (fun _ => True) (fun t => t.exchange = s.exchange) x
        (fun _ t => t.exchange = s.exchange) (fun _ => CaseStep env none s) := fun hx =>
    Ends.conseq (hx.keeps (· = s.exchange)) (fun _ h => h) (fun _ h => h) (fun _ _ h => h)
      fun _ _ h => .of_exchange h
  refine Ends.conseq (P := fun t => t.exchange = s.exchange) ?_ (fun _ h => h)
    (fun t ht => ht ▸ rfl) (fun _ _ h => h) fun _ _ h => h
  refine Ends.bind (hsame (leaves_drawCase _)) fun _ => ?_
  refine Ends.bind (hsame (.verify _ _)) fun _ => ?_
  refine Ends.bind (hsame (leaves_addBytesItem _ _ _ _)) fun _ => ?_
  refine Ends.gets_bind fun own => Ends.gets_bind fun found => ?_
  refine Ends.of_each fun t ht => ?_
  obtain ⟨⟨hexchange, hown⟩, hfind⟩ := ht
  cases hfound : (if own = none then found else none) with
  | none => exact Ends.pure fun t' ht' => .of_exchange (ht' ▸ hexchange)
  | some p =>
    rw [← hfind] at hfound
    obtain ⟨hnone, hprev⟩ := found_of_exchange hexchange hown hfound
    refine Ends.modify ?_
    rintro _ rfl
    exact .takes (congrArg (fun e => e.1.map (·.requestPart)) hexchange) hnone hprev.symm

end

end Matter.Security
