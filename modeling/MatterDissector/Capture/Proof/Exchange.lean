import MatterDissector.Capture.Proof.AsSent
import MatterDissector.Security.Proof.Returns

/-!
# CASE exchanges in a capture

From a request on, and as long as no other request of its exchange is dissected, every record of the
exchange that has a CASE record has one of this request (`Leads`). So a response finds it, and
the key that is recovered is that of the two messages (`Leads.response`).
-/

namespace Matter.Capture

open Prog Message Tracker Security Intrusive

/-! ## The records of an exchange -/

section
variable {msgs : List TrackedMessage} {m : TrackedMessage} {key : Key} {p q : RecordRef}

/-- The places of the messages of an exchange. -/
abbrev exchangePlaces (msgs : List TrackedMessage) (key : Key) : List RecordRef :=
  positions TrackedMessage.exchangeKey msgs key

theorem exchangeBefore_eq (hp : p ∈ exchangePlaces msgs key) :
    exchangeBefore msgs p = ((exchangePlaces msgs key).filter (· < p)).reverse := by
  obtain ⟨m, hm, rfl⟩ := Option.map_eq_some_iff.1 (mem_positions.1 hp)
  rw [exchangeBefore, History.sameExchange, hm]
  rfl

theorem mem_exchangeBefore (hp : p ∈ exchangePlaces msgs key) :
    q ∈ exchangeBefore msgs p ↔ q ∈ exchangePlaces msgs key ∧ q < p := by
  rw [exchangeBefore_eq hp, List.mem_reverse, List.mem_filter, decide_eq_true_eq]

/-- The nearest come first. -/
theorem pairwise_exchangeBefore (hp : p ∈ exchangePlaces msgs key) :
    (exchangeBefore msgs p).Pairwise (· > ·) := by
  rw [exchangeBefore_eq hp, List.pairwise_reverse]
  exact List.Pairwise.filter _ List.pairwise_findIdxs

theorem mem_exchangePlaces_recordMessage (hp : p ∈ exchangePlaces msgs key)
    (m : TrackedMessage) : p ∈ exchangePlaces (recordMessage msgs m) key := by
  have hlt := lt_of_mem_positions hp
  rw [mem_positions] at hp ⊢
  unfold recordMessage
  split
  · rw [List.getElem?_append_left hlt, hp]
  · exact hp

theorem mem_exchangePlaces_of_recordMessage (hlt : p < msgs.length)
    (hp : p ∈ exchangePlaces (recordMessage msgs m) key) : p ∈ exchangePlaces msgs key := by
  rw [mem_positions] at hp ⊢
  unfold recordMessage at hp
  split at hp
  · rwa [List.getElem?_append_left hlt] at hp
  · exact hp

/-- A search that begins at the highest number. -/
theorem exists_findSome?_of_pairwise {α : Type} {xs : List Nat} (hxs : xs.Pairwise (· > ·))
    {f : Nat → Option α} {x : Nat} (hx : x ∈ xs) (hf : f x ≠ none) :
    ∃ y ∈ xs, x ≤ y ∧ f y ≠ none ∧ xs.findSome? f = f y := by
  induction xs with
  | nil => cases hx
  | cons y ys ih =>
    obtain ⟨hy, hys⟩ := List.pairwise_cons.1 hxs
    rw [List.findSome?_cons]
    cases hfy : f y with
    | some a =>
      refine ⟨y, List.mem_cons_self, ?_, by simp [hfy], hfy.symm⟩
      rcases List.mem_cons.1 hx with rfl | hx
      · exact Nat.le_refl _
      · exact Nat.le_of_lt (hy x hx)
    | none =>
      have hx : x ∈ ys := by
        rcases List.mem_cons.1 hx with rfl | hx
        · exact absurd hfy hf
        · exact hx
      obtain ⟨z, hz, hle, hne, hfind⟩ := ih hys hx
      exact ⟨z, List.mem_cons_of_mem _ hz, hle, hne, hfind⟩

end

/-! ## From the request on -/

/-- The record at `p₀` is of the exchange and has a CASE record. So do others, maybe; those that
came with it or later are all of the request `req`. -/
structure Leads (env : CaseEnv) (req : List UInt8) (key : Key) (p₀ : RecordRef)
    (msgs : List TrackedMessage) (s : DissectorState) : Prop where
  place : p₀ ∈ exchangePlaces msgs key
  has : s.caseExchangeRec p₀ ≠ none
  leads : ∀ p q, p₀ ≤ p → p ∈ exchangePlaces msgs key → s.caseExchangeRec p = some q →
    s.caseRecords[q]?.map (·.requestPart) = some (requestRecord env req)

section
variable {env : CaseEnv} {req : List UInt8} {key : Key} {p₀ p : RecordRef}
  {msgs : List TrackedMessage} {s s' : DissectorState}

/-- What the messages before a later one lead to. -/
theorem Leads.found (h : Leads env req key p₀ msgs s) (hp : p ∈ exchangePlaces msgs key)
    (hlt : p₀ < p) :
    ∃ q, ((exchangeBefore msgs p).map s.caseExchangeRec).findSome? id = some q ∧
      s.caseRecords[q]?.map (·.requestPart) = some (requestRecord env req) := by
  obtain ⟨p', hp', hle, hne, hfind⟩ := exists_findSome?_of_pairwise (pairwise_exchangeBefore hp)
    ((mem_exchangeBefore hp).2 ⟨h.place, hlt⟩) h.has
  obtain ⟨q, hq⟩ := Option.ne_none_iff_exists'.1 hne
  refine ⟨q, ?_, h.leads p' q hle ((mem_exchangeBefore hp).1 hp').1 hq⟩
  rw [List.findSome?_map, ← hq, ← hfind]
  rfl

/-- The tracker has a new message, maybe, which has no CASE record. -/
theorem Leads.tracked (h : Leads env req key p₀ msgs s)
    (hfresh : ∀ p, msgs.length ≤ p → s.caseExchangeRec p = none) (m : TrackedMessage)
    (decrypt : DecryptState) (tracker : TrackerState) :
    Leads env req key p₀ (recordMessage msgs m) { s with decrypt, tracker } := by
  refine ⟨mem_exchangePlaces_recordMessage h.place m, h.has, fun p q hle hp hq => ?_⟩
  rcases Nat.lt_or_ge p msgs.length with hlt | hge
  · exact h.leads p q hle (mem_exchangePlaces_of_recordMessage hlt hp) hq
  · cases (hfresh p hge).symm.trans hq

/-- What a payload dissector does, unless it is that of another request. -/
theorem Leads.payload {request : Option (List UInt8)} (h : Leads env req key p₀ msgs s)
    (hstep : PayloadStep env request msgs p s s')
    (hrequest : p ∈ exchangePlaces msgs key → ∀ bytes, request = some bytes → bytes = req) :
    Leads env req key p₀ msgs s' := by
  cases hstep with
  | keeps hs' =>
    rw [hs']
    exact h
  | @security t hstep hs' =>
    rw [hs']
    have hother : ∀ p', p' ≠ p → (s.recovered p t).caseExchangeRec p' = s.caseExchangeRec p' :=
      fun p' hne => Function.update_of_ne hne _ _
    have hself : (s.recovered p t).caseExchangeRec p = t.case.caseExchangeRec :=
      Function.update_self p _ _
    refine ⟨h.place, ?_, fun p' q hle hp' hq => ?_⟩
    · by_cases hp : p₀ = p
      · subst hp
        rw [hself]
        cases hstep.case with
        | keeps _ hown => exact hown ▸ h.has
        | takes _ hnone => exact absurd hnone h.has
        | requests _ hnone => exact absurd hnone h.has
      · rw [hother p₀ hp]
        exact h.has
    · by_cases hp : p' = p
      · subst hp
        rw [hself] at hq
        cases hstep.case with
        | keeps hrecords hown =>
          exact hstep.case.kept (h.leads p' q hle hp' (hown.symm.trans hq))
        | takes hrecords hnone hown =>
          have hlt : p₀ < p' := Nat.lt_of_le_of_ne hle fun heq => h.has (heq ▸ hnone)
          obtain ⟨q', hfound, hq'⟩ := h.found hp' hlt
          cases (hown.symm.trans hq).symm.trans hfound
          exact hstep.case.kept hq'
        | requests hbytes hnone hrecords hown =>
          cases hown.symm.trans hq
          cases hrequest hp' _ hbytes
          show t.case.records[_]?.map _ = _
          rw [hrecords, List.getElem?_concat_length]
          rfl
      · rw [hother p' hp] at hq
        exact hstep.case.kept (h.leads p' q hle hp' hq)

end

/-! ## The packets between -/

/-- The CASE request that is shown. -/
def Shown.request : Shown → Option (List UInt8)
  | .encrypted _ _ => none
  | .message msgInfo _ _ payload => requestIn msgInfo payload

/-- A message of the exchange has been shown in the frame. -/
def InExchange (capture : List Packet) (results : List (Except TvbError Shown)) (key : Key)
    (num : Nat) : Prop :=
  ∃ m, ShownIn capture results m ∧ m.frameNum = num ∧ m.exchangeKey = key

/-- Between the packets `i` and `j`, no frame of the exchange shows a request other than `req`. -/
def NoOtherRequest (capture : List Packet) (results : List (Except TvbError Shown)) (key : Key)
    (req : List UInt8) (i j : Nat) : Prop :=
  ∀ k packet shown bytes, i < k → k < j → capture[k]? = some packet →
    results[k]? = some (.ok shown) → shown.request = some bytes →
    InExchange (capture.take (k + 1)) (results.take (k + 1)) key packet.pinfo.num → bytes = req

section
variable {env : DissectorEnv} {file : Option (List MatterProxyHintKey)} {st : DecryptState}
  {capture : List Packet} {packet : Packet} {results : List (Except TvbError Shown)}
  {msgs : List TrackedMessage} {s s' : DissectorState} {req : List UInt8} {key : Key}
  {p₀ : RecordRef}

/-- One packet. -/
theorem Leads.next (h : Leads env.case req key p₀ msgs s)
    (hafter : After env file st capture results msgs s) {result : Except TvbError Shown}
    (hrun : (attempt (dissectPacket env file packet)).run s = .ok result s')
    (hrequest : ∀ shown bytes, result = .ok shown → shown.request = some bytes →
      InExchange (capture ++ [packet]) (results ++ [result]) key packet.pinfo.num →
      bytes = req) :
    ∃ msgs', After env file st (capture ++ [packet]) (results ++ [result]) msgs' s' ∧
      Leads env.case req key p₀ msgs' s' := by
  have hstep := hafter.step hrun
  cases hstep with
  | @message m items payload a decrypt t s' hpinfo htracked hgrown hpayload =>
    have hafter' := hafter.message hrun hpinfo htracked hgrown hpayload
    refine ⟨_, hafter', (h.tracked hafter.sound.fresh m decrypt t).payload hpayload ?_⟩
    intro hplace bytes hbytes
    refine hrequest _ bytes rfl hbytes ?_
    obtain ⟨m', hm', hnum⟩ := placeOf_spec htracked.place
    refine ⟨m', hafter'.shown m' (List.mem_of_getElem? hm'), ?_, ?_⟩
    · rw [hnum]
      exact congrArg PacketInfo.num hpinfo
    · rw [mem_positions, hm'] at hplace
      exact Option.some.inj hplace
  | other hresult hgrown =>
    exact ⟨msgs, hafter.other hrun hgrown, h.place, h.has, h.leads⟩

/-- The packets up to `k`. -/
theorem Leads.run (hrun : (dissectCapture env file capture).run (.start st) = .ok results s')
    {i j k : Nat} (hother : NoOtherRequest capture results key req i j)
    (hafter : After env file st (capture.take (i + 1)) (results.take (i + 1)) msgs s)
    (h : Leads env.case req key p₀ msgs s) (hik : i + 1 ≤ k) (hkj : k ≤ j)
    (hk : k ≤ capture.length) :
    ∃ msgs' t, After env file st (capture.take k) (results.take k) msgs' t ∧
      Leads env.case req key p₀ msgs' t := by
  induction hik with
  | refl => exact ⟨msgs, s, hafter, h⟩
  | @step k hik ih =>
    obtain ⟨msgs', t, hafter', h'⟩ := ih (Nat.le_of_succ_le hkj) (Nat.le_of_succ_le hk)
    have hpacket : capture[k]? = some capture[k] := List.getElem?_eq_getElem hk
    obtain ⟨t', s₂, result, hresult, hbefore, hrun', -⟩ := dissectCapture_at hrun hpacket
    cases hbefore.symm.trans hafter'.run
    have hcapture : capture.take (k + 1) = capture.take k ++ [capture[k]] := by
      rw [List.take_add_one, hpacket]
      rfl
    have hresults : results.take (k + 1) = results.take k ++ [result] := by
      rw [List.take_add_one, hresult]
      rfl
    have hrequest : ∀ shown bytes, result = .ok shown → shown.request = some bytes →
        InExchange (capture.take k ++ [capture[k]]) (results.take k ++ [result]) key
          capture[k].pinfo.num → bytes = req := by
      intro shown bytes hshown hbytes hin
      refine hother k capture[k] shown bytes (Nat.lt_of_succ_le hik) (Nat.lt_of_succ_le hkj)
        hpacket (hresult.trans (congrArg some hshown)) hbytes ?_
      rw [hcapture, hresults]
      exact hin
    rw [hcapture, hresults]
    obtain ⟨msgs₂, hnext⟩ := h'.next hafter' hrun' hrequest
    exact ⟨msgs₂, s₂, hnext⟩

end

/-! ## The request and the response -/

namespace SentMessage

def sourceNodeId (m : SentMessage) : Nat := m.header.source.elim 0 UInt64.toNat

def fromInitiator (m : SentMessage) : Bool :=
  m.protocol.exchangeFlags.toNat &&& exchangeFlagInitiator ≠ 0

/-- The key of the exchange: the node id of the initiator, that of the responder, the id. -/
def exchangeKey (m : SentMessage) : Key :=
  getExchangeKey
    (if m.fromInitiator then m.sourceNodeId else m.header.destination.nodeIdOrZero)
    (if m.fromInitiator then m.header.destination.nodeIdOrZero else m.sourceNodeId)
    m.protocol.exchangeId.toNat

end SentMessage

/-- Packet `i` is the first of its frame. It carries a message of the security protocol, as it was
sent and unsecured. -/
structure SecuritySent (capture : List Packet) (i : Nat) (packet : Packet) (m : SentMessage)
    (msgType : Nat) : Prop where
  packet_eq : capture[i]? = some packet
  first : packet.pinfo.num ∉ (capture.take i).map (·.pinfo.num)
  frame : packet.frame = packet.pinfo.ptype.frame (m.header.encode ++ m.plaintext)
  length_lt : (m.header.encode ++ m.plaintext).length < 2 ^ 16
  malloc : IsMalloc packet.call.malloc
  plain : messageIsEncrypted (m.info 0) = false
  protocol : dispatchProtocolId m.protocol.protocolId.toNat = profileSecurity
  opcode : m.protocol.opcode.toNat = msgType

section
variable {env : DissectorEnv} {file : Option (List MatterProxyHintKey)} {st : DecryptState}
  {capture : List Packet} {results : List (Except TvbError Shown)} {msgs : List TrackedMessage}
  {s t s' : DissectorState} {pinfo : PacketInfo} {m : SentMessage} {tm : TrackedMessage}
  {a : Annotations} {payload : Except TvbError Payload}

theorem Delivered.exchangeKey_eq (h : Delivered env pinfo msgs s m tm a t payload s') :
    tm.exchangeKey = m.exchangeKey := by
  obtain ⟨header, protocol, -⟩ := h.headers
  rw [TrackedMessage.exchangeKey, DecodedMessageInfo.isInitiator, header.srcNodeId_eq,
    header.destNodeId_eq, protocol.exchId_eq, protocol.exchHeader_eq]
  rfl

/-- A message in a new frame gets the next record, which has no CASE record. -/
theorem Delivered.new (h : Delivered env pinfo msgs s m tm a t payload s')
    (hnew : pinfo.num ∉ msgs.map TrackedMessage.frameNum) :
    recordMessage msgs tm = msgs ++ [tm] ∧ a.msgRec = msgs.length ∧
      a.msgRec ∈ exchangePlaces (recordMessage msgs tm) m.exchangeKey := by
  have hnum : tm.frameNum ∉ msgs.map TrackedMessage.frameNum := by
    rw [show tm.frameNum = pinfo.num from congrArg PacketInfo.num h.pinfo_eq]
    exact hnew
  have hrecord : recordMessage msgs tm = msgs ++ [tm] := if_pos ⟨h.complete, hnum⟩
  have hplace := h.tracked.place
  rw [hrecord, placeOf_append, placeOf_eq_none.2 hnum, if_pos rfl] at hplace
  have hlast : a.msgRec = msgs.length := (Option.some.inj hplace).symm
  refine ⟨hrecord, hlast, ?_⟩
  rw [mem_positions, hrecord, hlast, List.getElem?_concat_length, ← h.exchangeKey_eq]
  rfl

/-- A security message whose dissector returns. -/
theorem Delivered.security (h : Delivered env pinfo msgs s m tm a t payload s')
    (hprotocol : dispatchProtocolId m.protocol.protocolId.toNat = profileSecurity)
    {u : RecoveryState}
    (hu : (dissectMatterSecurity env.case env.kdf m.protocol.opcode.toNat (.ofBytes m.payload)).run
      (t.recovery a.msgRec (exchangeBefore (recordMessage msgs tm) a.msgRec)) = .ok () u) :
    payload = .ok ⟨m.payload, none⟩ ∧ s' = t.recovered a.msgRec u := by
  obtain ⟨done, htracks⟩ := h.tracked.tracks
  have hprevs := tracker_ok (s := t)
    (prevsByExchange_run htracks.knows.represents h.tracked.within.msgRec)
  have hdissect : (dissectPayload env tm.msgInfo (.ofBytes m.payload) a.msgRec).run t =
      .ok none (t.recovered a.msgRec u) := by
    rw [dissectPayload, h.headers.protocol.msgProtocolId_eq, if_pos hprotocol, bind_ok hprevs,
      h.headers.protocol.msgType_eq]
    unfold DissectorM.security
    rw [run_bind]
    dsimp only
    rw [hu]
    rfl
  have hpayload := h.payload
  rw [run_attempt, SentMessage.dissectPayload, map_ok hdissect] at hpayload
  cases hpayload
  exact ⟨rfl, rfl⟩

/-- The frame of a packet is new. -/
theorem After.first {packet : Packet} {i : Nat}
    (hafter : After env file st (capture.take i) (results.take i) msgs s)
    (hfirst : packet.pinfo.num ∉ (capture.take i).map (·.pinfo.num)) :
    packet.pinfo.num ∉ msgs.map TrackedMessage.frameNum := by
  intro hmem
  obtain ⟨m', hm', hnum⟩ := List.mem_map.1 hmem
  exact hfirst (hnum ▸ (hafter.shown m' hm').mem_frames)

/-- What a message of the security protocol does when it comes. -/
theorem SecuritySent.delivered {packet : Packet} {i msgType : Nat}
    (h : SecuritySent capture i packet m msgType)
    (hrun : (dissectCapture env file capture).run (.start st) = .ok results s')
    (hafter : After env file st (capture.take i) (results.take i) msgs s) :
    ∃ tm a t items payload s₁, Delivered env packet.pinfo msgs s m tm a t payload s₁ ∧
      (attempt (dissectPacket env file packet)).run s =
        .ok (.ok (.message tm.msgInfo items (framesOf t.tracker a) payload)) s₁ ∧
      results[i]? = some (.ok (.message tm.msgInfo items (framesOf t.tracker a) payload)) := by
  obtain ⟨s₀, s₁, result, hresult, hbefore, hpacket, -⟩ := dissectCapture_at hrun h.packet_eq
  cases hbefore.symm.trans hafter.run
  have hwire : OnWire env.decrypt file packet.call s.decrypt s.decrypt m
      (m.header.encode ++ m.plaintext) := .unsecured h.plain
  obtain ⟨tm, a, t, items, payload, hdelivered, rfl⟩ := dissectPacket_onWire hafter.sound hwire
    (.refl _) h.frame h.length_lt h.malloc hpacket
  exact ⟨tm, a, t, items, payload, s₁, hdelivered, hpacket, hresult⟩

theorem SecuritySent.length_payload {packet : Packet} {i msgType : Nat}
    (h : SecuritySent capture i packet m msgType) : m.payload.length < 2 ^ 16 := by
  have hlen := h.length_lt
  rw [List.length_append, SentMessage.plaintext, List.length_append] at hlen
  omega

/-- A request without a CASE record that is dissected to its end gets one. -/
theorem Delivered.request (h : Delivered env pinfo msgs s m tm a t payload s')
    (hprotocol : dispatchProtocolId m.protocol.protocolId.toNat = profileSecurity)
    (hopcode : m.protocol.opcode.toNat = msgTypeCASEBeginSessionRequest)
    (hlen : m.payload.length < 2 ^ 16) (hdecodes : RequestDecodes env.case.host m.payload)
    (hnone : t.caseExchangeRec a.msgRec = none) :
    PayloadStep env.case (requestIn tm.msgInfo payload) (recordMessage msgs tm) a.msgRec t s' ∧
      s'.caseRecords = t.caseRecords ++ [requestRecord env.case m.payload] ∧
      s'.caseExchangeRec a.msgRec = some t.caseRecords.length := by
  obtain ⟨u, hrequest⟩ := dissectRequest_returns hlen hdecodes
    (t.recovery a.msgRec (exchangeBefore (recordMessage msgs tm) a.msgRec)).case
  obtain ⟨hrecords, hown⟩ := dissectRequest_record hrequest hnone
  have hu : (dissectMatterSecurity env.case env.kdf m.protocol.opcode.toNat
      (.ofBytes m.payload)).run (t.recovery a.msgRec
        (exchangeBefore (recordMessage msgs tm) a.msgRec)) = .ok () ⟨u, t.decrypt⟩ := by
    rw [dissectMatterSecurity, hopcode, if_pos rfl]
    exact zoom_eq_ok.2 ⟨u, hrequest, rfl⟩
  obtain ⟨hpayload, hs'⟩ := h.security hprotocol hu
  have hbytes : requestIn tm.msgInfo payload = some m.payload := by
    rw [hpayload, requestIn, requestBytes, h.headers.protocol.msgProtocolId_eq,
      if_pos hprotocol, requestPayload, h.headers.protocol.msgType_eq, if_pos hopcode]
  have hstep : SecurityStep env.case (requestIn tm.msgInfo payload) (t.recovery a.msgRec
      (exchangeBefore (recordMessage msgs tm) a.msgRec)) ⟨u, t.decrypt⟩ :=
    ⟨.requests hbytes hnone hrecords hown, .refl _⟩
  refine ⟨.security hstep hs', ?_, ?_⟩
  · rw [hs']
    exact hrecords
  · rw [hs']
    exact (Function.update_self a.msgRec _ _).trans hown

/-- A request that is dissected to its end leads to its CASE record from then on. -/
theorem request_leads {packet : Packet} {i : Nat}
    (h : SecuritySent capture i packet m msgTypeCASEBeginSessionRequest)
    (hrun : (dissectCapture env file capture).run (.start st) = .ok results s')
    (hdecodes : RequestDecodes env.case.host m.payload) :
    ∃ msgs p₀ s, After env file st (capture.take (i + 1)) (results.take (i + 1)) msgs s ∧
      Leads env.case m.payload m.exchangeKey p₀ msgs s := by
  obtain ⟨s, -, -, -, hbefore, -, -⟩ := dissectCapture_at hrun h.packet_eq
  obtain ⟨msgs, hafter⟩ := dissectCapture_after hbefore
  obtain ⟨tm, a, t, items, payload, s₁, hdelivered, hpacket, hresult⟩ := h.delivered hrun hafter
  obtain ⟨hrecord, hlast, hplace⟩ := hdelivered.new (hafter.first h.first)
  have hnone : t.caseExchangeRec a.msgRec = none := by
    rw [hdelivered.kept, hlast]
    exact hafter.sound.fresh _ (Nat.le_refl _)
  obtain ⟨hstep, hrecords, hown⟩ :=
    hdelivered.request h.protocol h.opcode h.length_payload hdecodes hnone
  have hafter' := hafter.message hpacket hdelivered.pinfo_eq hdelivered.tracked hdelivered.grown
    (hdelivered.kept ▸ hstep)
  refine ⟨recordMessage msgs tm, a.msgRec, s₁, ?_, hplace, ?_, fun p q hle hp hq => ?_⟩
  · rw [List.take_add_one, List.take_add_one, h.packet_eq, hresult]
    exact hafter'
  · rw [hown]
    exact Option.some_ne_none _
  · have hlt := lt_of_mem_positions hp
    rw [hrecord, List.length_append, List.length_singleton] at hlt
    have hp : p = a.msgRec := Nat.le_antisymm (by rw [hlast]; exact Nat.le_of_lt_succ hlt) hle
    rw [hp, hown] at hq
    cases hq
    rw [hrecords, List.getElem?_concat_length]
    rfl

/-- A response that is dissected to its end recovers the key of the request. -/
theorem Leads.response {packet : Packet} {j : Nat} {req : List UInt8} {p₀ : RecordRef}
    (hleads : Leads env.case req m.exchangeKey p₀ msgs s)
    (h : SecuritySent capture j packet m msgTypeCASEBeginSessionResponse)
    (hrun : (dissectCapture env file capture).run (.start st) = .ok results s')
    (hafter : After env file st (capture.take j) (results.take j) msgs s)
    (hkdf : env.kdf.Succeeds) (hdecodes : ResponseDecodes env.case.host m.payload) :
    ∃ s₁ decrypt, (dissectCapture env file (capture.take (j + 1))).run (.start st) =
        .ok (results.take (j + 1)) s₁ ∧
      (recoverCASESessionKey env.kdf (exchangeRecord env.case req m.payload)).run decrypt =
        .ok () s₁.decrypt := by
  obtain ⟨tm, a, t, items, payload, s₁, hdelivered, hpacket, hresult⟩ := h.delivered hrun hafter
  obtain ⟨hrecord, hlast, hplace⟩ := hdelivered.new (hafter.first h.first)
  have hnone : t.caseExchangeRec a.msgRec = none := by
    rw [hdelivered.kept, hlast]
    exact hafter.sound.fresh _ (Nat.le_refl _)
  have hleads' : Leads env.case req m.exchangeKey p₀ (recordMessage msgs tm) t := by
    rw [hdelivered.kept]
    exact hleads.tracked hafter.sound.fresh tm _ _
  have hlt : p₀ < a.msgRec := hlast ▸ lt_of_mem_positions hleads.place
  obtain ⟨q, hfound, hq⟩ := hleads'.found hplace hlt
  obtain ⟨r, hr, hpart⟩ := Option.map_eq_some_iff.1 hq
  obtain ⟨u, hresponse⟩ := recoveringResponse_returns hkdf h.length_payload hdecodes
    (t.recovery a.msgRec (exchangeBefore (recordMessage msgs tm) a.msgRec))
  have hrecover := recoveringResponse_recovers hnone hfound hr hpart hresponse
  have hu : (dissectMatterSecurity env.case env.kdf m.protocol.opcode.toNat
      (.ofBytes m.payload)).run (t.recovery a.msgRec
        (exchangeBefore (recordMessage msgs tm) a.msgRec)) = .ok () u := by
    rw [dissectMatterSecurity, h.opcode, if_neg (by decide), if_pos rfl]
    exact hresponse
  obtain ⟨-, hs₁⟩ := hdelivered.security h.protocol hu
  obtain ⟨s₂, s₃, result, -, hbefore, hpacket', hbehind⟩ := dissectCapture_at hrun h.packet_eq
  cases hbefore.symm.trans hafter.run
  cases hpacket'.symm.trans hpacket
  refine ⟨s₁, t.decrypt, hbehind, ?_⟩
  rw [hs₁]
  exact hrecover

end

end Matter.Capture
