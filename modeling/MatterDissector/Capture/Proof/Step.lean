import MatterDissector.Capture.Dissect
import MatterDissector.Message.Proof.Split
import MatterDissector.Security.Proof.Exchange
import MatterDissector.Tracker.Proof.Settled
import MatterDissector.Tracker.Proof.Subscription

/-!
# What a packet does

Whatever a packet holds and wherever its dissection ends, the key table only grows; the tracker
gets to know at most the packet's message; and a security message does to the CASE records what
`SecurityStep` says (`PacketStep`, `dissectPacket_step`).
-/

namespace Matter.Capture

open Prog Message Tracker Security

/-! ## The tracker -/

/-- What holds of the tracker's state between packets. -/
structure Tracks (env : TrackerEnv) (msgs done : List TrackedMessage) (s : TrackerState) :
    Prop where
  knows : Knows env msgs done s
  unsubscribed : Unsubscribed env msgs s

section
variable {env : TrackerEnv} {msgs done : List TrackedMessage} {s : TrackerState} {p : RecordRef}
  {a : Annotations}

theorem Tracks.empty (env : TrackerEnv) : Tracks env [] [] .empty := ⟨.empty env, .empty env⟩

/-- The calls of the tracker for a message. -/
theorem Tracks.track (h : Tracks env msgs done s) (m : TrackedMessage) :
    (∃ annotations s', (trackMessage env m).run s = .ok annotations s' ∧
      Tracks env (recordMessage msgs m) (done ++ [m]) s' ∧
      placeOf (recordMessage msgs m) m.frameNum = some annotations.msgRec ∧
      annotations.Within (recordMessage msgs m).length s'.frameNum) ∨
    (¬ m.complete = true ∧ (trackMessage env m).run s = .err .outOfRange s) := by
  have hrun := h.knows.track m
  have hafter := h.knows.afterMessage m
  have hknows := hafter.redissect m
  unfold Tracker.redissect at hknows
  cases hplace : placeOf (recordMessage msgs m) m.frameNum with
  | some p =>
    rw [hplace] at hrun hknows
    have hwithin := hknows.represents.annotations_within (lt_of_placeOf hplace) m
    rw [hknows.represents.members.1] at hwithin
    rcases h.unsubscribed.track m with ⟨annotations, s₁, hrun', hs₁, -⟩ | ⟨hrun', -⟩
    · cases hrun.symm.trans hrun'
      exact .inl ⟨_, _, hrun, ⟨hknows, hs₁⟩, rfl, hwithin⟩
    · cases hrun.symm.trans hrun'
  | none =>
    have hm : ¬ m.complete = true := by
      intro hm
      obtain ⟨p, hp⟩ : ∃ p, placeOf (recordMessage msgs m) m.frameNum = some p := frame_recorded hm
      rw [hplace] at hp
      cases hp
    have hold : recordMessage msgs m = msgs := by
      rw [recordMessage, if_neg fun hc => hm hc.1]
    rw [hplace, afterMessage_known hold] at hrun
    exact .inr ⟨hm, hrun⟩

/-! ## Frames -/

theorem frameOf_run (hp : p < s.records.length) : (frameOf p).run s = .ok (s.frameNum p) s := by
  obtain ⟨r, hload, -, hframe, -⟩ := load_fields hp
  rw [frameOf, bind_ok hload, hframe, run_pure]

theorem frameOfAny_run {ref : Option RecordRef} (href : ∀ p, ref = some p → p < s.records.length) :
    (frameOfAny ref).run s = .ok (ref.map s.frameNum) s := by
  cases ref with
  | none => rfl
  | some p => exact map_ok (frameOf_run (href p rfl))

/-- The acknowledger of a record. -/
def ackedByOf (s : TrackerState) (p : RecordRef) : Option RecordRef :=
  s.records[p]?.bind MatterMessageRecord.ackedByMsgRec

/-- The items that `frameItems` makes. -/
def framesOf (s : TrackerState) (a : Annotations) : FrameItems where
  exchangeStart := s.frameNum a.exchangeStartMsg
  startsHere := a.exchangeStartMsg = a.msgRec
  retransmission := (a.retransmissions.retransOfMsg.map s.frameNum).map
    (·, a.retransmissions.retransNum, a.retransmissions.totalRetrans)
  msgCntrReuse := a.reusesMsgCntrFrom.map s.frameNum
  ackMsg := a.ackedMsg.map s.frameNum
  ackedBy := (ackedByOf s a.msgRec).map s.frameNum

theorem frameItems_run (h : Knows env msgs done s) (ha : a.Within msgs.length s.frameNum) :
    (frameItems a).run s = .ok (framesOf s a) s := by
  have hlen : ∀ {p : RecordRef}, p < msgs.length → p < s.records.length := fun hp =>
    h.represents.length_eq ▸ hp
  have hstart := frameOf_run (hlen ha.exchangeStartMsg)
  have hretrans := frameOfAny_run fun q hq => hlen (ha.retransmissions.retransOfMsg q hq).1
  have hreuse := frameOfAny_run fun q hq => hlen (ha.reusesMsgCntrFrom q hq)
  have hacked := frameOfAny_run fun q hq => hlen (ha.ackedMsg q hq).1
  obtain ⟨r, hr, hload⟩ := exists_load (hlen ha.msgRec)
  have hackedBy : ackedByOf s a.msgRec = r.ackedByMsgRec := by
    rw [ackedByOf, hr]
    rfl
  have hby := frameOfAny_run fun q hq => h.bound r (List.mem_of_getElem? hr) q hq
  rw [frameItems, bind_ok hstart, bind_ok hretrans, bind_ok hreuse, bind_ok hacked, bind_ok hload,
    bind_ok hby, framesOf, hackedBy]
  rfl

/-! ## The exchange of a message -/

/-- The records before `p` in its exchange, the nearest first. -/
def exchangeBefore (msgs : List TrackedMessage) (p : RecordRef) : List RecordRef :=
  ((History.sameExchange msgs p).filter (· < p)).reverse

theorem prevsByExchange_run (h : Represents env msgs s) (hp : p < msgs.length) :
    (prevsByExchange p).run s = .ok (exchangeBefore msgs p) s := by
  obtain ⟨ys, zs, hsplit⟩ := exists_split TrackedMessage.exchangeKey hp
  have hin := h.inExchangeList hsplit
  obtain ⟨hrecord, hys, -, hnodup, -⟩ := hin.split
  obtain ⟨r, hr, hload⟩ := exists_load hrecord
  have hbefore : exchangeBefore msgs p = ys.reverse := by
    rw [exchangeBefore, History.sameExchange, List.getElem?_eq_getElem hp]
    exact congrArg List.reverse (filter_positions hsplit).1
  have hfold : ∀ xs found : List RecordRef, xs.foldl (fun found p => found ++ [p]) found =
      found ++ xs := by
    intro xs
    induction xs with
    | nil => exact fun found => (List.append_nil found).symm
    | cons q xs ih => exact fun found => (ih _).trans (List.append_assoc found [q] xs)
  have hloop : (forRecords byExchange.prev (fun found p => pure (found ++ [p])) r.prevByExchange
      []).run s = .ok ys.reverse s := by
    refine (forRecords_path (fun _ _ => .pure _) [] (hin.path_prev hr) hys hnodup).trans ?_
    rw [foldlM_read (f := fun found p => found ++ [p]) (fun _ _ _ => rfl), hfold, List.nil_append]
  rw [prevsByExchange, bind_ok hload, hloop, hbefore]

/-! ## The header and the body of a message -/

section
variable {σ γ : Type} (g : σ → γ)

theorem leaves_getLE (k : Nat) (tvb : Tvb) (offset : Nat) :
    Leaves g (tvb.getLE k offset : Prog TvbError Fault σ Nat) := .ite (.pure _) (.throw _)

theorem leaves_dissectNodeId (tvb : Tvb) (msgFlags flag parsePoint : Nat) :
    Leaves g (dissectNodeId tvb msgFlags flag parsePoint : Prog TvbError Fault σ _) :=
  .ite ((leaves_getLE g 8 tvb parsePoint).bind fun _ => .pure _) (.pure _)

/-- The message header is only read. -/
theorem leaves_dissectMessage (ptype : PortType) (frame : Tvb) :
    Leaves g (dissectMessage ptype frame : Prog TvbError Fault σ _) := by
  have htransport : Leaves g (transportMessage ptype frame : Prog TvbError Fault σ _) := by
    cases ptype with
    | udp => exact .pure _
    | tcp =>
      refine (leaves_getLE g 2 frame 0).bind fun msgLen => ?_
      exact Leaves.bind (.ite (.pure _) (.throw _)) fun _ => .pure _
  refine htransport.bind fun ⟨msgLen, tvb⟩ => ?_
  refine Leaves.bind ?_ fun _ => .pure _
  refine (leaves_getLE g 1 tvb 0).bind fun msgFlags => ?_
  refine (leaves_getLE g 2 tvb 1).bind fun sessionId => ?_
  refine (leaves_getLE g 1 tvb 3).bind fun secFlags => ?_
  refine (leaves_getLE g 4 tvb 4).bind fun msgId => ?_
  refine (leaves_dissectNodeId g tvb _ _ _).bind fun ⟨srcNodeId, _⟩ => ?_
  exact (leaves_dissectNodeId g tvb _ _ _).bind fun ⟨destNodeId, _⟩ => .pure _

end

section
variable {st : DecryptState} {denv : DecryptEnv} {tvb : Tvb} {msgInfo : MatterMessageInfo}

theorem tryDecryptMessage_keeps (encDataOffset : Nat) :
    Keeps (Grown st) (tryDecryptMessage denv tvb encDataOffset msgInfo) := by
  intro st₁ hst₁
  rcases tryDecryptMessage_cases denv tvb encDataOffset msgInfo st₁ with
    ⟨-, calls, hrun⟩ | ⟨-, hrun⟩ | ⟨-, hrun⟩
  · rw [hrun]
    exact hst₁.trans (grown_searched denv tvb encDataOffset msgInfo st₁ calls)
  · rw [hrun]
    exact hst₁.trans (grown_refreshed denv st₁)
  · rw [hrun]
    exact hst₁

theorem keeps_protocol {α : Type} (x : ProtocolM α) :
    Keeps (fun s : BodyState => Grown st s.decrypt) (BodyM.protocol x) :=
  (Leaves.zoom x fun _ _ => rfl : Leaves BodyState.decrypt (BodyM.protocol x)).keeps (Grown st)

theorem decryptedMessage_keeps :
    Keeps (fun s : BodyState => Grown st s.decrypt) (decryptedMessage denv tvb msgInfo) := by
  have hdecrypt : Keeps (fun s : BodyState => Grown st s.decrypt)
      (BodyM.decrypt (tryDecryptMessage denv tvb msgInfo.headerLen msgInfo)) :=
    Ends.zoom fun _ hs => (tryDecryptMessage_keeps msgInfo.headerLen).at hs
  refine hdecrypt.bind fun decrypted => ?_
  cases decrypted with
  | some unencMsgTVB => exact (keeps_protocol _).bind fun _ => Ends.pure fun _ hs => hs
  | none => exact Ends.pure fun _ hs => hs

theorem dissectBody_keeps :
    Keeps (fun s : BodyState => Grown st s.decrypt) (dissectBody denv tvb msgInfo) := by
  have hrest : Leaves BodyState.decrypt (tvb.newSubsetRemaining msgInfo.headerLen : BodyM Tvb) :=
    .ite (.pure _) (.throw _)
  have hmessage : Keeps (fun s : BodyState => Grown st s.decrypt)
      (unencryptedMessage denv tvb msgInfo) :=
    Ends.ite (fun _ => decryptedMessage_keeps) fun _ => (hrest.map some).keeps (Grown st)
  refine hmessage.bind fun unencMsgTVB => ?_
  cases unencMsgTVB with
  | some unencMsgTVB => exact (keeps_protocol _).bind fun _ => Ends.pure fun _ hs => hs
  | none => exact Ends.pure fun _ hs => hs

end

end

/-! ## The tracker and the payload -/

section
variable {env : DissectorEnv} {msgs done : List TrackedMessage} {s s' : DissectorState}

theorem tracker_ok {α : Type} {x : TrackerM α} {a : α} {t : TrackerState}
    (h : x.run s.tracker = .ok a t) :
    (DissectorM.tracker x).run s = .ok a { s with tracker := t } := zoom_eq_ok.2 ⟨t, h, rfl⟩

theorem staysAt_tracker {α : Type} {x : TrackerM α} (h : StaysAt s.tracker x) :
    StaysAt s (DissectorM.tracker x) := by
  unfold StaysAt at h ⊢
  rw [DissectorM.tracker, run_zoom]
  cases hx : x.run s.tracker with
  | ok a t =>
    rw [hx] at h
    cases h
    rfl
  | err e t =>
    rw [hx] at h
    cases h
    rfl
  | fault f => trivial

/-- A message, and what the tracker says of it. -/
structure Tracked (env : TrackerEnv) (msgs : List TrackedMessage) (m : TrackedMessage)
    (a : Annotations) (t : TrackerState) : Prop where
  tracks : ∃ done, Tracks env (recordMessage msgs m) done t
  place : placeOf (recordMessage msgs m) m.frameNum = some a.msgRec
  within : a.Within (recordMessage msgs m).length t.frameNum

/-- A message that has a body: it is shown with its frames and its payload, or its fingerprint
throws. -/
theorem dissectDecoded_cases (h : Tracks env.tracker msgs done s.tracker) (m : TrackedMessage)
    (unencMsgTVB : Tvb) (payloadOffset : Nat) (items : List ProtocolItem) :
    (∃ a t, Tracked env.tracker msgs m a t ∧
      (dissectDecoded env m unencMsgTVB payloadOffset items).run s =
        (do
          let payload ← attempt (showPayload env m.msgInfo unencMsgTVB payloadOffset a.msgRec)
          pure (.message m.msgInfo items (framesOf t a) payload) : DissectorM Shown).run
          { s with tracker := t }) ∨
    (¬ m.complete = true ∧
      (dissectDecoded env m unencMsgTVB payloadOffset items).run s = .err .outOfRange s) := by
  rcases h.track m with ⟨a, t, hrun, ht, hplace, hwithin⟩ | ⟨hm, hrun⟩
  · refine .inl ⟨a, t, ⟨⟨_, ht⟩, hplace, hwithin⟩, ?_⟩
    have hframes : (DissectorM.tracker (frameItems a)).run { s with tracker := t } =
        .ok (framesOf t a) { s with tracker := t } :=
      tracker_ok (s := { s with tracker := t }) (frameItems_run ht.knows hwithin)
    rw [dissectDecoded, bind_ok (tracker_ok hrun), bind_ok hframes]
  · refine .inr ⟨hm, ?_⟩
    have herr : (DissectorM.tracker (trackMessage env.tracker m)).run s = .err .outOfRange s :=
      zoom_eq_err.2 ⟨s.tracker, hrun, rfl⟩
    rw [dissectDecoded, bind_err herr]

/-- What a payload dissector does: `p` is the record of the message, and `request` its payload if
it is a CASE request. -/
inductive PayloadStep (env : CaseEnv) (request : Option (List UInt8)) (msgs : List TrackedMessage)
    (p : RecordRef) (s s' : DissectorState) : Prop
  | keeps (hs' : s' = s)
  | security {t : RecoveryState}
      (hstep : SecurityStep env request (s.recovery p (exchangeBefore msgs p)) t)
      (hs' : s' = s.recovered p t)

/-- The payload of a CASE request. -/
def requestBytes (msgInfo : DecodedMessageInfo) (bytes : List UInt8) : Option (List UInt8) :=
  if dispatchProtocolId msgInfo.msgProtocolId = profileSecurity then
    requestPayload msgInfo.msgType bytes
  else none

theorem dissectPayload_step (h : Tracks env.tracker msgs done s.tracker) {p : RecordRef}
    (hp : p < msgs.length) (msgInfo : DecodedMessageInfo) (bytes : List UInt8) :
    Ends (fun _ => True) (· = s) (dissectPayload env msgInfo (.ofBytes bytes) p)
      (fun _ => PayloadStep env.case (requestBytes msgInfo bytes) msgs p s)
      (fun _ => PayloadStep env.case none msgs p s) := by
  refine Ends.ite (fun hprotocol => ?_) fun hprotocol => ?_
  · rw [requestBytes, if_pos hprotocol]
    have hprevs := tracker_ok (s := s) (prevsByExchange_run h.knows.represents hp)
    rintro s rfl
    have hend := dissectMatterSecurity_step env.case env.kdf msgInfo.msgType bytes
      (s.recovery p (exchangeBefore msgs p)) _ rfl
    rw [bind_ok hprevs]
    unfold DissectorM.security
    rw [run_bind]
    dsimp only
    cases hrun : (dissectMatterSecurity env.case env.kdf msgInfo.msgType (.ofBytes bytes)).run
        (s.recovery p (exchangeBefore msgs p)) with
    | ok _ t =>
      rw [hrun] at hend
      exact .security hend rfl
    | err e t =>
      rw [hrun] at hend
      cases e with
      | code e => exact .security (hend.mono _) rfl
      | thrown e => exact .security hend rfl
      | crashed f => trivial
    | fault f => trivial
  · have hstays := staysAt_tracker (s := s)
      (h.unsubscribed.dispatch (List.getElem?_eq_getElem hp) env.im msgInfo (.ofBytes bytes))
    rintro s rfl
    cases hrun : (DissectorM.tracker (dispatchPayload env.im msgInfo (.ofBytes bytes) p)).run s with
    | ok _ t => exact .keeps (hstays.ok hrun)
    | err e t => exact .keeps (hstays.err hrun)
    | fault f => trivial

/-- The payload of a request whose dissector has returned. -/
def requestIn (msgInfo : DecodedMessageInfo) : Except TvbError Payload → Option (List UInt8)
  | .ok payload => requestBytes msgInfo payload.bytes
  | .error _ => none

theorem showPayload_step (h : Tracks env.tracker msgs done s.tracker) {p : RecordRef}
    (hp : p < msgs.length) (msgInfo : DecodedMessageInfo) (unencMsgTVB : Tvb)
    (payloadOffset : Nat) :
    Ends (fun _ => True) (· = s) (showPayload env msgInfo unencMsgTVB payloadOffset p)
      (fun payload => PayloadStep env.case (requestIn msgInfo (.ok payload)) msgs p s)
      (fun e => PayloadStep env.case (requestIn msgInfo (.error e)) msgs p s) := by
  have hsubset : Ends (fun _ => True) (· = s)
      (unencMsgTVB.newSubsetLength payloadOffset msgInfo.payloadLen : DissectorM Tvb)
      (fun payloadTVB t => payloadTVB = .ofBytes payloadTVB.bytes ∧ t = s)
      (fun e => PayloadStep env.case (requestIn msgInfo (.error e)) msgs p s) := by
    refine Ends.ite (fun _ => Ends.pure fun t ht => ⟨rfl, ht⟩) fun _ => Ends.throw ?_
    exact fun t ht => .keeps ht
  refine hsubset.bind fun payloadTVB => Ends.of_each fun t ht => ?_
  obtain ⟨hbytes, rfl⟩ := ht
  rw [hbytes]
  refine (dissectPayload_step h hp msgInfo payloadTVB.bytes).bind fun imSubscription => ?_
  exact Ends.pure fun t' ht' => ht'

/-! ## The packet -/

/-- What a packet does to the state and what it shows, where the tracker knows `msgs`. -/
inductive PacketStep (env : DissectorEnv) (pinfo : PacketInfo) (msgs : List TrackedMessage)
    (s : DissectorState) : Except TvbError Shown → DissectorState → Prop
  | message {m : TrackedMessage} {items : List ProtocolItem} {payload : Except TvbError Payload}
      {a : Annotations} {decrypt : DecryptState} {t : TrackerState} {s' : DissectorState}
      (hpinfo : m.pinfo = pinfo) (htracked : Tracked env.tracker msgs m a t)
      (hgrown : Grown s.decrypt decrypt)
      (hpayload : PayloadStep env.case (requestIn m.msgInfo payload) (recordMessage msgs m)
        a.msgRec { s with decrypt, tracker := t } s') :
      PacketStep env pinfo msgs s (.ok (.message m.msgInfo items (framesOf t a) payload)) s'
  | other {result : Except TvbError Shown} {decrypt : DecryptState}
      (hresult : ∀ msgInfo items frames payload,
        result ≠ .ok (.message msgInfo items frames payload))
      (hgrown : Grown s.decrypt decrypt) :
      PacketStep env pinfo msgs s result { s with decrypt }

theorem PacketStep.of_error {pinfo : PacketInfo} (e : TvbError) {decrypt : DecryptState}
    (hgrown : Grown s.decrypt decrypt) :
    PacketStep env pinfo msgs s (.error e) { s with decrypt } :=
  .other (fun _ _ _ _ h => nomatch h) hgrown

theorem body_ends {α : Type} {x : BodyM α}
    (hx : Keeps (fun t : BodyState => Grown s.decrypt t.decrypt) x) :
    Ends (fun _ => True) (· = s) (DissectorM.body x)
      (fun _ t => ∃ decrypt, Grown s.decrypt decrypt ∧ t = { s with decrypt })
      (fun _ t => ∃ decrypt, Grown s.decrypt decrypt ∧ t = { s with decrypt }) := by
  rintro s rfl
  have hend := hx ⟨s.decrypt, {}⟩ (.refl _)
  unfold DissectorM.body
  dsimp only
  cases hrun : x.run ⟨s.decrypt, {}⟩ with
  | ok a b =>
    rw [hrun] at hend
    exact ⟨_, hend, rfl⟩
  | err e b =>
    rw [hrun] at hend
    exact ⟨_, hend, rfl⟩
  | fault f => trivial

theorem dissectDecoded_step (h : Tracks env.tracker msgs done s.tracker) (m : TrackedMessage)
    (unencMsgTVB : Tvb) (payloadOffset : Nat) (items : List ProtocolItem)
    {decrypt : DecryptState} (hgrown : Grown s.decrypt decrypt) :
    Ends (fun _ => True) (· = { s with decrypt })
      (dissectDecoded env m unencMsgTVB payloadOffset items)
      (fun shown => PacketStep env m.pinfo msgs s (.ok shown))
      (fun e => PacketStep env m.pinfo msgs s (.error e)) := by
  rintro _ rfl
  have h' : Tracks env.tracker msgs done ({ s with decrypt } : DissectorState).tracker := h
  rcases dissectDecoded_cases h' m unencMsgTVB payloadOffset items with
    ⟨a, t, htracked, hrun⟩ | ⟨-, hrun⟩
  · obtain ⟨done', htracks⟩ := htracked.tracks
    rw [hrun]
    have hpayload := Ends.attempt (Q := fun payload => PayloadStep env.case
        (requestIn m.msgInfo payload) (recordMessage msgs m) a.msgRec
        { s with decrypt, tracker := t }) (E := fun e => PacketStep env m.pinfo msgs s (.error e))
      (showPayload_step (s := { s with decrypt, tracker := t }) htracks htracked.within.msgRec
        m.msgInfo unencMsgTVB payloadOffset)
    refine Ends.bind hpayload
      (fun payload => Ends.pure fun s' hs' => .message rfl htracked hgrown hs') _ rfl
  · rw [hrun]
    exact .of_error _ hgrown

/-- `DissectMatter` on any frame. -/
theorem dissectMatter_step (h : Tracks env.tracker msgs done s.tracker) (pinfo : PacketInfo)
    (frame : Tvb) :
    Ends (fun _ => True) (· = s) (dissectMatter env pinfo frame)
      (fun shown => PacketStep env pinfo msgs s (.ok shown))
      (fun e => PacketStep env pinfo msgs s (.error e)) := by
  have hheader : Ends (fun _ => True) (· = s) (dissectMessage pinfo.ptype frame : DissectorM _)
      (fun _ t => t = s) (fun e => PacketStep env pinfo msgs s (.error e)) := by
    refine Ends.conseq ((leaves_dissectMessage id pinfo.ptype frame).keeps (· = s)) (fun _ h => h)
      (fun _ h => h) (fun _ _ h => h) fun e t ht => ?_
    rw [show t = s from ht]
    exact .of_error e (.refl _)
  refine hheader.bind fun ⟨tvb, msgInfo⟩ => ?_
  have hbody : Ends (fun _ => True) (· = s)
      (DissectorM.body (dissectBody env.decrypt tvb msgInfo))
      (fun _ t => ∃ decrypt, Grown s.decrypt decrypt ∧ t = { s with decrypt })
      (fun e => PacketStep env pinfo msgs s (.error e)) := by
    refine Ends.conseq (body_ends dissectBody_keeps) (fun _ h => h) (fun _ h => h)
      (fun _ _ h => h) ?_
    rintro e _ ⟨decrypt, hgrown, rfl⟩
    exact .of_error e hgrown
  refine hbody.bind fun ⟨decoded, protocol⟩ => Ends.of_each fun t ht => ?_
  obtain ⟨decrypt, hgrown, rfl⟩ := ht
  cases decoded with
  | some decoded =>
    exact dissectDecoded_step h ⟨tvb, pinfo, { msgInfo, protocol.info with }⟩ decoded.1 decoded.2
      protocol.items hgrown
  | none =>
    have hbytes : Leaves id (tvb.getBytes msgInfo.headerLen
        (sub32 msgInfo.msgLen msgInfo.headerLen % 2 ^ 16) : DissectorM _) :=
      .ite (.pure _) (.throw _)
    refine Ends.bind (Ends.conseq (hbytes.keeps (· = _)) (fun _ h => h) (fun _ h => h)
      (fun _ _ h => h) ?_) fun encData => Ends.pure ?_
    · rintro e _ rfl
      exact .of_error e hgrown
    · rintro _ rfl
      exact .other (fun _ _ _ _ h => nomatch h) hgrown

/-- A packet whose dissection may throw. -/
theorem dissectPacket_step {file : Option (List MatterProxyHintKey)} {packet : Packet}
    {result : Except TvbError Shown} (h : Tracks env.tracker msgs done s.tracker)
    (hrun : (attempt (dissectPacket env file packet)).run s = .ok result s') :
    PacketStep env packet.pinfo msgs s result s' := by
  have hpacket : (dissectPacket env file packet).run s =
      (dissectMatter { env with decrypt := env.decrypt.forCall file packet.call s.decrypt }
        packet.pinfo packet.frame).run s := by
    rw [dissectPacket, gets_bind]
  have hend := @dissectMatter_step
    { env with decrypt := env.decrypt.forCall file packet.call s.decrypt } _ _ _ h
    packet.pinfo packet.frame s rfl
  rw [← hpacket] at hend
  have hsame : ∀ {result : Except TvbError Shown}, PacketStep
      { env with decrypt := env.decrypt.forCall file packet.call s.decrypt } packet.pinfo msgs s
      result s' → PacketStep env packet.pinfo msgs s result s' := by
    intro result hstep
    cases hstep with
    | message hpinfo htracked hgrown hpayload => exact .message hpinfo htracked hgrown hpayload
    | other hresult hgrown => exact .other hresult hgrown
  rcases attempt_eq_ok.1 hrun with ⟨shown, rfl, hshown⟩ | ⟨e, rfl, herr⟩
  · rw [hshown] at hend
    exact hsame hend
  · rw [herr] at hend
    exact hsame hend

end

end Matter.Capture
