import MatterDissector.Capture.Proof.Step

/-!
# Between packets

Whatever packets come, in whatever order and however often, and whether they are dissected or
throw: the key table only grows, and the tracker knows one message for each frame, all of which have
been shown (`After`, `dissectCapture_after`). So what is shown refers only to frames that have come
(`dissectCapture_frames`).
-/

namespace Matter.Capture

open Prog Message Tracker Security

/-! ## Runs -/

section
variable {env : DissectorEnv} {file : Option (List MatterProxyHintKey)} {s s' : DissectorState}
  {capture : List Packet} {packet : Packet} {results : List (Except TvbError Shown)}

/-- One more packet. -/
theorem dissectCapture_concat :
    (dissectCapture env file (capture ++ [packet])).run s = .ok results s' ↔
      ∃ results₀ result s₁, (dissectCapture env file capture).run s = .ok results₀ s₁ ∧
        (attempt (dissectPacket env file packet)).run s₁ = .ok result s' ∧
        results = results₀ ++ [result] := by
  induction capture generalizing s results with
  | nil =>
    constructor
    · intro hrun
      obtain ⟨result, s₁, hpacket, hrun⟩ := bind_eq_ok.1 hrun
      obtain ⟨_, s₂, hnil, hrun⟩ := bind_eq_ok.1 hrun
      cases hnil
      cases hrun
      exact ⟨[], result, s, rfl, hpacket, rfl⟩
    · rintro ⟨_, result, _, hnil, hpacket, rfl⟩
      cases hnil
      rw [List.nil_append, dissectCapture, bind_ok hpacket]
      rfl
  | cons first capture ih =>
    rw [List.cons_append]
    constructor
    · intro hrun
      obtain ⟨result₀, s₀, hfirst, hrun⟩ := bind_eq_ok.1 hrun
      obtain ⟨results', s₂, hrest, hrun⟩ := bind_eq_ok.1 hrun
      cases hrun
      obtain ⟨results₀, result, s₁, hcapture, hpacket, rfl⟩ := ih.1 hrest
      refine ⟨result₀ :: results₀, result, s₁, ?_, hpacket, rfl⟩
      rw [dissectCapture, bind_ok hfirst, bind_ok hcapture]
      rfl
    · rintro ⟨_, result, s₁, hrun, hpacket, rfl⟩
      obtain ⟨result₀, s₀, hfirst, hrun⟩ := bind_eq_ok.1 hrun
      obtain ⟨results₀, s₂, hcapture, hrun⟩ := bind_eq_ok.1 hrun
      cases hrun
      rw [dissectCapture, bind_ok hfirst, bind_ok (ih.2 ⟨results₀, result, s₁, hcapture, hpacket,
        rfl⟩)]
      rfl

theorem length_results (hrun : (dissectCapture env file capture).run s = .ok results s') :
    results.length = capture.length := by
  induction capture using List.reverseRecOn generalizing results s' with
  | nil =>
    cases hrun
    rfl
  | append_singleton capture packet ih =>
    obtain ⟨results₀, result, s₁, hcapture, -, rfl⟩ := dissectCapture_concat.1 hrun
    rw [List.length_append, List.length_append, ih hcapture]
    rfl

/-- The packets up to one, and that packet. -/
theorem dissectCapture_at (hrun : (dissectCapture env file capture).run s = .ok results s')
    {n : Nat} (hpacket : capture[n]? = some packet) :
    ∃ s₁ s₂ result, results[n]? = some result ∧
      (dissectCapture env file (capture.take n)).run s = .ok (results.take n) s₁ ∧
      (attempt (dissectPacket env file packet)).run s₁ = .ok result s₂ ∧
      (dissectCapture env file (capture.take (n + 1))).run s = .ok (results.take (n + 1)) s₂ := by
  induction capture using List.reverseRecOn generalizing results s' with
  | nil => cases hpacket
  | append_singleton capture last ih =>
    obtain ⟨results₀, result, s₁, hcapture, hlast, rfl⟩ := dissectCapture_concat.1 hrun
    have hlength := length_results hcapture
    rcases Nat.lt_or_ge n capture.length with hlt | hge
    · rw [List.getElem?_append_left hlt] at hpacket
      rw [List.getElem?_append_left (hlength ▸ hlt), List.take_append_of_le_length hlt.le,
        List.take_append_of_le_length (hlength ▸ hlt.le), List.take_append_of_le_length hlt,
        List.take_append_of_le_length (hlength ▸ hlt)]
      exact ih hcapture hpacket
    · have hn : n = capture.length := by
        have hbound := (List.getElem?_eq_some_iff.1 hpacket).1
        rw [List.length_append, List.length_singleton] at hbound
        omega
      subst hn
      rw [List.getElem?_concat_length] at hpacket
      cases hpacket
      refine ⟨s₁, s', result, ?_, ?_, hlast, ?_⟩
      · rw [← hlength, List.getElem?_concat_length]
      · rw [List.take_left' rfl, List.take_left' hlength]
        exact hcapture
      · rw [List.take_of_length_le (by simp), List.take_of_length_le (by simp [hlength])]
        exact hrun

end

/-! ## What holds between packets -/

/-- The key table has grown from `st`, the tracker knows `msgs`, and no message that is still to
come has a CASE record. -/
structure Sound (env : TrackerEnv) (st : DecryptState) (msgs : List TrackedMessage)
    (s : DissectorState) : Prop where
  grown : Grown st s.decrypt
  tracks : ∃ done, Tracks env msgs done s.tracker
  fresh : ∀ p, msgs.length ≤ p → s.caseExchangeRec p = none

/-- `m` has been shown. -/
def ShownIn (capture : List Packet) (results : List (Except TvbError Shown))
    (m : TrackedMessage) : Prop :=
  ∃ (n : Nat) (packet : Packet) (items : List ProtocolItem) (frames : FrameItems)
    (payload : Except TvbError Payload), capture[n]? = some packet ∧ packet.pinfo = m.pinfo ∧
      results[n]? = some (.ok (.message m.msgInfo items frames payload))

/-- The state `s` after the packets of `capture`, which have given `results`. -/
structure After (env : DissectorEnv) (file : Option (List MatterProxyHintKey)) (st : DecryptState)
    (capture : List Packet) (results : List (Except TvbError Shown)) (msgs : List TrackedMessage)
    (s : DissectorState) : Prop where
  run : (dissectCapture env file capture).run (.start st) = .ok results s
  sound : Sound env.tracker st msgs s
  shown : ∀ m ∈ msgs, ShownIn capture results m

section
variable {env : DissectorEnv} {file : Option (List MatterProxyHintKey)} {st : DecryptState}
  {capture : List Packet} {packet : Packet} {results : List (Except TvbError Shown)}
  {msgs : List TrackedMessage} {m : TrackedMessage} {s s' : DissectorState}

theorem mem_recordMessage {m' : TrackedMessage} (h : m' ∈ recordMessage msgs m) :
    m' ∈ msgs ∨ m' = m := by
  unfold recordMessage at h
  split at h
  · exact (List.mem_append.1 h).imp_right List.mem_singleton.1
  · exact .inl h

theorem length_recordMessage (msgs : List TrackedMessage) (m : TrackedMessage) :
    msgs.length ≤ (recordMessage msgs m).length := by
  unfold recordMessage
  split
  · rw [List.length_append]
    exact Nat.le_add_right _ _
  · exact Nat.le_refl _

theorem ShownIn.concat (hlength : results.length = capture.length) (h : ShownIn capture results m)
    (packet : Packet) (result : Except TvbError Shown) :
    ShownIn (capture ++ [packet]) (results ++ [result]) m := by
  obtain ⟨n, packet', items, frames, payload, hpacket, hpinfo, hresult⟩ := h
  have hlt : n < capture.length := (List.getElem?_eq_some_iff.1 hpacket).1
  refine ⟨n, packet', items, frames, payload, ?_, hpinfo, ?_⟩
  · rw [List.getElem?_append_left hlt, hpacket]
  · rw [List.getElem?_append_left (hlength ▸ hlt), hresult]

theorem shownIn_last (hlength : results.length = capture.length) (hpinfo : m.pinfo = packet.pinfo)
    (items : List ProtocolItem) (frames : FrameItems) (payload : Except TvbError Payload) :
    ShownIn (capture ++ [packet])
      (results ++ [.ok (.message m.msgInfo items frames payload)]) m := by
  refine ⟨capture.length, packet, items, frames, payload, ?_, hpinfo.symm, ?_⟩
  · rw [List.getElem?_concat_length]
  · rw [← hlength, List.getElem?_concat_length]

theorem ShownIn.mem_frames (h : ShownIn capture results m) :
    m.frameNum ∈ capture.map (·.pinfo.num) := by
  obtain ⟨n, packet, items, frames, payload, hpacket, hpinfo, -⟩ := h
  exact List.mem_map.2 ⟨packet, List.mem_of_getElem? hpacket, congrArg PacketInfo.num hpinfo⟩

theorem Sound.start (env : TrackerEnv) (st : DecryptState) : Sound env st [] (.start st) :=
  ⟨.refl st, ⟨[], .empty env⟩, fun _ _ => rfl⟩

theorem After.start : After env file st [] [] [] (.start st) :=
  ⟨rfl, .start _ _, fun _ hm => nomatch hm⟩

/-- Only the record of the message gets a CASE record. -/
theorem PayloadStep.sound {env : CaseEnv} {trackerEnv : TrackerEnv}
    {request : Option (List UInt8)} {p : RecordRef} (h : PayloadStep env request msgs p s s')
    (hp : p < msgs.length) (hs : Sound trackerEnv st msgs s) : Sound trackerEnv st msgs s' := by
  cases h with
  | keeps hs' =>
    rw [hs']
    exact hs
  | security hstep hs' =>
    rw [hs']
    refine ⟨hs.grown.trans hstep.grown, hs.tracks, fun q hq => ?_⟩
    exact (Function.update_of_ne (Nat.ne_of_gt (Nat.lt_of_lt_of_le hp hq)) _ _).trans
      (hs.fresh q hq)

/-- The tracker has a new message, maybe. -/
theorem Sound.tracked (hs : Sound env.tracker st msgs s) {a : Annotations} {t : TrackerState}
    {decrypt : DecryptState} (htracked : Tracked env.tracker msgs m a t)
    (hgrown : Grown s.decrypt decrypt) :
    Sound env.tracker st (recordMessage msgs m) { s with decrypt, tracker := t } :=
  ⟨hs.grown.trans hgrown, htracked.tracks,
    fun p hp => hs.fresh p ((length_recordMessage msgs m).trans hp)⟩

/-- One more packet, where the tracker knows `msgs`. -/
theorem After.step (h : After env file st capture results msgs s)
    {result : Except TvbError Shown}
    (hrun : (attempt (dissectPacket env file packet)).run s = .ok result s') :
    PacketStep env packet.pinfo msgs s result s' := by
  obtain ⟨done, htracks⟩ := h.sound.tracks
  exact dissectPacket_step htracks hrun

theorem After.message (h : After env file st capture results msgs s) {items : List ProtocolItem}
    {payload : Except TvbError Payload} {a : Annotations} {decrypt : DecryptState}
    {t : TrackerState} (hrun : (attempt (dissectPacket env file packet)).run s =
      .ok (.ok (.message m.msgInfo items (framesOf t a) payload)) s')
    (hpinfo : m.pinfo = packet.pinfo) (htracked : Tracked env.tracker msgs m a t)
    (hgrown : Grown s.decrypt decrypt)
    (hpayload : PayloadStep env.case (requestIn m.msgInfo payload) (recordMessage msgs m)
      a.msgRec { s with decrypt, tracker := t } s') :
    After env file st (capture ++ [packet])
      (results ++ [.ok (.message m.msgInfo items (framesOf t a) payload)])
      (recordMessage msgs m) s' := by
  have hlength := length_results h.run
  refine ⟨dissectCapture_concat.2 ⟨_, _, s, h.run, hrun, rfl⟩,
    hpayload.sound htracked.within.msgRec (h.sound.tracked htracked hgrown), fun m' hm' => ?_⟩
  rcases mem_recordMessage hm' with hm' | rfl
  · exact (h.shown m' hm').concat hlength packet _
  · exact shownIn_last hlength hpinfo items _ payload

theorem After.other (h : After env file st capture results msgs s)
    {result : Except TvbError Shown} {decrypt : DecryptState}
    (hrun : (attempt (dissectPacket env file packet)).run s = .ok result { s with decrypt })
    (hgrown : Grown s.decrypt decrypt) :
    After env file st (capture ++ [packet]) (results ++ [result]) msgs { s with decrypt } :=
  ⟨dissectCapture_concat.2 ⟨_, _, s, h.run, hrun, rfl⟩,
    ⟨h.sound.grown.trans hgrown, h.sound.tracks, h.sound.fresh⟩,
    fun m hm => (h.shown m hm).concat (length_results h.run) packet result⟩

/-- Any capture. -/
theorem dissectCapture_after
    (hrun : (dissectCapture env file capture).run (.start st) = .ok results s) :
    ∃ msgs, After env file st capture results msgs s := by
  induction capture using List.reverseRecOn generalizing results s with
  | nil =>
    cases hrun
    exact ⟨[], .start⟩
  | append_singleton capture packet ih =>
    obtain ⟨results₀, result, s₁, hcapture, hpacket, rfl⟩ := dissectCapture_concat.1 hrun
    obtain ⟨msgs, hafter⟩ := ih hcapture
    have hstep := hafter.step hpacket
    cases hstep with
    | message hpinfo htracked hgrown hpayload =>
      exact ⟨_, hafter.message hpacket hpinfo htracked hgrown hpayload⟩
    | other hresult hgrown => exact ⟨msgs, hafter.other hpacket hgrown⟩

end

/-! ## Frames of the capture -/

/-- The frames shown for a message of frame `num` are among `seen`; an acknowledgement goes from a
higher frame to a lower one. -/
structure FrameItems.AmongSeen (f : FrameItems) (num : Nat) (seen : List Nat) : Prop where
  exchangeStart : f.exchangeStart ∈ seen
  startsHere_iff : f.startsHere = true ↔ f.exchangeStart = num
  retransmission : ∀ frame k n, f.retransmission = some (frame, k, n) →
    frame ∈ seen ∧ 0 < k ∧ k ≤ n
  msgCntrReuse : ∀ frame, f.msgCntrReuse = some frame → frame ∈ seen
  ackMsg : ∀ frame, f.ackMsg = some frame → frame ∈ seen ∧ frame < num
  ackedBy : ∀ frame, f.ackedBy = some frame → frame ∈ seen ∧ num < frame

theorem framesOf_amongSeen {msgs done : List TrackedMessage} {num : Nat} {a : Annotations}
    {seen : List Nat} {t : TrackerState} {env : TrackerEnv} (h : Knows env msgs done t)
    (hseen : ∀ m ∈ msgs, m.frameNum ∈ seen) (hplace : placeOf msgs num = some a.msgRec)
    (ha : a.Within msgs.length t.frameNum) : (framesOf t a).AmongSeen num seen := by
  have hframe : ∀ {p : RecordRef}, p < msgs.length → t.frameNum p ∈ seen := by
    intro p hp
    rw [(h.represents.fields (List.getElem?_eq_getElem hp)).1]
    exact hseen _ (List.getElem_mem hp)
  have hown : t.frameNum a.msgRec = num := by
    obtain ⟨m, hm, hnum⟩ := placeOf_spec hplace
    rw [(h.represents.fields hm).1, hnum]
  refine ⟨hframe ha.exchangeStartMsg, ?_, ?_, ?_, ?_, ?_⟩
  · rw [framesOf, decide_eq_true_eq, ← hown]
    constructor
    · exact fun heq => congrArg t.frameNum heq
    · exact fun heq => h.represents.frameNum_inj h.nodup ha.exchangeStartMsg ha.msgRec heq
  · intro frame k n hshown
    rw [framesOf, Option.map_map] at hshown
    obtain ⟨q, hq, hshown⟩ := Option.map_eq_some_iff.1 hshown
    cases hshown
    obtain ⟨hlt, hpos⟩ := ha.retransmissions.retransOfMsg q hq
    exact ⟨hframe hlt, hpos, ha.retransmissions.retransNum_le⟩
  · intro frame hshown
    obtain ⟨q, hq, rfl⟩ := Option.map_eq_some_iff.1 hshown
    exact hframe (ha.reusesMsgCntrFrom q hq)
  · intro frame hshown
    obtain ⟨q, hq, rfl⟩ := Option.map_eq_some_iff.1 hshown
    obtain ⟨hlt, hbefore⟩ := ha.ackedMsg q hq
    exact ⟨hframe hlt, hown ▸ hbefore⟩
  · intro frame hshown
    obtain ⟨q, hq, rfl⟩ := Option.map_eq_some_iff.1 hshown
    obtain ⟨r, hr, hq⟩ := Option.bind_eq_some_iff.1 hq
    obtain ⟨m, -, hplace', -, -, hbehind⟩ :=
      mem_acknowledgersOf.1 (h.ackedBy a.msgRec r q hr hq)
    exact ⟨hframe (lt_of_placeOf hplace'), hown ▸ hbehind⟩

/-- What a packet of frame `num` shows refers to frames among `seen`. -/
def Shown.AmongSeen (num : Nat) (seen : List Nat) : Shown → Prop
  | .encrypted _ _ => True
  | .message _ _ frames _ => frames.AmongSeen num seen

/-- In any capture, what a packet shows refers only to frames that came up to it. -/
theorem dissectCapture_frames (env : DissectorEnv) (file : Option (List MatterProxyHintKey))
    (st : DecryptState) (capture : List Packet) {results : List (Except TvbError Shown)}
    {s' : DissectorState}
    (hrun : (dissectCapture env file capture).run (.start st) = .ok results s') {n : Nat}
    {packet : Packet} {shown : Shown} (hpacket : capture[n]? = some packet)
    (hshown : results[n]? = some (.ok shown)) :
    shown.AmongSeen packet.pinfo.num ((capture.take (n + 1)).map (·.pinfo.num)) := by
  obtain ⟨s₁, s₂, result, hresult, hbefore, hrun, -⟩ := dissectCapture_at hrun hpacket
  cases hresult.symm.trans hshown
  obtain ⟨msgs, hafter⟩ := dissectCapture_after hbefore
  have hstep := hafter.step hrun
  cases shown with
  | encrypted msgInfo encData => trivial
  | message msgInfo items frames payload =>
    generalize hmessage : (Except.ok (Shown.message msgInfo items frames payload) :
      Except TvbError Shown) = result at hstep
    cases hstep with
    | other hresult => exact absurd hmessage.symm (hresult _ _ _ _)
    | @message m _ _ a _ t _ hpinfo htracked hgrown hpayload =>
      cases hmessage
      have hshown := (hafter.message hrun hpinfo htracked hgrown hpayload).shown
      obtain ⟨done, htracks⟩ := htracked.tracks
      rw [List.take_add_one, hpacket]
      have hnum : m.frameNum = packet.pinfo.num := congrArg PacketInfo.num hpinfo
      rw [← hnum]
      exact framesOf_amongSeen htracks.knows (fun m' hm' => (hshown m' hm').mem_frames)
        htracked.place htracked.within

end Matter.Capture
