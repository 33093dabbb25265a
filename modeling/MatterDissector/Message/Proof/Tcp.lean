import MatterDissector.Message.Tcp

/-!
# Where a segment is cut

A callback that gives the length `n` at every offset cuts the segment into PDUs of `n` bytes
(`tcpDissectPdus_length`), so into its frames if they all have `n` bytes
(`tcpDissectPdus_frames`). `GetMatterTCPMessageLength` is such a callback: it reads the length of
the first message at every offset (`getMatterTCPMessageLength_segment`). The PDUs are therefore
the messages of the segment exactly when these have the length of the first one
(`dissectMatterTCP_iff`).
-/

namespace Matter.Message

open Prog

/-! ## A callback with one answer -/

section
variable {n fixedLen : Nat} {getPduLen : Tvb → Nat → PduM Nat} {tvb : Tvb}
  (hcall : ∀ offset s, (getPduLen tvb offset).run s = .ok n s)
  (hfixed : 0 < fixedLen)
include hcall

theorem tcpDissectPdusRound_eq (offset : Nat) (pdus : List (List UInt8)) :
    (tcpDissectPdusRound fixedLen getPduLen tvb offset).run pdus =
      if fixedLen ≤ n ∧ fixedLen ≤ tvb.bytes.length - offset ∧ n ≤ tvb.bytes.length - offset then
        .ok (.inl (offset + n)) (pdus ++ [(tvb.bytes.drop offset).take n])
      else .ok (.inr ()) pdus := by
  unfold tcpDissectPdusRound
  dsimp only
  by_cases hshort : tvb.bytes.length - offset < fixedLen
  · rw [if_pos hshort, if_neg (by omega)]
    rfl
  rw [if_neg hshort, bind_ok (hcall offset pdus)]
  by_cases hlen : n < fixedLen ∨ tvb.bytes.length - offset < n
  · rw [if_pos hlen, if_neg (by omega)]
    rfl
  · rw [if_neg hlen, if_pos (by omega)]
    rfl

include hfixed

theorem tcpDissectPdusRound_progress (offset : Nat) (pdus : List (List UInt8)) (offset' : Nat)
    (pdus' : List (List UInt8))
    (h : (tcpDissectPdusRound fixedLen getPduLen tvb offset).run pdus =
      .ok (.inl offset') pdus') :
    tvb.bytes.length - offset' < tvb.bytes.length - offset := by
  rw [tcpDissectPdusRound_eq hcall] at h
  split at h
  · cases h; omega
  · cases h

/-- The loop from `offset`, one round at a time. -/
theorem tcpDissectPdus_step (offset : Nat) (pdus : List (List UInt8)) :
    (whileLoop (fun offset _ => tvb.bytes.length - offset) .outOfFuel
        (tcpDissectPdusRound fixedLen getPduLen tvb) offset).run pdus =
      if fixedLen ≤ n ∧ fixedLen ≤ tvb.bytes.length - offset ∧ n ≤ tvb.bytes.length - offset then
        (whileLoop (fun offset _ => tvb.bytes.length - offset) .outOfFuel
          (tcpDissectPdusRound fixedLen getPduLen tvb) (offset + n)).run
            (pdus ++ [(tvb.bytes.drop offset).take n])
      else .ok () pdus := by
  rw [whileLoop_eq (tcpDissectPdusRound_progress hcall hfixed), run_bind,
    tcpDissectPdusRound_eq hcall]
  by_cases h : fixedLen ≤ n ∧ fixedLen ≤ tvb.bytes.length - offset ∧
      n ≤ tvb.bytes.length - offset
  · rw [if_pos h, if_pos h]; rfl
  · rw [if_neg h, if_neg h]; rfl

/-- Frames of `n` bytes are the PDUs. -/
theorem tcpDissectPdus_frames (hn : fixedLen ≤ n) {frames : List (List UInt8)}
    {pre : List UInt8} (pdus : List (List UInt8)) (hbytes : tvb.bytes = pre ++ frames.flatten)
    (hframes : ∀ f ∈ frames, f.length = n) :
    (whileLoop (fun offset _ => tvb.bytes.length - offset) .outOfFuel
        (tcpDissectPdusRound fixedLen getPduLen tvb) pre.length).run pdus =
      .ok () (pdus ++ frames) := by
  induction frames generalizing pre pdus with
  | nil =>
    have hlen := congrArg List.length hbytes
    rw [List.flatten_nil, List.append_nil] at hlen
    rw [tcpDissectPdus_step hcall hfixed, if_neg (by omega), List.append_nil]
  | cons f frames ih =>
    have hf : f.length = n := hframes f List.mem_cons_self
    have hlen := congrArg List.length hbytes
    rw [List.flatten_cons, List.length_append, List.length_append] at hlen
    have hchunk : (tvb.bytes.drop pre.length).take n = f := by
      rw [hbytes, List.drop_left, List.flatten_cons]
      exact List.take_left' hf
    have hpre : pre.length + n = (pre ++ f).length := by rw [List.length_append, hf]
    rw [tcpDissectPdus_step hcall hfixed, if_pos (by omega), hchunk, hpre,
      ih _ (by rw [hbytes, List.flatten_cons, List.append_assoc])
        (fun g hg => hframes g (List.mem_cons_of_mem _ hg)), List.append_assoc]
    rfl

omit hfixed in
/-- Every PDU has `n` bytes. -/
theorem tcpDissectPdus_length {pdus : List (List UInt8)}
    (h : (tcpDissectPdus fixedLen getPduLen tvb).run [] = .ok () pdus) :
    ∀ f ∈ pdus, f.length = n := by
  refine whileLoop_ok (J := fun _ pdus => ∀ f ∈ pdus, f.length = n)
    (Q := fun _ pdus => ∀ f ∈ pdus, f.length = n) ?_ ?_ (fun f hf => absurd hf List.not_mem_nil) h
  · intro offset pdus offset' pdus' hJ hround f hf
    rw [tcpDissectPdusRound_eq hcall] at hround
    split at hround
    · cases hround
      rcases List.mem_append.1 hf with hf | hf
      · exact hJ f hf
      · rw [List.mem_singleton.1 hf, List.length_take, List.length_drop]; omega
    · cases hround
  · intro offset pdus u pdus' hJ hround
    rw [tcpDissectPdusRound_eq hcall] at hround
    split at hround
    · cases hround
    · cases hround; exact hJ

end

/-! ## The Matter callback -/

theorem length_frameMessage (msg : List UInt8) : (frameMessage msg).length = msg.length + 2 := by
  rw [frameMessage, List.length_append, LE.length_bytes, matterTCPMessageLengthFieldSize,
    Nat.add_comm]

/-- The callback gives the length of the first message, whatever the offset. -/
theorem getMatterTCPMessageLength_segment {msg : List UInt8} {msgs : List (List UInt8)}
    (hmsg : msg.length ≤ 65533) (offset : Nat) (pdus : List (List UInt8)) :
    (getMatterTCPMessageLength (segment (msg :: msgs)) offset).run pdus =
      .ok (msg.length + 2) pdus := by
  have hget : ((segment (msg :: msgs)).getLetohs 0).run pdus = .ok msg.length pdus :=
    Tvb.getLE_bytes [] (msg ++ (msgs.map frameMessage).flatten) pdus
      (by simp [segment, Tvb.ofBytes, frameMessage, matterTCPMessageLengthFieldSize]) rfl
      (by omega)
  rw [getMatterTCPMessageLength, bind_ok hget]
  rfl

/-- The PDUs of a segment are its messages exactly when all have the length of the first. -/
theorem dissectMatterTCP_iff (msgs : List (List UInt8)) (hmsgs : ∀ m ∈ msgs, m.length ≤ 65533) :
    (dissectMatterTCP (segment msgs)).run [] = .ok () (msgs.map frameMessage) ↔
      ∀ m ∈ msgs, m.length = (msgs.headD []).length := by
  cases msgs with
  | nil =>
    refine ⟨fun _ m hm => absurd hm List.not_mem_nil, fun _ => ?_⟩
    rfl
  | cons msg msgs =>
    have hcall := @getMatterTCPMessageLength_segment msg msgs (hmsgs msg List.mem_cons_self)
    refine ⟨fun h m hm => ?_, fun h => ?_⟩
    · have hlen := tcpDissectPdus_length hcall h (frameMessage m)
        (List.mem_map_of_mem hm)
      rw [length_frameMessage] at hlen
      exact Nat.add_right_cancel hlen
    · refine @tcpDissectPdus_frames _ 2 _ _ hcall (by decide) (by omega)
        ((msg :: msgs).map frameMessage) [] [] rfl (fun f hf => ?_)
      obtain ⟨m, hm, rfl⟩ := List.mem_map.1 hf
      rw [length_frameMessage, h m hm]; rfl

/-- Three messages of one length are found. -/
theorem dissectMatterTCP_iff_equal :
    (∀ m ∈ [[0x01, 0x02], [0x03, 0x04], ([0x05, 0x06] : List UInt8)], m.length ≤ 65533) ∧
      ((dissectMatterTCP (segment [[0x01, 0x02], [0x03, 0x04], [0x05, 0x06]])).run [] =
          .ok () ([[0x01, 0x02], [0x03, 0x04], [0x05, 0x06]].map frameMessage) ↔
        ∀ m ∈ [[0x01, 0x02], [0x03, 0x04], ([0x05, 0x06] : List UInt8)],
          m.length = ([[0x01, 0x02], [0x03, 0x04], ([0x05, 0x06] : List UInt8)].headD []).length) :=
  ⟨by decide, dissectMatterTCP_iff _ (by decide)⟩

/-- An unsecured message of 14 bytes. -/
def shortMessage : List UInt8 :=
  [0x00, 0x00, 0x00, 0x00, 0x01, 0x00, 0x00, 0x00, 0x05, 0x10, 0x02, 0x00, 0x00, 0x00]

/-- One with four bytes of payload. -/
def longMessage : List UInt8 :=
  [0x00, 0x00, 0x00, 0x00, 0x02, 0x00, 0x00, 0x00, 0x05, 0x10, 0x03, 0x00, 0x00, 0x00,
    0xDE, 0xAD, 0xBE, 0xEF]

/-- The second message of the segment loses its payload. -/
theorem dissectMatterTCP_unequal :
    (∀ m ∈ [shortMessage, longMessage], m.length ≤ 65533) ∧
      (dissectMatterTCP (segment [shortMessage, longMessage])).run [] ≠
        .ok () ([shortMessage, longMessage].map frameMessage) := by
  decide

end Matter.Message
