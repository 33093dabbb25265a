import MatterDissector.Tracker.Proof.Start

/-!
# Messages of different sessions

The session id is in no key: `GetMessageIdTableAndKey` takes unicast for "not encrypted"
(`msgIdKey_unicast`), and the key of an exchange has node ids and no session. So two sessions share
a list of messages with one counter exactly if node id and counter agree
(`counterChainsApart_iff`), and an exchange if node ids and exchange id agree
(`exchangeKey_eq_iff`). Unicast messages carry no node ids as a rule.
-/

namespace Matter.Tracker

open Prog Message Intrusive Extremum

namespace TrackedMessage

def isUnicast (m : TrackedMessage) : Prop := m.msgInfo.sessionType = sessionTypeUnicast

/-- Unicast messages of two sessions over the same transport. -/
structure OtherSession (m m' : TrackedMessage) : Prop where
  unicast : m.isUnicast
  unicast' : m'.isUnicast
  transport : m.pinfo.isTCP = m'.pinfo.isTCP
  sessionId_ne : m.msgInfo.sessionId ≠ m'.msgInfo.sessionId

/-- The source, the counter and the TCP stream agree. -/
structure SameCounter (m m' : TrackedMessage) : Prop where
  srcNodeId_eq : m.msgInfo.srcNodeId = m'.msgInfo.srcNodeId
  msgId_eq : m.msgInfo.msgId = m'.msgInfo.msgId
  tcpStream_eq : m.pinfo.isTCP = true → m.pinfo.tcpStream = m'.pinfo.tcpStream

/-- Encrypted unicast messages of two sessions, both from the initiator. -/
structure OtherInitiator (m m' : TrackedMessage) : Prop where
  unicast : m.isUnicast
  unicast' : m'.isUnicast
  encrypted : messageIsEncrypted m.msgInfo.toMatterMessageInfo = true
  encrypted' : messageIsEncrypted m'.msgInfo.toMatterMessageInfo = true
  initiator : m.isInitiator = true
  initiator' : m'.isInitiator = true
  sessionId_ne : m.msgInfo.sessionId ≠ m'.msgInfo.sessionId

/-- The node ids and the exchange id agree. -/
structure SameExchange (m m' : TrackedMessage) : Prop where
  srcNodeId_eq : m.msgInfo.srcNodeId = m'.msgInfo.srcNodeId
  destNodeId_eq : m.msgInfo.destNodeId = m'.msgInfo.destNodeId
  exchId_eq : m.msgInfo.exchId = m'.msgInfo.exchId

end TrackedMessage

open TrackedMessage

/-! ## Keys -/

section
variable {m m' : TrackedMessage}

theorem words64_append_inj {v w : Nat} {xs ys : Key} :
    words64 v ++ xs = words64 w ++ ys ↔ v = w ∧ xs = ys := by
  constructor
  · intro h
    obtain ⟨hlow, hrest⟩ := List.cons.inj h
    obtain ⟨hhigh, hxs⟩ := List.cons.inj hrest
    exact ⟨by rw [← Nat.mod_add_div v (2 ^ 32), ← Nat.mod_add_div w (2 ^ 32), hlow, hhigh], hxs⟩
  · rintro ⟨rfl, rfl⟩
    rfl

/-- The branch of a unicast message: the one for messages that are not encrypted. -/
theorem msgIdKey_unicast (h : m.isUnicast) : m.msgIdKey =
    if m.pinfo.isTCP then
      (.unencryptedTCP, words64 m.msgInfo.srcNodeId ++ [m.msgInfo.msgId, m.pinfo.tcpStream])
    else (.unencryptedUDP, words64 m.msgInfo.srcNodeId ++ [m.msgInfo.msgId]) := by
  rw [msgIdKey, getMessageIdTableAndKey, show m.msgInfo.sessionType = encryptionTypeNone from h]
  cases m.pinfo.isTCP <;> rfl

theorem msgIdKey_eq_iff (h : OtherSession m m') : m.msgIdKey = m'.msgIdKey ↔ SameCounter m m' := by
  rw [msgIdKey_unicast h.unicast, msgIdKey_unicast h.unicast', ← h.transport]
  cases hTCP : m.pinfo.isTCP with
  | true =>
    rw [if_pos rfl, if_pos rfl, Prod.mk.injEq, words64_append_inj]
    constructor
    · rintro ⟨-, hsrc, htail⟩
      obtain ⟨hmsgId, htail⟩ := List.cons.inj htail
      exact ⟨hsrc, hmsgId, fun _ => List.head_eq_of_cons_eq htail⟩
    · intro hsame
      rw [hsame.msgId_eq, hsame.tcpStream_eq hTCP]
      exact ⟨rfl, hsame.srcNodeId_eq, rfl⟩
  | false =>
    rw [if_neg (by simp), if_neg (by simp), Prod.mk.injEq, words64_append_inj]
    constructor
    · rintro ⟨-, hsrc, htail⟩
      exact ⟨hsrc, List.head_eq_of_cons_eq htail, fun hcontra => by
        rw [hTCP] at hcontra; cases hcontra⟩
    · intro hsame
      rw [hsame.msgId_eq]
      exact ⟨rfl, hsame.srcNodeId_eq, rfl⟩

theorem exchangeKey_initiator (h : m.isInitiator = true) : m.exchangeKey =
    words64 m.msgInfo.srcNodeId ++ (words64 m.msgInfo.destNodeId ++ [m.msgInfo.exchId]) := by
  have h : m.msgInfo.isInitiator = true := h
  rw [exchangeKey, if_pos h, if_pos h, getExchangeKey, List.append_assoc]

theorem exchangeKey_eq_iff (h : OtherInitiator m m') :
    m.exchangeKey = m'.exchangeKey ↔ SameExchange m m' := by
  rw [exchangeKey_initiator h.initiator, exchangeKey_initiator h.initiator', words64_append_inj,
    words64_append_inj]
  constructor
  · rintro ⟨hsrc, hdest, htail⟩
    exact ⟨hsrc, hdest, List.head_eq_of_cons_eq htail⟩
  · intro hsame
    rw [hsame.exchId_eq]
    exact ⟨hsame.srcNodeId_eq, hsame.destNodeId_eq, rfl⟩

end

/-! ## Messages with one counter -/

/-- No message is in a list with, or is reported as a retransmission of or a counter reuse of, a
message of another session. -/
structure CounterChainsApart (msgs : List TrackedMessage) (s : TrackerState) : Prop where
  chains : ∀ (p q : RecordRef) m m', msgs[p]? = some m → msgs[q]? = some m' → OtherSession m m' →
    ∀ key, ¬ (p ∈ s.counterList key ∧ q ∈ s.counterList key)
  retransmissions : ∀ (p q : RecordRef) m m', msgs[p]? = some m → msgs[q]? = some m' →
    OtherSession m m' →
    ∃ found, (findRetransmissions p).run s = .ok found s ∧ found.retransOfMsg ≠ some q
  reuses : ∀ (p q : RecordRef) m m', msgs[p]? = some m → msgs[q]? = some m' →
    OtherSession m m' →
    ∃ reused, (findReusedMessageIds p).run s = .ok reused s ∧ reused ≠ some q

section
variable {env : TrackerEnv} {msgs : List TrackedMessage} {m m' : TrackedMessage}
  {s : TrackerState} {p q : RecordRef}

theorem Represents.counterChains_iff (h : Represents env msgs s) :
    CounterChainsApart msgs s ↔
      ∀ m ∈ msgs, ∀ m' ∈ msgs, OtherSession m m' → ¬ SameCounter m m' := by
  constructor
  · intro hapart m hm m' hm' hother hsame
    obtain ⟨p, hp⟩ := List.mem_iff_getElem?.1 hm
    obtain ⟨q, hq⟩ := List.mem_iff_getElem?.1 hm'
    have hkey := (msgIdKey_eq_iff hother).2 hsame
    exact hapart.chains p q m m' hp hq hother m.msgIdKey
      ⟨(h.mem_counterList hp).2 rfl, (h.mem_counterList hq).2 hkey.symm⟩
  · intro happ
    have hkey : ∀ (p q : RecordRef) m m', msgs[p]? = some m → msgs[q]? = some m' →
        OtherSession m m' → m.msgIdKey ≠ m'.msgIdKey := fun p q m m' hp hq hother heq =>
      happ m (List.mem_of_getElem? hp) m' (List.mem_of_getElem? hq) hother
        ((msgIdKey_eq_iff hother).1 heq)
    refine ⟨fun p q m m' hp hq hother key => ?_, fun p q m m' hp hq hother => ?_,
      fun p q m m' hp hq hother => ?_⟩
    · rintro ⟨hpkey, hqkey⟩
      refine hkey p q m m' hp hq hother ?_
      rw [(h.mem_counterList hp).1 hpkey, (h.mem_counterList hq).1 hqkey]
    · obtain ⟨⟨found, hfound, hlist⟩, -⟩ := h.reported hp
      refine ⟨found, hfound, fun hreport => hkey p q m m' hp hq hother ?_⟩
      exact ((h.mem_counterList hq).1 (hlist q hreport)).symm
    · obtain ⟨-, reused, hreused, hlist⟩ := h.reported hp
      refine ⟨reused, hreused, fun hreport => hkey p q m m' hp hq hother ?_⟩
      exact ((h.mem_counterList hq).1 (hlist q hreport)).symm

end

/-- The sessions are apart exactly if no two of them use a counter with the same source. -/
theorem counterChainsApart_iff (env : TrackerEnv) (run : List TrackedMessage) :
    (∃ results s, (findOrCreateAll env run).run .empty = .ok results s ∧
      CounterChainsApart (recorded run) s) ↔
      ∀ m ∈ recorded run, ∀ m' ∈ recorded run, OtherSession m m' → ¬ SameCounter m m' :=
  exists_findOrCreateAll_iff fun _ hs => hs.counterChains_iff

/-- A message of a session, without node ids. -/
def sessionMessage (num sessionId msgId exchHeader : Nat) : TrackedMessage :=
  shortMessage .udp num { shortHeader with sessionId, msgId, exchHeader, msgType := 2 }

/-- The counters of sessions 1 and 2 meet at 5. -/
def meetingCounters : List TrackedMessage :=
  [sessionMessage 1 1 5 0x05, sessionMessage 2 2 5 0x05]

theorem counterChainsApart_meeting : ¬ ∀ (env : TrackerEnv) (run : List TrackedMessage),
    ∃ results s, (findOrCreateAll env run).run .empty = .ok results s ∧
      CounterChainsApart (recorded run) s := by
  intro h
  have happ := (exists_findOrCreateAll_iff fun _ hs => hs.counterChains_iff).1
    (h crc32Ccitt meetingCounters)
  rw [show recorded meetingCounters = meetingCounters from rfl] at happ
  exact happ (sessionMessage 1 1 5 0x05) (.head _) (sessionMessage 2 2 5 0x05) (.tail _ (.head _))
    ⟨rfl, rfl, rfl, by decide⟩ ⟨rfl, rfl, fun _ => rfl⟩

end Matter.Tracker
