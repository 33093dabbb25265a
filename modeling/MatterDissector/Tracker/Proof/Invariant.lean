import MatterDissector.Tracker.Proof.Records

/-!
# The representation invariant of the tracker

`WellFormed env msgs s`: the invariant in full, for a state that has recorded `msgs`. It holds
after every run (`findOrCreateAll_wellFormed`), whatever the frames are and however often they
come.
-/

namespace Matter.Tracker

open Prog Message Intrusive

/-- The lists of `s` are finite and doubly linked, and hold the records of `msgs` in the order of
creation, each one in the list of its counter key and in the list of its exchange key; a frame that
has a record keeps it. -/
structure WellFormed (env : TrackerEnv) (msgs : List TrackedMessage) (s : TrackerState) :
    Prop where
  content_eq : s.records.map MatterMessageRecord.content = msgs.map (TrackedMessage.content env)
  counterLists : ∀ key, DoublyLinked (s.link byMsgCntr.next) (s.link byMsgCntr.prev)
    (s.messageIdTable key) (s.counterList key)
  exchangeLists : ∀ key, DoublyLinked (s.link byExchange.next) (s.link byExchange.prev)
    (s.exchangeTable key) (s.exchangeList key)
  counterList_eq : ∀ key, s.counterList key = positions TrackedMessage.msgIdKey msgs key
  exchangeList_eq : ∀ key, s.exchangeList key = positions TrackedMessage.exchangeKey msgs key
  oneCounterList : ∀ p < s.records.length, ∃! key, p ∈ s.counterList key
  oneExchangeList : ∀ p < s.records.length, ∃! key, p ∈ s.exchangeList key
  repeated : ∀ m p, s.protoData m.frameNum = some p →
    (findOrCreateMessageRecord env m).run s = .ok p s

theorem Represents.wellFormed {env : TrackerEnv} {msgs : List TrackedMessage} {s : TrackerState}
    (h : Represents env msgs s) : WellFormed env msgs s where
  content_eq := h.content_eq
  counterLists key := h.counterList_eq key ▸ h.byMsgCntr.doublyLinked key
  exchangeLists key := h.exchangeList_eq key ▸ h.byExchange.doublyLinked key
  counterList_eq := h.counterList_eq
  exchangeList_eq := h.exchangeList_eq
  oneCounterList p hp := by
    simp only [h.counterList_eq]
    exact existsUnique_positions (h.length_eq ▸ hp)
  oneExchangeList p hp := by
    simp only [h.exchangeList_eq]
    exact existsUnique_positions (h.length_eq ▸ hp)
  repeated _ _ hp := findOrCreate_known hp

/-- After every run the tracker is well formed, and what its calls have returned are the records
of their frames. -/
theorem findOrCreateAll_wellFormed (env : TrackerEnv) (run : List TrackedMessage) :
    ∃ results s, (findOrCreateAll env run).run .empty = .ok results s ∧
      WellFormed env (recorded run) s ∧
      ∀ (n : Nat) (m : TrackedMessage) (p : RecordRef), run[n]? = some m →
        results[n]? = some (.ok p) → s.protoData m.frameNum = some p := by
  obtain ⟨s, hrun, hs⟩ := findOrCreateAll_run env run
  refine ⟨_, s, hrun, hs.wellFormed, fun n m p hm hp => ?_⟩
  rw [hs.protoData_eq]
  exact placeOf_of_resultsOf hm hp

end Matter.Tracker
