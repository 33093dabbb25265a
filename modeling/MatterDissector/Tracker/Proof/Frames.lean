import MatterDissector.Tracker.Proof.Records

/-!
# Messages and frames

A record belongs to a frame, not to a message: `p_get_proto_data` is asked for the frame alone.
So the messages of a run have records of their own exactly if none of them comes after another
message of its frame that has been recorded (`ownRecords_iff`). A TCP segment with two messages
breaks this (`ownRecords_twoMessages`).
-/

namespace Matter.Tracker

open Prog Message Intrusive

/-- The messages of a capture: `message num i` is the `i`-th one of frame `num`. -/
structure Capture where
  message : Nat → Nat → TrackedMessage
  frameNum_eq : ∀ num i, (message num i).frameNum = num

/-- A run of the dissector, which may come to a message more than once. -/
def Capture.run (capture : Capture) (places : List (Nat × Nat)) : List TrackedMessage :=
  places.map fun place => capture.message place.1 place.2

/-- Every message for which the tracker has returned a record has one of its own: it says what the
message says, and is once in the list of its counter and once in the list of its exchange. -/
structure OwnRecords (env : TrackerEnv) (capture : Capture) (places : List (Nat × Nat))
    (results : List (Except TvbError RecordRef)) (s : TrackerState) : Prop where
  own : ∀ (n : Nat) place p, places[n]? = some place → results[n]? = some (.ok p) →
    ∃ r m, s.records[p]? = some r ∧ m = capture.message place.1 place.2 ∧
      r.isInitiator = m.isInitiator ∧ r.fingerprint = m.fingerprint env ∧
      (s.counterList m.msgIdKey).count p = 1 ∧ (s.exchangeList m.exchangeKey).count p = 1
  distinct : ∀ (n n' : Nat) place place' p, places[n]? = some place →
    places[n']? = some place' → results[n]? = some (.ok p) → results[n']? = some (.ok p) →
    place = place'

/-- No message comes after another message of its frame that was complete. -/
def OnePerFrame (capture : Capture) (places : List (Nat × Nat)) : Prop :=
  ∀ n n' : Nat, n ≤ n' → ∀ num i j, places[n]? = some (num, i) → places[n']? = some (num, j) →
    (capture.message num i).complete = true → i = j

section
variable {env : TrackerEnv} {msgs run : List TrackedMessage} {m : TrackedMessage} {p : RecordRef}

theorem getElem?_resultsOf (n : Nat) : (resultsOf msgs run)[n]? =
    run[n]?.map fun m => resultOf ((run.take (n + 1)).foldl recordMessage msgs) m := by
  induction run generalizing msgs n with
  | nil => rfl
  | cons m run ih =>
    cases n with
    | zero => rfl
    | succ n => exact ih n

/-- From a complete message on, the calls for its frame return a record. -/
theorem result_of_complete {n n' : Nat} {m' : TrackedMessage} (hle : n ≤ n')
    (hm : run[n]? = some m) (hm' : run[n']? = some m') (hframe : m'.frameNum = m.frameNum)
    (hcomplete : m.complete = true) : ∃ p, (resultsOf [] run)[n']? = some (.ok p) := by
  have hmem : m ∈ run.take (n' + 1) := by
    refine List.mem_of_getElem? (i := n) ?_
    rw [List.getElem?_take_of_lt (Nat.lt_succ_of_le hle), hm]
  obtain ⟨p, hp⟩ : ∃ p, placeOf ((run.take (n' + 1)).foldl recordMessage []) m.frameNum = some p :=
    placeOf_of_mem hmem hcomplete
  refine ⟨p, ?_⟩
  rw [getElem?_resultsOf, hm', Option.map_some, resultOf, hframe, hp]

/-- A record that a call returns was made for a message of the frame which came no later. -/
theorem recorded_of_result {n : Nat} (hm : run[n]? = some m)
    (hp : (resultsOf [] run)[n]? = some (.ok p)) :
    ∃ n₀ m₀, n₀ ≤ n ∧ run[n₀]? = some m₀ ∧ m₀.frameNum = m.frameNum ∧ m₀.complete = true ∧
      (recorded run)[p]? = some m₀ := by
  rw [getElem?_resultsOf, hm, Option.map_some] at hp
  have hresult : resultOf (recorded (run.take (n + 1))) m = .ok p := Option.some.inj hp
  have hplace : placeOf (recorded (run.take (n + 1))) m.frameNum = some p := by
    unfold resultOf at hresult
    split at hresult
    · rename_i q hq
      cases hresult
      exact hq
    · cases hresult
  obtain ⟨m₀, hm₀, hframe⟩ := placeOf_spec hplace
  obtain ⟨htaken, hcomplete⟩ := mem_recorded (List.mem_of_getElem? hm₀)
  obtain ⟨n₀, hn₀⟩ := List.mem_iff_getElem?.1 htaken
  have hlt : n₀ < n + 1 := by
    have hlen := (List.getElem?_eq_some_iff.1 hn₀).1
    rw [List.length_take] at hlen
    omega
  rw [List.getElem?_take_of_lt hlt] at hn₀
  refine ⟨n₀, m₀, Nat.le_of_lt_succ hlt, hn₀, hframe, hcomplete, ?_⟩
  have hkept := getElem?_foldl_recordMessage hm₀ (run.drop (n + 1))
  rwa [recorded, ← List.foldl_append, List.take_append_drop] at hkept

end

section
variable {env : TrackerEnv} {capture : Capture} {places : List (Nat × Nat)} {n : Nat}
  {num i : Nat} {p : RecordRef} {s : TrackerState}

theorem Capture.getElem?_run (capture : Capture) (places : List (Nat × Nat)) (n : Nat) :
    (capture.run places)[n]? =
      places[n]?.map fun place => capture.message place.1 place.2 := List.getElem?_map

/-- Where a record came from, by the places of the capture. -/
theorem place_of_result (hplace : places[n]? = some (num, i))
    (hp : (resultsOf [] (capture.run places))[n]? = some (.ok p)) :
    ∃ n₀ i₀, n₀ ≤ n ∧ places[n₀]? = some (num, i₀) ∧
      (capture.message num i₀).complete = true ∧
      (recorded (capture.run places))[p]? = some (capture.message num i₀) := by
  have hm : (capture.run places)[n]? = some (capture.message num i) := by
    rw [capture.getElem?_run, hplace, Option.map_some]
  obtain ⟨n₀, m₀, hle, hm₀, hframe, hcomplete, hrecorded⟩ := recorded_of_result hm hp
  rw [capture.getElem?_run] at hm₀
  obtain ⟨⟨num₀, i₀⟩, hplace₀, rfl⟩ := Option.map_eq_some_iff.1 hm₀
  rw [capture.frameNum_eq, capture.frameNum_eq] at hframe
  have hnum : num₀ = num := hframe
  subst hnum
  exact ⟨n₀, i₀, hle, hplace₀, hcomplete, hrecorded⟩

/-- The records of a run in which no frame brings a second message. -/
theorem OnePerFrame.ownRecords (h : OnePerFrame capture places)
    (hs : Represents env (recorded (capture.run places)) s) :
    OwnRecords env capture places (resultsOf [] (capture.run places)) s where
  own := by
    intro n ⟨num, i⟩ p hplace hp
    obtain ⟨n₀, i₀, hle, hplace₀, hcomplete, hrecorded⟩ := place_of_result hplace hp
    obtain rfl := h n₀ n hle num i₀ i hplace₀ hplace hcomplete
    obtain ⟨r, hr, -, hfingerprint, hinitiator⟩ := hs.record hrecorded
    refine ⟨r, _, hr, rfl, hinitiator, hfingerprint, ?_, ?_⟩
    · rw [hs.counterList_eq]
      exact List.count_eq_one_of_mem nodup_positions (mem_positions.2 (by rw [hrecorded]; rfl))
    · rw [hs.exchangeList_eq]
      exact List.count_eq_one_of_mem nodup_positions (mem_positions.2 (by rw [hrecorded]; rfl))
  distinct := by
    intro n n' ⟨num, i⟩ ⟨num', i'⟩ p hplace hplace' hp hp'
    obtain ⟨n₀, i₀, hle, hplace₀, hcomplete, hrecorded⟩ := place_of_result hplace hp
    obtain ⟨n₁, i₁, hle', hplace₁, hcomplete', hrecorded'⟩ := place_of_result hplace' hp'
    have hframe := congrArg TrackedMessage.frameNum
      (Option.some.inj (hrecorded.symm.trans hrecorded'))
    rw [capture.frameNum_eq, capture.frameNum_eq] at hframe
    subst hframe
    obtain rfl := h n₀ n hle num i₀ i hplace₀ hplace hcomplete
    obtain rfl := h n₁ n' hle' num i₁ i' hplace₁ hplace' hcomplete'
    -- both messages are complete, so the later of the two first ones is the other
    rcases Nat.le_total n₀ n₁ with hle | hle
    · rw [h n₀ n₁ hle num i₀ i₁ hplace₀ hplace₁ hcomplete]
    · rw [h n₁ n₀ hle num i₁ i₀ hplace₁ hplace₀ hcomplete']

theorem OwnRecords.onePerFrame
    (h : OwnRecords env capture places (resultsOf [] (capture.run places)) s) :
    OnePerFrame capture places := by
  intro n n' hle num i j hplace hplace' hcomplete
  have hm : (capture.run places)[n]? = some (capture.message num i) := by
    rw [capture.getElem?_run, hplace, Option.map_some]
  have hm' : (capture.run places)[n']? = some (capture.message num j) := by
    rw [capture.getElem?_run, hplace', Option.map_some]
  have hframe : (capture.message num j).frameNum = (capture.message num i).frameNum := by
    rw [capture.frameNum_eq, capture.frameNum_eq]
  obtain ⟨p, hp⟩ := result_of_complete (Nat.le_refl n) hm hm rfl hcomplete
  obtain ⟨q, hq⟩ := result_of_complete hle hm hm' hframe hcomplete
  -- a frame has one record at the end of the run
  have hpq : p = q := by
    have hp := placeOf_of_resultsOf hm hp
    have hq := placeOf_of_resultsOf hm' hq
    rw [hframe, hp] at hq
    exact Option.some.inj hq
  have hsame := h.distinct n n' (num, i) (num, j) p hplace hplace' hp (hpq ▸ hq)
  exact congrArg Prod.snd hsame

end

/-- Every message has a record of its own exactly if none comes after another complete message of
its frame. -/
theorem ownRecords_iff (env : TrackerEnv) (capture : Capture) (places : List (Nat × Nat)) :
    (∃ results s, (findOrCreateAll env (capture.run places)).run .empty = .ok results s ∧
      OwnRecords env capture places results s) ↔ OnePerFrame capture places :=
  exists_findOrCreateAll_iff fun _ hs => ⟨OwnRecords.onePerFrame, fun h => h.ownRecords hs⟩

/-- Unsecured messages with counters 1, 2 and so on, each starting an exchange of its own, in one
TCP segment. -/
def startingMessages : Capture where
  message num i := shortMessage .tcp num
    { shortHeader with msgId := i + 1, exchHeader := 0x05, msgType := 0x20, exchId := i }
  frameNum_eq _ _ := rfl

/-- The second message gets the record of the first one. -/
theorem ownRecords_twoMessages : ¬ ∀ (env : TrackerEnv) (capture : Capture)
    (places : List (Nat × Nat)), ∃ results s,
      (findOrCreateAll env (capture.run places)).run .empty = .ok results s ∧
        OwnRecords env capture places results s := by
  intro h
  obtain ⟨results, s, hrun, hown⟩ := h crc32Ccitt startingMessages [(1, 0), (1, 1)]
  have hresults : results = [.ok 0, .ok 0] := by
    cases hrun
    rfl
  subst hresults
  have hsame := hown.distinct 0 1 (1, 0) (1, 1) 0 rfl rfl rfl rfl
  cases hsame

end Matter.Tracker
