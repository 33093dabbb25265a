import Mathlib.Tactic.FinCases
import MatterDissector.TLV.Proof.Members

/-!
# What the dissector sees of an element

`seen`: the element that a dissector is on, whatever its buffer holds, as the tree that
`EnterContainer` and `Next` lead through. Members may end otherwise than with the end of their
container, for `Next` asks more of an element than `Skip` does. `IsSeen` is the same step by step,
and `members_sees` the rule for a handler that enters the element and handles its members: what it
does is the fold of what it does on each, provided that they end with the end of the container.
Faults are left open throughout.
-/

namespace Matter.TLV

open Prog Dissect Display
open TLVReader (InBounds headSize decodeHead readData_eq elementType_of_control)

/-- What is seen of an element: its tag, its type, the bits of its value, the members that `Next`
finds in it, and whether these end with the end of the container. -/
inductive SeenElem where
  | mk (tag : Nat) (type : TLVType) (value : Nat) (members : List SeenElem) (closed : Bool)

namespace SeenElem

def tag : SeenElem → Nat
  | mk tag _ _ _ _ => tag

def type : SeenElem → TLVType
  | mk _ type _ _ _ => type

def value : SeenElem → Nat
  | mk _ _ value _ _ => value

def members : SeenElem → List SeenElem
  | mk _ _ _ members _ => members

def closed : SeenElem → Bool
  | mk _ _ _ _ closed => closed

mutual

/-- `Next` leads through the whole element, down to every container in it. -/
def whole : SeenElem → Bool
  | mk _ _ _ members closed => closed && allWhole members

def allWhole : List SeenElem → Bool
  | [] => true
  | t :: ts => t.whole && allWhole ts

end

theorem allWhole_eq : ∀ ts : List SeenElem, allWhole ts = ts.all whole
  | [] => rfl
  | t :: ts => by rw [allWhole, allWhole_eq ts, List.all_cons]

theorem whole_eq (t : SeenElem) : t.whole = (t.closed && t.members.all whole) := by
  cases t with
  | mk tag type value members closed => rw [whole, allWhole_eq]; rfl

/-- The number of a context tag. -/
def contextNum (t : SeenElem) : Option Nat :=
  if isContextTag t.tag then some (tagNumFromTag t.tag) else none

/-- The number of its tag and the value of an unsigned integer under a context tag. -/
def number (t : SeenElem) : Option (Nat × Nat) :=
  if isContextTag t.tag ∧ t.type = .unsignedInteger then some (tagNumFromTag t.tag, t.value)
  else none

end SeenElem

/-! ## Looking -/

/-- The members from `d` on, at most `n` of them, and whether the container ends behind them. -/
def seenMembers (seenOf : TLVDissector → SeenElem) : Nat → TLVDissector → List SeenElem × Bool
  | 0, _ => ([], false)
  | n + 1, d =>
    match TLVDissector.next.run d with
    | .ok () d' =>
      let (members, closed) := seenMembers seenOf n d'
      (seenOf d' :: members, closed)
    | .err e _ => ([], e = .endOfTLV)
    | .fault _ => ([], false)

/-- The element that `d` is on, to a depth of `depth` containers. -/
def seenTo : Nat → TLVDissector → SeenElem
  | 0, d => ⟨d.reader.getTag, d.reader.getType, d.reader.elemLenOrVal, [], true⟩
  | depth + 1, d =>
    match TLVDissector.enterContainer.run d with
    | .ok () d₀ =>
      let (members, closed) := seenMembers (seenTo depth) (d₀.reader.unread + 1) d₀
      ⟨d.reader.getTag, d.reader.getType, d.reader.elemLenOrVal, members, closed⟩
    | _ => ⟨d.reader.getTag, d.reader.getType, d.reader.elemLenOrVal, [], true⟩

/-- The element that `d` is on: containers nest no deeper than there are bytes. -/
def seen (d : TLVDissector) : SeenElem := seenTo (d.reader.unread + 1) d

mutual

/-- `t` is what is seen of the element that `d` is on. -/
inductive IsSeen : TLVDissector → SeenElem → Prop where
  | value {d : TLVDissector} (htype : tlvTypeIsContainer d.reader.elementType = false) :
    IsSeen d ⟨d.reader.getTag, d.reader.getType, d.reader.elemLenOrVal, [], true⟩
  | container {d d₀ : TLVDissector} {members : List SeenElem} {closed : Bool}
    (henter : TLVDissector.enterContainer.run d = .ok () d₀)
    (hmembers : AreSeen d₀ members closed) :
    IsSeen d ⟨d.reader.getTag, d.reader.getType, d.reader.elemLenOrVal, members, closed⟩

/-- `members` are seen behind `d`, and whether the container is `closed` behind them. -/
inductive AreSeen : TLVDissector → List SeenElem → Bool → Prop where
  | nil {d d' : TLVDissector} {e : MatterError} (hnext : TLVDissector.next.run d = .err e d') :
    AreSeen d [] (e = .endOfTLV)
  | cons {d d' : TLVDissector} {t : SeenElem} {members : List SeenElem} {closed : Bool}
    (hnext : TLVDissector.next.run d = .ok () d') (hseen : IsSeen d' t)
    (hmembers : AreSeen d' members closed) : AreSeen d (t :: members) closed

end

section
variable {data : List UInt8} {d d' d₀ : TLVDissector} {t : SeenElem} {members : List SeenElem}
  {closed : Bool}

theorem IsSeen.tag_eq (h : IsSeen d t) : t.tag = d.reader.getTag := by cases h <;> rfl

theorem IsSeen.type_eq (h : IsSeen d t) : t.type = d.reader.getType := by cases h <;> rfl

theorem IsSeen.value_eq (h : IsSeen d t) : t.value = d.reader.elemLenOrVal := by cases h <;> rfl

theorem IsSeen.closed_of_value (h : IsSeen d t)
    (htype : tlvTypeIsContainer d.reader.elementType = false) :
    t.members = [] ∧ t.closed = true := by
  cases h with
  | value => exact ⟨rfl, rfl⟩
  | container henter =>
    obtain ⟨hcontainer, -⟩ := enterContainer_tlv_eq_ok.1 henter
    rw [htype] at hcontainer
    cases hcontainer

theorem IsSeen.whole_of_value (h : IsSeen d t)
    (htype : tlvTypeIsContainer d.reader.elementType = false) : t.whole = true := by
  obtain ⟨hmembers, hclosed⟩ := h.closed_of_value htype
  rw [t.whole_eq, hmembers, hclosed]
  rfl

theorem areSeen_nil (h : AreSeen d [] closed) :
    ∃ d' e, TLVDissector.next.run d = .err e d' ∧ closed = decide (e = .endOfTLV) := by
  cases h with
  | nil hnext => exact ⟨_, _, hnext, rfl⟩

theorem areSeen_cons (h : AreSeen d (t :: members) closed) :
    ∃ d', TLVDissector.next.run d = .ok () d' ∧ IsSeen d' t ∧ AreSeen d' members closed := by
  cases h with
  | cons hnext hseen hmembers => exact ⟨_, hnext, hseen, hmembers⟩

/-- What is seen behind a place depends on what `Next` does there alone. -/
theorem AreSeen.congr (h : AreSeen d members closed)
    (hnext : TLVDissector.next.run d' = TLVDissector.next.run d) : AreSeen d' members closed := by
  cases h with
  | nil hend => exact .nil (hnext.trans hend)
  | cons hmember hseen hmembers => exact .cons (hnext.trans hmember) hseen hmembers

/-- `Next` takes a byte or fails, and does not fault. -/
theorem next_takes (h : InBounds data d.reader) :
    (∃ d', TLVDissector.next.run d = .ok () d' ∧ InBounds data d'.reader ∧
      d'.reader.unread < d.reader.unread) ∨ ∃ e d', TLVDissector.next.run d = .err e d' := by
  have hprogress := next_progress d.reader.unread (DissectState.start d) ⟨h, Nat.le_refl _⟩
  rw [show next.run (.start d) = _ from run_zoom _ _ _ _] at hprogress
  cases hrun : TLVDissector.next.run (DissectState.start d).tlv with
  | ok u d' =>
    rw [hrun] at hprogress
    exact .inl ⟨d', hrun, hprogress⟩
  | err e d' => exact .inr ⟨e, d', hrun⟩
  | fault f =>
    rw [hrun] at hprogress
    exact hprogress.elim

theorem areSeen_seenMembers {seenOf : TLVDissector → SeenElem} {depth : Nat}
    (hseen : ∀ d, InBounds data d.reader → d.reader.unread < depth → IsSeen d (seenOf d)) :
    ∀ (n : Nat) (d : TLVDissector), InBounds data d.reader → d.reader.unread < n →
      d.reader.unread ≤ depth → AreSeen d (seenMembers seenOf n d).1 (seenMembers seenOf n d).2
  | 0, _, _, hlt, _ => absurd hlt (Nat.not_lt_zero _)
  | n + 1, d, h, hlt, hle => by
    unfold seenMembers
    rcases next_takes h with ⟨d', hnext, h', hless⟩ | ⟨e, d', hnext⟩
    · have hmembers := areSeen_seenMembers hseen n d' h' (by omega) (by omega)
      rw [hnext]
      exact .cons hnext (hseen d' h' (by omega)) hmembers
    · rw [hnext]
      exact .nil hnext

theorem isSeen_seenTo : ∀ (depth : Nat) (d : TLVDissector), InBounds data d.reader →
    d.reader.unread < depth → IsSeen d (seenTo depth d)
  | 0, _, _, hlt => absurd hlt (Nat.not_lt_zero _)
  | depth + 1, d, h, hlt => by
    unfold seenTo
    cases htype : tlvTypeIsContainer d.reader.elementType with
    | true =>
      have henter := enterContainer_tlv_eq_ok.2 ⟨htype, rfl⟩
      rw [henter]
      refine .container henter (@areSeen_seenMembers data _ _ (isSeen_seenTo depth) _ _ ?_
        (Nat.lt_succ_self _) (Nat.le_of_lt_succ hlt))
      exact h.congr rfl rfl rfl rfl rfl
    | false =>
      have hrefused : ∃ d', TLVDissector.enterContainer.run d = .err .incorrectState d' :=
        ⟨_, bind_err (onReader_eq_err.2 ⟨_, enterContainer_refused htype, rfl⟩)⟩
      obtain ⟨d', hrefused⟩ := hrefused
      rw [hrefused]
      exact .value htype

/-- `seen` looks far enough. -/
theorem isSeen_seen (h : InBounds data d.reader) : IsSeen d (seen d) :=
  isSeen_seenTo _ d h (Nat.lt_succ_self _)

end

/-! ## On an element -/

/-- On an element of which `t` is seen. -/
structure OnSeen (data : List UInt8) (t : SeenElem) (s : DissectState) : Prop where
  focused : Focused data s.tlv
  element : s.tlv.reader.elementType < ElementType.endOfContainer
  seen : IsSeen s.tlv t

/-- The container around the current element has an end. -/
def HasEnd (s : DissectState) : Prop :=
  ∃ c, TLVReader.skipToEndOfContainer.run s.tlv.reader = .ok () c

section
variable {α β : Type} {data : List UInt8} {d d' d₀ : TLVDissector} {t : SeenElem}
  {s s' s₁ : DissectState} {may : Prop}

/-- `Next` leads to an element that has a type. -/
theorem next_element (h : InBounds data d.reader) (hok : TLVDissector.next.run d = .ok () d') :
    d'.reader.elementType < ElementType.endOfContainer := by
  obtain ⟨t, r, c, hskip, hread, -, rfl⟩ := nextBy_eq_ok.1 hok
  have ht := skip_inBounds h hskip
  obtain ⟨u, hskip', hread, hne⟩ := next_eq_ok.1 hread
  obtain ⟨b, bs, -, hvalid, -, rfl, -⟩ := readElement_cases (skip_inBounds ht hskip') hread
  have htype := elementType_of_control (r := (u.advance (headSize b.toNat)).withHead
    (decodeHead u.implicitProfileId (b :: bs))) (b := b) rfl
  rw [htype] at hne
  have hle : b.toNat &&& typeMask ≤ ElementType.endOfContainer := of_decide_eq_true hvalid
  show _ < _
  rw [htype]
  omega

/-- Where `Next` leads, `seen` is what is seen. -/
theorem onSeen_of_next {s₀ : DissectState} (h : InBounds data s₀.tlv.reader)
    (hnext : next.run s₀ = .ok () s) : OnSeen data (Matter.TLV.seen s.tlv) s := by
  obtain ⟨d, hd, rfl⟩ := onTlv_eq_ok.1 hnext
  have hfocused := next_focused h hd
  exact ⟨hfocused, next_element h hd, isSeen_seen hfocused.inBounds⟩

theorem OnSeen.inBounds (h : OnSeen data t s) : InBounds data s.tlv.reader := h.focused.inBounds

theorem OnSeen.congr (h : OnSeen data t s) (htlv : s'.tlv = s.tlv) : OnSeen data t s' :=
  ⟨htlv ▸ h.focused, htlv ▸ h.element, htlv ▸ h.seen⟩

theorem HasEnd.congr (h : HasEnd s) (htlv : s'.tlv = s.tlv) : HasEnd s' := by
  unfold HasEnd
  rw [htlv]
  exact h

theorem OnSeen.type_eq (h : OnSeen data t s) : s.tlv.reader.getType = t.type :=
  h.seen.type_eq.symm

theorem OnSeen.tag_eq (h : OnSeen data t s) : s.tlv.reader.getTag = t.tag := h.seen.tag_eq.symm

/-- The element types that make up a type. -/
def elementTypes : TLVType → List Nat
  | .signedInteger => [0x00, 0x01, 0x02, 0x03]
  | .unsignedInteger => [0x04, 0x05, 0x06, 0x07]
  | .boolean => [0x08, 0x09]
  | .floatingPointNumber => [0x0A, 0x0B]
  | .utf8String => [0x0C, 0x0D, 0x0E, 0x0F]
  | .byteString => [0x10, 0x11, 0x12, 0x13]
  | .null => [0x14]
  | .struct => [0x15]
  | .array => [0x16]
  | .path => [0x17]
  | _ => []

theorem OnSeen.elementType_mem (h : OnSeen data t s) :
    s.tlv.reader.elementType ∈ elementTypes t.type := by
  have hall : ∀ elemType < ElementType.endOfContainer,
      elemType ∈ elementTypes (typeOf elemType) := by decide
  rw [← h.type_eq, getType_eq]
  exact hall _ h.element

theorem OnSeen.isContainer (h : OnSeen data t s)
    (htype : t.type = .struct ∨ t.type = .array ∨ t.type = .path) :
    tlvTypeIsContainer s.tlv.reader.elementType = true := by
  have hmem := h.elementType_mem
  rcases htype with htype | htype | htype
  all_goals
    rw [htype] at hmem
    rw [List.mem_singleton.1 hmem]
    rfl

theorem OnSeen.isValue (h : OnSeen data t s)
    (htype : ¬ (t.type = .struct ∨ t.type = .array ∨ t.type = .path)) :
    tlvTypeIsContainer s.tlv.reader.elementType = false := by
  have hmem := h.elementType_mem
  generalize s.tlv.reader.elementType = elemType at hmem
  generalize t.type = type at htype hmem
  revert elemType
  cases type with
  | struct | array | path => exact absurd (by decide) htype
  | other code => exact fun _ hmem => nomatch hmem
  | _ => decide

/-! ## Values -/

/-- A number can be read. -/
theorem OnSeen.getUInt64_ok (h : OnSeen data t s)
    (htype : t.type = .signedInteger ∨ t.type = .unsignedInteger) :
    ∃ v, TLVReader.getUInt64.run s.tlv.reader = .ok v s.tlv.reader := by
  have hmem := h.elementType_mem
  rw [TLVReader.getUInt64, get_bind]
  generalize s.tlv.reader.elementType = elemType at hmem
  rcases htype with htype | htype
  all_goals
    rw [htype] at hmem
    fin_cases hmem <;> exact ⟨_, rfl⟩

/-- An unsigned number is the value of the element. -/
theorem OnSeen.getUInt64_eq (h : OnSeen data t s) (htype : t.type = .unsignedInteger) :
    TLVReader.getUInt64.run s.tlv.reader = .ok t.value s.tlv.reader := by
  have hmem := h.elementType_mem
  rw [TLVReader.getUInt64, get_bind, h.seen.value_eq]
  generalize s.tlv.reader.elementType = elemType at hmem
  rw [htype] at hmem
  fin_cases hmem <;> rfl

theorem OnSeen.getInt64_ok (h : OnSeen data t s) (htype : t.type = .signedInteger) :
    ∃ v, TLVReader.getInt64.run s.tlv.reader = .ok v s.tlv.reader := by
  obtain ⟨v, hrun⟩ := h.getUInt64_ok (.inl htype)
  exact ⟨_, bind_ok hrun⟩

theorem OnSeen.getBool_ok (h : OnSeen data t s) (htype : t.type = .boolean) :
    ∃ v, TLVReader.getBool.run s.tlv.reader = .ok v s.tlv.reader := by
  have hmem := h.elementType_mem
  rw [TLVReader.getBool, gets_bind]
  generalize s.tlv.reader.elementType = elemType at hmem
  rw [htype] at hmem
  fin_cases hmem <;> exact ⟨_, rfl⟩

theorem OnSeen.getDouble_ok (h : OnSeen data t s) (htype : t.type = .floatingPointNumber) :
    ∃ v, TLVReader.getDouble.run s.tlv.reader = .ok v s.tlv.reader := by
  have hmem := h.elementType_mem
  rw [TLVReader.getDouble, get_bind]
  generalize s.tlv.reader.elementType = elemType at hmem
  rw [htype] at hmem
  fin_cases hmem <;> exact ⟨_, rfl⟩

/-- The bytes of a string that `Skip` gets over are there. -/
theorem OnSeen.string_fits (h : OnSeen data t s)
    (htype : t.type = .utf8String ∨ t.type = .byteString) :
    tlvTypeIsString s.tlv.reader.elementType = true ∧
      s.tlv.reader.elemLenOrVal % 2 ^ 32 ≤ s.tlv.reader.unread := by
  have hstring : tlvTypeIsString s.tlv.reader.elementType = true := by
    have hall : ∀ type, type = .utf8String ∨ type = .byteString →
        ∀ elemType ∈ elementTypes type, tlvTypeIsString elemType = true := by
      rintro _ (rfl | rfl) <;> decide
    exact hall _ htype _ h.elementType_mem
  refine ⟨hstring, ?_⟩
  obtain ⟨u, hskip⟩ := h.focused.skips
  rcases skip_eq_ok.1 hskip with ⟨r, -, -, hdata, -⟩ | ⟨c, hcontainer, -, -⟩
  · rw [skipData_eq h.inBounds, if_pos (show tlvTypeHasLength _ = true from hstring)] at hdata
    split at hdata
    · assumption
    · cases hdata
  · have hvalue := h.isValue (by rcases htype with htype | htype <;> rw [htype] <;> decide)
    rw [hvalue] at hcontainer
    cases hcontainer

theorem OnSeen.dupString_ok (h : OnSeen data t s) (htype : t.type = .utf8String) :
    ∃ v r, TLVReader.dupString.run s.tlv.reader = .ok v r := by
  obtain ⟨hstring, hfit⟩ := h.string_fits (.inl htype)
  have hread := readData_eq h.inBounds .external (s.tlv.reader.elemLenOrVal % 2 ^ 32)
    fun he => by cases he
  rw [if_pos hfit] at hread
  rw [TLVReader.dupString, get_bind, hstring, bind_ok (run_verify_true _ _), bind_ok hread]
  exact ⟨_, _, rfl⟩

/-- Inside a container that has an end there is a byte behind every value. -/
theorem OnSeen.readPoint_ne_bufEnd (h : OnSeen data t s) (hasEnd : HasEnd s)
    (htype : t.type = .byteString) : s.tlv.reader.readPoint ≠ s.tlv.reader.bufEnd := by
  intro hend
  have hempty := h.inBounds.atEnd_iff.1 hend
  obtain ⟨hstring, hfit⟩ := h.string_fits (.inr htype)
  obtain ⟨c, hc⟩ := hasEnd
  obtain ⟨u, hskip⟩ := h.focused.skips
  have hu := skip_inBounds h.inBounds hskip
  have hcu := ((skipToEnd_skip h.inBounds hskip) () c).1 hc
  rw [skipToEnd_cleared hu (skip_cleared hskip), readOn] at hcu
  obtain ⟨_, r, hread, -⟩ := bind_eq_ok.1 hcu
  -- behind the string `ReadElement` still finds a byte
  have hmore : 0 < u.unread := Nat.lt_of_le_of_lt (Nat.zero_le _) (readElement_unread_lt hu hread).2
  rcases skip_eq_ok.1 hskip with ⟨r', -, -, hdata, rfl⟩ | ⟨c', hcontainer, -, -⟩
  · have hle := (skipData_unread_le h.inBounds hdata).2
    have hsame : r'.clearElementState.unread = r'.unread := rfl
    omega
  · rw [h.isValue (by rw [htype]; decide)] at hcontainer
    cases hcontainer

theorem OnSeen.dataBytes_ok (h : OnSeen data t s) (hasEnd : HasEnd s)
    (htype : t.type = .byteString) : ∃ bytes, dataBytes.run s = .ok bytes s := by
  obtain ⟨hstring, hfit⟩ := h.string_fits (.inr htype)
  have hptr := TLVReader.getDataPtr_eq_ok.2 ⟨hstring, h.readPoint_ne_bufEnd hasEnd htype,
    by rw [h.inBounds.sub32_bufEnd]; exact hfit, rfl, rfl⟩
  exact ⟨_, dataBytes_run h.inBounds hptr⟩

/-! ## Steps -/

theorem Does.of_fault {x : DissectM α} {f : Fault} (h : x.run s = .fault f) :
    ∀ o : Option α, Does may True data x s o
  | some _ => .inr ⟨trivial, f, h⟩
  | none => fun a s' hok => by rw [h] at hok; cases hok

/-- What follows a step that only shows something. -/
theorem Does.after {x : DissectM α} {k : α → DissectM β} {o : Option β} (hx : Still x)
    (hfails : NeverFails x)
    (hk : ∀ a s₁, s₁.tlv = s.tlv → Does may True data (k a) s₁ o) :
    Does may True data (x >>= k) s o := by
  cases hrun : x.run s with
  | ok a s₁ =>
    obtain ⟨htlv, hretried⟩ := hx.ok hrun
    exact (hk a s₁ htlv).congr (bind_ok hrun) htlv hretried
  | err e s₁ => exact absurd hrun (hfails s e s₁)
  | fault f => exact .of_fault (bind_fault hrun) o

/-- What follows a handler without fallbacks that does not fail here. -/
theorem Does.handled {x : DissectM α} {k : α → DissectM β} {o : Option β} (hx : Handles False x)
    (hs : Focused data s.tlv) (hfails : ∀ e s', x.run s ≠ .err e s')
    (hk : ∀ a s₁, Balanced data s.tlv s₁.tlv → Does may True data (k a) s₁ o) :
    Does may True data (x >>= k) s o := by
  cases hrun : x.run s with
  | ok a s₁ =>
    obtain ⟨hretried, hbal⟩ := (hx.onTrack hs hrun).resolve_right fun hoff => hoff.1
    exact Does.bind_run hrun hretried hbal (hk a s₁ hbal)
  | err e s₁ => exact absurd hrun (hfails e s₁)
  | fault f => exact .of_fault (bind_fault hrun) o

/-! ## Members -/

/-- `body` does what `f` says on every element of which one of `ts` is seen, in a container that
has an end. -/
def BodySees (may : Prop) (data : List UInt8) (ts : List SeenElem) (body : β → DissectM β)
    (f : β → SeenElem → Option β) : Prop :=
  ∀ b, ∀ t ∈ ts, ∀ s, OnSeen data t s → HasEnd s → Does may True data (body b) s (f b t)

/-- A round where `Next` finds a member, and one where it does not. -/
theorem memberRound_ok {body : β → DissectM β} {b : β} (hnext : next.run s = .ok () s₁) :
    (do memberRound body b (← attempt next) : DissectM (β ⊕ β)).run s =
      (Sum.inl <$> body b : DissectM (β ⊕ β)).run s₁ := bind_ok (attempt_ok hnext)

theorem memberRound_err {body : β → DissectM β} {b : β} {e : MatterError}
    (hnext : next.run s = .err e s₁) :
    (do memberRound body b (← attempt next) : DissectM (β ⊕ β)).run s =
      if e = .endOfTLV then .ok (.inr b) s₁ else .err e s₁ := by
  rw [bind_ok (attempt_err hnext)]
  cases e <;> rfl

/-- A loop over members folds what its rounds do, if the container ends behind them: by induction
on the members, each of which takes one round. -/
theorem loop_sees {body : β → DissectM β} {f : β → SeenElem → Option β} {closed : Bool}
    (hgrows : may → ∀ b, Grows DissectState.retried (body b)) {c : TLVReader}
    (hend : TLVReader.skipToEndOfContainer.run d₀.reader = .ok () c) :
    ∀ (fuel : Nat) (ts : List SeenElem) (b : β) (s : DissectState), BodySees may data ts body f →
      Inside data d₀ s.tlv → AreSeen s.tlv ts closed →
      LoopDoes may True data d₀ id
        (loop .outOfFuel (fun b => do memberRound body b (← attempt next)) fuel b) s
        (if closed = true then ts.foldlM f b else none)
  | 0, _, _, _, _, _, _ => .of_fault trivial rfl _
  | fuel + 1, [], b, s, hbody, hinside, hseen => by
    obtain ⟨d', e, hnext, hclosed⟩ := areSeen_nil hseen
    have hround := @memberRound_err _ s { s with tlv := d' } body b e
      (onTlv_eq_err.2 ⟨d', hnext, rfl⟩)
    subst hclosed
    by_cases he : e = .endOfTLV
    · rw [if_pos he] at hround
      rw [decide_eq_true he, if_pos rfl]
      rw [he] at hnext
      refine .inl ⟨s.tlv, { s with tlv := d' }, ?_, rfl, hinside, hnext⟩
      rw [loop_succ, bind_ok hround, again_inr, run_pure]
      rfl
    · rw [if_neg he] at hround
      rw [decide_eq_false he, if_neg Bool.false_ne_true]
      intro c s' hrun
      rw [loop_succ, bind_err hround] at hrun
      cases hrun
  | fuel + 1, t :: ts, b, s, hbody, hinside, hseen => by
    obtain ⟨d', hnext, hseen, hmembers⟩ := areSeen_cons hseen
    have hround := @memberRound_ok _ s { s with tlv := d' } body b
      (onTlv_eq_ok.2 ⟨d', hnext, rfl⟩)
    have hinside' := hinside.next hnext
    have hon : OnSeen data t { s with tlv := d' } :=
      ⟨hinside'.focused, next_element hinside.focused.inBounds hnext, hseen⟩
    have hmember := hbody b t List.mem_cons_self _ hon ⟨c, (hinside'.sameEnd () c).1 hend⟩
    have hgrowsRound : may → ∀ b, Grows DissectState.retried
        (do memberRound body b (← attempt next) : DissectM (β ⊕ β)) := fun hmay b =>
      (grows_retried_onTlv _).attempt.bind (grows_memberRound (hgrows hmay) b)
    rw [List.foldlM_cons]
    cases hfb : f b t with
    | none =>
      rw [hfb] at hmember
      rw [show (none >>= fun b => ts.foldlM f b : Option β) = none from rfl, ite_self]
      intro c s' hrun
      rw [loop_succ, bind_eq_ok] at hrun
      obtain ⟨res, s₁, hrun₁, hagain⟩ := hrun
      rw [hround] at hrun₁
      obtain ⟨b', s₂, hrun₂, hinl⟩ := bind_eq_ok.1 hrun₁
      cases hinl
      obtain ⟨hmay, hlt⟩ := hmember b' s₁ hrun₂
      have hle := (Grows.loop (hgrowsRound hmay) fuel b').ok hagain
      exact ⟨hmay, Nat.lt_of_lt_of_le hlt hle⟩
    | some b' =>
      rw [hfb] at hmember
      rcases hmember with ⟨s₁, hrun, hretried, hbal⟩ | ⟨-, err, hfault⟩
      · have hstep : (loop .outOfFuel (fun b => do memberRound body b (← attempt next))
            (fuel + 1) b).run s =
            (loop .outOfFuel (fun b => do memberRound body b (← attempt next)) fuel b').run
              s₁ := by
          rw [loop_succ, bind_ok (hround.trans (map_ok hrun)), again_inl]
        exact (loop_sees hgrows hend fuel ts b' s₁ (fun b t ht => hbody b t (.tail _ ht))
          (hinside'.balanced hbal) (hmembers.congr hbal.next_eq)).congr hstep hretried
      · refine .of_fault (f := err) trivial ?_ _
        rw [loop_succ, bind_fault (hround.trans (bind_fault hfault))]

theorem OnSeen.entered (h : OnSeen data t s)
    (hcontainer : tlvTypeIsContainer s.tlv.reader.elementType = true) :
    ∃ d₀, TLVDissector.enterContainer.run s.tlv = .ok () d₀ ∧ Inside data d₀ d₀ ∧
      AreSeen d₀ t.members t.closed := by
  have hin := h.inBounds
  obtain ⟨-, -, hseen⟩ := h
  generalize s.tlv = d at *
  cases hseen with
  | value htype =>
    rw [hcontainer] at htype
    cases htype
  | container henter hmembers =>
    refine ⟨_, henter, ?_, hmembers⟩
    obtain ⟨-, rfl⟩ := enterContainer_tlv_eq_ok.1 henter
    exact .start (hin.congr rfl rfl rfl rfl rfl) (cleared_clearElementState _)

/-- Entering an element, handling its members and leaving it folds what is done on each, if the
container ends behind them. -/
theorem members_sees {body : β → DissectM β} {f : β → SeenElem → Option β} (h : OnSeen data t s)
    (hcontainer : tlvTypeIsContainer s.tlv.reader.elementType = true)
    (hbody : BodySees may data t.members body f)
    (hgrows : may → ∀ b, Grows DissectState.retried (body b)) (b₀ : β) :
    Does may True data (do
      enterContainer
      let b ← forMembers body b₀
      exitContainer
      pure b) s (if t.closed = true then t.members.foldlM f b₀ else none) := by
  obtain ⟨d₀, hd₀, hinside, hmembers⟩ := h.entered hcontainer
  obtain ⟨c, hend⟩ := h.focused.end_ok hd₀
  have henter : enterContainer.run s = .ok () { s with tlv := d₀ } := onTlv_eq_ok.2 ⟨d₀, hd₀, rfl⟩
  have hloop : LoopDoes may True data d₀ id (forMembers body b₀) { s with tlv := d₀ }
      (if t.closed = true then t.members.foldlM f b₀ else none) :=
    loop_sees hgrows hend (d₀.reader.unread + 1) t.members b₀ { s with tlv := d₀ } hbody hinside
      hmembers
  cases hfold : if t.closed = true then t.members.foldlM f b₀ else none with
  | none =>
    rw [hfold] at hloop
    intro b s' hrun
    rw [bind_ok henter] at hrun
    obtain ⟨b', s₁, hrun₁, hrun⟩ := bind_eq_ok.1 hrun
    obtain ⟨_, s₂, hexit, hpure⟩ := bind_eq_ok.1 hrun
    cases hpure
    obtain ⟨hmay, hlt⟩ := hloop _ s₁ hrun₁
    exact ⟨hmay, Nat.lt_of_lt_of_le hlt ((grows_retried_onTlv _).ok hexit)⟩
  | some b' =>
    rw [hfold] at hloop
    rcases hloop with ⟨d, s₁, hrun, hretried, hinside', hnext⟩ | ⟨-, f, hfault⟩
    · obtain ⟨d', hexit⟩ := hinside'.exit_ok h.focused hd₀ hnext
      have hexit' : exitContainer.run s₁ = .ok () { s₁ with tlv := d' } :=
        onTlv_eq_ok.2 ⟨d', hexit, rfl⟩
      refine .inl ⟨{ s₁ with tlv := d' }, ?_, hretried, hinside'.closed hd₀ hnext hexit⟩
      rw [bind_ok henter, bind_ok hrun, bind_ok hexit', run_pure]
      rfl
    · refine .inr ⟨trivial, f, ?_⟩
      rw [bind_ok henter, bind_fault hfault]

/-! ## Generic items -/

section
variable (host : Host)

/-- Every value can be appended. -/
theorem OnSeen.appendValue_ne_err (h : OnSeen data t s) (hasEnd : HasEnd s) (strBuf : StrBuf)
    (e : MatterError) (s' : DissectState) :
    (appendValue host strBuf s.tlv.reader.getType).run s ≠ .err e s' := by
  have hread : ∀ {δ : Type} {x : DissectM δ} {a : δ} {s₁ : DissectState} (text : δ → Text),
      x.run s = .ok a s₁ → (do append host (text (← x)) strBuf : DissectM StrBuf).run s ≠
        .err e s' := fun text hrun he =>
    neverFails_append host _ _ _ _ _ ((bind_ok hrun).symm.trans he)
  have hmem := h.elementType_mem
  rw [h.type_eq]
  cases htype : t.type with
  | signedInteger =>
    obtain ⟨v, hget⟩ := h.getInt64_ok htype
    exact hread _ (onReader_ok hget)
  | unsignedInteger => exact hread _ (onReader_ok (h.getUInt64_eq htype))
  | boolean =>
    obtain ⟨v, hget⟩ := h.getBool_ok htype
    exact hread _ (onReader_ok hget)
  | floatingPointNumber =>
    obtain ⟨v, hget⟩ := h.getDouble_ok htype
    exact hread _ (onReader_ok hget)
  | utf8String =>
    obtain ⟨v, r, hdup⟩ := h.dupString_ok htype
    exact hread _ (onReader_ok hdup)
  | byteString =>
    obtain ⟨bytes, hbytes⟩ := h.dataBytes_ok hasEnd htype
    intro he
    exact NeverFails.foldlM (fun strBuf b => neverFails_append host _ _) bytes strBuf _ _ _
      ((bind_ok hbytes).symm.trans he)
  | null | struct | array | path => exact neverFails_append host _ _ _ _ _
  | _ =>
    rw [htype] at hmem
    cases hmem

variable (node : ProtoNode) (hfindex : HeaderField)

theorem neverFails_appendTag (suppressTag : Bool) (tag : Nat) (strBuf : StrBuf) :
    NeverFails (appendTag host suppressTag tag strBuf) :=
  .ite (.pure _) (.ite (neverFails_append host _ _) (.ite (neverFails_append host _ _) (.pure _)))

theorem neverFails_addLine (suppressHeader : Bool) (text : Text) :
    NeverFails (addLine node hfindex suppressHeader text) := by
  intro s e s' h
  cases suppressHeader <;> cases h

theorem neverFails_closing (text : Text) (indentLevel : Nat) (type : TLVType) (strBuf : StrBuf) :
    NeverFails (do
      let strBuf ← checked (strBuf.appendRepeated host.uninit text indentLevel)
      let strBuf ← append host (Text.lit (closeChar type)) strBuf
      addStringItemWithHeaderF node hfindex (← checked strBuf.shown)) :=
  (neverFails_checked _).bind fun _ => (neverFails_append host _ _).bind fun _ =>
    (neverFails_checked _).bind fun _ => fun _ _ _ h => by cases h

/-- The members of a container, and the bracket that closes it. -/
theorem renderMembers_sees {body : Unit → DissectM Unit} {ok : SeenElem → Bool} (indentLevel : Nat)
    (type : TLVType) (strBuf : StrBuf) (h : OnSeen data t s)
    (hcontainer : tlvTypeIsContainer s.tlv.reader.elementType = true)
    (hbody : BodySees may data t.members body fun u m => guarded (ok m) u)
    (hgrows : may → ∀ u, Grows DissectState.retried (body u)) :
    Does may True data (do
      enterContainer
      forMembers body ()
      exitContainer
      let strBuf ← checked (strBuf.appendRepeated host.uninit (Text.lit "    ") indentLevel)
      let strBuf ← append host (Text.lit (closeChar type)) strBuf
      addStringItemWithHeaderF node hfindex (← checked strBuf.shown)) s
      (guarded (t.closed && t.members.all ok) ()) := by
  have hstill := still_closing host node hfindex (Text.lit "    ") indentLevel type strBuf
  have hmembers := members_sees h hcontainer hbody hgrows ()
  rw [foldlM_guarded, ← guarded_and] at hmembers
  have hdoes := hmembers.bind (g := fun _ => some ()) (fun _ _ => hstill.grows_retried)
    fun _ s' _ hbal => hstill.handles.does_unit hbal.focused
      (neverFails_closing host node hfindex _ _ _ _ s')
  have hsame : ∀ ok : Bool, (guarded ok ()).bind (fun _ => some ()) = guarded ok () :=
    fun ok => by cases ok <;> rfl
  simpa only [bind_assoc, pure_bind, hsame] using hdoes

/-- `AddGenericTLVItem` shows the elements that `Next` leads all the way through. -/
theorem addGenericTLVItemTo_sees : ∀ (depth : Nat) {suppressTag suppressHeader : Bool}
    {indentLevel : Nat} {t : SeenElem} {s : DissectState}, OnSeen data t s → HasEnd s →
      Does may True data
        (addGenericTLVItemTo host node hfindex depth suppressTag suppressHeader indentLevel) s
        (guarded t.whole ())
  | 0, _, _, _, t, _, _, _ => .of_fault rfl (guarded t.whole ())
  | depth + 1, suppressTag, suppressHeader, indentLevel, t, s, h, hasEnd => by
    unfold addGenericTLVItemTo
    have hrun : ∀ (k : TLVType → Nat → DissectM Unit) {o : Option Unit},
        Does may True data (k s.tlv.reader.getType s.tlv.reader.getTag) s o →
        Does may True data (do let type ← getType; let tag ← getTag; k type tag) s o :=
      fun _ _ hk => hk
    refine hrun _ ?_
    dsimp only
    refine Does.after (still_checked _) (neverFails_checked _) fun strBuf₁ s₁ htlv₁ => ?_
    refine Does.after (still_appendTag host _ _ _) (neverFails_appendTag host _ _ _)
      fun strBuf₂ s₂ htlv₂ => ?_
    have h₂ := h.congr (htlv₂.trans htlv₁)
    have hvalue : (appendValue host strBuf₂ s.tlv.reader.getType) =
        appendValue host strBuf₂ s₂.tlv.reader.getType := by rw [htlv₂, htlv₁]
    rw [hvalue]
    by_cases hcontainer : t.type = .struct ∨ t.type = .array ∨ t.type = .path
    · have happend : Still (appendValue host strBuf₂ s₂.tlv.reader.getType) ∧
          NeverFails (appendValue host strBuf₂ s₂.tlv.reader.getType) := by
        rw [h₂.type_eq]
        rcases hcontainer with htype | htype | htype <;> rw [htype] <;>
          exact ⟨still_append host _ _, neverFails_append host _ _⟩
      refine Does.after happend.1 happend.2 fun strBuf₃ s₃ htlv₃ => ?_
      refine Does.after (still_checked _) (neverFails_checked _) fun text s₄ htlv₄ => ?_
      refine Does.after (still_addLine node hfindex _ _) (neverFails_addLine node hfindex _ _)
        fun _ s₅ htlv₅ => ?_
      refine Does.after (still_checked _) (neverFails_checked _) fun strBuf₆ s₆ htlv₆ => ?_
      rw [if_pos (by rwa [h.type_eq])]
      have h₆ : OnSeen data t s₆ :=
        h₂.congr (htlv₆.trans (htlv₅.trans (htlv₄.trans htlv₃)))
      rw [SeenElem.whole_eq]
      exact renderMembers_sees host node hfindex _ _ _ h₆ (h₆.isContainer hcontainer)
        (fun _ m _ s' hs' hasEnd' => addGenericTLVItemTo_sees depth hs' hasEnd')
        fun _ _ => (handles_addGenericTLVItemTo host node hfindex depth _ _ _ :
          Handles False _).retried
    · refine Does.handled (handles_appendValue host _ _) h₂.focused
        (h₂.appendValue_ne_err host (hasEnd.congr (htlv₂.trans htlv₁)) strBuf₂)
        fun strBuf₃ s₃ hbal => ?_
      refine Does.after (still_checked _) (neverFails_checked _) fun text s₄ htlv₄ => ?_
      refine Does.after (still_addLine node hfindex _ _) (neverFails_addLine node hfindex _ _)
        fun _ s₅ htlv₅ => ?_
      refine Does.after (still_checked _) (neverFails_checked _) fun strBuf₆ s₆ htlv₆ => ?_
      rw [if_neg (by rwa [h.type_eq]), h.seen.whole_of_value (h.isValue hcontainer)]
      refine Does.pure ?_ ()
      rw [htlv₆, htlv₅, htlv₄]
      exact hbal.focused

theorem addGenericTLVItem_sees {suppressTag : Bool} (h : OnSeen data t s) (hasEnd : HasEnd s) :
    Does may True data (addGenericTLVItem host node hfindex suppressTag) s
      (guarded t.whole ()) := by
  have hdoes : Does may True data (addGenericTLVItemTo host node hfindex
      (s.tlv.reader.unread + 1) suppressTag false 0) s (guarded t.whole ()) :=
    addGenericTLVItemTo_sees host node hfindex _ h hasEnd
  exact hdoes

end

end

end Matter.TLV
