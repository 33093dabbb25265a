import MatterDissector.TLV.Proof.Bounds
import MatterDissector.TLV.Proof.Heads

/-!
# Over and into elements

`Skip` leads from behind the head of an element to its end (`Positioned.skip_ok`): over the data of
a string, and over the members of a container of any depth (`At.skipLoop_members`), where the
loop of `SkipToEndOfContainer` keeps no type for the containers it has left. `Ready` is a reader
whose next `Next` reads what is in front of it; `Next`, `EnterContainer` and `ExitContainer` are
then steps along the encoding.
-/

namespace Matter.TLV

open Prog TLVReader

/-! ## The skipping loop -/

/-- The loop of `SkipToEndOfContainer` at a nesting level. -/
def skipLoop (outer : TLVType) (nestLevel : Nat) : ReaderM Unit :=
  whileLoop (fun _ r => r.unread) .outOfFuel (skipRound outer) nestLevel

section
variable {data : List UInt8} {r : TLVReader}

/-- The loop, one round at a time. -/
theorem skipLoop_eq (h : InBounds data r) (outer : TLVType) (nestLevel : Nat) :
    (skipLoop outer nestLevel).run r =
      (skipRound outer nestLevel >>= again (skipLoop outer)).run r := by
  refine whileLoop_eq_of (J := fun _ r => InBounds data r) (fun level r level' r' hr hrun => ?_) h
  have := skipRound_keeps outer level r.unread r ⟨hr, rfl⟩
  rw [hrun] at this
  exact this

/-- What the loop does after the bookkeeping of a round. -/
def skipOn (outer : TLVType) (nestLevel : Nat) : ReaderM Unit := do
  skipData
  readElement
  skipLoop outer nestLevel

theorem skipLoop_end (h : InBounds data r) (outer : TLVType)
    (htype : r.elementType = ElementType.endOfContainer) :
    (skipLoop outer 0).run r = .ok () r := by
  rw [skipLoop_eq h]
  unfold skipRound
  rw [bind_assoc, get_bind, if_pos htype]
  rfl

theorem skipLoop_leave (h : InBounds data r) (outer : TLVType) (nestLevel : Nat)
    (htype : r.elementType = ElementType.endOfContainer) :
    (skipLoop outer (nestLevel + 1)).run r = (skipOn outer nestLevel).run
      { r with containerType := if nestLevel = 0 then outer else .unknownContainer } := by
  rw [skipLoop_eq h]
  unfold skipRound
  rw [bind_assoc, get_bind, if_pos htype]
  dsimp only
  simp only [bind_assoc, pure_bind]
  rfl

theorem skipLoop_enter (h : InBounds data r) (outer : TLVType) (nestLevel : Nat)
    (htype : tlvTypeIsContainer r.elementType = true) :
    (skipLoop outer nestLevel).run r = (skipOn outer (nestLevel + 1)).run
      { r with containerType := .ofElementType r.elementType } := by
  have hend : r.elementType ≠ ElementType.endOfContainer := fun he => by
    rw [he] at htype; exact absurd htype (by decide)
  rw [skipLoop_eq h]
  unfold skipRound
  rw [bind_assoc, get_bind, if_neg hend, if_pos htype]
  simp only [bind_assoc, pure_bind]
  rfl

theorem skipLoop_over (h : InBounds data r) (outer : TLVType) (nestLevel : Nat)
    (hend : r.elementType ≠ ElementType.endOfContainer)
    (htype : tlvTypeIsContainer r.elementType = false) :
    (skipLoop outer nestLevel).run r = (skipOn outer nestLevel).run r := by
  rw [skipLoop_eq h]
  unfold skipRound
  rw [bind_assoc, get_bind, if_neg hend, if_neg (by simp [htype])]
  simp only [bind_assoc, pure_bind]
  rfl

theorem skipData_eq (h : InBounds data r) :
    skipData.run r =
      if tlvTypeHasLength r.elementType = true then
        if r.elemLenOrVal % 2 ^ 32 ≤ r.unread then
          .ok () (r.advance (r.elemLenOrVal % 2 ^ 32))
        else .err .tlvUnderrun (r.advance r.unread)
      else .ok () r := by
  rw [skipData, get_bind]
  by_cases hlen : tlvTypeHasLength r.elementType = true
  · rw [if_pos hlen, if_pos hlen, run_bind, readData_eq h .null _ (fun he => by cases he)]
    by_cases hfit : r.elemLenOrVal % 2 ^ 32 ≤ r.unread
    · rw [if_pos hfit, if_pos hfit]; rfl
    · rw [if_neg hfit, if_neg hfit]
  · rw [if_neg hlen, if_neg hlen]; rfl

theorem skipData_none (hlen : tlvTypeHasLength r.elementType = false) :
    skipData.run r = .ok () r := by
  rw [skipData, get_bind, if_neg (by simp [hlen])]; rfl

end

/-! ## Skipping over encoded elements -/

section
variable {data rest : List UInt8} {ip : Nat} {containerType outer : TLVType} {r : TLVReader}

/-- `SkipData` behind the head of a value. -/
theorem Positioned.skipData_prim {tag : Tag} {p : Prim}
    (h : Positioned data ip containerType (.prim tag p) rest r) :
    ∃ r', skipData.run r = .ok () r' ∧ At data ip containerType rest r' ∧
      r'.elementType = r.elementType := by
  have hat : At data ip containerType (p.payload ++ rest) r := h.at_body
  rw [skipData_eq h.at_body.inBounds, h.elementType_eq, h.elemLenOrVal_eq]
  obtain ⟨hlen, hval, hlt⟩ | ⟨hlen, hnil⟩ := p.length_payload
  · have hle : p.payload.length ≤ r.unread := by
      rw [hat.unread_eq, List.length_append]; omega
    have hmod : LE.value (Elem.field (.prim tag p)) % 2 ^ 32 = p.payload.length := by
      show LE.value p.field % 2 ^ 32 = _
      rw [hval, Nat.mod_eq_of_lt hlt]
    have hlen' : tlvTypeHasLength (Elem.prim tag p).elemType = true := hlen
    rw [hmod, if_pos hlen', if_pos hle]
    exact ⟨_, rfl, hat.advance, h.elementType_eq⟩
  · rw [hnil] at hat
    have hlen' : tlvTypeHasLength (Elem.prim tag p).elemType = false := hlen
    rw [if_neg (by simp [hlen'])]
    exact ⟨r, rfl, hat, h.elementType_eq⟩

/-- The container types that the loop may hold at a nesting level, inside a container of type
`base`: once it has left a nested container it has none. -/
def LevelType (outer : TLVType) (nestLevel : Nat) (base containerType : TLVType) : Prop :=
  containerType = base ∧ (nestLevel = 0 → base = outer) ∨
    0 < nestLevel ∧ containerType = .unknownContainer

theorem LevelType.zero (containerType : TLVType) :
    LevelType containerType 0 containerType containerType := .inl ⟨rfl, fun _ => rfl⟩

theorem LevelType.allowedIn {nestLevel : Nat} {base : TLVType} {tag : Tag}
    (h : LevelType outer nestLevel base containerType) (hallowed : tag.allowedIn base = true) :
    tag.allowedIn containerType = true := by
  rcases h with ⟨rfl, -⟩ | ⟨-, rfl⟩
  · exact hallowed
  · rfl

theorem LevelType.ne_notSpecified {nestLevel : Nat} {base : TLVType}
    (h : LevelType outer nestLevel base containerType) (hbase : base ≠ .notSpecified) :
    containerType ≠ .notSpecified := by
  rcases h with ⟨rfl, -⟩ | ⟨-, rfl⟩
  · exact hbase
  · decide

/-- The loop goes on with the element in front of the reader. -/
def readOn (outer : TLVType) (nestLevel : Nat) : ReaderM Unit := do
  readElement
  skipLoop outer nestLevel

/-- The end of a nested container: the loop is one level up. -/
theorem At.readOn_end {nestLevel : Nat}
    (h : At data ip containerType (endOfContainer ++ rest) r)
    (hcontainer : containerType ≠ .notSpecified) :
    ∃ r', At data ip (if nestLevel = 0 then outer else .unknownContainer) rest r' ∧
      (readOn outer (nestLevel + 1)).run r = (readOn outer nestLevel).run r' := by
  obtain ⟨r₁, hread, hat, hend⟩ := h.readEnd hcontainer
  refine ⟨{ r₁ with containerType := if nestLevel = 0 then outer else .unknownContainer }, ?_, ?_⟩
  · exact ⟨hat.inBounds.congr rfl rfl rfl rfl rfl, hat.implicitProfileId_eq,
      hat.implicitProfileId_lt, rfl, hat.drop_eq⟩
  · rw [readOn, bind_ok hread, skipLoop_leave hat.inBounds _ _ hend, skipOn,
      bind_ok (skipData_none ?_)]
    · rfl
    · show tlvTypeHasLength r₁.elementType = false
      rw [hend]; decide

mutual

/-- The loop skips an element. -/
theorem Positioned.skipLoop_elem {base : TLVType} :
    ∀ (e : Elem) {nestLevel : Nat} {containerType : TLVType} {rest : List UInt8} {r : TLVReader},
      Positioned data ip containerType e rest r → e.wellFormed ip base = true →
      LevelType outer nestLevel base containerType →
      ∃ r' containerType', LevelType outer nestLevel base containerType' ∧
        At data ip containerType' rest r' ∧
        (skipLoop outer nestLevel).run r = (readOn outer nestLevel).run r'
  | .prim tag p, nestLevel, containerType, rest, r, h, _, hlevel => by
    have htype : r.elementType = p.elemType := h.elementType_eq
    have hlt := p.elemType_lt
    obtain ⟨r', hskip, hat, -⟩ := h.skipData_prim
    refine ⟨r', containerType, hlevel, hat, ?_⟩
    rw [skipLoop_over h.at_body.inBounds, skipOn, bind_ok hskip]
    · rfl
    · rw [htype]; exact fun he => by rw [he] at hlt; exact absurd hlt (by decide)
    · rw [htype]
      simp only [tlvTypeIsContainer, Bool.and_eq_false_imp, decide_eq_true_eq]
      intro hle
      exact absurd hle (by show ¬ 0x15 ≤ p.elemType; omega)
  | .container tag kind members, nestLevel, containerType, rest, r, h, hwf, hlevel => by
    obtain ⟨-, hcont, hnolen, -, hof, hbase⟩ := kind.elemType_spec
    have htype : r.elementType = kind.elemType := h.elementType_eq
    have hmembers : membersWellFormed ip kind.type members = true := by
      rw [Elem.wellFormed, Bool.and_eq_true] at hwf; exact hwf.2
    -- inside the container, one level down
    have hin : At data ip kind.type (encodeMembers members ++ (endOfContainer ++ rest))
        { r with containerType := .ofElementType r.elementType } := by
      have hat := h.at_body
      refine ⟨hat.inBounds.congr rfl rfl rfl rfl rfl, hat.implicitProfileId_eq,
        hat.implicitProfileId_lt, by rw [htype, hof], ?_⟩
      rw [← List.append_assoc]; exact hat.drop_eq
    obtain ⟨r₁, type₁, hlevel₁, hat₁, hrun₁⟩ := At.skipLoop_members members
      hin hmembers (.inl ⟨rfl, fun h0 => absurd h0 (Nat.succ_ne_zero nestLevel)⟩)
    obtain ⟨r₂, hat₂, hrun₂⟩ := @At.readOn_end _ _ _ _ outer _ nestLevel hat₁
      (hlevel₁.ne_notSpecified hbase)
    refine ⟨r₂, _, ?_, hat₂, ?_⟩
    · rcases Nat.eq_zero_or_pos nestLevel with rfl | hpos
      · rcases hlevel with ⟨-, h0⟩ | ⟨h0, -⟩
        · exact .inl ⟨by rw [if_pos rfl, h0 rfl], h0⟩
        · exact absurd h0 (by omega)
      · exact .inr ⟨hpos, if_neg (by omega)⟩
    · rw [skipLoop_enter h.at_body.inBounds _ _ (by rw [htype]; exact hcont), skipOn,
        bind_ok (skipData_none (by rw [← hnolen, ← htype]; rfl)), ← hrun₂, ← hrun₁]
      rfl

/-- The loop skips the members of a container. -/
theorem At.skipLoop_members {base : TLVType} :
    ∀ (es : List Elem) {nestLevel : Nat} {containerType : TLVType} {rest : List UInt8}
      {r : TLVReader},
      At data ip containerType (encodeMembers es ++ rest) r →
      membersWellFormed ip base es = true → LevelType outer nestLevel base containerType →
      ∃ r' containerType', LevelType outer nestLevel base containerType' ∧
        At data ip containerType' rest r' ∧
        (readOn outer nestLevel).run r = (readOn outer nestLevel).run r'
  | [], nestLevel, containerType, rest, r, h, _, hlevel =>
    ⟨r, containerType, hlevel, by simpa using h, rfl⟩
  | e :: es, nestLevel, containerType, rest, r, h, hwf, hlevel => by
    rw [encodeMembers_cons, List.append_assoc] at h
    rw [membersWellFormed, Bool.and_eq_true] at hwf
    have htag := Elem.wellFormed_tag hwf.1
    obtain ⟨r₁, hread, hpos⟩ := h.readElement_ok (hlevel.allowedIn htag.1) htag.2
    obtain ⟨r₂, type₂, hlevel₂, hat₂, hrun₂⟩ := Positioned.skipLoop_elem e hpos hwf.1 hlevel
    obtain ⟨r₃, type₃, hlevel₃, hat₃, hrun₃⟩ := At.skipLoop_members es hat₂ hwf.2 hlevel₂
    have hrun₁ : (readOn outer nestLevel).run r = (skipLoop outer nestLevel).run r₁ := bind_ok hread
    exact ⟨r₃, type₃, hlevel₃, hat₃, by rw [hrun₁, hrun₂, hrun₃]⟩

end

/-! ## Into and out of containers -/

/-- There is no current element. -/
def Cleared (r : TLVReader) : Prop := r.elementType = ElementType.notSpecified

theorem cleared_clearElementState (r : TLVReader) : Cleared r.clearElementState := by
  unfold Cleared elementType clearElementState
  exact if_pos rfl

theorem exitContainer_ok {r' : TLVReader} (h : (skipLoop r.containerType 0).run r = .ok () r')
    (outer : TLVType) :
    (exitContainer outer).run r =
      .ok () (clearElementState { r' with containerType := outer }) := by
  have hskip : skipToEndOfContainer.run r = .ok () r' := h
  rw [exitContainer, bind_ok hskip]
  rfl

theorem At.left (h : At data ip containerType rest r) (outer : TLVType) :
    At data ip outer rest (clearElementState { r with containerType := outer }) where
  inBounds := h.inBounds.congr rfl rfl rfl rfl rfl
  implicitProfileId_eq := h.implicitProfileId_eq
  implicitProfileId_lt := h.implicitProfileId_lt
  containerType_eq := rfl
  drop_eq := h.drop_eq

/-- `ExitContainer` behind the end of the container. -/
theorem At.exit_end (h : At data ip containerType rest r)
    (hend : r.elementType = ElementType.endOfContainer) (outer : TLVType) :
    ∃ r', (exitContainer outer).run r = .ok () r' ∧ At data ip outer rest r' ∧ Cleared r' :=
  ⟨_, exitContainer_ok (skipLoop_end h.inBounds _ hend) outer, h.left outer,
    cleared_clearElementState _⟩

/-- `ExitContainer` in front of members. -/
theorem At.exit_members {es : List Elem}
    (h : At data ip containerType (encodeMembers es ++ (endOfContainer ++ rest)) r)
    (hclear : Cleared r) (hwf : membersWellFormed ip containerType es = true)
    (hcontainer : containerType ≠ .notSpecified) (outer : TLVType) :
    ∃ r', (exitContainer outer).run r = .ok () r' ∧ At data ip outer rest r' ∧ Cleared r' := by
  have hstart : (skipLoop containerType 0).run r = (readOn containerType 0).run r := by
    rw [skipLoop_over h.inBounds, skipOn, bind_ok (skipData_none ?_)]
    · rfl
    · rw [hclear]; decide
    · rw [hclear]; decide
    · rw [hclear]; decide
  obtain ⟨r₁, type₁, hlevel, hat₁, hrun₁⟩ :=
    At.skipLoop_members es h hwf (LevelType.zero containerType)
  obtain ⟨r₂, hread, hat₂, hend⟩ := hat₁.readEnd (hlevel.ne_notSpecified hcontainer)
  have hloop : (skipLoop r.containerType 0).run r = .ok () r₂ := by
    rw [h.containerType_eq, hstart, hrun₁, readOn, bind_ok hread]
    exact skipLoop_end hat₂.inBounds _ hend
  exact ⟨_, exitContainer_ok hloop outer, hat₂.left outer, cleared_clearElementState _⟩

/-- `EnterContainer` on a container. -/
theorem Positioned.enter_ok {tag : Tag} {kind : ContainerKind} {members : List Elem}
    (h : Positioned data ip containerType (.container tag kind members) rest r) :
    ∃ r', enterContainer.run r = .ok containerType r' ∧ Cleared r' ∧
      At data ip kind.type (encodeMembers members ++ (endOfContainer ++ rest)) r' := by
  obtain ⟨-, hcont, -, -, hof, -⟩ := kind.elemType_spec
  have htype : r.elementType = kind.elemType := h.elementType_eq
  have hat := h.at_body
  refine ⟨clearElementState { r with containerType := .ofElementType r.elementType }, ?_,
    cleared_clearElementState _, ?_⟩
  · rw [enterContainer, get_bind]
    dsimp only
    rw [htype, hcont, ← hat.containerType_eq]
    rfl
  · rw [htype, hof]
    have hleft := hat.left kind.type
    rw [show Elem.body (.container tag kind members) ++ rest =
      encodeMembers members ++ (endOfContainer ++ rest) from List.append_assoc _ _ _] at hleft
    exact hleft

/-! ## From element to element -/

/-- `Skip` from behind the head of an element leads to its end. -/
theorem Positioned.skip_ok {e : Elem} {base : TLVType}
    (h : Positioned data ip containerType e rest r) (hwf : e.wellFormed ip base = true) :
    ∃ r', skip.run r = .ok () r' ∧ At data ip containerType rest r' ∧ Cleared r' := by
  have htype := h.elementType_eq
  have hlt := e.elemType_lt
  have hend : r.elementType ≠ ElementType.endOfContainer := fun he => by
    rw [htype] at he; rw [he] at hlt; exact absurd hlt (by decide)
  rw [skip, gets_bind, if_neg hend]
  cases e with
  | prim tag p =>
    have hplt := p.elemType_lt
    have hnot : ¬ tlvTypeIsContainer r.elementType = true := by
      rw [htype]
      simp only [tlvTypeIsContainer, Bool.and_eq_true, decide_eq_true_eq, not_and]
      intro hle
      exact absurd hle (by show ¬ 0x15 ≤ p.elemType; omega)
    obtain ⟨r', hskip, hat, -⟩ := h.skipData_prim
    rw [if_neg hnot, bind_ok hskip]
    exact ⟨_, rfl, hat.clear, cleared_clearElementState _⟩
  | container tag kind members =>
    obtain ⟨-, hcont, -, -, -, hbase⟩ := kind.elemType_spec
    have hmembers : membersWellFormed ip kind.type members = true := by
      rw [Elem.wellFormed, Bool.and_eq_true] at hwf; exact hwf.2
    obtain ⟨r₁, henter, hclear, hat₁⟩ := h.enter_ok
    obtain ⟨r₂, hexit, hat₂, hclear₂⟩ := hat₁.exit_members hclear hmembers hbase containerType
    rw [if_pos (by rw [htype]; exact hcont), bind_ok henter]
    exact ⟨r₂, hexit, hat₂, hclear₂⟩

/-- `Skip` leads the reader in front of `bytes`. -/
def Ready (data : List UInt8) (ip : Nat) (containerType : TLVType) (bytes : List UInt8)
    (r : TLVReader) : Prop :=
  ∃ r', skip.run r = .ok () r' ∧ At data ip containerType bytes r' ∧ Cleared r'

theorem At.ready (h : At data ip containerType rest r) (hclear : Cleared r) :
    Ready data ip containerType rest r := by
  refine ⟨r.clearElementState, ?_, h.clear, cleared_clearElementState r⟩
  rw [skip, gets_bind, hclear, if_neg (by decide), if_neg (by decide),
    bind_ok (skipData_none (by rw [hclear]; decide))]
  rfl

theorem Positioned.ready {e : Elem} {base : TLVType}
    (h : Positioned data ip containerType e rest r) (hwf : e.wellFormed ip base = true) :
    Ready data ip containerType rest r := h.skip_ok hwf

/-- `Next` in front of an element. -/
theorem Ready.next_elem {e : Elem} (h : Ready data ip containerType (e.encode ++ rest) r)
    (hwf : e.wellFormed ip containerType = true) :
    ∃ r', next.run r = .ok () r' ∧ Positioned data ip containerType e rest r' := by
  obtain ⟨r₁, hskip, hat, -⟩ := h
  obtain ⟨hallowed, hprofile⟩ := Elem.wellFormed_tag hwf
  obtain ⟨r₂, hread, hpos⟩ := hat.readElement_ok hallowed hprofile
  refine ⟨r₂, ?_, hpos⟩
  have hlt := e.elemType_lt
  have hend : r₂.elementType ≠ ElementType.endOfContainer := fun he => by
    rw [hpos.elementType_eq] at he; rw [he] at hlt; exact absurd hlt (by decide)
  rw [next, bind_ok hskip, bind_ok hread, gets_bind, if_neg hend]
  rfl

/-- `Next` in front of the end of a container. -/
theorem Ready.next_end (h : Ready data ip containerType (endOfContainer ++ rest) r)
    (hcontainer : containerType ≠ .notSpecified) :
    ∃ r', next.run r = .err .endOfTLV r' ∧ At data ip containerType rest r' ∧
      r'.elementType = ElementType.endOfContainer := by
  obtain ⟨r₁, hskip, hat, -⟩ := h
  obtain ⟨r₂, hread, hat₂, hend⟩ := hat.readEnd hcontainer
  refine ⟨r₂, ?_, hat₂, hend⟩
  rw [next, bind_ok hskip, bind_ok hread, gets_bind, if_pos hend]
  rfl

/-- `Next` at the end of the buffer. -/
theorem Ready.next_empty (h : Ready data ip containerType [] r) :
    ∃ r', next.run r = .err .endOfTLV r' ∧ At data ip containerType [] r' ∧ Cleared r' := by
  obtain ⟨r₁, hskip, hat, hclear⟩ := h
  refine ⟨r₁, ?_, hat, hclear⟩
  rw [next, bind_ok hskip, bind_err hat.readEmpty]

end

end Matter.TLV
