import MatterDissector.TLV.Proof.Bounds

/-!
# The classes of tags

A tag control says whether a tag is anonymous, context-specific or a profile tag. All tags share
one 64-bit space, in which the profile `0xFFFFFFFF` marks the special ones. `ReadTag` keeps this
profile from being the implicit one, but not from being encoded in a fully qualified tag
(`readTag_preserves_iff`).
-/

namespace Matter.TLV

open Prog TLVReader

/-! ## What is encoded -/

/-- A tag as its field encodes it. -/
inductive TagClass where
  | anonymous
  | context (tagNum : Nat)
  | profile (vendorId profileNum tagNum : Nat)
  deriving DecidableEq, Repr

/-- The tag in a tag field: the implicit profile has the vendor in its upper half, and the common
profile is 0. -/
def encodedTag (implicitProfileId control : Nat) (field : List UInt8) : TagClass :=
  let implicit := TagClass.profile (implicitProfileId / 2 ^ 16) (implicitProfileId % 2 ^ 16)
  let fullyQualified := TagClass.profile (LE.value (field.take 2))
    (LE.value ((field.drop 2).take 2))
  match control &&& tagControlMask with
  | 0x20 => .context (LE.value (field.take 1))
  | 0x40 => .profile 0 0 (LE.value (field.take 2))
  | 0x60 => .profile 0 0 (LE.value (field.take 4))
  | 0x80 => implicit (LE.value (field.take 2))
  | 0xA0 => implicit (LE.value (field.take 4))
  | 0xC0 => fullyQualified (LE.value ((field.drop 4).take 2))
  | 0xE0 => fullyQualified (LE.value ((field.drop 4).take 4))
  | _ => .anonymous

namespace TagClass

/-- The numbers fit their fields. -/
def Fits : TagClass → Prop
  | anonymous => True
  | context tagNum => tagNum < 256
  | profile vendorId profileNum tagNum =>
    vendorId < 2 ^ 16 ∧ profileNum < 2 ^ 16 ∧ tagNum < 2 ^ 32

/-- The tag of the class, as the header's functions put it together. -/
def tag : TagClass → Nat
  | anonymous => anonymousTag
  | context tagNum => contextTag tagNum
  | profile vendorId profileNum tagNum => vendorProfileTag vendorId profileNum tagNum

/-- The predicates and accessors of tags find the class and the numbers of `cls` in `tag`, and an
element with a profile tag does not pass `VerifyElement` as one of another class. -/
structure Preserved (cls : TagClass) (tag : Nat) : Prop where
  anonymous : tag = anonymousTag ↔ cls = .anonymous
  context : isContextTag tag = true ↔ ∃ tagNum, cls = .context tagNum
  contextNum : ∀ tagNum, cls = .context tagNum → tagNumFromTag tag = tagNum
  profile : ∀ vendorId profileNum tagNum, cls = .profile vendorId profileNum tagNum →
    isProfileTag tag = true ∧ vendorIdFromTag tag = vendorId ∧
      profileNumFromTag tag = profileNum ∧ tagNumFromTag tag = tagNum
  verified : ∀ vendorId profileNum tagNum, cls = .profile vendorId profileNum tagNum →
    ∀ r : TLVReader, r.elemTag = tag → verifyElement.run r = .ok () r →
      r.elemTag ≠ anonymousTag ∧ isContextTag r.elemTag = false ∧ r.containerType ≠ .array

/-! ## Numbers in tags -/

theorem tag_context {tagNum : Nat} (h : tagNum < 256) :
    (context tagNum).tag = 0xFFFFFFFF * 2 ^ 32 + tagNum := contextTag_eq (by omega)

theorem tag_profile {vendorId profileNum tagNum : Nat}
    (h : (profile vendorId profileNum tagNum).Fits) : (profile vendorId profileNum tagNum).tag =
      (vendorId * 2 ^ 16 + profileNum) * 2 ^ 32 + tagNum := vendorProfileTag_eq h.2.1 h.2.2

/-- An array takes anonymous elements only, and its end is anonymous. -/
theorem containerType_of_verified {r : TLVReader} (h : verifyElement.run r = .ok () r)
    (htag : r.elemTag ≠ anonymousTag) : r.containerType ≠ .array := by
  intro harray
  rw [verifyElement, get_bind] at h
  dsimp only at h
  have hend : r.containerType ≠ .notSpecified := by
    rw [harray]
    decide
  have hmember : ∃ e, verifyTag r.containerType r.elemTag = .error e := by
    rw [harray, verifyTag]
    split
    · exact ⟨_, rfl⟩
    · exact ⟨_, rfl⟩
  obtain ⟨e, he⟩ := hmember
  rw [if_neg hend, if_pos htag, he] at h
  split at h
  · cases h
  · rename_i hcheck
    split at hcheck <;> cases hcheck

theorem preserved_anonymous : Preserved .anonymous anonymousTag where
  anonymous := by simp
  context := by
    have hnot : isContextTag anonymousTag = false := by decide
    simp [hnot]
  contextNum _ h := by cases h
  profile _ _ _ h := by cases h
  verified _ _ _ h := by cases h

theorem preserved_context {tagNum : Nat} (h : tagNum < 256) :
    Preserved (.context tagNum) (TagClass.context tagNum).tag := by
  rw [tag_context h]
  have hlt : 0xFFFFFFFF * 2 ^ 32 + tagNum < 2 ^ 64 := by omega
  exact {
    anonymous := by rw [anonymousTag_eq]; constructor <;> intro h' <;> [omega; cases h']
    context := by
      rw [isContextTag_iff hlt]
      exact ⟨fun _ => ⟨_, rfl⟩, fun _ => by omega⟩
    contextNum := fun _ h' => by
      cases h'
      rw [tagNumFromTag_eq]
      omega
    profile := fun _ _ _ h' => by cases h'
    verified := fun _ _ _ h' => by cases h' }

/-- A profile tag is one exactly if its profile is not the marker. -/
theorem preserved_profile_iff {vendorId profileNum tagNum : Nat}
    (h : (profile vendorId profileNum tagNum).Fits) :
    Preserved (.profile vendorId profileNum tagNum) (profile vendorId profileNum tagNum).tag ↔
      ¬ (vendorId = 0xFFFF ∧ profileNum = 0xFFFF) := by
  rw [tag_profile h]
  obtain ⟨hvendor, hprofile, hnum⟩ := h
  generalize ht : (vendorId * 2 ^ 16 + profileNum) * 2 ^ 32 + tagNum = t
  have hlt : t < 2 ^ 64 := by omega
  have hprofileId : t / 2 ^ 32 = vendorId * 2 ^ 16 + profileNum := by omega
  constructor
  · rintro hpres ⟨rfl, rfl⟩
    have hone := (hpres.profile _ _ _ rfl).1
    rw [isProfileTag_iff hlt] at hone
    exact hone hprofileId
  · intro hne
    have hspecial : t / 2 ^ 32 ≠ 0xFFFFFFFF := by omega
    have hanon : t ≠ anonymousTag := by
      rw [anonymousTag_eq]
      omega
    have hcontext : isContextTag t = false := by
      rw [← Bool.not_eq_true, isContextTag_iff hlt]
      exact fun hc => hspecial hc.1
    exact {
      anonymous := ⟨fun h => absurd h hanon, fun h => (by cases h)⟩
      context := by
        rw [hcontext]
        exact ⟨fun h => (by cases h), fun ⟨_, h⟩ => (by cases h)⟩
      contextNum := fun _ h' => by cases h'
      profile := fun _ _ _ h' => by
        cases h'
        refine ⟨(isProfileTag_iff hlt).2 hspecial, ?_, ?_, ?_⟩
        · rw [vendorIdFromTag_eq hlt]
          omega
        · rw [profileNumFromTag_eq hlt]
          omega
        · rw [tagNumFromTag_eq]
          omega
      verified := fun _ _ _ _ r hr hverify => by
        subst hr
        exact ⟨hanon, hcontext, containerType_of_verified hverify hanon⟩ }

/-- The class is found in its tag, unless it is a profile tag with the marker for a profile. -/
theorem preserved_iff {cls : TagClass} (h : cls.Fits) :
    Preserved cls cls.tag ↔ ∀ tagNum, cls ≠ .profile 0xFFFF 0xFFFF tagNum := by
  cases cls with
  | anonymous => exact ⟨fun _ _ h => (by cases h), fun _ => preserved_anonymous⟩
  | context tagNum => exact ⟨fun _ _ h => (by cases h), fun _ => preserved_context h⟩
  | profile vendorId profileNum tagNum =>
    rw [preserved_profile_iff h]
    constructor
    · rintro hne num ⟨⟩
      exact hne ⟨rfl, rfl⟩
    · rintro hne ⟨rfl, rfl⟩
      exact hne tagNum rfl

end TagClass

/-! ## `ReadTag` -/

theorem value_take_lt (bs : List UInt8) (k : Nat) : LE.value (bs.take k) < 256 ^ k :=
  Nat.lt_of_lt_of_le (LE.value_lt _)
    (Nat.pow_le_pow_right (by decide) (List.length_take_le _ _))

/-- The four numbers that may be encoded in two or four bytes. -/
theorem value_take_two_lt (bs : List UInt8) : LE.value (bs.take 2) < 2 ^ 16 := value_take_lt bs 2

theorem value_take_four_lt (bs : List UInt8) : LE.value (bs.take 4) < 2 ^ 32 := value_take_lt bs 4

theorem encodedTag_fits {implicitProfileId : Nat} (hip : implicitProfileId < 2 ^ 32)
    (b : UInt8) (field : List UInt8) : (encodedTag implicitProfileId b.toNat field).Fits := by
  have hc := tagControl_cases b
  have htwo := value_take_two_lt
  have hfour := value_take_four_lt
  have hshort : ∀ bs : List UInt8, LE.value (bs.take 2) < 2 ^ 32 := fun bs =>
    Nat.lt_of_lt_of_le (htwo bs) (by decide)
  simp only [List.mem_cons, List.not_mem_nil, or_false] at hc
  unfold encodedTag
  rcases hc with hc | hc | hc | hc | hc | hc | hc | hc <;> rw [hc]
  · trivial
  · exact value_take_lt field 1
  · exact ⟨by decide, by decide, hshort _⟩
  · exact ⟨by decide, by decide, hfour _⟩
  · exact ⟨by omega, Nat.mod_lt _ (by decide), hshort _⟩
  · exact ⟨by omega, Nat.mod_lt _ (by decide), hfour _⟩
  · exact ⟨htwo _, htwo _, hshort _⟩
  · exact ⟨htwo _, htwo _, hfour _⟩

/-- What `ReadTag` makes of the field is the tag of the class in it. -/
theorem decodeTag_tag {implicitProfileId : Nat} (hne : implicitProfileId ≠ profileIdNotSpecified)
    (b : UInt8) (field : List UInt8) :
    (decodeTag implicitProfileId b.toNat field).1 =
      (encodedTag implicitProfileId b.toNat field).tag := by
  have hc := tagControl_cases b
  have htwo := value_take_two_lt field
  have hfour := value_take_four_lt field
  have hcommon : ∀ tagNum < 2 ^ 32, commonTag tagNum = vendorProfileTag 0 0 tagNum :=
    fun tagNum h => by rw [commonTag_eq h, vendorProfileTag_eq (by decide) h]; omega
  have himplicit : ∀ tagNum < 2 ^ 32, profileTag implicitProfileId tagNum =
      vendorProfileTag (implicitProfileId / 2 ^ 16) (implicitProfileId % 2 ^ 16) tagNum :=
    fun tagNum h => by
      rw [profileTag_eq h, vendorProfileTag_eq (Nat.mod_lt _ (by decide)) h]
      omega
  simp only [List.mem_cons, List.not_mem_nil, or_false] at hc
  unfold decodeTag encodedTag
  rcases hc with hc | hc | hc | hc | hc | hc | hc | hc <;> rw [hc]
  · rfl
  · rfl
  · exact hcommon _ (by omega)
  · exact hcommon _ hfour
  · exact (congrArg Prod.fst (if_neg hne)).trans (himplicit _ (by omega))
  · exact (congrArg Prod.fst (if_neg hne)).trans (himplicit _ hfour)
  · rfl
  · rfl

/-- `ReadTag` preserves the class of a tag, unless it is fully qualified and its profile is the
marker of the special tags. -/
theorem readTag_preserves_iff (b : UInt8) {mem : List UInt8} {p : Nat}
    (hfield : p + tagFieldSize b.toNat ≤ mem.length) {r : TLVReader}
    (hip : r.implicitProfileId < 2 ^ 32) (hne : r.implicitProfileId ≠ profileIdNotSpecified) :
    ∃ tag p', (readTag (b.toNat &&& tagControlMask) mem p).run r = .ok (tag, p') r ∧
      ((encodedTag r.implicitProfileId b.toNat (mem.drop p)).Preserved tag ↔
        ∀ tagNum, encodedTag r.implicitProfileId b.toNat (mem.drop p) ≠
          .profile 0xFFFF 0xFFFF tagNum) := by
  refine ⟨_, _, readTag_eq hfield, ?_⟩
  rw [decodeTag_tag hne]
  exact TagClass.preserved_iff (encodedTag_fits hip b _)

/-- A reader for an implicit profile. -/
def profileReader : TLVReader := { init [] 0 with implicitProfileId := 0x1004 }

theorem readTag_preserves_iff_implicit :
    0 + tagFieldSize (0x95 : UInt8).toNat ≤ ([0x01, 0x00] : List UInt8).length ∧
      profileReader.implicitProfileId < 2 ^ 32 ∧
      profileReader.implicitProfileId ≠ profileIdNotSpecified ∧
      ∃ tag p', (readTag ((0x95 : UInt8).toNat &&& tagControlMask) [0x01, 0x00] 0).run
          profileReader = .ok (tag, p') profileReader ∧
        ((encodedTag profileReader.implicitProfileId (0x95 : UInt8).toNat
            (([0x01, 0x00] : List UInt8).drop 0)).Preserved tag ↔
          ∀ tagNum, encodedTag profileReader.implicitProfileId (0x95 : UInt8).toNat
            (([0x01, 0x00] : List UInt8).drop 0) ≠ .profile 0xFFFF 0xFFFF tagNum) :=
  ⟨by decide, by decide, by decide,
    readTag_preserves_iff (0x95 : UInt8) (by decide) (by decide) (by decide)⟩

/-- A fully qualified tag whose vendor and profile are `0xFFFF` reads as the context tag 2. -/
theorem not_preserved_fullyQualified :
    (readTag ((0xD5 : UInt8).toNat &&& tagControlMask) [0xFF, 0xFF, 0xFF, 0xFF, 0x02, 0x00] 0).run
        profileReader = .ok (contextTag 2, 6) profileReader ∧
      encodedTag profileReader.implicitProfileId (0xD5 : UInt8).toNat
        [0xFF, 0xFF, 0xFF, 0xFF, 0x02, 0x00] = .profile 0xFFFF 0xFFFF 2 ∧
      isContextTag (contextTag 2) = true ∧
      ¬ (TagClass.profile 0xFFFF 0xFFFF 2).Preserved (contextTag 2) := by
  refine ⟨by decide, by decide, by decide, fun h => ?_⟩
  have hprofile := (h.profile _ _ _ rfl).1
  exact absurd hprofile (by decide)

end Matter.TLV
