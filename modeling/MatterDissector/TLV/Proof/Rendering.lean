import MatterDissector.Display.Digits
import MatterDissector.TLV.Pretty
import MatterDissector.TLV.Proof.Calls
import MatterDissector.TLV.Proof.Members

/-!
# The lines of the generic renderer

What `AddGenericTLVItem` shows of a tree are the lines of a printer (`addGenericTLVItemTo_adds`),
which shows tags and values as the code does: of a profile tag the profile only (`Tag.shownText`),
and a string up to its first terminator (`Prim.shownText`). It is the reference on the trees without
profile tags and terminators (`genericRendering_iff`).
-/

namespace Matter.TLV

open Prog Dissect Display
open TLVReader (InBounds)

/-! ## What is shown of tags and values -/

namespace Tag

/-- The text of `AddGenericTLVItem` in front of a value. -/
def shownText (implicitProfileId : Nat) (tag : Tag) : Text :=
  if tag.isAnonymous then []
  else if tag.isContext then Text.dec tag.num ++ Text.lit " = "
  else Text.zeroPad 8 (Text.hexUpper (tag.profileId implicitProfileId)) ++ Text.lit ":d = "

def isProfile (tag : Tag) : Bool := !tag.isAnonymous && !tag.isContext

variable {tag : Tag} {ip : Nat}

theorem value_of_profile (h : tag.isProfile = true) :
    tag.value ip = tag.profileId ip * 2 ^ 32 + tag.num ∧ tag.num < 2 ^ 32 := by
  cases tag with
  | anonymous => cases h
  | context num => cases h
  | common2 num | common4 num =>
    have hnum := num.isLt
    have hlt : num.toNat < 2 ^ 32 := by omega
    exact ⟨profileTag_eq hlt, hlt⟩
  | implicit2 num | implicit4 num =>
    have hnum := num.isLt
    have hlt : num.toNat < 2 ^ 32 := by omega
    exact ⟨profileTag_eq hlt, hlt⟩
  | full6 vendor profile num | full8 vendor profile num =>
    have hnum := num.isLt
    have hlt : num.toNat < 2 ^ 32 := by omega
    exact ⟨vendorProfileTag_eq profile.isLt hlt, hlt⟩

theorem profileId_lt (hip : ip < 2 ^ 32) (tag : Tag) : tag.profileId ip < 2 ^ 32 := by
  cases tag with
  | implicit2 _ | implicit4 _ => exact hip
  | full6 vendor profile _ | full8 vendor profile _ =>
    have hvendor := vendor.isLt
    have hprofile := profile.isLt
    show vendor.toNat * 2 ^ 16 + profile.toNat < 2 ^ 32
    omega
  | anonymous | context _ | common2 _ | common4 _ => exact Nat.two_pow_pos 32

theorem profileIdFromTag_value (hip : ip < 2 ^ 32) (h : tag.isProfile = true) :
    profileIdFromTag (tag.value ip) = tag.profileId ip := by
  obtain ⟨hvalue, hnum⟩ := @value_of_profile tag ip h
  have hprofile := profileId_lt hip tag
  have hdiv : tag.value ip / 2 ^ 32 = tag.profileId ip := by omega
  rw [profileIdFromTag, and_profileIdMask (by omega), hdiv, Nat.shiftRight_eq_div_pow,
    Nat.mul_div_cancel _ (Nat.two_pow_pos 32), Nat.mod_eq_of_lt hprofile]

theorem isProfileTag_value (hip : ip < 2 ^ 32) (hprofile : tag.profileSpecified ip = true) :
    isProfileTag (tag.value ip) = tag.isProfile := by
  rcases value_cases hip hprofile with rfl | ⟨num, rfl, hvalue⟩ | ⟨hanon, hctx, hlt, hne⟩
  · show isProfileTag anonymousTag = false
    decide
  · have hnum := num.isLt
    have hfalse := mt (isProfileTag_iff (show value ip (.context num) < 2 ^ 64 by omega)).1
    exact Bool.eq_false_iff.2 (hfalse fun h => h (by omega))
  · rw [isProfile, hanon, hctx]
    exact (isProfileTag_iff hlt).2 hne

theorem tagNumFromTag_value (h : tag.isAnonymous = false) :
    tagNumFromTag (tag.value ip) = tag.num := by
  rw [tagNumFromTag_eq]
  by_cases hctx : tag.isContext = true
  · cases tag with
    | context num =>
      have hnum := num.isLt
      have hvalue : value ip (.context num) = 0xFFFFFFFF * 2 ^ 32 + num.toNat :=
        contextTag_eq (by omega)
      rw [hvalue]
      show _ = num.toNat
      omega
    | _ => cases hctx
  · have hprofile : tag.isProfile = true := by rw [isProfile, h, Bool.eq_false_iff.2 hctx]; rfl
    obtain ⟨hvalue, hnum⟩ := @value_of_profile tag ip hprofile
    rw [hvalue]
    omega

end Tag

/-- The text of `AddGenericTLVItem` for a value. -/
def Prim.shownText (host : Host) : Prim → Text
  | .utf8 _ s => Text.cString (host.wsEscapeString (Text.cString s.bytes))
  | p => p.text host

/-- What stands on the line of an element behind its tag. -/
def Elem.shownText (host : Host) : Elem → Text
  | .prim _ p => p.shownText host
  | .container _ kind _ => kind.opening

section
variable (host : Host)

theorem not_mem_byteText (b : UInt8) : 0 ∉ byteText b := by
  have hall : ∀ n < 256, 0 ∉ Text.lit " " ++ Text.zeroPad 2 (Text.hex n) := by decide +kernel
  exact hall b.toNat b.toNat_lt

theorem not_mem_floatText (val : TLVReader.FloatBits) : 0 ∉ floatText host val := by
  unfold floatText
  dsimp only
  split
  · exact Text.not_mem_append (StrBuf.not_mem_cString _) (by decide)
  · exact StrBuf.not_mem_cString _

theorem Prim.not_mem_shownText (p : Prim) : 0 ∉ p.shownText host := by
  cases p with
  | sint w v =>
    show 0 ∉ Text.decInt v.toInt
    unfold Text.decInt
    split
    · exact Text.not_mem_append (by decide) (Text.not_mem_dec _)
    · exact Text.not_mem_dec _
  | uint w v => exact Text.not_mem_dec _
  | bool b =>
    have hwords : ∀ b, 0 ∉ Text.lit (if b = true then "true" else "false") := by decide
    exact hwords b
  | float32 v => exact not_mem_floatText host _
  | float64 v => exact not_mem_floatText host _
  | utf8 w s => exact StrBuf.not_mem_cString _
  | bytes w s =>
    intro h
    obtain ⟨b, -, hb⟩ := List.mem_flatMap.1 h
    exact not_mem_byteText b hb
  | null =>
    have hword : 0 ∉ Text.lit "null" := by decide
    exact hword

/-! ## The string buffer -/

/-- A terminated string that is `t`, or `NULL`. -/
structure Holds (strBuf : StrBuf) (t : Text) : Prop where
  terminated : strBuf.Terminated
  text_eq : strBuf.text = t

variable {host} {strBuf : StrBuf} {t : Text}

theorem Holds.append (h : Holds strBuf t) {text : Text} (hnul : 0 ∉ text) :
    ∃ mem, append host text strBuf = Pure.pure (some mem) ∧ Holds (some mem) (t ++ text) := by
  obtain ⟨mem, hrun, h0, htext⟩ := StrBuf.appendStringF_text host.uninit text h.terminated
  refine ⟨mem, by rw [Dissect.append, hrun]; rfl, StrBuf.terminated_some h0, ?_⟩
  rw [← h.text_eq, ← Text.cString_eq_self hnul]
  exact htext

theorem Holds.appendRepeated (h : Holds strBuf t) (level : Nat) :
    ∃ strBuf', StrBuf.appendRepeated host.uninit (Text.lit "    ") level strBuf = .ok strBuf' ∧
      Holds strBuf' (t ++ indentation level) := by
  obtain ⟨strBuf', hrun, hterm, -, htext⟩ :=
    StrBuf.appendRepeated_ok host.uninit (Text.lit "    ") level h.terminated
  refine ⟨strBuf', hrun, hterm, ?_⟩
  rw [htext, h.text_eq]
  rfl

theorem Holds.appendTag (h : Holds strBuf t) {tag : Tag} {ip : Nat} (hip : ip < 2 ^ 32)
    (hprofile : tag.profileSpecified ip = true) :
    ∃ strBuf', appendTag host false (tag.value ip) strBuf = Pure.pure strBuf' ∧
      Holds strBuf' (t ++ tag.shownText ip) := by
  rw [Dissect.appendTag, if_neg (by decide), Tag.isContextTag_value hip hprofile,
    Tag.isProfileTag_value hip hprofile, Tag.shownText]
  by_cases hanon : tag.isAnonymous = true
  · have hctx : tag.isContext = false := by cases tag <;> first | rfl | cases hanon
    rw [if_pos hanon, hctx, Tag.isProfile, hanon, List.append_nil]
    exact ⟨strBuf, rfl, h⟩
  have happend : ∀ {text : Text}, 0 ∉ text →
      ∃ strBuf', Dissect.append host text strBuf = Pure.pure strBuf' ∧
        Holds strBuf' (t ++ text) :=
    fun hnul => by
      obtain ⟨mem, heq, h'⟩ := h.append hnul
      exact ⟨some mem, heq, h'⟩
  have hanon' : tag.isAnonymous = false := Bool.eq_false_iff.2 hanon
  rw [if_neg hanon, Tag.tagNumFromTag_value hanon']
  by_cases hctx : tag.isContext = true
  · rw [if_pos hctx, if_pos hctx]
    exact happend (Text.not_mem_append (Text.not_mem_dec _) (by decide))
  · have htrue : tag.isProfile = true := by
      rw [Tag.isProfile, hanon', Bool.eq_false_iff.2 hctx]
      rfl
    rw [if_neg hctx, if_neg hctx, if_pos htrue, Tag.profileIdFromTag_value hip htrue]
    exact happend (Text.not_mem_append (Text.not_mem_zeroPad 8 (Text.not_mem_hexUpper _))
      (by decide))

/-- A byte after the other. -/
theorem Holds.appendBytes (bytes : List UInt8) :
    ∀ {strBuf : StrBuf} {t : Text}, Holds strBuf t → ∀ {strBuf' : StrBuf} {s s' : DissectState},
      (bytes.foldlM (fun strBuf b =>
        Dissect.append host (Text.lit " " ++ Text.zeroPad 2 (Text.hex b.toNat)) strBuf)
        strBuf : DissectM StrBuf).run s = .ok strBuf' s' →
      Holds strBuf' (t ++ bytes.flatMap byteText) ∧ s' = s := by
  induction bytes with
  | nil =>
    intro strBuf t h strBuf' s s' hrun
    cases hrun
    refine ⟨?_, rfl⟩
    rw [List.flatMap_nil, List.append_nil]
    exact h
  | cons b bytes ih =>
    intro strBuf t h strBuf' s s' hrun
    obtain ⟨strBuf₁, happend, h₁⟩ := @Holds.append host _ _ h _ (not_mem_byteText b)
    rw [byteText] at happend
    rw [List.foldlM_cons, happend, pure_bind] at hrun
    rw [List.flatMap_cons, ← List.append_assoc]
    exact ih h₁ hrun

/-- The value of an element, where it can be appended. -/
theorem OnElem.appendValue_holds {data rest : List UInt8} {ip : Nat} {containerType : TLVType}
    {e : Elem} {s s' : DissectState} {strBuf' : StrBuf}
    (h : OnElem data ip containerType e rest s) (hbuf : Holds strBuf t)
    (hrun : (appendValue host strBuf s.tlv.reader.getType).run s = .ok strBuf' s') :
    Holds strBuf' (t ++ e.shownText host) ∧ s'.log = s.log := by
  rw [h.type_eq] at hrun
  have happend : ∀ (text : Text) {s₁ : DissectState},
      (append host text strBuf).run s₁ = .ok strBuf' s' → s₁.log = s.log → 0 ∉ text →
      Holds strBuf' (t ++ text) ∧ s'.log = s.log := by
    intro text s₁ hok hlog hnul
    obtain ⟨strBuf₁, heq, h₁⟩ := @Holds.append host _ _ hbuf _ hnul
    rw [heq] at hok
    cases hok
    exact ⟨h₁, hlog⟩
  have hread : ∀ {δ : Type} {x : ReaderM δ} {a : δ} {r : TLVReader} (text : δ → Text),
      x.run s.tlv.reader = .ok a r → 0 ∉ text a →
      (do append host (text (← onReader x)) strBuf : DissectM StrBuf).run s = .ok strBuf' s' →
      Holds strBuf' (t ++ text a) ∧ s'.log = s.log := by
    intro δ x a r text hget hnul hok
    rw [bind_ok (onReader_ok hget)] at hok
    exact happend _ hok rfl hnul
  cases e with
  | prim tag p =>
    have hnul := p.not_mem_shownText host
    cases p with
    | sint w v => exact hread Text.decInt (h.positioned.getInt64_sint rfl) hnul hrun
    | uint w v => exact hread Text.dec (h.positioned.getUInt64_uint rfl) hnul hrun
    | bool b =>
      exact hread (fun b => Text.lit (if b = true then "true" else "false"))
        (h.positioned.getBool_bool rfl) hnul hrun
    | float32 v => exact hread (floatText host) (h.positioned.getDouble_float rfl) hnul hrun
    | float64 v => exact hread (floatText host) (h.positioned.getDouble_float rfl) hnul hrun
    | utf8 w v =>
      obtain ⟨r, hdup⟩ := h.dupString_ok
      exact hread (fun val => Text.cString (host.wsEscapeString (Text.cString val))) hdup hnul hrun
    | bytes w v =>
      obtain ⟨bytes, s₁, hbytes, hok⟩ := bind_eq_ok.1 hrun
      have hend : s.tlv.reader.readPoint ≠ s.tlv.reader.bufEnd := by
        obtain ⟨p, s₂, hptr, -⟩ := bind_eq_ok.1 hbytes
        obtain ⟨r, hr, -⟩ := dissect_onReader_eq_ok.1 hptr
        exact (TLVReader.getDataPtr_eq_ok.1 hr).2.1
      cases hbytes.symm.trans (h.dataBytes_eq hend)
      obtain ⟨hholds, rfl⟩ := hbuf.appendBytes v.bytes hok
      exact ⟨hholds, rfl⟩
    | null => exact happend _ hrun rfl hnul
  | container tag kind members =>
    have hnul : 0 ∉ kind.opening := by cases kind <;> decide
    cases kind <;> exact happend _ hrun rfl hnul

end

/-! ## Lines -/

def lineText : Drawn → Option Text
  | .add _ _ _ _ (.stringValue text) => some text
  | .add _ _ _ _ (.stringLine text) => some text
  | _ => none

/-- The texts of the items in a log. -/
def shownLines (log : List Drawn) : List Text := log.filterMap lineText

section
variable {α β : Type} {data rest : List UInt8} {ip : Nat} {containerType : TLVType}
  {s s' : DissectState} {d₀ : TLVDissector} {ls ls' : List Text}

/-- Where `x` returns, it has added the lines `ls`. -/
def Adds (x : DissectM α) (s : DissectState) (ls : List Text) : Prop :=
  ∀ a s', x.run s = .ok a s' → shownLines s'.log = shownLines s.log ++ ls

theorem Adds.of_log {x : DissectM α} (h : ∀ a s', x.run s = .ok a s' → s'.log = s.log) :
    Adds x s [] := by
  intro a s' hrun
  rw [h a s' hrun, List.append_nil]

theorem Adds.bind {x : DissectM α} {k : α → DissectM β} (hx : Adds x s ls)
    (hk : ∀ a s₁, x.run s = .ok a s₁ → Adds (k a) s₁ ls') : Adds (x >>= k) s (ls ++ ls') := by
  intro b s' hrun
  obtain ⟨a, s₁, hrun₁, hrun₂⟩ := bind_eq_ok.1 hrun
  rw [hk a s₁ hrun₁ b s' hrun₂, hx a s₁ hrun₁, List.append_assoc]

theorem adds_onTlv (x : DissectorM α) : Adds (onTlv x) s [] :=
  .of_log fun _ _ hrun => by
    obtain ⟨d, -, rfl⟩ := onTlv_eq_ok.1 hrun
    rfl

theorem adds_addLine (node : ProtoNode) (hfindex : HeaderField) (suppressHeader : Bool)
    (text : Text) : Adds (addLine node hfindex suppressHeader text) s [text] := by
  intro u s' hrun
  cases suppressHeader <;>
  · cases hrun
    exact List.filterMap_append

/-- A loop over members adds the lines of each. -/
theorem loop_adds {body : β → DissectM β} {f : Elem → List Text}
    (hcontainer : containerType ≠ .notSpecified) (hhandles : ∀ b, Handles False (body b)) :
    ∀ (es : List Elem) (fuel : Nat) (b : β) (s : DissectState),
      (∀ b, ∀ e ∈ es, ∀ rest s, OnElem data ip containerType e rest s → Adds (body b) s (f e)) →
      Before data ip containerType d₀ (encodeMembers es ++ (endOfContainer ++ rest)) s.tlv →
      membersWellFormed ip containerType es = true →
      Adds (loop .outOfFuel (fun b => do memberRound body b (← attempt next)) fuel b) s
        (es.flatMap f)
  | es, 0, b, s, _, _, _ => fun a s' hrun => by cases hrun
  | [], fuel + 1, b, s, _, hbefore, _ => by
    rw [encodeMembers_nil, List.nil_append] at hbefore
    obtain ⟨d', hend⟩ := hbefore.next_end hcontainer
    have hnext : next.run s = .err .endOfTLV { s with tlv := d' } := onTlv_eq_err.2 ⟨d', hend, rfl⟩
    refine .of_log fun a s' hrun => ?_
    rw [loop_succ, bind_assoc, bind_ok (attempt_err hnext)] at hrun
    cases hrun
    rfl
  | e :: es, fuel + 1, b, s, hbody, hbefore, hwf => by
    rw [encodeMembers_cons, List.append_assoc] at hbefore
    rw [membersWellFormed, Bool.and_eq_true] at hwf
    obtain ⟨d', hd', hinside, hpos⟩ := hbefore.next_elem hwf.1
    have hnext : next.run s = .ok () { s with tlv := d' } := onTlv_eq_ok.2 ⟨d', hd', rfl⟩
    have hon : OnElem data ip containerType e _ { s with tlv := d' } := ⟨hpos, hwf.1⟩
    have hround : memberRound body b (.ok ()) = body b >>= fun b' => pure (.inl b') := rfl
    intro a s' hrun
    rw [loop_succ, bind_assoc, bind_ok (attempt_ok hnext), hround, bind_assoc] at hrun
    obtain ⟨b', s₁, hrun₁, hrun₂⟩ := bind_eq_ok.1 hrun
    obtain ⟨-, hbal⟩ := ((hhandles b).onTrack hon.focused hrun₁).resolve_right fun hoff => hoff.1
    have hbehind : Before data ip containerType d₀ _ s₁.tlv := .behind hinside hpos hwf.1 hbal
    have hrest := loop_adds hcontainer hhandles es fuel b' s₁
      (fun b m hm => hbody b m (.tail _ hm)) hbehind hwf.2 a s' hrun₂
    rw [hrest, hbody b e List.mem_cons_self _ _ hon b' s₁ hrun₁, List.flatMap_cons,
      List.append_assoc]

/-- A container: the lines of its members, and of what comes behind it. -/
theorem container_adds {tag : Tag} {kind : ContainerKind} {members : List Elem}
    {body : β → DissectM β} {k : β → DissectM α} {f : Elem → List Text}
    (h : OnElem data ip containerType (.container tag kind members) rest s)
    (hhandles : ∀ b, Handles False (body b))
    (hbody : ∀ b, ∀ m ∈ members, ∀ rest s, OnElem data ip kind.type m rest s →
      Adds (body b) s (f m))
    (b₀ : β) (hk : ∀ b s₁, Adds (k b) s₁ ls) :
    Adds (do
      enterContainer
      let b ← forMembers body b₀
      exitContainer
      k b) s (members.flatMap f ++ ls) := by
  obtain ⟨d₀, hd₀, hbefore, hwf, hcontainer, -⟩ := h.entered
  have henter : enterContainer.run s = .ok () { s with tlv := d₀ } := onTlv_eq_ok.2 ⟨d₀, hd₀, rfl⟩
  have hloop : Adds (forMembers body b₀) { s with tlv := d₀ } (members.flatMap f) := by
    intro b s₁ hrun₁
    rw [forMembers, run_whileLoop] at hrun₁
    exact loop_adds hcontainer hhandles members _ b₀ { s with tlv := d₀ } hbody hbefore hwf b s₁
      hrun₁
  intro a s' hrun
  rw [bind_ok henter] at hrun
  exact hloop.bind (fun b s₁ _ => (adds_onTlv _).bind fun _ s₂ _ => hk b s₂) a s' hrun

/-! ## The renderer -/

variable {host : Host} {node : ProtoNode} {hfindex : HeaderField}

theorem Holds.shown_eq {mem : List UInt8} {t : Text} (h : Holds (some mem) t) :
    StrBuf.shown (some mem) = .ok t := by
  rw [StrBuf.shown, if_pos (h.terminated mem rfl)]
  exact congrArg _ h.text_eq

theorem Holds.reset {mem : List UInt8} {t : Text} (h : Holds (some mem) t) :
    ∃ strBuf', StrBuf.reset (some mem) = .ok strBuf' ∧ Holds strBuf' [] := by
  have h0 := h.terminated mem rfl
  cases mem with
  | nil => cases h0
  | cons b mem => exact ⟨_, rfl, StrBuf.terminated_some List.mem_cons_self, rfl⟩

/-- The line of the closing bracket. -/
theorem closing_adds {kind : ContainerKind} {strBuf : StrBuf} (h : Holds strBuf [])
    (indentLevel : Nat) : Adds (do
      let strBuf ← checked (strBuf.appendRepeated host.uninit (Text.lit "    ") indentLevel)
      let strBuf ← append host (Text.lit (closeChar kind.type)) strBuf
      addStringItemWithHeaderF node hfindex (← checked strBuf.shown)) s
        [indentation indentLevel ++ kind.closing] := by
  have hclose : Text.lit (closeChar kind.type) = kind.closing ∧ 0 ∉ kind.closing := by
    cases kind <;> decide
  obtain ⟨strBuf₁, hrepeat, h₁⟩ := @Holds.appendRepeated host _ _ h indentLevel
  obtain ⟨mem, happend, h₂⟩ := @Holds.append host _ _ h₁ _ hclose.2
  rw [hclose.1, checked_eq hrepeat, pure_bind, happend, pure_bind, checked_eq h₂.shown_eq,
    pure_bind]
  exact adds_addLine node hfindex true _

theorem addGenericTLVItemTo_adds : ∀ (depth : Nat) {suppressHeader : Bool} {indentLevel : Nat}
    {containerType : TLVType} {e : Elem} {rest : List UInt8} {s : DissectState},
    OnElem data ip containerType e rest s → (suppressHeader = true ∨ indentLevel = 0) →
      Adds (addGenericTLVItemTo host node hfindex depth false suppressHeader indentLevel) s
        (e.lines (Tag.shownText ip) (Prim.shownText host) indentLevel)
  | 0, _, _, _, _, _, _, _, _ => fun _ _ hrun => by cases hrun
  | depth + 1, suppressHeader, indentLevel, containerType, e, rest, s, h, hheader => by
    unfold addGenericTLVItemTo
    have hread : ∀ (k : TLVType → Nat → DissectM Unit) {ls : List Text},
        Adds (k s.tlv.reader.getType s.tlv.reader.getTag) s ls →
        Adds (do let type ← getType; let tag ← getTag; k type tag) s ls :=
      fun _ _ hk => hk
    refine hread _ ?_
    dsimp only
    have hindent : indentation (if suppressHeader = true then indentLevel else 0) =
        indentation indentLevel := by
      rcases hheader with rfl | rfl
      · rfl
      · rw [ite_self]
    have hip := h.positioned.at_body.implicitProfileId_lt
    have hempty : Holds none [] := ⟨StrBuf.terminated_none, rfl⟩
    obtain ⟨strBuf₁, hrepeat, h₁⟩ := @Holds.appendRepeated host _ _ hempty
      (if suppressHeader = true then indentLevel else 0)
    rw [hindent, List.nil_append] at h₁
    obtain ⟨strBuf₂, htag, h₂⟩ :=
      @Holds.appendTag host _ _ h₁ _ _ hip (Elem.wellFormed_tag h.wellFormed).2
    rw [← h.tag_eq] at htag
    rw [checked_eq hrepeat, pure_bind, htag, pure_bind]
    intro u s' hrun
    obtain ⟨strBuf₃, s₃, hvalue, hshow⟩ := bind_eq_ok.1 hrun
    obtain ⟨h₃, hlog₃⟩ := h.appendValue_holds h₂ hvalue
    rw [List.append_assoc] at h₃
    cases strBuf₃ with
    | none =>
      obtain ⟨_, s₄, -, hline⟩ := bind_eq_ok.1 hshow
      obtain ⟨_, s₅, -, hbehind⟩ := bind_eq_ok.1 hline
      obtain ⟨_, s₆, hreset, -⟩ := bind_eq_ok.1 hbehind
      cases hreset
    | some mem =>
      obtain ⟨strBuf₄, hreset, h₄⟩ := h₃.reset
      rw [checked_eq h₃.shown_eq, pure_bind] at hshow
      obtain ⟨_, s₄, hline, hbehind⟩ := bind_eq_ok.1 hshow
      have hadded := adds_addLine node hfindex suppressHeader _ () s₄ hline
      have htlv₄ := ((still_addLine node hfindex suppressHeader _).ok hline).1
      have htype := h.type_eq
      rw [checked_eq hreset, pure_bind] at hbehind
      cases e with
      | prim tag p =>
        rw [if_neg (by rw [htype]; exact p.type_ne_container)] at hbehind
        cases hbehind
        rw [hadded, hlog₃, Elem.lines]
        rfl
      | container tag kind members =>
        have hstill : Still (appendValue host strBuf₂ s.tlv.reader.getType) := by
          rw [htype]
          cases kind <;> exact still_append host _ _
        have hon := h.congr (htlv₄.trans (hstill.ok hvalue).1)
        have hcontainer : s.tlv.reader.getType = kind.type := htype
        rw [hcontainer, if_pos (by cases kind <;> simp [ContainerKind.type])] at hbehind
        have hmembers := container_adds hon
          (fun _ => handles_addGenericTLVItemTo host node hfindex depth _ _ (indentLevel + 1))
          (fun _ m _ rest s hs => addGenericTLVItemTo_adds depth hs (.inl rfl)) ()
          (fun _ s₁ => @closing_adds s₁ host node hfindex kind strBuf₄ h₄ indentLevel)
        rw [hmembers u s' hbehind, hadded, hlog₃, Elem.lines, memberLines_eq, List.append_assoc]
        rfl

end

/-! ## Faithful rendering -/

/-- The lines that have been shown between two states. -/
def newLines (s s' : DissectState) : List Text := shownLines (s'.log.drop s.log.length)

section
variable {data rest : List UInt8} {ip : Nat} {containerType : TLVType} {e : Elem}
  {s s' : DissectState} {host : Host} {node : ProtoNode} {hfindex : HeaderField}

theorem newLines_eq {x : DissectM Unit} {ls : List Text} (hcalls : Calls (fun _ _ => True) x)
    (hadds : Adds x s ls) (hrun : x.run s = .ok () s') : newLines s s' = ls := by
  obtain ⟨l, hlog, -⟩ := hcalls.ok hrun
  have hlines := hadds () s' hrun
  rw [hlog, shownLines, List.filterMap_append] at hlines
  rw [newLines, hlog, List.drop_left]
  exact List.append_cancel_left hlines

theorem newLines_addGenericTLVItemTo {depth indentLevel : Nat} {suppressHeader : Bool}
    (h : OnElem data ip containerType e rest s) (hheader : suppressHeader = true ∨ indentLevel = 0)
    (hrun : (addGenericTLVItemTo host node hfindex depth false suppressHeader indentLevel).run s =
      .ok () s') :
    newLines s s' = e.lines (Tag.shownText ip) (Prim.shownText host) indentLevel :=
  newLines_eq (calls_addGenericTLVItemTo host (fun _ => trivial) (fun _ => trivial) _ _ _ _)
    (addGenericTLVItemTo_adds depth h hheader) hrun

/-- The run from `s` to `s'` shows the lines of the reference, and members of one container that
differ only in their tags are never shown alike. -/
structure FaithfulRendering (host : Host) (node : ProtoNode) (hfindex : HeaderField)
    (data : List UInt8) (ip : Nat) (e : Elem) (s s' : DissectState) : Prop where
  lines_eq : newLines s s' = e.prettyLines host ip 0
  apart : ∀ {kind : ContainerKind} {members : List Elem}, Siblings e kind members →
    ∀ m ∈ members, ∀ tag, m.withTag tag ∈ members → tag.value ip ≠ m.tag.value ip →
    ∀ {depth depth' indentLevel : Nat} {rest₁ rest₂ : List UInt8} {s₁ s₁' s₂ s₂' : DissectState},
      OnElem data ip kind.type m rest₁ s₁ → OnElem data ip kind.type (m.withTag tag) rest₂ s₂ →
      (addGenericTLVItemTo host node hfindex depth false true indentLevel).run s₁ = .ok () s₁' →
      (addGenericTLVItemTo host node hfindex depth' false true indentLevel).run s₂ = .ok () s₂' →
      newLines s₁ s₁' ≠ newLines s₂ s₂'

/-- `ws_escape_string`: strings can be told from their escapes, which are C strings. -/
structure Host.EscapesStrings (host : Host) : Prop where
  injective : Function.Injective host.wsEscapeString
  noTerminator : ∀ t, 0 ∉ host.wsEscapeString t

/-- Without a terminator in the middle of a string. -/
def Prim.TerminatorFree : Prim → Prop
  | .utf8 _ s => 0 ∉ s.bytes
  | _ => True

/-- Without profile tags, and without terminators in the middle of strings. -/
def Elem.Renderable (e : Elem) : Prop :=
  e.All (fun tag => tag.isProfile = false) fun tag p => tag.isProfile = false ∧ p.TerminatorFree

theorem Prim.shownText_eq_iff (hhost : host.EscapesStrings) (p : Prim) :
    p.shownText host = p.text host ↔ p.TerminatorFree := by
  cases p with
  | utf8 w v =>
    show Text.cString (host.wsEscapeString (Text.cString v.bytes)) = host.wsEscapeString v.bytes ↔
      0 ∉ v.bytes
    rw [Text.cString_eq_self (hhost.noTerminator _), hhost.injective.eq_iff]
    constructor
    · intro h
      rw [← h]
      exact StrBuf.not_mem_cString _
    · exact Text.cString_eq_self
  | sint | uint | bool | float32 | float64 | bytes | null => exact iff_of_true rfl trivial

/-- Behind a profile tag `d` is shown in the place of a number. -/
theorem Tag.profileText_ne (t u u' : Text) (n : Nat) :
    t ++ Text.lit ":d = " ++ u ≠ t ++ (Text.lit ":" ++ (Text.dec n ++ Text.lit " = ")) ++ u' := by
  intro h
  rw [List.append_assoc, List.append_assoc] at h
  have hbehind := List.append_cancel_left (List.append_cancel_left h :
    Text.lit ":" ++ (Text.lit "d = " ++ u) = _)
  obtain ⟨b, bs, hdec⟩ := List.exists_cons_of_ne_nil (Text.dec_ne_nil n)
  have hdigit := Text.dec_digits n b (by rw [hdec]; exact List.mem_cons_self)
  rw [hdec] at hbehind
  have hfirst : (100 : UInt8) = b := (List.cons.inj hbehind).1
  subst hfirst
  simp at hdigit

theorem Tag.shownText_of_not_profile {tag : Tag} (h : tag.isProfile = false) :
    tag.shownText ip = tag.text ip := by
  unfold Tag.shownText Tag.text
  by_cases hanon : tag.isAnonymous = true
  · rw [if_pos hanon, if_pos hanon]
  · have hctx : tag.isContext = true := by
      rw [Tag.isProfile, Bool.eq_false_iff.2 hanon] at h
      simpa using h
    rw [if_neg hanon, if_neg hanon, if_pos hctx, if_pos hctx]

theorem Tag.text_of_profile {tag : Tag} (h : tag.isProfile = true) :
    tag.shownText ip = Text.zeroPad 8 (Text.hexUpper (tag.profileId ip)) ++ Text.lit ":d = " ∧
      tag.text ip = Text.zeroPad 8 (Text.hexUpper (tag.profileId ip)) ++
        (Text.lit ":" ++ (Text.dec tag.num ++ Text.lit " = ")) := by
  rw [Tag.isProfile, Bool.and_eq_true, Bool.not_eq_true', Bool.not_eq_true'] at h
  rw [Tag.shownText, Tag.text, h.1, h.2]
  exact ⟨rfl, rfl⟩

/-- The line of an element is that of the reference. -/
theorem line_eq_iff {tag : Tag} {u u' : Text} :
    tag.shownText ip ++ u = tag.text ip ++ u' ↔ tag.isProfile = false ∧ u = u' := by
  cases hprofile : tag.isProfile with
  | true =>
    obtain ⟨hshown, htext⟩ := @Tag.text_of_profile ip tag hprofile
    rw [hshown, htext]
    exact iff_of_false (Tag.profileText_ne _ _ _ _) fun h => by cases h.1
  | false =>
    rw [Tag.shownText_of_not_profile hprofile, List.append_cancel_left_eq]
    exact (and_iff_right rfl).symm

theorem lines_eq_prettyLines_iff (hhost : host.EscapesStrings) (e : Elem) (level : Nat) :
    e.lines (Tag.shownText ip) (Prim.shownText host) level = e.prettyLines host ip level ↔
      e.Renderable := by
  rw [Elem.prettyLines, e.lines_eq_iff, Elem.Renderable]
  have htag : (fun tag => Tag.shownText ip tag = Tag.text ip tag) =
      fun tag => tag.isProfile = false := by
    funext tag
    have hline := @line_eq_iff ip tag [] []
    rw [List.append_nil, List.append_nil] at hline
    exact propext (hline.trans (and_iff_left rfl))
  have hprim : (fun tag p => Tag.shownText ip tag ++ Prim.shownText host p =
      Tag.text ip tag ++ Prim.text host p) =
      fun tag p => tag.isProfile = false ∧ p.TerminatorFree := by
    funext tag p
    rw [line_eq_iff, Prim.shownText_eq_iff hhost]
  rw [htag, hprim]

/-- Tags that are shown as in the reference can be told apart. -/
theorem Tag.eq_of_shownText {tag tag' : Tag} (h : tag.isProfile = false)
    (h' : tag'.isProfile = false) (heq : tag.shownText ip = tag'.shownText ip) : tag = tag' := by
  have hne : ∀ num : BitVec 8, Text.dec num.toNat ++ Text.lit " = " ≠ [] := fun num hnil =>
    Text.dec_ne_nil _ (List.append_eq_nil_iff.1 hnil).1
  cases tag with
  | anonymous =>
    cases tag' with
    | anonymous => rfl
    | context num => exact absurd heq.symm (hne num)
    | _ => cases h'
  | context num =>
    cases tag' with
    | anonymous => exact absurd heq (hne num)
    | context num' =>
      have hdec : Text.dec num.toNat = Text.dec num'.toNat := List.append_cancel_right heq
      rw [BitVec.eq_of_toNat_eq (Text.dec_injective hdec)]
    | _ => cases h'
  | _ => cases h

theorem Elem.All.tag {tagOk : Tag → Prop} {primOk : Tag → Prim → Prop} {e : Elem}
    (h : e.All tagOk primOk) (hprim : ∀ tag p, primOk tag p → tagOk tag) : tagOk e.tag := by
  cases e with
  | prim tag p =>
    rw [Elem.All] at h
    exact hprim tag p h
  | container tag kind members =>
    rw [Elem.All] at h
    exact h.1

/-- What `AddGenericTLVItem` shows of a tree is what the reference shows, and members that differ
only in their tags are told apart, exactly if no element has a profile tag, and no string a
terminator in its middle. -/
theorem genericRendering_iff (hhost : host.EscapesStrings)
    (h : OnElem data ip containerType e rest s)
    (hrun : (addGenericTLVItem host node hfindex false).run s = .ok () s') :
    FaithfulRendering host node hfindex data ip e s s' ↔ e.Renderable := by
  have hall : (addGenericTLVItemTo host node hfindex (s.tlv.reader.unread + 1) false false
      0).run s = .ok () s' := hrun
  have hlines : newLines s s' = e.lines (Tag.shownText ip) (Prim.shownText host) 0 :=
    newLines_addGenericTLVItemTo h (.inr rfl) hall
  constructor
  · intro hfaithful
    rw [← lines_eq_prettyLines_iff hhost, ← hlines]
    exact hfaithful.lines_eq
  · intro hrenderable
    refine ⟨hlines.trans ((lines_eq_prettyLines_iff hhost e 0).2 hrenderable), ?_⟩
    intro kind members hsiblings m hm tag hm' hne depth depth' indentLevel rest₁ rest₂ s₁ s₁' s₂
      s₂' h₁ h₂ hrun₁ hrun₂ heq
    rw [newLines_addGenericTLVItemTo h₁ (.inl rfl) hrun₁,
      newLines_addGenericTLVItemTo h₂ (.inl rfl) hrun₂] at heq
    have htag : ∀ m ∈ members, m.tag.isProfile = false := fun m hm =>
      (hsiblings.all hrenderable m hm).tag fun _ _ => And.left
    have hwith : (m.withTag tag).tag = tag := by cases m <;> rfl
    have hsame := Tag.eq_of_shownText (htag m hm) (hwith ▸ htag _ hm')
      (Elem.tagText_eq_of_lines heq)
    exact hne (congrArg _ hsame.symm)

end

/-! ## Examples of trees -/

/-- A byte of an escaped string. -/
def escapeByte (b : UInt8) : Text :=
  if b = 0 then [92, 48] else if b = 34 ∨ b = 92 then [92, b] else [b]

/-- A host that quotes strings and shows no number. -/
def quotingHost : Host where
  uninit _ := 0
  wsEscapeString t := 34 :: (t.flatMap escapeByte ++ [34])
  formatG _ := []
  formatG17 _ := []

theorem escapeByte_append_inj {b c : UInt8} {t u : Text}
    (h : escapeByte b ++ t = escapeByte c ++ u) : b = c ∧ t = u := by
  unfold escapeByte at h
  split at h <;> split at h <;> grind

theorem escapeByte_ne_nil (b : UInt8) : escapeByte b ≠ [] := by
  unfold escapeByte
  split
  · exact List.cons_ne_nil _ _
  · split <;> exact List.cons_ne_nil _ _

theorem flatMap_escapeByte_inj :
    ∀ {t u : Text}, t.flatMap escapeByte = u.flatMap escapeByte → t = u
  | [], [], _ => rfl
  | [], c :: u, h => absurd (List.append_eq_nil_iff.1 h.symm).1 (escapeByte_ne_nil c)
  | b :: t, [], h => absurd (List.append_eq_nil_iff.1 h).1 (escapeByte_ne_nil b)
  | b :: t, c :: u, h => by
    rw [List.flatMap_cons, List.flatMap_cons] at h
    obtain ⟨rfl, hrest⟩ := escapeByte_append_inj h
    rw [flatMap_escapeByte_inj hrest]

theorem quotingHost_escapesStrings : quotingHost.EscapesStrings where
  injective := fun t u h =>
    flatMap_escapeByte_inj (List.append_cancel_right (List.cons.inj h).2)
  noTerminator := fun t h => by
    rcases List.mem_cons.1 h with h | h
    · cases h
    rcases List.mem_append.1 h with h | h
    · obtain ⟨b, -, hb⟩ := List.mem_flatMap.1 h
      unfold escapeByte at hb
      grind
    · simp at h

/-- A structure with the member `0 = 7`. -/
def plainTree : Elem :=
  .container .anonymous .struct [.prim (.context 0) (.uint .one 7)]

/-- A structure whose members have the common profile tags 5 and 6. -/
def profileTree : Elem :=
  .container .anonymous .struct
    [.prim (.common2 5) (.uint .one 7), .prim (.common2 6) (.uint .one 7)]

/-- The renderer on a structure at the start of a buffer, with a null behind it. -/
theorem exists_rendering {kind : ContainerKind} {members : List Elem} {e : Elem} {data : List UInt8}
    (he : e = .container .anonymous kind members)
    (hwf : e.wellFormed profileIdNotSpecified .notSpecified = true)
    (hdata : data = e.encode ++ [0x14]) (hlen : data.length < 2 ^ 32) :
    ∃ s s', next.run (.start (.init data data.length 0)) = .ok () s ∧
      OnElem data profileIdNotSpecified .notSpecified e [0x14] s ∧
      (addGenericTLVItem quotingHost .messageTree .imCommonField false).run s = .ok () s' := by
  obtain ⟨s, hnext, h⟩ := onElem_first hwf hdata hlen
  have hsome : ¬ NothingAppended false false 0 s.tlv.reader := by
    rintro ⟨-, hbytes, -⟩
    rw [h.type_eq, he] at hbytes
    cases kind <;> cases hbytes
  have hdoes : Does False False data _ s (some ()) :=
    addGenericTLVItem_does quotingHost .messageTree .imCommonField h (by decide) hsome
  obtain ⟨s', hrun, -⟩ := hdoes.some_run
  exact ⟨s, s', hnext, h, hrun⟩

theorem genericRendering_iff_plainTree :
    ∃ s s', FaithfulRendering quotingHost .messageTree .imCommonField (plainTree.encode ++ [0x14])
      profileIdNotSpecified plainTree s s' ↔ plainTree.Renderable := by
  obtain ⟨s, s', -, h, hrun⟩ := @exists_rendering .struct _ plainTree _ rfl (by decide) rfl
    (by decide)
  exact ⟨s, s', genericRendering_iff quotingHost_escapesStrings h hrun⟩

/-- The members of `15 44 05 00 07 44 06 00 07 18` are both shown as `00000000:d = 7`. -/
theorem profileTree_not_faithful :
    ∃ s s', next.run (.start (.init [0x15, 0x44, 0x05, 0x00, 0x07, 0x44, 0x06, 0x00, 0x07, 0x18,
        0x14] 11 0)) = .ok () s ∧
      OnElem [0x15, 0x44, 0x05, 0x00, 0x07, 0x44, 0x06, 0x00, 0x07, 0x18, 0x14]
        profileIdNotSpecified .notSpecified profileTree [0x14] s ∧
      (addGenericTLVItem quotingHost .messageTree .imCommonField false).run s = .ok () s' ∧
      ¬ FaithfulRendering quotingHost .messageTree .imCommonField
        [0x15, 0x44, 0x05, 0x00, 0x07, 0x44, 0x06, 0x00, 0x07, 0x18, 0x14]
        profileIdNotSpecified profileTree s s' := by
  obtain ⟨s, s', hnext, h, hrun⟩ := @exists_rendering .struct _ profileTree
    [0x15, 0x44, 0x05, 0x00, 0x07, 0x44, 0x06, 0x00, 0x07, 0x18, 0x14] rfl (by decide)
    (by decide) (by decide)
  refine ⟨s, s', hnext, h, hrun, fun hfaithful => ?_⟩
  have hall : (addGenericTLVItemTo quotingHost .messageTree .imCommonField
      (s.tlv.reader.unread + 1) false false 0).run s = .ok () s' := hrun
  have hlines := (newLines_addGenericTLVItemTo h (.inr rfl) hall).symm.trans hfaithful.lines_eq
  have hrenderable := (lines_eq_prettyLines_iff quotingHost_escapesStrings profileTree 0).1 hlines
  rw [Elem.Renderable, profileTree, Elem.All, AllMembers, Elem.All] at hrenderable
  exact absurd hrenderable.2.1.1 (by decide)

end Matter.TLV
