import MatterDissector.TLV.Proof.Generic

/-!
# Handlers on encoded elements

`OnElem`: a dissector on an element of a well-formed tree. `Does`: a handler returns a value there
and is balanced, or does not return; where it `may` it returns after a retry instead, and where it
can `crash` it faults. Over the members of a container these values are the fold of what the
handler does on each (`container_does`), so a handler that is put together from others is known on
every tree. `addGenericTLVItem_does`: the generic renderer shows all of them.
-/

namespace Matter.TLV

open Prog Dissect Display
open TLVReader (InBounds)

def Elem.type : Elem → TLVType
  | .prim _ p => p.type
  | .container _ kind _ => kind.type

/-- On an element of a well-formed tree, with `rest` behind it. -/
structure OnElem (data : List UInt8) (ip : Nat) (containerType : TLVType) (e : Elem)
    (rest : List UInt8) (s : DissectState) : Prop where
  positioned : Positioned data ip containerType e rest s.tlv.reader
  wellFormed : e.wellFormed ip containerType = true

section
variable {α β γ : Type} {data rest : List UInt8} {ip : Nat} {containerType : TLVType} {e : Elem}
  {s s' s₁ : DissectState} {may crash : Prop}

theorem OnElem.inBounds (h : OnElem data ip containerType e rest s) :
    InBounds data s.tlv.reader := h.positioned.at_body.inBounds

theorem OnElem.focused (h : OnElem data ip containerType e rest s) : Focused data s.tlv := by
  obtain ⟨t, hskip, -⟩ := h.positioned.skip_ok h.wellFormed
  exact ⟨h.inBounds, t, hskip⟩

theorem OnElem.congr (h : OnElem data ip containerType e rest s) (htlv : s'.tlv = s.tlv) :
    OnElem data ip containerType e rest s' := ⟨htlv ▸ h.positioned, h.wellFormed⟩

theorem OnElem.type_eq (h : OnElem data ip containerType e rest s) :
    s.tlv.reader.getType = e.type := by
  rw [getType_eq, h.positioned.elementType_eq]
  cases e with
  | prim tag p => exact p.typeOf_eq
  | container tag kind members => exact kind.typeOf_eq

theorem OnElem.type_ne (h : OnElem data ip containerType e rest s) :
    s.tlv.reader.getType ≠ .notSpecified := by
  rw [h.type_eq]
  cases e with
  | prim tag p => cases p <;> exact fun he => by cases he
  | container tag kind members => cases kind <;> exact fun he => by cases he

theorem OnElem.tag_eq (h : OnElem data ip containerType e rest s) :
    s.tlv.reader.getTag = e.tag.value ip := h.positioned.elemTag_eq

theorem OnElem.isContextTag_eq (h : OnElem data ip containerType e rest s) :
    isContextTag s.tlv.reader.getTag = e.tag.isContext := by
  rw [h.tag_eq]
  exact Tag.isContextTag_value h.positioned.at_body.implicitProfileId_lt
    (Elem.wellFormed_tag h.wellFormed).2

/-- Inside a structure or a list every element has a tag that is shown. -/
theorem OnElem.shown (h : OnElem data ip containerType e rest s)
    (hcontainer : containerType = .struct ∨ containerType = .path) :
    ¬ NothingAppended false false 0 s.tlv.reader := by
  obtain ⟨hallowed, hprofile⟩ := Elem.wellFormed_tag h.wellFormed
  have hip := h.positioned.at_body.implicitProfileId_lt
  rintro ⟨⟨-, hnone⟩, -⟩
  obtain ⟨hcontext, hnoprofile⟩ := hnone.resolve_left fun he => by cases he
  rw [h.tag_eq] at hcontext hnoprofile
  rcases Tag.value_cases hip hprofile with htag | ⟨num, htag, -⟩ | ⟨-, -, hlt, hne⟩
  · rw [htag] at hallowed
    rcases hcontainer with rfl | rfl <;> cases hallowed
  · rw [Tag.isContextTag_value hip hprofile, htag] at hcontext
    cases hcontext
  · rw [isProfileTag, and_profileIdMask hlt, bne_eq_false_iff_eq] at hnoprofile
    have hmark : specialTagMarker = 0xFFFFFFFF * 2 ^ 32 := by decide
    omega

/-! ## What a handler does -/

/-- At `s`, `x` returns `a` and is balanced, or it does not return; that a `crash` comes first or
that it returns after a retry is left open where there `may` be one. -/
def Does (may crash : Prop) (data : List UInt8) (x : DissectM α) (s : DissectState) :
    Option α → Prop
  | some a => (∃ s', x.run s = .ok a s' ∧ s'.retried = s.retried ∧ Balanced data s.tlv s'.tlv) ∨
      (crash ∧ ∃ f, x.run s = .fault f)
  | none => ∀ a s', x.run s = .ok a s' → may ∧ s.retried < s'.retried

theorem Does.of_ok {x : DissectM α} {a : α} (hrun : x.run s = .ok a s')
    (hretried : s'.retried = s.retried) (hbal : Balanced data s.tlv s'.tlv) :
    Does may crash data x s (some a) := .inl ⟨s', hrun, hretried, hbal⟩

theorem Does.pure (hs : Focused data s.tlv) (a : α) :
    Does may crash data (Pure.pure a : DissectM α) s (some a) := .of_ok rfl rfl hs.balanced

theorem Does.of_err {x : DissectM α} {e : MatterError} (h : x.run s = .err e s') :
    Does may crash data x s none := fun a s₁ hok => by rw [h] at hok; cases hok

theorem Does.mono {may' crash' : Prop} {x : DissectM α} {o : Option α}
    (h : Does may crash data x s o) (hmay : may → may') (hcrash : crash → crash') :
    Does may' crash' data x s o := by
  cases o with
  | some a => exact h.imp id (And.imp_left hcrash)
  | none => exact fun a s' hok => (h a s' hok).imp_left hmay

/-- Where neither a crash nor a retry is allowed for. -/
theorem Does.some_run {x : DissectM α} {a : α} (h : Does may False data x s (some a)) :
    ∃ s', x.run s = .ok a s' ∧ s'.retried = s.retried ∧ Balanced data s.tlv s'.tlv :=
  h.resolve_right fun hcrash => hcrash.1

theorem Does.none_run {x : DissectM α} (h : Does False crash data x s none) (a : α)
    (s' : DissectState) : x.run s ≠ .ok a s' := fun hok => (h a s' hok).1

theorem Does.congr {x y : DissectM α} {o : Option α} (h : Does may crash data x s₁ o)
    (hrun : y.run s = x.run s₁) (htlv : s₁.tlv = s.tlv) (hretried : s₁.retried = s.retried) :
    Does may crash data y s o := by
  cases o with
  | some a =>
    rcases h with ⟨s', hok, heq, hbal⟩ | ⟨hcrash, f, hfault⟩
    · exact .of_ok (hrun.trans hok) (heq.trans hretried) (htlv ▸ hbal)
    · exact .inr ⟨hcrash, f, hrun.trans hfault⟩
  | none =>
    intro a s' hok
    rw [← hretried]
    exact h a s' (hrun.symm.trans hok)

/-- What follows a step that is known to return. -/
theorem Does.bind_run {x : DissectM α} {k : α → DissectM β} {a : α} {o : Option β}
    (hrun : x.run s = .ok a s₁) (hretried : s₁.retried = s.retried)
    (hbal : Balanced data s.tlv s₁.tlv) (hk : Does may crash data (k a) s₁ o) :
    Does may crash data (x >>= k) s o := by
  have hseq : (x >>= k).run s = (k a).run s₁ := bind_ok hrun
  cases o with
  | some b =>
    rcases hk with ⟨s', hrun', hretried', hbal'⟩ | ⟨hcrash, f, hfault⟩
    · exact .of_ok (hseq.trans hrun') (hretried'.trans hretried) (hbal.trans hbal')
    · exact .inr ⟨hcrash, f, hseq.trans hfault⟩
  | none =>
    intro b s' hok
    rw [← hretried]
    exact hk b s' (hseq.symm.trans hok)

theorem Still.does {x : DissectM α} (hx : Still x) {a : α} (hs : Focused data s.tlv)
    (hrun : x.run s = .ok a s₁) : Does may crash data x s (some a) := by
  refine .of_ok hrun (hx.ok hrun).2 ?_
  rw [(hx.ok hrun).1]
  exact hs.balanced

/-- A handler without fallbacks that is known to return. -/
theorem Handles.does {x : DissectM α} {a : α} (hx : Handles False x) (hs : Focused data s.tlv)
    (hrun : x.run s = .ok a s') : Does may crash data x s (some a) := by
  obtain ⟨hretried, hbal⟩ := (hx.onTrack hs hrun).resolve_right fun hoff => hoff.1
  exact .of_ok hrun hretried hbal

/-- A handler without fallbacks that does not fail. -/
theorem Handles.does_unit {x : DissectM Unit} (hx : Handles False x) (hs : Focused data s.tlv)
    (hfails : ∀ err s', x.run s ≠ .err err s') : Does may True data x s (some ()) := by
  cases hrun : x.run s with
  | ok u s' => exact hx.does hs hrun
  | err err s' => exact absurd hrun (hfails err s')
  | fault f => exact .inr ⟨trivial, f, hrun⟩

theorem Does.ite {c : Prop} [Decidable c] {x y : DissectM α} {o : Option α}
    (hx : c → Does may crash data x s o) (hy : ¬ c → Does may crash data y s o) :
    Does may crash data (if c then x else y) s o := by
  split
  · rename_i hc
    exact hx hc
  · rename_i hc
    exact hy hc

/-- `a`, if `ok`. -/
def guarded (ok : Bool) (a : α) : Option α := if ok = true then some a else none

@[simp] theorem guarded_true (a : α) : guarded true a = some a := rfl

@[simp] theorem guarded_false (a : α) : guarded false a = none := rfl

theorem guarded_and (ok ok' : Bool) (a : α) :
    guarded (ok && ok') a = if ok = true then guarded ok' a else none := by
  cases ok <;> rfl

/-- What follows a test. -/
theorem Does.verify_bind {b : Bool} {err : MatterError} {k : Unit → DissectM α} {o : Option α}
    (hk : b = true → Does may crash data (k ()) s o) :
    Does may crash data (verify b err >>= k) s (if b = true then o else none) := by
  cases b with
  | true => exact hk rfl
  | false => exact Does.of_err (bind_err (run_verify_false err s))

/-- What follows a handler. One that has returned after a retry goes on. -/
theorem Does.bind {x : DissectM α} {k : α → DissectM β} {o : Option α} {g : α → Option β}
    (hx : Does may crash data x s o) (hgrows : may → ∀ a, Grows DissectState.retried (k a))
    (hk : ∀ a s₁, o = some a → Balanced data s.tlv s₁.tlv →
      Does may crash data (k a) s₁ (g a)) :
    Does may crash data (x >>= k) s (o.bind g) := by
  cases o with
  | none =>
    intro b s' hok
    obtain ⟨a, s₁, hrun, hrun'⟩ := bind_eq_ok.1 hok
    obtain ⟨hmay, hlt⟩ := hx a s₁ hrun
    exact ⟨hmay, Nat.lt_of_lt_of_le hlt ((hgrows hmay a).ok hrun')⟩
  | some a =>
    rcases hx with ⟨s₁, hrun, hretried, hbal⟩ | ⟨hcrash, f, hfault⟩
    · exact Does.bind_run hrun hretried hbal (hk a s₁ rfl hbal)
    · have hseq : (x >>= k).run s = .fault f := by rw [run_bind, hfault]
      show Does may crash data (x >>= k) s (g a)
      cases hg : g a with
      | some b => exact .inr ⟨hcrash, f, hseq⟩
      | none =>
        intro b s' hok
        rw [hseq] at hok
        cases hok

/-- What is shown behind a handler. -/
theorem Does.shows {x : DissectM α} {k : α → DissectM β} {o : Option α} {g : α → β}
    (hx : Does may crash data x s o) (hstill : ∀ a, Still (k a))
    (hk : ∀ a s₁, ∃ s', (k a).run s₁ = .ok (g a) s') :
    Does may crash data (x >>= k) s (o.map g) := by
  have hdoes := hx.bind (g := fun a => some (g a)) (fun _ a => (hstill a).grows_retried)
    fun a s₁ _ hbal => by
      obtain ⟨s', hrun⟩ := hk a s₁
      exact (hstill a).does hbal.focused hrun
  cases o with
  | some a => exact hdoes
  | none => exact hdoes

theorem guarded_map (ok : Bool) (a : α) (g : α → β) :
    (guarded ok a).map g = guarded ok (g a) := by
  cases ok <;> rfl

/-- A handler whose value is not asked for. -/
theorem Does.returning {x : DissectM α} {ok : Bool} {a : α}
    (hx : Does may crash data x s (guarded ok a)) (b : β) :
    Does may crash data (x >>= fun _ => Pure.pure b) s (guarded ok b) := by
  have hdoes := hx.shows (g := fun _ => b) (fun _ => Leaves.pure b) fun _ s₁ => ⟨s₁, rfl⟩
  rwa [guarded_map] at hdoes

theorem Does.some_returning {x : DissectM α} {a : α} (hx : Does may crash data x s (some a))
    (b : β) : Does may crash data (x >>= fun _ => Pure.pure b) s (some b) := by
  have hdoes : Does may crash data x s (guarded true a) := hx
  exact hdoes.returning b

/-! ## Among members -/

/-- Inside the container `d₀`, in front of `bytes`. -/
structure Before (data : List UInt8) (ip : Nat) (containerType : TLVType) (d₀ : TLVDissector)
    (bytes : List UInt8) (d : TLVDissector) : Prop where
  inside : Inside data d₀ d
  ready : Ready data ip containerType bytes d.reader

variable {d₀ d d' : TLVDissector}

/-- `Next` in front of an element. -/
theorem next_positioned (h : Ready data ip containerType (e.encode ++ rest) d.reader)
    (hwf : e.wellFormed ip containerType = true) :
    ∃ d', TLVDissector.next.run d = .ok () d' ∧
      Positioned data ip containerType e rest d'.reader := by
  obtain ⟨t, hskip, hat, hclear⟩ := h
  obtain ⟨r, hnext, hpos⟩ := (hat.ready hclear).next_elem hwf
  obtain ⟨c, hcopy, -⟩ := hpos.skip_ok hwf
  exact ⟨_, nextBy_eq_ok.2 ⟨t, r, c, hskip, hnext, hcopy, rfl⟩, hpos⟩

theorem At.lenRead_add {ip : Nat} {r : TLVReader} {bytes : List UInt8}
    (h : At data ip containerType bytes r) :
    r.lenRead + bytes.length = data.length := by
  have hunread := h.unread_eq
  have heq := h.inBounds.unread_eq
  have hread := h.inBounds.readPoint_eq
  have hle := h.inBounds.readPoint_le
  omega

/-- `Next` measures the range of the element. -/
theorem next_measured {ip : Nat} {d d' : TLVDissector}
    (h : Ready data ip containerType (e.encode ++ rest) d.reader)
    (hwf : e.wellFormed ip containerType = true) (hnext : TLVDissector.next.run d = .ok () d')
    (hpos : Positioned data ip containerType e rest d'.reader) :
    d'.elemStart + (e.encode.length + rest.length) = data.length ∧
      d'.elemLen = e.encode.length ∧ d'.sourceBufBaseOffset = d.sourceBufBaseOffset := by
  obtain ⟨t, r, c, hskip, -, hcopy, rfl⟩ := nextBy_eq_ok.1 hnext
  obtain ⟨t', hskip', hat, -⟩ := h
  cases hskip.symm.trans hskip'
  obtain ⟨c', hcopy', hbehind, -⟩ := hpos.skip_ok hwf
  cases hcopy.symm.trans hcopy'
  have hstart := hat.lenRead_add
  have hend := hbehind.lenRead_add
  have hlen := hat.inBounds.length_lt
  rw [List.length_append] at hstart
  refine ⟨hstart, ?_, rfl⟩
  show sub32 c.lenRead t.lenRead = e.encode.length
  unfold sub32
  omega

/-- `Next` leads to the first element of a buffer. -/
theorem onElem_first (hwf : e.wellFormed profileIdNotSpecified .notSpecified = true)
    (hdata : data = e.encode ++ rest) (hlen : data.length < 2 ^ 32) :
    ∃ s, next.run (.start (.init data data.length 0)) = .ok () s ∧
      OnElem data profileIdNotSpecified .notSpecified e rest s := by
  have hat : At data profileIdNotSpecified .notSpecified (e.encode ++ rest)
      (TLVReader.init data data.length) :=
    ⟨InBounds.init hlen, rfl, by decide, rfl, hdata⟩
  obtain ⟨d, hnext, hpos⟩ :=
    @next_positioned _ _ _ _ _ (.init data data.length 0) (hat.ready (if_pos rfl)) hwf
  exact ⟨_, onTlv_eq_ok.2 ⟨d, hnext, rfl⟩, hpos, hwf⟩

/-- `Next` in front of a member. -/
theorem Before.next_elem (h : Before data ip containerType d₀ (e.encode ++ rest) d)
    (hwf : e.wellFormed ip containerType = true) :
    ∃ d', TLVDissector.next.run d = .ok () d' ∧ Inside data d₀ d' ∧
      Positioned data ip containerType e rest d'.reader := by
  obtain ⟨d', hnext, hpos⟩ := next_positioned h.ready hwf
  exact ⟨d', hnext, h.inside.next hnext, hpos⟩

/-- `Next` in front of the end. -/
theorem Before.next_end (h : Before data ip containerType d₀ (endOfContainer ++ rest) d)
    (hcontainer : containerType ≠ .notSpecified) :
    ∃ d', TLVDissector.next.run d = .err .endOfTLV d' := by
  obtain ⟨t, hskip, hat, hclear⟩ := h.ready
  obtain ⟨r, hnext, -⟩ := (hat.ready hclear).next_end hcontainer
  refine ⟨{ marked d t with reader := r }, ?_⟩
  rw [show TLVDissector.next = TLVDissector.nextBy TLVReader.next from rfl, nextBy_run hskip]
  exact bind_err (onReader_eq_err.2 ⟨r, hnext, rfl⟩)

/-- Behind a member that has been handled. -/
theorem Before.behind (h : Inside data d₀ d) (hpos : Positioned data ip containerType e rest d.reader)
    (hwf : e.wellFormed ip containerType = true) (hbal : Balanced data d d') :
    Before data ip containerType d₀ rest d' := by
  refine ⟨h.balanced hbal, ?_⟩
  obtain ⟨t, hskip, hat, hclear⟩ := hpos.skip_ok hwf
  obtain ⟨t', ht, ht'⟩ := hbal.skip_eq
  cases hskip.symm.trans ht
  exact ⟨t, ht', hat, hclear⟩

theorem length_le_encodeMembers : ∀ es : List Elem, es.length ≤ (encodeMembers es).length
  | [] => Nat.zero_le _
  | e :: es => by
    have := length_le_encodeMembers es
    have := e.encode_length_pos
    rw [encodeMembers_cons, List.length_append, List.length_cons]
    omega

/-- Behind `EnterContainer`. -/
theorem OnElem.entered {tag : Tag} {kind : ContainerKind} {members : List Elem}
    (h : OnElem data ip containerType (.container tag kind members) rest s) :
    ∃ d₀, TLVDissector.enterContainer.run s.tlv = .ok () d₀ ∧
      Before data ip kind.type d₀ (encodeMembers members ++ (endOfContainer ++ rest)) d₀ ∧
      membersWellFormed ip kind.type members = true ∧ kind.type ≠ .notSpecified ∧
      members.length ≤ d₀.reader.unread := by
  obtain ⟨-, hcont, -, -, -, hbase⟩ := kind.elemType_spec
  have htype : tlvTypeIsContainer s.tlv.reader.elementType = true := by
    rw [h.positioned.elementType_eq]
    exact hcont
  have hmembers : membersWellFormed ip kind.type members = true := by
    have hwf := h.wellFormed
    rw [Elem.wellFormed, Bool.and_eq_true] at hwf
    exact hwf.2
  obtain ⟨r, henter, hclear, hat⟩ := h.positioned.enter_ok
  obtain ⟨-, -, rfl⟩ := enterContainer_eq_ok.1 henter
  refine ⟨_, enterContainer_tlv_eq_ok.2 ⟨htype, rfl⟩, ⟨?_, hat.ready hclear⟩, hmembers, hbase, ?_⟩
  · exact .start hat.inBounds hclear
  · have hlen := length_le_encodeMembers members
    have hunread := hat.unread_eq
    rw [List.length_append] at hunread
    exact hunread ▸ Nat.le_trans hlen (Nat.le_add_right _ _)

/-- A loop over members: its round does `body` on a member, which does what `f` says, and ends the
loop with `last` where `Next` finds no member. -/
structure RoundDoes (may crash : Prop) (data : List UInt8) (ip : Nat) (containerType : TLVType)
    (es : List Elem) (round : β → DissectM (β ⊕ γ)) (body : β → DissectM β)
    (f : β → Elem → Option β) (last : β → γ) : Prop where
  member : ∀ b, ∀ e ∈ es, ∀ {rest s s₁}, rest ≠ [] → next.run s = .ok () s₁ →
    OnElem data ip containerType e rest s₁ →
    (round b).run s = (Sum.inl <$> body b : DissectM (β ⊕ γ)).run s₁ ∧
      Does may crash data (body b) s₁ (f b e)
  ending : ∀ b {s s'}, next.run s = .err .endOfTLV s' → (round b).run s = .ok (.inr (last b)) s'
  grows : may → ∀ b, Grows DissectState.retried (round b)

theorem RoundDoes.tail {es : List Elem} {round : β → DissectM (β ⊕ γ)} {body : β → DissectM β}
    {f : β → Elem → Option β} {last : β → γ}
    (h : RoundDoes may crash data ip containerType (e :: es) round body f last) :
    RoundDoes may crash data ip containerType es round body f last :=
  ⟨fun b e he => h.member b e (.tail _ he), h.ending, h.grows⟩

/-- What a loop over members does that is to end with `last b'`, or not to end. -/
def LoopDoes (may crash : Prop) (data : List UInt8) (d₀ : TLVDissector) (last : β → γ)
    (x : DissectM γ) (s : DissectState) : Option β → Prop
  | some b' => (∃ d s', x.run s = .ok (last b') s' ∧ s'.retried = s.retried ∧ Inside data d₀ d ∧
      TLVDissector.next.run d = .err .endOfTLV s'.tlv) ∨ (crash ∧ ∃ f, x.run s = .fault f)
  | none => ∀ c s', x.run s = .ok c s' → may ∧ s.retried < s'.retried

theorem LoopDoes.congr {last : β → γ} {x y : DissectM γ} {o : Option β}
    (h : LoopDoes may crash data d₀ last x s₁ o) (hrun : y.run s = x.run s₁)
    (hretried : s₁.retried = s.retried) : LoopDoes may crash data d₀ last y s o := by
  cases o with
  | some b' =>
    rcases h with ⟨d, s', hok, heq, hend⟩ | ⟨hcrash, f, hfault⟩
    · exact .inl ⟨d, s', hrun.trans hok, heq.trans hretried, hend⟩
    · exact .inr ⟨hcrash, f, hrun.trans hfault⟩
  | none =>
    intro c s' hok
    rw [← hretried]
    exact h c s' (hrun.symm.trans hok)

theorem LoopDoes.mono_crash {crash' : Prop} {last : β → γ} {x : DissectM γ} {o : Option β}
    (h : LoopDoes may crash data d₀ last x s o) (hcrash : crash → crash') :
    LoopDoes may crash' data d₀ last x s o := by
  cases o with
  | some b' => exact h.imp id (And.imp_left hcrash)
  | none => exact h

theorem LoopDoes.of_fault {last : β → γ} {x : DissectM γ} {f : Fault} (hcrash : crash)
    (h : x.run s = .fault f) : ∀ o : Option β, LoopDoes may crash data d₀ last x s o
  | some _ => .inr ⟨hcrash, f, h⟩
  | none => fun c s' hok => by rw [h] at hok; cases hok

/-- A loop over members folds what its rounds do: by induction on the members, each of which takes
one round. -/
theorem loop_members {round : β → DissectM (β ⊕ γ)} {body : β → DissectM β}
    {f : β → Elem → Option β} {last : β → γ} (hcontainer : containerType ≠ .notSpecified) :
    ∀ (es : List Elem) (fuel : Nat) (b : β) (s : DissectState),
      RoundDoes may crash data ip containerType es round body f last →
      Before data ip containerType d₀ (encodeMembers es ++ (endOfContainer ++ rest)) s.tlv →
      membersWellFormed ip containerType es = true → es.length < fuel →
      LoopDoes may crash data d₀ last (loop .outOfFuel round fuel b) s (es.foldlM f b)
  | [], fuel, b, s, hround, hbefore, _, hfuel => by
    obtain ⟨fuel, rfl⟩ : ∃ n, fuel = n + 1 := ⟨fuel - 1, by omega⟩
    rw [encodeMembers_nil, List.nil_append] at hbefore
    obtain ⟨d', hend⟩ := hbefore.next_end hcontainer
    have hnext : next.run s = .err .endOfTLV { s with tlv := d' } := onTlv_eq_err.2 ⟨d', hend, rfl⟩
    refine .inl ⟨s.tlv, { s with tlv := d' }, ?_, rfl, hbefore.inside, hend⟩
    rw [loop_succ, bind_ok (hround.ending b hnext), again_inr, run_pure]
  | e :: es, fuel, b, s, hround, hbefore, hwf, hfuel => by
    rw [List.length_cons] at hfuel
    obtain ⟨fuel, rfl⟩ : ∃ n, fuel = n + 1 := ⟨fuel - 1, by omega⟩
    rw [encodeMembers_cons, List.append_assoc] at hbefore
    rw [membersWellFormed, Bool.and_eq_true] at hwf
    obtain ⟨d', hd', hinside, hpos⟩ := hbefore.next_elem hwf.1
    have hnext : next.run s = .ok () { s with tlv := d' } := onTlv_eq_ok.2 ⟨d', hd', rfl⟩
    have hrest : encodeMembers es ++ (endOfContainer ++ rest) ≠ [] := by simp [endOfContainer]
    obtain ⟨hrun, hmember⟩ :=
      hround.member b e List.mem_cons_self hrest hnext ⟨hpos, hwf.1⟩
    rw [List.foldlM_cons]
    cases hfb : f b e with
    | none =>
      rw [hfb] at hmember
      intro c s' h
      rw [loop_succ, bind_eq_ok] at h
      obtain ⟨res, s₁, hrun₁, hagain⟩ := h
      rw [hrun] at hrun₁
      obtain ⟨b', s₂, hbody, hinl⟩ := bind_eq_ok.1 hrun₁
      cases hinl
      obtain ⟨hmay, hlt⟩ := hmember b' s₁ hbody
      have hle := (Grows.loop (hround.grows hmay) fuel b').ok hagain
      exact ⟨hmay, Nat.lt_of_lt_of_le hlt hle⟩
    | some b' =>
      rw [hfb] at hmember
      rcases hmember with ⟨s₁, hbody, hretried, hbal⟩ | ⟨hcrash, err, hfault⟩
      · have hstep : (loop .outOfFuel round (fuel + 1) b).run s =
            (loop .outOfFuel round fuel b').run s₁ := by
          rw [loop_succ, bind_ok (hrun.trans (map_ok hbody)), again_inl]
        have hbehind : Before data ip containerType d₀ _ s₁.tlv :=
          .behind hinside hpos hwf.1 hbal
        have hlen : es.length < fuel := by omega
        exact (loop_members hcontainer es fuel b' s₁ hround.tail hbehind hwf.2 hlen).congr hstep
          hretried
      · refine .of_fault (f := err) hcrash ?_ _
        rw [loop_succ, bind_fault (hrun.trans (bind_fault hfault))]

/-! ## Containers -/

/-- `body` does what `f` says on every element of `es` that has something behind it. -/
def BodyDoes (may crash : Prop) (data : List UInt8) (ip : Nat) (containerType : TLVType)
    (es : List Elem) (body : β → DissectM β) (f : β → Elem → Option β) : Prop :=
  ∀ b, ∀ e ∈ es, ∀ rest s, rest ≠ [] → OnElem data ip containerType e rest s →
    Does may crash data (body b) s (f b e)

theorem roundDoes_forMembers {es : List Elem} {body : β → DissectM β} {f : β → Elem → Option β}
    (h : BodyDoes may crash data ip containerType es body f)
    (hgrows : may → ∀ b, Grows DissectState.retried (body b)) :
    RoundDoes may crash data ip containerType es
      (fun b => do memberRound body b (← attempt next)) body f id where
  member b e he {rest s s₁} hrest hnext hs :=
    ⟨bind_ok (attempt_ok hnext), h b e he rest s₁ hrest hs⟩
  ending b {s s'} hnext := by
    show (do memberRound body b (← attempt next) : DissectM (β ⊕ β)).run s = _
    rw [bind_ok (attempt_err hnext)]
    rfl
  grows hmay b := (grows_retried_onTlv _).attempt.bind (grows_memberRound (hgrows hmay) b)

/-- Entering an element, handling its members and leaving it folds what is done on each. -/
theorem members_does {tag : Tag} {kind : ContainerKind} {members : List Elem}
    {body : β → DissectM β} {f : β → Elem → Option β}
    (h : OnElem data ip containerType (.container tag kind members) rest s)
    (hbody : BodyDoes may crash data ip kind.type members body f)
    (hgrows : may → ∀ b, Grows DissectState.retried (body b)) (b₀ : β) :
    Does may crash data (do
      enterContainer
      let b ← forMembers body b₀
      exitContainer
      pure b) s (members.foldlM f b₀) := by
  obtain ⟨d₀, hd₀, hbefore, hwf, hcontainer, hlen⟩ := h.entered
  have henter : enterContainer.run s = .ok () { s with tlv := d₀ } := onTlv_eq_ok.2 ⟨d₀, hd₀, rfl⟩
  have hloop : LoopDoes may crash data d₀ id (forMembers body b₀) { s with tlv := d₀ }
      (members.foldlM f b₀) :=
    loop_members hcontainer members _ b₀ _ (roundDoes_forMembers hbody hgrows) hbefore hwf
      (Nat.lt_succ_of_le hlen)
  cases hfold : members.foldlM f b₀ with
  | none =>
    rw [hfold] at hloop
    intro b s' hrun
    rw [bind_ok henter] at hrun
    obtain ⟨b', s₁, hrun₁, hrun⟩ := bind_eq_ok.1 hrun
    obtain ⟨_, s₂, hexit, hpure⟩ := bind_eq_ok.1 hrun
    cases hpure
    obtain ⟨hmay, hlt⟩ := hloop _ s₁ hrun₁
    exact ⟨hmay, Nat.lt_of_lt_of_le hlt ((grows_retried_onTlv _).ok hexit)⟩
  | some b' =>
    rw [hfold] at hloop
    rcases hloop with ⟨d, s₁, hrun, hretried, hinside, hend⟩ | ⟨hcrash, f, hfault⟩
    · obtain ⟨d', hexit⟩ := hinside.exit_ok h.focused hd₀ hend
      have hexit' : exitContainer.run s₁ = .ok () { s₁ with tlv := d' } :=
        onTlv_eq_ok.2 ⟨d', hexit, rfl⟩
      refine .inl ⟨{ s₁ with tlv := d' }, ?_, hretried, hinside.closed hd₀ hend hexit⟩
      rw [bind_ok henter, bind_ok hrun, bind_ok hexit', run_pure]
      rfl
    · refine .inr ⟨hcrash, f, ?_⟩
      rw [bind_ok henter, bind_fault hfault]

/-- A fold over members all of which must be `ok`. -/
theorem foldlM_guarded {δ : Type} (ok : δ → Bool) (g : β → δ → β) (b : β) (es : List δ) :
    es.foldlM (fun b e => guarded (ok e) (g b e)) b = guarded (es.all ok) (es.foldl g b) := by
  induction es generalizing b with
  | nil => rfl
  | cons e es ih =>
    rw [List.foldlM_cons, List.all_cons, List.foldl_cons]
    cases ok e with
    | true => exact ih (g b e)
    | false => rfl

/-- The same with something to do behind the container. -/
theorem container_does {tag : Tag} {kind : ContainerKind} {members : List Elem}
    {body : β → DissectM β} {f : β → Elem → Option β} {k : β → DissectM α} {g : β → Option α}
    (h : OnElem data ip containerType (.container tag kind members) rest s)
    (hbody : BodyDoes may crash data ip kind.type members body f)
    (hgrows : may → ∀ b, Grows DissectState.retried (body b)) (b₀ : β)
    (hkgrows : may → ∀ b, Grows DissectState.retried (k b))
    (hk : ∀ b s', Balanced data s.tlv s'.tlv → Does may crash data (k b) s' (g b)) :
    Does may crash data (do
      enterContainer
      let b ← forMembers body b₀
      exitContainer
      k b) s ((members.foldlM f b₀).bind g) := by
  have hmembers := (members_does h hbody hgrows b₀).bind hkgrows
    fun b s' _ hbal => hk b s' hbal
  simpa only [bind_assoc, pure_bind] using hmembers

/-! ## The generic renderer -/

theorem neverFails_checked (x : Except Fault α) : NeverFails (checked x) := by
  intro s e s' h
  cases x <;> cases h

theorem onReader_ok {x : ReaderM α} {a : α} {r : TLVReader}
    (h : x.run s.tlv.reader = .ok a r) :
    (onReader x).run s = .ok a { s with tlv := { s.tlv with reader := r } } :=
  dissect_onReader_eq_ok.2 ⟨r, h, rfl⟩

theorem OnElem.dupString_ok {tag : Tag} {w : Width} {v : SizedBytes w}
    (h : OnElem data ip containerType (.prim tag (.utf8 w v)) rest s) :
    ∃ r, TLVReader.dupString.run s.tlv.reader = .ok v.bytes r := by
  obtain ⟨r, hrun, -⟩ := @Positioned.readString_ok _ _ _ _ _ _ _ h.positioned w.hasLength_eq.2.2.1
    (fun _ => false) (fun he => by cases he) h.wellFormed
  exact ⟨r, hrun⟩

/-- The bytes of a string that `GetDataPtr` can point at. -/
theorem OnElem.dataBytes_eq {tag : Tag} {w : Width} {v : SizedBytes w}
    (h : OnElem data ip containerType (.prim tag (.bytes w v)) rest s)
    (hend : s.tlv.reader.readPoint ≠ s.tlv.reader.bufEnd) : dataBytes.run s = .ok v.bytes s := by
  obtain ⟨r, hrun, -⟩ := @Positioned.readString_ok _ _ _ _ _ _ _ h.positioned w.hasLength_eq.2.2.2
    (fun _ => true) (fun _ => hend) h.wellFormed
  obtain ⟨p, r', hptr, hbytes⟩ := bind_eq_ok.1
    (show (TLVReader.getDataPtr >>= fun p => pure (((s.tlv.reader.data.drop p).take
      s.tlv.reader.getLength))).run s.tlv.reader = .ok v.bytes r from hrun)
  have hstay : r' = s.tlv.reader := leaves_getDataPtr.ok hptr
  rw [run_pure, Outcome.ok.injEq, h.inBounds.data_eq] at hbytes
  rw [dataBytes_run h.inBounds (hstay ▸ hptr), hbytes.1]

/-- With something behind it the element does not reach to the end. -/
theorem OnElem.readPoint_ne_bufEnd (h : OnElem data ip containerType e rest s)
    (hrest : rest ≠ []) : s.tlv.reader.readPoint ≠ s.tlv.reader.bufEnd := by
  have hunread := h.positioned.at_body.unread_eq
  have hpos := List.length_pos_iff.2 hrest
  rw [List.length_append] at hunread
  intro he
  have := h.inBounds.atEnd_iff.1 he
  omega

theorem OnElem.dataBytes_ok {tag : Tag} {w : Width} {v : SizedBytes w}
    (h : OnElem data ip containerType (.prim tag (.bytes w v)) rest s) (hrest : rest ≠ []) :
    ∃ bytes, dataBytes.run s = .ok bytes s :=
  ⟨_, h.dataBytes_eq (h.readPoint_ne_bufEnd hrest)⟩

/-- There are more bytes than containers nest deep. -/
theorem OnElem.body_length_lt (h : OnElem data ip containerType e rest s) :
    e.body.length < s.tlv.reader.unread + 1 := by
  have hunread := h.positioned.at_body.unread_eq
  rw [List.length_append] at hunread
  omega

section
variable (host : Host)

theorem neverFails_append (text : Text) (strBuf : StrBuf) : NeverFails (append host text strBuf) :=
  neverFails_checked _

/-- Every value can be appended. -/
theorem OnElem.appendValue_ne_err (h : OnElem data ip containerType e rest s) (hrest : rest ≠ [])
    (strBuf : StrBuf) (err : MatterError) (s' : DissectState) :
    (appendValue host strBuf s.tlv.reader.getType).run s ≠ .err err s' := by
  rw [h.type_eq]
  have hread : ∀ {δ : Type} {x : DissectM δ} {a : δ} {s₁ : DissectState} (text : δ → Text),
      x.run s = .ok a s₁ → (do append host (text (← x)) strBuf : DissectM StrBuf).run s ≠
        .err err s' := fun text hrun he =>
    neverFails_append host _ _ _ _ _ ((bind_ok hrun).symm.trans he)
  cases e with
  | prim tag p =>
    cases p with
    | sint w v =>
      have hget := onReader_ok (h.positioned.getInt64_sint rfl)
      exact hread _ hget
    | uint w v =>
      have hget := onReader_ok (h.positioned.getUInt64_uint rfl)
      exact hread _ hget
    | bool b =>
      have hget := onReader_ok (h.positioned.getBool_bool rfl)
      exact hread _ hget
    | float32 v =>
      have hget := onReader_ok (h.positioned.getDouble_float rfl)
      exact hread _ hget
    | float64 v =>
      have hget := onReader_ok (h.positioned.getDouble_float rfl)
      exact hread _ hget
    | utf8 w v =>
      obtain ⟨r, hdup⟩ := h.dupString_ok
      have hget := onReader_ok hdup
      exact hread _ hget
    | bytes w v =>
      obtain ⟨bytes, hbytes⟩ := h.dataBytes_ok hrest
      intro he
      exact NeverFails.foldlM (fun strBuf b => neverFails_append host _ _) bytes strBuf _ _ _
        ((bind_ok hbytes).symm.trans he)
    | null => exact neverFails_append host _ _ _ _ _
  | container tag kind members => cases kind <;> exact neverFails_append host _ _ _ _ _

variable (node : ProtoNode) (hfindex : HeaderField)

theorem Prim.type_ne_container (p : Prim) :
    ¬ (p.type = .struct ∨ p.type = .array ∨ p.type = .path) := by
  cases p <;> simp [Prim.type]

theorem length_body_le (e : Elem) : e.body.length ≤ e.encode.length := by
  rw [Elem.encode_eq, List.length_append]
  exact Nat.le_add_left _ _

/-- Members are shorter than what their container has behind its head. -/
theorem length_body_lt (tag : Tag) (kind : ContainerKind) {members : List Elem} {m : Elem}
    (hm : m ∈ members) : m.body.length < (Elem.body (.container tag kind members)).length := by
  have hmember : m.body.length ≤ (encodeMembers members).length := by
    induction members with
    | nil => cases hm
    | cons e es ih =>
      rw [encodeMembers_cons, List.length_append]
      rcases List.mem_cons.1 hm with rfl | hm
      · rw [Elem.encode_eq, List.length_append]
        omega
      · have := ih hm
        omega
  show m.body.length < (encodeMembers members ++ endOfContainer).length
  rw [List.length_append]
  exact Nat.lt_succ_of_le hmember

theorem still_closing (text : Text) (indentLevel : Nat) (type : TLVType) (strBuf : StrBuf) :
    Still (do
      let strBuf ← checked (strBuf.appendRepeated host.uninit text indentLevel)
      let strBuf ← append host (Text.lit (closeChar type)) strBuf
      addStringItemWithHeaderF node hfindex (← checked strBuf.shown)) :=
  Leaves.bind (still_checked _) fun _ => Leaves.bind (still_append host _ _) fun _ =>
    Leaves.bind (still_checked _) fun _ => still_addStringItemWithHeaderF _ _ _

/-- The closing bracket can always be shown. -/
theorem closing_does (text : Text) (indentLevel : Nat) (type : TLVType) {strBuf : StrBuf}
    (hterm : strBuf.Terminated) (hs : Focused data s.tlv) :
    Does may crash data (do
      let strBuf ← checked (strBuf.appendRepeated host.uninit text indentLevel)
      let strBuf ← append host (Text.lit (closeChar type)) strBuf
      addStringItemWithHeaderF node hfindex (← checked strBuf.shown)) s (some ()) := by
  obtain ⟨strBuf₁, hrepeat, hterm₁, -⟩ :=
    StrBuf.appendRepeated_ok host.uninit text indentLevel hterm
  obtain ⟨strBuf₂, happend, hbuf₂⟩ := append_eq host (Text.lit (closeChar type)) hterm₁
  obtain ⟨shown, hshown⟩ := StrBuf.shown_ok hbuf₂.1
  rw [checked_eq hrepeat, pure_bind, happend, pure_bind, checked_eq hshown, pure_bind]
  exact .of_ok rfl rfl hs.balanced

theorem addGenericTLVItemTo_does : ∀ (depth : Nat) {suppressTag suppressHeader : Bool}
    {indentLevel : Nat} {containerType : TLVType} {e : Elem} {rest : List UInt8}
    {s : DissectState}, OnElem data ip containerType e rest s → rest ≠ [] →
      e.body.length < depth →
      ¬ NothingAppended suppressTag suppressHeader indentLevel s.tlv.reader →
      Does may crash data
        (addGenericTLVItemTo host node hfindex depth suppressTag suppressHeader indentLevel) s
        (some ())
  | 0, _, _, _, _, _, _, _, _, _, hlen, _ => absurd hlen (Nat.not_lt_zero _)
  | depth + 1, suppressTag, suppressHeader, indentLevel, containerType, e, rest, s, h, hrest, hlen,
      hsome => by
    unfold addGenericTLVItemTo
    have hrun : ∀ (k : TLVType → Nat → DissectM Unit),
        Does may crash data (k s.tlv.reader.getType s.tlv.reader.getTag) s (some ()) →
        Does may crash data (do let type ← getType; let tag ← getTag; k type tag) s (some ()) :=
      fun _ hk => hk
    refine hrun _ ?_
    dsimp only
    obtain ⟨strBuf₁, hrepeat, hterm₁, hnone₁, -⟩ := StrBuf.appendRepeated_ok host.uninit
      (Text.lit "    ") (if suppressHeader then indentLevel else 0) StrBuf.terminated_none
    obtain ⟨strBuf₂, htag, hbuf₂⟩ := appendTag_eq host suppressTag s.tlv.reader.getTag
      (⟨hterm₁, fun h => (hnone₁ h).2⟩ : Buffered _ strBuf₁)
    rw [checked_eq hrepeat, pure_bind, htag, pure_bind]
    have happends := @appendValue_appends data _ host _ _ s ⟨h.inBounds, Nat.le_refl _⟩ hbuf₂ s rfl
    have hnoerr := h.appendValue_ne_err host hrest strBuf₂
    cases hvalue : (appendValue host strBuf₂ s.tlv.reader.getType).run s with
    | fault f => rw [hvalue] at happends; exact happends.elim
    | err err s' => exact absurd hvalue (hnoerr err s')
    | ok strBuf₃ s₃ =>
      rw [hvalue] at happends
      obtain ⟨-, hbuf₃⟩ := happends
      have hvalues : Handles False (appendValue host strBuf₂ s.tlv.reader.getType) :=
        handles_appendValue host strBuf₂ _
      obtain ⟨hretried₃, hbal₃⟩ :=
        (hvalues.onTrack h.focused hvalue).resolve_right fun hoff => hoff.1
      obtain ⟨shown, hshown⟩ := StrBuf.shown_ok hbuf₃.1
      cases strBuf₃ with
      | none => exact absurd (hbuf₃.2 rfl) hsome
      | some mem =>
        obtain ⟨mem', hreset, hterm⟩ := StrBuf.reset_ok (hbuf₃.1 mem rfl)
        obtain ⟨s₄, hline⟩ : ∃ s₄, (addLine node hfindex suppressHeader shown).run s₃ =
            .ok () s₄ := by
          cases suppressHeader <;> exact ⟨_, rfl⟩
        obtain ⟨htlv₄, hretried₄⟩ := (still_addLine node hfindex suppressHeader shown).ok hline
        have hbal₄ : Balanced data s₃.tlv s₄.tlv := htlv₄ ▸ hbal₃.focused.balanced
        refine Does.bind_run hvalue hretried₃ hbal₃ ?_
        rw [checked_eq hshown, pure_bind]
        refine Does.bind_run hline hretried₄ hbal₄ ?_
        rw [checked_eq hreset, pure_bind]
        have htype := h.type_eq
        cases e with
        | prim tag p =>
          rw [if_neg (by rw [htype]; exact p.type_ne_container)]
          exact .pure hbal₄.focused ()
        | container tag kind members =>
          have hstill : Still (appendValue host strBuf₂ s.tlv.reader.getType) := by
            rw [htype]
            cases kind <;> exact still_append host _ _
          have htlv : s₄.tlv = s.tlv := htlv₄.trans (hstill.ok hvalue).1
          have hfold : members.foldlM (fun _ _ => some ()) () = some () := List.foldlM_pure
          rw [if_pos (by rw [htype]; cases kind <;> simp [Elem.type, ContainerKind.type])]
          have hbody : BodyDoes may crash data ip kind.type members (fun _ =>
              addGenericTLVItemTo host node hfindex depth false true (indentLevel + 1))
              fun _ _ => some () := fun _ m hm rest' s' hrest' hs' =>
            addGenericTLVItemTo_does depth hs' hrest' (by have := length_body_lt tag kind hm; omega)
              fun hnone => absurd hnone.1.1 (Nat.succ_ne_zero indentLevel)
          have hterm' : StrBuf.Terminated (some mem') := fun mem'' he => by cases he; exact hterm
          have hgrows : may → ∀ _ : Unit, Grows DissectState.retried
              (addGenericTLVItemTo host node hfindex depth false true (indentLevel + 1)) :=
            fun _ _ => (handles_addGenericTLVItemTo host node hfindex depth _ _ _ :
              Handles False _).retried
          have hclosing : may → ∀ _ : Unit, Grows DissectState.retried _ := fun _ _ =>
            (still_closing host node hfindex (Text.lit "    ") indentLevel s.tlv.reader.getType
              (some mem')).grows_retried
          have hdoes := container_does (g := fun _ => some ()) (h.congr htlv) hbody hgrows ()
            hclosing fun _ s' hbal' => closing_does host node hfindex (Text.lit "    ") indentLevel
              s.tlv.reader.getType hterm' hbal'.focused
          rw [hfold] at hdoes
          exact hdoes

/-- `AddGenericTLVItem` on an element of a well-formed tree, with something behind it. -/
theorem addGenericTLVItem_does {suppressTag : Bool} (h : OnElem data ip containerType e rest s)
    (hrest : rest ≠ []) (hsome : ¬ NothingAppended suppressTag false 0 s.tlv.reader) :
    Does may crash data (addGenericTLVItem host node hfindex suppressTag) s (some ()) := by
  have hdoes : Does may crash data (addGenericTLVItemTo host node hfindex
      (s.tlv.reader.unread + 1) suppressTag false 0) s (some ()) :=
    addGenericTLVItemTo_does host node hfindex _ h hrest h.body_length_lt hsome
  exact hdoes

end

end

end Matter.TLV
