import MatterDissector.TLV.Proof.Members

/-!
# Handlers that crash on what they come to

`DoesUnless may bad reached`: what a handler `Does` that comes to what is in the list `reached`, and
crashes if something of it is `bad` and only then. Over the members of a container these lists
follow one another (`membersReached`), as the values are folded (`members_unless`). The elements
are those that `Next` has measured (`OnSized`).
-/

namespace Matter.TLV

open Prog Dissect Display
open TLVReader (InBounds)

/-- On an element of a well-formed tree whose length the dissector knows. -/
structure OnSized (data : List UInt8) (ip : Nat) (containerType : TLVType) (e : Elem)
    (rest : List UInt8) (s : DissectState) : Prop
    extends OnElem data ip containerType e rest s where
  elemLen_eq : s.tlv.elemLen = e.encode.length

section
variable {α β δ : Type} {data rest : List UInt8} {ip : Nat} {containerType : TLVType} {e : Elem}
  {s s' s₁ : DissectState} {may : Prop} {bad : δ → Prop} {reached : List δ}

/-- `x` does what `o` says, but where it is to return a value and something bad is reached it
crashes. -/
structure DoesUnless (may : Prop) (bad : δ → Prop) (reached : List δ) (data : List UInt8)
    (x : DissectM α) (s : DissectState) (o : Option α) : Prop where
  does : Does may (∃ p ∈ reached, bad p) data x s o
  faults : o.isSome = true → (∃ p ∈ reached, bad p) → ∃ f, x.run s = .fault f

/-- A handler that does not crash. -/
theorem Does.unless {x : DissectM α} {o : Option α} (h : Does may False data x s o) :
    DoesUnless may bad [] data x s o :=
  ⟨h.mono id False.elim, fun _ ⟨_, hp, _⟩ => absurd hp List.not_mem_nil⟩

namespace DoesUnless

theorem congr {x y : DissectM α} {o : Option α} (h : DoesUnless may bad reached data x s₁ o)
    (hrun : y.run s = x.run s₁) (htlv : s₁.tlv = s.tlv) (hretried : s₁.retried = s.retried) :
    DoesUnless may bad reached data y s o := by
  refine ⟨h.does.congr hrun htlv hretried, fun hsome hbad => ?_⟩
  obtain ⟨f, hfault⟩ := h.faults hsome hbad
  exact ⟨f, hrun.trans hfault⟩

theorem ite {c : Prop} [Decidable c] {x y : DissectM α} {o : Option α}
    (hx : c → DoesUnless may bad reached data x s o)
    (hy : ¬ c → DoesUnless may bad reached data y s o) :
    DoesUnless may bad reached data (if c then x else y) s o := by
  split
  · rename_i hc
    exact hx hc
  · rename_i hc
    exact hy hc

theorem mono {may' : Prop} {x : DissectM α} {o : Option α}
    (h : DoesUnless may bad reached data x s o) (hmay : may → may') :
    DoesUnless may' bad reached data x s o := ⟨h.does.mono hmay id, h.faults⟩

/-- What follows a test. -/
theorem verify_bind {b : Bool} {err : MatterError} {k : Unit → DissectM α} {o : Option α}
    (hk : b = true → DoesUnless may bad reached data (k ()) s o) :
    DoesUnless may bad reached data (verify b err >>= k) s (if b = true then o else none) := by
  cases b with
  | true => exact hk rfl
  | false =>
    refine ⟨Does.of_err (bind_err (run_verify_false err s)), fun hsome => ?_⟩
    cases hsome

/-- What follows without a crash of its own. -/
theorem bind {x : DissectM α} {k : α → DissectM β} {o : Option α} {g : α → Option β}
    (hx : DoesUnless may bad reached data x s o)
    (hgrows : may → ∀ a, Grows DissectState.retried (k a))
    (hk : ∀ a s₁, Balanced data s.tlv s₁.tlv → Does may False data (k a) s₁ (g a)) :
    DoesUnless may bad reached data (x >>= k) s (o.bind g) := by
  refine ⟨hx.does.bind hgrows fun a s₁ _ hbal => (hk a s₁ hbal).mono id False.elim,
    fun hsome hbad => ?_⟩
  have hfirst : o.isSome = true := by
    cases o with
    | some a => rfl
    | none => cases hsome
  obtain ⟨f, hfault⟩ := hx.faults hfirst hbad
  exact ⟨f, bind_fault hfault⟩

/-- A handler whose value is not asked for. -/
theorem returning {x : DissectM α} {ok : Bool} {a : α}
    (hx : DoesUnless may bad reached data x s (guarded ok a)) (b : β) :
    DoesUnless may bad reached data (x >>= fun _ => Pure.pure b) s (guarded ok b) := by
  have hdoes := hx.bind (g := fun _ => some b) (fun _ _ => (Leaves.pure b).grows)
    fun _ s₁ hbal => Does.pure hbal.focused b
  cases ok with
  | true => exact hdoes
  | false => exact hdoes

end DoesUnless

/-! ## Members -/

/-- What is reached in the members, one after the other. -/
def membersReached (g : β → Elem → β) (reached : β → Elem → List δ) : β → List Elem → List δ
  | _, [] => []
  | b, e :: es => reached b e ++ membersReached g reached (g b e) es

/-- Where it does not depend on what is kept of the members before. -/
theorem membersReached_const {g : β → Elem → β} (reached : Elem → List δ) :
    ∀ (es : List Elem) (b : β), membersReached g (fun _ => reached) b es = es.flatMap reached
  | [], _ => rfl
  | e :: es, b => by
    rw [membersReached, membersReached_const reached es, List.flatMap_cons]

/-- `body` returns on every `ok` element of `es` that has something behind it, unless it crashes
on what it comes to there. -/
def BodyUnless (may : Prop) (bad : δ → Prop) (data : List UInt8) (ip : Nat)
    (containerType : TLVType) (es : List Elem) (body : β → DissectM β) (ok : Elem → Bool) (g : β → Elem → β)
    (reached : β → Elem → List δ) : Prop :=
  ∀ b, ∀ e ∈ es, ∀ rest s, rest ≠ [] → OnSized data ip containerType e rest s →
    DoesUnless may bad (reached b e) data (body b) s (guarded (ok e) (g b e))

variable {body : β → DissectM β} {ok : Elem → Bool} {g : β → Elem → β}
  {reachedBy : β → Elem → List δ} {d₀ : TLVDissector}

/-- The rounds of `forMembers`. -/
def memberRounds (body : β → DissectM β) (b : β) : DissectM (β ⊕ β) := do
  memberRound body b (← attempt next)

/-- A loop over members, by induction on the members, each of which takes one round. -/
theorem loop_unless (hgrows : may → ∀ b, Grows DissectState.retried (body b))
    (hcontainer : containerType ≠ .notSpecified) :
    ∀ (es : List Elem) (fuel : Nat) (b : β) (s : DissectState),
      BodyUnless may bad data ip containerType es body ok g reachedBy →
      Before data ip containerType d₀ (encodeMembers es ++ (endOfContainer ++ rest)) s.tlv →
      membersWellFormed ip containerType es = true → es.length < fuel →
      LoopDoes may (∃ p ∈ membersReached g reachedBy b es, bad p) data d₀ id
          (loop .outOfFuel (memberRounds body) fuel b) s (guarded (es.all ok) (es.foldl g b)) ∧
        (es.all ok = true → (∃ p ∈ membersReached g reachedBy b es, bad p) →
          ∃ f, (loop .outOfFuel (memberRounds body) fuel b).run s = .fault f)
  | [], fuel, b, s, _, hbefore, _, hfuel => by
    obtain ⟨fuel, rfl⟩ : ∃ n, fuel = n + 1 := ⟨fuel - 1, by omega⟩
    rw [encodeMembers_nil, List.nil_append] at hbefore
    obtain ⟨d', hend⟩ := hbefore.next_end hcontainer
    have hnext : next.run s = .err .endOfTLV { s with tlv := d' } := onTlv_eq_err.2 ⟨d', hend, rfl⟩
    have hround : (memberRounds body b).run s = .ok (.inr b) { s with tlv := d' } := by
      rw [memberRounds, bind_ok (attempt_err hnext)]
      rfl
    refine ⟨.inl ⟨s.tlv, { s with tlv := d' }, ?_, rfl, hbefore.inside, hend⟩, ?_⟩
    · rw [loop_succ, bind_ok hround, again_inr, run_pure]
      rfl
    · rintro - ⟨p, hp, -⟩
      exact absurd hp List.not_mem_nil
  | e :: es, fuel, b, s, hbody, hbefore, hwf, hfuel => by
    rw [List.length_cons] at hfuel
    obtain ⟨fuel, rfl⟩ : ∃ n, fuel = n + 1 := ⟨fuel - 1, by omega⟩
    rw [encodeMembers_cons, List.append_assoc] at hbefore
    rw [membersWellFormed, Bool.and_eq_true] at hwf
    obtain ⟨d', hd', hinside, hpos⟩ := hbefore.next_elem hwf.1
    have hlen := (next_measured hbefore.ready hwf.1 hd' hpos).2.1
    have hnext : next.run s = .ok () { s with tlv := d' } := onTlv_eq_ok.2 ⟨d', hd', rfl⟩
    have hrest : encodeMembers es ++ (endOfContainer ++ rest) ≠ [] := by simp [endOfContainer]
    have hmeasured : OnSized data ip containerType e _ { s with tlv := d' } :=
      ⟨⟨hpos, hwf.1⟩, hlen⟩
    have hmember := hbody b e List.mem_cons_self _ _ hrest hmeasured
    have hround : (memberRounds body b).run s =
        (Sum.inl <$> body b : DissectM (β ⊕ β)).run { s with tlv := d' } := by
      rw [memberRounds, bind_ok (attempt_ok hnext)]
      rfl
    have hrounds : may → ∀ b, Grows DissectState.retried (memberRounds body b) := fun hmay b =>
      (grows_retried_onTlv _).attempt.bind (grows_memberRound (hgrows hmay) b)
    have hfirst : ∀ f, (body b).run { s with tlv := d' } = .fault f →
        (loop .outOfFuel (memberRounds body) (fuel + 1) b).run s = .fault f := by
      intro f hfault
      rw [loop_succ, bind_fault (hround.trans (bind_fault hfault))]
    rw [List.all_cons, List.foldl_cons]
    cases hok : ok e with
    | false =>
      rw [hok] at hmember
      refine ⟨fun c s' hrun => ?_, fun hall => by cases hall⟩
      rw [loop_succ, bind_eq_ok] at hrun
      obtain ⟨res, s₁, hrun₁, hagain⟩ := hrun
      rw [hround] at hrun₁
      obtain ⟨b', s₂, hb', hinl⟩ := bind_eq_ok.1 hrun₁
      cases hinl
      obtain ⟨hmay, hlt⟩ := hmember.does b' s₁ hb'
      exact ⟨hmay, Nat.lt_of_lt_of_le hlt ((Grows.loop (hrounds hmay) fuel b').ok hagain)⟩
    | true =>
      rw [hok] at hmember
      rw [Bool.true_and]
      rcases hmember.does with ⟨s₁, hrun₁, hretried, hbal⟩ | ⟨⟨p, hp, hbad⟩, f, hfault⟩
      · have hstep : (loop .outOfFuel (memberRounds body) (fuel + 1) b).run s =
            (loop .outOfFuel (memberRounds body) fuel (g b e)).run s₁ := by
          rw [loop_succ, bind_ok (hround.trans (map_ok hrun₁)), again_inl]
        have hbehind : Before data ip containerType d₀ _ s₁.tlv :=
          .behind hinside hpos hwf.1 hbal
        obtain ⟨hdoes, hfaults⟩ := loop_unless hgrows hcontainer es fuel (g b e) s₁
          (fun b m hm => hbody b m (.tail _ hm)) hbehind hwf.2 (by omega)
        have hlater : (∃ p ∈ membersReached g reachedBy (g b e) es, bad p) →
            ∃ p ∈ membersReached g reachedBy b (e :: es), bad p := by
          rintro ⟨p, hp, hbad⟩
          exact ⟨p, List.mem_append_right _ hp, hbad⟩
        refine ⟨(hdoes.congr hstep hretried).mono_crash hlater, ?_⟩
        rintro hall ⟨p, hp, hbad⟩
        rcases List.mem_append.1 hp with hp | hp
        · obtain ⟨f, hfault⟩ := hmember.faults rfl ⟨p, hp, hbad⟩
          cases hrun₁.symm.trans hfault
        · rw [hstep]
          exact hfaults hall ⟨p, hp, hbad⟩
      · exact ⟨.of_fault ⟨p, List.mem_append_left _ hp, hbad⟩ (hfirst f hfault) _,
          fun _ _ => ⟨f, hfirst f hfault⟩⟩

/-- Entering an element, handling its members and leaving it. -/
theorem members_unless {tag : Tag} {kind : ContainerKind} {members : List Elem}
    (h : OnElem data ip containerType (.container tag kind members) rest s)
    (hbody : BodyUnless may bad data ip kind.type members body ok g reachedBy)
    (hgrows : may → ∀ b, Grows DissectState.retried (body b)) (b₀ : β) :
    DoesUnless may bad (membersReached g reachedBy b₀ members) data (do
      enterContainer
      let b ← forMembers body b₀
      exitContainer
      pure b) s (guarded (members.all ok) (members.foldl g b₀)) := by
  obtain ⟨d₀, hd₀, hbefore, hwf, hcontainer, hlen⟩ := h.entered
  have henter : enterContainer.run s = .ok () { s with tlv := d₀ } := onTlv_eq_ok.2 ⟨d₀, hd₀, rfl⟩
  obtain ⟨hloop, hfaults⟩ := loop_unless hgrows hcontainer members
    (({ s with tlv := d₀ } : DissectState).tlv.reader.unread + 1) b₀ { s with tlv := d₀ } hbody
    hbefore hwf (Nat.lt_succ_of_le hlen)
  have hrounds : (forMembers body b₀).run { s with tlv := d₀ } =
      (loop .outOfFuel (memberRounds body)
        (({ s with tlv := d₀ } : DissectState).tlv.reader.unread + 1) b₀).run
        { s with tlv := d₀ } := rfl
  have hcrash : ∀ f, (forMembers body b₀).run { s with tlv := d₀ } = .fault f →
      (do enterContainer; let b ← forMembers body b₀; exitContainer; pure b : DissectM β).run s =
        .fault f := by
    intro f hfault
    rw [bind_ok henter, bind_fault hfault]
  refine ⟨?_, fun hsome hreached => ?_⟩
  · cases hall : members.all ok with
    | false =>
      rw [hall] at hloop
      intro b s' hrun
      rw [bind_ok henter] at hrun
      obtain ⟨b', s₁, hrun₁, hrun⟩ := bind_eq_ok.1 hrun
      obtain ⟨_, s₂, hexit, hpure⟩ := bind_eq_ok.1 hrun
      cases hpure
      obtain ⟨hmay, hlt⟩ := hloop _ s₁ (hrounds.symm.trans hrun₁)
      exact ⟨hmay, Nat.lt_of_lt_of_le hlt ((grows_retried_onTlv _).ok hexit)⟩
    | true =>
      rw [hall] at hloop
      rcases hloop with ⟨d, s₁, hrun, hretried, hinside, hend⟩ | ⟨hreached, f, hfault⟩
      · obtain ⟨d', hexit⟩ := hinside.exit_ok h.focused hd₀ hend
        have hexit' : exitContainer.run s₁ = .ok () { s₁ with tlv := d' } :=
          onTlv_eq_ok.2 ⟨d', hexit, rfl⟩
        refine .inl ⟨{ s₁ with tlv := d' }, ?_, hretried, hinside.closed hd₀ hend hexit⟩
        rw [bind_ok henter, bind_ok (hrounds.trans hrun), bind_ok hexit', run_pure]
        rfl
      · exact .inr ⟨hreached, f, hcrash f (hrounds.trans hfault)⟩
  · cases hall : members.all ok with
    | false =>
      rw [hall] at hsome
      cases hsome
    | true =>
      obtain ⟨f, hfault⟩ := hfaults hall hreached
      exact ⟨f, hcrash f (hrounds.trans hfault)⟩

end

end Matter.TLV
