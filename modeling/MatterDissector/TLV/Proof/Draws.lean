import MatterDissector.TLV.Proof.Rendering

/-!
# What is drawn

`OnElemAt`: a dissector on an element whose range it knows. `Draws`: a handler returns with these
display calls and is balanced, or does not return. A loop over members draws the calls of each
(`memberCalls`); the typed items and the generic renderer draw what the tree says
(`Elem.typedCalls`, `Elem.lineCalls`), at the bytes that the elements take.
-/

namespace Matter.TLV

open Prog Dissect Display
open TLVReader (InBounds)

/-! ## Places -/

/-- Where an element is shown. -/
structure Place where
  /-- the implicit profile -/
  ip : Nat
  /-- where the buffer begins in the message -/
  base : Nat
  /-- where the element begins in the buffer -/
  pos : Nat
  /-- how many display calls come before -/
  drawn : Nat

namespace Place

/-- The item of the element. -/
def item (place : Place) (tree : ProtoNode) (hfindex : HeaderField) (shown : Shown) (e : Elem) :
    Drawn := .add tree hfindex (place.pos + place.base) e.encode.length shown

/-- The calls of `AddSubTreeItem` for the element. -/
def subTree (place : Place) (tree : ProtoNode) (hfindex : HeaderField) (ett : Ett) (e : Elem) :
    List Drawn := [place.item tree hfindex .item e, .addSubtree (.drawn place.drawn) ett]

/-- The same after some calls. -/
def past (place : Place) (calls : List Drawn) : Place :=
  { place with drawn := place.drawn + calls.length }

/-- In front of the members. -/
def inside (place : Place) (e : Elem) : Place := { place with pos := place.pos + e.head.length }

/-- Behind the element. -/
def behind (place : Place) (e : Elem) : Place := { place with pos := place.pos + e.encode.length }

end Place

/-- The calls of the members, one after the other. -/
def memberCalls (f : Place → Elem → Option (List Drawn)) : Place → List Elem → Option (List Drawn)
  | _, [] => some []
  | place, e :: es => (f place e).bind fun calls =>
    (memberCalls f ((place.behind e).past calls) es).map (calls ++ ·)

/-- On an element of a well-formed tree at `place`. -/
structure OnElemAt (data : List UInt8) (place : Place) (containerType : TLVType) (e : Elem)
    (rest : List UInt8) (s : DissectState) : Prop where
  onElem : OnElem data place.ip containerType e rest s
  base_eq : s.tlv.sourceBufBaseOffset = place.base
  elemStart_eq : s.tlv.elemStart = place.pos
  elemLen_eq : s.tlv.elemLen = e.encode.length
  drawn_eq : s.log.length = place.drawn
  ends : place.pos + (e.encode.length + rest.length) = data.length
  fits : place.base + data.length < 2 ^ 32

/-- Inside the container `d₀`, in front of `bytes`, at `place`. -/
structure BeforeAt (data : List UInt8) (place : Place) (containerType : TLVType)
    (d₀ : TLVDissector) (bytes : List UInt8) (s : DissectState) : Prop where
  before : Before data place.ip containerType d₀ bytes s.tlv
  base_eq : s.tlv.sourceBufBaseOffset = place.base
  drawn_eq : s.log.length = place.drawn
  ends : place.pos + bytes.length = data.length
  fits : place.base + data.length < 2 ^ 32

section
variable {α β : Type} {data bytes rest : List UInt8} {place : Place} {containerType : TLVType}
  {e : Elem} {s s' s₁ : DissectState} {calls : List Drawn} {d₀ : TLVDissector}

/-- `Next` in front of a member. -/
theorem BeforeAt.next_elem (h : BeforeAt data place containerType d₀ (e.encode ++ rest) s)
    (hwf : e.wellFormed place.ip containerType = true) :
    ∃ d', TLVDissector.next.run s.tlv = .ok () d' ∧ Inside data d₀ d' ∧
      OnElemAt data place containerType e rest { s with tlv := d' } := by
  obtain ⟨d', hnext, hinside, hpos⟩ := h.before.next_elem hwf
  obtain ⟨hstart, hlen, hbase⟩ := next_measured h.before.ready hwf hnext hpos
  have hends := h.ends
  rw [List.length_append] at hends
  refine ⟨d', hnext, hinside, ⟨hpos, hwf⟩, hbase.trans h.base_eq, ?_, hlen, h.drawn_eq, hends,
    h.fits⟩
  show d'.elemStart = place.pos
  omega

/-- Behind a member that has been handled. -/
theorem OnElemAt.behind (h : OnElemAt data place containerType e rest s)
    (hinside : Inside data d₀ s.tlv) (hlog : s'.log = s.log ++ calls)
    (hbal : Balanced data s.tlv s'.tlv) :
    BeforeAt data ((place.behind e).past calls) containerType d₀ rest s' where
  before := .behind hinside h.onElem.positioned h.onElem.wellFormed hbal
  base_eq := hbal.sourceBufBaseOffset_eq.trans h.base_eq
  drawn_eq := by rw [hlog, List.length_append, h.drawn_eq]; rfl
  ends := by
    have hends := h.ends
    show place.pos + e.encode.length + rest.length = data.length
    omega
  fits := h.fits

/-- Where calls have been made, and nothing else. -/
theorem OnElemAt.past (h : OnElemAt data place containerType e rest s) (htlv : s'.tlv = s.tlv)
    (hlog : s'.log = s.log ++ calls) :
    OnElemAt data (place.past calls) containerType e rest s' where
  onElem := h.onElem.congr htlv
  base_eq := htlv ▸ h.base_eq
  elemStart_eq := htlv ▸ h.elemStart_eq
  elemLen_eq := htlv ▸ h.elemLen_eq
  drawn_eq := by rw [hlog, List.length_append, h.drawn_eq]; rfl
  ends := h.ends
  fits := h.fits

/-- The range that items are shown at. -/
theorem OnElemAt.start_eq (h : OnElemAt data place containerType e rest s) :
    (s.tlv.elemStart + s.tlv.sourceBufBaseOffset) % 2 ^ 32 = place.pos + place.base := by
  have hends := h.ends
  have hfits := h.fits
  rw [h.elemStart_eq, h.base_eq]
  exact Nat.mod_eq_of_lt (by omega)

theorem OnElemAt.addShown_run (h : OnElemAt data place containerType e rest s)
    (tree : ProtoNode) (hfindex : HeaderField) (shown : Shown) :
    (addShown tree hfindex shown).run s =
      .ok (.drawn place.drawn) { s with log := s.log ++ [place.item tree hfindex shown e] } := by
  rw [Place.item, ← h.start_eq, ← h.elemLen_eq, ← h.drawn_eq]
  rfl

/-- Behind `EnterContainer`. -/
theorem OnElemAt.entered {tag : Tag} {kind : ContainerKind} {members : List Elem}
    (h : OnElemAt data place containerType (.container tag kind members) rest s) :
    ∃ d₀, TLVDissector.enterContainer.run s.tlv = .ok () d₀ ∧
      BeforeAt data (place.inside (.container tag kind members)) kind.type d₀
        (encodeMembers members ++ (endOfContainer ++ rest)) { s with tlv := d₀ } ∧
      membersWellFormed place.ip kind.type members = true ∧ kind.type ≠ .notSpecified ∧
      members.length ≤ d₀.reader.unread := by
  obtain ⟨d₀, henter, hbefore, hwf, hcontainer, hlen⟩ := h.onElem.entered
  obtain ⟨-, hd₀⟩ := enterContainer_tlv_eq_ok.1 henter
  refine ⟨d₀, henter, ⟨hbefore, ?_, h.drawn_eq, ?_, h.fits⟩, hwf, hcontainer, hlen⟩
  · rw [hd₀]
    exact h.base_eq
  · have hends := h.ends
    rw [Elem.encode_eq, List.length_append] at hends
    have hbody : (Elem.body (.container tag kind members)).length =
        (encodeMembers members).length + endOfContainer.length := List.length_append
    rw [List.length_append, List.length_append]
    show place.pos + _ + _ = data.length
    omega

/-! ## Handlers -/

/-- At `s`, `x` returns with these display calls and is balanced, or it does not return. -/
def Draws (data : List UInt8) (x : DissectM α) (s : DissectState) : Option (List Drawn) → Prop
  | some calls => ∃ a s', x.run s = .ok a s' ∧ s'.log = s.log ++ calls ∧
      Balanced data s.tlv s'.tlv
  | none => ∀ a s', x.run s ≠ .ok a s'

theorem Draws.of_ok {x : DissectM α} {a : α} (hrun : x.run s = .ok a s')
    (hlog : s'.log = s.log ++ calls) (hbal : Balanced data s.tlv s'.tlv) :
    Draws data x s (some calls) := ⟨a, s', hrun, hlog, hbal⟩

theorem Draws.of_err {x : DissectM α} {err : MatterError} (h : x.run s = .err err s') :
    Draws data x s none := fun a s₁ hok => by rw [h] at hok; cases hok

theorem Draws.pure (hs : Focused data s.tlv) (a : α) :
    Draws data (Pure.pure a : DissectM α) s (some []) :=
  .of_ok rfl (List.append_nil _).symm hs.balanced

theorem Draws.congr {x y : DissectM α} {o : Option (List Drawn)} (h : Draws data x s o)
    (hrun : y.run s = x.run s) : Draws data y s o := by
  cases o with
  | some calls =>
    obtain ⟨a, s', hx, hlog, hbal⟩ := h
    exact .of_ok (hrun.trans hx) hlog hbal
  | none => exact fun a s' hy => h a s' (hrun.symm.trans hy)

/-- What follows a step that is known to return. -/
theorem Draws.bind_run {x : DissectM α} {k : α → DissectM β} {a : α} {o : Option (List Drawn)}
    (hrun : x.run s = .ok a s₁) (hlog : s₁.log = s.log ++ calls)
    (hbal : Balanced data s.tlv s₁.tlv) (hk : Draws data (k a) s₁ o) :
    Draws data (x >>= k) s (o.map (calls ++ ·)) := by
  have hseq : (x >>= k).run s = (k a).run s₁ := bind_ok hrun
  cases o with
  | some calls' =>
    obtain ⟨b, s', hrun', hlog', hbal'⟩ := hk
    refine .of_ok (hseq.trans hrun') ?_ (hbal.trans hbal')
    rw [hlog', hlog, List.append_assoc]
  | none => exact fun b s' hok => hk b s' (hseq.symm.trans hok)

/-- What follows a step that draws nothing. -/
theorem Draws.bind_silent {x : DissectM α} {k : α → DissectM β} {a : α} {o : Option (List Drawn)}
    (hrun : x.run s = .ok a s₁) (hlog : s₁.log = s.log) (hbal : Balanced data s.tlv s₁.tlv)
    (hk : Draws data (k a) s₁ o) : Draws data (x >>= k) s o := by
  have hdraws := Draws.bind_run hrun (hlog.trans (List.append_nil _).symm) hbal hk
  cases o with
  | some calls => exact hdraws
  | none => exact hdraws

/-- What follows a step that draws one call. -/
theorem Draws.bind_call {x : DissectM α} {k : α → DissectM β} {a : α} {call : Drawn}
    (hrun : x.run s = .ok a s₁) (hlog : s₁.log = s.log ++ [call])
    (hbal : Balanced data s.tlv s₁.tlv) (hk : Draws data (k a) s₁ (some calls)) :
    Draws data (x >>= k) s (some (call :: calls)) := Draws.bind_run hrun hlog hbal hk

/-- What follows a handler. -/
theorem Draws.bind {x : DissectM α} {k : α → DissectM β} {o : Option (List Drawn)}
    {o' : List Drawn → Option (List Drawn)} (hx : Draws data x s o)
    (hk : ∀ a s₁ calls, s₁.log = s.log ++ calls → Balanced data s.tlv s₁.tlv →
      Draws data (k a) s₁ (o' calls)) :
    Draws data (x >>= k) s (o.bind fun calls => (o' calls).map (calls ++ ·)) := by
  cases o with
  | some calls =>
    obtain ⟨a, s₁, hrun, hlog, hbal⟩ := hx
    exact Draws.bind_run hrun hlog hbal (hk a s₁ calls hlog hbal)
  | none =>
    intro b s' hok
    obtain ⟨a, s₁, hrun, -⟩ := bind_eq_ok.1 hok
    exact hx a s₁ hrun

/-- What follows a test. -/
theorem Draws.verify_bind {b : Bool} {err : MatterError} {k : Unit → DissectM α}
    {o : Option (List Drawn)} (hk : b = true → Draws data (k ()) s o) :
    Draws data (verify b err >>= k) s (if b = true then o else none) := by
  cases b with
  | true => exact hk rfl
  | false => exact .of_err (bind_err (run_verify_false err s))

/-! ## Members -/

/-- `body` draws on every element of `es` what `f` says. -/
def BodyDraws (data : List UInt8) (ip : Nat) (containerType : TLVType) (es : List Elem)
    (body : β → DissectM β) (f : Place → Elem → Option (List Drawn)) : Prop :=
  ∀ b, ∀ e ∈ es, ∀ place rest s, place.ip = ip → rest ≠ [] →
    OnElemAt data place containerType e rest s → Draws data (body b) s (f place e)

/-- What a loop over members draws until `Next` finds no more, or it does not end. -/
def LoopDraws (data : List UInt8) (d₀ : TLVDissector) (x : DissectM β) (s : DissectState) :
    Option (List Drawn) → Prop
  | some calls => ∃ b d s', x.run s = .ok b s' ∧ s'.log = s.log ++ calls ∧ Inside data d₀ d ∧
      TLVDissector.next.run d = .err .endOfTLV s'.tlv
  | none => ∀ b s', x.run s ≠ .ok b s'

/-- The loop of `forMembers`, for so many rounds. -/
def memberLoop (body : β → DissectM β) (fuel : Nat) (b : β) : DissectM β :=
  loop .outOfFuel (fun b => do memberRound body b (← attempt next)) fuel b

theorem memberLoop_next {body : β → DissectM β} (fuel : Nat) (b : β)
    (hnext : next.run s = .ok () s₁) :
    (memberLoop body (fuel + 1) b).run s = (body b >>= memberLoop body fuel).run s₁ := by
  have hround : memberRound body b (.ok ()) = body b >>= fun b' => pure (.inl b') := rfl
  rw [memberLoop, loop_succ, bind_assoc, bind_ok (attempt_ok hnext), hround, bind_assoc]
  rfl

theorem memberLoop_end {body : β → DissectM β} (fuel : Nat) (b : β)
    (hnext : next.run s = .err .endOfTLV s₁) :
    (memberLoop body (fuel + 1) b).run s = .ok b s₁ := by
  rw [memberLoop, loop_succ, bind_assoc, bind_ok (attempt_err hnext)]
  rfl

/-- A loop over members draws the calls of each: by induction on the members, each of which takes
one round. -/
theorem loop_draws {body : β → DissectM β} {f : Place → Elem → Option (List Drawn)}
    (hcontainer : containerType ≠ .notSpecified) :
    ∀ (es : List Elem) (fuel : Nat) (b : β) (place : Place) (s : DissectState),
      BodyDraws data place.ip containerType es body f →
      BeforeAt data place containerType d₀ (encodeMembers es ++ (endOfContainer ++ rest)) s →
      membersWellFormed place.ip containerType es = true → es.length < fuel →
      LoopDraws data d₀ (memberLoop body fuel b) s (memberCalls f place es)
  | [], fuel, b, place, s, _, hbefore, _, hfuel => by
    obtain ⟨fuel, rfl⟩ : ∃ n, fuel = n + 1 := ⟨fuel - 1, by omega⟩
    have hend := hbefore.before
    rw [encodeMembers_nil, List.nil_append] at hend
    obtain ⟨d', hend⟩ := hend.next_end hcontainer
    have hnext : next.run s = .err .endOfTLV { s with tlv := d' } := onTlv_eq_err.2 ⟨d', hend, rfl⟩
    exact ⟨b, s.tlv, { s with tlv := d' }, memberLoop_end fuel b hnext, (List.append_nil _).symm,
      hbefore.before.inside, hend⟩
  | e :: es, fuel, b, place, s, hbody, hbefore, hwf, hfuel => by
    rw [List.length_cons] at hfuel
    obtain ⟨fuel, rfl⟩ : ∃ n, fuel = n + 1 := ⟨fuel - 1, by omega⟩
    rw [encodeMembers_cons, List.append_assoc] at hbefore
    rw [membersWellFormed, Bool.and_eq_true] at hwf
    obtain ⟨d', hd', hinside, hon⟩ := hbefore.next_elem hwf.1
    have hnext : next.run s = .ok () { s with tlv := d' } := onTlv_eq_ok.2 ⟨d', hd', rfl⟩
    have hrest : encodeMembers es ++ (endOfContainer ++ rest) ≠ [] := by simp [endOfContainer]
    have hmember := hbody b e List.mem_cons_self place _ _ rfl hrest hon
    have hseq := @memberLoop_next _ _ _ body fuel b hnext
    rw [memberCalls]
    cases hcalls : f place e with
    | none =>
      rw [hcalls] at hmember
      intro c s' hok
      obtain ⟨b', s₁, hrun, -⟩ := bind_eq_ok.1 (hseq.symm.trans hok)
      exact hmember b' s₁ hrun
    | some calls =>
      rw [hcalls] at hmember
      obtain ⟨b', s₁, hrun, hlog, hbal⟩ := hmember
      have htail : BodyDraws data place.ip containerType es body f :=
        fun b m hm => hbody b m (.tail _ hm)
      have hloop := loop_draws hcontainer es fuel b' ((place.behind e).past calls) s₁ htail
        (hon.behind hinside hlog hbal) hwf.2 (by omega)
      rw [Option.bind_some]
      cases hrest' : memberCalls f ((place.behind e).past calls) es with
      | none =>
        rw [hrest'] at hloop
        intro c s' hok
        rw [hseq, bind_ok hrun] at hok
        exact hloop c s' hok
      | some calls' =>
        rw [hrest'] at hloop
        obtain ⟨c, d, s', hrun', hlog', hinside', hend⟩ := hloop
        refine ⟨c, d, s', hseq.trans ((bind_ok hrun).trans hrun'), ?_, hinside', hend⟩
        rw [hlog', hlog, List.append_assoc]

/-- Entering an element, handling its members and leaving it draws the calls of the members. -/
theorem members_draws {tag : Tag} {kind : ContainerKind} {members : List Elem}
    {body : β → DissectM β} {f : Place → Elem → Option (List Drawn)}
    (h : OnElemAt data place containerType (.container tag kind members) rest s)
    (hbody : BodyDraws data place.ip kind.type members body f) (b₀ : β) :
    Draws data (do
      enterContainer
      let b ← forMembers body b₀
      exitContainer
      pure b) s (memberCalls f (place.inside (.container tag kind members)) members) := by
  obtain ⟨d₀, hd₀, hbefore, hwf, hcontainer, hlen⟩ := h.entered
  have henter : enterContainer.run s = .ok () { s with tlv := d₀ } := onTlv_eq_ok.2 ⟨d₀, hd₀, rfl⟩
  have hloop : LoopDraws data d₀ (forMembers body b₀) { s with tlv := d₀ }
      (memberCalls f (place.inside (.container tag kind members)) members) :=
    loop_draws hcontainer members _ b₀ (place.inside (.container tag kind members)) _ hbody
      hbefore hwf (Nat.lt_succ_of_le hlen)
  cases hcalls : memberCalls f (place.inside (.container tag kind members)) members with
  | none =>
    rw [hcalls] at hloop
    intro b s' hrun
    rw [bind_ok henter] at hrun
    obtain ⟨b', s₁, hrun₁, -⟩ := bind_eq_ok.1 hrun
    exact hloop b' s₁ hrun₁
  | some calls =>
    rw [hcalls] at hloop
    obtain ⟨b, d, s₁, hrun, hlog, hinside, hend⟩ := hloop
    obtain ⟨d', hexit⟩ := hinside.exit_ok h.onElem.focused hd₀ hend
    have hexit' : exitContainer.run s₁ = .ok () { s₁ with tlv := d' } :=
      onTlv_eq_ok.2 ⟨d', hexit, rfl⟩
    have hclosed := hinside.closed hd₀ hend hexit
    refine ⟨b, { s₁ with tlv := d' }, ?_, hlog, hclosed⟩
    rw [bind_ok henter, bind_ok hrun, bind_ok hexit', run_pure]

/-- The same with something to do behind the container. -/
theorem container_draws {tag : Tag} {kind : ContainerKind} {members : List Elem}
    {body : β → DissectM β} {f : Place → Elem → Option (List Drawn)} {k : β → DissectM α}
    {o : Option (List Drawn)}
    (h : OnElemAt data place containerType (.container tag kind members) rest s)
    (hbody : BodyDraws data place.ip kind.type members body f) (b₀ : β)
    (hk : ∀ b s', Balanced data s.tlv s'.tlv → Draws data (k b) s' o) :
    Draws data (do
      enterContainer
      let b ← forMembers body b₀
      exitContainer
      k b) s ((memberCalls f (place.inside (.container tag kind members)) members).bind
        fun calls => o.map (calls ++ ·)) := by
  have hdraws := @Draws.bind _ _ _ _ _ _ _ (fun _ => o) (members_draws h hbody b₀)
    fun b s₁ _ _ hbal => hk b s₁ hbal
  simpa only [bind_assoc, pure_bind] using hdraws

/-! ## Subtrees -/

theorem OnElemAt.addSubTreeItem_run (h : OnElemAt data place containerType e rest s)
    (tree : ProtoNode) (hfindex : HeaderField) (ett : Ett) :
    (addSubTreeItem tree hfindex ett).run s =
      .ok (.drawn place.drawn) { s with log := s.log ++ place.subTree tree hfindex ett e } := by
  have htype : s.tlv.reader.getType ≠ .notSpecified := by
    rw [h.onElem.type_eq]
    cases e with
    | prim tag p => cases p <;> exact fun he => by cases he
    | container tag kind members => cases kind <;> exact fun he => by cases he
  rw [TLV.addSubTreeItem_run tree hfindex ett htype, Place.subTree, Place.item, h.start_eq,
    h.elemLen_eq, h.drawn_eq, List.append_assoc]
  rfl

/-- A subtree, and what is shown behind it. -/
theorem addSubTreeItem_draws {k : ProtoNode → DissectM α} {o : Option (List Drawn)}
    (tree : ProtoNode) (hfindex : HeaderField) (ett : Ett)
    (h : OnElemAt data place containerType e rest s)
    (hk : ∀ s', OnElemAt data (place.past (place.subTree tree hfindex ett e)) containerType e rest
      s' → Draws data (k (.drawn place.drawn)) s' o) :
    Draws data (addSubTreeItem tree hfindex ett >>= k) s
      (o.map (place.subTree tree hfindex ett e ++ ·)) := by
  refine Draws.bind_run (h.addSubTreeItem_run tree hfindex ett) rfl h.onElem.focused.balanced ?_
  exact hk _ (h.past rfl rfl)

/-! ## Typed items -/

/-- The number of a field of 8 to 32 bits, or of 40 to 64 bits. -/
def sintShown (fieldType : FieldType) (v : Int) : Option Shown :=
  if fieldType ∈ [.int8, .int16, .int24, .int32] then some (.int (toInt32 v))
  else if fieldType ∈ [.int40, .int48, .int56, .int64] then some (.int64 v)
  else none

def uintShown (fieldType : FieldType) (v : Nat) : Option Shown :=
  if fieldType ∈ [.uint8, .uint16, .uint24, .uint32] then some (.uint (v % 2 ^ 32))
  else if fieldType ∈ [.uint40, .uint48, .uint56, .uint64] then some (.uint64 v)
  else none

/-- What a field of this type shows of a value. -/
def Prim.shownIn (fieldType : FieldType) : Prim → Option Shown
  | .sint _ v => sintShown fieldType v.toInt
  | .uint _ v => uintShown fieldType v.toNat
  | .bool b => some (.boolean b)
  | .float32 v => some (.double (.float v.toNat))
  | .float64 v => some (.double (.double v.toNat))
  | .utf8 _ v => some (.string (Text.cString v.bytes))
  | .bytes _ v => some (.bytes v.bytes)
  | .null => some (.noneFormat (Text.lit "null"))

def Elem.shownIn (fieldType : FieldType) : Elem → Option Shown
  | .prim _ p => p.shownIn fieldType
  | .container _ _ _ => none

/-- The call of `AddTypedItem`. -/
def Elem.typedCalls (tree : ProtoNode) (hfindex : HeaderField) (place : Place) (e : Elem) :
    Option (List Drawn) :=
  (e.shownIn hfindex.ftype).map fun shown => [place.item tree hfindex shown e]

theorem OnElemAt.addShown_draws (h : OnElemAt data place containerType e rest s)
    (tree : ProtoNode) (hfindex : HeaderField) (shown : Shown) (a : α) :
    Draws data (do
      let _ ← addShown tree hfindex shown
      pure a : DissectM α) s (some [place.item tree hfindex shown e]) :=
  .of_ok (bind_ok (h.addShown_run tree hfindex shown)) rfl h.onElem.focused.balanced

/-- `AddTypedItem` shows the value in the field, at the bytes of the element. -/
theorem addTypedItem_draws (tree : ProtoNode) (hfindex : HeaderField) (hrest : rest ≠ [])
    (h : OnElemAt data place containerType e rest s) :
    Draws data (addTypedItem tree hfindex) s (e.typedCalls tree hfindex place) := by
  have hrun : (addTypedItem tree hfindex).run s = (addTypedValue tree hfindex e.type).run s := by
    rw [addTypedItem, getType, gets_bind, h.onElem.type_eq]
  have hitem := fun shown => h.addShown_draws tree hfindex shown ()
  have hread : ∀ {δ : Type} {x : DissectM δ} {a : δ} {k : δ → DissectM Unit}
      {o : Option (List Drawn)}, x.run s = .ok a s →
      (addTypedItem tree hfindex).run s = (x >>= k).run s → Draws data (k a) s o →
      Draws data (addTypedItem tree hfindex) s o := fun hx hseq hk =>
    hk.congr (hseq.trans (bind_ok hx))
  cases e with
  | prim tag p =>
    cases p with
    | sint w v =>
      refine hread (onReader_ok (h.onElem.positioned.getInt64_sint rfl)) hrun ?_
      dsimp only
      unfold Elem.typedCalls Elem.shownIn Prim.shownIn sintShown
      split
      · exact hitem _
      · split
        · exact hitem _
        · exact .of_err rfl
    | uint w v =>
      refine hread (onReader_ok (h.onElem.positioned.getUInt64_uint rfl)) hrun ?_
      dsimp only
      unfold Elem.typedCalls Elem.shownIn Prim.shownIn uintShown
      split
      · exact hitem _
      · split
        · exact hitem _
        · exact .of_err rfl
    | bool b => exact hread (onReader_ok (h.onElem.positioned.getBool_bool rfl)) hrun (hitem _)
    | float32 v =>
      exact hread (onReader_ok (h.onElem.positioned.getDouble_float rfl)) hrun (hitem _)
    | float64 v =>
      exact hread (onReader_ok (h.onElem.positioned.getDouble_float rfl)) hrun (hitem _)
    | utf8 w v =>
      -- `DupString` leaves the reader behind the string
      obtain ⟨r, hdup⟩ := h.onElem.dupString_ok
      have hok := hrun.trans (bind_ok (onReader_ok hdup))
      have hbal := ((handles_addTypedItem tree hfindex).onTrack h.onElem.focused hok).resolve_right
        fun hoff => hoff.1
      have hitem : place.item tree hfindex (.string (Text.cString v.bytes))
          (.prim tag (.utf8 w v)) = .add tree hfindex
            ((s.tlv.elemStart + s.tlv.sourceBufBaseOffset) % 2 ^ 32) s.tlv.elemLen
              (.string (Text.cString v.bytes)) := by
        rw [Place.item, h.start_eq, h.elemLen_eq]
      exact .of_ok hok (congrArg (s.log ++ [·]) hitem.symm) hbal.2
    | bytes w v =>
      exact hread (h.onElem.dataBytes_eq (h.onElem.readPoint_ne_bufEnd hrest)) hrun (hitem _)
    | null => exact (hitem _).congr hrun
  | container tag kind members => cases kind <;> exact .of_err hrun

/-! ## Generic items -/

/-- The line of an element: the value of the field, or the whole text of its item. -/
def lineShown (suppressHeader : Bool) (text : Text) : Shown :=
  if suppressHeader then .stringLine text else .stringValue text

end

section
variable (host : Host) (tree : ProtoNode) (hfindex : HeaderField)

mutual

/-- The calls of `AddGenericTLVItem`: the line of the element, those of its members, and the
bracket that closes it. -/
def Elem.lineCalls (suppressHeader : Bool) (level : Nat) (place : Place) : Elem → List Drawn
  | .prim tag p =>
    [place.item tree hfindex (lineShown suppressHeader
      (indentation level ++ (tag.shownText place.ip ++ p.shownText host))) (.prim tag p)]
  | .container tag kind members =>
    let e := .container tag kind members
    let opening := place.item tree hfindex (lineShown suppressHeader
      (indentation level ++ (tag.shownText place.ip ++ kind.opening))) e
    let closing := place.item tree hfindex (.stringLine (indentation level ++ kind.closing)) e
    opening :: (memberLineCalls (level + 1) ((place.past [opening]).inside e) members ++ [closing])

def memberLineCalls (level : Nat) (place : Place) : List Elem → List Drawn
  | [] => []
  | e :: es =>
    let calls := e.lineCalls true level place
    calls ++ memberLineCalls level ((place.behind e).past calls) es

end

theorem memberCalls_lineCalls (level : Nat) : ∀ (es : List Elem) (place : Place),
    memberCalls (fun place e => some (e.lineCalls host tree hfindex true level place)) place es =
      some (memberLineCalls host tree hfindex level place es)
  | [], place => by rw [memberCalls, memberLineCalls]
  | e :: es, place => by
    rw [memberCalls, Option.bind_some, memberCalls_lineCalls level es, memberLineCalls]
    rfl

variable {data rest : List UInt8} {place : Place} {containerType : TLVType} {e : Elem}
  {s : DissectState}

/-- The text of the line of an element, and the state behind it. -/
theorem OnElemAt.line_ok {suppressHeader : Bool} {indentLevel : Nat}
    (h : OnElemAt data place containerType e rest s) (hrest : rest ≠ [])
    (hheader : suppressHeader = true ∨ indentLevel = 0)
    (hsome : ¬ NothingAppended false suppressHeader indentLevel s.tlv.reader) :
    ∃ strBuf₁ strBuf₂ mem s₃,
      StrBuf.appendRepeated host.uninit (Text.lit "    ")
        (if suppressHeader = true then indentLevel else 0) none = .ok strBuf₁ ∧
      appendTag host false s.tlv.reader.getTag strBuf₁ = pure strBuf₂ ∧
      (appendValue host strBuf₂ s.tlv.reader.getType).run s = .ok (some mem) s₃ ∧
      Holds (some mem) (indentation indentLevel ++ (e.tag.shownText place.ip ++
        e.shownText host)) ∧ s₃.log = s.log ∧ Balanced data s.tlv s₃.tlv := by
  have hindent : indentation (if suppressHeader = true then indentLevel else 0) =
      indentation indentLevel := by
    rcases hheader with rfl | rfl
    · rfl
    · rw [ite_self]
  have hip := h.onElem.positioned.at_body.implicitProfileId_lt
  have hempty : Holds none [] := ⟨StrBuf.terminated_none, rfl⟩
  obtain ⟨strBuf₁, hrepeat, h₁⟩ := @Holds.appendRepeated host _ _ hempty
    (if suppressHeader = true then indentLevel else 0)
  rw [hindent, List.nil_append] at h₁
  obtain ⟨strBuf₂, htag, h₂⟩ :=
    @Holds.appendTag host _ _ h₁ _ _ hip (Elem.wellFormed_tag h.onElem.wellFormed).2
  rw [← h.onElem.tag_eq] at htag
  obtain ⟨strBuf₁', hrepeat', hterm₁, hnone₁, -⟩ := StrBuf.appendRepeated_ok host.uninit
    (Text.lit "    ") (if suppressHeader then indentLevel else 0) StrBuf.terminated_none
  obtain ⟨strBuf₂', htag', hbuf₂⟩ := appendTag_eq host false s.tlv.reader.getTag
    (⟨hterm₁, fun h => (hnone₁ h).2⟩ : Buffered _ strBuf₁')
  cases hrepeat.symm.trans hrepeat'
  have hsame : (Pure.pure strBuf₂ : DissectM StrBuf).run s =
      (Pure.pure strBuf₂' : DissectM StrBuf).run s := congrArg (·.run s) (htag.symm.trans htag')
  cases hsame
  have happends := @appendValue_appends data _ host _ _ s
    ⟨h.onElem.inBounds, Nat.le_refl _⟩ hbuf₂ s rfl
  cases hvalue : (appendValue host strBuf₂ s.tlv.reader.getType).run s with
  | fault f => rw [hvalue] at happends; exact happends.elim
  | err err s' => exact absurd hvalue (h.onElem.appendValue_ne_err host hrest strBuf₂ err s')
  | ok strBuf₃ s₃ =>
    rw [hvalue] at happends
    obtain ⟨h₃, hlog₃⟩ := h.onElem.appendValue_holds h₂ hvalue
    rw [List.append_assoc] at h₃
    have hhandles : Handles False (appendValue host strBuf₂ s.tlv.reader.getType) :=
      handles_appendValue host strBuf₂ _
    have hbal := (hhandles.onTrack h.onElem.focused hvalue).resolve_right fun hoff => hoff.1
    cases strBuf₃ with
    | none => exact absurd (happends.2.2 rfl) hsome
    | some mem => exact ⟨strBuf₁, strBuf₂, mem, s₃, hrepeat, htag, hvalue, h₃, hlog₃, hbal.2⟩

/-- The item of a line, in a state that is balanced with the one on the element. -/
theorem OnElemAt.addLine_run {suppressHeader : Bool} {s' : DissectState}
    (h : OnElemAt data place containerType e rest s) (hbal : Balanced data s.tlv s'.tlv)
    (text : Text) : (addLine tree hfindex suppressHeader text).run s' = .ok () { s' with
      log := s'.log ++ [place.item tree hfindex (lineShown suppressHeader text) e] } := by
  rw [Place.item, ← h.start_eq, ← h.elemLen_eq, ← hbal.elemStart_eq, ← hbal.elemLen_eq,
    ← hbal.sourceBufBaseOffset_eq]
  cases suppressHeader <;> rfl

/-- The closing bracket is shown at the whole container. -/
theorem OnElemAt.closing_draws {kind : ContainerKind} {strBuf : StrBuf} {s' : DissectState}
    (h : OnElemAt data place containerType e rest s) (hbal : Balanced data s.tlv s'.tlv)
    (hbuf : Holds strBuf []) (indentLevel : Nat) : Draws data (do
      let strBuf ← checked (strBuf.appendRepeated host.uninit (Text.lit "    ") indentLevel)
      let strBuf ← append host (Text.lit (closeChar kind.type)) strBuf
      addStringItemWithHeaderF tree hfindex (← checked strBuf.shown)) s'
        (some [place.item tree hfindex (.stringLine (indentation indentLevel ++ kind.closing))
          e]) := by
  have hclose : Text.lit (closeChar kind.type) = kind.closing ∧ 0 ∉ kind.closing := by
    cases kind <;> decide
  obtain ⟨strBuf₁, hrepeat, h₁⟩ := @Holds.appendRepeated host _ _ hbuf indentLevel
  obtain ⟨mem, happend, h₂⟩ := @Holds.append host _ _ h₁ _ hclose.2
  rw [hclose.1, checked_eq hrepeat, pure_bind, happend, pure_bind, checked_eq h₂.shown_eq,
    pure_bind]
  have hline := @OnElemAt.addLine_run tree hfindex _ _ _ _ _ _ true _ h hbal
    (indentation indentLevel ++ kind.closing)
  exact .of_ok hline rfl hbal.focused.balanced

theorem addGenericTLVItemTo_draws : ∀ (depth : Nat) {suppressHeader : Bool} {indentLevel : Nat}
    {place : Place} {containerType : TLVType} {e : Elem} {rest : List UInt8} {s : DissectState},
    OnElemAt data place containerType e rest s → rest ≠ [] → e.body.length < depth →
      (suppressHeader = true ∨ indentLevel = 0) →
      ¬ NothingAppended false suppressHeader indentLevel s.tlv.reader →
      Draws data (addGenericTLVItemTo host tree hfindex depth false suppressHeader indentLevel) s
        (some (e.lineCalls host tree hfindex suppressHeader indentLevel place))
  | 0, _, _, _, _, _, _, _, _, _, hlen, _, _ => absurd hlen (Nat.not_lt_zero _)
  | depth + 1, suppressHeader, indentLevel, place, containerType, e, rest, s, h, hrest, hlen,
      hheader, hsome => by
    obtain ⟨strBuf₁, strBuf₂, mem, s₃, hrepeat, htag, hvalue, h₃, hlog₃, hbal₃⟩ :=
      h.line_ok host hrest hheader hsome
    unfold addGenericTLVItemTo
    have hread : ∀ {k : TLVType → Nat → DissectM Unit} {o : Option (List Drawn)},
        Draws data (k s.tlv.reader.getType s.tlv.reader.getTag) s o →
        Draws data (do let type ← getType; let tag ← getTag; k type tag) s o := fun hk => hk
    refine hread ?_
    dsimp only
    obtain ⟨strBuf₄, hreset, h₄⟩ := h₃.reset
    have hline := @OnElemAt.addLine_run tree hfindex _ _ _ _ _ _ suppressHeader _ h hbal₃
      (indentation indentLevel ++ (e.tag.shownText place.ip ++ e.shownText host))
    have hfocus := hbal₃.focused
    rw [checked_eq hrepeat, pure_bind, htag, pure_bind]
    refine Draws.bind_silent hvalue hlog₃ hbal₃ ?_
    rw [checked_eq h₃.shown_eq, pure_bind]
    have htype := h.onElem.type_eq
    cases e with
    | prim tag p =>
      refine Draws.bind_call hline rfl hfocus.balanced ?_
      rw [checked_eq hreset, pure_bind, if_neg (by rw [htype]; exact p.type_ne_container)]
      refine .pure ?_ ()
      exact hfocus
    | container tag kind members =>
      have hstill : Still (appendValue host strBuf₂ s.tlv.reader.getType) := by
        rw [htype]
        cases kind <;> exact still_append host _ _
      have htlv : s₃.tlv = s.tlv := (hstill.ok hvalue).1
      have hcontainer : s.tlv.reader.getType = kind.type := htype
      refine Draws.bind_call hline rfl hfocus.balanced ?_
      rw [checked_eq hreset, pure_bind, hcontainer,
        if_pos (by cases kind <;> simp [ContainerKind.type])]
      have hbody : BodyDraws data place.ip kind.type members
          (fun _ => addGenericTLVItemTo host tree hfindex depth false true (indentLevel + 1))
          fun place e => some (e.lineCalls host tree hfindex true (indentLevel + 1) place) := by
        intro _ m hm place' rest' s' _ hrest' hs'
        have hlt := length_body_lt tag kind hm
        exact addGenericTLVItemTo_draws depth hs' hrest' (by omega) (.inl rfl)
          fun hnone => absurd hnone.1.1 (Nat.succ_ne_zero indentLevel)
      have hon := @OnElemAt.past _ _ _ _ _ _ { s₃ with log := s₃.log ++ [place.item tree hfindex
        (lineShown suppressHeader (indentation indentLevel ++ (tag.shownText place.ip ++
          kind.opening))) (.container tag kind members)] } [_] h htlv (congrArg (· ++ [_]) hlog₃)
      have hmembers := container_draws hon hbody () fun _ s' hbal' =>
        @OnElemAt.closing_draws host tree hfindex _ _ _ _ _ _ kind _ _ hon hbal' h₄ indentLevel
      rw [memberCalls_lineCalls] at hmembers
      exact hmembers

/-- `AddGenericTLVItem` draws the lines of the element. -/
theorem addGenericTLVItem_draws (h : OnElemAt data place containerType e rest s) (hrest : rest ≠ [])
    (hsome : ¬ NothingAppended false false 0 s.tlv.reader) :
    Draws data (addGenericTLVItem host tree hfindex false) s
      (some (e.lineCalls host tree hfindex false 0 place)) :=
  addGenericTLVItemTo_draws host tree hfindex _ h hrest h.onElem.body_length_lt (.inr rfl) hsome

end

end Matter.TLV
