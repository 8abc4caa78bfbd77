import GraphicsObjects.Proofs.Session.TwinObjects

/-!
# Leaving out binds cannot be seen

The same operations on a context that leaves out binds and on one that does not, each over a fresh
driver, give the same answers, and after every step drivers that agree. Guards must not restore, and
no buffer and no vertex array may be deleted: its deletion would part the element buffer in effect
from the one that the bound vertex array has recorded.
-/

namespace GraphicsObjects

open Ownership ContextM SessionM

/-- Answers that are the same but for what the cache itself says. -/
def ContextOp.Alike : (op : ContextOp) → op.Answer → op.Answer → Prop
  | config, a, a' => a' = { a with cacheBindings := false }
  | activeBinding _, _, _ | isBound .., _, _ => True
  | _, a, a' => a' = a

def Op.Alike : (op : Op) → op.Answer → op.Answer → Prop
  | context _ op, a, a' => op.Alike a a'
  | acquire .., g, g' => g'.blind = g.blind
  | _, a, a' => a' = a

theorem ContextM.alike_contextOp {live : List (Kind × Id)} {c c' : Context Sim} (op : ContextOp)
    (ha : op.Admissible live) (h : c.Twin live True c') :
    op.Alike (op.run c).1 (op.run c').1 ∧ (op.run c).2.Twin live True (op.run c').2 := by
  cases op with
  | config => exact ⟨h.config, h⟩
  | activeBinding | isBound => exact ⟨trivial, h⟩
  | bind slot id => exact follows_bind ha c c' h
  | unbind slot => exact follows_bind (Slot.admits_zero ..) c c' h
  | interrupted slot id => exact follows_interrupted ha c c' h
  | invalidateBinding slot => exact follows_invalidateBinding slot c c' h
  | invalidateBindings => exact follows_invalidateBindings c c' h
  | pollError => exact follows_pollError c c' h
  | getInteger parameter => exact follows_getInteger parameter c c' h
  | maxTextureUnits => exact follows_maxTextureUnits c c' h
  | pixelStore direction => exact follows_pixelStore direction c c' h
  | clear mask => exact follows_command (q := .clear mask) trivial c c' h
  | clearColor color => exact follows_command (q := .clearColor color) trivial c c' h
  | viewport x y width height =>
      exact follows_command (q := .viewport x y width height) trivial c c' h
  | request r => exact ha.elim

namespace Session

variable {α β ρ : Type} {tied : Prop} {s s' s₁ s₁' : Session Sim} {op : Op} {name : String}
variable {outside : List Ref}

/-! ## Steps -/

/-- Both sessions can do the step or neither can. The answers are alike, and the sessions are twins
afterwards as long as no buffer and no vertex array was deleted. -/
def Abreast (alike : α → α → Prop) :
    Option (α × Session Sim) → Option (α × Session Sim) → Prop :=
  Option.Rel fun x x' => alike x.1 x'.1 ∧ x.2.Twin x.2.driver.Spared x'.2

theorem rel_bind {R : α → α → Prop} {Q : β → β → Prop} {x x' : Option α} {f f' : α → Option β}
    (h : Option.Rel R x x')
    (hf : ∀ a a', x = some a → R a a' → Option.Rel Q (f a) (f' a')) :
    Option.Rel Q (x >>= f) (x' >>= f') := by
  cases h with
  | none => exact .none
  | some ha => exact hf _ _ rfl ha

theorem exists_of_rel {R : α → α → Prop} {x x' : Option α} {a : α} (h : Option.Rel R x x')
    (hx : x = some a) : ∃ a', x' = some a' ∧ R a a' := by
  cases h with
  | some h =>
      cases hx
      exact ⟨_, rfl, h⟩
  | none => cases hx

/-- What is done with something that is looked up in both. -/
theorem rel_lookup {R : α → α → Prop} {found found' : Option β} {f f' : β → Option α}
    (he : found' = found) (h : ∀ x, found = some x → Option.Rel R (f x) (f' x)) :
    Option.Rel R (found >>= f) (found' >>= f') := by
  subst he
  cases found' with
  | none => exact .none
  | some x => exact h x rfl

theorem Twin.spared (h : s.Twin True s') : s.Twin tied s' := h.mono fun _ => trivial

theorem Together.abreast {act : SessionM Sim α} (h : Together tied act s s')
    (ht : (act s).2.driver.Spared → tied) :
    Abreast (fun a a' => a' = a) (some (act s)) (some (act s')) :=
  .some ⟨h.answer, h.twin.mono ht⟩

theorem Twin.onObject (h : s.Twin True s') (hs : s.Sound outside) {known? : Payload → Option ρ}
    {payload : ρ → Payload} (hr : Payload.Reads known? payload)
    {act : Id → ρ → ContextM Sim (α × ρ)}
    (hf : ∀ f, s.Has payload f → Follows s.driver.live True (act f.id f.known)) :
    Abreast (fun a a' => a' = a)
      (s.onObject known? payload name act) (s'.onObject known? payload name act) := by
  refine rel_lookup (h.find?_eq known? name) fun f hfound => ?_
  obtain ⟨-, hhas⟩ := has_of_find? hr hfound
  rw [hs.context_eq hhas]
  have hset := h.rework (hf f hhas) f.ref fun a => payload a.2
  have hanswer := congrArg Prod.fst (h.work (hf f hhas)).answer
  exact .some ⟨hanswer, hset.twin.spared⟩

theorem Twin.inContextOf (h : s.Twin True s') (hs : s.Sound outside) {known? : Payload → Option ρ}
    {payload : ρ → Payload} (hr : Payload.Reads known? payload) (act : Id → ρ → ContextM Sim α)
    (hf : ∀ f, s.Has payload f → Follows s.driver.live True (act f.id f.known)) :
    Abreast (fun a a' => a' = a)
      (s.inContextOf known? name act) (s'.inContextOf known? name act) := by
  refine rel_lookup (h.find?_eq known? name) fun f hfound => ?_
  obtain ⟨-, hhas⟩ := has_of_find? hr hfound
  rw [hs.context_eq hhas]
  exact (h.work (hf f hhas)).abreast fun _ => trivial

theorem Twin.rebind (h : s.Twin True s') (hs : s.Sound outside) (name : String) (bound : Bool) :
    Abreast (fun a a' => a' = a) (s.rebind name bound) (s'.rebind name bound) := by
  refine rel_lookup (h.box?_eq name) fun x hx => ?_
  obtain ⟨r, b⟩ := x
  refine rel_lookup rfl fun slot hslot => ?_
  have hface : (r, b.id, b.content) ∈ s.store.faces :=
    Store.mem_faces_iff.mpr ⟨b, (get?_of_box? hx).2, rfl, rfl⟩
  have hkind : slot.kind? = some b.content.payload.kind := by
    cases hp : b.content.payload <;> rw [hp] at hslot <;> cases hslot <;> rfl
  have hadmits : slot.Admits s.driver.live (if bound then b.id else 0) := by
    split
    · exact hs.admits hface hkind
    · exact slot.admits_zero _
  rw [hs.home _ _ _ hface]
  exact (h.work (follows_bind hadmits)).abreast fun _ => trivial

theorem Twin.draw (h : s.Twin True s') (hs : s.Sound outside) (program vertexArray : String)
    {q : Request} (site : Site) (hq : q.IsContent) :
    Abreast (fun a a' => a' = a)
      (s.draw program vertexArray fun p v => Program.draw p v q site)
      (s'.draw program vertexArray fun p v => Program.draw p v q site) := by
  refine rel_lookup (h.find?_eq _ program) fun p hp => ?_
  refine rel_lookup (h.find?_eq _ vertexArray) fun v hv => ?_
  obtain ⟨-, hp'⟩ := has_of_find? Payload.reads_program hp
  obtain ⟨-, hv'⟩ := has_of_find? Payload.reads_vertexArray hv
  rw [hs.context_eq hp']
  have hw := Program.follows_draw (hs.admits hp' rfl) (hs.admits hv' rfl) hq site
  exact (h.work hw).abreast fun _ => trivial

theorem Twin.make (h : s.Twin True s') (hs : s.Sound outside) (what : Creation) :
    Option.Rel (fun x x' => x'.1 = x.1 ∧ x.2.Twin True x'.2) (s.make 0 what) (s'.make 0 what) := by
  have hmade {made : SessionM Sim (Except Failure (Ref × Id))} (hm : Together True made s s') :
      Option.Rel (fun x x' => x'.1 = x.1 ∧ x.2.Twin True x'.2) (some (made s))
        (some (made s')) := .some ⟨hm.answer, hm.twin⟩
  cases what with
  | buffer target => exact hmade (h.newObject (.buffer { target }) nofun)
  | bufferWithData target data usage => exact hmade (h.newBufferWithData hs target data.bytes usage)
  | texture target => exact hmade (h.newObject (.texture { target }) nofun)
  | renderbuffer => exact hmade (h.newObject .renderbuffer nofun)
  | renderbufferWithStorage internalFormat width height =>
      exact hmade (h.newRenderbufferWithStorage hs internalFormat width height)
  | framebuffer target => exact hmade (h.newFramebuffer target)
  | screen => exact .some ⟨congrArg Except.ok h.screen.answer, h.screen.twin⟩
  | vertexArray => exact hmade (h.newObject (.vertexArray {}) nofun)
  | shader stage => exact hmade (h.newShader stage)
  | shaderWithSource stage source => exact hmade (h.newShaderWithSource stage source)
  | shaderFromFile stage contents => exact hmade (h.newShaderFromFile stage contents)
  | program => exact hmade h.newProgram
  | programWithShaders shaders =>
      have hfind : s'.find? Payload.shader? = s.find? Payload.shader? :=
        funext (h.find?_eq Payload.shader?)
      refine rel_lookup (by rw [hfind]) fun found _ => ?_
      exact hmade (h.newProgramWithShaders hs _)

theorem Twin.create (h : s.Twin True s') (hi : s.Inv) (name : String) (what : Creation) :
    Abreast (fun a a' => a' = a) (s.create name 0 what) (s'.create name 0 what) := by
  refine rel_bind (h.make hi.sound what) ?_
  rintro ⟨made, s₁⟩ ⟨made', s₁'⟩ hm ⟨rfl, htwin⟩
  have hc := hi.sound.make hm
  cases made' with
  | error e => exact .some ⟨rfl, htwin.spared⟩
  | ok x =>
      have hs₁ := hc.held x.1 x.2 rfl
      rw [← roots_congr hc.quiet.vars] at hs₁
      exact .some ⟨rfl, htwin.setVariable name (.object x.1) (.object x.1) rfl trivial hs₁⟩

theorem Twin.clone (h : s.Twin True s') (hi : s.Inv) (source name : String) :
    Abreast (fun a a' => a' = a) (s.step (.clone source name)) (s'.step (.clone source name)) := by
  refine rel_lookup (h.box?_eq source) fun x hx => .some ⟨rfl, ?_⟩
  obtain ⟨-, hb⟩ := get?_of_box? hx
  obtain ⟨hs, -⟩ := hi.sound.retain (fun _ _ => True) (fun _ => False)
    (hi.sound.balanced.mem_of_get? hb)
  exact (h.retain x.1).twin.setVariable name (.object x.1) (.object x.1) rfl trivial hs

theorem Twin.drop (h : s.Twin True s') (hi : s.Inv) (name : String) :
    Abreast (fun a a' => a' = a) (s.step (.drop name)) (s'.step (.drop name)) := by
  have herase := h.erase name
  have he (t : Session Sim) : t.step (.drop name) = (t.vars.get? name).bind fun held =>
      some (SessionM.dropHeld held { t with vars := t.vars.erase name }) := rfl
  rw [he, he]
  cases hv : s.vars.get? name with
  | none =>
      rw [h.unheld hv]
      exact .none
  | some held =>
      obtain ⟨held', hv', hb⟩ := h.held hv
      rw [hv']
      have hperm := roots_perm s name
      rw [hv] at hperm
      have hs := (hi.sound.perm hperm).setVariables (s.vars.erase name)
      exact .some ⟨rfl, herase.dropHeld hb (h.lax name held hv) hs⟩

/-- The guard records what the cache knew, and is the same apart from that. -/
theorem Twin.acquire (h : s.Twin True s') (hi : s.Inv) (name : String) {slot : Slot} {id : Id}
    (ha : slot.Admits s.driver.live id) :
    Abreast (fun g g' => g'.blind = g.blind) (s.step (.acquire name 0 slot id))
      (s'.step (.acquire name 0 slot id)) := by
  have hw : Work s.driver.live (fun _ _ => True) [] _ (ContextM.acquire slot id) :=
    work_acquire ha (Slot.spares_nil _) Sim.within_anything
  obtain ⟨hs, hq⟩ := hi.sound.work (fun _ => False) hw
  rw [← roots_congr hq.vars] at hs
  have hbind := (h.work (follows_bind ha)).twin
  have hg : (inContext 0 (ContextM.acquire slot id) s').1.blind =
      (inContext 0 (ContextM.acquire slot id) s).1.blind := by
    change Guard.mk slot none (s'.enter 0).config.strictUnbind = _
    rw [h.twin.config]
    rfl
  simp only [Session.step, h.single, Nat.zero_lt_one, if_true]
  refine .some ⟨hg, ?_⟩
  exact hbind.setVariable name _ _ (congrArg (Held.guard 0) hg) ⟨rfl, h.twin.lax⟩ hs

theorem Twin.step (h : s.Twin True s') (hi : s.Inv) (ha : op.Admissible s.driver.live) :
    Abreast op.Alike (s.step op) (s'.step op) := by
  have hs := hi.sound
  cases op with
  | addContext config => exact ha.elim
  | context c op =>
      simp only [Session.step, h.single]
      split
      · rename_i hc
        obtain rfl := Nat.lt_one_iff.mp hc
        obtain ⟨halike, htwin⟩ := alike_contextOp op ha h.twin
        exact .some ⟨halike, (h.leave htwin).spared⟩
      · exact .none
  | acquire name c slot id =>
      by_cases hc : c = 0
      · subst hc
        exact h.acquire hi name ha
      · simp only [Session.step, h.single, Nat.lt_one_iff, if_neg hc]
        exact .none
  | create name c what =>
      simp only [Session.step, h.single]
      split
      · rename_i hc
        obtain rfl := Nat.lt_one_iff.mp hc
        exact h.create hi name what
      · exact .none
  | clone source name => exact h.clone hi source name
  | drop target => exact h.drop hi target
  | bind target => exact h.rebind hs target true
  | unbind target => exact h.rebind hs target false
  | info target =>
      refine rel_lookup (h.box?_eq target) fun x hx => .some ⟨?_, h.spared⟩
      have hface := Store.mem_faces_iff.mpr ⟨x.2, (get?_of_box? hx).2, rfl, rfl⟩
      have hstrict : (s'.enter 0).config.strictUnbind = (s.enter 0).config.strictUnbind := by
        rw [h.twin.config]
      simp only [hs.home _ _ _ hface]
      exact congrArg (ObjectInfo.mk _ _) hstrict
  | buffer target op =>
      exact h.onObject hs Payload.reads_buffer fun f hf => f.known.follows_run op (hs.admits hf rfl)
  | texture target op =>
      exact h.onObject hs Payload.reads_texture fun f hf =>
        f.known.follows_run op (hs.admits hf rfl)
  | renderbuffer target op =>
      exact h.inContextOf hs Payload.reads_renderbuffer (fun id _ => op.run id) fun f hf =>
        Renderbuffer.follows_run op (hs.admits hf rfl)
  | framebuffer target op =>
      exact h.inContextOf hs Payload.reads_framebuffer op.run fun f hf =>
        f.known.follows_run op (hs.admits hf rfl)
  | attachment framebuffer point =>
      refine rel_lookup (h.find?_eq _ framebuffer) fun fb _ => .some ⟨?_, h.spared⟩
      rw [h.store]
      exact rfl
  | attachRenderbuffer framebuffer point renderbuffer =>
      refine rel_lookup (h.find?_eq _ framebuffer) fun fb hfb => ?_
      refine rel_lookup (h.find?_eq _ renderbuffer) fun rb hrb => ?_
      obtain ⟨-, hfb⟩ := has_of_find? Payload.reads_framebuffer hfb
      obtain ⟨-, hrb⟩ := has_of_find? Payload.reads_renderbuffer hrb
      have hattach := h.attach hs (q := fb.known.renderbufferRequest point rb.id) point
        .attachingRenderbuffer hfb hrb (.inr rfl) trivial fun _ => rfl
      exact hattach.abreast id
  | attachTexture framebuffer point texture part =>
      refine rel_lookup (h.find?_eq _ framebuffer) fun fb hfb => ?_
      refine rel_lookup (h.find?_eq _ texture) fun t ht => ?_
      obtain ⟨-, hfb'⟩ := has_of_find? Payload.reads_framebuffer hfb
      obtain ⟨-, ht'⟩ := has_of_find? Payload.reads_texture ht
      exact (h.attachTexture hs point part hfb' ht').abreast id
  | enableAttribute vertexArray index enable =>
      refine h.inContextOf hs Payload.reads_vertexArray
        (fun id _ => VertexArray.enableAttribute id index enable) fun f hf => ?_
      exact VertexArray.follows_enableAttribute (hs.admits hf rfl) index enable
  | setPointer vertexArray buffer layout =>
      refine rel_lookup (h.find?_eq _ vertexArray) fun v hv => ?_
      refine rel_lookup (h.find?_eq _ buffer) fun b hb => ?_
      obtain ⟨-, hv'⟩ := has_of_find? Payload.reads_vertexArray hv
      obtain ⟨-, hb'⟩ := has_of_find? Payload.reads_buffer hb
      exact (h.setPointer hs hv' hb' layout).abreast fun _ => trivial
  | setIndexBuffer vertexArray buffer =>
      refine rel_lookup (h.find?_eq _ vertexArray) fun v hv => ?_
      refine rel_lookup (h.find?_eq _ buffer) fun b hb => ?_
      obtain ⟨-, hv'⟩ := has_of_find? Payload.reads_vertexArray hv
      obtain ⟨-, hb'⟩ := has_of_find? Payload.reads_buffer hb
      exact (h.setIndexBuffer hs hv' hb').abreast fun _ => trivial
  | bufferCount vertexArray =>
      exact rel_lookup (h.find?_eq _ vertexArray) fun v _ => .some ⟨rfl, h.spared⟩
  | shader target op =>
      exact h.onObject hs Payload.reads_shader fun f _ => f.known.follows_run op f.id
  | program target op =>
      exact h.onObject hs Payload.reads_program fun f hf =>
        f.known.follows_run op (hs.admits hf rfl)
  | attachShader program shader =>
      refine rel_lookup (h.find?_eq _ program) fun p hp => ?_
      refine rel_lookup (h.find?_eq _ shader) fun sh hsh => ?_
      obtain ⟨-, hp'⟩ := has_of_find? Payload.reads_program hp
      obtain ⟨-, hsh'⟩ := has_of_find? Payload.reads_shader hsh
      exact (h.attachShader (hs.context_eq hp') (hs.context_eq hsh')).abreast fun _ => trivial
  | detachShader program shader =>
      refine rel_lookup (h.find?_eq _ program) fun p hp => ?_
      refine rel_lookup (h.find?_eq _ shader) fun sh _ => ?_
      obtain ⟨-, hp'⟩ := has_of_find? Payload.reads_program hp
      exact (h.detachShader hs sh hp').abreast id
  | shaders program =>
      refine rel_lookup (h.find?_eq _ program) fun p _ => .some ⟨?_, h.spared⟩
      have hid : s'.idOf = s.idOf := by
        funext r
        rw [idOf, idOf, h.store]
      exact congrArg p.known.shaders.map hid
  | drawArrays program vertexArray mode first count =>
      exact h.draw hs program vertexArray (q := .drawArrays mode first count) _ trivial
  | drawElements program vertexArray mode count type offset =>
      exact h.draw hs program vertexArray (q := .drawElements mode count type offset) _ trivial

/-- Guards that do not restore may always be released, so the invariant is kept. -/
theorem Twin.inv_step (h : s.Twin True s') (hi : s.Inv) (ha : op.Admissible s.driver.live)
    {answer : op.Answer} (hs : s.step op = some (answer, s₁)) : s₁.Inv := by
  have hrestorable : ∀ g, s.released? op = some g → g.Restorable s.driver.live := by
    intro g hg hrestore
    obtain ⟨name, c, -, hname⟩ := of_released hg
    exact absurd ((h.lax name _ hname).2.symm.trans hrestore) Bool.false_ne_true
  obtain ⟨gone, hadvance, -⟩ := hi.step ha hrestorable hs
  exact hadvance.inv

/-! ## Runs -/

theorem agrees_adjust {d d' : Sim} (h : d.Agrees d') (a : Adjustment) :
    (a.apply d).Agrees (a.apply d') := by
  have he (d : Sim) : (a.apply d).core = a.apply d.core := by
    cases a <;> rfl
  have hcore : (a.apply d').core = (a.apply d).core := by
    rw [he, he, h.core]
  cases a <;> exact ⟨hcore, h.bound, h.vertexArrayState, h.calls, h.commands⟩

theorem Twin.start (config : Config) (hc : config.strictUnbind = false)
    {orders orders' : List (List Nat)} (ho : SameOrders orders orders') :
    (Session.start .fresh config orders).Twin True
      (Session.start .fresh { config with cacheBindings := false } orders') where
  single := ⟨rfl, rfl⟩
  twin :=
    { ready := (Inv.start config orders).sound.ready
      tied := fun _ => rfl
      agrees := .refl _
      lax := hc
      config := rfl
      textureUnits := rfl }
  store := rfl
  orders := ho
  vars _ := rfl
  lax := nofun

theorem Twin.adjust (h : s.Twin tied s') (a : Adjustment) :
    (s.adjust a).Twin tied (s'.adjust a) where
  single := h.single
  twin :=
    { ready := by
        refine ⟨rfl, h.twin.ready.coherent.congr (by cases a <;> rfl) fun o ho => ?_, nofun⟩
        cases a <;> exact ho
      tied := fun ht => (h.twin.tied ht).congr (by cases a <;> rfl) fun _ => by cases a <;> rfl
      agrees := agrees_adjust h.twin.agrees a
      lax := h.twin.lax
      config := h.twin.config
      textureUnits := h.twin.textureUnits }
  store := h.store
  orders := h.orders
  vars := h.vars
  lax := h.lax

end Session

/-- What a client does next, or what is set up in the driver. -/
inductive Move where
  | adjust (a : Adjustment)
  | perform (op : Op)

abbrev Move.Answer : Move → Type
  | adjust _ => Unit
  | perform op => op.Answer

/-- A move with its answer and the driver afterwards. -/
structure Moment where
  move : Move
  answer : move.Answer
  driver : Sim

/-- The same move in two runs: the answers are alike and the drivers agree. -/
inductive Moment.Alike : Moment → Moment → Prop where
  | adjust (a : Adjustment) {d d' : Sim} (h : d.Agrees d') :
    Alike ⟨.adjust a, (), d⟩ ⟨.adjust a, (), d'⟩
  | perform (op : Op) {answer answer' : op.Answer} {d d' : Sim} (ha : op.Alike answer answer')
    (h : d.Agrees d') : Alike ⟨.perform op, answer, d⟩ ⟨.perform op, answer', d'⟩

namespace Session

variable {s s' s₁ s₁' : Session Sim} {tied tied' : Prop}

/-- What is seen along a run. There is no run if an operation does not exist or breaks the rule. -/
def trail (rule : Rule) [∀ s op s', Decidable (rule s op s')] (s : Session Sim) :
    List Move → Option (List Moment)
  | [] => some []
  | .adjust a :: moves => do
    let rest ← (s.adjust a).trail rule moves
    pure (⟨.adjust a, (), (s.adjust a).driver⟩ :: rest)
  | .perform op :: moves => do
    let (answer, s') ← s.step op
    if rule s op s' then
      let rest ← s'.trail rule moves
      pure (⟨.perform op, answer, s'.driver⟩ :: rest)
    else none

/-- Binds are of live objects, and no buffer and no vertex array is deleted. -/
def Sparing : Rule := fun s op s' => op.Admissible s.driver.live ∧ s'.driver.Spared

instance (s : Session Sim) (op : Op) (s' : Session Sim) : Decidable (Sparing s op s') :=
  inferInstanceAs (Decidable (_ ∧ _))

theorem Twin.sparing_iff (h : s.Twin tied s') (h' : s₁.Twin tied' s₁') (op : Op) :
    Sparing s' op s₁' ↔ Sparing s op s₁ := by
  have hlive : s'.driver.live = s.driver.live := h.twin.agrees.live
  have hdeleted : s₁'.driver.deleted = s₁.driver.deleted := h'.twin.agrees.deleted
  rw [Sparing, Sparing, Sim.Spared, Sim.Spared, hlive, hdeleted]

theorem trail_eq_none {op : Op} (ha : ¬ op.Admissible s.driver.live) (moves : List Move) :
    s.trail Sparing (.perform op :: moves) = none := by
  rw [Session.trail]
  cases s.step op with
  | none => rfl
  | some x => exact if_neg fun hr => ha hr.1

theorem Twin.trail (h : s.Twin True s') (hi : s.Inv) (moves : List Move) :
    Option.Rel (List.Forall₂ Moment.Alike) (s.trail Sparing moves) (s'.trail Sparing moves) := by
  induction moves generalizing s s' with
  | nil => exact .some .nil
  | cons move moves ih =>
      cases move with
      | adjust a =>
          have hadjust := h.adjust a
          refine rel_bind (ih hadjust (hi.adjust a)) fun rest rest' _ hrest => ?_
          exact .some (.cons (.adjust a hadjust.twin.agrees) hrest)
      | perform op =>
          by_cases ha : op.Admissible s.driver.live
          · refine rel_bind (h.step hi ha) ?_
            rintro ⟨answer, s₁⟩ ⟨answer', s₁'⟩ hs ⟨halike, htwin⟩
            have hiff := h.sparing_iff htwin op
            by_cases hrule : Sparing s op s₁
            · have hrest := ih (htwin.mono fun _ => hrule.2) (h.inv_step hi ha hs)
              simp only [if_pos hrule, if_pos (hiff.mpr hrule)]
              refine rel_bind hrest fun rest rest' _ hrest => ?_
              exact .some (.cons (.perform op halike htwin.twin.agrees) hrest)
            · simp only [if_neg hrule, if_neg (mt hiff.mp hrule)]
              exact .none
          · have ha' : ¬ op.Admissible s'.driver.live := by
              have hlive : s'.driver.live = s.driver.live := h.twin.agrees.live
              rw [hlive]
              exact ha
            rw [trail_eq_none ha, trail_eq_none ha']
            exact .none

/-- Whether a context leaves out binds cannot be seen in any answer, but for those of the cache
itself, nor in the driver, but for the binds that it was asked for. The order in which a framebuffer
gives back what is attached to it is settled by neither context, and is the same in both runs. -/
theorem caching_transparent (config : Config) {orders orders' : List (List Nat)}
    (ho : SameOrders orders orders') (moves : List Move) :
    Option.Rel (List.Forall₂ Moment.Alike)
      ((Session.start .fresh
        { config with cacheBindings := true, strictUnbind := false } orders).trail Sparing moves)
      ((Session.start .fresh
        { config with cacheBindings := false, strictUnbind := false } orders').trail
          Sparing moves) :=
  (Twin.start { config with cacheBindings := true, strictUnbind := false } rfl ho).trail
    (.start _ orders) moves

/-- A framebuffer that alone kept two renderbuffers goes, and a renderbuffer is made. -/
def lastOwner : List Move :=
  [.create "f" 0 (.framebuffer .draw), .create "a" 0 .renderbuffer, .create "b" 0 .renderbuffer,
    .attachRenderbuffer "f" (.color 0) "a", .attachRenderbuffer "f" .depth "b", .bind "f",
    .drop "a", .drop "b", .drop "f", .create "c" 0 .renderbuffer].map .perform

/-- What was deleted by the end of a run. -/
def deletedIn (moments : List Moment) : List (Kind × Id) :=
  moments.getLast?.elim [] (·.driver.deleted)

theorem deletedIn_of_alike {moments moments' : List Moment}
    (h : List.Forall₂ Moment.Alike moments moments') : deletedIn moments' = deletedIn moments := by
  induction h with
  | nil => rfl
  | cons hm hrest ih =>
      cases hrest with
      | nil => cases hm <;> exact Sim.Agrees.deleted ‹_›
      | cons => exact ih

/-- With the same order in both runs, the renderbuffers go in that order in both. -/
theorem caching_transparent_of_lastOwner : ∃ moments moments',
    SameOrders [[1]] [[1]] ∧
    (Session.start .fresh { cacheBindings := true } [[1]]).trail Sparing lastOwner =
      some moments ∧
    (Session.start .fresh { cacheBindings := false } [[1]]).trail Sparing lastOwner =
      some moments' ∧
    List.Forall₂ Moment.Alike moments moments' ∧
    deletedIn moments = [(.framebuffer, 1), (.renderbuffer, 1), (.renderbuffer, 2)] := by
  have hsame : SameOrders [[1]] [[1]] := fun _ => rfl
  have hrun : ((Session.start .fresh { cacheBindings := true } [[1]]).trail Sparing
      lastOwner).map deletedIn =
      some [(.framebuffer, 1), (.renderbuffer, 1), (.renderbuffer, 2)] := by
    cbv
  obtain ⟨moments, hm, hdeleted⟩ := Option.map_eq_some_iff.mp hrun
  obtain ⟨moments', hm', halike⟩ := exists_of_rel (caching_transparent {} hsame lastOwner) hm
  exact ⟨moments, moments', hsame, hm, hm', halike, hdeleted⟩

/-- With an order of its own in each run, the renderbuffers go in another order in the second. -/
theorem not_alike_of_other_orders :
    ¬ Option.Rel (List.Forall₂ Moment.Alike)
      ((Session.start .fresh { cacheBindings := true } []).trail Sparing lastOwner)
      ((Session.start .fresh { cacheBindings := false } [[1]]).trail Sparing lastOwner) := by
  intro h
  have hrun : ((Session.start .fresh { cacheBindings := true } []).trail Sparing
      lastOwner).map deletedIn =
      some [(.framebuffer, 1), (.renderbuffer, 2), (.renderbuffer, 1)] := by
    cbv
  have hrun' : ((Session.start .fresh { cacheBindings := false } [[1]]).trail Sparing
      lastOwner).map deletedIn =
      some [(.framebuffer, 1), (.renderbuffer, 1), (.renderbuffer, 2)] := by
    cbv
  obtain ⟨moments, hm, hdeleted⟩ := Option.map_eq_some_iff.mp hrun
  obtain ⟨moments', hm', halike⟩ := exists_of_rel h hm
  rw [hm', Option.map_some, deletedIn_of_alike halike, hdeleted] at hrun'
  cases hrun'

/-- The second bind of a buffer reaches the driver of the second context only. -/
example : [true, false].map (fun cacheBindings =>
      ((Session.start .fresh { cacheBindings }).trail Sparing
        [.perform (.create "b" 0 (.buffer .array)), .perform (.bind "b"),
          .perform (.bind "b")]).map fun moments =>
        moments.map fun m => (m.driver.calls.filter (·.isBind)).length) =
    [some [0, 1, 1], some [0, 1, 2]] := by
  cbv

end Session

end GraphicsObjects
