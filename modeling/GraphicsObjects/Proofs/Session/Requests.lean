import GraphicsObjects.Proofs.Object.Requests
import GraphicsObjects.Proofs.Ownership.Steps
import GraphicsObjects.Proofs.Session.Runs
import GraphicsObjects.Proofs.Simulation.Runs

/-!
# Sessions by their requests

Whatever a client does, the driver has served requests afterwards, so that what holds in all runs of
the driver holds in all sessions. A store is replaced only by the operations that give one to a
buffer, and other operations leave what is known of buffers as it was.
-/

namespace GraphicsObjects

open Ownership ContextM SessionM

/-! ## Moves -/

namespace Session

/-- The driver served requests, and what is known of the buffers that there were is the same. If
`fills` holds, stores may have been replaced. -/
structure Moves (fills : Prop) (s s' : Session Sim) : Prop where
  served : s.driver.Served (Request.Permitted fills) s'.driver
  next : s.store.next ≤ s'.store.next
  buffers : ¬ fills → ∀ r b', r < s.store.next → s'.store.get? r = some b' →
    b'.content.payload.kind = .buffer → ∃ b, s.store.get? r = some b ∧ b.Same b'

variable {s s' s'' : Session Sim} {fills : Prop} {p : Payload} {r : Ref}

theorem Moves.trans (h : s.Moves fills s') (h' : s'.Moves fills s'') : s.Moves fills s'' where
  served := h.served.trans h'.served
  next := h.next.trans h'.next
  buffers hf r b'' hr hb'' hk := by
    obtain ⟨b', hb', hsame'⟩ := h'.buffers hf r b'' (Nat.lt_of_lt_of_le hr h.next) hb'' hk
    rw [hsame'.content] at hk
    obtain ⟨b, hb, hsame⟩ := h.buffers hf r b' hr hb' hk
    exact ⟨b, hb, hsame.trans hsame'⟩

theorem Moves.of_store (hd : s.driver.Served (Request.Permitted fills) s'.driver)
    (hs : s'.store = s.store) : s.Moves fills s' where
  served := hd
  next := Nat.le_of_eq (congrArg Store.next hs.symm)
  buffers _ _ b' _ hb' _ := ⟨b', hs ▸ hb', .refl b'⟩

theorem Moves.refl (fills : Prop) (s : Session Sim) : s.Moves fills s := .of_store .refl rfl

/-- References are given back in the store. -/
theorem moves_release (s : Session Sim) (rs : List Ref) :
    s.Moves fills { s with store := (s.store.release rs).2 } where
  served := .refl
  next := (next_release s.store rs).ge
  buffers _ _ _ _ hb' _ := get?_release hb'

theorem moves_add (s : Session Sim) (id : Id) (assigned : Bool) (o : Object) :
    s.Moves fills { s with store := (s.store.add id assigned o).2 } where
  served := .refl
  next := Nat.le_succ _
  buffers _ r b' hr hb' _ := by
    change (s.store.add id assigned o).2.get? r = some b' at hb'
    rw [Store.get?_add, if_neg (Nat.ne_of_lt hr)] at hb'
    exact ⟨b', hb', .refl b'⟩

end Session

/-- The work makes moves only. -/
def SessionM.Moving {α : Type} (fills : Prop) (act : SessionM Sim α) : Prop :=
  ∀ s : Session Sim, s.Moves fills (act s).2

namespace SessionM

variable {α β : Type} {fills : Prop} {p : Payload} {r : Ref}

theorem Moving.pure (a : α) : Moving fills (Pure.pure a) := fun s => .refl fills s

theorem Moving.get : Moving fills (MonadState.get : SessionM Sim (Session Sim)) :=
  fun s => .refl fills s

theorem Moving.bind {x : SessionM Sim α} {f : α → SessionM Sim β} (hx : Moving fills x)
    (hf : ∀ a, Moving fills (f a)) : Moving fills (x >>= f) :=
  fun s => (hx s).trans (hf (x s).1 (x s).2)

theorem Moving.forM {xs : List α} {f : α → SessionM Sim PUnit} (h : ∀ x, Moving fills (f x)) :
    Moving fills (xs.forM f) := by
  induction xs with
  | nil => exact .pure _
  | cons x xs ih => exact .bind (h x) fun _ => ih

theorem moving_inContext {act : ContextM Sim α} (c : ContextId)
    (h : Sends (Request.Permitted fills) act) : Moving fills (inContext c act) :=
  fun s => .of_store (h (s.enter c)) rfl

theorem moving_retain (r : Ref) : Moving fills (retain r : SessionM Sim Unit) := fun _ => {
  served := .refl
  next := le_rfl
  buffers := fun _ _ _ _ hb' _ => get?_recount hb' fun _ => ⟨rfl, rfl, rfl⟩ }

/-- What is known of an object of another kind may change. -/
theorem moving_setPayload (r : Ref) (hp : p.kind ≠ .buffer) :
    Moving fills (setPayload r p : SessionM Sim Unit) := fun s => {
  served := .refl
  next := le_rfl
  buffers := fun _ q b' _ hb' hk => by
    change (s.store.modify r _).get? q = some b' at hb'
    rw [Store.get?_modify] at hb'
    split at hb'
    · obtain ⟨b, -, rfl⟩ := Option.map_eq_some_iff.mp hb'
      exact absurd hk hp
    · exact ⟨b', hb', .refl b'⟩ }

/-- Where stores are replaced anything may be known of buffers. -/
theorem moving_setPayload_filled (r : Ref) (p : Payload) :
    Moving True (setPayload r p : SessionM Sim Unit) := fun _ => {
  served := .refl
  next := le_rfl
  buffers := fun hf => absurd trivial hf }

/-! ## Giving back -/

theorem moving_destroyBox (b : Box Object) : Moving fills (destroyBox b) := by
  unfold destroyBox
  split
  · exact .pure _
  · exact moving_inContext _ (routine_destroy _ _).permitted

theorem moving_giveBack (rs : List Ref) : Moving fills (giveBack rs) := by
  intro s
  have hdestroyed : Moving fills ((s.store.release rs).1.forM destroyBox) :=
    .forM moving_destroyBox
  exact (s.moves_release rs).trans (hdestroyed _)

theorem moving_dropHeld (held : Held) : Moving fills (dropHeld held) := by
  cases held with
  | object r => exact moving_giveBack [r]
  | guard c g => exact moving_inContext c (permitted_release g)

theorem moving_setVariable (name : String) (held : Held) :
    Moving fills (setVariable name held) := by
  refine .bind .get fun s => .bind (fun _ => .of_store .refl rfl) fun _ => ?_
  split
  · exact moving_dropHeld _
  · exact .pure _

/-! ## Creation -/

theorem moving_adopt (c : ContextId) (p : Payload) {made : ContextM Sim (Except Failure Id)}
    (h : Sends (Request.Permitted fills) made) : Moving fills (adopt c p made) := by
  refine .bind (moving_inContext c h) fun made => ?_
  cases made with
  | error e => exact .pure _
  | ok id => exact fun s => s.moves_add id true ⟨c, p⟩

theorem moving_newObject (c : ContextId) (p : Payload) : Moving fills (newObject c p) :=
  moving_adopt c p (routine_createObject _).permitted

theorem moving_newFramebuffer (c : ContextId) (target : FramebufferTarget) :
    Moving fills (newFramebuffer c target) :=
  .bind .get fun _ => moving_newObject c _

theorem moving_newShader (c : ContextId) (stage : ShaderStage) :
    Moving fills (newShader c stage) :=
  moving_adopt c _ (routine_createShader stage).permitted

theorem moving_newProgram (c : ContextId) : Moving fills (newProgram c) :=
  moving_adopt c _ routine_createProgram.permitted

theorem Moving.andThen {made : SessionM Sim (Except Failure (Ref × Id))}
    {act : Ref → Id → SessionM Sim Unit} (h : Moving fills made)
    (hact : ∀ r id, Moving fills (act r id)) : Moving fills (SessionM.andThen made act) := by
  refine .bind h fun made => ?_
  cases made with
  | error e => exact .pure _
  | ok x => exact .bind (hact x.1 x.2) fun _ => .pure _

theorem moving_newBufferWithData (c : ContextId) (target : BufferTarget) (data : Bytes)
    (usage : BufferUsage) : Moving True (newBufferWithData c target data usage) := by
  refine .andThen (moving_newObject c _) fun r id => ?_
  refine .bind (moving_inContext c (Buffer.apartly_setData _ data usage).permitted) fun b => ?_
  exact moving_setPayload_filled r _

theorem moving_newRenderbufferWithStorage (c : ContextId) (internalFormat : Enumerant)
    (width height : Nat) :
    Moving fills (newRenderbufferWithStorage c internalFormat width height) := by
  refine .andThen (moving_newObject c _) fun _ id => moving_inContext c ?_
  exact (Renderbuffer.plain_run (.setStorage internalFormat width height 0)).permitted

theorem moving_screen (c : ContextId) : Moving fills (screen c : SessionM Sim (Ref × Id)) :=
  fun s => s.moves_add 0 false _

theorem moving_newShaderWithSource (c : ContextId) (stage : ShaderStage) (source : String) :
    Moving fills (newShaderWithSource c stage source) := by
  refine .andThen (moving_newShader c stage) fun r id => .bind (moving_inContext c ?_) fun sh => ?_
  · exact .bind (Shader.routine_setSource _ source).plain.permitted fun sh =>
      sh.routine_compile.plain.permitted
  · exact moving_setPayload r nofun

theorem moving_newShaderFromFile (c : ContextId) (stage : ShaderStage) (contents : Option Bytes) :
    Moving fills (newShaderFromFile c stage contents) := by
  unfold newShaderFromFile
  split
  · exact .pure _
  · exact moving_newShaderWithSource c stage _

/-! ## Objects that are tied together -/

theorem moving_attach (fb : Found Framebuffer) (point : Attachment) (object : Ref) {q : Request}
    (site : Site) (hq : q.Permitted fills) : Moving fills (attach fb point object q site) := by
  refine .bind (moving_inContext _ (permitted_acquire _ _)) fun g => ?_
  refine .bind (moving_inContext _ (.bind (permitted_command hq) fun _ => .pure _)) fun _ => ?_
  refine .bind (moving_retain object) fun _ => .bind (moving_setPayload _ nofun) fun _ => ?_
  exact .bind (moving_giveBack _) fun _ => moving_inContext _ (permitted_release g)

theorem moving_attachTexture (fb : Found Framebuffer) (point : Attachment) (t : Found Texture)
    (part : Framebuffer.TexturePart) : Moving fills (attachTexture fb point t part) := by
  unfold attachTexture
  cases hq : fb.known.textureRequest point part t.known.target t.id with
  | error e => exact .pure _
  | ok q =>
      obtain ⟨image, level, layer, rfl⟩ := Framebuffer.of_textureRequest hq
      exact .bind (moving_attach fb point t.ref _ False.elim) fun _ => .pure _

theorem moving_keepBuffer (vao : Found VertexArray) (buffer : Ref) :
    Moving fills (keepBuffer vao buffer : SessionM Sim Unit) := by
  unfold keepBuffer
  split
  · exact .pure _
  · exact .bind (moving_retain buffer) fun _ => moving_setPayload _ nofun

theorem moving_setPointer (vao : Found VertexArray) (b : Found Buffer) (layout : VertexAttribute) :
    Moving fills (setPointer vao b layout) :=
  .bind (moving_inContext _ (VertexArray.routine_setPointer _ layout).plain.permitted) fun _ =>
    moving_keepBuffer vao b.ref

theorem moving_setIndexBuffer (vao : Found VertexArray) (b : Found Buffer) :
    Moving fills (setIndexBuffer vao b) :=
  .bind (moving_inContext _ (VertexArray.routine_setIndexBuffer _).permitted) fun _ =>
    moving_keepBuffer vao b.ref

theorem moving_ensureCompiled (sh : Found Shader) : Moving fills (ensureCompiled sh) := by
  unfold ensureCompiled
  split
  · exact .pure _
  · exact .bind (moving_inContext _ sh.known.routine_compile.plain.permitted) fun _ =>
      moving_setPayload _ nofun

theorem moving_attachShader (p : Found Program) (sh : Found Shader) :
    Moving fills (attachShader p sh) := by
  refine .bind (moving_ensureCompiled sh) fun _ => ?_
  refine .bind (moving_inContext _ (permitted_command False.elim)) fun _ => ?_
  split
  · exact .pure _
  · exact .bind (moving_retain sh.ref) fun _ => moving_setPayload _ nofun

theorem moving_detachShader (p : Found Program) (sh : Found Shader) :
    Moving fills (detachShader p sh) := by
  refine .bind (moving_inContext _ (permitted_command False.elim)) fun _ => ?_
  exact .bind (moving_setPayload _ nofun) fun _ => moving_giveBack _

theorem moving_attachShaderAt (program shader : Ref) :
    Moving fills (attachShaderAt program shader) := by
  refine .bind .get fun s => ?_
  split
  · exact moving_attachShader _ _
  · exact .pure _

theorem moving_linkAt (program : Ref) : Moving fills (linkAt program) := by
  refine .bind .get fun s => ?_
  split
  · exact .bind (moving_inContext _ (Program.routine_link _).permitted) fun _ =>
      moving_setPayload _ nofun
  · exact .pure _

theorem moving_newProgramWithShaders (c : ContextId) (shaders : List Ref) :
    Moving fills (newProgramWithShaders c shaders) := by
  refine .andThen (moving_newProgram c) fun r _ => ?_
  exact .bind (.forM (moving_attachShaderAt r)) fun _ => moving_linkAt r

end SessionM

/-! ## Operations -/

/-- The operation sends a request of the client's that replaces a store. -/
def ContextOp.Fills : ContextOp → Prop
  | request q => q.Fills
  | _ => False

theorem ContextOp.permitted_run (op : ContextOp) :
    Sends (Request.Permitted op.Fills) (op.run : ContextM Sim op.Answer) := by
  cases op with
  | config | activeBinding | isBound => exact .bind .get fun _ => .pure _
  | bind slot id => exact permitted_bind slot id
  | unbind slot => exact permitted_bind slot 0
  | interrupted slot id => exact (apartly_holding slot id (.pure _)).permitted
  | invalidateBinding => exact sends_updateCache _
  | invalidateBindings => exact .bind (sends_note _) fun _ => sends_updateCache _
  | pollError => exact plain_pollError.permitted
  | getInteger => exact (routine_getInteger _).plain.permitted
  | maxTextureUnits => exact routine_maxTextureUnits.plain.permitted
  | pixelStore => exact (routine_pixelStore _).plain.permitted
  | clear | clearColor | viewport => exact permitted_command False.elim
  | request q => exact sends_perform fun hq => hq

/-- The operation gives a buffer a new store. -/
def Op.Fills : Op → Prop
  | buffer _ op => op.Fills
  | create _ _ (.bufferWithData ..) => True
  | context _ op => op.Fills
  | _ => False

namespace Session

variable {s s' : Session Sim} {fills : Prop} {name : String} {α ρ : Type} {a : α}
variable {known? : Payload → Option ρ} {payload : ρ → Payload} {config : Config} {rule : Rule}

theorem moves_onObject {act : Id → ρ → ContextM Sim (α × ρ)}
    (hs : s.onObject known? payload name act = some (a, s'))
    (hact : ∀ id known, Sends (Request.Permitted fills) (act id known))
    (hp : ∀ known, (payload known).kind ≠ .buffer) : s.Moves fills s' := by
  obtain ⟨f, -, -, rfl⟩ := onObject_eq hs
  exact (moving_inContext f.context (hact _ _) s).trans (moving_setPayload f.ref (hp _) _)

theorem moves_inContextOf {act : Id → ρ → ContextM Sim α}
    (hs : s.inContextOf known? name act = some (a, s'))
    (hact : ∀ id known, Sends (Request.Permitted fills) (act id known)) : s.Moves fills s' := by
  obtain ⟨f, -, rfl⟩ := of_lookup hs
  exact moving_inContext f.context (hact _ _) s

theorem moves_buffer {op : BufferOp} {answer : op.Answer}
    (hs : s.onObject Payload.buffer? .buffer name op.run = some (answer, s')) :
    s.Moves op.Fills s' := by
  obtain ⟨f, hf, -, rfl⟩ := onObject_eq hs
  have hwork : s.Moves op.Fills (inContext f.context (op.run f.id f.known) s).2 :=
    moving_inContext f.context (f.known.permitted_run op) s
  refine hwork.trans ?_
  refine ⟨.refl, le_rfl, fun hfills r b' _ hb' _ => ?_⟩
  -- an operation that gives no store tells nothing new
  have hsame : (op.run f.id f.known (s.enter f.context)).1.2 = f.known := by
    cases op with
    | setData | allocate => exact absurd trivial hfills
    | setSubData | size | target => rfl
  obtain ⟨b, hbox, -, hc⟩ := box?_of_find? Payload.reads_buffer hf
  obtain ⟨-, hb⟩ := get?_of_box? hbox
  change (s.store.modify f.ref _).get? r = some b' at hb'
  rw [Store.get?_modify, hsame] at hb'
  split at hb'
  · rename_i hr
    rw [hr, hb] at hb'
    cases hb'
    refine ⟨b, hr ▸ hb, rfl, rfl, ?_⟩
    change ({ b.content with payload := .buffer f.known } : Object) = b.content
    rw [hc]
  · exact ⟨b', hb', .refl b'⟩

theorem moves_rebind {bound : Bool} {answer : Unit}
    (hs : s.rebind name bound = some (answer, s')) : s.Moves fills s' := by
  simp only [Session.rebind, Option.bind_eq_bind, Option.bind_eq_some_iff, Option.pure_def,
    Option.some.injEq] at hs
  obtain ⟨⟨r, b⟩, -, slot, -, he⟩ := hs
  obtain rfl : _ = s' := congrArg Prod.snd he
  exact moving_inContext _ (permitted_bind _ _) s

theorem moves_draw {program vertexArray : String} {q : Request} {site : Site} {answer : Unit}
    (hs : s.draw program vertexArray (fun p v => Program.draw p v q site) = some (answer, s'))
    (hq : q.Permitted fills) : s.Moves fills s' := by
  obtain ⟨p, v, -, -, rfl⟩ := of_lookups hs
  exact moving_inContext _ (Program.sends_draw v.id False.elim (fun _ _ _ => False.elim) hq site) s

theorem moves_make {c : ContextId} {what : Creation} {made : Except Failure (Ref × Id)}
    (hm : s.make c what = some (made, s')) : s.Moves (Op.create name c what).Fills s' := by
  have of_eq {act : SessionM Sim (Except Failure (Ref × Id))} {fills : Prop}
      (h : Moving fills act) (he : some (act s) = some (made, s')) : s.Moves fills s' := by
    obtain rfl : _ = s' := congrArg Prod.snd (Option.some.inj he)
    exact h s
  cases what with
  | buffer | texture | renderbuffer | vertexArray => exact of_eq (moving_newObject c _) hm
  | framebuffer target => exact of_eq (moving_newFramebuffer c target) hm
  | bufferWithData target data usage =>
      exact of_eq (moving_newBufferWithData c target data.bytes usage) hm
  | renderbufferWithStorage internalFormat width height =>
      exact of_eq (moving_newRenderbufferWithStorage c internalFormat width height) hm
  | screen =>
      cases hm
      exact moving_screen c s
  | shader stage => exact of_eq (moving_newShader c stage) hm
  | shaderWithSource stage source => exact of_eq (moving_newShaderWithSource c stage source) hm
  | shaderFromFile stage contents => exact of_eq (moving_newShaderFromFile c stage contents) hm
  | program => exact of_eq (moving_newProgram c) hm
  | programWithShaders shaders =>
      simp only [Session.make, Option.bind_eq_bind, Option.bind_eq_some_iff, Option.pure_def] at hm
      obtain ⟨found, -, he⟩ := hm
      exact of_eq (moving_newProgramWithShaders c _) he

theorem moves_create {c : ContextId} {what : Creation} {made : Except Failure Id}
    (hs : s.create name c what = some (made, s')) : s.Moves (Op.create name c what).Fills s' := by
  simp only [Session.create, Option.bind_eq_bind, Option.bind_eq_some_iff] at hs
  obtain ⟨⟨made', s₁⟩, hm, he⟩ := hs
  have hmake : s.Moves (Op.create name c what).Fills s₁ := moves_make hm
  cases made' with
  | error e =>
      cases he
      exact hmake
  | ok x =>
      cases he
      exact hmake.trans (moving_setVariable _ _ _)

/-- Every operation makes moves, whatever it binds and in whatever context. -/
theorem moves_step {op : Op} {answer : op.Answer} (hs : s.step op = some (answer, s')) :
    s.Moves op.Fills s' := by
  cases op with
  | addContext config =>
      cases hs
      exact .of_store .refl rfl
  | context c op =>
      simp only [Session.step] at hs
      split at hs
      · obtain rfl : _ = s' := congrArg Prod.snd (Option.some.inj hs)
        exact moving_inContext c op.permitted_run s
      · cases hs
  | acquire name c slot id =>
      simp only [Session.step] at hs
      split at hs
      · obtain rfl : _ = s' := congrArg Prod.snd (Option.some.inj hs)
        exact (moving_inContext c (permitted_acquire slot id) s).trans (moving_setVariable _ _ _)
      · cases hs
  | create name c what =>
      simp only [Session.step] at hs
      split at hs
      · exact moves_create hs
      · cases hs
  | clone source name =>
      simp only [Session.step, Option.bind_eq_bind, Option.bind_eq_some_iff, Option.pure_def] at hs
      obtain ⟨⟨r, b⟩, -, he⟩ := hs
      obtain rfl : _ = s' := congrArg Prod.snd (Option.some.inj he)
      exact (moving_retain r s).trans (moving_setVariable _ _ _)
  | drop target =>
      obtain ⟨held, -, rfl⟩ := of_lookup hs
      have herased : s.Moves False { s with vars := s.vars.erase target } := .of_store .refl rfl
      exact herased.trans (moving_dropHeld held _)
  | bind target | unbind target => exact moves_rebind hs
  | info | bufferCount | shaders | attachment =>
      obtain ⟨_, -, rfl⟩ := of_lookup hs
      exact .refl ..
  | buffer target op => exact moves_buffer hs
  | texture target op =>
      exact moves_onObject hs (fun _ t => (t.plain_run op).permitted) (by simp [Payload.kind])
  | renderbuffer target op =>
      simp only [Session.step] at hs
      exact moves_inContextOf hs fun _ _ => (Renderbuffer.plain_run op).permitted
  | framebuffer target op =>
      exact moves_inContextOf hs fun _ f => (f.plain_run op).permitted
  | shader target op =>
      exact moves_onObject hs (fun _ sh => (sh.plain_run op).permitted) (by simp [Payload.kind])
  | program target op =>
      exact moves_onObject hs (fun _ p => (p.routine_run_apart op).permitted)
        (by simp [Payload.kind])
  | attachRenderbuffer framebuffer point renderbuffer =>
      obtain ⟨fb, rb, -, -, rfl⟩ := of_lookups hs
      have hq : (fb.known.renderbufferRequest point rb.id).Permitted False := False.elim
      exact moving_attach fb point rb.ref _ hq s
  | attachTexture framebuffer point texture part =>
      obtain ⟨fb, t, -, -, rfl⟩ := of_lookups hs
      exact moving_attachTexture fb point t part s
  | enableAttribute vertexArray index enable =>
      simp only [Session.step] at hs
      exact moves_inContextOf hs fun _ _ =>
        (VertexArray.routine_enableAttribute index enable).plain.permitted
  | setPointer vertexArray buffer layout =>
      obtain ⟨v, b, -, -, rfl⟩ := of_lookups hs
      exact moving_setPointer v b layout s
  | setIndexBuffer vertexArray buffer =>
      obtain ⟨v, b, -, -, rfl⟩ := of_lookups hs
      exact moving_setIndexBuffer v b s
  | attachShader program shader =>
      obtain ⟨p, sh, -, -, rfl⟩ := of_lookups hs
      exact moving_attachShader p sh s
  | detachShader program shader =>
      obtain ⟨p, sh, -, -, rfl⟩ := of_lookups hs
      exact moving_detachShader p sh s
  | drawArrays | drawElements => exact moves_draw hs False.elim

/-! ## Runs -/

/-- The driver of a session has gone through a run of its own. -/
theorem Reachable.after (h : Reachable rule config s) : ∃ is, s.driver = Sim.after is := by
  have serves {d d' : Sim} {allowed : Request → Prop} (hd : ∃ is, d = Sim.after is)
      (hserved : d.Served allowed d') : ∃ is, d' = Sim.after is := by
    induction hserved with
    | refl => exact hd
    | tail _ hq ih =>
        obtain ⟨is, rfl⟩ := ih
        obtain ⟨q, -, rfl⟩ := hq
        refine ⟨is ++ [.request q], ?_⟩
        rw [Sim.after_concat]
        rfl
  induction h with
  | start => exact ⟨[], rfl⟩
  | adjust a _ ih =>
      obtain ⟨is, hd⟩ := ih
      refine ⟨is ++ [.setUp a], ?_⟩
      rw [Sim.after_concat, ← hd]
      rfl
  | step _ hs _ ih => exact serves ih (moves_step hs).served

end Session

end GraphicsObjects
