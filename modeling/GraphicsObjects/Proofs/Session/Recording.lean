import GraphicsObjects.Proofs.Object.Recording

/-!
# Sessions over a driver that keeps what it is asked

A session over a recording driver makes the steps of the session over the driver itself, and no
others. So every run is one over a recording driver; there it can be seen what was to be deleted and
when.
-/

namespace GraphicsObjects

open Ownership

/-- The session over the driver itself. -/
def Session.plain (s : Session Recording) : Session Sim :=
  { driver := s.driver.sim, contexts := s.contexts, trace := s.trace, store := s.store,
    vars := s.vars, orders := s.orders }

@[simp] theorem Session.plain_vars (s : Session Recording) : s.plain.vars = s.vars := rfl

@[simp] theorem Session.plain_follow? {ρ : Type} (s : Session Recording)
    (known? : Payload → Option ρ) (r : Ref) : s.plain.follow? known? r = s.follow? known? r := rfl

namespace SessionM

/-- The same work over a recording driver and over the driver itself. -/
abbrev Recorded {α : Type} (x : SessionM Recording α) (y : SessionM Sim α) : Prop :=
  Alongside Session.plain (fun s => s.driver.Frank s.trace) x y

variable {α : Type} {c : ContextId}

theorem recorded_inContext {x : ContextM Recording α} {y : ContextM Sim α} (c : ContextId)
    (h : ContextM.Recorded x y) : Recorded (inContext c x) (inContext c y) := by
  intro s
  obtain ⟨hy, hfrank⟩ := h (s.enter c)
  refine ⟨?_, hfrank⟩
  change ((y (s.enter c).plain).1, s.plain.leave c (y (s.enter c).plain).2) = _
  rw [hy]
  rfl

theorem recorded_setPayload (r : Ref) (p : Payload) :
    Recorded (setPayload r p) (setPayload r p) :=
  .change (fun _ => rfl) fun _ h => h

theorem recorded_retain (r : Ref) : Recorded (retain r) (retain r) :=
  .change (fun _ => rfl) fun _ h => h

/-! ## Giving back -/

theorem recorded_destroyBox (b : Box Object) : Recorded (destroyBox b) (destroyBox b) :=
  .choice (.pure _) (recorded_inContext _ (ContextM.recorded_destroy _ _))

theorem recorded_giveBack (rs : List Ref) : Recorded (giveBack rs) (giveBack rs) := by
  intro s
  let released := s.store.release rs
  have h : Recorded (released.1.forM destroyBox) (released.1.forM destroyBox) :=
    .forM _ recorded_destroyBox
  exact h { s with store := released.2 }

theorem recorded_dropHeld (held : Held) : Recorded (dropHeld held) (dropHeld held) := by
  cases held with
  | object r => exact recorded_giveBack [r]
  | guard c g => exact recorded_inContext c (ContextM.recorded_release g)

theorem recorded_setVariable (name : String) (held : Held) :
    Recorded (setVariable name held) (setVariable name held) := by
  refine .reading fun s => .bind (.change (fun _ => rfl) fun _ h => h) fun _ => ?_
  simp only [Session.plain_vars]
  cases s.vars.get? name with
  | none => exact .pure _
  | some old => exact recorded_dropHeld old

/-! ## Creation -/

theorem recorded_adopt (c : ContextId) (p : Payload) {made : ContextM Recording (Except Failure Id)}
    {made' : ContextM Sim (Except Failure Id)} (h : ContextM.Recorded made made') :
    Recorded (adopt c p made) (adopt c p made') := by
  refine .bind (recorded_inContext c h) fun made => ?_
  cases made with
  | error e => exact .pure _
  | ok _ => exact .reading fun s => .bind (.change (fun _ => rfl) fun _ h => h) fun _ => .pure _

theorem recorded_newObject (c : ContextId) (p : Payload) :
    Recorded (newObject c p) (newObject c p) :=
  recorded_adopt c p (ContextM.recorded_createObject _)

theorem recorded_andThen {made : SessionM Recording (Except Failure (Ref × Id))}
    {made' : SessionM Sim (Except Failure (Ref × Id))} {act : Ref → Id → SessionM Recording Unit}
    {act' : Ref → Id → SessionM Sim Unit} (h : Recorded made made')
    (hact : ∀ r id, Recorded (act r id) (act' r id)) :
    Recorded (andThen made act) (andThen made' act') := by
  refine .bind h fun made => ?_
  cases made with
  | error e => exact .pure _
  | ok x => exact .bind (hact x.1 x.2) fun _ => .pure _

theorem recorded_newFramebuffer (c : ContextId) (target : FramebufferTarget) :
    Recorded (newFramebuffer c target) (newFramebuffer c target) :=
  .reading fun _ => recorded_newObject c _

theorem recorded_screen (c : ContextId) : Recorded (screen c) (screen c) :=
  .reading fun _ => .bind (.change (fun _ => rfl) fun _ h => h) fun _ => .pure _

theorem recorded_newBufferWithData (c : ContextId) (target : BufferTarget) (data : Bytes)
    (usage : BufferUsage) :
    Recorded (newBufferWithData c target data usage) (newBufferWithData c target data usage) :=
  recorded_andThen (recorded_newObject c _) fun r _ =>
    .bind (recorded_inContext c (Buffer.recorded_setStore _ _ _ _ _)) fun _ =>
      recorded_setPayload r _

theorem recorded_newRenderbufferWithStorage (c : ContextId) (internalFormat : Enumerant)
    (width height : Nat) :
    Recorded (newRenderbufferWithStorage c internalFormat width height)
      (newRenderbufferWithStorage c internalFormat width height) :=
  recorded_andThen (recorded_newObject c _) fun _ id =>
    recorded_inContext c (Renderbuffer.recorded_run (.setStorage internalFormat width height 0) id)

theorem recorded_newShader (c : ContextId) (stage : ShaderStage) :
    Recorded (newShader c stage) (newShader c stage) :=
  recorded_adopt c _ (ContextM.recorded_createShader stage)

theorem recorded_newShaderWithSource (c : ContextId) (stage : ShaderStage) (source : String) :
    Recorded (newShaderWithSource c stage source) (newShaderWithSource c stage source) := by
  refine recorded_andThen (recorded_newShader c stage) fun r id => .bind ?_ fun _ =>
    recorded_setPayload r _
  exact recorded_inContext c (.bind (Shader.recorded_setSource _ _ _) fun sh =>
    sh.recorded_compile id)

theorem recorded_newShaderFromFile (c : ContextId) (stage : ShaderStage) (contents : Option Bytes) :
    Recorded (newShaderFromFile c stage contents) (newShaderFromFile c stage contents) := by
  unfold newShaderFromFile
  cases Shader.readSource contents with
  | error e => exact .pure _
  | ok source => exact recorded_newShaderWithSource c stage source

theorem recorded_newProgram (c : ContextId) : Recorded (newProgram c) (newProgram c) :=
  recorded_adopt c _ ContextM.recorded_createProgram

/-! ## Links -/

theorem recorded_attach (fb : Found Framebuffer) (point : Attachment) (object : Ref) {q : Request}
    (hq : q.deletes = []) (site : Site) :
    Recorded (attach fb point object q site) (attach fb point object q site) := by
  refine .bind (recorded_inContext _ (ContextM.recorded_acquire _ _)) fun g => .bind ?_ fun _ => ?_
  · exact recorded_inContext _ (.bind (ContextM.recorded_command hq site) fun _ => .pure _)
  · refine .bind (recorded_retain object) fun _ => .bind (recorded_setPayload _ _) fun _ => ?_
    exact .bind (recorded_giveBack _) fun _ => recorded_inContext _ (ContextM.recorded_release g)

theorem recorded_attachTexture (fb : Found Framebuffer) (point : Attachment) (t : Found Texture)
    (part : Framebuffer.TexturePart) :
    Recorded (attachTexture fb point t part) (attachTexture fb point t part) := by
  unfold attachTexture
  cases hq : fb.known.textureRequest point part t.known.target t.id with
  | error e => exact .pure _
  | ok q =>
      obtain ⟨image, level, layer, rfl⟩ := Framebuffer.of_textureRequest hq
      exact .bind (recorded_attach fb point t.ref rfl _) fun _ => .pure _

theorem recorded_keepBuffer (vao : Found VertexArray) (buffer : Ref) :
    Recorded (keepBuffer vao buffer) (keepBuffer vao buffer) :=
  .choice (.pure _) (.bind (recorded_retain buffer) fun _ => recorded_setPayload _ _)

theorem recorded_setPointer (vao : Found VertexArray) (b : Found Buffer)
    (layout : VertexAttribute) :
    Recorded (setPointer vao b layout) (setPointer vao b layout) :=
  .bind (recorded_inContext _ (VertexArray.recorded_setPointer _ _ _)) fun _ =>
    recorded_keepBuffer vao b.ref

theorem recorded_setIndexBuffer (vao : Found VertexArray) (b : Found Buffer) :
    Recorded (setIndexBuffer vao b) (setIndexBuffer vao b) :=
  .bind (recorded_inContext _ (VertexArray.recorded_setIndexBuffer _ _)) fun _ =>
    recorded_keepBuffer vao b.ref

theorem recorded_ensureCompiled (sh : Found Shader) :
    Recorded (ensureCompiled sh) (ensureCompiled sh) :=
  .choice (.pure _) (.bind (recorded_inContext _ (sh.known.recorded_compile sh.id)) fun _ =>
    recorded_setPayload _ _)

theorem recorded_attachShader (p : Found Program) (sh : Found Shader) :
    Recorded (attachShader p sh) (attachShader p sh) := by
  refine .bind (recorded_ensureCompiled sh) fun _ => .bind ?_ fun _ => ?_
  · exact recorded_inContext _ (ContextM.recorded_command rfl _)
  · exact .choice (.pure _) (.bind (recorded_retain _) fun _ => recorded_setPayload _ _)

theorem recorded_detachShader (p : Found Program) (sh : Found Shader) :
    Recorded (detachShader p sh) (detachShader p sh) := by
  refine .bind (recorded_inContext _ (ContextM.recorded_command rfl _)) fun _ => ?_
  exact .bind (recorded_setPayload _ _) fun _ => recorded_giveBack _

theorem recorded_attachShaderAt (program shader : Ref) :
    Recorded (attachShaderAt program shader) (attachShaderAt program shader) := by
  refine .reading fun s => ?_
  simp only [Session.plain_follow?]
  cases s.follow? Payload.program? program with
  | none => exact .pure _
  | some p =>
      cases s.follow? Payload.shader? shader with
      | none => exact .pure _
      | some sh => exact recorded_attachShader p sh

theorem recorded_linkAt (program : Ref) : Recorded (linkAt program) (linkAt program) := by
  refine .reading fun s => ?_
  simp only [Session.plain_follow?]
  cases s.follow? Payload.program? program with
  | none => exact .pure _
  | some p =>
      exact .bind (recorded_inContext _ (p.known.recorded_link p.id)) fun _ =>
        recorded_setPayload _ _

theorem recorded_newProgramWithShaders (c : ContextId) (shaders : List Ref) :
    Recorded (newProgramWithShaders c shaders) (newProgramWithShaders c shaders) :=
  recorded_andThen (recorded_newProgram c) fun r _ =>
    .bind (.forM _ (recorded_attachShaderAt r)) fun _ => recorded_linkAt r

end SessionM

namespace Session

open SessionM

variable {α β ρ : Type} {s s' : Session Recording} {op : Op}

/-! ## Steps -/

/-- What can be done over a recording driver can be done over the driver itself, and the other way
round. -/
def Beside (s : Session Recording) (x : Option (α × Session Recording))
    (y : Option (α × Session Sim)) : Prop :=
  y = x.map (fun p => (p.1, p.2.plain)) ∧
    ∀ p ∈ x, s.driver.Frank s.trace → p.2.driver.Frank p.2.trace

theorem Beside.of_recorded {x : SessionM Recording α} {y : SessionM Sim α} (h : Recorded x y) :
    s.Beside (some (x s)) (some (y s.plain)) := by
  refine ⟨congrArg some (h s).1, ?_⟩
  rintro _ ⟨⟩
  exact (h s).2

theorem Beside.none : s.Beside (none : Option (α × Session Recording)) none := ⟨rfl, nofun⟩

theorem Beside.choice {p : Prop} [Decidable p] {x x' : Option (α × Session Recording)}
    {y y' : Option (α × Session Sim)} (h : s.Beside x y) (h' : s.Beside x' y') :
    s.Beside (if p then x else x') (if p then y else y') := by
  split
  · exact h
  · exact h'

theorem Beside.bind {x : Option (α × Session Recording)} {y : Option (α × Session Sim)}
    {f : α × Session Recording → Option (β × Session Recording)}
    {g : α × Session Sim → Option (β × Session Sim)} (h : s.Beside x y)
    (hf : ∀ a (t : Session Recording), t.Beside (f (a, t)) (g (a, t.plain))) :
    s.Beside (x >>= f) (y >>= g) := by
  obtain ⟨rfl, hfrank⟩ := h
  cases x with
  | none => exact .none
  | some p =>
      obtain ⟨hg, hfrank'⟩ := hf p.1 p.2
      exact ⟨hg, fun q hq h => hfrank' q hq (hfrank p rfl h)⟩

/-- What is looked up is the same in both. -/
theorem Beside.lookup {found : Option β} {f : β → Option (α × Session Recording)}
    {g : β → Option (α × Session Sim)} (h : ∀ b, s.Beside (f b) (g b)) :
    s.Beside (found >>= f) (found >>= g) := by
  cases found with
  | none => exact .none
  | some b => exact h b

theorem Beside.onObject {known? : Payload → Option ρ} {payload : ρ → Payload} {target : String}
    {act : Id → ρ → ContextM Recording (α × ρ)} {act' : Id → ρ → ContextM Sim (α × ρ)}
    (h : ∀ id known, ContextM.Recorded (act id known) (act' id known)) :
    s.Beside (s.onObject known? payload target act) (s.plain.onObject known? payload target act') :=
  .lookup fun o => .of_recorded (.bind (recorded_inContext _ (h o.id o.known)) fun _ =>
    .bind (recorded_setPayload _ _) fun _ => .pure _)

theorem Beside.inContextOf {known? : Payload → Option ρ} {target : String}
    {act : Id → ρ → ContextM Recording α} {act' : Id → ρ → ContextM Sim α}
    (h : ∀ id known, ContextM.Recorded (act id known) (act' id known)) :
    s.Beside (s.inContextOf known? target act) (s.plain.inContextOf known? target act') :=
  .lookup fun o => .of_recorded (recorded_inContext _ (h o.id o.known))

theorem beside_make (s : Session Recording) (c : ContextId) (what : Creation) :
    s.Beside (s.make c what) (s.plain.make c what) := by
  cases what with
  | buffer | texture | renderbuffer | vertexArray => exact .of_recorded (recorded_newObject c _)
  | bufferWithData => exact .of_recorded (recorded_newBufferWithData c _ _ _)
  | renderbufferWithStorage => exact .of_recorded (recorded_newRenderbufferWithStorage c _ _ _)
  | framebuffer target => exact .of_recorded (recorded_newFramebuffer c target)
  | screen => exact .of_recorded (.map Except.ok (recorded_screen c))
  | shader stage => exact .of_recorded (recorded_newShader c stage)
  | shaderWithSource => exact .of_recorded (recorded_newShaderWithSource c _ _)
  | shaderFromFile => exact .of_recorded (recorded_newShaderFromFile c _ _)
  | program => exact .of_recorded (recorded_newProgram c)
  | programWithShaders shaders =>
      exact .lookup fun _ => .of_recorded (recorded_newProgramWithShaders c _)

theorem beside_create (s : Session Recording) (name : String) (c : ContextId) (what : Creation) :
    s.Beside (s.create name c what) (s.plain.create name c what) := by
  refine .bind (beside_make s c what) fun made t => ?_
  cases made with
  | error e => exact .of_recorded (.pure _)
  | ok x => exact .of_recorded (.bind (recorded_setVariable name (.object x.1)) fun _ => .pure _)

theorem beside_rebind (s : Session Recording) (target : String) (bound : Bool) :
    s.Beside (s.rebind target bound) (s.plain.rebind target bound) :=
  .lookup fun _ => .lookup fun _ => .of_recorded (recorded_inContext _ (ContextM.recorded_bind _ _))

theorem beside_draw (s : Session Recording) (program vertexArray : String) {q : Request}
    (hq : q.deletes = []) (site : Site) :
    s.Beside (s.draw program vertexArray fun p v => Program.draw p v q site)
      (s.plain.draw program vertexArray fun p v => Program.draw p v q site) :=
  .lookup fun _ => .lookup fun _ =>
    .of_recorded (recorded_inContext _ (Program.recorded_draw _ _ hq site))

theorem beside_step {live : List (Kind × Id)} (ha : op.Admissible live) :
    s.Beside (s.step op) (s.plain.step op) := by
  cases op with
  | addContext => exact ha.elim
  | context c op =>
      exact .choice (.of_recorded (recorded_inContext c (ContextM.recorded_run ha))) .none
  | acquire name c slot id =>
      have h := (recorded_inContext c (ContextM.recorded_acquire slot id)).bind fun g =>
        (recorded_setVariable name (.guard c g)).bind fun _ => .pure g
      exact .choice (.of_recorded h) .none
  | create name c what => exact .choice (beside_create s name c what) .none
  | clone source name =>
      exact .lookup fun x => .of_recorded (.bind (recorded_retain x.1) fun _ =>
        .bind (recorded_setVariable name (.object x.1)) fun _ => .pure x.2.id)
  | drop target =>
      let dropped : Session Recording := { s with vars := s.vars.erase target }
      have h (held : Held) : dropped.Beside (some (dropHeld held dropped))
          (some (dropHeld held dropped.plain)) := .of_recorded (recorded_dropHeld held)
      exact .lookup h
  | bind target => exact beside_rebind s target true
  | unbind target => exact beside_rebind s target false
  | info target => exact .lookup fun _ => .of_recorded (.pure _)
  | buffer target op => exact .onObject (Buffer.recorded_run op)
  | texture target op => exact .onObject (Texture.recorded_run op)
  | renderbuffer target op => exact .inContextOf fun id _ => Renderbuffer.recorded_run op id
  | framebuffer target op => exact .inContextOf (Framebuffer.recorded_run op)
  | attachment => exact .lookup fun _ => .of_recorded (.pure _)
  | attachRenderbuffer =>
      exact .lookup fun fb => .lookup fun rb => .of_recorded (recorded_attach fb _ rb.ref rfl _)
  | attachTexture =>
      exact .lookup fun fb => .lookup fun t => .of_recorded (recorded_attachTexture fb _ t _)
  | enableAttribute _ index enable =>
      exact .inContextOf fun id _ => VertexArray.recorded_enableAttribute id index enable
  | setPointer =>
      exact .lookup fun v => .lookup fun b => .of_recorded (recorded_setPointer v b _)
  | setIndexBuffer =>
      exact .lookup fun v => .lookup fun b => .of_recorded (recorded_setIndexBuffer v b)
  | bufferCount => exact .lookup fun _ => .of_recorded (.pure _)
  | shader target op => exact .onObject (Shader.recorded_run op)
  | program target op => exact .onObject (Program.recorded_run op)
  | attachShader =>
      exact .lookup fun p => .lookup fun sh => .of_recorded (recorded_attachShader p sh)
  | detachShader =>
      exact .lookup fun p => .lookup fun sh => .of_recorded (recorded_detachShader p sh)
  | shaders => exact .lookup fun _ => .of_recorded (.pure _)
  | drawArrays => exact beside_draw s _ _ rfl _
  | drawElements => exact beside_draw s _ _ rfl _

theorem step_plain {live : List (Kind × Id)} (ha : op.Admissible live) {answer : op.Answer}
    (hs : s.step op = some (answer, s')) : s.plain.step op = some (answer, s'.plain) := by
  rw [(beside_step ha).1, hs]
  rfl

theorem exists_step_of_plain {live : List (Kind × Id)} (ha : op.Admissible live)
    {answer : op.Answer} {t : Session Sim} (hs : s.plain.step op = some (answer, t)) :
    ∃ s', s.step op = some (answer, s') ∧ s'.plain = t := by
  rw [(beside_step ha).1] at hs
  obtain ⟨⟨a, s'⟩, hs', he⟩ := Option.map_eq_some_iff.mp hs
  cases he
  exact ⟨s', hs', rfl⟩

/-! ## Runs -/

def setUp (s : Session Recording) (a : Adjustment) : Session Recording :=
  { s with driver := s.driver.adjust a }

/-- The states of one context over a fresh recording driver after operations that keep to a rule. -/
inductive OnRecord (rule : Rule) (config : Config) : Session Recording → Prop where
  | start {orders : List (List Nat)} : OnRecord rule config (start { sim := .fresh } config orders)
  | setUp {s : Session Recording} (a : Adjustment) (h : OnRecord rule config s) :
    OnRecord rule config (s.setUp a)
  | step {s s' : Session Recording} {op : Op} {answer : op.Answer} (h : OnRecord rule config s)
    (hs : s.step op = some (answer, s')) (hr : rule s.plain op s'.plain) : OnRecord rule config s'

variable {config : Config}

theorem OnRecord.reachable (h : OnRecord Careful config s) : Reachable Careful config s.plain := by
  induction h with
  | start => exact .start
  | setUp a _ ih => exact ih.adjust a
  | step _ hs hr ih => exact ih.step (step_plain hr.1 hs) hr

/-- Every careful run is one on record. -/
theorem Reachable.onRecord {t : Session Sim} (h : Reachable Careful config t) :
    ∃ s, OnRecord Careful config s ∧ s.plain = t := by
  induction h with
  | start => exact ⟨_, .start, rfl⟩
  | adjust a _ ih =>
      obtain ⟨s, hs, rfl⟩ := ih
      exact ⟨s.setUp a, hs.setUp a, rfl⟩
  | step _ hs hr ih =>
      obtain ⟨s, hrecord, rfl⟩ := ih
      obtain ⟨s', hs', rfl⟩ := exists_step_of_plain hr.1 hs
      exact ⟨s', hrecord.step hs' hr, rfl⟩

theorem OnRecord.frank (h : OnRecord Careful config s) : s.driver.Frank s.trace := by
  induction h with
  | start => exact ⟨.fresh, rfl⟩
  | setUp a _ ih => exact ⟨ih.sifted.adjust a, ih.logged⟩
  | step _ hs hr ih => exact (beside_step hr.1).2 _ hs ih

/-- The driver has deleted what it was to delete, and nothing else. -/
theorem OnRecord.asked_eq (h : OnRecord Careful config s) :
    s.driver.asked = s.driver.sim.deleted :=
  h.frank.logged.trans h.reachable.inv.sound.logged

theorem OnRecord.apt (h : OnRecord Careful config s) : s.driver.Apt :=
  h.frank.sifted.apt h.asked_eq.symm

/-- Performs operations in order, as long as the client is careful. -/
def performOnRecord (s : Session Recording) : List Op → Option (Session Recording)
  | [] => some s
  | op :: ops => do
    let (_, s') ← s.step op
    if Careful s.plain op s'.plain then s'.performOnRecord ops else none

theorem OnRecord.perform {ops : List Op} (h : OnRecord Careful config s)
    (hp : s.performOnRecord ops = some s') : OnRecord Careful config s' := by
  induction ops generalizing s with
  | nil =>
      cases hp
      exact h
  | cons op ops ih =>
      simp only [performOnRecord, Option.bind_eq_bind, Option.bind_eq_some_iff] at hp
      obtain ⟨⟨answer, s₁⟩, hs, hp⟩ := hp
      split at hp
      · rename_i hr
        exact ih (h.step hs hr) hp
      · cases hp

end Session

end GraphicsObjects
