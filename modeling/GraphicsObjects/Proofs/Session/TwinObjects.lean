import GraphicsObjects.Proofs.Session.Twins

/-!
# Making objects and tying them together in twins

Every way of making an object, and every operation that ties two objects together, gives the same
answer in both sessions, which are twins again afterwards.
-/

namespace GraphicsObjects

open Ownership ContextM SessionM

namespace Session

variable {α ρ : Type} {tied : Prop} {s s' : Session Sim} {outside : List Ref}

/-- Work that depends on what is read in the session. -/
theorem Together.reading {f : Session Sim → SessionM Sim α} (he : f s' = f s)
    (h : Together tied (f s) s s') : Together tied (get >>= f) s s' := by
  constructor
  · rw [bind_apply, bind_apply, get_apply, get_apply, he]
    exact h.answer
  · rw [bind_apply, bind_apply, get_apply, get_apply, he]
    exact h.twin

/-- Work after which something else is known of an object. -/
theorem Twin.rework (h : s.Twin tied s') {act : ContextM Sim α}
    (hf : Follows s.driver.live tied act) (r : Ref) (p : α → Payload) :
    Together tied (do let a ← inContext 0 act; SessionM.setPayload r (p a)) s s' := by
  have hw := h.work hf
  exact hw.bind (hw.twin.setPayload r _)

/-! ## Creation -/

theorem Twin.adopt (h : s.Twin tied s') (payload : Payload)
    {made : ContextM Sim (Except Failure Id)}
    (hm : (s.enter 0).MadeAlike tied made (s'.enter 0)) :
    Together tied (SessionM.adopt 0 payload made) s s' := by
  obtain ⟨ha, live, htwin⟩ := hm
  have hleft := h.leave htwin
  cases hmade : (made (s.enter 0)).1 with
  | error e =>
      have hmade' := ha.trans hmade
      constructor
      · rw [adopt_error hmade, adopt_error hmade']
      · rw [adopt_error hmade, adopt_error hmade']
        exact hleft
  | ok id =>
      have hmade' := ha.trans hmade
      constructor
      · rw [adopt_ok hmade, adopt_ok hmade', h.store]
      · rw [adopt_ok hmade, adopt_ok hmade', h.store]
        exact hleft.setStore _

theorem Together.andThen {made : SessionM Sim (Except Failure (Ref × Id))}
    {act : Ref → Id → SessionM Sim Unit} (h : Together tied made s s')
    (hact : ∀ r id, (made s).1 = .ok (r, id) →
      Together tied (act r id) (made s).2 (made s').2) :
    Together tied (SessionM.andThen made act) s s' := by
  refine h.bind ?_
  cases hm : (made s).1 with
  | error e => exact .pure h.twin _
  | ok x => exact (hact x.1 x.2 hm).bind (.pure (hact x.1 x.2 hm).twin _)

theorem Twin.newObject (h : s.Twin tied s') (payload : Payload)
    (hk : ¬ (payload.kind = .shader ∨ payload.kind = .program)) :
    Together tied (SessionM.newObject 0 payload) s s' :=
  h.adopt payload (madeAlike_createObject h.twin hk)

/-- A framebuffer that is made next has the same order. -/
theorem Twin.order_next (h : s.Twin tied s') : s'.order s'.store.next = s.order s.store.next := by
  rw [h.store]
  exact h.orders s.store.next

theorem Twin.newFramebuffer (h : s.Twin tied s') (target : FramebufferTarget) :
    Together tied (SessionM.newFramebuffer 0 target) s s' :=
  .reading (by rw [h.order_next]) (h.newObject _ nofun)

theorem Twin.newShader (h : s.Twin tied s') (stage : ShaderStage) :
    Together tied (SessionM.newShader 0 stage) s s' :=
  h.adopt _ (madeAlike_createShader h.twin stage)

theorem Twin.newProgram (h : s.Twin tied s') : Together tied (SessionM.newProgram 0) s s' :=
  h.adopt _ (madeAlike_createProgram h.twin)

theorem Twin.newBufferWithData (h : s.Twin True s') (hs : s.Sound outside) (target : BufferTarget)
    (data : Bytes) (usage : BufferUsage) :
    Together True (SessionM.newBufferWithData 0 target data usage) s s' := by
  have hnew : Together True (SessionM.newBuffer 0 target) s s' := h.newObject _ nofun
  have hc : Created outside (fun _ => True) s (SessionM.newBuffer 0 target s).1
      (SessionM.newBuffer 0 target s).2 := hs.newObject _ rfl nofun
  refine hnew.andThen fun r id hm => ?_
  obtain ⟨-, hf⟩ := of_adopt_ok hs hm
  have hid : (Buffer.slot { target }).Admits _ id := (hc.held r id hm).admits hf rfl
  exact hnew.twin.rework (Buffer.follows_setStore { target } hid _ _ _) r .buffer

theorem Twin.newRenderbufferWithStorage (h : s.Twin True s') (hs : s.Sound outside)
    (internalFormat : Enumerant) (width height : Nat) :
    Together True (SessionM.newRenderbufferWithStorage 0 internalFormat width height) s s' := by
  have hnew : Together True (SessionM.newObject 0 .renderbuffer) s s' := h.newObject _ nofun
  have hc : Created outside (fun _ => True) s (SessionM.newObject 0 .renderbuffer s).1
      (SessionM.newObject 0 .renderbuffer s).2 := hs.newObject _ rfl nofun
  refine hnew.andThen fun r id hm => ?_
  obtain ⟨-, hf⟩ := of_adopt_ok hs hm
  have hid : Slot.renderbuffer.Admits _ id := (hc.held r id hm).admits hf rfl
  exact hnew.twin.work (Renderbuffer.follows_run (.setStorage internalFormat width height 0) hid)

theorem Twin.newShaderWithSource (h : s.Twin tied s') (stage : ShaderStage) (source : String) :
    Together tied (SessionM.newShaderWithSource 0 stage source) s s' := by
  have hnew := h.newShader stage
  refine hnew.andThen fun r id _ => hnew.twin.rework ?_ r .shader
  exact .bind (Shader.follows_setSource { stage } id source) fun sh => sh.follows_compile id

theorem Twin.newShaderFromFile (h : s.Twin tied s') (stage : ShaderStage)
    (contents : Option Bytes) :
    Together tied (SessionM.newShaderFromFile 0 stage contents) s s' := by
  unfold SessionM.newShaderFromFile
  cases Shader.readSource contents with
  | error e => exact .pure h _
  | ok source => exact h.newShaderWithSource stage source

theorem Twin.screen (h : s.Twin tied s') : Together tied (SessionM.screen 0) s s' := by
  let screen (t : Session Sim) : Object :=
    ⟨0, .framebuffer { target := .combined, order := t.order t.store.next }⟩
  have he (t : Session Sim) : SessionM.screen 0 t =
      ((t.store.next, 0), { t with store := (t.store.add 0 false (screen t)).2 }) := rfl
  have hscreen : screen s' = screen s := by simp only [screen, h.order_next]
  constructor
  · rw [he, he, h.store]
  · rw [he, he, hscreen, h.store]
    exact h.setStore _

/-! ## Vertex arrays -/

theorem Twin.keepBuffer (h : s.Twin tied s') (vao : Found VertexArray) (buffer : Ref) :
    Together tied (SessionM.keepBuffer vao buffer) s s' := by
  unfold SessionM.keepBuffer
  split
  · exact .pure h ()
  · have hr := h.retain buffer
    exact hr.bind (hr.twin.setPayload _ _)

theorem Twin.setPointer (h : s.Twin True s') (hs : s.Sound outside) {vao : Found VertexArray}
    {b : Found Buffer} (hv : s.Has .vertexArray vao) (hb : s.Has .buffer b)
    (layout : VertexAttribute) : Together True (SessionM.setPointer vao b layout) s s' := by
  have hw := h.work
    (VertexArray.follows_setPointer (hs.admits hv rfl) (hs.admits hb rfl) layout)
  rw [SessionM.setPointer, hs.context_eq hv]
  exact hw.bind (hw.twin.keepBuffer vao b.ref)

theorem Twin.setIndexBuffer (h : s.Twin True s') (hs : s.Sound outside) {vao : Found VertexArray}
    {b : Found Buffer} (hv : s.Has .vertexArray vao) (hb : s.Has .buffer b) :
    Together True (SessionM.setIndexBuffer vao b) s s' := by
  have hw := h.work (VertexArray.follows_setIndexBuffer (hs.admits hv rfl) (hs.admits hb rfl))
  rw [SessionM.setIndexBuffer, hs.context_eq hv]
  exact hw.bind (hw.twin.keepBuffer vao b.ref)

/-! ## Framebuffers -/

theorem Twin.withAttachment (h : s.Twin True s') {fb : Found Framebuffer} (point : Attachment)
    (object : Ref) {q : Request} (site : Site)
    (hid : fb.known.slot.Admits s.driver.live fb.id) (hq : q.IsContent) :
    (s.withAttachment fb point object q site).Twin True
      (s'.withAttachment fb point object q site) := by
  have hcommand : Follows s.driver.live True (command q site) := follows_command hq
  have hw := h.work ((follows_bind hid).bind fun _ => hcommand)
  exact ((hw.twin.retain object).twin.setPayload fb.ref _).twin

/-- What was attached is given back, and the release of the framebuffer does nothing. -/
theorem Twin.attach (h : s.Twin True s') (hs : s.Sound outside) {fb : Found Framebuffer}
    {object : Ref} {i : Id} {x : Object} {q : Request} (point : Attachment) (site : Site)
    (hf : s.Has .framebuffer fb) (hx : (object, i, x) ∈ s.store.faces)
    (hmay : Kind.framebuffer.MayOwn x.payload.kind) (hq : q.IsContent)
    (ha : ∀ d : Sim, d.aim q = some (.framebuffer, d.bound fb.known.slot)) :
    Together (SessionM.attach fb point object q site s).2.driver.Spared
      (SessionM.attach fb point object q site) s s' := by
  obtain ⟨hs₁, -⟩ := hs.withAttachment point site hf hx hmay hq ha
  have hback := (h.withAttachment point object site (hs.admits hf rfl) hq).giveBack hs₁
  have hg : (acquire fb.known.slot fb.id (s.enter 0)).1.restore = false := h.twin.lax
  have hg' : (acquire fb.known.slot fb.id (s'.enter 0)).1.restore = false := by
    change (s'.enter 0).config.strictUnbind = false
    rw [h.twin.config]
    exact h.twin.lax
  have he := attach_eq h.single.1 (hs.context_eq hf) point object q site
  have he' := attach_eq h.single.2 (hs.context_eq hf) point object q site
  rw [inContext_release hback.twin.single.1 hg] at he
  rw [inContext_release hback.twin.single.2 hg'] at he'
  refine ⟨rfl, ?_⟩
  rw [he, he']
  exact hback.twin

theorem Twin.attachTexture (h : s.Twin True s') (hs : s.Sound outside) {fb : Found Framebuffer}
    {t : Found Texture} (point : Attachment) (part : Framebuffer.TexturePart)
    (hf : s.Has .framebuffer fb) (ht : s.Has .texture t) :
    Together (SessionM.attachTexture fb point t part s).2.driver.Spared
      (SessionM.attachTexture fb point t part) s s' := by
  unfold SessionM.attachTexture
  cases hq : fb.known.textureRequest point part t.known.target t.id with
  | error e => exact .pure (h.mono fun _ => trivial) _
  | ok q =>
      obtain ⟨image, level, layer, rfl⟩ := Framebuffer.of_textureRequest hq
      have ha := h.attach hs (q := .framebufferTexture fb.known.target point image t.id level layer)
        point .attachingTexture hf ht (.inl rfl) trivial fun _ => rfl
      exact ha.bind (.pure ha.twin _)

/-! ## Programs -/

theorem Twin.ensureCompiled (h : s.Twin tied s') {sh : Found Shader} (hc : sh.context = 0) :
    Together tied (SessionM.ensureCompiled sh) s s' := by
  unfold SessionM.ensureCompiled
  split
  · exact .pure h ()
  · rw [hc]
    exact h.rework (sh.known.follows_compile sh.id) sh.ref .shader

theorem Twin.attachShader (h : s.Twin tied s') {p : Found Program} {sh : Found Shader}
    (hp : p.context = 0) (hsh : sh.context = 0) :
    Together tied (SessionM.attachShader p sh) s s' := by
  have hcompiled := h.ensureCompiled hsh
  have hcommand : Follows (SessionM.ensureCompiled sh s).2.driver.live tied
      (command (.attachShader p.id sh.id) .attachingShader) := follows_command trivial
  have hattached := hcompiled.twin.work hcommand
  rw [SessionM.attachShader, hp]
  refine hcompiled.bind (hattached.bind ?_)
  split
  · exact .pure hattached.twin ()
  · have hr := hattached.twin.retain sh.ref
    exact hr.bind (hr.twin.setPayload _ _)

theorem Twin.detachShader (h : s.Twin True s') (hs : s.Sound outside) {p : Found Program}
    (sh : Found Shader) (hp : s.Has .program p) :
    Together (SessionM.detachShader p sh s).2.driver.Spared (SessionM.detachShader p sh) s s' := by
  have hcommand : Follows s.driver.live True
      (command (.detachShader p.id sh.id) .detachingShader) := follows_command trivial
  have hw := h.work hcommand
  have hwithout : (s.withoutShader p sh).Twin True (s'.withoutShader p sh) :=
    (hw.twin.setPayload p.ref _).twin
  have hback := hwithout.giveBack (hs.withoutShader sh hp).1
  have hc := hs.context_eq hp
  refine ⟨rfl, ?_⟩
  rw [detachShader_eq hc, detachShader_eq hc]
  exact hback.twin

theorem Twin.attachShaderAt (h : s.Twin tied s') (hs : s.Sound outside) (program shader : Ref) :
    Together tied (SessionM.attachShaderAt program shader) s s' := by
  unfold SessionM.attachShaderAt
  refine .reading (by simp only [h.follow?_eq]) ?_
  split
  · rename_i p sh hp hsh
    obtain ⟨-, hp'⟩ := has_of_follow? Payload.reads_program hp
    obtain ⟨-, hsh'⟩ := has_of_follow? Payload.reads_shader hsh
    exact h.attachShader (hs.context_eq hp') (hs.context_eq hsh')
  · exact .pure h ()

theorem Twin.attachShaders (h : s.Twin tied s') (hs : s.Sound outside) (program : Ref)
    (shaders : List Ref) :
    Together tied (shaders.forM (SessionM.attachShaderAt program)) s s' := by
  induction shaders generalizing s s' with
  | nil => exact .pure h ()
  | cons shader shaders ih =>
      have hfirst := h.attachShaderAt hs program shader
      exact hfirst.bind (ih hfirst.twin (hs.attachShaderAt program shader).1)

theorem Twin.linkAt (h : s.Twin tied s') (hs : s.Sound outside) (program : Ref) :
    Together tied (SessionM.linkAt program) s s' := by
  unfold SessionM.linkAt
  refine .reading (by simp only [h.follow?_eq]) ?_
  split
  · rename_i p hp
    obtain ⟨-, hp'⟩ := has_of_follow? Payload.reads_program hp
    rw [hs.context_eq hp']
    exact h.rework (p.known.follows_link p.id) p.ref .program
  · exact .pure h ()

theorem Twin.newProgramWithShaders (h : s.Twin tied s') (hs : s.Sound outside)
    (shaders : List Ref) :
    Together tied (SessionM.newProgramWithShaders 0 shaders) s s' := by
  have hnew := h.newProgram
  have hc : Created outside (fun _ => True) s (SessionM.newProgram 0 s).1
      (SessionM.newProgram 0 s).2 := hs.newProgram
  refine hnew.andThen fun r id hm => ?_
  have hheld := hc.held r id hm
  have hattached := hnew.twin.attachShaders hheld r shaders
  exact hattached.bind (hattached.twin.linkAt (hheld.attachShaders r shaders).1 r)

end Session

end GraphicsObjects
