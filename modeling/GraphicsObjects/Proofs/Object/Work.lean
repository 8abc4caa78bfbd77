import GraphicsObjects.Object.Buffer
import GraphicsObjects.Object.Framebuffer
import GraphicsObjects.Object.Program
import GraphicsObjects.Object.Renderbuffer
import GraphicsObjects.Object.Shader
import GraphicsObjects.Object.Texture
import GraphicsObjects.Object.VertexArray
import GraphicsObjects.Proofs.Context.Holding

/-!
# Operations on objects as work

Every operation on an object is work that changes no contents but those of the object. The request
at its heart is aimed at what is bound, and the object has been bound before.
-/

namespace GraphicsObjects

open ContextM Sim

variable {α : Type} {live : List (Kind × Id)} {held : List (Slot × Id)}
variable {slot : Slot} {k : Kind} {id : Id} {q : Request}

/-- The object with a given kind and name. -/
def only (kind : Kind) (id : Id) : Kind → Id → Prop := fun k i => k = kind ∧ i = id

/-- No object. -/
abbrev nothing : Kind → Id → Prop := fun _ _ => False

namespace Sim

/-- A request that is aimed at what is bound to a slot, while an object is held bound to it. -/
theorem within_held (slot : Slot) (ha : ∀ s : Sim, s.aim q = some (k, s.bound slot))
    (hm : (slot.primary, id) ∈ held) : Within held (only k id) q := by
  intro s hs k' i haim
  rw [ha] at haim
  cases haim
  have hb : s.bound slot.primary = id := hs _ hm
  exact ⟨rfl, by rw [← hb, bound_primary]⟩

/-- A request that is aimed at the texture on the active unit, while that is the unit of the
texture. -/
theorem within_texture {unit : Nat} {target : TextureTarget}
    (ha : ∀ s : Sim, s.aim q = some (.texture, s.boundTexture target))
    (hm : (.texture unit target, id) ∈ held) (hu : (.activeTexture, unit) ∈ held) :
    Within held (only .texture id) q := by
  intro s hs k' i haim
  rw [ha] at haim
  cases haim
  have hb : s.bound (.texture unit target) = id := hs _ hm
  have hactive : s.activeUnit = unit := hs _ hu
  exact ⟨rfl, by rw [← hb, boundTexture, hactive]⟩

end Sim

/-! ## Buffers -/

namespace Buffer

/-- An element buffer is bound while no vertex array is. -/
theorem work_updating (b : Buffer) (hid : b.slot.Admits live id) {may : Kind → Id → Prop}
    {act : ContextM Sim α}
    (hact : ∀ held, (b.slot, id) ∈ held → Work live may held held act) :
    Work live may [] [] (b.updating id act) := by
  unfold updating
  split
  · rename_i ht
    have hspares : b.slot.Spares (Slot.vertexArray.holding 0 ++ []) := by
      refine Slot.spares_cons (by decide) ?_ (Slot.spares_nil _)
      simp [slot, Slot.touched, Slot.written, Slot.registers]
    refine work_holding (Slot.admits_zero ..) (Slot.spares_nil _) (within_bind (by decide)) ?_
    refine work_holding hid hspares ?_ (hact _ List.mem_cons_self)
    intro s hs k i haim
    have hv : s.bound .vertexArray = 0 := hs (.vertexArray, 0) List.mem_cons_self
    simp [slot, ht, aim, hv] at haim
  · rename_i ht
    refine work_holding hid (Slot.spares_nil _) (within_bind ?_) (hact _ List.mem_cons_self)
    exact fun e => ht (Slot.buffer.inj e)

theorem work_setStore (b : Buffer) (hid : b.slot.Admits live id) (contents : StoreContents)
    (usage : BufferUsage) (site : Site) :
    Work live (only .buffer id) [] [] (b.setStore id contents usage site) := by
  refine .bind (b.work_updating hid fun held hm => ?_) fun _ => .pure _
  exact work_command trivial (within_held _ (fun _ => rfl) hm)

theorem work_setSubData (b : Buffer) (hid : b.slot.Admits live id) (offset : Nat) (data : Bytes) :
    Work live (only .buffer id) [] [] (b.setSubData id offset data) := by
  unfold setSubData
  split
  · refine .bind (b.work_updating hid fun held hm => ?_) fun _ => .pure _
    exact work_command trivial (within_held _ (fun _ => rfl) hm)
  · exact .pure _

theorem work_run (op : BufferOp) (b : Buffer) (hid : b.slot.Admits live id) :
    Work live (only .buffer id) [] [] (op.run id b) := by
  cases op with
  | setData | allocate => exact .bind (b.work_setStore hid _ _ _) fun _ => .pure _
  | setSubData => exact .bind (b.work_setSubData hid _ _) fun _ => .pure _
  | size | target => exact .pure _

end Buffer

/-! ## Textures -/

namespace Texture

theorem work_command (t : Texture) (hid : t.slot.Admits live id) (hs : t.slot.Spares held)
    {site : Site} (hq : q.IsContent)
    (ha : ∀ s : Sim, s.aim q = some (.texture, s.boundTexture t.target)) :
    Work live (only .texture id) held held (holding t.slot id (command q site)) := by
  refine work_holding hid hs (within_bind nofun) (ContextM.work_command hq ?_)
  exact within_texture ha List.mem_cons_self (List.mem_cons_of_mem _ List.mem_cons_self)

theorem work_generateMipmap (t : Texture) (hid : t.slot.Admits live id) :
    Work live (only .texture id) [] [] (t.generateMipmap id) :=
  work_holding hid (Slot.spares_nil _) (within_bind nofun) (ContextM.work_command trivial nofun)

theorem work_setParameter (t : Texture) (hid : t.slot.Admits live id) (parameter : Enumerant)
    (value : Int) : Work live (only .texture id) [] [] (t.setParameter id parameter value) :=
  t.work_command hid (Slot.spares_nil _) trivial fun _ => rfl

theorem work_parameter (t : Texture) (hid : t.slot.Admits live id) (parameter : Enumerant) :
    Work live (only .texture id) [] [] (t.parameter id parameter) :=
  work_holding hid (Slot.spares_nil _) (within_bind nofun) (ContextM.work_command trivial nofun)

theorem work_setToUnit (t : Texture) (hid : t.slot.Admits live id) (unit : Nat) :
    Work live (only .texture id) [] [] (t.setToUnit id unit) := by
  unfold setToUnit
  refine .bind work_maxTextureUnits fun _ => ?_
  split
  · exact .pure _
  · have hslot : (Texture.slot { t with unit }).Admits live id := hid
    exact .bind (work_bind hslot (Slot.spares_nil _) (within_bind nofun)).forget fun _ => .pure _

theorem work_checkImage (target : ImageTarget) (image : ImageSpec) {may : Kind → Id → Prop} :
    Work live may held held (checkImage target image) := by
  unfold checkImage
  split
  · exact .pure _
  · exact .bind (work_pixelStore _) fun _ => .pure _

theorem textureTarget_of_target? {f : ImageForm} {t : TextureTarget} {target : ImageTarget}
    (h : f.target? t = some target) : target.textureTarget = t := by
  unfold ImageForm.target? at h
  split at h
  · split at h
    · rename_i ht
      cases h
      exact ht.symm
    · cases h
  · split at h
    · cases h
      rfl
    · cases h

theorem work_upload (t : Texture) (hid : t.slot.Admits live id) {target : ImageTarget}
    (ht : target.textureTarget = t.target) (image : ImageSpec) :
    Work live (only .texture id) [] [] (t.upload id target image) := by
  unfold upload
  refine .bind (work_checkImage target image) fun checked => ?_
  split
  · exact .pure _
  · have hspares : t.slot.Spares ((Slot.buffer .pixelUnpack).holding 0 ++ []) := by
      refine Slot.spares_cons nofun ?_ (Slot.spares_nil _)
      simp [slot, Slot.touched]
    refine .bind (work_holding (Slot.admits_zero ..) (Slot.spares_nil _) (within_bind nofun) ?_)
      fun _ => .pure _
    refine t.work_command hid hspares trivial fun s => ?_
    rw [← ht]
    rfl

theorem work_setImage (t : Texture) (hid : t.slot.Admits live id) (form : ImageForm)
    (image : ImageSpec) : Work live (only .texture id) [] [] (t.setImage id form image) := by
  unfold setImage
  split
  · exact .pure _
  · rename_i target ht
    exact t.work_upload hid (textureTarget_of_target? ht) _

theorem work_setWrap (t : Texture) (hid : t.slot.Admits live id) (mode : WrapMode) :
    Work live (only .texture id) [] [] (t.setWrap id mode) :=
  .forM fun parameter _ => t.work_setParameter hid parameter _

theorem work_setFilter (t : Texture) (hid : t.slot.Admits live id) (min : MinFilter)
    (mag : MagFilter) : Work live (only .texture id) [] [] (t.setFilter id min mag) :=
  .bind (t.work_setParameter hid _ _) fun _ => t.work_setParameter hid _ _

theorem work_run (op : TextureOp) (t : Texture) (hid : t.slot.Admits live id) :
    Work live (only .texture id) [] [] (op.run id t) := by
  cases op with
  | target | unit => exact .pure _
  | setToUnit unit => exact t.work_setToUnit hid unit
  | setImage form image => exact .bind (t.work_setImage hid form image) fun _ => .pure _
  | generateMipmap => exact .bind (t.work_generateMipmap hid) fun _ => .pure _
  | setParameter p value => exact .bind (t.work_setParameter hid p value) fun _ => .pure _
  | parameter p => exact .bind (t.work_parameter hid p) fun _ => .pure _
  | setWrap mode => exact .bind (t.work_setWrap hid mode) fun _ => .pure _
  | setFilter min mag => exact .bind (t.work_setFilter hid min mag) fun _ => .pure _

end Texture

/-! ## Renderbuffers -/

theorem Renderbuffer.work_run (op : RenderbufferOp) (hid : Slot.renderbuffer.Admits live id) :
    Work live (only .renderbuffer id) [] [] (op.run id : ContextM Sim Unit) := by
  cases op with
  | setStorage internalFormat width height samples =>
      refine work_holding hid (Slot.spares_nil _) (within_bind nofun) (work_command trivial ?_)
      exact within_held _ (fun _ => rfl) List.mem_cons_self

/-! ## Framebuffers -/

namespace Framebuffer

variable {may : Kind → Id → Prop}

theorem work_bound (f : Framebuffer) (hid : f.slot.Admits live id) (hs : f.slot.Spares held)
    {act : ContextM Sim α}
    (hact : Work live may (f.slot.holding id ++ held) (f.slot.holding id ++ held) act) :
    Work live may held held (f.bound id act) :=
  work_holding hid hs (within_bind nofun) hact

theorem work_checkStatus (f : Framebuffer) (hid : f.slot.Admits live id) :
    Work live may [] [] (f.checkStatus id) :=
  .bind (f.work_bound hid (Slot.spares_nil _) (work_command trivial nofun)) fun _ => .pure _

theorem work_ensureComplete (f : Framebuffer) (hid : f.slot.Admits live id) :
    Work live may [] [] (f.ensureComplete id) :=
  .bind (f.work_checkStatus hid) fun _ => .pure _

/-- A framebuffer that is not for reading is bound as the draw framebuffer. -/
theorem draw_mem_holding {f : Framebuffer} (h : f.target ≠ .read) :
    (.framebuffer .draw, id) ∈ f.slot.holding id := by
  unfold slot
  cases ht : f.target with
  | combined => simp [Slot.holding, Slot.registers]
  | draw => simp [Slot.holding, Slot.registers]
  | read => exact absurd ht h

/-- The request that attaches a part of a texture is aimed at the framebuffer's target. -/
theorem of_textureRequest {f : Framebuffer} {point : Attachment} {part : TexturePart}
    {target : TextureTarget} (h : f.textureRequest point part target id = .ok q) :
    ∃ image level layer, q = .framebufferTexture f.target point image id level layer := by
  cases part with
  | level => exact ⟨_, _, _, (Except.ok.inj h).symm⟩
  | layer | face =>
      simp only [textureRequest] at h
      split at h
      · exact ⟨_, _, _, (Except.ok.inj h).symm⟩
      · cases h

theorem work_setDrawBuffers (f : Framebuffer) (hid : f.slot.Admits live id)
    (points : List Attachment) :
    Work live (only .framebuffer id) [] [] (f.setDrawBuffers id points) := by
  unfold setDrawBuffers require
  by_cases ht : f.target = .read
  · rw [if_pos ht]
    exact .pure _
  · rw [if_neg ht]
    refine .bind (f.work_bound hid (Slot.spares_nil _) (work_command trivial ?_)) fun _ => .pure _
    exact within_held (.framebuffer .draw) (fun _ => rfl)
      (List.mem_append_left _ (draw_mem_holding ht))

theorem work_checkRead (f : Framebuffer) (block : PixelBlock) (len : Nat) :
    Work live may held held (f.checkRead block len) := by
  unfold checkRead
  split
  · exact .pure _
  · exact .bind (work_pixelStore _) fun _ => .pure _

theorem work_readPixels (f : Framebuffer) (hid : f.slot.Admits live id) (block : PixelBlock)
    (out : Bytes) : Work live may [] [] (f.readPixels id block out) := by
  unfold readPixels
  refine .bind (f.work_checkRead block _) fun checked => ?_
  split
  · exact .pure _
  · have hspares : f.slot.Spares ((Slot.buffer .pixelPack).holding 0 ++ []) := by
      refine Slot.spares_cons (by decide) ?_ (Slot.spares_nil _)
      unfold slot
      cases f.target <;> simp [Slot.touched, Slot.written, Slot.registers]
    have hpack : Slot.buffer .pixelPack ≠ .elementArray := by decide
    refine .bind (work_holding (Slot.admits_zero ..) (Slot.spares_nil _) (within_bind hpack) ?_)
      fun _ => .pure _
    refine f.work_bound hid hspares (work_command trivial ?_)
    -- nothing is read into a buffer, as no pixel pack buffer is bound
    intro s hs k i haim
    have hzero : s.bound (.buffer .pixelPack) = 0 :=
      hs (.buffer .pixelPack, 0) (List.mem_append_right _ List.mem_cons_self)
    simp [aim, hzero] at haim

theorem work_clear (f : Framebuffer) (hid : f.slot.Admits live id) (mask : ClearMask) :
    Work live may [] [] (f.clear id mask) := by
  unfold clear
  split
  · exact .pure _
  · exact .bind (f.work_bound hid (Slot.spares_nil _) (work_command trivial nofun)) fun _ => .pure _

theorem work_run (op : FramebufferOp) (f : Framebuffer) (hid : f.slot.Admits live id) :
    Work live (only .framebuffer id) [] [] (op.run id f) := by
  cases op with
  | target => exact .pure _
  | checkStatus => exact f.work_checkStatus hid
  | ensureComplete => exact f.work_ensureComplete hid
  | setDrawBuffers points => exact f.work_setDrawBuffers hid points
  | readPixels block out => exact f.work_readPixels hid block out
  | clear mask => exact f.work_clear hid mask

end Framebuffer

/-! ## Vertex arrays -/

namespace VertexArray

variable {buffer : Id}

theorem work_enableAttribute (hid : Slot.vertexArray.Admits live id) (index : Nat) (enable : Bool) :
    Work live (only .vertexArray id) [] []
      (enableAttribute id index enable : ContextM Sim Unit) := by
  refine work_holding hid (Slot.spares_nil _) (within_bind nofun) (work_command trivial ?_)
  exact within_held _ (fun _ => rfl) List.mem_cons_self

theorem work_setPointer (hid : Slot.vertexArray.Admits live id)
    (hb : (Slot.buffer .array).Admits live buffer) (layout : VertexAttribute) :
    Work live (only .vertexArray id) [] [] (setPointer id buffer layout : ContextM Sim Unit) := by
  have hspares : (Slot.buffer .array).Spares (Slot.vertexArray.holding id ++ []) :=
    Slot.spares_cons nofun (by decide) (Slot.spares_nil _)
  refine work_holding hid (Slot.spares_nil _) (within_bind nofun) ?_
  refine work_holding hb hspares (within_bind nofun) (work_command trivial ?_)
  exact within_held _ (fun _ => rfl) (List.mem_cons_of_mem _ List.mem_cons_self)

/-- The vertex array that records the element buffer is the one that is bound. -/
theorem work_setIndexBuffer (hid : Slot.vertexArray.Admits live id)
    (hb : Slot.elementArray.Admits live buffer) :
    Work live (only .vertexArray id) [] [] (setIndexBuffer id buffer : ContextM Sim Unit) := by
  have hspares : Slot.elementArray.Spares (Slot.vertexArray.holding id ++ []) :=
    Slot.spares_cons nofun (by decide) (Slot.spares_nil _)
  refine work_holding hid (Slot.spares_nil _) (within_bind nofun) (work_bind hb hspares ?_).forget
  intro s hs k i haim
  have hv : s.bound .vertexArray = id := hs (.vertexArray, id) List.mem_cons_self
  simp only [aim, hv] at haim
  split at haim
  · cases haim
  · cases haim
    exact ⟨rfl, rfl⟩

end VertexArray

/-! ## Shaders -/

/-- A request that names its object. -/
theorem Sim.within_named (ha : ∀ s : Sim, s.aim q = some (k, id)) : Within held (only k id) q := by
  intro s _ k' i haim
  rw [ha] at haim
  cases haim
  exact ⟨rfl, rfl⟩

namespace Shader

theorem work_setSource (sh : Shader) (id : Id) (source : String) :
    Work live (only .shader id) held held (sh.setSource id source) := by
  unfold setSource
  have hcommand : Work live (only .shader id) held held (do
      command (.shaderSource id source) .settingShaderSource
      pure { sh with compiled := false }) :=
    .bind (work_command trivial (within_named fun _ => rfl)) fun _ => .pure _
  split
  · exact .bind (work_note rfl) fun _ => hcommand
  · exact hcommand

theorem work_compile (sh : Shader) (id : Id) :
    Work live (only .shader id) held held (sh.compile id) := by
  refine .bind (work_command trivial (within_named fun _ => rfl)) fun _ =>
    .bind (work_perform trivial nofun) fun status => ?_
  cases status with
  | true => exact .pure _
  | false => exact .bind (work_note rfl) fun _ => .pure _

theorem work_run (op : ShaderOp) (sh : Shader) (id : Id) :
    Work live (only .shader id) held held (op.run id sh) := by
  cases op with
  | stage | isCompiled => exact .pure _
  | setSource source => exact .bind (sh.work_setSource id source) fun _ => .pure _
  | compile => exact .bind (sh.work_compile id) fun _ => .pure _
  | infoLog => exact .bind (work_perform trivial nofun) fun _ => .pure _

end Shader

/-! ## Programs -/

namespace Program

variable {may : Kind → Id → Prop}

theorem work_link (p : Program) (id : Id) :
    Work live (only .program id) held held (p.link id) := by
  refine .bind (work_command trivial (within_named fun _ => rfl)) fun _ =>
    .bind (work_perform trivial nofun) fun status => ?_
  cases status with
  | true => exact .pure _
  | false => exact .bind (work_note rfl) fun _ => .pure _

theorem work_validate (id : Id) : Work live may held held (validate id : ContextM Sim Bool) :=
  .bind (work_command trivial nofun) fun _ => work_perform trivial nofun

theorem work_dispatch (hid : Slot.program.Admits live id) (x y z : Nat) :
    Work live may [] [] (dispatch id x y z : ContextM Sim Unit) :=
  work_holding hid (Slot.spares_nil _) (within_bind nofun) (work_command trivial nofun)

theorem work_bindAttributeLocation (id : Id) (index : Nat) (name : String) :
    Work live (only .program id) held held
      (bindAttributeLocation id index name : ContextM Sim Unit) :=
  work_command trivial (within_named fun _ => rfl)

theorem work_attributeLocation (id : Id) (name : String) :
    Work live may held held (attributeLocation id name : ContextM Sim (Option Nat)) :=
  .bind (work_perform trivial nofun) fun _ => .pure _

theorem work_uniformLocation (id : Id) (name : String) :
    Work live may held held (uniformLocation id name : ContextM Sim (Option Int)) :=
  .bind (work_perform trivial nofun) fun _ => .pure _

theorem work_parameter (id : Id) (p : Enumerant) :
    Work live may held held (parameter id p : ContextM Sim Int) :=
  work_command trivial nofun

theorem work_uniformCount (id : Id) :
    Work live may held held (uniformCount id : ContextM Sim Nat) :=
  .bind (work_parameter id _) fun _ => .pure _

theorem work_attributeCount (id : Id) :
    Work live may held held (attributeCount id : ContextM Sim Nat) :=
  .bind (work_parameter id _) fun _ => .pure _

theorem work_uniformInfo (id : Id) (index : Nat) :
    Work live may held held (uniformInfo id index : ContextM Sim (Option ActiveVariable)) := by
  refine .bind (work_uniformCount id) fun count => ?_
  split
  · exact .pure _
  · exact .bind (work_perform trivial nofun) fun _ => .pure _

theorem work_attributeInfo (id : Id) (index : Nat) :
    Work live may held held (attributeInfo id index : ContextM Sim (Option ActiveVariable)) := by
  refine .bind (work_attributeCount id) fun count => ?_
  split
  · exact .pure _
  · exact .bind (work_perform trivial nofun) fun _ => .pure _

theorem work_setUniformAt (hid : Slot.program.Admits live id) (location : Int)
    (value : UniformValue) :
    Work live (only .program id) [] [] (setUniformAt id location value : ContextM Sim Unit) := by
  refine work_holding hid (Slot.spares_nil _) (within_bind nofun) (work_command trivial ?_)
  exact within_held _ (fun _ => rfl) List.mem_cons_self

theorem work_setUniform (hid : Slot.program.Admits live id) (name : String)
    (value : UniformValue) :
    Work live (only .program id) [] [] (setUniform id name value : ContextM Sim Bool) := by
  refine .bind (work_uniformLocation id name) fun location? => ?_
  cases location? with
  | none => exact .bind (work_note rfl) fun _ => .pure _
  | some location => exact .bind (work_setUniformAt hid location value) fun _ => .pure _

theorem work_run (op : ProgramOp) (p : Program) (hid : Slot.program.Admits live id) :
    Work live (only .program id) [] [] (op.run id p) := by
  cases op with
  | link => exact .bind (p.work_link id) fun _ => .pure _
  | isLinked => exact .pure _
  | infoLog => exact .bind (work_perform trivial nofun) fun _ => .pure _
  | validate => exact .bind (work_validate id) fun _ => .pure _
  | dispatch x y z => exact .bind (work_dispatch hid x y z) fun _ => .pure _
  | bindAttributeLocation => exact .bind (work_bindAttributeLocation id _ _) fun _ => .pure _
  | attributeLocation => exact .bind (work_attributeLocation id _) fun _ => .pure _
  | uniformLocation => exact .bind (work_uniformLocation id _) fun _ => .pure _
  | parameter => exact .bind (work_parameter id _) fun _ => .pure _
  | uniformCount => exact .bind (work_uniformCount id) fun _ => .pure _
  | attributeCount => exact .bind (work_attributeCount id) fun _ => .pure _
  | uniformInfo => exact .bind (work_uniformInfo id _) fun _ => .pure _
  | attributeInfo => exact .bind (work_attributeInfo id _) fun _ => .pure _
  | setUniform => exact .bind (work_setUniform hid _ _) fun _ => .pure _
  | setUniformAt => exact .bind (work_setUniformAt hid _ _) fun _ => .pure _
  | setTextureUnit => exact .bind (work_setUniform hid _ _) fun _ => .pure _

/-- A draw changes no contents. -/
theorem work_draw {vertexArray : Id} (hid : Slot.program.Admits live id)
    (hv : Slot.vertexArray.Admits live vertexArray) {r : Request} (hr : r.IsContent)
    (ha : ∀ s : Sim, s.aim r = none) (site : Site) :
    Work live may [] [] (draw id vertexArray r site : ContextM Sim Unit) := by
  have hspares : Slot.vertexArray.Spares (Slot.program.holding id ++ []) :=
    Slot.spares_cons nofun (by decide) (Slot.spares_nil _)
  have hwithin : Within (Slot.vertexArray.holding vertexArray ++ (Slot.program.holding id ++ []))
      may r := fun s _ k i haim => by simp [ha] at haim
  refine work_holding hid (Slot.spares_nil _) (within_bind nofun) ?_
  refine work_holding hv hspares (within_bind nofun) ?_
  exact .bind (work_command hr hwithin) fun _ => .pure _

theorem shaders_link (p : Program) (id : Id) (c : Context Sim) :
    (p.link id c).1.shaders = p.shaders := by
  unfold link
  change ((if _ then _ else _ : ContextM Sim Program) _).1.shaders = _
  split <;> rfl

/-- No operation changes which shaders the program keeps. -/
theorem shaders_run (op : ProgramOp) (p : Program) (id : Id) (c : Context Sim) :
    (op.run id p c).1.2.shaders = p.shaders := by
  cases op with
  | link => exact p.shaders_link id c
  | _ => rfl

end Program

end GraphicsObjects
