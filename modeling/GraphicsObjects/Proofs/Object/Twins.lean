import GraphicsObjects.Proofs.Context.Twins
import GraphicsObjects.Proofs.Object.Work

/-!
# Operations on objects in twins

Every operation on an object gives the same answer in a context that leaves out binds and in one
that does not.
-/

namespace GraphicsObjects

open ContextM

variable {α : Type} {live : List (Kind × Id)} {tied : Prop} {slot : Slot} {id : Id} {q : Request}

/-! ## Buffers -/

namespace Buffer

theorem follows_updating (b : Buffer) (hid : b.slot.Admits live id) {act : ContextM Sim α}
    (hact : Follows live True act) : Follows live True (b.updating id act) := by
  unfold updating
  split
  · exact follows_holding (Slot.admits_zero ..) (follows_holding hid hact)
  · exact follows_holding hid hact

theorem follows_setStore (b : Buffer) (hid : b.slot.Admits live id) (contents : StoreContents)
    (usage : BufferUsage) (site : Site) :
    Follows live True (b.setStore id contents usage site) :=
  .bind (b.follows_updating hid (follows_command trivial)) fun _ => .pure _

theorem follows_setSubData (b : Buffer) (hid : b.slot.Admits live id) (offset : Nat)
    (data : Bytes) : Follows live True (b.setSubData id offset data) := by
  unfold setSubData
  split
  · exact .bind (b.follows_updating hid (follows_command trivial)) fun _ => .pure _
  · exact .pure _

theorem follows_run (op : BufferOp) (b : Buffer) (hid : b.slot.Admits live id) :
    Follows live True (op.run id b) := by
  cases op with
  | setData | allocate => exact .bind (b.follows_setStore hid _ _ _) fun _ => .pure _
  | setSubData => exact .bind (b.follows_setSubData hid _ _) fun _ => .pure _
  | size | target => exact .pure _

end Buffer

/-! ## Textures -/

namespace Texture

theorem follows_setToUnit (t : Texture) (hid : t.slot.Admits live id) (unit : Nat) :
    Follows live True (t.setToUnit id unit) := by
  unfold setToUnit
  refine .bind follows_maxTextureUnits fun _ => ?_
  split
  · exact .pure _
  · have hslot : (Texture.slot { t with unit }).Admits live id := hid
    exact .bind (follows_bind hslot) fun _ => .pure _

theorem follows_upload (t : Texture) (hid : t.slot.Admits live id) (target : ImageTarget)
    (image : ImageSpec) : Follows live True (t.upload id target image) := by
  have hcheck : Follows live True (checkImage target image) := by
    unfold checkImage
    split
    · exact .pure _
    · exact .bind (follows_pixelStore _) fun _ => .pure _
  unfold upload
  refine .bind hcheck fun checked => ?_
  split
  · exact .pure _
  · refine .bind (follows_holding (Slot.admits_zero ..) ?_) fun _ => .pure _
    exact follows_holding hid (follows_command trivial)

theorem follows_setImage (t : Texture) (hid : t.slot.Admits live id) (form : ImageForm)
    (image : ImageSpec) : Follows live True (t.setImage id form image) := by
  unfold setImage
  split
  · exact .pure _
  · exact t.follows_upload hid _ _

theorem follows_setParameter (t : Texture) (hid : t.slot.Admits live id) (parameter : Enumerant)
    (value : Int) : Follows live True (t.setParameter id parameter value) :=
  follows_holding hid (follows_command trivial)

theorem follows_run (op : TextureOp) (t : Texture) (hid : t.slot.Admits live id) :
    Follows live True (op.run id t) := by
  cases op with
  | target | unit => exact .pure _
  | setToUnit unit => exact t.follows_setToUnit hid unit
  | setImage form image => exact .bind (t.follows_setImage hid form image) fun _ => .pure _
  | generateMipmap | parameter =>
      exact .bind (follows_holding hid (follows_command trivial)) fun _ => .pure _
  | setParameter p value => exact .bind (t.follows_setParameter hid p value) fun _ => .pure _
  | setWrap mode => exact .bind (.forM fun p => t.follows_setParameter hid p _) fun _ => .pure _
  | setFilter min mag =>
      refine .bind (.bind (t.follows_setParameter hid _ _) fun _ => ?_) fun _ => .pure _
      exact t.follows_setParameter hid _ _

end Texture

/-! ## Renderbuffers and framebuffers -/

theorem Renderbuffer.follows_run (op : RenderbufferOp) (hid : Slot.renderbuffer.Admits live id) :
    Follows live True (op.run id : ContextM Sim Unit) := by
  cases op with
  | setStorage internalFormat width height samples =>
      exact follows_holding hid (follows_command trivial)

namespace Framebuffer

theorem follows_readPixels (f : Framebuffer) (hid : f.slot.Admits live id) (block : PixelBlock)
    (out : Bytes) : Follows live True (f.readPixels id block out) := by
  have hcheck : Follows live True (f.checkRead block out.length) := by
    unfold checkRead
    split
    · exact .pure _
    · exact .bind (follows_pixelStore _) fun _ => .pure _
  unfold readPixels
  refine .bind hcheck fun checked => ?_
  split
  · exact .pure _
  · refine .bind (follows_holding (Slot.admits_zero ..) ?_) fun _ => .pure _
    exact follows_holding hid (follows_command trivial)

theorem follows_checkStatus (f : Framebuffer) (hid : f.slot.Admits live id) :
    Follows live True (f.checkStatus id) :=
  .bind (follows_holding hid (follows_command trivial)) fun _ => .pure _

/-- A command on the framebuffer, unless its target is excluded. -/
theorem follows_required (f : Framebuffer) (hid : f.slot.Admits live id) (hq : q.IsContent)
    (excluded : FramebufferTarget) (operation : Restricted) (site : Site) :
    Follows live True (match f.require excluded operation with
      | .error e => pure (.error e)
      | .ok () => do
        let _ ← f.bound id (command q site)
        pure (.ok ()) : ContextM Sim (Except Failure Unit)) := by
  split
  · exact .pure _
  · exact .bind (follows_holding hid (follows_command hq)) fun _ => .pure _

theorem follows_run (op : FramebufferOp) (f : Framebuffer) (hid : f.slot.Admits live id) :
    Follows live True (op.run id f) := by
  cases op with
  | target => exact .pure _
  | checkStatus => exact f.follows_checkStatus hid
  | ensureComplete => exact .bind (f.follows_checkStatus hid) fun _ => .pure _
  | setDrawBuffers points => exact f.follows_required hid (q := .drawBuffers points) trivial _ _ _
  | readPixels block out => exact f.follows_readPixels hid block out
  | clear mask => exact f.follows_required hid (q := .clear mask) trivial _ _ _

end Framebuffer

/-! ## Vertex arrays -/

namespace VertexArray

variable {buffer : Id}

theorem follows_enableAttribute (hid : Slot.vertexArray.Admits live id) (index : Nat)
    (enable : Bool) :
    Follows live True (enableAttribute id index enable : ContextM Sim Unit) :=
  follows_holding hid (follows_command trivial)

theorem follows_setPointer (hid : Slot.vertexArray.Admits live id)
    (hb : (Slot.buffer .array).Admits live buffer) (layout : VertexAttribute) :
    Follows live True (setPointer id buffer layout : ContextM Sim Unit) :=
  follows_holding hid (follows_holding hb (follows_command trivial))

theorem follows_setIndexBuffer (hid : Slot.vertexArray.Admits live id)
    (hb : Slot.elementArray.Admits live buffer) :
    Follows live True (setIndexBuffer id buffer : ContextM Sim Unit) :=
  follows_holding hid (follows_bind hb)

end VertexArray

/-! ## Shaders -/

namespace Shader

theorem follows_setSource (sh : Shader) (id : Id) (source : String) :
    Follows live tied (sh.setSource id source) := by
  have hcommand : Follows live tied (do
      command (.shaderSource id source) .settingShaderSource
      pure { sh with compiled := false }) :=
    .bind (follows_command trivial) fun _ => .pure _
  unfold setSource
  split
  · exact .bind (follows_note _) fun _ => hcommand
  · exact hcommand

theorem follows_compile (sh : Shader) (id : Id) : Follows live tied (sh.compile id) := by
  refine .bind (follows_command trivial) fun _ => .bind (follows_perform trivial) fun status => ?_
  cases status with
  | true => exact .pure _
  | false => exact .bind (follows_note _) fun _ => .pure _

theorem follows_run (op : ShaderOp) (sh : Shader) (id : Id) : Follows live tied (op.run id sh) := by
  cases op with
  | stage | isCompiled => exact .pure _
  | setSource source => exact .bind (sh.follows_setSource id source) fun _ => .pure _
  | compile => exact .bind (sh.follows_compile id) fun _ => .pure _
  | infoLog => exact .bind (follows_perform trivial) fun _ => .pure _

end Shader

/-! ## Programs -/

namespace Program

theorem follows_link (p : Program) (id : Id) : Follows live tied (p.link id) := by
  refine .bind (follows_command trivial) fun _ => .bind (follows_perform trivial) fun status => ?_
  cases status with
  | true => exact .pure _
  | false => exact .bind (follows_note _) fun _ => .pure _

theorem follows_uniformLocation (id : Id) (name : String) :
    Follows live tied (uniformLocation id name : ContextM Sim (Option Int)) :=
  .bind (follows_perform trivial) fun _ => .pure _

theorem follows_uniformInfo (id : Id) (index : Nat) :
    Follows live tied (uniformInfo id index : ContextM Sim (Option ActiveVariable)) := by
  refine .bind (.bind (follows_command trivial) fun _ => .pure _) fun count => ?_
  split
  · exact .pure _
  · exact .bind (follows_perform trivial) fun _ => .pure _

theorem follows_attributeInfo (id : Id) (index : Nat) :
    Follows live tied (attributeInfo id index : ContextM Sim (Option ActiveVariable)) := by
  refine .bind (.bind (follows_command trivial) fun _ => .pure _) fun count => ?_
  split
  · exact .pure _
  · exact .bind (follows_perform trivial) fun _ => .pure _

theorem follows_setUniformAt (hid : Slot.program.Admits live id) (location : Int)
    (value : UniformValue) :
    Follows live True (setUniformAt id location value : ContextM Sim Unit) :=
  follows_holding hid (follows_command trivial)

theorem follows_setUniform (hid : Slot.program.Admits live id) (name : String)
    (value : UniformValue) :
    Follows live True (setUniform id name value : ContextM Sim Bool) := by
  refine .bind (follows_uniformLocation id name) fun location? => ?_
  cases location? with
  | none => exact .bind (follows_note _) fun _ => .pure _
  | some location => exact .bind (follows_setUniformAt hid location value) fun _ => .pure _

theorem follows_run (op : ProgramOp) (p : Program) (hid : Slot.program.Admits live id) :
    Follows live True (op.run id p) := by
  cases op with
  | link => exact .bind (p.follows_link id) fun _ => .pure _
  | isLinked => exact .pure _
  | infoLog => exact .bind (follows_perform trivial) fun _ => .pure _
  | validate =>
      refine .bind (.bind (follows_command trivial) fun _ => ?_) fun _ => .pure _
      exact follows_perform trivial
  | dispatch x y z => exact .bind (follows_holding hid (follows_command trivial)) fun _ => .pure _
  | bindAttributeLocation | parameter =>
      exact .bind (follows_command trivial) fun _ => .pure _
  | attributeLocation name =>
      exact .bind (.bind (follows_perform trivial) fun _ => .pure _) fun _ => .pure _
  | uniformLocation name => exact .bind (follows_uniformLocation id name) fun _ => .pure _
  | uniformCount | attributeCount =>
      exact .bind (.bind (follows_command trivial) fun _ => .pure _) fun _ => .pure _
  | uniformInfo index => exact .bind (follows_uniformInfo id index) fun _ => .pure _
  | attributeInfo index => exact .bind (follows_attributeInfo id index) fun _ => .pure _
  | setUniform => exact .bind (follows_setUniform hid _ _) fun _ => .pure _
  | setUniformAt => exact .bind (follows_setUniformAt hid _ _) fun _ => .pure _
  | setTextureUnit => exact .bind (follows_setUniform hid _ _) fun _ => .pure _

theorem follows_draw {vertexArray : Id} (hid : Slot.program.Admits live id)
    (hv : Slot.vertexArray.Admits live vertexArray) (hq : q.IsContent) (site : Site) :
    Follows live True (draw id vertexArray q site : ContextM Sim Unit) := by
  refine follows_holding hid (follows_holding hv ?_)
  exact .bind (follows_command hq) fun _ => .pure _

end Program

end GraphicsObjects
