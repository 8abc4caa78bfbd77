import GraphicsObjects.Proofs.Context.Recording

/-!
# Operations on objects over a driver that keeps what it is asked

Operations on objects delete nothing, and do over a recording driver what they do over the driver
itself.
-/

namespace GraphicsObjects

open ContextM

variable {α : Type} {x : ContextM Recording α} {y : ContextM Sim α}

namespace Buffer

theorem recorded_updating (b : Buffer) (id : Id) (h : Recorded x y) :
    Recorded (b.updating id x) (b.updating id y) :=
  .choice (recorded_holding _ _ (recorded_holding _ _ h)) (recorded_holding _ _ h)

theorem recorded_setStore (b : Buffer) (id : Id) (contents : StoreContents) (usage : BufferUsage)
    (site : Site) :
    Recorded (b.setStore id contents usage site) (b.setStore id contents usage site) :=
  .bind (b.recorded_updating id (recorded_command rfl site)) fun _ => .pure _

theorem recorded_run (op : BufferOp) (id : Id) (b : Buffer) :
    Recorded (op.run id b) (op.run id b) := by
  cases op with
  | size | target => exact .pure _
  | setData | allocate => exact .bind (b.recorded_setStore id _ _ _) fun _ => .pure _
  | setSubData offset data =>
      refine .bind (.choice (.bind ?_ fun _ => .pure _) (.pure _)) fun _ => .pure _
      exact b.recorded_updating id (recorded_command rfl _)

end Buffer

namespace Texture

theorem recorded_setToUnit (t : Texture) (id : Id) (unit : Nat) :
    Recorded (t.setToUnit id unit) (t.setToUnit id unit) :=
  .bind recorded_maxTextureUnits fun _ =>
    .choice (.pure _) (.bind (recorded_bind _ _) fun _ => .pure _)

theorem recorded_setImage (t : Texture) (id : Id) (form : ImageForm) (image : ImageSpec) :
    Recorded (t.setImage id form image) (t.setImage id form image) := by
  unfold setImage
  cases form.target? t.target with
  | none => exact .pure _
  | some target =>
      refine .bind ?_ fun checked => ?_
      · unfold checkImage
        cases image.data with
        | none => exact .pure _
        | some data => exact .bind (recorded_pixelStore _) fun _ => .pure _
      · cases checked with
        | error e => exact .pure _
        | ok _ =>
            exact .bind (recorded_holding _ _ (recorded_bound _ _ rfl _)) fun _ => .pure _

theorem recorded_run (op : TextureOp) (id : Id) (t : Texture) :
    Recorded (op.run id t) (op.run id t) := by
  cases op with
  | target | unit => exact .pure _
  | setToUnit unit => exact t.recorded_setToUnit id unit
  | setImage form image => exact .bind (t.recorded_setImage id form image) fun _ => .pure _
  | generateMipmap | setParameter | parameter =>
      exact .bind (recorded_bound _ _ rfl _) fun _ => .pure _
  | setWrap mode => exact .bind (.forM _ fun _ => recorded_bound _ _ rfl _) fun _ => .pure _
  | setFilter =>
      refine .bind (.bind ?_ fun _ => ?_) fun _ => .pure _
      · exact recorded_bound _ _ rfl _
      · exact recorded_bound _ _ rfl _

end Texture

theorem Renderbuffer.recorded_run (op : RenderbufferOp) (id : Id) :
    Recorded (op.run id) (op.run id) := by
  cases op with
  | setStorage => exact recorded_bound _ _ rfl _

namespace Framebuffer

theorem recorded_checkStatus (f : Framebuffer) (id : Id) :
    Recorded (f.checkStatus id) (f.checkStatus id) :=
  .bind (recorded_bound _ _ rfl _) fun _ => .pure _

/-- An operation that may be refused, and otherwise is a command. -/
theorem recorded_unless (f : Framebuffer) (id : Id) (checked : Except Failure Unit) {q : Request}
    (hq : q.deletes = []) (site : Site) :
    Recorded
      (match checked with
        | .error e => pure (.error e)
        | .ok () => do
          let _ ← f.bound id (command q site)
          pure (.ok ()) : ContextM Recording (Except Failure Unit))
      (match checked with
        | .error e => pure (.error e)
        | .ok () => do
          let _ ← f.bound id (command q site)
          pure (.ok ()) : ContextM Sim (Except Failure Unit)) := by
  cases checked with
  | error e => exact .pure _
  | ok _ => exact .bind (recorded_bound _ _ hq _) fun _ => .pure _

theorem recorded_readPixels (f : Framebuffer) (id : Id) (block : PixelBlock) (out : Bytes) :
    Recorded (f.readPixels id block out) (f.readPixels id block out) := by
  refine .bind ?_ fun checked => ?_
  · unfold checkRead
    cases f.require .draw .readPixels with
    | error e => exact .pure _
    | ok _ => exact .bind (recorded_pixelStore _) fun _ => .pure _
  · cases checked with
    | error e => exact .pure _
    | ok _ => exact .bind (recorded_holding _ _ (recorded_bound _ _ rfl _)) fun _ => .pure _

theorem recorded_run (op : FramebufferOp) (id : Id) (f : Framebuffer) :
    Recorded (op.run id f) (op.run id f) := by
  cases op with
  | target => exact .pure _
  | checkStatus => exact f.recorded_checkStatus id
  | ensureComplete => exact .bind (f.recorded_checkStatus id) fun _ => .pure _
  | setDrawBuffers points => exact f.recorded_unless id _ rfl _
  | readPixels block out => exact f.recorded_readPixels id block out
  | clear mask => exact f.recorded_unless id _ rfl _

end Framebuffer

namespace VertexArray

theorem recorded_enableAttribute (id : Id) (index : Nat) (enable : Bool) :
    Recorded (enableAttribute id index enable) (enableAttribute id index enable) :=
  recorded_bound _ _ rfl _

theorem recorded_setPointer (id buffer : Id) (layout : VertexAttribute) :
    Recorded (setPointer id buffer layout) (setPointer id buffer layout) :=
  recorded_holding _ _ (recorded_bound _ _ rfl _)

theorem recorded_setIndexBuffer (id buffer : Id) :
    Recorded (setIndexBuffer id buffer) (setIndexBuffer id buffer) :=
  recorded_holding _ _ (recorded_bind _ _)

end VertexArray

namespace Shader

theorem recorded_setSource (sh : Shader) (id : Id) (source : String) :
    Recorded (sh.setSource id source) (sh.setSource id source) :=
  .choice (.bind (recorded_note rfl) fun _ => .bind (recorded_command rfl _) fun _ => .pure _)
    (.bind (recorded_command rfl _) fun _ => .pure _)

theorem recorded_compile (sh : Shader) (id : Id) :
    Recorded (sh.compile id) (sh.compile id) := by
  refine .bind (recorded_command rfl _) fun _ => .bind (recorded_perform rfl) fun status => ?_
  cases status with
  | true => exact .pure _
  | false => exact .bind (recorded_note rfl) fun _ => .pure _

theorem recorded_run (op : ShaderOp) (id : Id) (sh : Shader) :
    Recorded (op.run id sh) (op.run id sh) := by
  cases op with
  | stage | isCompiled => exact .pure _
  | setSource source => exact .bind (sh.recorded_setSource id source) fun _ => .pure _
  | compile => exact .bind (sh.recorded_compile id) fun _ => .pure _
  | infoLog => exact .bind (recorded_perform rfl) fun _ => .pure _

end Shader

namespace Program

theorem recorded_link (p : Program) (id : Id) : Recorded (p.link id) (p.link id) := by
  refine .bind (recorded_command rfl _) fun _ => .bind (recorded_perform rfl) fun status => ?_
  cases status with
  | true => exact .pure _
  | false => exact .bind (recorded_note rfl) fun _ => .pure _

theorem recorded_setUniform (id : Id) (name : String) (value : UniformValue) :
    Recorded (setUniform id name value) (setUniform id name value) := by
  refine .bind (.bind (recorded_perform rfl) fun _ => .pure _) fun location? => ?_
  cases location? with
  | none => exact .bind (recorded_note rfl) fun _ => .pure _
  | some location => exact .bind (recorded_bound _ _ rfl _) fun _ => .pure _

theorem recorded_run (op : ProgramOp) (id : Id) (p : Program) :
    Recorded (op.run id p) (op.run id p) := by
  cases op with
  | isLinked => exact .pure _
  | link => exact .bind (p.recorded_link id) fun _ => .pure _
  | validate =>
      refine .bind (.bind (recorded_command rfl _) fun _ => ?_) fun _ => .pure _
      exact recorded_perform rfl
  | infoLog => exact .bind (recorded_perform rfl) fun _ => .pure _
  | dispatch | setUniformAt => exact .bind (recorded_bound _ _ rfl _) fun _ => .pure _
  | bindAttributeLocation | parameter =>
      exact .bind (recorded_command rfl _) fun _ => .pure _
  | attributeLocation | uniformLocation =>
      exact .bind (.bind (recorded_perform rfl) fun _ => .pure _) fun _ => .pure _
  | uniformCount | attributeCount =>
      exact .bind (.bind (recorded_command rfl _) fun _ => .pure _) fun _ => .pure _
  | uniformInfo | attributeInfo =>
      refine .bind (.bind (.bind (recorded_command rfl _) fun _ => .pure _) fun _ => ?_)
        fun _ => .pure _
      exact .choice (.pure _) (.bind (recorded_perform rfl) fun _ => .pure _)
  | setUniform | setTextureUnit =>
      exact .bind (recorded_setUniform id _ _) fun _ => .pure _

theorem recorded_draw (id vertexArray : Id) {q : Request} (hq : q.deletes = []) (site : Site) :
    Recorded (draw id vertexArray q site) (draw id vertexArray q site) :=
  recorded_holding _ _ (recorded_holding _ _ (.bind (recorded_command hq site) fun _ => .pure _))

end Program

end GraphicsObjects
