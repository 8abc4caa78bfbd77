import GraphicsObjects.Object.Buffer
import GraphicsObjects.Object.Framebuffer
import GraphicsObjects.Object.Program
import GraphicsObjects.Object.Renderbuffer
import GraphicsObjects.Object.Shader
import GraphicsObjects.Object.Texture
import GraphicsObjects.Object.VertexArray
import GraphicsObjects.Proofs.Context.Routines

/-!
# Operations on objects as routines

Operations on an object send plain requests with the usual checks, but for a few: those on buffers
replace stores and bind element buffers, a link and the choice of an element buffer tie objects
together; and an allocation and the clearing of a framebuffer name the check after their command in
their own way.
-/

namespace GraphicsObjects

open ContextM

variable {δ : Type} [Driver δ] {α : Type} {sent : Request → Option Site → Prop} {fills : Prop}
variable {id : Id}

/-- The operation gives the buffer a new store. -/
def BufferOp.Fills : BufferOp → Prop
  | setData .. | allocate .. => True
  | setSubData .. | size | target => False

/-- The sites of the checks in an operation on a buffer. -/
def BufferOp.site? : BufferOp → Request → Option Site
  | allocate .., .bufferData .. => some .allocatingBuffer
  | _, q => q.site?

/-- The sites of the checks in an operation on a framebuffer. -/
def FramebufferOp.site? : FramebufferOp → Request → Option Site
  | clear _, .clear _ => some .clearingFramebuffer
  | _, q => q.site?

namespace Buffer

theorem routine_updating (b : Buffer) (hs : ∀ slot i, sent (.bind slot i) none)
    {act : ContextM δ α} (hact : Routine sent act) : Routine sent (b.updating id act) := by
  unfold updating
  split
  · exact routine_holding (hs _) (hs _) (routine_holding (hs _) (hs _) hact)
  · exact routine_holding (hs _) (hs _) hact

theorem routine_setStore (b : Buffer) {contents : StoreContents} {usage : BufferUsage} {site : Site}
    (hs : ∀ slot i, sent (.bind slot i) none)
    (hd : sent (.bufferData b.target contents usage) (some site)) :
    Routine sent (b.setStore id contents usage site : ContextM δ Buffer) :=
  .bind (b.routine_updating hs (.command hd)) fun _ => .pure _

theorem apartly_setData (b : Buffer) (data : Bytes) (usage : BufferUsage) :
    Routine (Apartly True) (b.setData id data usage : ContextM δ Buffer) :=
  b.routine_setStore apartly_bind ⟨⟨fun _ => trivial, nofun⟩, nofun, rfl⟩

theorem routine_run (op : BufferOp) (b : Buffer) :
    Routine (Request.By (Request.Apart op.Fills) op.site?)
      (op.run id b : ContextM δ (op.Answer × Buffer)) := by
  have hbinds (slot : Slot) (i : Id) :
      Request.By (Request.Apart op.Fills) op.site? (.bind slot i) none :=
    ⟨⟨False.elim, nofun⟩, nofun, by cases op <;> rfl⟩
  cases op with
  | setData data usage => exact .bind (b.apartly_setData data.bytes usage) fun _ => .pure _
  | allocate size usage =>
      exact .bind (b.routine_setStore hbinds ⟨⟨fun _ => trivial, nofun⟩, nofun, rfl⟩) fun _ =>
        .pure _
  | setSubData offset data =>
      refine .bind ?_ fun _ => .pure _
      unfold setSubData
      split
      · refine .bind (b.routine_updating hbinds (.command ?_)) fun _ => .pure _
        exact ⟨⟨False.elim, nofun⟩, nofun, rfl⟩
      · exact .pure _
  | size | target => exact .pure _

end Buffer

namespace Texture

variable {t : Texture}

theorem routine_command {q : Request} {site : Site} (hq : Plainly q (some site)) :
    Routine Plainly (holding t.slot id (command q site) : ContextM δ q.Answer) :=
  plainly_holding nofun (.command hq)

theorem routine_setToUnit (t : Texture) (unit : Nat) :
    Routine Plainly (t.setToUnit id unit : ContextM δ _) := by
  refine .bind routine_maxTextureUnits fun _ => ?_
  split
  · exact .pure _
  · refine .bind (routine_bind activates_plainly ?_) fun _ => .pure _
    exact plainly_bind (by simp [slot]) id

theorem routine_setImage (t : Texture) (form : ImageForm) (image : ImageSpec) :
    Routine Plainly (t.setImage id form image : ContextM δ _) := by
  unfold setImage
  split
  · exact .pure _
  · refine .bind ?_ fun checked => ?_
    · unfold checkImage
      split
      · exact .pure _
      · exact .bind (routine_pixelStore _) fun _ => .pure _
    · split
      · exact .pure _
      · refine .bind (plainly_holding nofun (routine_command ?_)) fun _ => .pure _
        exact ⟨trivial, nofun, rfl⟩

theorem routine_run (op : TextureOp) (t : Texture) :
    Routine Plainly (op.run id t : ContextM δ (op.Answer × Texture)) := by
  cases op with
  | target | unit => exact .pure _
  | setToUnit unit => exact t.routine_setToUnit unit
  | setImage form image => exact .bind (t.routine_setImage form image) fun _ => .pure _
  | generateMipmap | setParameter | parameter =>
      exact .bind (routine_command ⟨trivial, nofun, rfl⟩) fun _ => .pure _
  | setWrap mode =>
      refine .bind (.forM fun _ _ => routine_command ?_) fun _ => .pure _
      exact ⟨trivial, nofun, rfl⟩
  | setFilter =>
      refine .bind ?_ fun _ => .pure _
      exact .bind (routine_command ⟨trivial, nofun, rfl⟩) fun _ =>
        routine_command ⟨trivial, nofun, rfl⟩

end Texture

theorem Renderbuffer.routine_run (op : RenderbufferOp) :
    Routine Plainly (op.run id : ContextM δ Unit) := by
  cases op with
  | setStorage => exact plainly_holding nofun (.command ⟨trivial, nofun, rfl⟩)

namespace Framebuffer

variable {f : Framebuffer}

theorem routine_bound (f : Framebuffer) {site? : Request → Option Site}
    (hs : ∀ slot i, site? (.bind slot i) = none) {act : ContextM δ α}
    (hact : Routine (Request.By Request.Plain site?) act) :
    Routine (Request.By Request.Plain site?) (f.bound id act) :=
  routine_holding (fun _ => ⟨nofun, nofun, (hs ..).symm⟩)
    (fun _ => ⟨nofun, nofun, (hs ..).symm⟩) hact

theorem routine_run (op : FramebufferOp) (f : Framebuffer) :
    Routine (Request.By Request.Plain op.site?) (op.run id f : ContextM δ op.Answer) := by
  cases op with
  | target => exact .pure _
  | checkStatus =>
      refine .bind (f.routine_bound (fun _ _ => rfl) (.command ?_)) fun _ => .pure _
      exact ⟨trivial, nofun, rfl⟩
  | ensureComplete =>
      refine .bind (.bind (f.routine_bound (fun _ _ => rfl) (.command ?_)) fun _ => .pure _)
        fun _ => .pure _
      exact ⟨trivial, nofun, rfl⟩
  | setDrawBuffers points =>
      simp only [FramebufferOp.run, setDrawBuffers]
      split
      · exact .pure _
      · refine .bind (f.routine_bound (fun _ _ => rfl) (.command ?_)) fun _ => .pure _
        exact ⟨trivial, nofun, rfl⟩
  | readPixels block out =>
      refine .bind ?_ fun checked => ?_
      · unfold checkRead
        split
        · exact .pure _
        · exact .bind (routine_pixelStore _) fun _ => .pure _
      · split
        · exact .pure _
        · refine .bind (plainly_holding nofun (plainly_holding nofun (.command ?_)))
            fun _ => .pure _
          exact ⟨trivial, nofun, rfl⟩
  | clear mask =>
      simp only [FramebufferOp.run, clear]
      split
      · exact .pure _
      · refine .bind (f.routine_bound (fun _ _ => rfl) (.command ?_)) fun _ => .pure _
        exact ⟨trivial, nofun, rfl⟩

end Framebuffer

namespace VertexArray

theorem routine_enableAttribute (index : Nat) (enable : Bool) :
    Routine Plainly (enableAttribute id index enable : ContextM δ Unit) :=
  plainly_holding nofun (.command ⟨trivial, nofun, rfl⟩)

theorem routine_setPointer (buffer : Id) (layout : VertexAttribute) :
    Routine Plainly (setPointer id buffer layout : ContextM δ Unit) :=
  plainly_holding nofun (plainly_holding nofun (.command ⟨trivial, nofun, rfl⟩))

/-- The element buffer of a vertex array is bound with it. -/
theorem routine_setIndexBuffer (buffer : Id) :
    Routine (Apartly fills) (setIndexBuffer id buffer : ContextM δ Unit) :=
  apartly_holding _ _ (routine_bind activates_apartly (apartly_bind _ _))

end VertexArray

namespace Shader

theorem routine_setSource (sh : Shader) (source : String) :
    Routine Plainly (sh.setSource id source : ContextM δ Shader) := by
  unfold setSource
  split
  · exact .bind (.note rfl) fun _ => .bind (.command ⟨trivial, nofun, rfl⟩) fun _ => .pure _
  · exact .bind (.command ⟨trivial, nofun, rfl⟩) fun _ => .pure _

theorem routine_compile (sh : Shader) : Routine Plainly (sh.compile id : ContextM δ Shader) := by
  refine .bind (.command ⟨trivial, nofun, rfl⟩) fun _ =>
    .bind (.perform ⟨trivial, nofun, rfl⟩) fun status => ?_
  cases status with
  | true => exact .pure _
  | false => exact .bind (.note rfl) fun _ => .pure _

theorem routine_run (op : ShaderOp) (sh : Shader) :
    Routine Plainly (op.run id sh : ContextM δ (op.Answer × Shader)) := by
  cases op with
  | stage | isCompiled => exact .pure _
  | setSource source => exact .bind (sh.routine_setSource source) fun _ => .pure _
  | compile => exact .bind sh.routine_compile fun _ => .pure _
  | infoLog => exact .bind (.perform ⟨trivial, nofun, rfl⟩) fun _ => .pure _

end Shader

namespace Program

theorem routine_query (q : Request) (hq : Plainly q none) (f : q.Answer → α) :
    Routine Plainly (do let a ← perform q; pure (f a) : ContextM δ α) :=
  .bind (.perform hq) fun _ => .pure _

theorem routine_count (p : Enumerant) :
    Routine Plainly (do pure (← parameter id p).toNat : ContextM δ Nat) :=
  .bind (.command ⟨trivial, nofun, rfl⟩) fun _ => .pure _

/-- What is active at an index is asked for if the index is below the number. -/
theorem routine_info (q : Request) (hq : Plainly q none) (p : Enumerant) (index : Nat)
    (f : q.Answer → Option α) : Routine Plainly (do
      let count ← (do pure (← parameter id p).toNat : ContextM δ Nat)
      if count ≤ index then pure none
      else
        let v ← perform q
        pure (f v) : ContextM δ (Option α)) := by
  refine .bind (routine_count p) fun count => ?_
  split
  · exact .pure _
  · exact routine_query q hq f

theorem routine_setUniformAt (location : Int) (value : UniformValue) :
    Routine Plainly (setUniformAt id location value : ContextM δ Unit) :=
  plainly_holding nofun (.command ⟨trivial, nofun, rfl⟩)

theorem routine_setUniform (name : String) (value : UniformValue) :
    Routine Plainly (setUniform id name value : ContextM δ Bool) := by
  have hlocation : Routine Plainly (uniformLocation id name : ContextM δ (Option Int)) :=
    routine_query (.uniformLocation id name) ⟨trivial, nofun, rfl⟩ _
  refine .bind hlocation fun location? => ?_
  cases location? with
  | none => exact .bind (.note rfl) fun _ => .pure _
  | some location => exact .bind (routine_setUniformAt location value) fun _ => .pure _

theorem routine_link (p : Program) : Routine (Apartly fills) (p.link id : ContextM δ Program) := by
  refine .bind (.command ⟨⟨False.elim, nofun⟩, nofun, rfl⟩) fun _ => ?_
  refine .bind (.perform ⟨⟨False.elim, nofun⟩, nofun, rfl⟩) fun status => ?_
  cases status with
  | true => exact .pure _
  | false => exact .bind (.note rfl) fun _ => .pure _

/-- Of the operations on a program, a link alone sends a request that is not plain. -/
theorem routine_run {op : ProgramOp} (p : Program) (h : op ≠ .link) :
    Routine Plainly (op.run id p : ContextM δ (op.Answer × Program)) := by
  cases op with
  | link => exact absurd rfl h
  | isLinked => exact .pure _
  | infoLog => exact .bind (.perform ⟨trivial, nofun, rfl⟩) fun _ => .pure _
  | validate =>
      refine .bind (.bind (.command ⟨trivial, nofun, rfl⟩) fun _ => ?_) fun _ => .pure _
      exact .perform ⟨trivial, nofun, rfl⟩
  | dispatch x y z =>
      exact .bind (plainly_holding nofun (.command ⟨trivial, nofun, rfl⟩)) fun _ => .pure _
  | bindAttributeLocation | parameter =>
      exact .bind (.command ⟨trivial, nofun, rfl⟩) fun _ => .pure _
  | attributeLocation name =>
      exact .bind (routine_query (.attributeLocation id name) ⟨trivial, nofun, rfl⟩ _) fun _ =>
        .pure _
  | uniformLocation name =>
      exact .bind (routine_query (.uniformLocation id name) ⟨trivial, nofun, rfl⟩ _) fun _ =>
        .pure _
  | uniformCount | attributeCount => exact .bind (routine_count _) fun _ => .pure _
  | uniformInfo index =>
      exact .bind (routine_info (.activeUniform id index) ⟨trivial, nofun, rfl⟩ _ index some)
        fun _ => .pure _
  | attributeInfo index =>
      exact .bind (routine_info (.activeAttribute id index) ⟨trivial, nofun, rfl⟩ _ index some)
        fun _ => .pure _
  | setUniform | setTextureUnit => exact .bind (routine_setUniform _ _) fun _ => .pure _
  | setUniformAt => exact .bind (routine_setUniformAt _ _) fun _ => .pure _

theorem routine_run_apart (op : ProgramOp) (p : Program) :
    Routine (Apartly fills) (op.run id p : ContextM δ (op.Answer × Program)) := by
  by_cases h : op = .link
  · subst h
    exact .bind p.routine_link fun _ => .pure _
  · exact (p.routine_run h).apart

theorem routine_draw (vertexArray : Id) {r : Request} {site : Site}
    (hs : ∀ slot i, slot ≠ .elementArray → sent (.bind slot i) none) (hr : sent r (some site)) :
    Routine sent (draw id vertexArray r site : ContextM δ Unit) := by
  have hbind {slot : Slot} (hslot : slot ≠ .elementArray) (i : Id) : sent (.bind slot i) none :=
    hs slot i hslot
  refine routine_holding (hbind nofun) (hbind nofun) ?_
  exact routine_holding (hbind nofun) (hbind nofun) (.bind (.command hr) fun _ => .pure _)

end Program

end GraphicsObjects
