import GraphicsObjects.Proofs.Context.Linking
import GraphicsObjects.Proofs.Object.Requests

/-!
# Operations on objects that tie none together

Operations that send plain requests only keep the links between objects. To update an element buffer
is to bind it, which counts where the vertex arrays do.
-/

namespace GraphicsObjects

open ContextM

variable {α : Type} {tied : Prop} {id : Id}

namespace Buffer

/-- An element buffer is bound to be changed. -/
theorem keepsLinks_updating (b : Buffer) {act : ContextM Sim α} (hact : KeepsLinks False act) :
    KeepsLinks False (b.updating id act) := by
  unfold updating
  split
  · exact keepsLinks_holding False.elim (keepsLinks_holding False.elim hact)
  · exact keepsLinks_holding False.elim hact

theorem keepsLinks_setStore (b : Buffer) (contents : StoreContents) (usage : BufferUsage)
    (site : Site) : KeepsLinks False (b.setStore id contents usage site) :=
  .bind (b.keepsLinks_updating (keepsLinks_command trivial)) fun _ => .pure _

theorem keepsLinks_run (op : BufferOp) (b : Buffer) : KeepsLinks False (op.run id b) := by
  cases op with
  | setData | allocate => exact .bind (b.keepsLinks_setStore _ _ _) fun _ => .pure _
  | setSubData offset data =>
      refine .bind ?_ fun _ => .pure _
      unfold setSubData
      split
      · exact .bind (b.keepsLinks_updating (keepsLinks_command trivial)) fun _ => .pure _
      · exact .pure _
  | size | target => exact .pure _

end Buffer

theorem Texture.keepsLinks_run (op : TextureOp) (t : Texture) : KeepsLinks tied (op.run id t) :=
  (t.plain_run op).keepsLinks

theorem Renderbuffer.keepsLinks_run (op : RenderbufferOp) :
    KeepsLinks tied (op.run id : ContextM Sim Unit) :=
  (Renderbuffer.plain_run op).keepsLinks

theorem Framebuffer.keepsLinks_run (op : FramebufferOp) (f : Framebuffer) :
    KeepsLinks tied (op.run id f) :=
  (f.plain_run op).keepsLinks

namespace VertexArray

theorem keepsLinks_enableAttribute (index : Nat) (enable : Bool) :
    KeepsLinks tied (enableAttribute id index enable : ContextM Sim Unit) :=
  (routine_enableAttribute index enable).plain.keepsLinks

theorem keepsLinks_setPointer (buffer : Id) (layout : VertexAttribute) :
    KeepsLinks tied (setPointer id buffer layout : ContextM Sim Unit) :=
  (routine_setPointer buffer layout).plain.keepsLinks

end VertexArray

namespace Shader

theorem keepsLinks_setSource (sh : Shader) (source : String) :
    KeepsLinks tied (sh.setSource id source) :=
  (sh.routine_setSource source).plain.keepsLinks

theorem keepsLinks_compile (sh : Shader) : KeepsLinks tied (sh.compile id) :=
  sh.routine_compile.plain.keepsLinks

theorem keepsLinks_run (op : ShaderOp) (sh : Shader) : KeepsLinks tied (op.run id sh) :=
  (sh.plain_run op).keepsLinks

end Shader

namespace Program

/-- Of the operations on a program, a link alone changes what the program is linked to. -/
theorem keepsLinks_run {op : ProgramOp} (p : Program) (h : op ≠ .link) :
    KeepsLinks tied (op.run id p) :=
  (p.plain_run h).keepsLinks

theorem keepsLinks_draw (vertexArray : Id) {r : Request} (hr : r.KeepsLinks tied) (site : Site) :
    KeepsLinks tied (draw id vertexArray r site : ContextM Sim Unit) :=
  sends_draw vertexArray trivial (fun _ _ hs _ => hs) hr site

end Program

end GraphicsObjects
