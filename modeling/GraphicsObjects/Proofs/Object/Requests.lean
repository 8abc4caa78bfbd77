import GraphicsObjects.Proofs.Context.Requests
import GraphicsObjects.Proofs.Object.Routines

/-!
# Operations on objects by their requests

What operations on objects ask of the simulated driver: most of them plain requests only.
-/

namespace GraphicsObjects

open ContextM

variable {fills : Prop} {id : Id}

theorem Buffer.permitted_run (op : BufferOp) (b : Buffer) :
    Sends (Request.Permitted op.Fills) (op.run id b) :=
  (b.routine_run op).permitted

theorem Texture.plain_run (op : TextureOp) (t : Texture) : Plain (op.run id t) :=
  (t.routine_run op).plain

theorem Renderbuffer.plain_run (op : RenderbufferOp) :
    Plain (op.run id : ContextM Sim Unit) :=
  (Renderbuffer.routine_run op).plain

theorem Framebuffer.plain_run (op : FramebufferOp) (f : Framebuffer) : Plain (op.run id f) :=
  (f.routine_run op).plain

theorem Shader.plain_run (op : ShaderOp) (sh : Shader) : Plain (op.run id sh) :=
  (sh.routine_run op).plain

/-- Of the operations on a program, a link alone sends a request that is not plain. -/
theorem Program.plain_run {op : ProgramOp} (p : Program) (h : op ≠ .link) : Plain (op.run id p) :=
  (p.routine_run h).plain

theorem Program.sends_draw {allowed : Request → Prop} (vertexArray : Id) (hg : allowed .getError)
    (hs : ∀ slot i, slot ≠ .elementArray → allowed (.bind slot i)) {r : Request} (hr : allowed r)
    (site : Site) : Sends allowed (draw id vertexArray r site : ContextM Sim Unit) := by
  have hdraw : Routine (fun q _ => allowed q) (draw id vertexArray r site : ContextM Sim Unit) :=
    routine_draw vertexArray hs hr
  exact hdraw.sends hg fun _ _ hq => hq

end GraphicsObjects
