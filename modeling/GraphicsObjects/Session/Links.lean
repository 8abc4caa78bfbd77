import GraphicsObjects.Session.Basic

/-! Operations that tie two objects together, so that one keeps the other alive. -/

namespace GraphicsObjects

open Ownership

variable {δ : Type} [Driver δ]

namespace SessionM

/-- Attaches an object to a framebuffer. What was attached at the point is given back while the
framebuffer is still bound. -/
def attach (fb : Found Framebuffer) (point : Attachment) (object : Ref) (request : Request)
    (site : Site) : SessionM δ Unit := do
  let g ← inContext fb.context (ContextM.acquire fb.known.slot fb.id)
  inContext fb.context do
    let _ ← ContextM.command request site
  retain object
  let attachments := fb.known.attachments.insert point object
  setPayload fb.ref (.framebuffer { fb.known with attachments })
  giveBack (fb.known.attachments.get? point).toList
  inContext fb.context (ContextM.release g)

def attachRenderbuffer (fb : Found Framebuffer) (point : Attachment) (rb : Found Unit) :
    SessionM δ Unit :=
  attach fb point rb.ref (fb.known.renderbufferRequest point rb.id) .attachingRenderbuffer

/-- Attaches a part of a texture, if the texture's target allows it. -/
def attachTexture (fb : Found Framebuffer) (point : Attachment) (t : Found Texture)
    (part : Framebuffer.TexturePart) : SessionM δ (Except Failure Unit) := do
  match fb.known.textureRequest point part t.known.target t.id with
  | .error e => pure (.error e)
  | .ok request =>
    attach fb point t.ref request .attachingTexture
    pure (.ok ())

omit [Driver δ] in
/-- Lets a vertex array keep a buffer alive, once. -/
def keepBuffer (vao : Found VertexArray) (buffer : Ref) : SessionM δ Unit := do
  if buffer ∈ vao.known.buffers then pure ()
  else
    retain buffer
    setPayload vao.ref (.vertexArray { vao.known with buffers := vao.known.buffers ++ [buffer] })

/-- Lets a vertex array read an attribute from a buffer. -/
def setPointer (vao : Found VertexArray) (b : Found Buffer) (layout : VertexAttribute) :
    SessionM δ Unit := do
  inContext vao.context (VertexArray.setPointer vao.id b.id layout)
  keepBuffer vao b.ref

/-- Gives a vertex array the buffer for indexed draws. -/
def setIndexBuffer (vao : Found VertexArray) (b : Found Buffer) : SessionM δ Unit := do
  inContext vao.context (VertexArray.setIndexBuffer vao.id b.id)
  keepBuffer vao b.ref

/-- Compiles a shader that is not compiled. -/
def ensureCompiled (sh : Found Shader) : SessionM δ Unit := do
  if sh.known.compiled then pure ()
  else
    let compiled ← inContext sh.context (sh.known.compile sh.id)
    setPayload sh.ref (.shader compiled)

/-- Attaches a shader to a program, compiled first if need be. -/
def attachShader (p : Found Program) (sh : Found Shader) : SessionM δ Unit := do
  ensureCompiled sh
  inContext p.context (ContextM.command (.attachShader p.id sh.id) .attachingShader)
  if sh.ref ∈ p.known.shaders then pure ()
  else
    retain sh.ref
    setPayload p.ref (.program { p.known with shaders := p.known.shaders ++ [sh.ref] })

/-- Detaches a shader from a program, which no longer keeps it alive. -/
def detachShader (p : Found Program) (sh : Found Shader) : SessionM δ Unit := do
  inContext p.context (ContextM.command (.detachShader p.id sh.id) .detachingShader)
  let shaders := p.known.shaders.filter (· ≠ sh.ref)
  setPayload p.ref (.program { p.known with shaders })
  giveBack (p.known.shaders.filter (· = sh.ref))

/-- Attaches the shader behind a reference to the program behind another. -/
def attachShaderAt (program shader : Ref) : SessionM δ Unit := do
  let s ← get
  match s.follow? Payload.program? program, s.follow? Payload.shader? shader with
  | some p, some sh => attachShader p sh
  | _, _ => pure ()

/-- Links the program behind a reference. -/
def linkAt (program : Ref) : SessionM δ Unit := do
  match (← get).follow? Payload.program? program with
  | some p =>
    let linked ← inContext p.context (p.known.link p.id)
    setPayload p.ref (.program linked)
  | none => pure ()

/-- A program to which shaders are attached, and which is linked, at once. A link that fails is no
failure. -/
def newProgramWithShaders (c : ContextId) (shaders : List Ref) :
    SessionM δ (Except Failure (Ref × Id)) :=
  andThen (newProgram c) fun r _ => do
    shaders.forM (attachShaderAt r)
    linkAt r

end SessionM

end GraphicsObjects
