import GraphicsObjects.Session.Links

/-!
The operations of a client as data, and `Session.step`, which performs one. An operation that names
a variable that does not exist, or holds an object of another kind, is no operation: there is no
step.
-/

namespace GraphicsObjects

open Ownership

/-! ## Operations -/

/-- The operations on a context. -/
inductive ContextOp where
  | config
  | bind (slot : Slot) (id : Id)
  | unbind (slot : Slot)
  /-- An operation that fails while it holds a binding. -/
  | interrupted (slot : Slot) (id : Id)
  | activeBinding (slot : Slot)
  | isBound (slot : Slot) (id : Id)
  | invalidateBinding (slot : Slot)
  | invalidateBindings
  | pollError
  | getInteger (parameter : Enumerant)
  | maxTextureUnits
  | pixelStore (direction : PixelDirection)
  | clear (mask : ClearMask)
  | clearColor (color : Vector Single 4)
  | viewport (x y width height : Int)
  /-- A request that goes to the driver past the context. -/
  | request (r : Request)
  deriving DecidableEq

namespace ContextOp

abbrev Answer : ContextOp → Type
  | config => Config
  | activeBinding .. | maxTextureUnits => Nat
  | isBound .. => Bool
  | pollError => Option DriverError
  | getInteger .. => Int
  | pixelStore .. => PixelStore
  | request r => r.Answer
  | _ => Unit

variable {δ : Type} [Driver δ]

def run : (op : ContextOp) → ContextM δ op.Answer
  | config => do pure (← get).config
  | bind slot id => ContextM.bind slot id
  | unbind slot => ContextM.unbind slot
  | interrupted slot id => ContextM.interrupted slot id
  | activeBinding slot => ContextM.activeBinding slot
  | isBound slot id => ContextM.isBound slot id
  | invalidateBinding slot => ContextM.invalidateBinding slot
  | invalidateBindings => ContextM.invalidateBindings
  | pollError => ContextM.pollError
  | getInteger parameter => ContextM.getInteger parameter
  | maxTextureUnits => ContextM.maxTextureUnits
  | pixelStore direction => ContextM.pixelStore direction
  | clear mask => ContextM.clear mask
  | clearColor color => ContextM.clearColor color
  | viewport x y width height => ContextM.viewport x y width height
  | request r => ContextM.perform r

end ContextOp

/-- What can be made. Shaders of a program are named by their variables. -/
inductive Creation where
  | buffer (target : BufferTarget)
  | bufferWithData (target : BufferTarget) (data : Elements) (usage : BufferUsage)
  | texture (target : TextureTarget)
  | renderbuffer
  | renderbufferWithStorage (internalFormat : Enumerant) (width height : Nat)
  | framebuffer (target : FramebufferTarget)
  | screen
  | vertexArray
  | shader (stage : ShaderStage)
  | shaderWithSource (stage : ShaderStage) (source : String)
  | shaderFromFile (stage : ShaderStage) (contents : Option Bytes)
  | program
  | programWithShaders (shaders : List String)
  deriving DecidableEq

/-- The operations of a client. Objects are named by the variables that hold them. -/
inductive Op where
  | addContext (config : Config)
  | context (c : ContextId) (op : ContextOp)
  /-- Binds and keeps the guard. -/
  | acquire (name : String) (c : ContextId) (slot : Slot) (id : Id)
  | create (name : String) (c : ContextId) (what : Creation)
  | clone (source name : String)
  /-- Gives back what a variable holds; a guard is released. -/
  | drop (target : String)
  | bind (target : String)
  | unbind (target : String)
  | info (target : String)
  | buffer (target : String) (op : BufferOp)
  | texture (target : String) (op : TextureOp)
  | renderbuffer (target : String) (op : RenderbufferOp)
  | framebuffer (target : String) (op : FramebufferOp)
  | attachment (framebuffer : String) (point : Attachment)
  | attachRenderbuffer (framebuffer : String) (point : Attachment) (renderbuffer : String)
  | attachTexture (framebuffer : String) (point : Attachment) (texture : String)
      (part : Framebuffer.TexturePart)
  | enableAttribute (vertexArray : String) (index : Nat) (enable : Bool)
  | setPointer (vertexArray buffer : String) (layout : VertexAttribute)
  | setIndexBuffer (vertexArray buffer : String)
  | bufferCount (vertexArray : String)
  | shader (target : String) (op : ShaderOp)
  | program (target : String) (op : ProgramOp)
  | attachShader (program shader : String)
  | detachShader (program shader : String)
  | shaders (program : String)
  | drawArrays (program vertexArray : String) (mode : DrawMode) (first count : Int)
  | drawElements (program vertexArray : String) (mode : DrawMode) (count : Int) (type : IndexType)
      (offset : Nat)
  deriving DecidableEq

/-- What can be seen of an object. -/
structure ObjectInfo where
  kind : Kind
  box : BoxInfo
  strictUnbind : Bool
  deriving DecidableEq

def ObjectInfo.text (i : ObjectInfo) : String := i.box.text (name i.kind)

/-- An object that is attached, with its references while one more is held. -/
structure AttachmentInfo where
  kind : Kind
  id : Id
  refs : Nat
  deriving DecidableEq

abbrev Op.Answer : Op → Type
  | context _ op => op.Answer
  | acquire .. => Guard
  | create .. => Except Failure Id
  | clone .. => Id
  | info .. => ObjectInfo
  | buffer _ op => op.Answer
  | texture _ op => op.Answer
  | framebuffer _ op => op.Answer
  | attachment .. => Option AttachmentInfo
  | attachTexture .. => Except Failure Unit
  | bufferCount .. => Nat
  | shader _ op => op.Answer
  | program _ op => op.Answer
  | shaders .. => List Id
  | _ => Unit

/-! ## Steps -/

namespace Session

variable {δ α ρ : Type} [Driver δ]

open SessionM

/-- Work in the context of an object that gives an answer and what is known of the object after. -/
def onObject (s : Session δ) (known? : Payload → Option ρ) (payload : ρ → Payload)
    (target : String) (act : Id → ρ → ContextM δ (α × ρ)) : Option (α × Session δ) := do
  let o ← s.find? known? target
  pure <| Id.run <| StateT.run (s := s) do
    let (a, known) ← inContext o.context (act o.id o.known)
    setPayload o.ref (payload known)
    pure a

/-- Work in the context of an object after which the same is known of it. -/
def inContextOf (s : Session δ) (known? : Payload → Option ρ) (target : String)
    (act : Id → ρ → ContextM δ α) : Option (α × Session δ) := do
  let o ← s.find? known? target
  pure (inContext o.context (act o.id o.known) s)

/-- Makes an object; the shaders of a program must exist. -/
def make (s : Session δ) (c : ContextId) : Creation →
    Option (Except Failure (Ref × Id) × Session δ)
  | .buffer target => some (newBuffer c target s)
  | .bufferWithData target data usage => some (newBufferWithData c target data.bytes usage s)
  | .texture target => some (newObject c (.texture { target }) s)
  | .renderbuffer => some (newObject c .renderbuffer s)
  | .renderbufferWithStorage internalFormat width height =>
    some (newRenderbufferWithStorage c internalFormat width height s)
  | .framebuffer target => some (newFramebuffer c target s)
  | .screen =>
    let (made, s) := screen c s
    some (.ok made, s)
  | .vertexArray => some (newObject c (.vertexArray {}) s)
  | .shader stage => some (newShader c stage s)
  | .shaderWithSource stage source => some (newShaderWithSource c stage source s)
  | .shaderFromFile stage contents => some (newShaderFromFile c stage contents s)
  | .program => some (newProgram c s)
  | .programWithShaders shaders => do
    let found ← shaders.mapM (s.find? Payload.shader?)
    pure (newProgramWithShaders c (found.map (·.ref)) s)

/-- Makes an object and stores it in a variable. -/
def create (s : Session δ) (name : String) (c : ContextId) (what : Creation) :
    Option (Except Failure Id × Session δ) := do
  match ← s.make c what with
  | (.error e, s) => pure (.error e, s)
  | (.ok (r, id), s) => pure (.ok id, (setVariable name (.object r) s).2)

/-- Binds or unbinds the object in a variable. -/
def rebind (s : Session δ) (target : String) (bound : Bool) : Option (Unit × Session δ) := do
  let (_, b) ← s.box? target
  let slot ← b.content.payload.slot?
  let id := if bound then b.id else 0
  pure (inContext b.content.context (ContextM.bind slot id) s)

/-- Runs a draw with the program and the vertex array in two variables, in the context of the
program. -/
def draw (s : Session δ) (program vertexArray : String) (act : Id → Id → ContextM δ Unit) :
    Option (Unit × Session δ) := do
  let p ← s.find? Payload.program? program
  let v ← s.find? Payload.vertexArray? vertexArray
  pure (inContext p.context (act p.id v.id) s)

/-- Performs an operation: the answer and the session afterwards. -/
def step (s : Session δ) : (op : Op) → Option (op.Answer × Session δ)
  | .addContext config => some ((), s.addContext config)
  | .context c op => if c < s.contexts.length then some (inContext c op.run s) else none
  | .acquire name c slot id =>
    if c < s.contexts.length then
      let (g, s) := inContext c (ContextM.acquire slot id) s
      some (g, (setVariable name (.guard c g) s).2)
    else none
  | .create name c what => if c < s.contexts.length then s.create name c what else none
  | .clone source name => do
    let (r, b) ← s.box? source
    let (_, s) := retain r s
    pure (b.id, (setVariable name (.object r) s).2)
  | .drop target => do
    let held ← s.vars.get? target
    pure (dropHeld held { s with vars := s.vars.erase target })
  | .bind target => s.rebind target true
  | .unbind target => s.rebind target false
  | .info target => do
    let (_, b) ← s.box? target
    let strictUnbind := (s.contexts.getD b.content.context default).config.strictUnbind
    pure ({ kind := b.content.payload.kind, box := b.info, strictUnbind }, s)
  | .buffer target op => s.onObject Payload.buffer? .buffer target op.run
  | .texture target op => s.onObject Payload.texture? .texture target op.run
  | .renderbuffer target op => s.inContextOf Payload.renderbuffer? target fun id _ => op.run id
  | .framebuffer target op => s.inContextOf Payload.framebuffer? target op.run
  | .attachment framebuffer point => do
    let fb ← s.find? Payload.framebuffer? framebuffer
    let attached := (fb.known.attachments.get? point).bind s.store.get?
    pure (attached.map fun b => ⟨b.content.payload.kind, b.id, b.refs + 1⟩, s)
  | .attachRenderbuffer framebuffer point renderbuffer => do
    let fb ← s.find? Payload.framebuffer? framebuffer
    let rb ← s.find? Payload.renderbuffer? renderbuffer
    pure (attachRenderbuffer fb point rb s)
  | .attachTexture framebuffer point texture part => do
    let fb ← s.find? Payload.framebuffer? framebuffer
    let t ← s.find? Payload.texture? texture
    pure (attachTexture fb point t part s)
  | .enableAttribute vertexArray index enable =>
    s.inContextOf Payload.vertexArray? vertexArray fun id _ =>
      VertexArray.enableAttribute id index enable
  | .setPointer vertexArray buffer layout => do
    let v ← s.find? Payload.vertexArray? vertexArray
    let b ← s.find? Payload.buffer? buffer
    pure (setPointer v b layout s)
  | .setIndexBuffer vertexArray buffer => do
    let v ← s.find? Payload.vertexArray? vertexArray
    let b ← s.find? Payload.buffer? buffer
    pure (setIndexBuffer v b s)
  | .bufferCount vertexArray => do
    let v ← s.find? Payload.vertexArray? vertexArray
    pure (v.known.buffers.length, s)
  | .shader target op => s.onObject Payload.shader? .shader target op.run
  | .program target op => s.onObject Payload.program? .program target op.run
  | .attachShader program shader => do
    let p ← s.find? Payload.program? program
    let sh ← s.find? Payload.shader? shader
    pure (attachShader p sh s)
  | .detachShader program shader => do
    let p ← s.find? Payload.program? program
    let sh ← s.find? Payload.shader? shader
    pure (detachShader p sh s)
  | .shaders program => do
    let p ← s.find? Payload.program? program
    pure (p.known.shaders.map s.idOf, s)
  | .drawArrays program vertexArray mode first count =>
    s.draw program vertexArray fun p v => Program.drawArrays p v mode first count
  | .drawElements program vertexArray mode count type offset =>
    s.draw program vertexArray fun p v => Program.drawElements p v mode count type offset

end Session

end GraphicsObjects
