import GraphicsObjects.Object.Buffer
import GraphicsObjects.Object.Framebuffer
import GraphicsObjects.Object.Program
import GraphicsObjects.Object.Renderbuffer
import GraphicsObjects.Object.Shader
import GraphicsObjects.Object.Texture
import GraphicsObjects.Object.VertexArray
import GraphicsObjects.Ownership.Handles

/-!
A session: contexts over one driver, the objects made in them, and a client whose variables hold
references to objects and bind guards. An object is destroyed when its last reference is given back,
be it the client's or that of another object.
-/

namespace GraphicsObjects

open Ownership

/-- The index of a context. -/
abbrev ContextId := Nat

/-- What is known of an object, by its kind. -/
inductive Payload where
  | buffer (b : Buffer)
  | texture (t : Texture)
  | renderbuffer
  | framebuffer (f : Framebuffer)
  | vertexArray (v : VertexArray)
  | shader (sh : Shader)
  | program (p : Program)
  deriving DecidableEq

/-- An object with the context in which it was made. -/
structure Object where
  context : ContextId
  payload : Payload
  deriving DecidableEq

namespace Payload

def kind : Payload → Kind
  | buffer _ => .buffer
  | texture _ => .texture
  | renderbuffer => .renderbuffer
  | framebuffer _ => .framebuffer
  | vertexArray _ => .vertexArray
  | shader _ => .shader
  | program _ => .program

/-- The slot to which the object is bound. Shaders are not bound. -/
def slot? : Payload → Option Slot
  | buffer b => some b.slot
  | texture t => some t.slot
  | renderbuffer => some .renderbuffer
  | framebuffer f => some f.slot
  | vertexArray _ => some .vertexArray
  | shader _ => none
  | program _ => some .program

/-- The objects that it keeps alive. -/
def owned : Payload → List Ref
  | framebuffer f => f.kept
  | vertexArray v => v.buffers
  | program p => p.shaders
  | _ => []

def buffer? : Payload → Option Buffer
  | buffer b => some b
  | _ => none

def texture? : Payload → Option Texture
  | texture t => some t
  | _ => none

def renderbuffer? : Payload → Option Unit
  | renderbuffer => some ()
  | _ => none

def framebuffer? : Payload → Option Framebuffer
  | framebuffer f => some f
  | _ => none

def vertexArray? : Payload → Option VertexArray
  | vertexArray v => some v
  | _ => none

def shader? : Payload → Option Shader
  | shader sh => some sh
  | _ => none

def program? : Payload → Option Program
  | program p => some p
  | _ => none

end Payload

instance : Owner Object where
  owned o := o.payload.owned

/-- What a variable holds. -/
inductive Held where
  | object (r : Ref)
  | guard (context : ContextId) (g : Guard)
  deriving DecidableEq

structure Session (δ : Type) where
  driver : δ
  contexts : List Bookkeeping
  trace : List Event := []
  store : Store Object := .empty
  vars : Table String Held := .empty
  /-- The order in which each framebuffer gives back what is attached to it, by its reference. It
  is no choice of the client or of the driver, and it does not change. -/
  orders : List (List Nat) := []
  deriving DecidableEq

/-- Work in a session. -/
abbrev SessionM (δ : Type) := StateM (Session δ)

variable {δ α : Type}

namespace Session

/-- A session with one context over a driver. -/
def start (driver : δ) (config : Config) (orders : List (List Nat) := []) : Session δ where
  driver
  contexts := [{ config }]
  trace := [.creatingContext config]
  orders

/-- The order of the framebuffer behind a reference. -/
def order (s : Session δ) (r : Ref) : List Nat := s.orders.getD r []

/-- Adds a context over the same driver. -/
def addContext (s : Session δ) (config : Config) : Session δ :=
  { s with
    contexts := s.contexts ++ [{ config }]
    trace := s.trace ++ [.creatingContext config] }

/-- The context with a given index, together with the driver. -/
def enter (s : Session δ) (c : ContextId) : Context δ :=
  { toBookkeeping := s.contexts.getD c default, driver := s.driver, trace := s.trace }

/-- The session after work in a context. -/
def leave (s : Session δ) (c : ContextId) (ctx : Context δ) : Session δ :=
  { s with
    driver := ctx.driver
    trace := ctx.trace
    contexts := s.contexts.set c ctx.toBookkeeping }

end Session

namespace SessionM

/-- Does work in a context. -/
def inContext (c : ContextId) (act : ContextM δ α) : SessionM δ α := fun s =>
  let (a, ctx) := act (s.enter c)
  (a, s.leave c ctx)

def setPayload (r : Ref) (payload : Payload) : SessionM δ Unit :=
  modify fun s => { s with store := s.store.modify r fun b =>
    { b with content := { b.content with payload } } }

def retain (r : Ref) : SessionM δ Unit := modify fun s => { s with store := s.store.retain r }

variable [Driver δ]

/-! ## Giving back -/

/-- Deletes the driver's object of a box that is gone, unless it is the default object. -/
def destroyBox (b : Box Object) : SessionM δ Unit :=
  if b.id = 0 then pure ()
  else inContext b.content.context (ContextM.destroy b.content.payload.kind b.id)

/-- Gives references back, and deletes what is no longer referred to. -/
def giveBack (rs : List Ref) : SessionM δ Unit := fun s =>
  let (destroyed, store) := s.store.release rs
  destroyed.forM destroyBox { s with store }

/-- Gives back what a variable held. -/
def dropHeld : Held → SessionM δ Unit
  | .object r => giveBack [r]
  | .guard c g => inContext c (ContextM.release g)

/-- Stores something in a variable, and gives back what was in it. -/
def setVariable (name : String) (h : Held) : SessionM δ Unit := do
  let old := (← get).vars.get? name
  modify fun s => { s with vars := s.vars.insert name h }
  match old with
  | some old => dropHeld old
  | none => pure ()

/-! ## Creation -/

/-- Takes an object into the store, if the driver made it. -/
def adopt (c : ContextId) (payload : Payload) (made : ContextM δ (Except Failure Id)) :
    SessionM δ (Except Failure (Ref × Id)) := do
  match ← inContext c made with
  | .error e => pure (.error e)
  | .ok id =>
    let (r, store) := (← get).store.add id true ⟨c, payload⟩
    modify fun s => { s with store }
    pure (.ok (r, id))

/-- Takes a new object of a kind that is created in batches into the store. -/
def newObject (c : ContextId) (payload : Payload) : SessionM δ (Except Failure (Ref × Id)) :=
  adopt c payload (ContextM.createObject payload.kind)

/-- Continues with an object if it was made. -/
def andThen (made : SessionM δ (Except Failure (Ref × Id))) (act : Ref → Id → SessionM δ Unit) :
    SessionM δ (Except Failure (Ref × Id)) := do
  match ← made with
  | .error e => pure (.error e)
  | .ok (r, id) =>
    act r id
    pure (.ok (r, id))

def newBuffer (c : ContextId) (target : BufferTarget) : SessionM δ (Except Failure (Ref × Id)) :=
  newObject c (.buffer { target })

/-- A buffer that is filled at once. -/
def newBufferWithData (c : ContextId) (target : BufferTarget) (data : Bytes) (usage : BufferUsage) :
    SessionM δ (Except Failure (Ref × Id)) :=
  andThen (newBuffer c target) fun r id => do
    let b ← inContext c (Buffer.setData { target } id data usage)
    setPayload r (.buffer b)

/-- A renderbuffer that is given single-sampled storage at once. -/
def newRenderbufferWithStorage (c : ContextId) (internalFormat : Enumerant) (width height : Nat) :
    SessionM δ (Except Failure (Ref × Id)) :=
  andThen (newObject c .renderbuffer) fun _ id =>
    inContext c (Renderbuffer.setStorage id internalFormat width height 0)

def newFramebuffer (c : ContextId) (target : FramebufferTarget) :
    SessionM δ (Except Failure (Ref × Id)) := do
  let s ← get
  newObject c (.framebuffer { target, order := s.order s.store.next })

omit [Driver δ] in
/-- The default framebuffer, which has no name and is never deleted. -/
def screen (c : ContextId) : SessionM δ (Ref × Id) := do
  let s ← get
  let f : Framebuffer := { target := .combined, order := s.order s.store.next }
  let (r, store) := s.store.add 0 false ⟨c, .framebuffer f⟩
  modify fun s => { s with store }
  pure (r, 0)

def newShader (c : ContextId) (stage : ShaderStage) : SessionM δ (Except Failure (Ref × Id)) :=
  adopt c (.shader { stage }) (ContextM.createShader stage)

/-- A shader whose source is compiled at once. A source that does not compile is no failure. -/
def newShaderWithSource (c : ContextId) (stage : ShaderStage) (source : String) :
    SessionM δ (Except Failure (Ref × Id)) :=
  andThen (newShader c stage) fun r id => do
    let sh ← inContext c do (← Shader.setSource { stage } id source).compile id
    setPayload r (.shader sh)

/-- A shader from a source file, which is read before the shader is made. -/
def newShaderFromFile (c : ContextId) (stage : ShaderStage) (contents : Option Bytes) :
    SessionM δ (Except Failure (Ref × Id)) :=
  match Shader.readSource contents with
  | .error e => pure (.error e)
  | .ok source => newShaderWithSource c stage source

def newProgram (c : ContextId) : SessionM δ (Except Failure (Ref × Id)) :=
  adopt c (.program {}) ContextM.createProgram

end SessionM

/-! ## Objects in variables -/

/-- An object found in the store, with what is known of it as one of its kind. -/
structure Found (ρ : Type) where
  ref : Ref
  id : Id
  context : ContextId
  known : ρ

namespace Session

/-- The box to which a variable refers. -/
def box? (s : Session δ) (name : String) : Option (Ref × Box Object) :=
  match s.vars.get? name with
  | some (.object r) => (s.store.get? r).map fun b => (r, b)
  | _ => none

/-- The object behind a reference, if it is of the kind that `known?` takes. -/
def follow? {ρ : Type} (s : Session δ) (known? : Payload → Option ρ) (r : Ref) :
    Option (Found ρ) := do
  let b ← s.store.get? r
  let known ← known? b.content.payload
  pure { ref := r, id := b.id, context := b.content.context, known }

/-- The object in a variable, if it is of the kind that `known?` takes. -/
def find? {ρ : Type} (s : Session δ) (known? : Payload → Option ρ) (name : String) :
    Option (Found ρ) :=
  match s.vars.get? name with
  | some (.object r) => s.follow? known? r
  | _ => none

/-- The driver's name of the object behind a reference. -/
def idOf (s : Session δ) (r : Ref) : Id := (s.store.get? r).elim 0 (·.id)

end Session

end GraphicsObjects
