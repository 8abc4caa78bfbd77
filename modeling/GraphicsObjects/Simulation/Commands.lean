import GraphicsObjects.Simulation.State

/-! Commands of the simulated driver on the contents of bound objects, and drawing. -/

namespace GraphicsObjects.Sim

open Simulation

/-- The oldest pending error code, which is taken out of the queue. -/
def takeError (s : Sim) : Enumerant × Sim :=
  match s.errors with
  | [] => (Enumerant.noError, s)
  | e :: es => (e, { s with errors := es })

def integer (s : Sim) (parameter : Enumerant) : Int := s.integers.getD parameter 0

def setInteger (s : Sim) (parameter : Enumerant) (value : Int) : Sim :=
  { s with integers := s.integers.insert parameter value }

def clear (s : Sim) (mask : ClearMask) : Sim :=
  { s with clears := s.clears ++ [(s.bound (.framebuffer .draw), mask)] }

/-! ## Buffers -/

/-- Replaces the store of the bound buffer. -/
def bufferData (s : Sim) (target : BufferTarget) (contents : StoreContents) : Sim :=
  let buffer := s.bound (.buffer target)
  if buffer = 0 then s.raise Enumerant.invalidOperation
  else { s with buffers := s.buffers.insert buffer (.ofContents contents) }

/-- Replaces a part of the store of the bound buffer, which must hold it. -/
def bufferSubData (s : Sim) (target : BufferTarget) (offset : Nat) (data : Bytes) : Sim :=
  let buffer := s.bound (.buffer target)
  match s.buffers.get? buffer with
  | none => s.raise Enumerant.invalidValue
  | some old =>
    if offset + data.length ≤ old.size then
      { s with buffers := s.buffers.insert buffer (old.write offset data) }
    else s.raise Enumerant.invalidValue

/-! ## Textures and renderbuffers -/

def alterTexture (s : Sim) (id : Id) (f : TextureState → TextureState) : Sim :=
  { s with textures := s.textures.alter id {} f }

/-- Specifies an image of the bound texture. -/
def texImage (s : Sim) (target : ImageTarget) (image : ImageSpec) : Sim :=
  let texture := s.boundTexture target.textureTarget
  let kept : Image :=
    { internalFormat := image.internalFormat
      size := image.size.restrict target.dimensions
      initialized := image.data.isSome
      unpackBuffer := s.bound (.buffer .pixelUnpack) }
  if texture = 0 then s.raise Enumerant.invalidOperation
  else s.alterTexture texture fun t =>
    { t with images := t.images.insert (target, image.level) kept }

def texParameter (s : Sim) (target : TextureTarget) (parameter : Enumerant) (value : Int) : Sim :=
  let texture := s.boundTexture target
  if texture = 0 then s.raise Enumerant.invalidOperation
  else s.alterTexture texture fun t => { t with parameters := t.parameters.insert parameter value }

def getTexParameter (s : Sim) (target : TextureTarget) (parameter : Enumerant) : Int :=
  (s.textureState (s.boundTexture target)).parameters.getD parameter 0

def generateMipmap (s : Sim) (target : TextureTarget) : Sim :=
  if s.boundTexture target = 0 then s.raise Enumerant.invalidOperation else s

def renderbufferStorage (s : Sim) (storage : RenderbufferStorage) : Sim :=
  let renderbuffer := s.bound .renderbuffer
  if renderbuffer = 0 then s.raise Enumerant.invalidOperation
  else { s with renderbuffers := s.renderbuffers.insert renderbuffer storage }

/-! ## Framebuffers -/

def alterFramebuffer (s : Sim) (id : Id) (f : FramebufferState → FramebufferState) : Sim :=
  { s with framebuffers := s.framebuffers.alter id {} f }

/-- Attaches an object to the bound framebuffer; the name 0 removes what is attached. -/
def attach (s : Sim) (target : FramebufferTarget) (point : Attachment) (object : Kind × Id) : Sim :=
  let framebuffer := s.bound (.framebuffer target)
  if framebuffer = 0 then s.raise Enumerant.invalidOperation
  else s.alterFramebuffer framebuffer fun f =>
    { f with attachments :=
        if object.2 = 0 then f.attachments.erase point else f.attachments.insert point object }

/-- The default framebuffer is complete; another one must have attachments, all of them live. -/
def framebufferStatus (s : Sim) (target : FramebufferTarget) : Enumerant :=
  let framebuffer := s.bound (.framebuffer target)
  let attached := (s.framebufferState framebuffer).attachments.values
  if framebuffer = 0 then Enumerant.framebufferComplete
  else if attached = [] then Enumerant.framebufferMissingAttachment
  else if attached.all s.live.contains then Enumerant.framebufferComplete
  else Enumerant.framebufferIncompleteAttachment

def drawBuffers (s : Sim) (points : List Attachment) : Sim :=
  s.alterFramebuffer (s.bound (.framebuffer .draw)) fun f => { f with drawBuffers := points }

/-- Every pixel reads back as the name of the read framebuffer. With a pixel pack buffer bound, the
pixels go there and client memory is left alone. -/
def readPixels (s : Sim) (block : PixelBlock) (out : Bytes) : Bytes × Sim :=
  let pixel := UInt8.ofNat (s.bound (.framebuffer .read))
  let pack := s.bound (.buffer .pixelPack)
  if block.width = 0 ∨ block.height = 0 then (out, s)
  else if pack = 0 then (List.replicate out.length pixel, s)
  else (out, { s with buffers := s.buffers.modify pack fun b => .fill b.size pixel })

/-! ## Vertex arrays -/

def alterVertexArray (s : Sim) (id : Id) (f : VertexArrayState → VertexArrayState) : Sim :=
  { s with vertexArrays := s.vertexArrays.alter id {} f }

def enableVertexAttribute (s : Sim) (index : Nat) (enable : Bool) : Sim :=
  let vertexArray := s.bound .vertexArray
  if vertexArray = 0 then s.raise Enumerant.invalidOperation
  else s.alterVertexArray vertexArray fun v =>
    { v with enabled :=
        let others := v.enabled.filter (· ≠ index)
        if enable then index :: others else others }

def vertexAttributePointer (s : Sim) (layout : VertexAttribute) : Sim :=
  let vertexArray := s.bound .vertexArray
  if vertexArray = 0 ∨ s.bound (.buffer .array) = 0 then s.raise Enumerant.invalidOperation
  else s.alterVertexArray vertexArray fun v =>
    { v with attributes := v.attributes.insert layout.index layout }

/-! ## Drawing -/

/-- Draws with the current program and vertex array. The program must be linked, a vertex array must
be bound, and for an indexed draw also an element buffer. -/
def draw (s : Sim) (mode : DrawMode) (first : Nat) (count : Int) (indexType : Option IndexType) :
    Sim :=
  let program := s.bound .program
  let vertexArray := s.bound .vertexArray
  let elements := s.bound .elementArray
  if ¬ (s.programState program).linked ∨ vertexArray = 0 ∨ (indexType.isSome ∧ elements = 0) then
    s.raise Enumerant.invalidOperation
  else
    { s with draws := s.draws ++ [{ mode, program, vertexArray
                                    framebuffer := s.bound (.framebuffer .draw)
                                    first, count
                                    indices := indexType.map fun t => (t, elements) }] }

def dispatch (s : Sim) (x y z : Nat) : Sim :=
  if s.bound .program = 0 then s.raise Enumerant.invalidOperation
  else { s with dispatches := s.dispatches ++ [(x, y, z)] }

end GraphicsObjects.Sim
