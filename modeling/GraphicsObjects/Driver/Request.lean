import GraphicsObjects.Binding.Slot
import GraphicsObjects.Context.Event
import GraphicsObjects.Vocabulary.Drawing
import GraphicsObjects.Vocabulary.Framebuffer
import GraphicsObjects.Vocabulary.Storage

/-!
The requests that a graphics driver serves, and what it is to be a driver. A request that works on
"the object bound to a target" takes for granted that the right object has been bound before.
-/

namespace GraphicsObjects

-- Libraries bring equality tests of their own; what is derived below must not depend on which.
instance decidableEqByteArray : DecidableEq ByteArray := ByteArray.decEq

/-- What a buffer's store is to hold: some bytes, or so many bytes of no particular value. -/
inductive StoreContents where
  | bytes (bs : Bytes)
  | unspecified (size : Nat)
  deriving DecidableEq

def StoreContents.size : StoreContents → Nat
  | bytes bs => bs.length
  | unspecified n => n

/-- The specification of an image: how the driver keeps it, and the client memory that it is read
from, laid out by the unpack parameters. Without client memory it is left uninitialised. Extents
that the target does not have are ignored. -/
structure ImageSpec where
  level : Int
  internalFormat : Enumerant
  size : Extents
  format : Enumerant
  type : Enumerant
  data : Option ByteArray
  deriving DecidableEq

/-- A block of pixels of the read framebuffer, and the form in which it is read. -/
structure PixelBlock where
  x : Int
  y : Int
  width : Nat
  height : Nat
  format : Enumerant
  type : Enumerant
  deriving DecidableEq

def PixelBlock.size (b : PixelBlock) : Extents := ⟨b.width, b.height, 1⟩

/-- The requests to a driver. -/
inductive Request where
  /-- Creates objects of a kind; the names take the place of what is in the slots. Shaders and
  programs have requests of their own and give 0 here. -/
  | genObjects (kind : Kind) (slots : List Id)
  | deleteObjects (kind : Kind) (ids : List Id)
  | createShader (stage : ShaderStage)
  | deleteShader (shader : Id)
  | createProgram
  | deleteProgram (program : Id)
  | bind (slot : Slot) (id : Id)
  /-- Takes the oldest pending error code, 0 if there is none. -/
  | getError
  | getInteger (parameter : Enumerant)
  | viewport (x y width height : Int)
  | clearColor (color : Vector Single 4)
  | clear (mask : ClearMask)
  | bufferData (target : BufferTarget) (contents : StoreContents) (usage : BufferUsage)
  | bufferSubData (target : BufferTarget) (offset : Nat) (data : Bytes)
  | texImage (target : ImageTarget) (image : ImageSpec)
  | texParameter (target : TextureTarget) (parameter : Enumerant) (value : Int)
  | getTexParameter (target : TextureTarget) (parameter : Enumerant)
  | generateMipmap (target : TextureTarget)
  /-- At most one sample gives single-sampled storage. -/
  | renderbufferStorage (internalFormat : Enumerant) (width height samples : Nat)
  | framebufferRenderbuffer (target : FramebufferTarget) (point : Attachment) (renderbuffer : Id)
  /-- Attaches an image of a texture; with a layer, a single layer of it. -/
  | framebufferTexture (target : FramebufferTarget) (point : Attachment) (image : ImageTarget)
      (texture : Id) (level : Int) (layer : Option Int)
  | checkFramebufferStatus (target : FramebufferTarget)
  | drawBuffers (points : List Attachment)
  /-- Reads pixels into client memory, laid out by the pack parameters. -/
  | readPixels (block : PixelBlock) (out : Bytes)
  | enableVertexAttribute (index : Nat) (enable : Bool)
  | vertexAttributePointer (layout : VertexAttribute)
  | shaderSource (shader : Id) (source : String)
  | compileShader (shader : Id)
  | shaderStatus (shader : Id)
  | shaderInfoLog (shader : Id)
  | attachShader (program shader : Id)
  | detachShader (program shader : Id)
  | linkProgram (program : Id)
  | validateProgram (program : Id)
  | programStatus (program : Id) (status : ProgramStatus)
  | programParameter (program : Id) (parameter : Enumerant)
  | programInfoLog (program : Id)
  | bindAttributeLocation (program : Id) (index : Nat) (name : String)
  /-- The location of an active attribute, -1 if there is none of the name. -/
  | attributeLocation (program : Id) (name : String)
  /-- The location of an active uniform, -1 if there is none of the name. -/
  | uniformLocation (program : Id) (name : String)
  | activeUniform (program : Id) (index : Nat)
  | activeAttribute (program : Id) (index : Nat)
  /-- Sets a uniform of the current program. -/
  | uniform (location : Int) (value : UniformValue)
  | dispatchCompute (x y z : Nat)
  | drawArrays (mode : DrawMode) (first count : Int)
  /-- Draws with indices from the bound element array buffer, from a byte offset on. -/
  | drawElements (mode : DrawMode) (count : Int) (type : IndexType) (offset : Nat)
  deriving DecidableEq

/-- The type of the answer to a request. -/
abbrev Request.Answer : Request → Type
  | genObjects .. => List Id
  | createShader .. | createProgram => Id
  | getError | checkFramebufferStatus .. => Enumerant
  | getInteger .. | getTexParameter .. | programParameter .. => Int
  | attributeLocation .. | uniformLocation .. => Int
  | readPixels .. => Bytes
  | shaderStatus .. | programStatus .. => Bool
  | shaderInfoLog .. | programInfoLog .. => String
  | activeUniform .. | activeAttribute .. => ActiveVariable
  | _ => Unit

/-- The answer to a request, the driver afterwards, and what it logged. -/
structure Reply (δ α : Type) where
  answer : α
  driver : δ
  events : List Event := []

/-- A driver serves every request in every state. -/
class Driver (δ : Type) where
  perform : (r : Request) → δ → Reply δ r.Answer

end GraphicsObjects
