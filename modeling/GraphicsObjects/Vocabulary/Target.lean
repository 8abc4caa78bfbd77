import GraphicsObjects.Vocabulary.Enumerant
import GraphicsObjects.Vocabulary.Named

/-! The kinds of driver objects and the targets to which they are bound. -/

namespace GraphicsObjects

/-- The name of an object inside the driver. Zero means no object, or the default object. -/
abbrev Id := Nat

/-- The kinds of objects. Objects of one kind share a pair of entry points for creation and
deletion. -/
inductive Kind where
  | buffer | texture | framebuffer | renderbuffer | vertexArray | shader | program
  deriving DecidableEq

instance : Named Kind where
  all := [.buffer, .texture, .framebuffer, .renderbuffer, .vertexArray, .shader, .program]
  name
    | .buffer => "Buffer"
    | .texture => "Texture"
    | .framebuffer => "Framebuffer"
    | .renderbuffer => "Renderbuffer"
    | .vertexArray => "VertexArray"
    | .shader => "Shader"
    | .program => "Program"

/-- The targets of buffers. -/
inductive BufferTarget where
  | array | elementArray | uniform | shaderStorage | copyRead | copyWrite | pixelPack | pixelUnpack
  | drawIndirect | texture
  deriving DecidableEq

namespace BufferTarget

instance : Named BufferTarget where
  all := [.array, .elementArray, .uniform, .shaderStorage, .copyRead, .copyWrite, .pixelPack,
    .pixelUnpack, .drawIndirect, .texture]
  name
    | array => "Array"
    | elementArray => "ElementArray"
    | uniform => "Uniform"
    | shaderStorage => "ShaderStorage"
    | copyRead => "CopyRead"
    | copyWrite => "CopyWrite"
    | pixelPack => "PixelPack"
    | pixelUnpack => "PixelUnpack"
    | drawIndirect => "DrawIndirect"
    | texture => "Texture"

def enumerant : BufferTarget → Enumerant
  | array => 0x8892
  | elementArray => 0x8893
  | uniform => 0x8A11
  | shaderStorage => 0x90D2
  | copyRead => 0x8F36
  | copyWrite => 0x8F37
  | pixelPack => 0x88EB
  | pixelUnpack => 0x88EC
  | drawIndirect => 0x8F3F
  | texture => 0x8C2A

end BufferTarget

/-- The targets of textures. -/
inductive TextureTarget where
  | texture1D | texture2D | texture3D | cubeMap | texture1DArray | texture2DArray | rectangle
  deriving DecidableEq

namespace TextureTarget

instance : Named TextureTarget where
  all := [.texture1D, .texture2D, .texture3D, .cubeMap, .texture1DArray, .texture2DArray, .rectangle]
  name
    | texture1D => "Texture1D"
    | texture2D => "Texture2D"
    | texture3D => "Texture3D"
    | cubeMap => "CubeMap"
    | texture1DArray => "Texture1DArray"
    | texture2DArray => "Texture2DArray"
    | rectangle => "Rectangle"

def enumerant : TextureTarget → Enumerant
  | texture1D => 0x0DE0
  | texture2D => 0x0DE1
  | texture3D => 0x806F
  | cubeMap => 0x8513
  | texture1DArray => 0x8C18
  | texture2DArray => 0x8C1A
  | rectangle => 0x84F5

/-- How many extents an image of the target has. An array of one-dimensional images is specified
as one image of two dimensions. -/
def imageDimensions : TextureTarget → Nat
  | texture1D => 1
  | texture2D | cubeMap | texture1DArray | rectangle => 2
  | texture3D | texture2DArray => 3

end TextureTarget

/-- The targets of framebuffers. A bind to `combined` binds the draw and the read framebuffer. -/
inductive FramebufferTarget where
  | combined | draw | read
  deriving DecidableEq

namespace FramebufferTarget

instance : Named FramebufferTarget where
  all := [.combined, .draw, .read]
  name
    | combined => "Framebuffer"
    | draw => "Draw"
    | read => "Read"

def enumerant : FramebufferTarget → Enumerant
  | combined => 0x8D40
  | draw => 0x8CA9
  | read => 0x8CA8

end FramebufferTarget

end GraphicsObjects
