import GraphicsObjects.Vocabulary.Enumerant
import GraphicsObjects.Vocabulary.Named

/-! Contents of buffers: how they are used, how values are laid out, how vertices read them. -/

namespace GraphicsObjects

abbrev Bytes := List UInt8

/-- The expected use of a buffer's store. -/
inductive BufferUsage where
  | streamDraw | streamRead | streamCopy | staticDraw | staticRead | staticCopy | dynamicDraw
  | dynamicRead | dynamicCopy
  deriving DecidableEq

namespace BufferUsage

instance : Inhabited BufferUsage := ⟨staticDraw⟩

instance : Named BufferUsage where
  all := [.streamDraw, .streamRead, .streamCopy, .staticDraw, .staticRead, .staticCopy,
    .dynamicDraw, .dynamicRead, .dynamicCopy]
  name
    | streamDraw => "StreamDraw"
    | streamRead => "StreamRead"
    | streamCopy => "StreamCopy"
    | staticDraw => "StaticDraw"
    | staticRead => "StaticRead"
    | staticCopy => "StaticCopy"
    | dynamicDraw => "DynamicDraw"
    | dynamicRead => "DynamicRead"
    | dynamicCopy => "DynamicCopy"

def enumerant : BufferUsage → Enumerant
  | streamDraw => 0x88E0
  | streamRead => 0x88E1
  | streamCopy => 0x88E2
  | staticDraw => 0x88E4
  | staticRead => 0x88E5
  | staticCopy => 0x88E6
  | dynamicDraw => 0x88E8
  | dynamicRead => 0x88E9
  | dynamicCopy => 0x88EA

end BufferUsage

/-- The types of the elements from which buffers are filled. A floating-point element is given by
its bit pattern. -/
inductive ElementType where
  | u8 | i16 | u16 | i32 | u32 | u64 | f32
  deriving DecidableEq

namespace ElementType

instance : Named ElementType where
  all := [.u8, .i16, .u16, .i32, .u32, .u64, .f32]
  name
    | u8 => "u8"
    | i16 => "i16"
    | u16 => "u16"
    | i32 => "i32"
    | u32 => "u32"
    | u64 => "u64"
    | f32 => "f32"

/-- The size of one element in bytes. -/
def width : ElementType → Nat
  | u8 => 1
  | i16 | u16 => 2
  | i32 | u32 | f32 => 4
  | u64 => 8

end ElementType

/-- The `width` low bytes of `n`, least significant first. -/
def littleEndian : (width : Nat) → Int → Bytes
  | 0, _ => []
  | w + 1, n => UInt8.ofNat (n % 256).toNat :: littleEndian w (n / 256)

/-- A run of elements of one type. -/
structure Elements where
  type : ElementType
  values : List Int
  deriving DecidableEq

/-- The elements as they lie in memory. -/
def Elements.bytes (e : Elements) : Bytes := e.values.flatMap (littleEndian e.type.width)

/-- The layout of one vertex attribute inside a buffer. A stride of 0 means tightly packed. -/
structure VertexAttribute where
  index : Nat
  size : Int
  type : Enumerant
  normalized : Bool
  stride : Int
  offset : Nat
  deriving DecidableEq

/-- An attribute of floating-point numbers that are not normalised. -/
def VertexAttribute.float (index : Nat) (size stride : Int) (offset : Nat) : VertexAttribute :=
  { index, size, type := Enumerant.float, normalized := false, stride, offset }

end GraphicsObjects
