import GraphicsObjects.Vocabulary.Enumerant
import GraphicsObjects.Vocabulary.Named

/-! What draw calls and clears are told. -/

namespace GraphicsObjects

inductive DrawMode where
  | points | lines | lineStrip | lineLoop | triangles | triangleStrip | triangleFan | patches
  deriving DecidableEq

namespace DrawMode

instance : Named DrawMode where
  all := [.points, .lines, .lineStrip, .lineLoop, .triangles, .triangleStrip, .triangleFan, .patches]
  name
    | points => "Points"
    | lines => "Lines"
    | lineStrip => "LineStrip"
    | lineLoop => "LineLoop"
    | triangles => "Triangles"
    | triangleStrip => "TriangleStrip"
    | triangleFan => "TriangleFan"
    | patches => "Patches"

def enumerant : DrawMode → Enumerant
  | points => 0
  | lines => 1
  | lineLoop => 2
  | lineStrip => 3
  | triangles => 4
  | triangleStrip => 5
  | triangleFan => 6
  | patches => 14

end DrawMode

/-- The types of indices in an element array buffer. -/
inductive IndexType where
  | u8 | u16 | u32
  deriving DecidableEq

namespace IndexType

instance : Named IndexType where
  all := [.u8, .u16, .u32]
  name
    | u8 => "U8"
    | u16 => "U16"
    | u32 => "U32"

/-- The size of one index in bytes. -/
def size : IndexType → Nat
  | u8 => 1
  | u16 => 2
  | u32 => 4

def enumerant : IndexType → Enumerant
  | u8 => Enumerant.unsignedByte
  | u16 => Enumerant.unsignedShort
  | u32 => Enumerant.unsignedInt

end IndexType

/-- The buffers that a clear affects. -/
structure ClearMask where
  color : Bool
  depth : Bool
  stencil : Bool
  deriving DecidableEq, Inhabited

namespace ClearMask

def colorBit : Nat := 0x4000
def depthBit : Nat := 0x100
def stencilBit : Nat := 0x400

def all : ClearMask := ⟨true, true, true⟩
def none : ClearMask := ⟨false, false, false⟩

def bits (m : ClearMask) : Nat :=
  (if m.color then colorBit else 0) + (if m.depth then depthBit else 0) +
    (if m.stencil then stencilBit else 0)

/-- The known bits of `n`. -/
def truncate (n : Nat) : ClearMask :=
  ⟨n &&& colorBit ≠ 0, n &&& depthBit ≠ 0, n &&& stencilBit ≠ 0⟩

/-- The mask with the bits `n`, if they are all known. -/
def ofBits? (n : Nat) : Option ClearMask :=
  if (truncate n).bits = n then some (truncate n) else .none

/-- The names of the flags that are set, or `(empty)`. -/
def text (m : ClearMask) : String :=
  let flags := (if m.color then ["COLOR"] else []) ++ (if m.depth then ["DEPTH"] else []) ++
    (if m.stencil then ["STENCIL"] else [])
  if flags = [] then "(empty)" else " | ".intercalate flags

end ClearMask

end GraphicsObjects
