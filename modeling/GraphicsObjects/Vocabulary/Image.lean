import GraphicsObjects.Vocabulary.Target

/-! Images of textures and the parameters by which they are sampled. -/

namespace GraphicsObjects

/-- The faces of a cube map. -/
inductive CubeFace where
  | positiveX | negativeX | positiveY | negativeY | positiveZ | negativeZ
  deriving DecidableEq

namespace CubeFace

instance : Named CubeFace where
  all := [.positiveX, .negativeX, .positiveY, .negativeY, .positiveZ, .negativeZ]
  name
    | positiveX => "PositiveX"
    | negativeX => "NegativeX"
    | positiveY => "PositiveY"
    | negativeY => "NegativeY"
    | positiveZ => "PositiveZ"
    | negativeZ => "NegativeZ"

def enumerant : CubeFace → Enumerant
  | positiveX => 0x8515
  | negativeX => 0x8516
  | positiveY => 0x8517
  | negativeY => 0x8518
  | positiveZ => 0x8519
  | negativeZ => 0x851A

end CubeFace

/-- What an image is specified for: a texture target, or one face of a cube map. -/
inductive ImageTarget where
  | texture (target : TextureTarget)
  | face (face : CubeFace)
  deriving DecidableEq

namespace ImageTarget

def enumerant : ImageTarget → Enumerant
  | texture t => t.enumerant
  | face f => f.enumerant

/-- How many extents an image has. -/
def dimensions : ImageTarget → Nat
  | texture t => t.imageDimensions
  | face _ => 2

/-- The target to which the texture of an image is bound. -/
def textureTarget : ImageTarget → TextureTarget
  | texture t => t
  | face _ => .cubeMap

end ImageTarget

/-- The extents of an image. -/
structure Extents where
  width : Nat
  height : Nat
  depth : Nat
  deriving DecidableEq

namespace Extents

/-- The extents that an image of `dimensions` dimensions has, the others taken as 1. -/
def restrict (size : Extents) (dimensions : Nat) : Extents where
  width := if 1 ≤ dimensions then size.width else 1
  height := if 2 ≤ dimensions then size.height else 1
  depth := if 3 ≤ dimensions then size.depth else 1

/-- `[w, h, d]` -/
def text (size : Extents) : String :=
  "[" ++ toString size.width ++ ", " ++ toString size.height ++ ", " ++ toString size.depth ++ "]"

end Extents

inductive WrapMode where
  | clampToEdge | clampToBorder | wrap | mirroredWrap
  deriving DecidableEq

namespace WrapMode

instance : Named WrapMode where
  all := [.clampToEdge, .clampToBorder, .wrap, .mirroredWrap]
  name
    | clampToEdge => "ClampToEdge"
    | clampToBorder => "ClampToBorder"
    | wrap => "Repeat"
    | mirroredWrap => "MirroredRepeat"

def enumerant : WrapMode → Enumerant
  | clampToEdge => 0x812F
  | clampToBorder => 0x812D
  | wrap => 0x2901
  | mirroredWrap => 0x8370

end WrapMode

inductive MinFilter where
  | nearest | linear | nearestMipmapNearest | linearMipmapNearest | nearestMipmapLinear
  | linearMipmapLinear
  deriving DecidableEq

namespace MinFilter

instance : Named MinFilter where
  all := [.nearest, .linear, .nearestMipmapNearest, .linearMipmapNearest, .nearestMipmapLinear,
    .linearMipmapLinear]
  name
    | nearest => "Nearest"
    | linear => "Linear"
    | nearestMipmapNearest => "NearestMipmapNearest"
    | linearMipmapNearest => "LinearMipmapNearest"
    | nearestMipmapLinear => "NearestMipmapLinear"
    | linearMipmapLinear => "LinearMipmapLinear"

def enumerant : MinFilter → Enumerant
  | nearest => 0x2600
  | linear => 0x2601
  | nearestMipmapNearest => 0x2700
  | linearMipmapNearest => 0x2701
  | nearestMipmapLinear => 0x2702
  | linearMipmapLinear => 0x2703

end MinFilter

inductive MagFilter where
  | nearest | linear
  deriving DecidableEq

namespace MagFilter

instance : Named MagFilter where
  all := [.nearest, .linear]
  name
    | nearest => "Nearest"
    | linear => "Linear"

def enumerant : MagFilter → Enumerant
  | nearest => 0x2600
  | linear => 0x2601

end MagFilter

end GraphicsObjects
