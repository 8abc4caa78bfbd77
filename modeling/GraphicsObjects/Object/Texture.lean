import GraphicsObjects.Context.Basic

/-! Texture objects. -/

namespace GraphicsObjects

/-- What is known of a texture: its target, and the unit on which every operation binds it. -/
structure Texture where
  target : TextureTarget
  unit : Nat := 0
  deriving DecidableEq

variable {δ : Type} [Driver δ]

namespace Texture

open ContextM

def slot (t : Texture) : Slot := .texture t.unit t.target

/-- Moves the texture to another unit and binds it there. -/
def setToUnit (t : Texture) (id : Id) (unit : Nat) :
    ContextM δ (Except Failure Unit × Texture) := do
  let max ← maxTextureUnits
  if max ≤ unit then pure (.error (.invalidTextureUnit unit max), t)
  else
    let t := { t with unit }
    bind t.slot id
    pure (.ok (), t)

/-! ## Images -/

/-- Checks that client memory, if there is any, holds an image under the current parameters. -/
def checkImage (target : ImageTarget) (image : ImageSpec) : ContextM δ (Except Failure Unit) := do
  match image.data with
  | none => pure (.ok ())
  | some data =>
    let store ← pixelStore .unpack
    pure (checkTransfer image.format image.type image.size target.dimensions store data.size)

/-- Specifies an image. With a pixel unpack buffer bound, client memory would be taken for an offset
into it, so none is bound meanwhile. -/
def upload (t : Texture) (id : Id) (target : ImageTarget) (image : ImageSpec) :
    ContextM δ (Except Failure Unit) := do
  match ← checkImage target image with
  | .error e => pure (.error e)
  | .ok () =>
    holding (.buffer .pixelUnpack) 0 <| holding t.slot id <|
      command (.texImage target image) .settingTextureImage
    pure (.ok ())

/-- How an image is specified: as an image of so many dimensions, or as a face of a cube map. -/
inductive ImageForm where
  | image1D
  | image2D
  | image3D
  | face (face : CubeFace)
  deriving DecidableEq

namespace ImageForm

def operation : ImageForm → Restricted
  | image1D => .setImage1D
  | image2D => .setImage2D
  | image3D => .setImage3D
  | face _ => .setCubeFaceImage

def dimensions : ImageForm → Nat
  | image1D => 1
  | image2D | face _ => 2
  | image3D => 3

/-- What the image is specified for, on a texture of a given target that takes such images. Cube
maps take faces, and other targets images of their own dimensions. -/
def target? (f : ImageForm) (target : TextureTarget) : Option ImageTarget :=
  match f with
  | face c => if target = .cubeMap then some (.face c) else none
  | f =>
    if target.imageDimensions = f.dimensions ∧ target ≠ .cubeMap then some (.texture target)
    else none

end ImageForm

/-- Specifies an image of a mip level. Only as many extents as the form has are used. -/
def setImage (t : Texture) (id : Id) (form : ImageForm) (image : ImageSpec) :
    ContextM δ (Except Failure Unit) :=
  match form.target? t.target with
  | none => pure (.error (.invalidTarget (.inl t.target) form.operation))
  | some target => t.upload id target { image with size := image.size.restrict form.dimensions }

/-- Generates the mip levels from the base level. -/
def generateMipmap (t : Texture) (id : Id) : ContextM δ Unit :=
  holding t.slot id (command (.generateMipmap t.target) .generatingMipmaps)

/-! ## Parameters -/

def setParameter (t : Texture) (id : Id) (parameter : Enumerant) (value : Int) : ContextM δ Unit :=
  holding t.slot id (command (.texParameter t.target parameter value) .settingTextureParameter)

def parameter (t : Texture) (id : Id) (parameter : Enumerant) : ContextM δ Int :=
  holding t.slot id (command (.getTexParameter t.target parameter) .gettingTextureParameter)

/-- The axes that a texture has: three for a cube map, otherwise those of its images. -/
def axes : TextureTarget → Nat
  | .cubeMap => 3
  | target => target.imageDimensions

/-- The parameters that say how each axis of a texture wraps. -/
def wrapParameters (target : TextureTarget) : List Enumerant :=
  [Enumerant.textureWrapS, Enumerant.textureWrapT, Enumerant.textureWrapR].take (axes target)

/-- Sets how the texture wraps, on every axis it has. -/
def setWrap (t : Texture) (id : Id) (mode : WrapMode) : ContextM δ Unit :=
  (wrapParameters t.target).forM fun parameter => t.setParameter id parameter mode.enumerant

def setFilter (t : Texture) (id : Id) (min : MinFilter) (mag : MagFilter) : ContextM δ Unit := do
  t.setParameter id Enumerant.textureMinFilter min.enumerant
  t.setParameter id Enumerant.textureMagFilter mag.enumerant

end Texture

/-- The operations on a texture. -/
inductive TextureOp where
  | target
  | unit
  | setToUnit (unit : Nat)
  | setImage (form : Texture.ImageForm) (image : ImageSpec)
  | generateMipmap
  | setParameter (parameter : Enumerant) (value : Int)
  | parameter (parameter : Enumerant)
  | setWrap (mode : WrapMode)
  | setFilter (min : MinFilter) (mag : MagFilter)
  deriving DecidableEq

namespace TextureOp

abbrev Answer : TextureOp → Type
  | target => TextureTarget
  | unit => Nat
  | setToUnit .. | setImage .. => Except Failure Unit
  | parameter .. => Int
  | _ => Unit

/-- Performs an operation on the texture named `id`. -/
def run : (op : TextureOp) → Id → Texture → ContextM δ (op.Answer × Texture)
  | target, _, t => pure (t.target, t)
  | unit, _, t => pure (t.unit, t)
  | setToUnit n, id, t => t.setToUnit id n
  | setImage form image, id, t => do pure (← t.setImage id form image, t)
  | generateMipmap, id, t => do pure (← t.generateMipmap id, t)
  | setParameter p value, id, t => do pure (← t.setParameter id p value, t)
  | parameter p, id, t => do pure (← t.parameter id p, t)
  | setWrap mode, id, t => do pure (← t.setWrap id mode, t)
  | setFilter min mag, id, t => do pure (← t.setFilter id min mag, t)

end TextureOp

end GraphicsObjects
