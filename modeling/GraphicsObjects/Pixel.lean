import GraphicsObjects.Failure
import GraphicsObjects.Vocabulary.Image
import GraphicsObjects.Word

/-!
Pixel transfers between client memory and the driver. The pixel store parameters say how a block of
pixels lies in client memory; `PixelStore.requiredLen` is how far it reaches, and `checkTransfer`
whether a slice holds it.
-/

namespace GraphicsObjects

/-- The direction of a transfer: `pack` from the driver to client memory, `unpack` to the driver. -/
inductive PixelDirection where
  | pack
  | unpack
  deriving DecidableEq

instance : Named PixelDirection where
  all := [.pack, .unpack]
  name
    | .pack => "Pack"
    | .unpack => "Unpack"

/-! ## Pixels -/

open Enumerant in
/-- The size of a pixel of a type that holds a whole one. -/
def packedPixelSize? (type : Enumerant) : Option Nat :=
  if type ∈ [unsignedByte332, unsignedByte233Rev] then some 1
  else if type ∈ [unsignedShort565, unsignedShort565Rev, unsignedShort4444, unsignedShort4444Rev,
      unsignedShort5551, unsignedShort1555Rev] then some 2
  else if type ∈ [unsignedInt8888, unsignedInt8888Rev, unsignedInt1010102, unsignedInt2101010Rev,
      unsignedInt248, unsignedInt10f11f11fRev, unsignedInt5999Rev] then some 4
  else if type = float32UnsignedInt248Rev then some 8
  else none

open Enumerant in
/-- How many components a pixel of the format has. -/
def componentCount? (format : Enumerant) : Option Nat :=
  if format ∈ [red, green, blue, redInteger, greenInteger, blueInteger, depthComponent,
      stencilIndex] then some 1
  else if format ∈ [rg, rgInteger, depthStencil] then some 2
  else if format ∈ [rgb, bgr, rgbInteger, bgrInteger] then some 3
  else if format ∈ [rgba, bgra, rgbaInteger, bgraInteger] then some 4
  else none

open Enumerant in
/-- The size of one component. -/
def componentSize? (type : Enumerant) : Option Nat :=
  if type ∈ [unsignedByte, byte] then some 1
  else if type ∈ [unsignedShort, short, halfFloat] then some 2
  else if type ∈ [unsignedInt, int, float] then some 4
  else none

/-- The size of one pixel in bytes, where the combination is known. -/
def pixelSize? (format type : Enumerant) : Option Nat :=
  match packedPixelSize? type with
  | some n => some n
  | none => do
    let count ← componentCount? format
    let size ← componentSize? type
    pure (count * size)

/-! ## Layout in client memory -/

/-- The layout of one direction. A row length or image height of 0 stands for the extent of the
image. -/
structure PixelStore where
  alignment : Nat
  rowLength : Nat
  imageHeight : Nat
  skipPixels : Nat
  skipRows : Nat
  skipImages : Nat
  deriving DecidableEq

namespace PixelStore

/-- Rows start at multiples of four bytes, and nothing is skipped. -/
def initial : PixelStore := ⟨4, 0, 0, 0, 0, 0⟩

instance : Inhabited PixelStore := ⟨initial⟩

open Enumerant in
/-- The parameters of a direction, in the order in which they are asked for. -/
def parameters : PixelDirection → List Enumerant
  | .pack =>
    [packAlignment, packRowLength, packImageHeight, packSkipPixels, packSkipRows, packSkipImages]
  | .unpack =>
    [unpackAlignment, unpackRowLength, unpackImageHeight, unpackSkipPixels, unpackSkipRows,
      unpackSkipImages]

/-- The layout with the given parameter values; a negative value counts as 0. -/
def ofValues : List Int → PixelStore
  | [a, l, h, p, r, i] => ⟨a.toNat, l.toNat, h.toNat, p.toNat, r.toNat, i.toNat⟩
  | _ => initial

/-- Asks for the current layout of a direction. -/
def query {m : Type → Type} [Monad m] (get : Enumerant → m Int) (direction : PixelDirection) :
    m PixelStore :=
  ofValues <$> (parameters direction).mapM get

/-- How many bytes of client memory a transfer of `size` pixels reaches into, at most the largest
word. Rows are skipped only from two dimensions on and images only with three; every row but the
last is padded to the alignment. -/
def requiredLen (store : PixelStore) (pixelSize : Nat) (size : Extents) (dimensions : Nat) : Nat :=
  if size.width = 0 ∨ size.height = 0 ∨ size.depth = 0 then 0
  else
    let alignment := max store.alignment 1
    let rowPixels := if 0 < store.rowLength then store.rowLength else size.width
    let rowBytes := saturate (rowPixels * pixelSize)
    let rowStride := saturate (rowBytes + (alignment - 1)) / alignment * alignment
    let imageRows := if 0 < store.imageHeight then store.imageHeight else size.height
    let imageStride := saturate (rowStride * imageRows)
    let skipRows := if 2 ≤ dimensions then store.skipRows else 0
    let skipImages := if 3 ≤ dimensions then store.skipImages else 0
    let images := saturate ((skipImages + size.depth - 1) * imageStride)
    let rows := saturate ((skipRows + size.height - 1) * rowStride)
    let pixels := saturate ((store.skipPixels + size.width) * pixelSize)
    saturate (saturate (images + rows) + pixels)

end PixelStore

/-- Whether `len` bytes of client memory hold a transfer of `size` pixels. -/
def checkTransfer (format type : Enumerant) (size : Extents) (dimensions : Nat)
    (store : PixelStore) (len : Nat) : Except Failure Unit :=
  match pixelSize? format type with
  | none => .error (.unsupportedPixelFormat format type)
  | some pixelSize =>
    let required := store.requiredLen pixelSize size dimensions
    if len < required then .error (.bufferTooSmall required len) else .ok ()

end GraphicsObjects
