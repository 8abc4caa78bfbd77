import GraphicsObjects.Context.Basic
import GraphicsObjects.Ownership.Store

/-! Framebuffer objects. What is attached to one is kept alive by it. -/

namespace GraphicsObjects

open Ownership

/-- A list in another order: a position says where an element goes among those after it, which are
put in order first. An element without a position stays where it is. -/
def arrange {α : Type} : List Nat → List α → List α
  | p :: ps, x :: xs => (arrange ps xs).take p ++ x :: (arrange ps xs).drop p
  | _, xs => xs

section Arrange

variable {α : Type}

@[simp] theorem arrange_nil (ps : List Nat) : arrange ps ([] : List α) = [] := by cases ps <;> rfl

theorem arrange_perm (ps : List Nat) (xs : List α) : (arrange ps xs).Perm xs := by
  induction xs generalizing ps with
  | nil => rw [arrange_nil]
  | cons x xs ih =>
    cases ps with
    | nil => exact .refl _
    | cons p ps =>
      refine List.perm_middle.trans (.cons x ?_)
      rw [List.take_append_drop]
      exact ih ps

/-- Every order is that of some positions, so nothing is taken for granted of an order that they
give. -/
theorem exists_arrange {xs ys : List α} (h : ys.Perm xs) : ∃ ps, arrange ps xs = ys := by
  induction xs generalizing ys with
  | nil => exact ⟨[], h.eq_nil.symm⟩
  | cons x xs ih =>
    obtain ⟨front, back, rfl⟩ := List.append_of_mem (h.mem_iff.mpr List.mem_cons_self)
    obtain ⟨ps, hps⟩ := ih (List.perm_middle.symm.trans h).cons_inv
    refine ⟨front.length :: ps, ?_⟩
    rw [arrange, hps, List.take_left, List.drop_left]

end Arrange

/-- What is known of a framebuffer: its target, the object attached at each point, and the order in
which it gives the attachments back in the end. They are in a hash table, whose order is not up to
the program and is another one in every table. -/
structure Framebuffer where
  target : FramebufferTarget
  attachments : Table Attachment Ref := .empty
  order : List Nat := []
  deriving DecidableEq

variable {δ α : Type} [Driver δ]

namespace Framebuffer

/-- What is attached, in the order in which it is given back. -/
def kept (f : Framebuffer) : List Ref := arrange f.order f.attachments.values

theorem kept_perm (f : Framebuffer) : f.kept.Perm f.attachments.values := arrange_perm _ _

theorem mem_kept {f : Framebuffer} {point : Attachment} {r : Ref}
    (h : f.attachments.get? point = some r) : r ∈ f.kept :=
  f.kept_perm.mem_iff.mpr (Table.mem_values_of_get? h)

theorem kept_eq_nil {f : Framebuffer} (h : f.attachments = .empty) : f.kept = [] := by
  rw [kept, h]
  exact arrange_nil f.order

open ContextM

def slot (f : Framebuffer) : Slot := .framebuffer f.target

/-- Runs `act` with the framebuffer bound. -/
def bound (f : Framebuffer) (id : Id) (act : ContextM δ α) : ContextM δ α := holding f.slot id act

/-- Refuses an operation on a framebuffer of an excluded target. -/
def require (f : Framebuffer) (excluded : FramebufferTarget) (operation : Restricted) :
    Except Failure Unit :=
  if f.target = excluded then .error (.invalidTarget (.inr f.target) operation) else .ok ()

def checkStatus (f : Framebuffer) (id : Id) : ContextM δ FramebufferStatus := do
  let code : Enumerant ←
    f.bound id (command (.checkFramebufferStatus f.target) .checkingFramebufferStatus)
  pure (FramebufferStatus.ofEnumerant code)

/-- Fails if the framebuffer is not complete. -/
def ensureComplete (f : Framebuffer) (id : Id) : ContextM δ (Except Failure Unit) := do
  let status ← f.checkStatus id
  pure (if status.isComplete then .ok () else .error (.framebufferIncomplete status))

/-- Selects the attachments that fragment shaders write to. -/
def setDrawBuffers (f : Framebuffer) (id : Id) (points : List Attachment) :
    ContextM δ (Except Failure Unit) := do
  match f.require .read .setDrawBuffers with
  | .error e => pure (.error e)
  | .ok () =>
    f.bound id (command (.drawBuffers points) .settingDrawBuffers)
    pure (.ok ())

/-- Checks that the target can be read from and that `len` bytes hold the block under the current
parameters. -/
def checkRead (f : Framebuffer) (block : PixelBlock) (len : Nat) :
    ContextM δ (Except Failure Unit) := do
  match f.require .draw .readPixels with
  | .error e => pure (.error e)
  | .ok () =>
    let store ← pixelStore .pack
    pure (checkTransfer block.format block.type block.size 2 store len)

/-- Reads a block of pixels into `out`, which is left alone on failure. With a pixel pack buffer
bound, `out` would be taken for an offset into it, so none is bound meanwhile. -/
def readPixels (f : Framebuffer) (id : Id) (block : PixelBlock) (out : Bytes) :
    ContextM δ (Except Failure Unit × Bytes) := do
  match ← f.checkRead block out.length with
  | .error e => pure (.error e, out)
  | .ok () =>
    let out : Bytes ← holding (.buffer .pixelPack) 0 <| f.bound id <|
      command (.readPixels block out) .readingPixels
    pure (.ok (), out)

def clear (f : Framebuffer) (id : Id) (mask : ClearMask) : ContextM δ (Except Failure Unit) := do
  match f.require .read .clear with
  | .error e => pure (.error e)
  | .ok () =>
    f.bound id (command (.clear mask) .clearingFramebuffer)
    pure (.ok ())

/-! ## Attachments -/

/-- What is attached of a texture: a level, one layer of it, or one face of a cube map. Of a layered
texture a level is attached as a whole. -/
inductive TexturePart where
  | level (level : Int)
  | layer (level layer : Int)
  | face (face : CubeFace) (level : Int)
  deriving DecidableEq

/-- The targets whose textures have layers that can be attached alone. -/
def hasLayers (target : TextureTarget) : Bool :=
  target ∈ [.texture3D, .texture1DArray, .texture2DArray]

/-- The request that attaches a part of a texture, if the target of the texture allows it. -/
def textureRequest (f : Framebuffer) (point : Attachment) (part : TexturePart)
    (target : TextureTarget) (id : Id) : Except Failure Request :=
  let attach (image : ImageTarget) (level : Int) (layer : Option Int) : Request :=
    .framebufferTexture f.target point image id level layer
  match part with
  | .level level => .ok (attach (.texture target) level none)
  | .layer level layer =>
    if hasLayers target then .ok (attach (.texture target) level (some layer))
    else .error (.invalidTarget (.inl target) .attachTextureLayer)
  | .face face level =>
    if target = .cubeMap then .ok (attach (.face face) level none)
    else .error (.invalidTarget (.inl target) .attachCubeFace)

/-- The request that attaches a renderbuffer. -/
def renderbufferRequest (f : Framebuffer) (point : Attachment) (id : Id) : Request :=
  .framebufferRenderbuffer f.target point id

end Framebuffer

/-- The operations on a framebuffer that concern no other object. -/
inductive FramebufferOp where
  | target
  | checkStatus
  | ensureComplete
  | setDrawBuffers (points : List Attachment)
  | readPixels (block : PixelBlock) (out : Bytes)
  | clear (mask : ClearMask)
  deriving DecidableEq

namespace FramebufferOp

abbrev Answer : FramebufferOp → Type
  | target => FramebufferTarget
  | checkStatus => FramebufferStatus
  | readPixels .. => Except Failure Unit × Bytes
  | _ => Except Failure Unit

/-- Performs an operation on the framebuffer named `id`. -/
def run : (op : FramebufferOp) → Id → Framebuffer → ContextM δ op.Answer
  | target, _, f => pure f.target
  | checkStatus, id, f => f.checkStatus id
  | ensureComplete, id, f => f.ensureComplete id
  | setDrawBuffers points, id, f => f.setDrawBuffers id points
  | readPixels block out, id, f => f.readPixels id block out
  | clear mask, id, f => f.clear id mask

end FramebufferOp

end GraphicsObjects
