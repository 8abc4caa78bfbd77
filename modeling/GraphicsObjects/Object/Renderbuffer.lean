import GraphicsObjects.Context.Basic

/-! Renderbuffer objects, of which nothing is known but the name. -/

namespace GraphicsObjects

variable {δ : Type} [Driver δ]

namespace Renderbuffer

open ContextM

/-- Gives the renderbuffer named `id` a store. -/
def setStorage (id : Id) (internalFormat : Enumerant) (width height samples : Nat) :
    ContextM δ Unit :=
  holding .renderbuffer id <|
    command (.renderbufferStorage internalFormat width height samples) .settingRenderbufferStorage

end Renderbuffer

/-- The operation on a renderbuffer. -/
inductive RenderbufferOp where
  | setStorage (internalFormat : Enumerant) (width height samples : Nat)
  deriving DecidableEq

namespace RenderbufferOp

def run : RenderbufferOp → Id → ContextM δ Unit
  | setStorage internalFormat width height samples, id =>
    Renderbuffer.setStorage id internalFormat width height samples

end RenderbufferOp

end GraphicsObjects
