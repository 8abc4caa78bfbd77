import GraphicsObjects.Context.Basic
import GraphicsObjects.Ownership.Store

/-! Vertex array objects. The buffers that one refers to are kept alive by it. -/

namespace GraphicsObjects

open Ownership

/-- What is known of a vertex array: the buffers it refers to, each once. -/
structure VertexArray where
  buffers : List Ref := []
  deriving DecidableEq

variable {δ : Type} [Driver δ]

namespace VertexArray

open ContextM

def enableAttribute (id : Id) (index : Nat) (enable : Bool) : ContextM δ Unit :=
  holding .vertexArray id (command (.enableVertexAttribute index enable) .enablingVertexAttribute)

/-- Lets an attribute be read from a buffer. -/
def setPointer (id buffer : Id) (layout : VertexAttribute) : ContextM δ Unit :=
  holding .vertexArray id <| holding (.buffer .array) buffer <|
    command (.vertexAttributePointer layout) .settingVertexAttributePointer

/-- Sets the buffer that indexed draws take their indices from. It is part of the vertex array, so
it stays bound to it. -/
def setIndexBuffer (id buffer : Id) : ContextM δ Unit :=
  holding .vertexArray id (bind .elementArray buffer)

end VertexArray

end GraphicsObjects
