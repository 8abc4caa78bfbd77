import GraphicsObjects.Context.Basic

/-! Buffer objects. -/

namespace GraphicsObjects

/-- What is known of a buffer: the target it is bound to, and the size of its store in bytes. -/
structure Buffer where
  target : BufferTarget
  size : Nat := 0
  deriving DecidableEq

variable {δ α : Type} [Driver δ]

namespace Buffer

open ContextM

def slot (b : Buffer) : Slot := .buffer b.target

/-- Runs `act` with the buffer bound. The element array binding belongs to the bound vertex array,
so an element buffer is changed with no vertex array bound. -/
def updating (b : Buffer) (id : Id) (act : ContextM δ α) : ContextM δ α :=
  if b.target = .elementArray then holding .vertexArray 0 (holding b.slot id act)
  else holding b.slot id act

/-- Replaces the store. -/
def setStore (b : Buffer) (id : Id) (contents : StoreContents) (usage : BufferUsage) (site : Site) :
    ContextM δ Buffer := do
  b.updating id (command (.bufferData b.target contents usage) site)
  pure { b with size := contents.size }

/-- Replaces the store by a copy of `data`. -/
def setData (b : Buffer) (id : Id) (data : Bytes) (usage : BufferUsage) : ContextM δ Buffer :=
  b.setStore id (.bytes data) usage .settingBufferData

/-- Replaces the store by one of `size` bytes. -/
def allocate (b : Buffer) (id : Id) (size : Nat) (usage : BufferUsage) : ContextM δ Buffer :=
  b.setStore id (.unspecified size) usage .allocatingBuffer

/-- Replaces a part of the store, which must lie inside it. -/
def setSubData (b : Buffer) (id : Id) (offset : Nat) (data : Bytes) :
    ContextM δ (Except Failure Unit) := do
  if offset + data.length ≤ b.size then
    b.updating id (command (.bufferSubData b.target offset data) .settingBufferSubData)
    pure (.ok ())
  else pure (.error (.outOfBounds offset data.length b.size))

end Buffer

/-- The operations on a buffer. -/
inductive BufferOp where
  | setData (data : Elements) (usage : BufferUsage)
  | allocate (size : Nat) (usage : BufferUsage)
  | setSubData (offset : Nat) (data : Elements)
  | size
  | target
  deriving DecidableEq

namespace BufferOp

abbrev Answer : BufferOp → Type
  | setData .. | allocate .. => Unit
  | setSubData .. => Except Failure Unit
  | size => Nat
  | target => BufferTarget

/-- Performs an operation on the buffer named `id`. -/
def run : (op : BufferOp) → Id → Buffer → ContextM δ (op.Answer × Buffer)
  | setData data usage, id, b => do pure ((), ← b.setData id data.bytes usage)
  | allocate n usage, id, b => do pure ((), ← b.allocate id n usage)
  | setSubData offset data, id, b => do pure (← b.setSubData id offset data.bytes, b)
  | size, _, b => pure (b.size, b)
  | target, _, b => pure (b.target, b)

end BufferOp

end GraphicsObjects
