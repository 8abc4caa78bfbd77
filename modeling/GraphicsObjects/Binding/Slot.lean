import GraphicsObjects.Vocabulary.Target

/-! Binding slots: the places where the driver keeps its current objects. -/

namespace GraphicsObjects

/-- A place for a current object. What is bound to `activeTexture` is the index of a texture unit,
not an object. -/
inductive Slot where
  | buffer (target : BufferTarget)
  | activeTexture
  | texture (unit : Nat) (target : TextureTarget)
  | framebuffer (target : FramebufferTarget)
  | renderbuffer
  | vertexArray
  | program
  deriving DecidableEq

namespace Slot

/-- The element array slot, whose binding belongs to the bound vertex array. -/
abbrev elementArray : Slot := buffer .elementArray

/-- The kind of object that the slot holds. -/
def kind? : Slot → Option Kind
  | buffer _ => some .buffer
  | activeTexture => none
  | texture _ _ => some .texture
  | framebuffer _ => some .framebuffer
  | renderbuffer => some .renderbuffer
  | vertexArray => some .vertexArray
  | program => some .program

/-- The register that answers for the slot. -/
def primary : Slot → Slot
  | framebuffer .combined => framebuffer .draw
  | s => s

/-- The registers that a bind to the slot writes, the one that answers for it first. -/
def registers : Slot → List Slot
  | framebuffer .combined => [framebuffer .draw, framebuffer .read]
  | s => [s]

/-- A slot that is one register. -/
def IsRegister (s : Slot) : Prop := s ≠ framebuffer .combined

instance (s : Slot) : Decidable s.IsRegister := inferInstanceAs (Decidable (_ ≠ _))

theorem registers_of_isRegister {s : Slot} (h : s.IsRegister) : s.registers = [s] := by
  unfold registers
  split
  · exact absurd rfl h
  · rfl

theorem primary_mem_registers (s : Slot) : s.primary ∈ s.registers := by
  unfold primary registers
  split <;> simp

theorem isRegister_of_mem_registers {s r : Slot} (h : r ∈ s.registers) : r.IsRegister := by
  unfold registers at h
  split at h
  · simp only [List.mem_cons, List.not_mem_nil, or_false] at h
    rcases h with rfl | rfl <;> decide
  · rename_i hs
    simp only [List.mem_cons, List.not_mem_nil, or_false] at h
    subst h
    exact hs

def text : Slot → String
  | buffer t => "Buffer(" ++ name t ++ ")"
  | activeTexture => "ActiveTexture"
  | texture unit t =>
    "Texture \x7b unit: " ++ toString unit ++ ", target: " ++ name t ++ " \x7d"
  | framebuffer t => "Framebuffer(" ++ name t ++ ")"
  | renderbuffer => "Renderbuffer"
  | vertexArray => "VertexArray"
  | program => "Program"

end Slot

end GraphicsObjects
