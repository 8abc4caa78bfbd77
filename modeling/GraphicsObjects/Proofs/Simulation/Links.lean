import GraphicsObjects.Proofs.Binding.Elements
import GraphicsObjects.Proofs.Context.Lifetime
import GraphicsObjects.Proofs.Simulation.Agreement

/-!
# Links between objects of the driver

What the objects of the driver refer to: a framebuffer to what is attached to it, a program to its
shaders, a vertex array to its element buffer. Few requests change that.
-/

namespace GraphicsObjects

open Simulation

/-! ## Links -/

/-- What an object of the driver refers to, and whether it is linked. -/
inductive Links where
  | attachments (object? : Attachment → Option (Kind × Id))
  | shaders (attached : List Id) (linked : Bool)
  | elements (buffer : Id)
  | none

/-- The links of an object that nothing has been done with. -/
def Links.initial : Kind → Links
  | .framebuffer => attachments fun _ => Option.none
  | .program => shaders [] false
  | .vertexArray => elements 0
  | .buffer | .texture | .renderbuffer | .shader => none

namespace ObjectState

def links : ObjectState → Links
  | framebuffer f => .attachments f.attachments.get?
  | program p => .shaders (p.getD default).attached (p.getD default).linked
  | vertexArray v => .elements v.elementBuffer
  | _ => .none

/-- There is a shader or a program. -/
def Present : ObjectState → Prop
  | shader sh => sh.isSome
  | program p => p.isSome
  | _ => True

end ObjectState

namespace Request

/-- The request neither creates nor deletes objects, nor ties them together. Binds of an element
buffer, which tie it to the vertex array, are ruled out if `tied` holds. -/
def KeepsLinks (tied : Prop) : Request → Prop
  | genObjects .. | createShader _ | createProgram => False
  | deleteObjects .. | deleteShader _ | deleteProgram _ => False
  | framebufferRenderbuffer .. | framebufferTexture .. => False
  | attachShader .. | detachShader .. | linkProgram _ => False
  | bind slot _ => tied → slot ≠ .elementArray
  | _ => True

variable {tied : Prop} {q : Request}

theorem KeepsLinks.content_or_bind (h : q.KeepsLinks tied) :
    q.IsContent ∨ ∃ slot id, q = .bind slot id ∧ (tied → slot ≠ .elementArray) := by
  cases q with
  | bind slot id => exact .inr ⟨slot, id, rfl, h⟩
  | genObjects | createShader | createProgram | deleteObjects | deleteShader
  | deleteProgram => exact h.elim
  | _ => exact .inl trivial

end Request

namespace Sim

/-- What an object of the driver refers to. The default vertex array counts as without an element
buffer. -/
def links (s : Sim) (k : Kind) (id : Id) : Links := (s.stateOf k id).links

/-- The driver after a request. -/
def serve (s : Sim) (q : Request) : Sim := (execute q (s.receive q)).2

variable {s s' : Sim} {k : Kind} {id i : Id} {q : Request} {tied : Prop}

theorem links_congr (h : s'.stateOf k i = s.stateOf k i) : s'.links k i = s.links k i :=
  congrArg ObjectState.links h

theorem links_vertexArray (hz : id ≠ 0) :
    s.links .vertexArray id = .elements (s.elementBuffer id) := by
  simp only [links, stateOf, VertexArrayState.named, if_neg hz]
  rfl

theorem links_program {p : ProgramState} (h : s.programs.get? id = some p) :
    s.links .program id = .shaders p.attached p.linked := by
  simp [links, stateOf, ObjectState.links, h]

theorem links_alterFramebuffer (s : Sim) (id : Id) {f : FramebufferState → FramebufferState}
    (hf : ∀ b, (f b).attachments = b.attachments) (k : Kind) (i : Id) :
    (s.alterFramebuffer id f).links k i = s.links k i := by
  by_cases h : some (Kind.framebuffer, id) = some (k, i)
  · cases h
    simp only [links, stateOf, framebufferState, alterFramebuffer, Table.alter, Table.getD_insert,
      ObjectState.links, if_pos, hf]
    rfl
  · exact links_congr ((edits_alterFramebuffer s id f).others k i h)

theorem links_alterVertexArray (s : Sim) (id : Id) {f : VertexArrayState → VertexArrayState}
    (hf : ∀ v, (f v).elementBuffer = v.elementBuffer) (k : Kind) (i : Id) :
    (s.alterVertexArray id f).links k i = s.links k i := by
  by_cases h : some (Kind.vertexArray, id) = some (k, i)
  · cases h
    simp only [links, stateOf, vertexArrayState_alterVertexArray, if_pos, ObjectState.links,
      VertexArrayState.named]
    split
    · rfl
    · exact congrArg Links.elements (hf _)
  · exact links_congr ((edits_alterVertexArray s id f).others k i h)

theorem links_setProgram (s : Sim) (id : Id) {p : ProgramState}
    (ha : p.attached = (s.programState id).attached) (hl : p.linked = (s.programState id).linked)
    (k : Kind) (i : Id) : (s.setProgram id p).links k i = s.links k i := by
  by_cases h : some (Kind.program, id) = some (k, i)
  · cases h
    simp only [links, stateOf, setProgram, Table.get?_insert_self, ObjectState.links,
      Option.getD_some, ha, hl]
    rfl
  · exact links_congr ((edits_setProgram s id p).others k i h)

theorem links_raise (s : Sim) (code : Enumerant) (k : Kind) (i : Id) :
    (s.raise code).links k i = s.links k i :=
  links_congr ((edits_raise none s code).others k i nofun)

/-- A request about contents that ties no objects together. -/
theorem links_execute (s : Sim) (tied : Prop) (hc : q.IsContent) (hq : q.KeepsLinks tied) (k : Kind)
    (i : Id) :
    (execute q s).2.links k i = s.links k i := by
  by_cases ha : s.aim q = some (k, i)
  · cases q with
    | framebufferRenderbuffer | framebufferTexture | attachShader | detachShader
    | linkProgram => exact hq.elim
    | drawBuffers =>
        refine links_alterFramebuffer s _ ?_ k i
        exact fun _ => rfl
    | enableVertexAttribute =>
        simp only [execute, enableVertexAttribute]
        split
        · exact links_raise ..
        · refine links_alterVertexArray s _ ?_ k i
          exact fun _ => rfl
    | vertexAttributePointer =>
        simp only [execute, vertexAttributePointer]
        split
        · exact links_raise ..
        · refine links_alterVertexArray s _ ?_ k i
          exact fun _ => rfl
    | bindAttributeLocation id =>
        simp only [execute, bindAttributeLocation]
        cases hp : s.programs.get? id with
        | none => exact links_raise ..
        | some p =>
            have hstate : s.programState id = p := by
              rw [programState, Table.getD, hp]
              rfl
            refine links_setProgram s id ?_ ?_ k i
            · rw [hstate]
            · rw [hstate]
    | uniform =>
        simp only [execute, setUniform]
        split
        · exact links_raise ..
        · split
          · rfl
          · refine links_setProgram s _ ?_ ?_ k i
            · rfl
            · rfl
    | readPixels =>
        simp only [aim] at ha
        split at ha
        · cases ha
        · cases ha
          rfl
    | bind => exact hc.elim
    | _ =>
        cases ha <;> rfl
  · exact links_congr ((edits_execute s hc).others k i ha)

/-! ## Binds -/

/-- A bind is accepted where the driver binds it, or refused. -/
theorem bind_cases (s : Sim) (slot : Slot) (id : Id) :
    s.bind slot id = s.raise Enumerant.invalidOperation ∨
      (s.located slot).Admits s.live id ∧ s.bind slot id = s.place (s.located slot) id := by
  by_cases ha : s.accepts (s.located slot) id
  · refine .inr ⟨accepts_iff.mp ha, ?_⟩
    simp only [bind, if_pos ha]
    rfl
  · exact .inl (if_neg ha)

theorem eq_of_located_elementArray {slot : Slot} (h : s.located slot = .elementArray) :
    slot = .elementArray := by
  cases slot with
  | texture => cases h
  | _ => exact h

/-- A bind ties nothing together but an element buffer to the vertex array. -/
theorem links_bind (s : Sim) {slot : Slot} (id : Id) (hs : tied → slot ≠ .elementArray)
    (hk : k = .vertexArray → tied) (i : Id) : (s.bind slot id).links k i = s.links k i := by
  rcases s.bind_cases slot id with h | ⟨-, h⟩
  · rw [h]
    exact links_raise ..
  · rw [h]
    refine links_congr (stateOf_place _ _ _ fun ha => ?_)
    unfold aim at ha
    split at ha
    case h_1 he =>
      split at ha
      · cases ha
      · cases ha
        injection he with he _
        exact hs (hk rfl) (eq_of_located_elementArray he)
    all_goals simp_all

/-- What a request keeps that neither creates nor deletes objects nor ties them together. -/
theorem links_serve (s : Sim) (hq : q.KeepsLinks tied) (hk : k = .vertexArray → tied) (i : Id) :
    (s.serve q).links k i = s.links k i := by
  refine Eq.trans ?_ (links_congr (stateOf_receive s q k i))
  rcases hq.content_or_bind with hc | ⟨slot, id, rfl, hs⟩
  · exact links_execute _ tied hc hq k i
  · exact links_bind _ id hs hk i

end Sim

end GraphicsObjects
