import GraphicsObjects.Proofs.Simulation.Registers

/-!
# Contents of objects

A request about contents changes those of at most one object, the one that it is aimed at, and
neither names nor registers. A bind changes the contents of none but the bound vertex array, which
records its element buffer.
-/

namespace GraphicsObjects

open Simulation

/-- Requests that neither create, delete nor bind objects. -/
def Request.IsContent : Request → Prop
  | .genObjects .. | .deleteObjects .. | .createShader .. | .deleteShader .. | .createProgram
  | .deleteProgram .. | .bind .. => False
  | _ => True

/-- What a driver keeps of one object. -/
inductive ObjectState where
  | buffer (store : Option DataStore)
  | texture (state : TextureState)
  | framebuffer (state : FramebufferState)
  | renderbuffer (storage : Option RenderbufferStorage)
  | vertexArray (state : VertexArrayState)
  | shader (state : Option ShaderState)
  | program (state : Option ProgramState)
  deriving DecidableEq

/-- The default vertex array has no element buffer of its own. -/
def Simulation.VertexArrayState.named (v : VertexArrayState) (id : Id) : VertexArrayState :=
  if id = 0 then { v with elementBuffer := 0 } else v

namespace Sim

/-- What the driver keeps of an object. -/
def stateOf (s : Sim) : Kind → Id → ObjectState
  | .buffer, id => .buffer (s.buffers.get? id)
  | .texture, id => .texture (s.textureState id)
  | .framebuffer, id => .framebuffer (s.framebufferState id)
  | .renderbuffer, id => .renderbuffer (s.renderbuffers.get? id)
  | .vertexArray, id => .vertexArray ((s.vertexArrayState id).named id)
  | .shader, id => .shader (s.shaders.get? id)
  | .program, id => .program (s.programs.get? id)

/-- Which objects live under which names, what is bound, and what was asked. -/
def registry (s : Sim) : List (Kind × Id) × Table Kind NamePool × Table Slot Id × List Call :=
  (s.live, s.pools, s.registers, s.calls)

/-! ## Edits -/

/-- Only the contents of one object differ, if of any. -/
structure Edits (edited : Option (Kind × Id)) (s s' : Sim) : Prop where
  registry : s'.registry = s.registry
  others : ∀ k id, edited ≠ some (k, id) → s'.stateOf k id = s.stateOf k id

variable {s : Sim} {o : Option (Kind × Id)} {id : Id}

theorem Edits.refl (o : Option (Kind × Id)) (s : Sim) : s.Edits o s := ⟨rfl, fun _ _ _ => rfl⟩

theorem edits_raise (o : Option (Kind × Id)) (s : Sim) (code : Enumerant) :
    s.Edits o (s.raise code) :=
  ⟨rfl, fun k _ _ => by cases k <;> rfl⟩

theorem edits_buffers (s : Sim) (id : Id) (store : DataStore) :
    s.Edits (some (.buffer, id)) { s with buffers := s.buffers.insert id store } := by
  refine ⟨rfl, fun k i h => ?_⟩
  cases k with
  | buffer =>
      have hi : i ≠ id := fun e => h (e ▸ rfl)
      simp only [stateOf, Table.get?_insert, if_neg hi]
  | _ => rfl

theorem edits_buffers_modify (s : Sim) (id : Id) (f : DataStore → DataStore) :
    s.Edits (some (.buffer, id)) { s with buffers := s.buffers.modify id f } := by
  refine ⟨rfl, fun k i h => ?_⟩
  cases k with
  | buffer =>
      have hi : i ≠ id := fun e => h (e ▸ rfl)
      simp only [stateOf, Table.get?_modify, if_neg hi]
  | _ => rfl

theorem edits_alterTexture (s : Sim) (id : Id) (f : TextureState → TextureState) :
    s.Edits (some (.texture, id)) (s.alterTexture id f) := by
  refine ⟨rfl, fun k i h => ?_⟩
  cases k with
  | texture =>
      have hi : i ≠ id := fun e => h (e ▸ rfl)
      simp only [stateOf, textureState, alterTexture, Table.alter, Table.getD_insert, if_neg hi]
  | _ => rfl

theorem edits_alterFramebuffer (s : Sim) (id : Id) (f : FramebufferState → FramebufferState) :
    s.Edits (some (.framebuffer, id)) (s.alterFramebuffer id f) := by
  refine ⟨rfl, fun k i h => ?_⟩
  cases k with
  | framebuffer =>
      have hi : i ≠ id := fun e => h (e ▸ rfl)
      simp only [stateOf, framebufferState, alterFramebuffer, Table.alter, Table.getD_insert,
        if_neg hi]
  | _ => rfl

theorem edits_renderbuffers (s : Sim) (id : Id) (storage : RenderbufferStorage) :
    s.Edits (some (.renderbuffer, id))
      { s with renderbuffers := s.renderbuffers.insert id storage } := by
  refine ⟨rfl, fun k i h => ?_⟩
  cases k with
  | renderbuffer =>
      have hi : i ≠ id := fun e => h (e ▸ rfl)
      simp only [stateOf, Table.get?_insert, if_neg hi]
  | _ => rfl

theorem edits_alterVertexArray (s : Sim) (id : Id) (f : VertexArrayState → VertexArrayState) :
    s.Edits (some (.vertexArray, id)) (s.alterVertexArray id f) := by
  refine ⟨rfl, fun k i h => ?_⟩
  cases k with
  | vertexArray =>
      have hi : i ≠ id := fun e => h (e ▸ rfl)
      simp only [stateOf, vertexArrayState, alterVertexArray, Table.alter, Table.getD_insert,
        if_neg hi]
  | _ => rfl

theorem edits_alterShader (s : Sim) (id : Id) (f : ShaderState → ShaderState) :
    s.Edits (some (.shader, id)) (s.alterShader id f) := by
  unfold alterShader
  split
  · refine ⟨rfl, fun k i h => ?_⟩
    cases k with
    | shader =>
        have hi : i ≠ id := fun e => h (e ▸ rfl)
        simp only [stateOf, Table.get?_insert, if_neg hi]
    | _ => rfl
  · exact edits_raise ..

theorem edits_setProgram (s : Sim) (id : Id) (p : ProgramState) :
    s.Edits (some (.program, id)) (s.setProgram id p) := by
  refine ⟨rfl, fun k i h => ?_⟩
  cases k with
  | program =>
      have hi : i ≠ id := fun e => h (e ▸ rfl)
      simp only [stateOf, setProgram, Table.get?_insert, if_neg hi]
  | _ => rfl

theorem edits_answerOr {α : Type} (s : Sim) (v? : Option α) (code : Enumerant) (d : α) :
    s.Edits o (s.answerOr v? code d).2 := by
  cases v? with
  | none => exact edits_raise ..
  | some _ => exact .refl o s

/-! ## Requests -/

/-- The object whose contents a request changes, if any. -/
def aim (s : Sim) : Request → Option (Kind × Id)
  | .bind (.buffer .elementArray) _ =>
    if s.bound .vertexArray = 0 then none else some (.vertexArray, s.bound .vertexArray)
  | .bufferData target .. | .bufferSubData target .. => some (.buffer, s.bound (.buffer target))
  | .texImage target _ => some (.texture, s.boundTexture target.textureTarget)
  | .texParameter target .. => some (.texture, s.boundTexture target)
  | .renderbufferStorage .. => some (.renderbuffer, s.bound .renderbuffer)
  | .framebufferRenderbuffer target .. | .framebufferTexture target .. =>
    some (.framebuffer, s.bound (.framebuffer target))
  | .drawBuffers _ => some (.framebuffer, s.bound (.framebuffer .draw))
  | .readPixels .. => if s.bound (.buffer .pixelPack) = 0 then none
    else some (.buffer, s.bound (.buffer .pixelPack))
  | .enableVertexAttribute .. | .vertexAttributePointer _ =>
    some (.vertexArray, s.bound .vertexArray)
  | .shaderSource id _ | .compileShader id => some (.shader, id)
  | .attachShader id _ | .detachShader id _ | .linkProgram id | .bindAttributeLocation id .. =>
    some (.program, id)
  | .uniform .. => some (.program, s.bound .program)
  | _ => none

/-- A request about contents changes nothing but the contents of its object. -/
theorem edits_execute (s : Sim) {q : Request} (h : q.IsContent) :
    s.Edits (s.aim q) (execute q s).2 := by
  cases q with
  | genObjects | deleteObjects | createShader | deleteShader | createProgram | deleteProgram
  | bind => exact h.elim
  | getError =>
      simp only [execute, takeError]
      split
      · exact .refl _ s
      · exact ⟨rfl, fun k _ _ => by cases k <;> rfl⟩
  | bufferData =>
      simp only [execute, bufferData]
      split
      · exact edits_raise ..
      · exact edits_buffers ..
  | bufferSubData =>
      simp only [execute, bufferSubData]
      split
      · exact edits_raise ..
      · split
        · exact edits_buffers ..
        · exact edits_raise ..
  | texImage =>
      simp only [execute, texImage]
      split
      · exact edits_raise ..
      · exact edits_alterTexture ..
  | texParameter =>
      simp only [execute, texParameter]
      split
      · exact edits_raise ..
      · exact edits_alterTexture ..
  | generateMipmap =>
      simp only [execute, generateMipmap]
      split
      · exact edits_raise ..
      · exact .refl _ s
  | renderbufferStorage =>
      simp only [execute, renderbufferStorage]
      split
      · exact edits_raise ..
      · exact edits_renderbuffers ..
  | framebufferRenderbuffer | framebufferTexture =>
      simp only [execute, attach]
      split
      · exact edits_raise ..
      · exact edits_alterFramebuffer ..
  | drawBuffers => exact edits_alterFramebuffer ..
  | readPixels =>
      simp only [execute, readPixels]
      split
      · exact .refl _ s
      · split
        · exact .refl _ s
        · rename_i hp
          rw [aim, if_neg hp]
          exact edits_buffers_modify ..
  | enableVertexAttribute =>
      simp only [execute, enableVertexAttribute]
      split
      · exact edits_raise ..
      · exact edits_alterVertexArray ..
  | vertexAttributePointer =>
      simp only [execute, vertexAttributePointer]
      split
      · exact edits_raise ..
      · exact edits_alterVertexArray ..
  | shaderSource => exact edits_alterShader ..
  | compileShader => exact edits_alterShader ..
  | attachShader =>
      simp only [execute, attachShader]
      split
      · exact edits_raise ..
      · split
        · exact edits_raise ..
        · split
          · exact edits_raise ..
          · exact edits_setProgram ..
  | detachShader =>
      simp only [execute, detachShader]
      split
      · exact edits_raise ..
      · split
        · exact edits_setProgram ..
        · exact edits_raise ..
  | linkProgram =>
      simp only [execute, link]
      split
      · exact edits_raise ..
      · exact edits_setProgram ..
  | bindAttributeLocation =>
      simp only [execute, bindAttributeLocation]
      split
      · exact edits_raise ..
      · exact edits_setProgram ..
  | programParameter | activeUniform | activeAttribute => exact edits_answerOr ..
  | uniform =>
      simp only [execute, setUniform]
      split
      · exact edits_raise ..
      · split
        · exact .refl _ s
        · exact edits_setProgram ..
  | dispatchCompute =>
      simp only [execute, dispatch]
      split
      · exact edits_raise ..
      · exact ⟨rfl, fun k _ _ => by cases k <;> rfl⟩
  | drawArrays | drawElements =>
      simp only [execute, draw]
      split
      · exact edits_raise ..
      · exact ⟨rfl, fun k _ _ => by cases k <;> rfl⟩
  | viewport | clearColor | clear => exact ⟨rfl, fun k _ _ => by cases k <;> rfl⟩
  | _ => exact .refl _ s

/-- Recording a request is no edit of contents. -/
theorem stateOf_receive (s : Sim) (q : Request) (k : Kind) (id : Id) :
    (s.receive q).stateOf k id = s.stateOf k id := by
  unfold receive
  split
  · cases k <;> rfl
  · split
    · cases k <;> rfl
    · rfl

/-! ## Binding -/

theorem stateOf_place (s : Sim) (slot : Slot) (bound : Id) {k : Kind} {id : Id}
    (h : s.aim (.bind slot bound) ≠ some (k, id)) :
    (s.place slot bound).stateOf k id = s.stateOf k id := by
  unfold place
  split
  · cases k <;> rfl
  · cases k with
    | vertexArray =>
        have hb : (s.write (Slot.registers .elementArray) bound).bound .vertexArray =
            s.bound .vertexArray := by
          rw [bound_write _ _ _ (by decide)]
          exact if_neg (by decide)
        rw [hb]
        simp only [stateOf, vertexArrayState, setElementBuffer, write, Table.alter,
          Table.getD_insert]
        split
        · rename_i hi
          have hz : id = 0 := by
            simpa [aim, ← hi] using h
          subst hz
          rw [← hi]
          rfl
        · rfl
    | _ => rfl
  · cases k <;> rfl

theorem stateOf_bind (s : Sim) (slot : Slot) (bound : Id) {k : Kind} {id : Id}
    (ha : slot.Admits s.live bound) (hl : s.located slot = slot)
    (h : s.aim (.bind slot bound) ≠ some (k, id)) :
    (s.bind slot bound).stateOf k id = s.stateOf k id := by
  rw [bind_of_admits ha hl]
  exact stateOf_place s slot bound h

end Sim

end GraphicsObjects
