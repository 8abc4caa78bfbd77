import GraphicsObjects.Proofs.Context.Work

/-!
# Drivers that agree

Two drivers agree if they answer every question alike and the second was asked the same as the
first, with some more binds in between. Every request keeps this, and so does a bind of what is
bound already that only the second receives.
-/

namespace GraphicsObjects

open Simulation

def Simulation.Call.isBind : Call → Bool
  | .bind .. => true
  | _ => false

def Simulation.Call.deletion? : Call → Option (Kind × Id)
  | .delete kind id => some (kind, id)
  | _ => none

namespace Sim

/-- The state of the driver but for registers, vertex arrays and calls. -/
def core (s : Sim) : Sim := { s with registers := .empty, vertexArrays := .empty, calls := [] }

/-- Registers and vertex arrays read the same, all other state is the same, and the calls differ by
binds that only the second driver received. -/
structure Agrees (s s' : Sim) : Prop where
  core : s'.core = s.core
  bound : ∀ slot, s'.bound slot = s.bound slot
  vertexArrayState : ∀ id, s'.vertexArrayState id = s.vertexArrayState id
  calls : s.calls.Sublist s'.calls
  commands : s'.calls.filter (! ·.isBind) = s.calls.filter (! ·.isBind)

/-- Two replies to a request that is not a bind: the same answer, and drivers that agree, in which
vertex arrays have the element buffers of `s`. -/
structure Alike {α : Type} (s : Sim) (x x' : α × Sim) : Prop where
  answer : x'.1 = x.1
  agrees : x.2.Agrees x'.2
  elementBuffer : ∀ id, x.2.elementBuffer id = s.elementBuffer id

/-- What is bound for indexed draws is what the bound vertex array has recorded. -/
def Tied (s : Sim) : Prop := s.bound .elementArray = s.elementBuffer (s.bound .vertexArray)

variable {s s' : Sim} {slot r : Slot} {k : Kind} {id : Id} {q : Request}

theorem core_eq (h : s'.core = s.core) : s' = { s with
    registers := s'.registers, vertexArrays := s'.vertexArrays, calls := s'.calls } :=
  congrArg (fun d => { d with
    registers := s'.registers, vertexArrays := s'.vertexArrays, calls := s'.calls }) h

theorem Agrees.refl (s : Sim) : s.Agrees s := ⟨rfl, fun _ => rfl, fun _ => rfl, .refl _, rfl⟩

/-! ## Requests about contents -/

theorem vertexArrayState_alterVertexArray (s : Sim) (id i : Id)
    (f : VertexArrayState → VertexArrayState) :
    (s.alterVertexArray id f).vertexArrayState i =
      if i = id then f (s.vertexArrayState id) else s.vertexArrayState i :=
  Table.getD_insert ..

theorem Agrees.boundTexture (h : s.Agrees s') (target : TextureTarget) :
    s'.boundTexture target = s.boundTexture target := by
  simp only [Sim.boundTexture, activeUnit, h.bound]

theorem Agrees.execute (h : s.Agrees s') (hq : q.IsContent) :
    s.Alike (execute q s) (execute q s') := by
  have ht := h.boundTexture
  obtain ⟨hcore, hb, hv, hc, hcmd⟩ := h
  have hs := core_eq hcore
  generalize s'.registers = regs, s'.vertexArrays = vas, s'.calls = calls at hs
  subst hs
  have halter (id : Id) (f : VertexArrayState → VertexArrayState)
      (hf : ∀ v, (f v).elementBuffer = v.elementBuffer) :
      s.Alike ((), s.alterVertexArray id f) ((), alterVertexArray { s with
        registers := regs, vertexArrays := vas, calls := calls } id f) := by
    refine ⟨rfl, ⟨rfl, hb, fun i => ?_, hc, hcmd⟩, fun i => ?_⟩
    · rw [vertexArrayState_alterVertexArray, vertexArrayState_alterVertexArray, hv, hv]
    · rw [elementBuffer, vertexArrayState_alterVertexArray]
      split
      · rename_i hi
        rw [hf, hi]
        rfl
      · rfl
  cases q with
  | genObjects | deleteObjects | createShader | deleteShader | createProgram | deleteProgram
  | bind => exact hq.elim
  | getError =>
      simp only [Sim.execute, takeError]
      split <;> exact ⟨rfl, ⟨rfl, hb, hv, hc, hcmd⟩, fun _ => rfl⟩
  | clear =>
      simp only [Sim.execute, clear, hb]
      exact ⟨rfl, ⟨rfl, hb, hv, hc, hcmd⟩, fun _ => rfl⟩
  | bufferData =>
      simp only [Sim.execute, bufferData, hb]
      split <;> exact ⟨rfl, ⟨rfl, hb, hv, hc, hcmd⟩, fun _ => rfl⟩
  | bufferSubData =>
      simp only [Sim.execute, bufferSubData, hb]
      split
      · exact ⟨rfl, ⟨rfl, hb, hv, hc, hcmd⟩, fun _ => rfl⟩
      · split <;> exact ⟨rfl, ⟨rfl, hb, hv, hc, hcmd⟩, fun _ => rfl⟩
  | texImage =>
      simp only [Sim.execute, texImage, hb, ht]
      split <;> exact ⟨rfl, ⟨rfl, hb, hv, hc, hcmd⟩, fun _ => rfl⟩
  | texParameter =>
      simp only [Sim.execute, texParameter, ht]
      split <;> exact ⟨rfl, ⟨rfl, hb, hv, hc, hcmd⟩, fun _ => rfl⟩
  | getTexParameter =>
      simp only [Sim.execute, getTexParameter, ht]
      exact ⟨rfl, ⟨rfl, hb, hv, hc, hcmd⟩, fun _ => rfl⟩
  | generateMipmap =>
      simp only [Sim.execute, generateMipmap, ht]
      split <;> exact ⟨rfl, ⟨rfl, hb, hv, hc, hcmd⟩, fun _ => rfl⟩
  | renderbufferStorage =>
      simp only [Sim.execute, renderbufferStorage, hb]
      split <;> exact ⟨rfl, ⟨rfl, hb, hv, hc, hcmd⟩, fun _ => rfl⟩
  | framebufferRenderbuffer | framebufferTexture =>
      simp only [Sim.execute, attach, hb]
      split <;> exact ⟨rfl, ⟨rfl, hb, hv, hc, hcmd⟩, fun _ => rfl⟩
  | checkFramebufferStatus =>
      simp only [Sim.execute, framebufferStatus, hb]
      exact ⟨rfl, ⟨rfl, hb, hv, hc, hcmd⟩, fun _ => rfl⟩
  | drawBuffers =>
      simp only [Sim.execute, drawBuffers, hb]
      exact ⟨rfl, ⟨rfl, hb, hv, hc, hcmd⟩, fun _ => rfl⟩
  | readPixels =>
      simp only [Sim.execute, readPixels, hb]
      split
      · exact ⟨rfl, ⟨rfl, hb, hv, hc, hcmd⟩, fun _ => rfl⟩
      · split <;> exact ⟨rfl, ⟨rfl, hb, hv, hc, hcmd⟩, fun _ => rfl⟩
  | enableVertexAttribute =>
      simp only [Sim.execute, enableVertexAttribute, hb]
      split
      · exact ⟨rfl, ⟨rfl, hb, hv, hc, hcmd⟩, fun _ => rfl⟩
      · exact halter _ _ fun _ => rfl
  | vertexAttributePointer =>
      simp only [Sim.execute, vertexAttributePointer, hb]
      split
      · exact ⟨rfl, ⟨rfl, hb, hv, hc, hcmd⟩, fun _ => rfl⟩
      · exact halter _ _ fun _ => rfl
  | shaderSource =>
      simp only [Sim.execute, shaderSource, alterShader]
      split <;> exact ⟨rfl, ⟨rfl, hb, hv, hc, hcmd⟩, fun _ => rfl⟩
  | compileShader =>
      simp only [Sim.execute, compileShader, alterShader]
      split <;> exact ⟨rfl, ⟨rfl, hb, hv, hc, hcmd⟩, fun _ => rfl⟩
  | attachShader =>
      simp only [Sim.execute, attachShader]
      split
      · exact ⟨rfl, ⟨rfl, hb, hv, hc, hcmd⟩, fun _ => rfl⟩
      · split
        · exact ⟨rfl, ⟨rfl, hb, hv, hc, hcmd⟩, fun _ => rfl⟩
        · split <;> exact ⟨rfl, ⟨rfl, hb, hv, hc, hcmd⟩, fun _ => rfl⟩
  | detachShader =>
      simp only [Sim.execute, detachShader]
      split
      · exact ⟨rfl, ⟨rfl, hb, hv, hc, hcmd⟩, fun _ => rfl⟩
      · split <;> exact ⟨rfl, ⟨rfl, hb, hv, hc, hcmd⟩, fun _ => rfl⟩
  | linkProgram =>
      simp only [Sim.execute, link]
      split <;> exact ⟨rfl, ⟨rfl, hb, hv, hc, hcmd⟩, fun _ => rfl⟩
  | bindAttributeLocation =>
      simp only [Sim.execute, bindAttributeLocation]
      split <;> exact ⟨rfl, ⟨rfl, hb, hv, hc, hcmd⟩, fun _ => rfl⟩
  | programParameter =>
      simp only [Sim.execute, programParameter, answerOr, programParameter?]
      split <;> exact ⟨rfl, ⟨rfl, hb, hv, hc, hcmd⟩, fun _ => rfl⟩
  | activeUniform =>
      simp only [Sim.execute, activeUniform, answerOr, programState]
      split <;> exact ⟨rfl, ⟨rfl, hb, hv, hc, hcmd⟩, fun _ => rfl⟩
  | activeAttribute =>
      simp only [Sim.execute, activeAttribute, answerOr, programState]
      split <;> exact ⟨rfl, ⟨rfl, hb, hv, hc, hcmd⟩, fun _ => rfl⟩
  | uniform =>
      simp only [Sim.execute, setUniform, hb]
      split
      · exact ⟨rfl, ⟨rfl, hb, hv, hc, hcmd⟩, fun _ => rfl⟩
      · split <;> exact ⟨rfl, ⟨rfl, hb, hv, hc, hcmd⟩, fun _ => rfl⟩
  | dispatchCompute =>
      simp only [Sim.execute, dispatch, hb]
      split <;> exact ⟨rfl, ⟨rfl, hb, hv, hc, hcmd⟩, fun _ => rfl⟩
  | drawArrays | drawElements =>
      have hp (id : Id) : programState { s with
          registers := regs, vertexArrays := vas, calls := calls } id = s.programState id := rfl
      simp only [Sim.execute, draw, hb, hp]
      split <;> exact ⟨rfl, ⟨rfl, hb, hv, hc, hcmd⟩, fun _ => rfl⟩
  | _ => exact ⟨rfl, ⟨rfl, hb, hv, hc, hcmd⟩, fun _ => rfl⟩

/-! ## Calls -/

theorem Agrees.record (h : s.Agrees s') (c : Call) : (s.record c).Agrees (s'.record c) where
  core := h.core
  bound := h.bound
  vertexArrayState := h.vertexArrayState
  calls := h.calls.append (.refl [c])
  commands := by
    rw [Sim.record, Sim.record, List.filter_append, List.filter_append, h.commands]

/-- A bind that only the second driver receives. -/
theorem Agrees.record_bind (h : s.Agrees s') (slot : Slot) (id : Id) :
    s.Agrees (s'.record (.bind slot id)) where
  core := h.core
  bound := h.bound
  vertexArrayState := h.vertexArrayState
  calls := h.calls.trans (List.sublist_append_left ..)
  commands := (List.filter_append ..).trans ((List.append_nil _).trans h.commands)

theorem Agrees.receive (h : s.Agrees s') (q : Request) : (s.receive q).Agrees (s'.receive q) := by
  unfold Sim.receive
  split
  · exact h.record _
  · split
    · exact h.record _
    · exact h

theorem elementBuffer_receive (s : Sim) (q : Request) (id : Id) :
    (s.receive q).elementBuffer id = s.elementBuffer id := by
  unfold receive
  split
  · rfl
  · split <;> rfl

theorem Agrees.serve (h : s.Agrees s') (hq : q.IsContent) :
    s.Alike (Sim.execute q (s.receive q)) (Sim.execute q (s'.receive q)) := by
  obtain ⟨ha, hagrees, he⟩ := (h.receive q).execute hq
  exact ⟨ha, hagrees, fun id => (he id).trans (elementBuffer_receive s q id)⟩

theorem Tied.congr (h : s.Tied) (hr : s'.registers = s.registers)
    (he : ∀ id, s'.elementBuffer id = s.elementBuffer id) : s'.Tied := by
  unfold Tied
  rw [he, bound, bound, hr]
  exact h

/-! ## Binds -/

theorem Agrees.elementBuffer (h : s.Agrees s') (id : Id) :
    s'.elementBuffer id = s.elementBuffer id :=
  congrArg (·.elementBuffer) (h.vertexArrayState id)

/-- Every slot is answered for by a register. -/
theorem bound_congr (h : ∀ r, r.IsRegister → s'.bound r = s.bound r) (slot : Slot) :
    s'.bound slot = s.bound slot := by
  rw [← bound_primary s', ← bound_primary s]
  exact h _ (Slot.isRegister_of_mem_registers slot.primary_mem_registers)

theorem core_place (s : Sim) (slot : Slot) (id : Id) : (s.place slot id).core = s.core := by
  unfold place
  split <;> rfl

theorem calls_place (s : Sim) (slot : Slot) (id : Id) : (s.place slot id).calls = s.calls := by
  unfold place
  split <;> rfl

/-- A bind of an element buffer is recorded in the bound vertex array. -/
theorem vertexArrayState_place (s : Sim) (slot : Slot) (id i : Id) :
    (s.place slot id).vertexArrayState i =
      if slot = .elementArray ∧ i = s.bound .vertexArray then
        { s.vertexArrayState i with elementBuffer := id }
      else s.vertexArrayState i := by
  unfold place
  split
  · rw [if_neg nofun]
    rfl
  · have hv : (s.write (Slot.registers .elementArray) id).bound .vertexArray =
        s.bound .vertexArray := by
      rw [bound_write _ _ _ (by decide)]
      exact if_neg (by decide)
    rw [hv]
    refine (vertexArrayState_alterVertexArray ..).trans ?_
    simp only [true_and]
    split
    · rename_i hi
      rw [hi]
      rfl
    · rfl
  · rename_i he
    rw [if_neg fun e => he e.1]
    rfl

theorem Agrees.place (h : s.Agrees s') (slot : Slot) (id : Id) :
    (s.place slot id).Agrees (s'.place slot id) where
  core := (core_place ..).trans (h.core.trans (core_place ..).symm)
  bound := bound_congr fun r hr => by
    rw [bound_place _ _ _ hr, bound_place _ _ _ hr, h.bound, h.elementBuffer]
  vertexArrayState i := by
    rw [vertexArrayState_place, vertexArrayState_place, h.bound, h.vertexArrayState]
  calls := by
    rw [calls_place, calls_place]
    exact h.calls
  commands := by
    rw [calls_place, calls_place]
    exact h.commands

/-- A bind of what is bound already changes nothing that can be read, if the element buffer is the
one that the bound vertex array has recorded. -/
theorem Agrees.place_bound (h : s.Agrees s') (ht : s.Tied)
    (hb : ∀ r ∈ slot.registers, s.bound r = id) : s.Agrees (s'.place slot id) where
  core := (core_place ..).trans h.core
  bound := bound_congr fun r hr => by
    rw [bound_place _ _ _ hr]
    split
    · rename_i hm
      exact (hb r hm).symm
    · split
      · rename_i hv
        obtain ⟨rfl, rfl⟩ := hv
        rw [h.elementBuffer, ht, hb .vertexArray List.mem_cons_self]
      · exact h.bound r
  vertexArrayState i := by
    rw [vertexArrayState_place, h.vertexArrayState]
    split
    · rename_i he
      obtain ⟨rfl, rfl⟩ := he
      have hid : id = (s.vertexArrayState (s'.bound .vertexArray)).elementBuffer := by
        rw [h.bound, ← hb _ List.mem_cons_self]
        exact ht
      rw [hid]
    · rfl
  calls := by
    rw [calls_place]
    exact h.calls
  commands := by
    rw [calls_place]
    exact h.commands

theorem elementBuffer_place (s : Sim) (slot : Slot) (id i : Id) :
    (s.place slot id).elementBuffer i =
      if slot = .elementArray ∧ i = s.bound .vertexArray then id else s.elementBuffer i := by
  rw [elementBuffer, vertexArrayState_place]
  split <;> rfl

theorem Tied.place (h : s.Tied) (slot : Slot) (id : Id) : (s.place slot id).Tied := by
  unfold Tied
  rw [elementBuffer_place, bound_place _ _ _ (by decide), bound_place _ _ _ (by decide)]
  by_cases hv : slot = .vertexArray
  · subst hv
    simp [Slot.registers]
  · by_cases he : slot = .elementArray
    · subst he
      simp [Slot.registers]
    · have hregs : .elementArray ∉ slot.registers ∧ .vertexArray ∉ slot.registers := by
        cases slot with
        | framebuffer target => cases target <;> decide
        | vertexArray => exact absurd rfl hv
        | buffer target =>
            simp only [Slot.registers, List.mem_singleton, reduceCtorEq, not_false_iff, and_true]
            exact fun e => he e.symm
        | _ => simp [Slot.registers]
      simp only [hregs, hv, he, false_and, if_false]
      exact h

/-! ## Creation -/

theorem Agrees.gen (h : s.Agrees s') (k : Kind) : s.Alike (s.gen k) (s'.gen k) := by
  obtain ⟨hcore, hb, hv, hc, hcmd⟩ := h
  have hs := core_eq hcore
  generalize s'.registers = regs, s'.vertexArrays = vas, s'.calls = calls at hs
  subst hs
  simp only [gen_eq, poolOf]
  split
  · exact ⟨rfl, ⟨rfl, hb, hv, hc, hcmd⟩, fun _ => rfl⟩
  · refine ⟨rfl, ⟨rfl, hb, hv, hc.append (.refl _), ?_⟩, fun _ => rfl⟩
    rw [List.filter_append, List.filter_append, hcmd]

theorem Agrees.genMany (h : s.Agrees s') (k : Kind) (n : Nat) :
    s.Alike (genMany k n s) (genMany k n s') := by
  induction n generalizing s s' with
  | zero => exact ⟨rfl, h, fun _ => rfl⟩
  | succ n ih =>
      obtain ⟨hid, hagrees, he⟩ := h.gen k
      obtain ⟨hids, hagrees', he'⟩ := ih hagrees
      refine ⟨?_, hagrees', fun id => (he' id).trans (he id)⟩
      simp only [Sim.genMany, hid, hids]

theorem Agrees.createShader (h : s.Agrees s') (stage : ShaderStage) :
    s.Alike (s.createShader stage) (s'.createShader stage) := by
  obtain ⟨hid, ha, he⟩ := h.gen .shader
  simp only [Sim.createShader, hid]
  split
  · exact ⟨rfl, ha, he⟩
  · have hcore := congrArg (fun d : Sim =>
      { d with shaders := d.shaders.insert (s.gen .shader).1 { stage } }) ha.core
    exact ⟨rfl, ⟨hcore, ha.bound, ha.vertexArrayState, ha.calls, ha.commands⟩, he⟩

theorem Agrees.createProgram (h : s.Agrees s') : s.Alike s.createProgram s'.createProgram := by
  obtain ⟨hid, ha, he⟩ := h.gen .program
  simp only [Sim.createProgram, hid]
  split
  · exact ⟨rfl, ha, he⟩
  · have hcore := congrArg (fun d : Sim =>
      { d with programs := d.programs.insert (s.gen .program).1 {} }) ha.core
    exact ⟨rfl, ⟨hcore, ha.bound, ha.vertexArrayState, ha.calls, ha.commands⟩, he⟩

/-! ## Deletion -/

theorem vertexArrayState_delete (hz : id ≠ 0) (hl : (k, id) ∈ s.live) (i : Id) :
    (s.delete k id).vertexArrayState i =
      if k = .vertexArray ∧ i = id then default else s.vertexArrayState i := by
  rw [delete_eq hz hl]
  cases k with
  | vertexArray =>
      simp only [Sim.vertexArrayState, forget, Table.getD, Table.get?_erase, true_and]
      split <;> rfl
  | _ => rfl

/-- Deletion looks at no registers, vertex arrays or calls. -/
theorem core_delete (s : Sim) (k : Kind) (id : Id) :
    (s.core.delete k id).core = (s.delete k id).core := by
  have hl : s.core.isLive k id = s.isLive k id := rfl
  simp only [Sim.delete, hl]
  split
  · rfl
  · cases k <;> rfl

theorem Agrees.live (h : s.Agrees s') : s'.live = s.live := congrArg (·.live) h.core

theorem Agrees.deleted (h : s.Agrees s') : s'.deleted = s.deleted := by
  have he (d : Sim) : d.deleted = (d.calls.filter (! ·.isBind)).filterMap (·.deletion?) := by
    rw [List.filterMap_filter, Sim.deleted]
    congr
    funext c
    cases c <;> rfl
  rw [he, he, h.commands]

theorem Agrees.delete (h : s.Agrees s') (k : Kind) (id : Id) :
    (s.delete k id).Agrees (s'.delete k id) := by
  by_cases hc : id = 0 ∨ ¬ s.isLive k id
  · have hc' : id = 0 ∨ ¬ s'.isLive k id := by
      rw [isLive, h.live]
      exact hc
    rw [Sim.delete, Sim.delete, if_pos hc, if_pos hc']
    exact h
  · have hz : id ≠ 0 := fun e => hc (.inl e)
    have hl : (k, id) ∈ s.live := by
      simpa [isLive] using (not_or.mp hc).2
    have hl' : (k, id) ∈ s'.live := h.live ▸ hl
    refine ⟨?_, bound_congr fun r hr => ?_, fun i => ?_, ?_, ?_⟩
    · rw [← core_delete s', h.core, core_delete]
    · rw [bound_delete hz hl' hr, bound_delete hz hl hr, h.bound]
    · rw [vertexArrayState_delete hz hl', vertexArrayState_delete hz hl, h.vertexArrayState]
    · rw [delete_eq hz hl, delete_eq hz hl']
      exact h.calls.append (.refl _)
    · rw [delete_eq hz hl, delete_eq hz hl', List.filter_append, List.filter_append, h.commands]

theorem Tied.delete (h : s.Tied) (hz : id ≠ 0) (hl : (k, id) ∈ s.live) (hb : k ≠ .buffer)
    (hv : k ≠ .vertexArray) : (s.delete k id).Tied := by
  unfold Tied
  have hbuffer : ¬ (Slot.kind? .elementArray = some k ∧ s.bound .elementArray = id) :=
    fun e => hb (Option.some.inj e.1).symm
  have harray : ¬ (Slot.kind? .vertexArray = some k ∧ s.bound .vertexArray = id) :=
    fun e => hv (Option.some.inj e.1).symm
  rw [bound_delete hz hl (by decide), bound_delete hz hl (by decide), if_neg hbuffer,
    if_neg harray, Sim.elementBuffer, vertexArrayState_delete hz hl, if_neg fun e => hv e.1]
  exact h

end Sim

end GraphicsObjects
