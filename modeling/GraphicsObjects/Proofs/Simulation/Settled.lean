import GraphicsObjects.Proofs.Simulation.Tidy

/-!
# What requests keep

While a vertex array is bound, so is its element buffer: requests about contents and binds keep
that, and deletions do if the buffer is not the one that is deleted. Requests that tie no objects
together keep all links.
-/

namespace GraphicsObjects

open Simulation

namespace Sim

variable {s s' : Sim} {k : Kind} {id i : Id} {q : Request} {tied : Prop}

/-! ## The element buffer of the bound vertex array -/

/-- While a vertex array is bound, so is the element buffer that it has recorded. -/
def Settled (s : Sim) : Prop := s.bound .vertexArray ≠ 0 → s.Tied

theorem Settled.congr (h : s.Settled) (hr : s'.registers = s.registers)
    (he : ∀ i, s'.elementBuffer i = s.elementBuffer i) : s'.Settled := by
  intro hz
  rw [Sim.bound, hr] at hz
  exact (h hz).congr hr he

theorem Settled.content (h : s.Settled) (hc : q.IsContent) : (s.serve q).Settled := by
  have hreg := (edits_execute (s.receive q) hc).registry
  simp only [registry, Prod.mk.injEq] at hreg
  exact h.congr (hreg.2.2.1.trans (registers_receive s q)) ((Agrees.refl s).serve hc).elementBuffer

theorem Settled.place (h : s.Settled) (slot : Slot) (id : Id) : (s.place slot id).Settled := by
  intro hz
  by_cases hv : s.bound .vertexArray = 0
  · rw [bound_place _ _ _ (by decide)] at hz
    split at hz
    · -- the vertex array brings its element buffer along
      rename_i hm
      obtain rfl := BindingCache.mem_registers_vertexArray hm
      unfold Tied
      rw [elementBuffer_place, bound_place _ _ _ (by decide), bound_place _ _ _ (by decide)]
      simp [Slot.registers]
    · simp only [reduceCtorEq, and_false, if_false] at hz
      exact absurd hv hz
  · exact (h hv).place slot id

theorem Settled.bind (h : s.Settled) (slot : Slot) (id : Id) : (s.bind slot id).Settled := by
  rcases s.bind_cases slot id with hb | ⟨-, hb⟩
  · rw [hb]
    exact h
  · rw [hb]
    exact h.place _ id

theorem elementBuffer_gen (s : Sim) (k : Kind) (i : Id) :
    (s.gen k).2.elementBuffer i = s.elementBuffer i := by
  rw [gen_eq]
  split <;> rfl

theorem Settled.gen (h : s.Settled) (k : Kind) : (s.gen k).2.Settled :=
  h.congr (registers_gen s k) (elementBuffer_gen s k)

theorem Settled.createShader (h : s.Settled) (stage : ShaderStage) :
    (s.createShader stage).2.Settled := by
  have hg := h.gen .shader
  unfold Sim.createShader
  dsimp only
  split
  · exact hg
  · exact hg.congr rfl fun _ => rfl

theorem Settled.createProgram (h : s.Settled) : s.createProgram.2.Settled := by
  have hg := h.gen .program
  unfold Sim.createProgram
  dsimp only
  split
  · exact hg
  · exact hg.congr rfl fun _ => rfl

/-! ## Requests that keep the links -/

/-- The second driver received requests after the first that tie no objects together. -/
def Continues (tied : Prop) : Sim → Sim → Prop :=
  Relation.ReflTransGen fun s s' => ∃ q : Request, q.KeepsLinks tied ∧ s' = s.serve q

theorem Continues.links (h : Continues tied s s') (hk : k = .vertexArray → tied) (i : Id) :
    s'.links k i = s.links k i := by
  induction h with
  | refl => rfl
  | tail _ hs ih =>
      obtain ⟨q, hq, rfl⟩ := hs
      exact (links_serve _ hq hk i).trans ih

theorem Continues.tidy (h : Continues tied s s') (ht : s.Tidy) : s'.Tidy := by
  induction h with
  | refl => exact ht
  | tail _ hs ih =>
      obtain ⟨q, -, rfl⟩ := hs
      exact ih.serve q

theorem Settled.serve (h : s.Settled) (hq : q.KeepsLinks tied) : (s.serve q).Settled := by
  rcases hq.content_or_bind with hc | ⟨slot, id, rfl, -⟩
  · exact h.content hc
  · have hreceived : (s.receive (.bind slot id)).Settled := h
    exact hreceived.bind slot id

theorem Continues.settled (h : Continues tied s s') (hs : s.Settled) : s'.Settled := by
  induction h with
  | refl => exact hs
  | tail _ hs ih =>
      obtain ⟨q, hq, rfl⟩ := hs
      exact ih.serve hq

/-- The links are as before but for those of objects that may change; those of vertex arrays count
if `tied` holds. -/
structure Preserves (tied : Prop) (may : Kind → Id → Prop) (s s' : Sim) : Prop where
  links : ∀ k i, ¬ may k i → (k = .vertexArray → tied) → s'.links k i = s.links k i
  tidy : s'.Tidy
  settled : s.Settled → s'.Settled

theorem Preserves.trans {may : Kind → Id → Prop} {s'' : Sim} (h : s.Preserves tied may s')
    (h' : s'.Preserves tied may s'') : s.Preserves tied may s'' where
  links k i hm hk := (h'.links k i hm hk).trans (h.links k i hm hk)
  tidy := h'.tidy
  settled hs := h'.settled (h.settled hs)

theorem Continues.preserves (h : Continues tied s s') (ht : s.Tidy) (may : Kind → Id → Prop) :
    s.Preserves tied may s' where
  links _ i _ hk := h.links hk i
  tidy := h.tidy ht
  settled := h.settled

end Sim

end GraphicsObjects
