import GraphicsObjects.Proofs.Session.Runs
import GraphicsObjects.Proofs.Simulation.Settled

/-!
# Runs of the driver

The states that a driver gets into by requests in any order and with any names. Between requests it
may be set up to fail. A condition that the fresh driver meets holds all along a run just if no
input of the run breaks it.
-/

namespace GraphicsObjects

open Simulation

/-- What a driver may get: a request, or a set-up from outside. -/
inductive Simulation.Input where
  | request (q : Request)
  | setUp (a : Adjustment)
  deriving DecidableEq

/-- The objects that are to be deleted. -/
def Simulation.Input.deletes : Input → Option (Kind × List Id)
  | request (.deleteObjects kind ids) => some (kind, ids)
  | request (.deleteShader id) => some (.shader, [id])
  | request (.deleteProgram id) => some (.program, [id])
  | _ => none

namespace Sim

/-- The driver after an input. -/
def take (s : Sim) : Input → Sim
  | .request q => s.serve q
  | .setUp a => a.apply s

/-- The driver after a run from the start. -/
def after (is : List Input) : Sim := is.foldl take .fresh

variable {s s' s'' : Sim} {k : Kind} {id : Id} {ids : List Id} {is : List Input}

theorem after_concat (is : List Input) (i : Input) : after (is ++ [i]) = (after is).take i :=
  List.foldl_concat ..

/-! ## Deletions -/

theorem delete_of_not_mem (hl : (k, id) ∉ s.live) : s.delete k id = s :=
  (s.delete_cases k id).resolve_right fun h => hl h.2

theorem mem_live_delete (hw : s.WellNamed) {o : Kind × Id} :
    o ∈ (s.delete k id).live ↔ o ∈ s.live ∧ o ≠ (k, id) := by
  by_cases hl : (k, id) ∈ s.live
  · rw [live_delete (hw.ne_zero hl) hl, List.mem_filter, decide_eq_true_iff]
  · rw [delete_of_not_mem hl]
    refine (and_iff_left_of_imp ?_).symm
    rintro ho rfl
    exact hl ho

theorem WellNamed.deleteMany (h : s.WellNamed) (k : Kind) (ids : List Id) :
    (s.deleteMany k ids).WellNamed :=
  List.foldlRecOn ids _ h fun _ hd id _ => hd.delete k id

theorem mem_live_deleteMany (hw : s.WellNamed) {o : Kind × Id} :
    o ∈ (s.deleteMany k ids).live ↔ o ∈ s.live ∧ ¬ (o.1 = k ∧ o.2 ∈ ids) := by
  induction ids generalizing s with
  | nil => simp [deleteMany]
  | cons id ids ih =>
      refine (ih (hw.delete k id)).trans ?_
      rw [mem_live_delete hw, List.mem_cons, Ne, Prod.ext_iff]
      tauto

/-- Registers that held one of the deleted objects fall back to 0. -/
theorem bound_deleteMany (hw : s.WellNamed) {r : Slot} (hr : r.IsRegister) :
    (s.deleteMany k ids).bound r =
      if r.kind? = some k ∧ s.bound r ∈ ids ∧ (k, s.bound r) ∈ s.live then 0 else s.bound r := by
  induction ids generalizing s with
  | nil => simp [deleteMany]
  | cons id ids ih =>
      refine (ih (hw.delete k id)).trans ?_
      simp only [mem_live_delete hw]
      by_cases hl : (k, id) ∈ s.live
      · have hz := hw.ne_zero hl
        rw [bound_delete hz hl hr]
        by_cases hk : r.kind? = some k
        · by_cases hid : s.bound r = id <;> simp [hk, hid, hl]
        · simp [hk]
      · rw [delete_of_not_mem hl]
        by_cases hid : s.bound r = id
        · simp [hid, hl]
        · simp [hid]

theorem elementBuffer_delete (hz : id ≠ 0) (hl : (k, id) ∈ s.live) (i : Id) :
    (s.delete k id).elementBuffer i =
      if k = .vertexArray ∧ i = id then 0 else s.elementBuffer i := by
  rw [elementBuffer, vertexArrayState_delete hz hl]
  split <;> rfl

/-- A deleted vertex array has no element buffer. -/
theorem elementBuffer_deleteMany (hw : s.WellNamed) (i : Id) :
    (s.deleteMany k ids).elementBuffer i =
      if k = .vertexArray ∧ i ∈ ids ∧ (k, i) ∈ s.live then 0 else s.elementBuffer i := by
  induction ids generalizing s with
  | nil => simp [deleteMany]
  | cons id ids ih =>
      refine (ih (hw.delete k id)).trans ?_
      simp only [mem_live_delete hw]
      by_cases hl : (k, id) ∈ s.live
      · have hz := hw.ne_zero hl
        rw [elementBuffer_delete hz hl]
        by_cases hk : k = .vertexArray
        · subst hk
          by_cases hid : i = id <;> simp [hid, hl]
        · simp [hk]
      · rw [delete_of_not_mem hl]
        by_cases hid : i = id
        · simp [hid, hl]
        · simp [hid]

/-! ## Inputs -/

/-- Registers and element buffers are as before, and all objects live on. -/
structure Keeps (s s' : Sim) : Prop where
  registers : s'.registers = s.registers
  elementBuffer : ∀ id, s'.elementBuffer id = s.elementBuffer id
  live : ∀ o ∈ s.live, o ∈ s'.live

theorem Keeps.trans (h : s.Keeps s') (h' : s'.Keeps s'') : s.Keeps s'' where
  registers := h'.registers.trans h.registers
  elementBuffer id := (h'.elementBuffer id).trans (h.elementBuffer id)
  live o ho := h'.live o (h.live o ho)

theorem keeps_gen (s : Sim) (k : Kind) : s.Keeps (s.gen k).2 where
  registers := registers_gen s k
  elementBuffer := elementBuffer_gen s k
  live _ ho := (mem_live_gen s k).mpr (.inl ho)

theorem keeps_genMany (s : Sim) (k : Kind) (n : Nat) : s.Keeps (genMany k n s).2 := by
  induction n generalizing s with
  | zero => exact ⟨rfl, fun _ => rfl, fun _ ho => ho⟩
  | succ n ih => exact (keeps_gen s k).trans (ih _)

theorem keeps_createShader (s : Sim) (stage : ShaderStage) : s.Keeps (s.createShader stage).2 := by
  refine (keeps_gen s .shader).trans ?_
  unfold createShader
  dsimp only
  split <;> exact ⟨rfl, fun _ => rfl, fun _ ho => ho⟩

theorem keeps_createProgram (s : Sim) : s.Keeps s.createProgram.2 := by
  refine (keeps_gen s .program).trans ?_
  unfold createProgram
  dsimp only
  split <;> exact ⟨rfl, fun _ => rfl, fun _ ho => ho⟩

theorem keeps_receive (s : Sim) (q : Request) : s.Keeps (s.receive q) where
  registers := registers_receive s q
  elementBuffer := elementBuffer_receive s q
  live o ho := by
    rw [live_receive]
    exact ho

theorem keeps_content (s : Sim) {q : Request} (hq : q.IsContent) : s.Keeps (s.serve q) := by
  have hreg := (edits_execute (s.receive q) hq).registry
  simp only [registry, Prod.mk.injEq] at hreg
  obtain ⟨hlive, -, hregs, -⟩ := hreg
  refine ⟨hregs.trans (registers_receive s q), ((Agrees.refl s).serve hq).elementBuffer, ?_⟩
  intro o ho
  rw [serve, hlive, live_receive]
  exact ho

theorem take_of_deletes (s : Sim) {i : Input} (h : i.deletes = some (k, ids)) :
    s.take i = s.deleteMany k ids := by
  cases i with
  | setUp a => cases h
  | request q => cases q <;> cases h <;> rfl

/-- An input that is neither a bind nor a deletion. -/
theorem keeps_take (s : Sim) {i : Input} (hd : i.deletes = none)
    (hb : ∀ slot id, i ≠ .request (.bind slot id)) : s.Keeps (s.take i) := by
  cases i with
  | setUp a => cases a <;> exact ⟨rfl, fun _ => rfl, fun _ ho => ho⟩
  | request q =>
      have hq := keeps_receive s q
      cases q with
      | bind slot id => exact absurd rfl (hb slot id)
      | deleteObjects | deleteShader | deleteProgram => cases hd
      | genObjects k slots =>
          refine hq.trans ?_
          simp only [take, serve, execute]
          split
          · exact ⟨rfl, fun _ => rfl, fun _ ho => ho⟩
          · exact keeps_genMany ..
      | createShader stage => exact hq.trans (keeps_createShader ..)
      | createProgram => exact hq.trans (keeps_createProgram _)
      | _ => exact keeps_content s trivial

/-! ## Names and what does not live -/

theorem WellNamed.genMany (h : s.WellNamed) (k : Kind) (n : Nat) : (genMany k n s).2.WellNamed := by
  induction n generalizing s with
  | zero => exact h
  | succ n ih => exact ih (h.gen k)

theorem WellNamed.content (h : s.WellNamed) {q : Request} (hq : q.IsContent) :
    (s.serve q).WellNamed := by
  have hreceived : (s.receive q).WellNamed := h.congr (pools_receive s q) (live_receive s q)
  exact hreceived.of_registry (edits_execute _ hq).registry

theorem WellNamed.serve (h : s.WellNamed) (q : Request) : (s.serve q).WellNamed := by
  have hq : (s.receive q).WellNamed := h.congr (pools_receive s q) (live_receive s q)
  cases q with
  | genObjects kind slots =>
      simp only [Sim.serve, execute]
      split
      · exact hq
      · exact hq.genMany kind _
  | createShader stage => exact (hq.gen .shader).of_registry (registry_createShader ..)
  | createProgram => exact (hq.gen .program).of_registry (registry_createProgram _)
  | deleteObjects kind ids => exact hq.deleteMany kind ids
  | deleteShader id => exact hq.delete .shader id
  | deleteProgram id => exact hq.delete .program id
  | bind slot id => exact hq.congr (pools_bind ..) (live_bind ..)
  | _ => exact h.content trivial

theorem WellNamed.after (is : List Input) : (after is).WellNamed := by
  refine List.foldlRecOn is _ .fresh fun d hd i _ => ?_
  cases i with
  | request q => exact hd.serve q
  | setUp a => cases a <;> exact hd

theorem Tidy.after (is : List Input) : (after is).Tidy := by
  refine List.foldlRecOn is _ .fresh fun d hd i _ => ?_
  cases i with
  | request q => exact hd.serve q
  | setUp a =>
      cases a with
      | raise code => exact hd.raise code
      | failCreation | setInteger => exact ⟨hd.bound, hd.blank, hd.present⟩

/-! ## Along a run -/

/-- What the fresh driver meets holds in all states of a run just if no input breaks it. -/
theorem along_iff {P : Sim → Prop} {Breaks : Sim → Input → Prop} (hfresh : P .fresh)
    (hstep : ∀ is i, P (after is) → (P ((after is).take i) ↔ ¬ Breaks (after is) i))
    (is : List Input) : (∀ ps, ps <+: is → P (after ps)) ↔
      ∀ ps i, ps ++ [i] <+: is → ¬ Breaks (after ps) i := by
  constructor
  · intro hall ps i hp
    have hbefore := hall ps ((List.prefix_append ps [i]).trans hp)
    have hafter := hall _ hp
    rw [after_concat] at hafter
    exact (hstep ps i hbefore).mp hafter
  · intro hnone ps
    -- the longer prefixes are reached through the shorter ones
    induction ps using List.reverseRecOn with
    | nil => exact fun _ => hfresh
    | append_singleton ps i ih =>
        intro hp
        have hbefore := ih ((List.prefix_append ps [i]).trans hp)
        rw [after_concat]
        exact (hstep ps i hbefore).mpr (hnone ps i hp)

end Sim

end GraphicsObjects
