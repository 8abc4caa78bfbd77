import GraphicsObjects.Proofs.Object.Restoring
import GraphicsObjects.Proofs.Session.MirrorLinks
import GraphicsObjects.Proofs.Session.Requests
import GraphicsObjects.Proofs.Simulation.ElementBuffers

/-!
# Strict updates of buffers

Along a run without deletions the driver has bound for indexed draws what the bound vertex array has
recorded. So an update of a buffer restores all registers that guards can restore, but one: without
a cache it leaves an element buffer bound where no vertex array is.
-/

namespace GraphicsObjects

open Ownership ContextM SessionM Simulation

/-! ## Runs without deletions -/

namespace Sim

variable {s : Sim} {is : List Input}

/-- A deletion does nothing unless it is recorded. -/
theorem deleteMany_cases (s : Sim) (k : Kind) (ids : List Id) :
    s.deleteMany k ids = s ∨ ∃ o os, (s.deleteMany k ids).deleted = s.deleted ++ o :: os := by
  induction ids generalizing s with
  | nil => exact .inl rfl
  | cons id ids ih =>
      have hcons : s.deleteMany k (id :: ids) = (s.delete k id).deleteMany k ids := rfl
      rw [hcons]
      rcases s.delete_cases k id with h | ⟨hz, hl⟩
      · rw [h]
        exact ih s
      · obtain ⟨gone, -, hrest⟩ := keepsSizes_deleteMany (s.delete k id) k ids
        refine .inr ⟨(k, id), gone, ?_⟩
        rw [hrest.deleted, deleted_delete hz hl, List.append_assoc]
        rfl

theorem deleted_take (s : Sim) (i : Input) : ∃ gone, (s.take i).deleted = s.deleted ++ gone := by
  cases i with
  | request q =>
      obtain ⟨gone, -, hserve⟩ := s.deleted_serve q
      exact ⟨gone, hserve⟩
  | setUp a =>
      refine ⟨[], ?_⟩
      cases a <;> exact (List.append_nil _).symm

/-- As long as nothing is deleted, binds alone change what is bound, and keep it tied. -/
theorem tied_of_undeleted (h : (after is).deleted = []) : (after is).Tied := by
  induction is using List.reverseRecOn with
  | nil => rfl
  | append_singleton is i ih =>
      rw [after_concat] at h ⊢
      obtain ⟨gone, hgone⟩ := (after is).deleted_take i
      have hbefore : (after is).deleted = [] := (List.append_eq_nil_iff.mp (hgone.symm.trans h)).1
      cases hd : i.deletes with
      | none => exact (tied_take_iff is i (ih hbefore)).mpr (by simp [Unties, hd])
      | some d =>
          rw [take_of_deletes _ hd] at h ⊢
          rcases (after is).deleteMany_cases d.1 d.2 with he | ⟨o, os, he⟩
          · rw [he]
            exact ih hbefore
          · simp [he] at h

end Sim

namespace Session

variable {config : Config} {s s' : Session Sim} {name : String} {f : Found Buffer}

/-- Binds are of live objects, and nothing is deleted. -/
def Intact : Rule := fun s op s' => op.Admissible s.driver.live ∧ s'.driver.deleted = []

instance (s : Session Sim) (op : Op) (s' : Session Sim) : Decidable (Intact s op s') :=
  inferInstanceAs (Decidable (_ ∧ _))

theorem Reachable.undeleted (h : Reachable Intact config s) : s.driver.deleted = [] := by
  induction h with
  | start => rfl
  | adjust a _ ih => cases a <;> exact ih
  | step _ _ hr _ => exact hr.2

theorem Reachable.tied (h : Reachable Intact config s) : s.driver.Tied := by
  have hundeleted := h.undeleted
  obtain ⟨is, hafter⟩ := h.after
  rw [hafter] at hundeleted ⊢
  exact Sim.tied_of_undeleted hundeleted

/-- Where nothing is deleted all guards may be released. -/
theorem Reachable.careful_of_intact (h : Reachable Intact config s) :
    Reachable Careful config s := by
  refine (h.mono fun s op s' hr => ?_ : Reachable Undisturbed config s).careful.1
  refine ⟨hr.1, fun g _ k _ id _ => ?_⟩
  rw [hr.2, List.drop_nil]
  exact List.not_mem_nil

/-! ## Updates -/

/-- From every state of a run without deletions in which the cache knows the vertex array and what
is bound to the target of a buffer, an update of the buffer is accepted and leaves in all registers
what they held, but for an element buffer that is updated without a cache while no vertex array is
bound. This one is bound afterwards. -/
theorem updates_restore_registers (h : Reachable Intact config s)
    (hs : (s.enter 0).config.strictUnbind = true)
    (hf : s.find? Payload.buffer? name = some f)
    (hv : (s.enter 0).cache.belief .vertexArray ≠ .unknown)
    (he : (s.enter 0).cache.belief f.known.slot ≠ .unknown) {op : BufferOp}
    (ho : (f.known.request? op).isSome = true) :
    ∃ answer s', s.step (.buffer name op) = some (answer, s') ∧ op.failure? answer = none ∧
      (∀ r : Slot, r.IsRegister → s'.driver.bound r =
        if f.known.Stays (s.enter 0) ∧ r = .elementArray then f.id else s.driver.bound r) ∧
      ((∀ r : Slot, r.IsRegister → s'.driver.bound r = s.driver.bound r) ↔
        ¬ (f.known.Stays (s.enter 0) ∧ s.driver.bound .elementArray ≠ f.id)) := by
  obtain ⟨⟨q, site⟩, hq⟩ := Option.isSome_iff_exists.mp ho
  have known {r : Slot} (hr : (s.enter 0).cache.belief r ≠ .unknown) :
      ∃ x, (s.enter 0).cache.belief r = .bound x := by
    cases hb : (s.enter 0).cache.belief r with
    | bound x => exact ⟨x, rfl⟩
    | unknown => exact absurd hb hr
  obtain ⟨v, hv⟩ := known hv
  obtain ⟨e, he⟩ := known he
  have hsound := h.careful_of_intact.inv.sound
  obtain ⟨-, hhas⟩ := has_of_find? Payload.reads_buffer hf
  have hid : f.known.slot.Admits s.driver.live f.id := hsound.admits hhas rfl
  have hstep : s.step (.buffer name op) = _ := onObject_of_find? hf
  rw [hsound.context_eq hhas] at hstep
  obtain ⟨hcontent, -, hfailure, hrun⟩ := Buffer.of_request? hq f.id (s.enter 0)
  have hbound (r : Slot) (hr : r.IsRegister) :
      (op.run f.id f.known (s.enter 0)).2.driver.bound r =
        if f.known.Stays (s.enter 0) ∧ r = .elementArray then f.id else s.driver.bound r := by
    rw [hrun]
    exact Buffer.bound_updating hsound.ready h.tied hs hv he hid hcontent hr
  refine ⟨_, _, hstep, hfailure, hbound, fun hall hstays => ?_, fun hstays r hr => ?_⟩
  · have helement := hbound .elementArray (by decide)
    rw [if_pos ⟨hstays.1, rfl⟩] at helement
    exact hstays.2 ((hall .elementArray (by decide)).symm.trans helement)
  · refine (hbound r hr).trans ?_
    split
    · rename_i hb
      rw [hb.2]
      exact (not_not.mp fun hne => hstays ⟨hb.1, Ne.symm hne⟩)
    · rfl

/-- A vertex array is bound with the first of two element buffers. -/
def strictPair : Option (Session Sim) :=
  (start .fresh { cacheBindings := false, strictUnbind := true }).perform Intact
    [.create "v" 0 .vertexArray, .create "a" 0 (.buffer .elementArray),
      .create "b" 0 (.buffer .elementArray), .bind "v", .bind "a"]

/-- All registers are restored when the second one is updated. -/
theorem strictPair_restored : ∃ s s', strictPair = some s ∧
    s.step (.buffer "b" (.allocate 6 .staticDraw)) = some ((), s') ∧
    s.driver.bound .elementArray = 1 ∧
    ∀ r : Slot, r.IsRegister → s'.driver.bound r = s.driver.bound r := by
  have hfound : strictPair.map (fun s => ((s.enter 0).config.strictUnbind,
      (s.enter 0).cache.belief .vertexArray, (s.enter 0).cache.belief .elementArray,
      s.driver.bound .vertexArray, s.driver.bound .elementArray,
      (s.find? Payload.buffer? "b").map (·.known))) =
      some (true, .bound 1, .bound 1, 1, 1, some { target := .elementArray }) := by cbv
  obtain ⟨s, hs, hfacts⟩ := Option.map_eq_some_iff.mp hfound
  simp only [Prod.mk.injEq, Option.map_eq_some_iff] at hfacts
  obtain ⟨hstrict, hv, he, hv', he', f, hf, hknown⟩ := hfacts
  have hslot : f.known.slot = .elementArray := by rw [hknown]; rfl
  have hsent : (f.known.request? (.allocate 6 .staticDraw)).isSome = true := rfl
  obtain ⟨answer, s', hstep, -, -, hrestored⟩ := updates_restore_registers
    (Reachable.start.perform hs) hstrict hf (by simp [hv]) (by simp [hslot, he]) hsent
  refine ⟨s, s', hs, hstep, he', hrestored.mpr fun hstays => ?_⟩
  have hnone : s.driver.bound .vertexArray = 0 := hstays.1.2.2
  rw [hv'] at hnone
  cases hnone

/-- A driver with one element buffer, and nothing is bound. -/
def strictLone : Option (Session Sim) :=
  (start .fresh { checkErrors := false, cacheBindings := false, strictUnbind := true }).perform
    Intact [.create "b" 0 (.buffer .elementArray)]

/-- After an update the element buffer is bound. -/
theorem strictLone_left_bound : ∃ s s', strictLone = some s ∧
    Reachable Intact { checkErrors := false, cacheBindings := false, strictUnbind := true } s ∧
    (s.enter 0).config.strictUnbind = true ∧
    (s.enter 0).cache.belief .vertexArray = .bound 0 ∧
    (s.enter 0).cache.belief .elementArray = .bound 0 ∧
    s.step (.buffer "b" (.setData ⟨.u8, [1, 2, 3]⟩ .staticDraw)) = some ((), s') ∧
    s.driver.bound .elementArray = 0 ∧ s'.driver.bound .elementArray = 1 := by
  have hfound : strictLone.map (fun s => ((s.enter 0).config.strictUnbind,
      (s.enter 0).cache.belief .vertexArray, (s.enter 0).cache.belief .elementArray,
      s.driver.bound .elementArray,
      (s.step (.buffer "b" (.setData ⟨.u8, [1, 2, 3]⟩ .staticDraw))).map
        fun x => x.2.driver.bound .elementArray)) =
      some (true, .bound 0, .bound 0, 0, some 1) := by cbv
  obtain ⟨s, hs, hfacts⟩ := Option.map_eq_some_iff.mp hfound
  simp only [Prod.mk.injEq, Option.map_eq_some_iff] at hfacts
  obtain ⟨hstrict, hv, he, hbound, ⟨answer, s'⟩, hstep, hafter⟩ := hfacts
  exact ⟨s, s', hs, Reachable.start.perform hs, hstrict, hv, he, hstep, hbound, hafter⟩

end Session

end GraphicsObjects
