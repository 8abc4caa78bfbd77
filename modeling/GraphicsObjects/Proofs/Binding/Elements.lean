import GraphicsObjects.Proofs.Binding.Coherence

/-!
# The element array binding and the vertex array

The element array binding belongs to the vertex array. The cache hears of a change of vertex array
in two ways: a bind makes the element array binding unknown until it is bound again, the destruction
of the vertex array that is bound leaves it as it was.
-/

namespace GraphicsObjects

namespace BindingCache

/-- What a context tells its cache. -/
inductive Update where
  | setActive (slot : Slot) (id : Id)
  | invalidate (slot : Slot)
  | invalidateAll
  | forgetObject (kind : Kind) (id : Id)
  deriving DecidableEq

namespace Update

def apply (c : BindingCache) : Update → BindingCache
  | setActive slot id => c.setActive slot id
  | invalidate slot => c.invalidate slot
  | invalidateAll => c.invalidateAll
  | forgetObject kind id => c.forgetObject kind id

/-- The updates that may record another binding: a bind and a destruction. -/
def Records : Update → Prop
  | setActive .. | forgetObject .. => True
  | invalidate .. | invalidateAll => False

end Update

def after (us : List Update) : BindingCache := us.foldl Update.apply fresh

variable {c : BindingCache} {us vs : List Update} {u : Update} {slot r : Slot} {id : Id}

theorem knownBinding_eq_none_iff (hr : r.IsRegister) :
    c.knownBinding r = none ↔ c.belief r = .unknown := by
  simp [knownBinding, Slot.registers_of_isRegister hr]

theorem mem_registers_vertexArray (h : .vertexArray ∈ slot.registers) : slot = .vertexArray := by
  unfold Slot.registers at h
  split at h
  · simp at h
  · exact (List.mem_singleton.mp h).symm

theorem mem_registers_elementArray (h : .elementArray ∈ slot.registers) : slot = .elementArray := by
  unfold Slot.registers at h
  split at h
  · simp at h
  · exact (List.mem_singleton.mp h).symm

/-! ## Changes of vertex array -/

/-- A destruction does not touch what is believed of registers for other kinds of objects. -/
theorem belief_forgetObject_of_ne {k : Kind} (h : r.kind? ≠ some k) :
    (c.forgetObject k id).belief r = c.belief r := by
  rw [belief_forgetObject, belief, Table.getD]
  cases c.entries.get? r with
  | none => rfl
  | some b => exact if_neg fun e => h e.1

theorem of_vertexArray_changed (hu : u.Records)
    (hc : (u.apply c).belief .vertexArray ≠ c.belief .vertexArray) :
    (∃ id, u = .setActive .vertexArray id) ∨ ∃ id, u = .forgetObject .vertexArray id := by
  cases u with
  | setActive slot id =>
      refine .inl ⟨id, ?_⟩
      by_cases hs : .vertexArray ∈ slot.registers
      · rw [mem_registers_vertexArray hs]
      · have hsame : (c.setActive slot id).belief .vertexArray = c.belief .vertexArray := by
          rw [belief_setActive, if_neg hs, if_neg fun e => nomatch e.2]
        exact absurd hsame hc
  | forgetObject kind id =>
      refine .inr ⟨id, ?_⟩
      by_cases hk : Slot.vertexArray.kind? = some kind
      · cases hk
        rfl
      · exact absurd (belief_forgetObject_of_ne hk) hc
  | invalidate slot => exact hu.elim
  | invalidateAll => exact hu.elim

/-- When the recorded vertex array changes, the element array binding is unknown afterwards just if
the change was a bind, or it was unknown before. -/
theorem elementArray_unknown_iff (us : List Update) (hu : u.Records)
    (hc : (u.apply (after us)).belief .vertexArray ≠ (after us).belief .vertexArray) :
    (u.apply (after us)).knownBinding .elementArray = none ↔
      (∃ id, u = .setActive .vertexArray id) ∨ (after us).knownBinding .elementArray = none := by
  have hreg : Slot.elementArray.IsRegister := nofun
  rw [knownBinding_eq_none_iff hreg, knownBinding_eq_none_iff hreg]
  rcases of_vertexArray_changed hu hc with ⟨id, rfl⟩ | ⟨id, rfl⟩
  · have hbelief : ((after us).setActive .vertexArray id).belief .elementArray = .unknown := by
      rw [belief_setActive, if_neg (by decide), if_pos ⟨rfl, rfl⟩]
    exact ⟨fun _ => .inl ⟨id, rfl⟩, fun _ => hbelief⟩
  · have hbelief : ((after us).forgetObject .vertexArray id).belief .elementArray =
        (after us).belief .elementArray :=
      belief_forgetObject_of_ne nofun
    refine ⟨fun h => .inr (hbelief.symm.trans h), ?_⟩
    rintro (⟨_, h⟩ | h)
    · cases h
    · exact hbelief.trans h

def boundElements : List Update := [.setActive .vertexArray 1, .setActive .elementArray 5]

theorem elementArray_unknown_after_bind :
    ((after boundElements).setActive .vertexArray 2).knownBinding .elementArray = none :=
  (elementArray_unknown_iff (u := .setActive .vertexArray 2) boundElements trivial
    (by decide)).mpr (.inl ⟨2, rfl⟩)

/-- The vertex array is destroyed, and its element buffer still believed to be bound. -/
theorem elementArray_survives_destruction :
    (after boundElements).belief .vertexArray = .bound 1 ∧
      ((after boundElements).forgetObject .vertexArray 1).belief .vertexArray = .bound 0 ∧
      ((after boundElements).forgetObject .vertexArray 1).knownBinding .elementArray = some 5 := by
  decide

/-! ## Runs -/

/-- Only a bind to it tells what is bound to the element array slot once that is unknown. -/
theorem belief_elementArray_apply (h : c.belief .elementArray = .unknown)
    (hu : ∀ id, u ≠ .setActive .elementArray id) :
    (u.apply c).belief .elementArray = .unknown := by
  cases u with
  | setActive slot id =>
      have hs : .elementArray ∉ slot.registers := by
        intro hm
        exact hu id (by rw [mem_registers_elementArray hm])
      refine (belief_setActive ..).trans ?_
      rw [if_neg hs]
      split
      · rfl
      · exact h
  | invalidate slot =>
      refine (belief_invalidate ..).trans ?_
      split
      · rfl
      · exact h
  | invalidateAll => rfl
  | forgetObject kind id =>
      refine (belief_forgetObject ..).trans ?_
      unfold belief Table.getD at h
      cases he : c.entries.get? .elementArray with
      | none => simpa [he] using h
      | some b =>
          obtain rfl : b = .unknown := by simpa [he] using h
          exact if_neg (by simp)

theorem belief_elementArray_run (h : c.belief .elementArray = .unknown)
    (hvs : ∀ id, .setActive .elementArray id ∉ vs) :
    (vs.foldl Update.apply c).belief .elementArray = .unknown := by
  induction vs generalizing c with
  | nil => exact h
  | cons u vs ih =>
      refine ih ?_ fun id hm => hvs id (List.mem_cons_of_mem _ hm)
      exact belief_elementArray_apply h fun id hu => hvs id (hu ▸ List.mem_cons_self)

/-- From the bind of a vertex array to the next bind of an element buffer, no element buffer is
believed to be bound, so that bind is not left out. -/
theorem elementArray_inactive_until_bound (us : List Update) (vertexArray : Id)
    (h : ∀ id, .setActive .elementArray id ∉ vs) (x : Id) :
    (after (us ++ .setActive .vertexArray vertexArray :: vs)).isActive .elementArray x = false := by
  have hbind : ((after us).setActive .vertexArray vertexArray).belief .elementArray = .unknown :=
    (belief_setActive ..).trans (if_neg (by decide))
  have hrun := belief_elementArray_run hbind h
  rw [after, List.foldl_append, List.foldl_cons]
  refine Bool.eq_false_iff.mpr fun ha => ?_
  cases hrun.symm.trans (belief_of_isActive ha List.mem_cons_self)

end BindingCache

end GraphicsObjects
