import GraphicsObjects.Proofs.Simulation.Names
import GraphicsObjects.Simulation.Driver

/-!
# Registers

What binding and deletion do to the registers of the driver.
-/

namespace GraphicsObjects

open Simulation

/-- `id` may be bound to the slot while the objects of `live` live: it is 0, or names a live object
of the slot's kind. A texture unit is no object and may be any. -/
def Slot.Admits (slot : Slot) (live : List (Kind × Id)) (id : Id) : Prop :=
  id = 0 ∨ ∀ kind, slot.kind? = some kind → (kind, id) ∈ live

instance (slot : Slot) (live : List (Kind × Id)) (id : Id) : Decidable (slot.Admits live id) :=
  inferInstanceAs (Decidable (_ ∨ ∀ kind ∈ slot.kind?, _))

namespace Slot

variable {slot r : Slot} {live live' : List (Kind × Id)} {id : Id} {k : Kind}

theorem admits_zero (slot : Slot) (live : List (Kind × Id)) : slot.Admits live 0 := .inl rfl

theorem admits_unit (live : List (Kind × Id)) (unit : Nat) : activeTexture.Admits live unit :=
  .inr fun _ h => nomatch h

theorem admits_of_mem (hk : slot.kind? = some k) (h : (k, id) ∈ live) : slot.Admits live id := by
  refine .inr fun k' hk' => ?_
  rw [hk] at hk'
  cases hk'
  exact h

theorem Admits.mono (h : slot.Admits live id)
    (hl : ∀ k, slot.kind? = some k → (k, id) ∈ live → (k, id) ∈ live') : slot.Admits live' id := by
  rcases h with h | h
  · exact .inl h
  · exact .inr fun k hk => hl k hk (h k hk)

theorem kind?_of_mem_registers (h : r ∈ slot.registers) : r.kind? = slot.kind? := by
  unfold registers at h
  split at h
  · simp only [List.mem_cons, List.not_mem_nil, or_false] at h
    rcases h with rfl | rfl <;> rfl
  · rw [List.mem_singleton.mp h]

theorem Admits.of_mem_registers (h : slot.Admits live id) (hr : r ∈ slot.registers) :
    r.Admits live id := by
  rw [Admits, kind?_of_mem_registers hr]
  exact h

theorem primary_of_isRegister (h : slot.IsRegister) : slot.primary = slot := by
  unfold primary
  split
  · exact absurd rfl h
  · rfl

/-- What may be bound may still be so after the deletion of another object. -/
theorem Admits.filter (h : slot.Admits live id) {gone : Id}
    (hne : ¬ (slot.kind? = some k ∧ id = gone)) :
    slot.Admits (live.filter (· ≠ (k, gone))) id := by
  refine h.mono fun k' hk' hm => List.mem_filter.mpr ⟨hm, ?_⟩
  refine decide_eq_true fun e => hne ?_
  cases e
  exact ⟨hk', rfl⟩

end Slot

namespace Sim

variable {s : Sim} {slot r : Slot} {id : Id} {k : Kind}

theorem accepts_iff : s.accepts slot id = true ↔ slot.Admits s.live id := by
  unfold accepts Slot.Admits
  cases slot.kind? <;> simp [isLive]

/-! ## Binding -/

theorem bound_primary (s : Sim) (slot : Slot) : s.bound slot.primary = s.bound slot := by
  unfold Slot.primary
  split <;> rfl

theorem bound_write (s : Sim) (rs : List Slot) (id : Id) (hr : r.IsRegister) :
    (s.write rs id).bound r = if r ∈ rs then id else s.bound r := by
  simp only [bound, write, Slot.primary_of_isRegister hr]
  generalize s.registers = t
  induction rs generalizing t with
  | nil => simp
  | cons q rs ih =>
      rw [List.foldl_cons, ih, Table.getD_insert]
      by_cases h : r ∈ rs <;> by_cases hq : r = q <;> simp [h, hq]

theorem located_of_activeUnit
    (h : ∀ unit target, slot = .texture unit target → s.activeUnit = unit) :
    s.located slot = slot := by
  cases slot with
  | texture unit target => rw [located, h unit target rfl]
  | _ => rfl

/-- The effect of a bind that is accepted. -/
def place (s : Sim) (slot : Slot) (id : Id) : Sim :=
  match slot with
  | .vertexArray => (s.write slot.registers id).write [.elementArray] (s.elementBuffer id)
  | .buffer .elementArray =>
    (s.write slot.registers id).setElementBuffer ((s.write slot.registers id).bound .vertexArray) id
  | _ => s.write slot.registers id

theorem bind_of_admits (h : slot.Admits s.live id) (hl : s.located slot = slot) :
    s.bind slot id = s.place slot id := by
  have ha : s.accepts slot id = true := accepts_iff.mpr h
  simp only [bind, hl, if_pos ha]
  rfl

/-- A bind writes the registers of its slot; that of a vertex array brings the element buffer of the
vertex array along. -/
theorem bound_place (s : Sim) (slot : Slot) (id : Id) (hr : r.IsRegister) :
    (s.place slot id).bound r =
      if r ∈ slot.registers then id
      else if slot = .vertexArray ∧ r = .elementArray then s.elementBuffer id
      else s.bound r := by
  unfold place
  split
  · rw [bound_write _ _ _ hr, bound_write _ _ _ hr]
    by_cases he : r = .elementArray <;> simp [he, Slot.registers]
  · change (s.write _ id).bound r = _
    rw [bound_write _ _ _ hr]
    simp
  · rename_i hv _
    rw [bound_write _ _ _ hr, if_neg (c := slot = .vertexArray ∧ _) fun e => hv e.1]

theorem live_bind (s : Sim) (slot : Slot) (id : Id) : (s.bind slot id).live = s.live := by
  simp only [bind]
  split
  · split <;> rfl
  · rfl

theorem pools_bind (s : Sim) (slot : Slot) (id : Id) : (s.bind slot id).pools = s.pools := by
  simp only [bind]
  split
  · split <;> rfl
  · rfl

theorem calls_bind (s : Sim) (slot : Slot) (id : Id) : (s.bind slot id).calls = s.calls := by
  simp only [bind]
  split
  · split <;> rfl
  · rfl

/-! ## Deletion -/

theorem delete_eq (hz : id ≠ 0) (hl : (k, id) ∈ s.live) : s.delete k id =
    { s.forget k id with
      calls := s.calls ++ [.delete k id]
      live := s.live.filter (· ≠ (k, id))
      pools := s.pools.insert (namingKind k) ((s.poolOf (namingKind k)).giveBack id)
      registers := s.registers.mapValues fun slot bound =>
        if slot.kind? = some k ∧ bound = id then 0 else bound } := by
  have hc : ¬ (id = 0 ∨ ¬ s.isLive k id = true) := by
    simp [hz, isLive, hl]
  simp only [delete, if_neg hc]
  rfl

/-- A deletion does nothing unless the object lives. -/
theorem delete_cases (s : Sim) (k : Kind) (id : Id) :
    s.delete k id = s ∨ id ≠ 0 ∧ (k, id) ∈ s.live := by
  by_cases hc : id = 0 ∨ ¬ s.isLive k id
  · exact .inl (if_pos hc)
  · obtain ⟨hz, hl⟩ := not_or.mp hc
    exact .inr ⟨hz, by simpa [isLive] using hl⟩

theorem live_delete (hz : id ≠ 0) (hl : (k, id) ∈ s.live) :
    (s.delete k id).live = s.live.filter (· ≠ (k, id)) := by
  rw [delete_eq hz hl]

/-- Registers that held a deleted object fall back to 0. -/
theorem bound_delete (hz : id ≠ 0) (hl : (k, id) ∈ s.live) (hr : r.IsRegister) :
    (s.delete k id).bound r = if r.kind? = some k ∧ s.bound r = id then 0 else s.bound r := by
  rw [delete_eq hz hl]
  simp only [bound, Slot.primary_of_isRegister hr, Table.getD, Table.get?_mapValues]
  cases s.registers.get? r with
  | none => simp
  | some b => rfl

end Sim

end GraphicsObjects
