import GraphicsObjects.Binding.Cache
import GraphicsObjects.Proofs.Simulation.Registers

/-!
# Coherence of the cache with the driver

What a context believes to be bound to a register is bound to it, and is 0 or a live object. Binds
and deletions keep this as long as the cache hears of them.
-/

namespace GraphicsObjects

namespace BindingCache

/-- Every belief about a register is true, and what is believed to be bound there may be bound. -/
structure Coherent (c : BindingCache) (s : Sim) : Prop where
  fallback : ∀ id, c.fallback = .bound id → id = 0
  agrees : ∀ r id, r.IsRegister → c.belief r = .bound id → s.bound r = id ∧ r.Admits s.live id

variable {c : BindingCache} {s s' : Sim} {slot : Slot} {id x : Id} {k : Kind}

theorem Coherent.fresh : BindingCache.fresh.Coherent Sim.fresh where
  fallback id h := by cases h; rfl
  agrees r id _ h := by
    cases h
    exact ⟨rfl, r.admits_zero _⟩

/-- Coherence looks at registers, and at live objects that must not go. -/
theorem Coherent.congr (h : c.Coherent s) (hr : s'.registers = s.registers)
    (hl : ∀ o ∈ s.live, o ∈ s'.live) : c.Coherent s' where
  fallback := h.fallback
  agrees r id hreg hb := by
    obtain ⟨hbound, ha⟩ := h.agrees r id hreg hb
    refine ⟨?_, ha.mono fun _ _ hm => hl _ hm⟩
    rw [Sim.bound, hr]
    exact hbound

/-- Some texture unit has never been heard of, and shares what is believed of all such registers. -/
theorem Coherent.of_agrees
    (h : ∀ r id, r.IsRegister → c.belief r = .bound id → s.bound r = id ∧ r.Admits s.live id) :
    c.Coherent s where
  agrees := h
  fallback id hid := by
    have hinj : Function.Injective fun unit => Slot.texture unit .texture2D := by
      intro unit unit' he
      injection he
    obtain ⟨_, ⟨unit, rfl⟩, hnew⟩ := (Set.infinite_range_of_injective hinj).exists_notMem_finset
      (c.entries.keys ++ s.registers.keys).toFinset
    rw [List.mem_toFinset, List.mem_append, not_or] at hnew
    have hreg : (Slot.texture unit .texture2D).IsRegister := nofun
    have hbelief : c.belief (.texture unit .texture2D) = .bound id := by
      rw [belief, Table.getD, Table.get?_eq_none_iff.mpr hnew.1]
      exact hid
    obtain ⟨hbound, -⟩ := h _ id hreg hbelief
    rw [← hbound, Sim.bound, Slot.primary_of_isRegister hreg, Table.getD,
      Table.get?_eq_none_iff.mpr hnew.2]
    rfl

/-! ## Queries -/

theorem knownBinding_eq_some_iff (hr : slot.IsRegister) :
    c.knownBinding slot = some x ↔ c.belief slot = .bound x := by
  have hp := Slot.primary_of_isRegister hr
  cases hb : c.belief slot <;>
    simp [knownBinding, getActive, Slot.registers_of_isRegister hr, hp, hb]

theorem belief_of_isActive (h : c.isActive slot x = true) {r : Slot} (hr : r ∈ slot.registers) :
    c.belief r = .bound x := by
  simpa using List.all_eq_true.mp h r hr

/-- What is believed to be bound to a slot is in all its registers. -/
theorem Coherent.bound_of_isActive (h : c.Coherent s) (ha : c.isActive slot x = true) {r : Slot}
    (hr : r ∈ slot.registers) : s.bound r = x :=
  (h.agrees r x (Slot.isRegister_of_mem_registers hr) (belief_of_isActive ha hr)).1

theorem Coherent.admits_of_isActive (h : c.Coherent s) (ha : c.isActive slot x = true) :
    slot.Admits s.live x := by
  have hp := slot.primary_mem_registers
  have hreg := Slot.isRegister_of_mem_registers hp
  have hx := (h.agrees _ x hreg (belief_of_isActive ha hp)).2
  rw [Slot.Admits, Slot.kind?_of_mem_registers hp] at hx
  exact hx

/-- A binding that is known is one that may be restored. -/
theorem Coherent.admits_of_knownBinding (h : c.Coherent s) (hk : c.knownBinding slot = some x) :
    slot.Admits s.live x := by
  unfold knownBinding at hk
  split at hk
  · cases hk
  · rename_i hu
    have hp := slot.primary_mem_registers
    have hreg := Slot.isRegister_of_mem_registers hp
    have hknown : c.belief slot.primary ≠ .unknown := by
      intro he
      exact hu (List.any_eq_true.mpr ⟨_, hp, by simp [he]⟩)
    cases hb : c.belief slot.primary with
    | unknown => exact absurd hb hknown
    | bound y =>
        have hx : y = x := by simpa [getActive, hb] using hk
        subst hx
        have ha := (h.agrees _ y hreg hb).2
        rw [Slot.Admits, Slot.kind?_of_mem_registers hp] at ha
        exact ha

/-! ## Updates -/

theorem fallback_setActive (c : BindingCache) (slot : Slot) (id : Id) :
    (c.setActive slot id).fallback = c.fallback := by
  unfold setActive
  split <;> rfl

/-- The cache follows a bind. -/
theorem Coherent.bind (h : c.Coherent s) (ha : slot.Admits s.live id) (hl : s.located slot = slot) :
    (c.setActive slot id).Coherent (s.bind slot id) where
  fallback y hy := by
    rw [fallback_setActive] at hy
    exact h.fallback y hy
  agrees r y hreg hb := by
    rw [belief_setActive] at hb
    rw [Sim.live_bind, Sim.bind_of_admits ha hl, Sim.bound_place _ _ _ hreg]
    split at hb
    · rename_i hr
      cases hb
      rw [if_pos hr]
      exact ⟨rfl, ha.of_mem_registers hr⟩
    · rename_i hr
      split at hb
      · cases hb
      · rename_i he
        rw [if_neg hr, if_neg he]
        exact h.agrees r y hreg hb

theorem Coherent.invalidate (h : c.Coherent s) (slot : Slot) : (c.invalidate slot).Coherent s where
  fallback := h.fallback
  agrees r y hreg hb := by
    rw [belief_invalidate] at hb
    split at hb
    · cases hb
    · exact h.agrees r y hreg hb

theorem Coherent.invalidateAll (c : BindingCache) (s : Sim) : c.invalidateAll.Coherent s where
  fallback _ hy := by cases hy
  agrees _ _ _ hb := by
    rw [belief_invalidateAll] at hb
    cases hb

/-- The cache follows a deletion. -/
theorem Coherent.delete (h : c.Coherent s) (hz : id ≠ 0) (hl : (k, id) ∈ s.live) :
    (c.forgetObject k id).Coherent (s.delete k id) where
  fallback := h.fallback
  agrees r y hreg hb := by
    have hold := h.agrees r
    rw [Sim.bound_delete hz hl hreg, Sim.live_delete hz hl]
    rw [belief_forgetObject] at hb
    simp only [belief, Table.getD] at hold
    cases he : c.entries.get? r with
    | none =>
        simp only [he, Option.getD_none] at hb hold
        cases h.fallback y hb
        obtain ⟨hbound, -⟩ := hold 0 hreg hb
        rw [hbound, if_neg fun e => hz e.2.symm]
        exact ⟨rfl, r.admits_zero _⟩
    | some b =>
        simp only [he, Option.getD_some] at hb hold
        split at hb
        · rename_i hgone
          cases hb
          rw [if_pos ⟨hgone.1, (hold id hreg hgone.2).1⟩]
          exact ⟨rfl, r.admits_zero _⟩
        · rename_i hkept
          obtain ⟨hbound, ha⟩ := hold y hreg hb
          have hne : ¬ (r.kind? = some k ∧ y = id) := by
            rintro ⟨hk, rfl⟩
            exact hkept ⟨hk, hb⟩
          rw [hbound, if_neg hne]
          exact ⟨rfl, ha.filter hne⟩

end BindingCache

end GraphicsObjects
