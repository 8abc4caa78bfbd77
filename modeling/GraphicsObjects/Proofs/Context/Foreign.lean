import GraphicsObjects.Proofs.Context.Holding
import GraphicsObjects.Proofs.Simulation.Links

/-!
# Binds that bypass the context

Code that shares the driver may bind past the context and then tell it what slot to forget. What
the context believes is true again after that, but for one case: a vertex array brings its element
buffer along, and the context is not told to forget the one that it knew.
-/

namespace GraphicsObjects

open Simulation

namespace Context

variable {c : Context Sim} {slot r : Slot} {id x : Id}

/-- What is known to the context to be bound is bound in the driver. -/
def Truthful (c : Context Sim) : Prop :=
  ∀ (r : Slot) x, r.IsRegister → c.cache.belief r = .bound x → c.driver.bound r = x

/-- The context after a bind that only its driver received. -/
def bypassed (c : Context Sim) (slot : Slot) (id : Id) : Context Sim :=
  { c with driver := c.driver.serve (.bind slot id) }

/-- The context after a bind that only its driver received and the notice of its slot. -/
def notified (c : Context Sim) (slot : Slot) (id : Id) : Context Sim :=
  (ContextM.invalidateBinding slot (c.bypassed slot id)).2

/-- The context after binds of its own. -/
def bindAll (c : Context Sim) (bs : List (Slot × Id)) : Context Sim :=
  bs.foldl (fun c b => (ContextM.bind b.1 b.2 c).2) c

/-- A bind does not get to the driver while a register of the slot holds something else. -/
def Misses (c : Context Sim) (slot : Slot) (id : Id) : Prop :=
  (ContextM.bindSlot slot id c).2.driver = c.driver ∧ ∃ r ∈ slot.registers, c.driver.bound r ≠ id

theorem truthful_of_unbound (hc : c.cache = .fresh) (hd : c.driver.registers = .empty) :
    c.Truthful := by
  intro r x hr hb
  rw [hc] at hb
  cases hb
  rw [Sim.bound, hd]
  rfl

/-! ## Binds by the context -/

theorem Truthful.bound_of_isActive (h : c.Truthful) (ha : c.cache.isActive slot x = true)
    (hr : r ∈ slot.registers) : c.driver.bound r = x :=
  h r x (Slot.isRegister_of_mem_registers hr) (BindingCache.belief_of_isActive ha hr)

/-- A bind is left out just if the cache may be trusted and knows it. -/
theorem driver_bindSlot_iff : (ContextM.bindSlot slot id c).2.driver = c.driver ↔
    c.config.cacheBindings = true ∧ c.cache.isActive slot id = true := by
  rw [ContextM.bindSlot_eq, ← Bool.and_eq_true_iff]
  split
  · rename_i helided
    exact iff_of_true rfl helided
  · rename_i hissued
    refine iff_of_false (fun he => ?_) hissued
    have hcalls : (ContextM.issued c slot id).driver.calls = c.driver.calls ++ [.bind slot id] :=
      Sim.calls_bind ..
    rw [he] at hcalls
    simp at hcalls

theorem Truthful.not_misses (h : c.Truthful) (slot : Slot) (id : Id) : ¬ c.Misses slot id := by
  rintro ⟨helided, r, hr, hne⟩
  exact hne (h.bound_of_isActive (driver_bindSlot_iff.mp helided).2 hr)

/-- Unless a bind misses, a context that leaves binds out knows what is bound. -/
theorem truthful_of_not_misses (hc : c.config.cacheBindings = true)
    (h : ∀ slot id, ¬ c.Misses slot id) : c.Truthful := by
  intro r x hr hb
  have hregisters := Slot.registers_of_isRegister hr
  have hactive : c.cache.isActive r x = true := by
    simp [BindingCache.isActive, hregisters, hb]
  by_contra hne
  exact h r x ⟨driver_bindSlot_iff.mpr ⟨hc, hactive⟩, r, hregisters ▸ List.mem_cons_self, hne⟩

theorem live_bindSlot (c : Context Sim) (slot : Slot) (id : Id) :
    (ContextM.bindSlot slot id c).2.driver.live = c.driver.live := by
  rw [ContextM.bindSlot_eq]
  split
  · rfl
  · exact Sim.live_bind ..

theorem Truthful.bindSlot (h : c.Truthful) (ha : slot.Admits c.driver.live id)
    (hl : c.driver.located slot = slot) : (ContextM.bindSlot slot id c).2.Truthful := by
  rw [ContextM.bindSlot_eq]
  split
  · exact h
  · intro r x hr hb
    have hadmits : slot.Admits (c.driver.record (.bind slot id)).live id := ha
    have hlocated : (c.driver.record (.bind slot id)).located slot = slot := hl
    change ((c.driver.record (.bind slot id)).bind slot id).bound r = x
    rw [Sim.bind_of_admits hadmits hlocated, Sim.bound_place _ _ _ hr]
    replace hb := (BindingCache.belief_setActive ..).symm.trans hb
    split at hb
    · rename_i hm
      cases hb
      rw [if_pos hm]
    · rename_i hm
      split at hb
      · cases hb
      · rename_i hv
        rw [if_neg hm, if_neg hv]
        exact h r x hr hb

/-- Binds of what may be bound keep the context truthful: the unit of a texture is made active
before the texture is bound there. -/
theorem Truthful.bind (h : c.Truthful) (ha : slot.Admits c.driver.live id) :
    (ContextM.bind slot id c).2.Truthful ∧
      (ContextM.bind slot id c).2.driver.live = c.driver.live := by
  cases slot with
  | texture unit target =>
      have hunit := h.bindSlot (Slot.admits_unit _ unit) rfl
      have hactive := hunit.bound_of_isActive (ContextM.isActive_bindSlot c .activeTexture unit)
        List.mem_cons_self
      have hlive := live_bindSlot c .activeTexture unit
      refine ⟨hunit.bindSlot (hlive ▸ ha) ?_, (live_bindSlot ..).trans hlive⟩
      refine Sim.located_of_activeUnit fun unit' target' he => ?_
      cases he
      exact hactive
  | _ => exact ⟨h.bindSlot ha rfl, live_bindSlot ..⟩

theorem Truthful.bindAll {bs : List (Slot × Id)} (h : c.Truthful)
    (ha : ∀ b ∈ bs, b.1.Admits c.driver.live b.2) : (c.bindAll bs).Truthful := by
  induction bs generalizing c with
  | nil => exact h
  | cons b bs ih =>
      obtain ⟨hb, hlive⟩ := h.bind (ha b List.mem_cons_self)
      refine ih hb fun b' hb' => ?_
      rw [hlive]
      exact ha b' (List.mem_cons_of_mem _ hb')

theorem config_bind (c : Context Sim) (slot : Slot) (id : Id) :
    (ContextM.bind slot id c).2.config = c.config := by
  cases slot with
  | texture unit target =>
      exact (ContextM.config_bindSlot ..).trans (ContextM.config_bindSlot c .activeTexture unit)
  | _ => exact ContextM.config_bindSlot ..

theorem config_bindAll (c : Context Sim) (bs : List (Slot × Id)) :
    (c.bindAll bs).config = c.config := by
  induction bs generalizing c with
  | nil => rfl
  | cons b bs ih => exact (ih _).trans (config_bind c b.1 b.2)

/-! ## Binds by others -/

theorem bound_bypassed (ha : slot.Admits c.driver.live id)
    (hs : ∀ unit target, slot ≠ .texture unit target) (hr : r.IsRegister) :
    (c.bypassed slot id).driver.bound r =
      if r ∈ slot.registers then id
      else if slot = .vertexArray ∧ r = .elementArray then c.driver.elementBuffer id
      else c.driver.bound r := by
  have hadmits : slot.Admits (c.driver.record (.bind slot id)).live id := ha
  have hlocated : (c.driver.record (.bind slot id)).located slot = slot :=
    Sim.located_of_activeUnit fun unit target he => absurd he (hs unit target)
  change ((c.driver.record (.bind slot id)).bind slot id).bound r = _
  rw [Sim.bind_of_admits hadmits hlocated, Sim.bound_place _ _ _ hr]
  rfl

theorem truthful_notified_iff (h : c.Truthful) (ha : slot.Admits c.driver.live id)
    (hs : ∀ unit target, slot ≠ .texture unit target) : (c.notified slot id).Truthful ↔
      (slot = .vertexArray →
        ∀ x, c.cache.belief .elementArray = .bound x → c.driver.elementBuffer id = x) := by
  have hbelief (r : Slot) : (c.notified slot id).cache.belief r =
      if r ∈ slot.registers then .unknown else c.cache.belief r := BindingCache.belief_invalidate ..
  have hbound {r : Slot} (hr : r.IsRegister) : (c.notified slot id).driver.bound r = _ :=
    bound_bypassed ha hs hr
  constructor
  · rintro htrue rfl x hx
    have hregister : Slot.elementArray ∉ Slot.vertexArray.registers := by decide
    have hnow := htrue .elementArray x (by decide) ((hbelief _).trans ((if_neg hregister).trans hx))
    rw [hbound (by decide), if_neg hregister, if_pos ⟨rfl, rfl⟩] at hnow
    exact hnow
  · intro helement r x hr hb
    rw [hbelief] at hb
    rw [hbound hr]
    split at hb
    · cases hb
    · rename_i hm
      rw [if_neg hm]
      split
      · rename_i hv
        obtain ⟨hv, rfl⟩ := hv
        exact helement hv x hb
      · exact h r x hr hb

/-- After the notice the context knows what is bound, and no bind of its own misses from then on,
just if the slot was not that of vertex arrays, or the element buffer that the context knew is the
one of the new vertex array. Without a cache that may be trusted no bind misses at all. -/
theorem notice_repairs_iff (h : c.Truthful) (hs : ∀ unit target, slot ≠ .texture unit target)
    (ha : slot.Admits c.driver.live id) :
    ((c.notified slot id).Truthful ↔ (slot = .vertexArray →
      ∀ x, c.cache.belief .elementArray = .bound x → c.driver.elementBuffer id = x)) ∧
    ((∀ bs : List (Slot × Id), (∀ b ∈ bs, b.1.Admits c.driver.live b.2) →
        ∀ slot' x, ¬ ((c.notified slot id).bindAll bs).Misses slot' x) ↔
      (c.config.cacheBindings = true → (c.notified slot id).Truthful)) := by
  refine ⟨truthful_notified_iff h ha hs, fun hnone hc => ?_, fun htrue bs hbs slot' x => ?_⟩
  · exact truthful_of_not_misses hc fun slot' x => hnone [] (by simp) slot' x
  · intro hmisses
    have helided := (driver_bindSlot_iff.mp hmisses.1).1
    rw [config_bindAll] at helided
    have hlive : (c.notified slot id).driver.live = c.driver.live := Sim.live_bind ..
    exact ((htrue helided).bindAll (hlive ▸ hbs)).not_misses slot' x hmisses

/-- A driver with a vertex array, a buffer and a framebuffer, each with the name 1. -/
def furnished : Sim := (((Sim.fresh.gen .vertexArray).2.gen .buffer).2.gen .framebuffer).2

/-- A context that has bound the vertex array and its element buffer. -/
def indexing : Context Sim :=
  (Context.new furnished {}).bindAll [(.vertexArray, 1), (.elementArray, 1)]

theorem truthful_indexing : indexing.Truthful := by
  have hnew : (Context.new furnished {}).Truthful := truthful_of_unbound rfl rfl
  exact hnew.bindAll (by decide)

/-- After a bind of both framebuffers by others and its notice, the context may bind either. -/
theorem framebuffers_repaired : (indexing.notified (.framebuffer .combined) 1).Truthful ∧
    ∀ slot x, ¬ ((indexing.notified (.framebuffer .combined) 1).bindAll
      [(.framebuffer .draw, 0), (.elementArray, 0)]).Misses slot x := by
  obtain ⟨htrue, hnone⟩ :=
    @notice_repairs_iff indexing (.framebuffer .combined) 1 truthful_indexing (by simp) (by decide)
  have hrepaired := htrue.mpr (by simp)
  exact ⟨hrepaired, hnone.mpr (fun _ => hrepaired) _ (by decide)⟩

/-- After a bind of the default vertex array by others and its notice, the element buffer of the
other vertex array still counts as bound, and the context does not bind it to the default one. -/
theorem elementBuffer_missed : indexing.Truthful ∧ Slot.vertexArray.Admits indexing.driver.live 0 ∧
    (indexing.notified .vertexArray 0).Misses .elementArray 1 := by
  refine ⟨truthful_indexing, by decide, driver_bindSlot_iff.mpr (by decide), ?_⟩
  exact ⟨.elementArray, by decide, by decide⟩

end Context

end GraphicsObjects
