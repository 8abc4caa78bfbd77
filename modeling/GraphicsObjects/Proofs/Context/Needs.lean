import GraphicsObjects.Proofs.Context.Foreign
import GraphicsObjects.Proofs.Context.Nesting

/-!
# Binds that reach the driver

A context that trusts its cache hands a bind to the driver just if the bind is needed. A bind of a
texture is two binds, of which either may be needed without the other.
-/

namespace GraphicsObjects

open Simulation

namespace Context

variable {c : Context Sim} {slot r : Slot} {id : Id}

/-- A bind to the slot is needed: one of its registers holds something else, or what it holds is not
known. -/
def Needs (c : Context Sim) (slot : Slot) (id : Id) : Prop :=
  ∃ r ∈ slot.registers, c.cache.belief r = .unknown ∨ c.driver.bound r ≠ id

instance (c : Context Sim) (slot : Slot) (id : Id) : Decidable (c.Needs slot id) :=
  inferInstanceAs (Decidable (∃ r ∈ slot.registers, _))

/-- The bind to the slot, if it is needed. -/
def needed (c : Context Sim) (slot : Slot) (id : Id) : List (Slot × Id) :=
  if c.Needs slot id then [(slot, id)] else []

/-- The bind that makes the unit of a texture active, if it is needed. -/
def activation (c : Context Sim) : Slot → List (Slot × Id)
  | .texture unit _ => c.needed .activeTexture unit
  | _ => []

/-- Where all registers are known, a bind is needed just if one of them holds another name. -/
theorem needs_iff_of_known (hk : ∀ r ∈ slot.registers, c.cache.belief r ≠ .unknown) :
    c.Needs slot id ↔ ∃ r ∈ slot.registers, c.driver.bound r ≠ id := by
  constructor
  · rintro ⟨r, hr, hu | hne⟩
    · exact absurd hu (hk r hr)
    · exact ⟨r, hr, hne⟩
  · rintro ⟨r, hr, hne⟩
    exact ⟨r, hr, .inr hne⟩

/-- What is needed is what the cache does not take to be bound. -/
theorem Truthful.needs_iff (h : c.Truthful) :
    c.Needs slot id ↔ c.cache.isActive slot id = false := by
  rw [Bool.eq_false_iff]
  constructor
  · rintro ⟨r, hr, hu | hne⟩ hactive
    · cases hu.symm.trans (BindingCache.belief_of_isActive hactive hr)
    · exact hne (h.bound_of_isActive hactive hr)
  · intro hinactive
    by_contra hno
    apply hinactive
    apply List.all_eq_true.mpr
    intro r hr
    cases hb : c.cache.belief r with
    | unknown => exact absurd ⟨r, hr, .inl hb⟩ hno
    | bound x =>
        have hx := h r x (Slot.isRegister_of_mem_registers hr) hb
        have hid : c.driver.bound r = id := by
          by_contra hne
          exact hno ⟨r, hr, .inr hne⟩
        rw [← hx, hid]
        simp

/-! ## One bind -/

/-- One bind is issued just if it is needed. -/
theorem Truthful.bindCalls_bindSlot (h : c.Truthful) (hc : c.config.cacheBindings = true) :
    (ContextM.bindSlot slot id c).2.driver.bindCalls =
      c.driver.bindCalls ++ c.needed slot id := by
  rw [ContextM.bindSlot_eq, hc, Bool.true_and, needed]
  by_cases hneed : c.Needs slot id
  · rw [if_neg (by simp [h.needs_iff.mp hneed]), if_pos hneed]
    change List.filterMap _ ((c.driver.record (.bind slot id)).bind slot id).calls = _
    rw [Sim.calls_bind]
    simp [Sim.record, Sim.bindCalls]
  · have hactive : c.cache.isActive slot id = true := by simpa [h.needs_iff] using hneed
    rw [if_pos hactive, if_neg hneed, List.append_nil]
    rfl

/-- Whether a texture must be bound does not depend on the unit that is active. -/
theorem needed_activate (c : Context Sim) (active unit : Nat) (target : TextureTarget) (id : Id) :
    (ContextM.bindSlot .activeTexture active c).2.needed (.texture unit target) id =
      c.needed (.texture unit target) id := by
  have hbelief : (ContextM.bindSlot .activeTexture active c).2.cache.belief (.texture unit target) =
      c.cache.belief (.texture unit target) :=
    ContextM.belief_bindSlot c active (by simp [Slot.registers]) (by simp)
  have hbound : (ContextM.bindSlot .activeTexture active c).2.driver.bound (.texture unit target) =
      c.driver.bound (.texture unit target) := by
    rw [ContextM.bindSlot_eq]
    split
    · rfl
    · change ((c.driver.record _).bind _ _).bound _ = _
      rw [Sim.bind_of_admits (Slot.admits_unit ..) rfl]
      apply Sim.bound_place_of_not_mem
      · simp [Slot.IsRegister]
      · simp [Slot.written, Slot.registers]
  simp [needed, Needs, Slot.registers, hbelief, hbound]

/-! ## Binds of any slot -/

theorem Truthful.bindCalls_bind (h : c.Truthful) (hc : c.config.cacheBindings = true) :
    (ContextM.bind slot id c).2.driver.bindCalls =
      c.driver.bindCalls ++ c.activation slot ++ c.needed slot id := by
  cases slot with
  | texture unit target =>
      have hunit : (ContextM.bindSlot .activeTexture unit c).2.Truthful :=
        h.bindSlot (Slot.admits_unit ..) rfl
      have hconfig := (congrArg Config.cacheBindings
        (ContextM.config_bindSlot c .activeTexture unit)).trans hc
      refine (hunit.bindCalls_bindSlot hconfig).trans ?_
      rw [h.bindCalls_bindSlot hc, activation, needed_activate]
  | _ =>
      refine (h.bindCalls_bindSlot hc).trans ?_
      simp [activation]

/-- After a bind the registers of the slot hold the object, whether it was issued or left out. -/
theorem Truthful.holds_bind (h : c.Truthful) (ha : slot.Admits c.driver.live id)
    (hr : r ∈ slot.registers) : (ContextM.bind slot id c).2.Holds r id := by
  have hactive := ContextM.isActive_bind c slot id
  exact ⟨BindingCache.belief_of_isActive hactive hr, (h.bind ha).1.bound_of_isActive hactive hr⟩

/-- The unit of a texture is made active just if another one is, where that is known. -/
theorem activation_iff_of_known {unit : Nat} {target : TextureTarget}
    (hk : c.cache.belief .activeTexture ≠ .unknown) :
    c.activation (.texture unit target) = [(.activeTexture, unit)] ↔
      c.driver.activeUnit ≠ unit := by
  have hneeds : c.Needs .activeTexture unit ↔ c.driver.activeUnit ≠ unit := by
    rw [needs_iff_of_known (by simpa [Slot.registers] using hk)]
    simp [Slot.registers, Sim.activeUnit]
  rw [activation, needed, ← hneeds]
  simp

/-- A context that trusts its cache binds what is needed and nothing else: the unit of a texture,
then the slot itself. In the end the registers of the slot hold the object. -/
theorem bind_issues_needed (h : c.Truthful) (hc : c.config.cacheBindings = true)
    (ha : slot.Admits c.driver.live id) :
    (ContextM.bind slot id c).2.driver.bindCalls =
        c.driver.bindCalls ++ c.activation slot ++ c.needed slot id ∧
      ((∀ r ∈ slot.registers, c.cache.belief r ≠ .unknown) →
        (c.needed slot id = [(slot, id)] ↔ ∃ r ∈ slot.registers, c.driver.bound r ≠ id)) ∧
      ((∃ r ∈ slot.registers, c.cache.belief r = .unknown) → c.needed slot id = [(slot, id)]) ∧
      (∀ unit target, slot = .texture unit target → c.cache.belief .activeTexture ≠ .unknown →
        (c.activation slot = [(.activeTexture, unit)] ↔ c.driver.activeUnit ≠ unit)) ∧
      ∀ r ∈ slot.registers, (ContextM.bind slot id c).2.Holds r id := by
  refine ⟨h.bindCalls_bind hc, fun hk => ?_, ?_, ?_, fun r hr => h.holds_bind ha hr⟩
  · rw [needed, ← needs_iff_of_known hk]
    simp
  · rintro ⟨r, hr, hu⟩
    exact if_pos ⟨r, hr, .inl hu⟩
  · rintro unit target rfl hk
    exact activation_iff_of_known hk

/-- A context that has bound a texture to unit 0 and works on unit 1. -/
def texturing : Context Sim :=
  (Context.new (Sim.fresh.gen .texture).2 {}).bindAll
    [(.texture 0 .texture2D, 1), (.texture 1 .texture2D, 0)]

/-- To bind the texture to unit 0 again only the unit is bound. -/
theorem unit_bound_without_texture :
    (ContextM.bind (.texture 0 .texture2D) 1 texturing).2.driver.bindCalls =
        texturing.driver.bindCalls ++ [(.activeTexture, 0)] ∧
      (ContextM.bind (.texture 0 .texture2D) 1 texturing).2.Holds (.texture 0 .texture2D) 1 := by
  have hnew : (Context.new (Sim.fresh.gen .texture).2 {}).Truthful := truthful_of_unbound rfl rfl
  have htrue : texturing.Truthful := hnew.bindAll (by decide)
  have hadmits : (Slot.texture 0 .texture2D).Admits texturing.driver.live 1 := by decide
  obtain ⟨hcalls, -, -, -, hholds⟩ := bind_issues_needed htrue rfl hadmits
  have hnone : texturing.needed (.texture 0 .texture2D) 1 = [] := by decide
  have hunit : texturing.activation (.texture 0 .texture2D) = [(.activeTexture, 0)] := by decide
  rw [hnone, hunit, List.append_nil] at hcalls
  exact ⟨hcalls, hholds _ List.mem_cons_self⟩

end Context

end GraphicsObjects
