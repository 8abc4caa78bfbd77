import GraphicsObjects.Proofs.Binding.Elements

/-!
# The cache as a total map

The cache stores a belief for some registers and one belief for all others. Seen through its
queries it is a total map from registers to names, in which an update reaches every register it is
about, whether or not the cache has stored anything for it.
-/

namespace GraphicsObjects

/-- A single place of the driver. The combined framebuffer target is not one, it is two. -/
abbrev Register : Type := { slot : Slot // slot.IsRegister }

namespace Slot

/-- The registers that a bind to the slot writes. -/
def places (slot : Slot) : List Register :=
  slot.registers.pmap Subtype.mk fun _ => isRegister_of_mem_registers

/-- The register that answers for the slot. -/
def answering (slot : Slot) : Register :=
  ⟨slot.primary, isRegister_of_mem_registers slot.primary_mem_registers⟩

end Slot

/-- For every register the name that is bound to it, or nothing when that is unknown. -/
abbrev RegisterMap : Type := Register → Option Id

namespace RegisterMap

/-- At startup every register holds 0. -/
def fresh : RegisterMap := fun _ => some 0

/-! ## Queries -/

def isActive (m : RegisterMap) (slot : Slot) (id : Id) : Bool :=
  slot.places.all fun r => m r = some id

def getActive (m : RegisterMap) (slot : Slot) : Id := (m slot.answering).getD 0

def knownBinding (m : RegisterMap) (slot : Slot) : Option Id :=
  if slot.places.all fun r => (m r).isSome then m slot.answering else none

/-! ## Updates -/

/-- A bind writes all registers of the slot. The element array binding belongs to the vertex array,
so a bind of the vertex array makes it unknown. -/
def setActive (m : RegisterMap) (slot : Slot) (id : Id) : RegisterMap := fun r =>
  if r.val ∈ slot.registers then some id
  else if slot = .vertexArray ∧ r.val = .elementArray then none
  else m r

def invalidate (m : RegisterMap) (slot : Slot) : RegisterMap := fun r =>
  if r.val ∈ slot.registers then none else m r

def invalidateAll (_ : RegisterMap) : RegisterMap := fun _ => none

/-- A destroyed object leaves 0 in every register that holds it. -/
def forgetObject (m : RegisterMap) (kind : Kind) (id : Id) : RegisterMap := fun r =>
  if r.val.kind? = some kind ∧ m r = some id then some 0 else m r

def apply (m : RegisterMap) : BindingCache.Update → RegisterMap
  | .setActive slot id => m.setActive slot id
  | .invalidate slot => m.invalidate slot
  | .invalidateAll => m.invalidateAll
  | .forgetObject kind id => m.forgetObject kind id

def after (us : List BindingCache.Update) : RegisterMap := us.foldl apply fresh

end RegisterMap

/-- The name that is believed, if there is one. -/
def Belief.known? : Belief → Option Id
  | .bound id => some id
  | .unknown => none

@[simp] theorem Belief.known?_eq_some {b : Belief} {id : Id} :
    b.known? = some id ↔ b = .bound id := by
  cases b <;> simp [known?]

@[simp] theorem Belief.isSome_known? {b : Belief} : b.known?.isSome = decide (b ≠ .unknown) := by
  cases b <;> simp [known?]

namespace BindingCache

/-- `m` says of every register what the cache believes of it. A destruction rewrites stored beliefs
only. That is enough because the belief shared by all other registers is never a live name. -/
structure Represents (c : BindingCache) (m : RegisterMap) : Prop where
  fallback : ∀ id, c.fallback = .bound id → id = 0
  known : ∀ r, m r = (c.belief r.val).known?

variable {c : BindingCache} {m : RegisterMap} {us : List Update} {slot : Slot} {id : Id}

/-! ## Queries -/

theorem Represents.all_places (h : c.Represents m) (p : Option Id → Bool) (slot : Slot) :
    (slot.places.all fun r => p (m r)) =
      slot.registers.all fun r => p (c.belief r).known? := by
  rw [Slot.places, Bool.eq_iff_iff, List.all_eq_true, List.all_eq_true]
  constructor
  · intro hall r hr
    have hplace := hall ⟨r, Slot.isRegister_of_mem_registers hr⟩ (List.mem_pmap.mpr ⟨r, hr, rfl⟩)
    rwa [h.known] at hplace
  · intro hall r hr
    obtain ⟨s, hs, rfl⟩ := List.mem_pmap.mp hr
    rw [h.known]
    exact hall s hs

theorem Represents.isActive_eq (h : c.Represents m) : c.isActive slot id = m.isActive slot id := by
  rw [RegisterMap.isActive, h.all_places fun v => v = some id]
  simp [isActive]

theorem Represents.getActive_eq (h : c.Represents m) : c.getActive slot = m.getActive slot := by
  rw [RegisterMap.getActive, h.known, getActive]
  cases hb : c.belief slot.primary <;> simp [Slot.answering, hb, Belief.known?]

theorem Represents.knownBinding_eq (h : c.Represents m) :
    c.knownBinding slot = m.knownBinding slot := by
  rw [RegisterMap.knownBinding, h.all_places Option.isSome, knownBinding]
  by_cases hu : ∃ r ∈ slot.registers, c.belief r = .unknown
  · obtain ⟨r, hr, hb⟩ := hu
    rw [if_pos (by simpa using ⟨r, hr, hb⟩), if_neg (by simpa using ⟨r, hr, hb⟩)]
  · have hknown : ∀ r ∈ slot.registers, c.belief r ≠ .unknown := by simpa using hu
    rw [if_neg (by simpa using hknown), if_pos (by simpa using hknown)]
    have hprimary := hknown _ slot.primary_mem_registers
    rw [h.known, getActive, Slot.answering]
    cases hb : c.belief slot.primary with
    | unknown => exact absurd hb hprimary
    | bound y => rfl

/-! ## Updates -/

theorem Represents.fresh : BindingCache.fresh.Represents RegisterMap.fresh where
  fallback id h := by cases h; rfl
  known r := by rw [belief_fresh]; rfl

theorem Represents.setActive (h : c.Represents m) (slot : Slot) (id : Id) :
    (c.setActive slot id).Represents (m.setActive slot id) where
  fallback y hy := by
    rw [fallback_setActive] at hy
    exact h.fallback y hy
  known r := by
    rw [belief_setActive, RegisterMap.setActive, h.known]
    split
    · rfl
    · split <;> rfl

theorem Represents.invalidate (h : c.Represents m) (slot : Slot) :
    (c.invalidate slot).Represents (m.invalidate slot) where
  fallback := h.fallback
  known r := by
    rw [belief_invalidate, RegisterMap.invalidate, h.known]
    split <;> rfl

theorem Represents.invalidateAll (c : BindingCache) (m : RegisterMap) :
    c.invalidateAll.Represents m.invalidateAll where
  fallback _ hy := by cases hy
  known r := by rw [belief_invalidateAll]; rfl

theorem Represents.forgetObject (h : c.Represents m) (kind : Kind) (id : Id) :
    (c.forgetObject kind id).Represents (m.forgetObject kind id) where
  fallback := h.fallback
  known r := by
    have hold := h.known r
    rw [belief, Table.getD] at hold
    rw [belief_forgetObject, RegisterMap.forgetObject, hold]
    cases c.entries.get? r.val with
    | some b =>
        by_cases hgone : r.val.kind? = some kind ∧ b = .bound id
        · simp [hgone, Belief.known?]
        · simp [hgone]
    | none =>
        -- no stored belief is rewritten, and a name shared by such registers is 0 already
        cases hd : c.fallback with
        | unknown => simp [Belief.known?]
        | bound y => simp [Belief.known?, h.fallback y hd]

theorem Represents.apply (h : c.Represents m) (u : Update) :
    (u.apply c).Represents (m.apply u) := by
  cases u with
  | setActive slot id => exact h.setActive slot id
  | invalidate slot => exact h.invalidate slot
  | invalidateAll => exact .invalidateAll c m
  | forgetObject kind id => exact h.forgetObject kind id

theorem represents_after (us : List Update) : (after us).Represents (RegisterMap.after us) := by
  induction us using List.reverseRecOn with
  | nil => exact .fresh
  | append_singleton us u ih =>
      rw [after, RegisterMap.after, List.foldl_append, List.foldl_append]
      exact ih.apply u

/-- After any updates, every query answers what the total map answers. -/
theorem queries_eq (us : List Update) (slot : Slot) (id : Id) :
    (after us).isActive slot id = (RegisterMap.after us).isActive slot id ∧
      (after us).getActive slot = (RegisterMap.after us).getActive slot ∧
      (after us).knownBinding slot = (RegisterMap.after us).knownBinding slot := by
  have h := represents_after us
  exact ⟨h.isActive_eq, h.getActive_eq, h.knownBinding_eq⟩

end BindingCache

end GraphicsObjects
