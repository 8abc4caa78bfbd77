import GraphicsObjects.Binding.Slot
import GraphicsObjects.Table

/-!
What a context believes to be bound to each register. A belief is a name or unknown; registers
without an entry of their own share one fallback belief.
-/

namespace GraphicsObjects

/-- A belief about one register. -/
inductive Belief where
  | bound (id : Id)
  | unknown
  deriving DecidableEq

/-- The beliefs of a context. Only binds that the context issues itself are seen. -/
structure BindingCache where
  entries : Table Slot Belief
  fallback : Belief
  deriving DecidableEq

namespace BindingCache

/-- At startup every register holds 0. -/
def fresh : BindingCache := ⟨.empty, .bound 0⟩

instance : Inhabited BindingCache := ⟨fresh⟩

/-- The belief about a register. -/
def belief (c : BindingCache) (register : Slot) : Belief := c.entries.getD register c.fallback

/-- Records one belief for all `registers`. -/
def record (c : BindingCache) (registers : List Slot) (b : Belief) : BindingCache :=
  { c with entries := registers.foldl (fun t r => t.insert r b) c.entries }

/-! ## Queries -/

/-- Whether `id` is believed to be bound to every register of `slot`. -/
def isActive (c : BindingCache) (slot : Slot) (id : Id) : Bool :=
  slot.registers.all fun r => c.belief r = .bound id

/-- The name believed to be bound to `slot`, 0 if unknown. The draw framebuffer answers for the
combined target. -/
def getActive (c : BindingCache) (slot : Slot) : Id :=
  match c.belief slot.primary with
  | .bound id => id
  | .unknown => 0

/-- The name bound to `slot`, if all its registers are known. -/
def knownBinding (c : BindingCache) (slot : Slot) : Option Id :=
  if slot.registers.any fun r => c.belief r = .unknown then none else some (c.getActive slot)

/-! ## Updates -/

/-- Forgets what is bound to `slot`. -/
def invalidate (c : BindingCache) (slot : Slot) : BindingCache := c.record slot.registers .unknown

/-- Records `id` as bound to `slot`. The element array binding belongs to the vertex array, so it
is unknown after a change of vertex array. -/
def setActive (c : BindingCache) (slot : Slot) (id : Id) : BindingCache :=
  let c := c.record slot.registers (.bound id)
  if slot = .vertexArray then c.invalidate .elementArray else c

/-- Forgets everything. -/
def invalidateAll (_ : BindingCache) : BindingCache := ⟨.empty, .unknown⟩

/-- Resets to 0 the entries that hold a destroyed object, since the driver unbinds it and may give
its name to another. -/
def forgetObject (c : BindingCache) (kind : Kind) (id : Id) : BindingCache :=
  { c with entries := c.entries.mapValues fun slot b =>
      if slot.kind? = some kind ∧ b = .bound id then .bound 0 else b }

/-! ## What the updates do to the beliefs -/

@[simp] theorem belief_fresh (r : Slot) : fresh.belief r = .bound 0 := rfl

theorem belief_record (c : BindingCache) (rs : List Slot) (b : Belief) (r : Slot) :
    (c.record rs b).belief r = if r ∈ rs then b else c.belief r := by
  obtain ⟨es, d⟩ := c
  induction rs generalizing es with
  | nil => simp [record, belief]
  | cons s rs ih =>
    have := ih (es.insert s b)
    simp only [record, belief, Table.getD, List.foldl_cons, List.mem_cons] at this ⊢
    rw [this, Table.get?_insert]
    by_cases h : r ∈ rs <;> by_cases hs : r = s <;> simp [h, hs]

theorem belief_invalidate (c : BindingCache) (slot r : Slot) :
    (c.invalidate slot).belief r = if r ∈ slot.registers then .unknown else c.belief r :=
  belief_record ..

theorem belief_setActive (c : BindingCache) (slot : Slot) (id : Id) (r : Slot) :
    (c.setActive slot id).belief r =
      if r ∈ slot.registers then .bound id
      else if slot = .vertexArray ∧ r = .elementArray then .unknown
      else c.belief r := by
  unfold setActive
  split
  · rename_i h
    subst h
    rw [belief_invalidate, belief_record]
    by_cases hr : r = .elementArray <;> simp_all [Slot.registers]
  · rename_i h
    rw [belief_record]
    simp [h]

@[simp] theorem belief_invalidateAll (c : BindingCache) (r : Slot) :
    c.invalidateAll.belief r = .unknown := rfl

theorem belief_forgetObject (c : BindingCache) (kind : Kind) (id : Id) (r : Slot) :
    (c.forgetObject kind id).belief r =
      match c.entries.get? r with
      | some b => if r.kind? = some kind ∧ b = .bound id then .bound 0 else b
      | none => c.fallback := by
  simp only [forgetObject, belief, Table.getD, Table.get?_mapValues]
  cases c.entries.get? r <;> rfl

end BindingCache

end GraphicsObjects
