import GraphicsObjects.Proofs.Context.Work

/-!
# Binding in a context

After a bind in a context the registers of the slot hold the object, whether the bind was issued or
left out, and the rest of what is held is as before. Guards restore what was bound.
-/

namespace GraphicsObjects

namespace Slot

/-- The registers that the driver changes in a bind to the slot. -/
def written : Slot → List Slot
  | vertexArray => [vertexArray, elementArray]
  | s => s.registers

/-- The registers that a context changes in a bind to the slot: a texture comes with its unit. -/
def touched : Slot → List Slot
  | texture unit target => [texture unit target, activeTexture]
  | s => s.written

/-- What is bound after a bind in a context. -/
def holding (slot : Slot) (id : Id) : List (Slot × Id) :=
  match slot with
  | texture unit target => [(texture unit target, id), (activeTexture, unit)]
  | s => s.registers.map (·, id)

/-- A bind to the slot leaves alone what is held. -/
def Spares (slot : Slot) (held : List (Slot × Id)) : Prop :=
  ∀ h ∈ held, h.1.IsRegister ∧ h.1 ∉ slot.touched

theorem spares_nil (slot : Slot) : slot.Spares [] := nofun

theorem spares_cons {slot r : Slot} {id : Id} {held : List (Slot × Id)} (hr : r.IsRegister)
    (ht : r ∉ slot.touched) (h : slot.Spares held) : slot.Spares ((r, id) :: held) := by
  intro x hx
  rcases List.mem_cons.mp hx with rfl | hx
  · exact ⟨hr, ht⟩
  · exact h x hx

end Slot

namespace Sim

variable {s : Sim} {slot r : Slot} {id : Id}

theorem bound_place_of_mem (s : Sim) (h : r ∈ slot.registers) : (s.place slot id).bound r = id := by
  rw [bound_place _ _ _ (Slot.isRegister_of_mem_registers h), if_pos h]

theorem bound_place_of_not_mem (s : Sim) (hr : r.IsRegister) (h : r ∉ slot.written) :
    (s.place slot id).bound r = s.bound r := by
  rw [bound_place _ _ _ hr]
  cases slot with
  | vertexArray =>
      simp only [Slot.written, List.mem_cons, List.not_mem_nil, or_false, not_or] at h
      rw [if_neg (by simpa [Slot.registers] using h.1), if_neg fun e => h.2 e.2]
  | _ => exact (if_neg h).trans (if_neg fun e => by cases e.1)

end Sim

namespace ContextM

open Sim

variable {α : Type} {live : List (Kind × Id)} {may : Kind → Id → Prop}
variable {held : List (Slot × Id)} {slot : Slot} {id : Id}

/-! ## Binds -/

/-- The context after a bind that was issued. -/
def issued (c : Context Sim) (slot : Slot) (id : Id) : Context Sim :=
  { c with
    driver := (c.driver.record (.bind slot id)).bind slot id
    cache := c.cache.setActive slot id
    trace := c.trace ++ [.bind slot id] ++ [] }

theorem bindSlot_eq (c : Context Sim) (slot : Slot) (id : Id) :
    (bindSlot slot id c).2 =
      if c.config.cacheBindings && c.cache.isActive slot id then (note (.bindElided slot id) c).2
      else issued c slot id := by
  unfold bindSlot
  change ((if _ then _ else _ : ContextM Sim Unit) c).2 = _
  split <;> rfl

theorem config_bindSlot (c : Context Sim) (slot : Slot) (id : Id) :
    (bindSlot slot id c).2.config = c.config := by
  rw [bindSlot_eq]
  split <;> rfl

/-- After a bind its object is believed to be bound, whether the bind was issued or left out. -/
theorem isActive_bindSlot (c : Context Sim) (slot : Slot) (id : Id) :
    (bindSlot slot id c).2.cache.isActive slot id = true := by
  rw [bindSlot_eq]
  split
  · rename_i h
    exact (Bool.and_eq_true_iff.mp h).2
  · refine List.all_eq_true.mpr fun r hr => decide_eq_true ?_
    exact (BindingCache.belief_setActive ..).trans (if_pos hr)

theorem belief_bindSlot {r : Slot} (c : Context Sim) (id : Id) (hr : r ∉ slot.registers)
    (he : r ≠ .elementArray) : (bindSlot slot id c).2.cache.belief r = c.cache.belief r := by
  rw [bindSlot_eq]
  split
  · rfl
  · refine (BindingCache.belief_setActive ..).trans ?_
    rw [if_neg hr, if_neg fun e => he e.2]

theorem work_bindSlot (ha : slot.Admits live id)
    (hu : ∀ unit target, slot = .texture unit target → (.activeTexture, unit) ∈ held)
    (hs : ∀ h ∈ held, h.1.IsRegister ∧ h.1 ∉ slot.written) (hw : Within held may (.bind slot id)) :
    Work live may held (slot.registers.map (·, id) ++ held) (bindSlot slot id) := by
  intro c h
  rw [bindSlot_eq]
  split
  · rename_i helided
    have hactive : c.cache.isActive slot id = true := (Bool.and_eq_true_iff.mp helided).2
    have hnote : (Event.bindElided slot id).deletion? = none := rfl
    obtain ⟨hready, hkept⟩ := work_note hnote c h
    refine ⟨⟨hready.live, hready.coherent, fun x hx => ?_⟩, hkept⟩
    rcases List.mem_append.mp hx with hx | hx
    · obtain ⟨r, hr, rfl⟩ := List.mem_map.mp hx
      exact h.coherent.bound_of_isActive hactive hr
    · exact hready.held x hx
  · have hl : (c.driver.record (.bind slot id)).located slot = slot :=
      located_of_activeUnit fun unit target he => h.held _ (hu unit target he)
    have hadmits : slot.Admits (c.driver.record (.bind slot id)).live id := h.live ▸ ha
    have hcoherent : c.cache.Coherent (c.driver.record (.bind slot id)) :=
      h.coherent.congr rfl fun _ ho => ho
    refine ⟨⟨(live_bind ..).trans h.live, hcoherent.bind hadmits hl, fun x hx => ?_⟩, ?_⟩
    · change ((c.driver.record _).bind slot id).bound x.1 = x.2
      rw [bind_of_admits hadmits hl]
      rcases List.mem_append.mp hx with hx | hx
      · obtain ⟨r, hr, rfl⟩ := List.mem_map.mp hx
        exact bound_place_of_mem _ hr
      · rw [bound_place_of_not_mem _ (hs x hx).1 (hs x hx).2]
        exact h.held x hx
    · refine ⟨rfl, pools_bind .., ?_, ?_, ⟨[(slot, id)], ?_, ?_⟩, ?_⟩
      · change List.filterMap _ ((c.driver.record _).bind slot id).calls = _
        rw [calls_bind]
        exact deleted_receive _ (.bind slot id)
      · change deletions (c.trace ++ [.bind slot id] ++ []) = _
        rw [List.append_nil]
        exact deletions_note _ rfl
      · change List.filterMap _ ((c.driver.record _).bind slot id).calls = _
        rw [calls_bind]
        simp [record, bindCalls]
      · intro b hb
        rw [List.mem_singleton.mp hb]
        exact ha
      · intro k i hm
        exact (stateOf_bind _ _ _ hadmits hl fun haim => hm (hw _ h.held k i haim)).trans
          (stateOf_receive c.driver (.bind slot id) k i)

/-- Of all binds, only those of an element buffer change contents. -/
theorem within_bind (h : slot ≠ .elementArray) : Within held may (.bind slot id) := by
  intro s _ k i haim
  simp only [aim] at haim
  split at haim <;> simp_all

theorem within_rebind {x : Id} (h : Within held may (.bind slot id)) :
    Within held may (.bind slot x) := by
  intro s hs k i haim
  refine h s hs k i (Eq.trans ?_ haim)
  unfold aim
  split <;> simp_all

theorem work_bind (ha : slot.Admits live id) (hs : slot.Spares held)
    (hw : Within held may (.bind slot id)) :
    Work live may held (slot.holding id ++ held) (ContextM.bind slot id) := by
  cases slot with
  | texture unit target =>
      -- the unit is activated first and stays active while the texture is bound
      have hne : Slot.texture unit target ≠ .elementArray := by simp
      have hunit : Work live may held ([(.activeTexture, unit)] ++ held)
          (bindSlot .activeTexture unit) := by
        refine work_bindSlot (Slot.admits_unit ..) (by simp) (fun h hh => ?_)
          (within_bind (by simp))
        refine ⟨(hs h hh).1, fun hm => (hs h hh).2 ?_⟩
        exact List.mem_cons_of_mem _ hm
      refine .bind hunit fun _ => work_bindSlot ha ?_ ?_ (within_bind hne)
      · intro u t he
        cases he
        exact List.mem_cons_self
      · intro h hh
        rcases List.mem_cons.mp hh with rfl | hh
        · exact ⟨by simp [Slot.IsRegister], by simp [Slot.written, Slot.registers]⟩
        · refine ⟨(hs h hh).1, fun hm => (hs h hh).2 ?_⟩
          rw [List.mem_singleton.mp hm]
          exact List.mem_cons_self
  | _ => exact work_bindSlot ha (by simp) hs hw

/-! ## Guards -/

end ContextM

/-- What the guard restores, if anything, may be bound while `live` live. -/
def Guard.Restorable (live : List (Kind × Id)) (g : Guard) : Prop :=
  g.restore = true → ∀ id, g.previous = some id → g.slot.Admits live id

instance (live : List (Kind × Id)) (g : Guard) : Decidable (g.Restorable live) :=
  inferInstanceAs (Decidable (_ → ∀ id ∈ g.previous, _))

theorem Guard.Restorable.mono {live live' : List (Kind × Id)} {g : Guard} (h : g.Restorable live)
    (hl : ∀ n ∈ live, n ∈ live') : g.Restorable live' :=
  fun hr id hp => (h hr id hp).mono fun _ _ hm => hl _ hm

namespace ContextM

variable {α : Type} {live : List (Kind × Id)} {may : Kind → Id → Prop}
variable {held : List (Slot × Id)} {slot : Slot} {id : Id}

theorem work_acquire (ha : slot.Admits live id) (hs : slot.Spares held)
    (hw : Sim.Within held may (.bind slot id)) :
    Work live may held (slot.holding id ++ held) (acquire slot id) :=
  .bind .get fun _ => .bind (work_bind ha hs hw) fun _ => .pure _

/-- What was bound when a guard was acquired may be bound as long as all that lived lives. -/
theorem restorable_acquire {c : Context Sim} (h : c.Ready live held) (slot : Slot) (id : Id) :
    (acquire slot id c).1.Restorable live := by
  intro _ x hx
  exact h.live ▸ h.coherent.admits_of_knownBinding hx

theorem work_release {g : Guard} (hg : g.Restorable live) (hs : g.slot.Spares held)
    (hw : Sim.Within held may (.bind g.slot 0)) : Work live may held held (release g) := by
  unfold release
  split
  · rename_i id hid
    split
    · rename_i hrestore
      exact (work_bind (hg hrestore id hid) hs (within_rebind hw)).forget
    · exact .pure _
  · exact .pure _

theorem holding_snd (act : ContextM Sim α) (slot : Slot) (id : Id) (c : Context Sim) :
    (holding slot id act c).2 =
      (release (acquire slot id c).1 (act (acquire slot id c).2).2).2 :=
  rfl

/-- Work with an object bound leaves what the release of the guard makes of what the work leaves. -/
theorem work_holding_leaving {act : ContextM Sim α} {left held' : List (Slot × Id)}
    (ha : slot.Admits live id) (hs : slot.Spares held) (hw : Sim.Within held may (.bind slot 0))
    (hact : Work live may (slot.holding id ++ held) left act)
    (hrelease : ∀ g : Guard, g.slot = slot → g.Restorable live →
      Work live may left held' (release g)) :
    Work live may held held' (holding slot id act) := by
  intro c h
  obtain ⟨h₁, hk₁⟩ := work_acquire ha hs (within_rebind hw) c h
  obtain ⟨h₂, hk₂⟩ := hact _ h₁
  obtain ⟨h₃, hk₃⟩ := hrelease _ rfl (restorable_acquire h slot id) _ h₂
  exact ⟨h₃, (hk₁.trans hk₂).trans hk₃⟩

/-- Work with an object bound: whatever else is held stays so, also when the binding is restored. -/
theorem work_holding {act : ContextM Sim α} (ha : slot.Admits live id) (hs : slot.Spares held)
    (hw : Sim.Within held may (.bind slot 0))
    (hact : Work live may (slot.holding id ++ held) (slot.holding id ++ held) act) :
    Work live may held held (holding slot id act) :=
  work_holding_leaving ha hs hw hact.forget fun g hg hrestorable => by
    subst hg
    exact work_release hrestorable hs hw

theorem work_interrupted (ha : slot.Admits live id) (hs : slot.Spares held)
    (hw : Sim.Within held may (.bind slot 0)) :
    Work live may held held (interrupted slot id) :=
  work_holding ha hs hw (.pure _)

/-! ## Forgetting -/

theorem work_updateCache {f : BindingCache → BindingCache}
    (hf : ∀ (c : BindingCache) (s : Sim), c.Coherent s → (f c).Coherent s) :
    Work live may held held (updateCache f) :=
  fun c h => ⟨⟨h.live, hf _ _ h.coherent, h.held⟩, { Context.Kept.refl live may c with }⟩

theorem work_invalidateBinding (slot : Slot) : Work live may held held (invalidateBinding slot) :=
  work_updateCache fun _ _ h => h.invalidate slot

theorem work_invalidateBindings : Work live may held held invalidateBindings :=
  .bind (work_note rfl) fun _ => work_updateCache fun c s _ => .invalidateAll c s

/-! ## Queries -/

theorem work_getInteger (parameter : Enumerant) :
    Work live may held held (getInteger parameter : ContextM Sim Int) :=
  work_perform trivial nofun

theorem work_maxTextureUnits : Work live may held held (maxTextureUnits : ContextM Sim Nat) := by
  unfold maxTextureUnits
  refine .bind .get fun c => ?_
  split
  · exact .pure _
  · refine .bind (work_getInteger _) fun _ => .bind (work_modify ?_ ?_ ?_ ?_) fun _ => .pure _
    · exact fun _ => rfl
    · exact fun _ => rfl
    · exact fun _ => rfl
    · exact fun _ => rfl

theorem work_pixelStore (direction : PixelDirection) :
    Work live may held held (pixelStore direction : ContextM Sim PixelStore) :=
  .map _ (.mapM _ work_getInteger)

end ContextM

end GraphicsObjects
