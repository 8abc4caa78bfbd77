import GraphicsObjects.Proofs.Context.Nesting
import GraphicsObjects.Proofs.Object.Buffers
import GraphicsObjects.Proofs.Object.Framebuffers
import GraphicsObjects.Proofs.Simulation.Runs

/-!
# Registers after the update of a buffer

An element buffer is updated under two guards, of which the outer one makes the element array
binding unknown if it is issued. The inner one restores nothing then, and the release of the outer
one brings back what the vertex array has recorded. That is what was bound before, unless no vertex
array was bound: then the buffer itself has been recorded meanwhile.
-/

namespace GraphicsObjects

open ContextM Sim Simulation

variable {α : Type} {live : List (Kind × Id)} {c : Context Sim} {slot r : Slot} {id v e x : Id}
variable {b : Buffer} {q : Request} {site : Site}

namespace ContextM

/-! ## One guard -/

/-- What was known to be bound to the slot of a guard is bound there again, whatever was done in
between. -/
theorem isActive_holding (act : ContextM Sim α) (hr : slot.IsRegister)
    (hk : c.cache.belief slot = .bound x) (hs : c.config.strictUnbind = true) (id : Id) :
    (holding slot id act c).2.cache.isActive slot x = true := by
  rw [holding_snd, acquire_known hr hk hs]
  exact isActive_bind _ slot x

theorem belief_holding {act : ContextM Sim α} (hact : Neutral act) (c : Context Sim) (id : Id)
    (hr : r.Lasting) (hn : r ∉ slot.registers) :
    (holding slot id act c).2.cache.belief r = c.cache.belief r := by
  have hacquire : (acquire slot id c).2.cache.belief r = c.cache.belief r := belief_bind c id hr hn
  have hcache := congrArg (·.belief r) (hact (acquire slot id c).2).2
  have hslot : r ∉ (acquire slot id c).1.slot.registers := hn
  exact (belief_release _ hr hslot).trans (hcache.trans hacquire)

/-! ## Binds that are issued -/

theorem driver_issued (ha : slot.Admits c.driver.live id)
    (ht : ∀ unit target, slot ≠ .texture unit target) :
    (issued c slot id).driver = (c.driver.record (.bind slot id)).place slot id :=
  bind_of_admits ha (located_of_activeUnit fun unit target he => absurd he (ht unit target))

theorem bound_issued (ha : slot.Admits c.driver.live id)
    (ht : ∀ unit target, slot ≠ .texture unit target) (hr : r.IsRegister) :
    (issued c slot id).driver.bound r =
      if r ∈ slot.registers then id
      else if slot = .vertexArray ∧ r = .elementArray then c.driver.elementBuffer id
      else c.driver.bound r := by
  rw [driver_issued ha ht, bound_place _ _ _ hr]
  rfl

theorem elementBuffer_issued (ha : slot.Admits c.driver.live id)
    (ht : ∀ unit target, slot ≠ .texture unit target) (i : Id) :
    (issued c slot id).driver.elementBuffer i =
      if slot = .elementArray ∧ i = c.driver.bound .vertexArray then id
      else c.driver.elementBuffer i := by
  rw [driver_issued ha ht, elementBuffer_place]
  rfl

theorem live_issued (c : Context Sim) (slot : Slot) (id : Id) :
    (issued c slot id).driver.live = c.driver.live :=
  live_bind ..

theorem bindSlot_of_belief (hr : slot.IsRegister)
    (hb : c.config.cacheBindings = true → c.cache.belief slot ≠ .bound id) :
    (bindSlot slot id c).2 = issued c slot id := by
  rw [bindSlot_eq, if_neg]
  intro hactive
  obtain ⟨hc, hactive⟩ := Bool.and_eq_true_iff.mp hactive
  have hm : slot ∈ slot.registers := by simp [Slot.registers_of_isRegister hr]
  exact hb hc (BindingCache.belief_of_isActive hactive hm)

theorem keeps_command (hq : q.IsContent) (site : Site) (c : Context Sim) :
    c.driver.Keeps (command q site c).2.driver := by
  have hserve := c.driver.keeps_content hq
  rw [driver_command]
  split
  · exact ⟨hserve.registers, hserve.elementBuffer, hserve.live⟩
  · exact hserve

end ContextM

/-! ## Two guards -/

namespace Buffer

/-- The command is sent, and nothing but bindings is changed around it. -/
theorem work_update (b : Buffer) (hid : b.slot.Admits live id) (hq : q.IsContent) (site : Site) :
    Work live (fun _ _ => True) [] [] (b.updating id (command q site)) :=
  b.work_updating hid fun _ _ => work_command hq Sim.within_anything

/-- Registers that are guarded by neither guard are left alone. -/
theorem bound_updating_of_ne (h : c.Ready live []) (hid : b.slot.Admits live id)
    (hq : q.IsContent) (hr : r.IsRegister) (hne : r ≠ b.slot)
    (hv : b.target = .elementArray → r ≠ .vertexArray) :
    (b.updating id (command q site) c).2.driver.bound r = c.driver.bound r := by
  have hslot : b.slot.touched = [b.slot] := rfl
  have hact (held : List (Slot × Id)) :
      Work live (fun _ _ => True) held held (command q site) :=
    work_command hq Sim.within_anything
  have hspares : b.slot.Spares [(r, c.driver.bound r)] :=
    Slot.spares_cons hr (by simpa [hslot] using hne) (Slot.spares_nil _)
  have hwork : Work live (fun _ _ => True) [(r, c.driver.bound r)] [(r, c.driver.bound r)]
      (b.updating id (command q site)) := by
    unfold updating
    split
    · rename_i ht
      have hne' : r ≠ .elementArray := by simpa [Buffer.slot, ht] using hne
      have houter : Slot.vertexArray.Spares [(r, c.driver.bound r)] :=
        Slot.spares_cons hr (by simp [Slot.touched, Slot.written, hv ht, hne']) (Slot.spares_nil _)
      have hinner : b.slot.Spares (Slot.vertexArray.holding 0 ++ [(r, c.driver.bound r)]) :=
        Slot.spares_cons (by decide) (by rw [hslot]; simp [Buffer.slot]) hspares
      exact work_holding (Slot.admits_zero ..) houter Sim.within_anything
        (work_holding hid hinner Sim.within_anything (hact _))
    · exact work_holding hid hspares Sim.within_anything (hact _)
  have hheld : c.Ready live [(r, c.driver.bound r)] := ⟨h.live, h.coherent, by simp⟩
  exact (hwork c hheld).1.held _ List.mem_cons_self

/-- The register of the outer guard, or that of the only one, is restored. -/
theorem bound_updating_guarded (h : c.Ready live []) (hs : c.config.strictUnbind = true)
    (hid : b.slot.Admits live id) (hq : q.IsContent) (hr : r.IsRegister)
    (hk : c.cache.belief r = .bound x)
    (hg : if b.target = .elementArray then r = .vertexArray else r = b.slot) :
    (b.updating id (command q site) c).2.driver.bound r = c.driver.bound r := by
  have hactive : (b.updating id (command q site) c).2.cache.isActive r x = true := by
    unfold updating
    split
    · rename_i ht
      obtain rfl : r = .vertexArray := by simpa [ht] using hg
      exact isActive_holding _ hr hk hs 0
    · rename_i ht
      obtain rfl : r = b.slot := by simpa [ht] using hg
      exact isActive_holding _ hr hk hs id
  have hcoherent := (b.work_update hid hq site c h).1.coherent
  have hm : r ∈ r.registers := by simp [Slot.registers_of_isRegister hr]
  rw [hcoherent.bound_of_isActive hactive hm, (h.coherent.agrees r x hr hk).1]

/-! ## The element array binding -/

/-- Where the outer bind is left out, the inner guard restores what was bound. -/
theorem isActive_elementArray_of_elided (h : c.Ready live []) (hs : c.config.strictUnbind = true)
    (hc : c.config.cacheBindings = true) (hv : c.cache.belief .vertexArray = .bound 0)
    (he : c.cache.belief .elementArray = .bound e) (hid : Slot.elementArray.Admits live id)
    (hq : q.IsContent) (site : Site) :
    (holding .vertexArray 0 (holding .elementArray id (command q site)) c).2.cache.isActive
      .elementArray e = true := by
  have elided (d : Context Sim) (hc : d.config.cacheBindings = true)
      (hv : d.cache.belief .vertexArray = .bound 0) :
      (bindSlot .vertexArray 0 d).2 = (note (.bindElided .vertexArray 0) d).2 := by
    rw [bindSlot_eq, if_pos]
    simp [hc, hv, BindingCache.isActive, Slot.registers]
  -- both binds of the outer guard are left out, so that only the inner one acts
  let c₁ := (note (.bindElided .vertexArray 0) c).2
  let c₂ := (holding .elementArray id (command q site) c₁).2
  have h₁ : c₁.Ready live [] := ⟨h.live, h.coherent, by simp⟩
  have hacquire : (acquire .vertexArray 0 c).2 = c₁ := elided c hc hv
  have hwork : Work live (fun _ _ => True) [] [] (holding .elementArray id (command q site)) :=
    work_holding hid (Slot.spares_nil _) Sim.within_anything
      (work_command hq Sim.within_anything)
  have hconfig : c₂.config = c.config := (hwork c₁ h₁).2.config
  have hv₂ : c₂.cache.belief .vertexArray = .bound 0 :=
    (belief_holding (neutral_command q site) c₁ id (by simp [Slot.Lasting, Slot.IsRegister])
      (by simp [Slot.registers])).trans hv
  have hrelease : (holding .vertexArray 0 (holding .elementArray id (command q site)) c).2 =
      (note (.bindElided .vertexArray 0) c₂).2 := by
    rw [holding_snd, acquire_known (by decide) hv hs, hacquire]
    exact elided c₂ (hconfig ▸ hc) hv₂
  rw [hrelease]
  exact isActive_holding (c := c₁) (command q site) (by decide) he hs id

/-- Where the outer bind is issued, its release brings back what the vertex array has recorded,
which is the buffer itself if that is the default vertex array. -/
theorem bound_elementArray_of_issued (h : c.Ready live []) (hs : c.config.strictUnbind = true)
    (hv : c.cache.belief .vertexArray = .bound v) (hissued : c.config.cacheBindings = true → v ≠ 0)
    (hid : Slot.elementArray.Admits live id) (hq : q.IsContent) :
    (holding .vertexArray 0 (holding .elementArray id (command q site)) c).2.driver.bound
      .elementArray = if v = 0 then id else c.driver.elementBuffer v := by
  let c₁ := issued c .vertexArray 0
  let c₂ := issued c₁ .elementArray id
  let c₃ := (command q site c₂).2
  have hkeeps : c₂.driver.Keeps c₃.driver := keeps_command hq site c₂
  obtain ⟨hconfig, hcache⟩ := neutral_command q site c₂
  have hunknown : c₁.cache.belief .elementArray = .unknown :=
    (BindingCache.belief_setActive ..).trans (by simp [Slot.registers])
  have hdefault : c₃.cache.belief .vertexArray = .bound 0 := by
    rw [hcache]
    simp [c₂, c₁, issued, BindingCache.belief_setActive, Slot.registers]
  -- the inner guard finds nothing known and so restores nothing; the outer one alone does
  have houter : (acquire .vertexArray 0 c).2 = c₁ :=
    bindSlot_of_belief (by decide) fun hc e => hissued hc (Belief.bound.inj (hv.symm.trans e))
  have hinner : acquire .elementArray id c₁ = (⟨.elementArray, none, true⟩, c₂) := by
    refine Prod.ext ?_ (bindSlot_of_belief (by decide) fun _ => by simp [hunknown])
    rw [← hs, ← (BindingCache.knownBinding_eq_none_iff (by decide)).mpr hunknown]
    rfl
  have hreleased : (holding .vertexArray 0 (holding .elementArray id (command q site)) c).2 =
      issued c₃ .vertexArray v := by
    rw [holding_snd, acquire_known (by decide) hv hs, houter, holding_snd, hinner]
    refine bindSlot_of_belief (by simp [Slot.IsRegister]) fun hc e => hissued (hconfig ▸ hc) ?_
    exact (Belief.bound.inj (hdefault.symm.trans e)).symm
  have hlive₁ : c₁.driver.live = live := (live_issued ..).trans h.live
  have hlive₃ : ∀ o ∈ live, o ∈ c₃.driver.live := fun o ho =>
    hkeeps.live o (live_issued c₁ _ _ ▸ hlive₁ ▸ ho)
  have hva : Slot.vertexArray.Admits live v :=
    h.live ▸ (h.coherent.agrees .vertexArray v (by decide) hv).2
  have hbound₁ : c₁.driver.bound .vertexArray = 0 :=
    (bound_issued (Slot.admits_zero ..) (by simp) (by decide)).trans (if_pos List.mem_cons_self)
  have hrecorded₁ : c₁.driver.elementBuffer v = c.driver.elementBuffer v :=
    (elementBuffer_issued (Slot.admits_zero ..) (by simp) v).trans (if_neg (by simp))
  calc (holding .vertexArray 0 (holding .elementArray id (command q site)) c).2.driver.bound
        .elementArray
    _ = (issued c₃ .vertexArray v).driver.bound .elementArray := by rw [hreleased]
    _ = c₃.driver.elementBuffer v := by
      rw [bound_issued (hva.mono fun _ _ => hlive₃ _) (by simp) (by decide)]
      simp [Slot.registers]
    _ = c₂.driver.elementBuffer v := hkeeps.elementBuffer v
    _ = if v = 0 then id else c₁.driver.elementBuffer v := by
      rw [elementBuffer_issued (hlive₁ ▸ hid) (by simp), hbound₁]
      simp
    _ = if v = 0 then id else c.driver.elementBuffer v := by rw [hrecorded₁]

/-! ## All registers -/

/-- An update leaves the buffer bound: it is an element buffer, and no vertex array is bound, but
the bind of none is not left out. -/
def Stays (b : Buffer) (c : Context Sim) : Prop :=
  b.target = .elementArray ∧ c.config.cacheBindings = false ∧ c.driver.bound .vertexArray = 0

instance (b : Buffer) (c : Context Sim) : Decidable (b.Stays c) :=
  inferInstanceAs (Decidable (_ ∧ _))

theorem bound_elementArray_updating (h : c.Ready live []) (ht : c.driver.Tied)
    (hs : c.config.strictUnbind = true) (hv : c.cache.belief .vertexArray = .bound v)
    (he : c.cache.belief b.slot = .bound e) (hid : b.slot.Admits live id) (hq : q.IsContent)
    (htarget : b.target = .elementArray) :
    (b.updating id (command q site) c).2.driver.bound .elementArray =
      if b.Stays c then id else c.driver.bound .elementArray := by
  have hslot : b.slot = .elementArray := congrArg Slot.buffer htarget
  obtain ⟨hbv, -⟩ := h.coherent.agrees _ v (by decide) hv
  have hstays : b.Stays c ↔ c.config.cacheBindings = false ∧ v = 0 := by
    rw [Stays, hbv]
    simp [htarget]
  have hcoherent := (b.work_update hid hq site c h).1.coherent
  unfold updating at hcoherent ⊢
  rw [hslot] at he hid hcoherent ⊢
  rw [if_pos htarget] at hcoherent ⊢
  by_cases hissued : c.config.cacheBindings = true → v ≠ 0
  · rw [bound_elementArray_of_issued h hs hv hissued hid hq]
    by_cases hz : v = 0
    · have hc : c.config.cacheBindings = false := by simpa [hz] using hissued
      rw [if_pos hz, if_pos (hstays.mpr ⟨hc, hz⟩)]
    · rw [if_neg hz, if_neg fun hb => hz (hstays.mp hb).2, ht, hbv]
  · obtain ⟨hc, rfl⟩ : c.config.cacheBindings = true ∧ v = 0 := by simpa using hissued
    have hactive := isActive_elementArray_of_elided h hs hc hv he hid hq site
    rw [hcoherent.bound_of_isActive hactive List.mem_cons_self, if_neg (by simp [hstays, hc])]
    exact (h.coherent.agrees _ e (by decide) he).1.symm

/-- After an update all registers are as before, unless it leaves an element buffer bound. -/
theorem bound_updating (h : c.Ready live []) (ht : c.driver.Tied)
    (hs : c.config.strictUnbind = true) (hv : c.cache.belief .vertexArray = .bound v)
    (he : c.cache.belief b.slot = .bound e) (hid : b.slot.Admits live id) (hq : q.IsContent)
    (hr : r.IsRegister) : (b.updating id (command q site) c).2.driver.bound r =
      if b.Stays c ∧ r = .elementArray then id else c.driver.bound r := by
  by_cases htarget : b.target = .elementArray
  · have hslot : b.slot = .elementArray := congrArg Slot.buffer htarget
    by_cases hre : r = .elementArray
    · subst hre
      rw [b.bound_elementArray_updating h ht hs hv he hid hq htarget]
      simp
    · rw [if_neg fun hstays => hre hstays.2]
      by_cases hrv : r = .vertexArray
      · subst hrv
        exact b.bound_updating_guarded h hs hid hq hr hv (by rw [if_pos htarget])
      · exact b.bound_updating_of_ne h hid hq hr (hslot ▸ hre) fun _ => hrv
  · rw [if_neg fun hstays => htarget hstays.1.1]
    by_cases hslot : r = b.slot
    · subst hslot
      exact b.bound_updating_guarded h hs hid hq hr he (by rw [if_neg htarget])
    · exact b.bound_updating_of_ne h hid hq hr hslot fun e => absurd e htarget

end Buffer

end GraphicsObjects
