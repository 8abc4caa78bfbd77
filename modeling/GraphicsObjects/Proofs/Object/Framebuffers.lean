import GraphicsObjects.Proofs.Object.Work

/-!
# Guards on the combined framebuffer target

A bind to the combined target writes two registers, and a guard records one name. Where the draw and
the read framebuffer differ, the guard puts the draw framebuffer back into both.
-/

namespace GraphicsObjects

/-! ## Work that does not bind -/

namespace ContextM

variable {α β : Type}

/-- The action changes neither switches nor beliefs. -/
def Neutral (act : ContextM Sim α) : Prop :=
  ∀ c, (act c).2.config = c.config ∧ (act c).2.cache = c.cache

theorem Neutral.pure (a : α) : Neutral (Pure.pure a) := fun _ => ⟨rfl, rfl⟩

theorem Neutral.bind {x : ContextM Sim α} {f : α → ContextM Sim β} (hx : Neutral x)
    (hf : ∀ a, Neutral (f a)) : Neutral (x >>= f) := by
  intro c
  obtain ⟨hc, hb⟩ := hx c
  obtain ⟨hc', hb'⟩ := hf (x c).1 (x c).2
  exact ⟨hc'.trans hc, hb'.trans hb⟩

theorem Neutral.mapM {f : α → ContextM Sim β} (xs : List α) (h : ∀ x, Neutral (f x)) :
    Neutral (xs.mapM f) := by
  induction xs with
  | nil => exact .pure _
  | cons x xs ih =>
      rw [List.mapM_cons]
      exact .bind (h x) fun _ => .bind ih fun _ => .pure _

theorem neutral_perform (q : Request) : Neutral (perform q : ContextM Sim q.Answer) :=
  fun _ => ⟨rfl, rfl⟩

theorem neutral_note (e : Event) : Neutral (note e : ContextM Sim Unit) := fun _ => ⟨rfl, rfl⟩

theorem neutral_reportError (error : DriverError) (site : Site) :
    Neutral (reportError error site : ContextM Sim Unit) := by
  refine .bind (fun _ => ⟨rfl, rfl⟩) fun _ => .bind (fun _ => ⟨rfl, rfl⟩) fun _ => ?_
  split
  · exact .pure _
  · exact neutral_note _

theorem neutral_checkError (site : Site) : Neutral (checkError site : ContextM Sim Unit) := by
  refine .bind (fun _ => ⟨rfl, rfl⟩) fun c => ?_
  split
  · refine .bind (.bind (neutral_perform _) fun _ => .pure _) fun e => ?_
    cases e with
    | none => exact .pure _
    | some error => exact neutral_reportError error site
  · exact .pure _

theorem neutral_command (q : Request) (site : Site) :
    Neutral (command q site : ContextM Sim q.Answer) :=
  .bind (neutral_perform q) fun _ => .bind (neutral_checkError site) fun _ => .pure _

theorem neutral_pixelStore (direction : PixelDirection) :
    Neutral (pixelStore direction : ContextM Sim PixelStore) :=
  .bind (.mapM _ fun parameter => neutral_perform (.getInteger parameter)) fun _ => .pure _

end ContextM

/-! ## The combined target -/

/-- The slot of the combined target. -/
abbrev Slot.combined : Slot := framebuffer .combined

/-- Guards restore, and the draw and the read framebuffer are believed to be `d` and `r`. -/
structure Bookkeeping.Believes (b : Bookkeeping) (d r : Id) : Prop where
  strict : b.config.strictUnbind = true
  draw : b.cache.belief (.framebuffer .draw) = .bound d
  read : b.cache.belief (.framebuffer .read) = .bound r

/-- The draw and the read framebuffer are `d` and `r`, in the driver and in the cache. -/
structure Context.Framebuffers (c : Context Sim) (d r : Id) : Prop where
  draw : c.cache.belief (.framebuffer .draw) = .bound d ∧ c.driver.bound (.framebuffer .draw) = d
  read : c.cache.belief (.framebuffer .read) = .bound r ∧ c.driver.bound (.framebuffer .read) = r

namespace ContextM

variable {α β : Type} {c : Context Sim} {slot : Slot} {d r id : Id}

theorem Neutral.believes {act : ContextM Sim α} (h : Neutral act) (hc : c.Believes d r) :
    (act c).2.Believes d r := by
  obtain ⟨hconfig, hcache⟩ := h c
  exact ⟨hconfig ▸ hc.strict, hcache ▸ hc.draw, hcache ▸ hc.read⟩

theorem believes_bindSlot (hs : slot.kind? ≠ some .framebuffer) (hc : c.Believes d r) :
    (bindSlot slot id c).2.Believes d r := by
  have hnot : ∀ t, .framebuffer t ∉ slot.registers := by
    intro t ht
    exact hs (Slot.kind?_of_mem_registers ht).symm
  refine ⟨(congrArg _ (config_bindSlot ..)).trans hc.strict, ?_, ?_⟩
  · exact (belief_bindSlot c id (hnot _) nofun).trans hc.draw
  · exact (belief_bindSlot c id (hnot _) nofun).trans hc.read

theorem believes_bind_combined (hs : c.config.strictUnbind = true) :
    (ContextM.bind .combined d c).2.Believes d d := by
  have hactive := isActive_bindSlot c .combined d
  refine ⟨(congrArg _ (config_bindSlot ..)).trans hs, ?_, ?_⟩
  · exact BindingCache.belief_of_isActive hactive List.mem_cons_self
  · exact BindingCache.belief_of_isActive hactive (List.mem_cons_of_mem _ List.mem_cons_self)

/-- A guard on the combined target records the draw framebuffer. -/
theorem acquire_combined (hc : c.Believes d r) (id : Id) :
    (acquire .combined id c).1 = { slot := .combined, previous := some d, restore := true } := by
  have hknown : c.cache.knownBinding .combined = some d := by
    simp [BindingCache.knownBinding, BindingCache.getActive, Slot.registers, Slot.primary, hc.draw,
      hc.read]
  change Guard.mk .combined (c.cache.knownBinding .combined) c.config.strictUnbind = _
  rw [hknown, hc.strict]

/-- Its release puts that into both registers, whatever happened in between. -/
theorem believes_release (hs : c.config.strictUnbind = true) :
    (release { slot := .combined, previous := some d, restore := true } c).2.Believes d d :=
  believes_bind_combined hs

theorem believes_holding {act : ContextM Sim α} (hact : Neutral act) (hc : c.Believes d r)
    (id : Id) : (holding .combined id act c).2.Believes d d := by
  have hstrict : (act (acquire .combined id c).2).2.config.strictUnbind = true := by
    refine (congrArg _ (hact _).1).trans ?_
    exact (congrArg _ (config_bindSlot c .combined id)).trans hc.strict
  rw [holding_snd, acquire_combined hc]
  exact believes_release hstrict

theorem believes_release_buffer {g : Guard} {target : BufferTarget} (hg : g.slot = .buffer target)
    (hc : c.Believes d r) : (release g c).2.Believes d r := by
  obtain ⟨slot, previous, restore⟩ := g
  subst hg
  cases previous with
  | none => exact hc
  | some id =>
      cases restore with
      | false => exact hc
      | true => exact believes_bindSlot nofun hc

theorem believes_holding_buffer {act : ContextM Sim α} {d' r' : Id} (target : BufferTarget)
    (hact : ∀ c : Context Sim, c.Believes d r → (act c).2.Believes d' r') (hc : c.Believes d r)
    (id : Id) : (holding (.buffer target) id act c).2.Believes d' r' := by
  have hacquired : (acquire (.buffer target) id c).2.Believes d r := believes_bindSlot nofun hc
  exact believes_release_buffer rfl (hact _ hacquired)

end ContextM

/-! ## Operations on framebuffers of the combined target -/

namespace Framebuffer

open ContextM

variable {c : Context Sim} {d r : Id}

/-- Every operation leaves the framebuffers that are bound as they were, or puts the draw
framebuffer into both registers. -/
theorem believes_run (f : Framebuffer) (id : Id) (op : FramebufferOp) (hf : f.target = .combined)
    (hc : c.Believes d r) :
    (op.run id f c).2.Believes d r ∨ (op.run id f c).2.Believes d d := by
  have hslot : f.slot = .combined := congrArg Slot.framebuffer hf
  have hbound : ∀ (q : Request) (site : Site) (c : Context Sim), c.Believes d r →
      (f.bound id (command q site) c).2.Believes d d := by
    intro q site c hc
    unfold bound
    rw [hslot]
    exact believes_holding (neutral_command q site) hc id
  cases op with
  | target => exact .inl hc
  | checkStatus => exact .inr (hbound _ _ c hc)
  | ensureComplete => exact .inr (hbound _ _ c hc)
  | setDrawBuffers points =>
      have hallowed : f.require .read .setDrawBuffers = .ok () := by simp [require, hf]
      simp only [FramebufferOp.run, setDrawBuffers, hallowed]
      exact .inr (hbound _ _ c hc)
  | clear mask =>
      have hallowed : f.require .read .clear = .ok () := by simp [require, hf]
      simp only [FramebufferOp.run, clear, hallowed]
      exact .inr (hbound _ _ c hc)
  | readPixels block out =>
      have hcheck : Neutral (f.checkRead block out.length : ContextM Sim _) := by
        unfold checkRead
        split
        · exact .pure _
        · exact .bind (neutral_pixelStore _) fun _ => .pure _
      simp only [FramebufferOp.run, readPixels, bind_apply]
      have hchecked := hcheck.believes hc
      cases (f.checkRead block out.length c).1 with
      | error e => exact .inl hchecked
      | ok _ => exact .inr (believes_holding_buffer _ (hbound _ _) hchecked 0)

end Framebuffer

namespace Context.Framebuffers

variable {c : Context Sim} {d r : Id}

theorem of_believes (h : c.cache.Coherent c.driver) (hb : c.Believes d r) : c.Framebuffers d r where
  draw := ⟨hb.draw, (h.agrees _ _ (by decide) hb.draw).1⟩
  read := ⟨hb.read, (h.agrees _ _ (by decide) hb.read).1⟩

theorem of_isActive (h : c.cache.Coherent c.driver) (ha : c.cache.isActive .combined d = true) :
    c.Framebuffers d d := by
  have hdraw : c.cache.belief (.framebuffer .draw) = .bound d :=
    BindingCache.belief_of_isActive ha List.mem_cons_self
  have hread : c.cache.belief (.framebuffer .read) = .bound d :=
    BindingCache.belief_of_isActive ha (List.mem_cons_of_mem _ List.mem_cons_self)
  exact ⟨⟨hdraw, (h.agrees _ _ (by decide) hdraw).1⟩, ⟨hread, (h.agrees _ _ (by decide) hread).1⟩⟩

/-- Both registers hold the draw framebuffer: that is what they did before just if they held the
same framebuffer. -/
theorem restored_iff (h : c.Framebuffers d d) : c.Framebuffers d r ↔ r = d := by
  constructor
  · intro hr
    exact hr.read.2.symm.trans h.read.2
  · rintro rfl
    exact h

end Context.Framebuffers

end GraphicsObjects
