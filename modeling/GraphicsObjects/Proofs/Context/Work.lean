import GraphicsObjects.Context.Basic
import GraphicsObjects.Proofs.Binding.Coherence
import GraphicsObjects.Proofs.Simulation.Contents

/-!
# Work in a context

Work that neither creates nor deletes objects, and binds live ones only: it keeps the cache
coherent and the names as they are, and changes the contents of no object but those it may. What is
held bound around it stays bound.
-/

namespace GraphicsObjects

/-! ## Sequences of actions -/

section StateM

variable {σ α β : Type}

theorem bind_apply (m : StateM σ α) (f : α → StateM σ β) (s : σ) :
    (m >>= f) s = f (m s).1 (m s).2 := rfl

theorem get_apply (s : σ) : (get : StateM σ σ) s = (s, s) := rfl

theorem modify_apply (f : σ → σ) (s : σ) : (modify f : StateM σ Unit) s = ((), f s) := rfl

end StateM

/-! ## Logs -/

/-- The deletion that an event reports. -/
def Event.deletion? : Event → Option (Kind × Id)
  | .deletedObject kind id => some (kind, id)
  | _ => none

/-- The deletions that a log reports, in order. -/
def deletions (trace : List Event) : List (Kind × Id) := trace.filterMap Event.deletion?

theorem deletions_note {e : Event} (trace : List Event) (h : e.deletion? = none) :
    deletions (trace ++ [e]) = deletions trace := by
  simp [deletions, h]

namespace Sim

theorem registers_receive (s : Sim) (q : Request) : (s.receive q).registers = s.registers := by
  unfold receive
  split
  · rfl
  · split <;> rfl

theorem bound_receive (s : Sim) (q : Request) (slot : Slot) :
    (s.receive q).bound slot = s.bound slot := by
  rw [bound, registers_receive]
  rfl

theorem live_receive (s : Sim) (q : Request) : (s.receive q).live = s.live := by
  unfold receive
  split
  · rfl
  · split <;> rfl

theorem pools_receive (s : Sim) (q : Request) : (s.receive q).pools = s.pools := by
  unfold receive
  split
  · rfl
  · split <;> rfl

theorem deleted_receive (s : Sim) (q : Request) : (s.receive q).deleted = s.deleted := by
  unfold receive
  split
  · simp [deleted, record]
  · split
    · simp [deleted, record]
    · rfl

theorem bindCalls_receive (s : Sim) {q : Request} (h : q.IsContent) :
    (s.receive q).bindCalls = s.bindCalls := by
  unfold receive
  split
  · exact h.elim
  · split
    · simp [bindCalls, record]
    · rfl

theorem aim_congr {s s' : Sim} (h : s'.registers = s.registers) (q : Request) :
    s'.aim q = s.aim q := by
  have hb : s'.bound = s.bound := by
    funext slot
    simp only [bound, h]
  unfold aim boundTexture activeUnit
  rw [hb]

end Sim

/-! ## Work -/

/-- The context has a coherent cache over a driver with the objects `live`, and the registers in
`held` hold what is listed with them. -/
structure Context.Ready (live : List (Kind × Id)) (held : List (Slot × Id)) (c : Context Sim) :
    Prop where
  live : c.driver.live = live
  coherent : c.cache.Coherent c.driver
  held : ∀ h ∈ held, c.driver.bound h.1 = h.2

/-- What work keeps that changes the contents of no objects but those it may. -/
structure Context.Kept (live : List (Kind × Id)) (may : Kind → Id → Prop) (c c' : Context Sim) :
    Prop where
  config : c'.config = c.config
  pools : c'.driver.pools = c.driver.pools
  deleted : c'.driver.deleted = c.driver.deleted
  logged : deletions c'.trace = deletions c.trace
  binds : ∃ new, c'.driver.bindCalls = c.driver.bindCalls ++ new ∧ ∀ b ∈ new, b.1.Admits live b.2
  others : ∀ k id, ¬ may k id → c'.driver.stateOf k id = c.driver.stateOf k id

namespace Context

variable {live : List (Kind × Id)} {may may' : Kind → Id → Prop} {held held' : List (Slot × Id)}
variable {c c' c'' : Context Sim}

theorem Ready.weaken (h : c.Ready live held) (hs : ∀ x ∈ held', x ∈ held) : c.Ready live held' :=
  ⟨h.live, h.coherent, fun x hx => h.held x (hs x hx)⟩

theorem Kept.refl (live : List (Kind × Id)) (may : Kind → Id → Prop) (c : Context Sim) :
    c.Kept live may c :=
  ⟨rfl, rfl, rfl, rfl, ⟨[], (List.append_nil _).symm, nofun⟩, fun _ _ _ => rfl⟩

theorem Kept.trans (h : c.Kept live may c') (h' : c'.Kept live may c'') : c.Kept live may c'' where
  config := h'.config.trans h.config
  pools := h'.pools.trans h.pools
  deleted := h'.deleted.trans h.deleted
  logged := h'.logged.trans h.logged
  binds := by
    obtain ⟨new, he, hn⟩ := h.binds
    obtain ⟨new', he', hn'⟩ := h'.binds
    refine ⟨new ++ new', by rw [he', he, List.append_assoc], fun b hb => ?_⟩
    rcases List.mem_append.mp hb with hb | hb
    · exact hn b hb
    · exact hn' b hb
  others k id hm := (h'.others k id hm).trans (h.others k id hm)

theorem Kept.mono (h : c.Kept live may c') (hm : ∀ k id, may k id → may' k id) :
    c.Kept live may' c' :=
  { h with others := fun k id hk => h.others k id fun hk' => hk (hm k id hk') }

end Context

/-- Work that starts with `held` bound and ends with `held'` bound. -/
def ContextM.Work {α : Type} (live : List (Kind × Id)) (may : Kind → Id → Prop)
    (held held' : List (Slot × Id)) (act : ContextM Sim α) : Prop :=
  ∀ c : Context Sim, c.Ready live held → (act c).2.Ready live held' ∧ c.Kept live may (act c).2

/-- Whatever is bound, as long as `held` is, the object aimed at is one that may change. -/
def Sim.Within (held : List (Slot × Id)) (may : Kind → Id → Prop) (q : Request) : Prop :=
  ∀ s : Sim, (∀ h ∈ held, s.bound h.1 = h.2) → ∀ k id, s.aim q = some (k, id) → may k id

theorem Sim.within_anything {held : List (Slot × Id)} {q : Request} :
    Within held (fun _ _ => True) q :=
  fun _ _ _ _ _ => trivial

namespace ContextM

open Sim

variable {α β : Type} {live : List (Kind × Id)} {may may' : Kind → Id → Prop}
variable {held held' held'' : List (Slot × Id)}

theorem Work.pure (a : α) : Work live may held held (Pure.pure a) :=
  fun c h => ⟨h, .refl live may c⟩

theorem Work.bind {x : ContextM Sim α} {f : α → ContextM Sim β} (hx : Work live may held held' x)
    (hf : ∀ a, Work live may held' held'' (f a)) : Work live may held held'' (x >>= f) := by
  intro c h
  obtain ⟨h', hk⟩ := hx c h
  obtain ⟨h'', hk'⟩ := hf (x c).1 (x c).2 h'
  exact ⟨h'', hk.trans hk'⟩

theorem Work.map {x : ContextM Sim α} (f : α → β) (hx : Work live may held held' x) :
    Work live may held held' (f <$> x) := by
  intro c h
  exact hx c h

theorem Work.get : Work live may held held (MonadState.get : ContextM Sim (Context Sim)) :=
  fun c h => ⟨h, .refl live may c⟩

theorem Work.weaken {act : ContextM Sim α} (h : Work live may held held'' act)
    (hs : ∀ x ∈ held', x ∈ held'') : Work live may held held' act := by
  intro c hc
  obtain ⟨h', hk⟩ := h c hc
  exact ⟨h'.weaken hs, hk⟩

theorem Work.forget {xs : List (Slot × Id)} {act : ContextM Sim α}
    (h : Work live may held (xs ++ held') act) : Work live may held held' act :=
  h.weaken fun _ hx => List.mem_append_right _ hx

theorem Work.mono {act : ContextM Sim α} (h : Work live may held held' act)
    (hm : ∀ k id, may k id → may' k id) : Work live may' held held' act := by
  intro c hc
  obtain ⟨h', hk⟩ := h c hc
  exact ⟨h', hk.mono hm⟩

theorem Work.anything {act : ContextM Sim α} (h : Work live may held held' act) :
    Work live (fun _ _ => True) held held' act :=
  h.mono fun _ _ _ => trivial

theorem Work.forM {xs : List α} {f : α → ContextM Sim PUnit}
    (h : ∀ x ∈ xs, Work live may held held (f x)) : Work live may held held (xs.forM f) := by
  induction xs with
  | nil => exact .pure _
  | cons x xs ih =>
      exact .bind (h x List.mem_cons_self) fun _ => ih fun y hy => h y (List.mem_cons_of_mem _ hy)

theorem Work.mapM {f : α → ContextM Sim β} (xs : List α) (h : ∀ x, Work live may held held (f x)) :
    Work live may held held (xs.mapM f) := by
  induction xs with
  | nil => exact .pure _
  | cons x xs ih =>
      rw [List.mapM_cons]
      exact .bind (h x) fun _ => .bind ih fun _ => .pure _

/-! ## Notes and requests -/

theorem work_note {e : Event} (he : e.deletion? = none) : Work live may held held (note e) := by
  intro c h
  refine ⟨⟨h.live, h.coherent, h.held⟩, ?_⟩
  exact { Context.Kept.refl live may c with logged := deletions_note _ he }

/-- A request about contents that is aimed at an object that may change. -/
theorem work_perform {q : Request} (hq : q.IsContent) (ha : Within held may q) :
    Work live may held held (perform q) := by
  intro c h
  have he := edits_execute (c.driver.receive q) hq
  have hreg := he.registry
  simp only [registry, Prod.mk.injEq] at hreg
  obtain ⟨hlive, hpools, hregs, hcalls⟩ := hreg
  rw [live_receive] at hlive
  rw [pools_receive] at hpools
  rw [registers_receive] at hregs
  have hbound : ∀ r, (execute q (c.driver.receive q)).2.bound r = c.driver.bound r := by
    intro r
    simp only [bound, hregs]
  refine ⟨⟨?_, ?_, ?_⟩, ?_⟩
  · exact hlive.trans h.live
  · exact h.coherent.congr hregs fun o ho => hlive ▸ ho
  · exact fun x hx => (hbound x.1).trans (h.held x hx)
  · refine ⟨rfl, hpools, ?_, ?_, ⟨[], ?_, List.forall_mem_nil _⟩, ?_⟩
    · change List.filterMap _ (execute q (c.driver.receive q)).2.calls = _
      rw [hcalls]
      exact deleted_receive ..
    · change deletions (c.trace ++ []) = _
      rw [List.append_nil]
    · change List.filterMap _ (execute q (c.driver.receive q)).2.calls = _
      rw [hcalls, List.append_nil]
      exact bindCalls_receive _ hq
    · intro k id hm
      refine (he.others k id fun haim => hm ?_).trans (stateOf_receive ..)
      rw [aim_congr (registers_receive ..)] at haim
      exact ha c.driver h.held k id haim

/-- A change to what the context keeps for itself, cache and switches apart. -/
theorem work_modify {f : Context Sim → Context Sim} (hd : ∀ c, (f c).driver = c.driver)
    (hc : ∀ c, (f c).cache = c.cache) (hs : ∀ c, (f c).config = c.config)
    (ht : ∀ c, (f c).trace = c.trace) : Work live may held held (modify f) := by
  intro c h
  refine ⟨⟨(congrArg _ (hd c)).trans h.live, ?_, ?_⟩, ⟨hs c, ?_, ?_, ?_, ⟨[], ?_, nofun⟩, ?_⟩⟩
  · change (f c).cache.Coherent (f c).driver
    rw [hc, hd]
    exact h.coherent
  · change ∀ x ∈ held, (f c).driver.bound x.1 = x.2
    rw [hd]
    exact h.held
  · exact congrArg _ (hd c)
  · exact congrArg _ (hd c)
  · exact congrArg _ (ht c)
  · rw [List.append_nil]
    exact congrArg _ (hd c)
  · exact fun k id _ => congrArg (fun d => Sim.stateOf d k id) (hd c)

theorem work_reportError (error : DriverError) (site : Site) :
    Work live may held held (reportError error site) := by
  unfold reportError
  refine .bind .get fun _ => .bind (work_modify ?_ ?_ ?_ ?_) fun _ => ?_
  · exact fun _ => rfl
  · exact fun _ => rfl
  · exact fun _ => rfl
  · exact fun _ => rfl
  · split
    · exact .pure _
    · exact work_note rfl

theorem work_pollError : Work live may held held pollError :=
  .bind (work_perform trivial nofun) fun _ => .pure _

theorem work_checkError (site : Site) : Work live may held held (checkError site) := by
  unfold checkError
  refine .bind .get fun _ => ?_
  split
  · refine .bind work_pollError fun e => ?_
    cases e with
    | none => exact .pure _
    | some error => exact work_reportError error site
  · exact .pure _

theorem work_command {q : Request} {site : Site} (hq : q.IsContent) (ha : Within held may q) :
    Work live may held held (command q site) :=
  .bind (work_perform hq ha) fun _ => .bind (work_checkError site) fun _ => .pure _

end ContextM

end GraphicsObjects
