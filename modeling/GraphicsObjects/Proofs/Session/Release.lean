import GraphicsObjects.Proofs.Session.Runs

/-!
# When a guard may be released

A guard records what was bound as a bare name. While it is outstanding the object may be deleted,
which the cache hears of and the guard does not. Then the release binds a name that is not live,
unless another object got it, and the cache believes in a bind that the driver refused.
-/

namespace GraphicsObjects

open Ownership

namespace ContextM

open Sim

variable {live : List (Kind × Id)} {held : List (Slot × Id)} {slot : Slot} {id : Id}
variable {c : Context Sim} {g : Guard}

/-- A bind of what may not be bound is never left out: the cache does not believe in it. -/
theorem bindCalls_bindSlot_dead (h : c.Ready live held) (ha : ¬ slot.Admits live id) :
    (bindSlot slot id c).2.driver.bindCalls = c.driver.bindCalls ++ [(slot, id)] := by
  have hactive : ¬ (c.config.cacheBindings && c.cache.isActive slot id) = true := by
    intro he
    have hadmits := h.coherent.admits_of_isActive (Bool.and_eq_true_iff.mp he).2
    exact ha (h.live ▸ hadmits)
  rw [bindSlot_eq, if_neg hactive]
  change List.filterMap _ ((c.driver.record _).bind slot id).calls = _
  rw [calls_bind]
  simp [record, bindCalls]

theorem bindCalls_bind_dead (h : c.Ready live held) (ha : ¬ slot.Admits live id) :
    ∃ before, (ContextM.bind slot id c).2.driver.bindCalls =
      c.driver.bindCalls ++ before ++ [(slot, id)] := by
  cases slot with
  | texture unit target =>
      have hunit : Work live (fun _ _ => True) [] _ (bindSlot .activeTexture unit) :=
        work_bindSlot (Slot.admits_unit ..) nofun nofun (within_bind nofun)
      obtain ⟨h₁, hk⟩ := hunit c (h.weaken nofun)
      obtain ⟨before, hbefore, -⟩ := hk.binds
      exact ⟨before, (bindCalls_bindSlot_dead h₁ ha).trans (congrArg (· ++ _) hbefore)⟩
  | _ =>
      refine ⟨[], (bindCalls_bindSlot_dead h ha).trans ?_⟩
      rw [List.append_nil]

/-- The release of a guard whose object is gone binds its name nevertheless. -/
theorem bindCalls_release_dead (h : c.Ready live held) (hg : ¬ g.Restorable live) :
    ∃ before id, ¬ g.slot.Admits live id ∧ (release g c).2.driver.bindCalls =
      c.driver.bindCalls ++ before ++ [(g.slot, id)] := by
  simp only [Guard.Restorable, Classical.not_forall] at hg
  obtain ⟨hrestore, id, hid, ha⟩ := hg
  obtain ⟨before, hbefore⟩ := bindCalls_bind_dead h ha
  refine ⟨before, id, ha, ?_⟩
  rw [← hbefore, release, hid]
  simp only [hrestore, if_true]

end ContextM

namespace Session

variable {config : Config} {s s' : Session Sim} {op : Op} {name : String} {g : Guard}

/-- A release from `slot` is clean if it binds live objects only and what is believed to be bound to
the slot afterwards is. -/
structure CleanRelease (slot : Slot) (s s' : Session Sim) : Prop where
  binds : ∀ b ∈ s'.driver.bindCalls.drop s.driver.bindCalls.length, b.1.Admits s.driver.live b.2
  agrees : ∀ x, (s'.enter 0).cache.isActive slot x = true → ∀ r ∈ slot.registers,
    s'.driver.bound r = x

/-- Binds are of live objects, and a guard is only released by dropping it, and cleanly. -/
def Clean : Rule := fun s op s' =>
  op.Admissible s.driver.live ∧ ∀ g, s.released? op = some g →
    (∃ name, op = .drop name) ∧ CleanRelease g.slot s s'

theorem step_drop_guard {c : ContextId} (hg : s.vars.get? name = some (.guard c g))
    {answer : Unit} (hs : s.step (.drop name) = some (answer, s')) :
    s' = (SessionM.inContext c (ContextM.release g)
      { s with vars := s.vars.erase name }).2 := by
  simp only [Session.step, hg, Option.bind_eq_bind, Option.bind_some, Option.pure_def,
    Option.some.injEq] at hs
  exact (congrArg Prod.snd hs).symm

/-- A release is clean exactly if what it restores is live. -/
theorem Inv.cleanRelease_iff (h : s.Inv) {c : ContextId}
    (hg : s.vars.get? name = some (.guard c g)) {answer : Unit}
    (hs : s.step (.drop name) = some (answer, s')) :
    CleanRelease g.slot s s' ↔ g.Restorable s.driver.live := by
  obtain rfl := h.guards name c g hg
  obtain rfl := step_drop_guard hg hs
  let s₁ : Session Sim := { s with vars := s.vars.erase name }
  have hs₁ : s₁.Sound s.roots := h.sound.setVariables _
  constructor
  · intro hclean
    -- a dead name is never believed bound, so its bind is issued
    refine Classical.byContradiction fun hdead => ?_
    obtain ⟨before, id, ha, hcalls⟩ := ContextM.bindCalls_release_dead hs₁.ready hdead
    refine ha (hclean.binds (g.slot, id) ?_)
    change _ ∈ List.drop _ (ContextM.release g (s₁.enter 0)).2.driver.bindCalls
    rw [hcalls, List.append_assoc]
    change _ ∈ List.drop s.driver.bindCalls.length (s.driver.bindCalls ++ _)
    rw [List.drop_left]
    exact List.mem_append_right _ List.mem_cons_self
  · intro hrestorable
    have hw : ContextM.Work s.driver.live (fun _ _ => True) [] [] (ContextM.release g) :=
      ContextM.work_release hrestorable (Slot.spares_nil _) Sim.within_anything
    obtain ⟨hs₂, -⟩ := hs₁.work (fun _ => False) hw
    obtain ⟨-, hk⟩ := hw (s₁.enter 0) hs₁.ready
    obtain ⟨new, hnew, hlive⟩ := hk.binds
    refine ⟨fun b hb => hlive b ?_, fun x hx r hr => ?_⟩
    · change b ∈ List.drop _ (ContextM.release g (s₁.enter 0)).2.driver.bindCalls at hb
      rw [hnew] at hb
      change b ∈ List.drop s.driver.bindCalls.length (s.driver.bindCalls ++ new) at hb
      rw [List.drop_left] at hb
      exact hb
    · exact hs₂.ready.coherent.bound_of_isActive hx hr

/-- Along a run whose releases were clean so far, they were releases of what is live. -/
theorem Reachable.careful_of_clean (h : Reachable Clean config s) : Reachable Careful config s := by
  induction h with
  | start => exact .start
  | adjust a _ ih => exact ih.adjust a
  | @step s s' op _ _ hs hr ih =>
      refine ih.step hs ⟨hr.1, fun g hg => ?_⟩
      obtain ⟨⟨name, rfl⟩, hclean⟩ := hr.2 g hg
      obtain ⟨name', c, hdropped, hname⟩ := of_released hg
      cases hdropped
      exact (ih.inv.cleanRelease_iff hname hs).mp hclean

/-- As long as all releases were clean, the next one is clean exactly if it has nothing to restore,
or what it restores is 0, a texture unit or an object that is live. -/
theorem clean_release_iff (h : Reachable Clean config s) {c : ContextId}
    (hg : s.vars.get? name = some (.guard c g)) {answer : Unit}
    (hs : s.step (.drop name) = some (answer, s')) :
    CleanRelease g.slot s s' ↔ g.Restorable s.driver.live :=
  h.careful_of_clean.inv.cleanRelease_iff hg hs

/-- No guard is released. -/
def Unreleased : Rule := fun s op _ => op.Admissible s.driver.live ∧ s.released? op = none

instance (s : Session Sim) (op : Op) (s' : Session Sim) : Decidable (Unreleased s op s') :=
  inferInstanceAs (Decidable (_ ∧ _))

theorem Unreleased.clean (h : Unreleased s op s') : Clean s op s' :=
  ⟨h.1, fun _ hg => nomatch h.2.symm.trans hg⟩

/-- A guard of buffer 2 recorded buffer 1, which has gone; its name belongs to another buffer. -/
def recycledName : Option (Session Sim) :=
  (start .fresh { strictUnbind := true }).perform Unreleased
    [.create "a" 0 (.buffer .array), .create "b" 0 (.buffer .array), .bind "a",
      .acquire "g" 0 (.buffer .array) 2, .drop "a", .create "c" 0 (.buffer .uniform)]

theorem recycledName_clean : ∃ s s', recycledName = some s ∧
    s.step (.drop "g") = some ((), s') ∧ CleanRelease (.buffer .array) s s' := by
  have hsome : (recycledName.bind fun s => s.step (.drop "g")).isSome = true := by cbv
  obtain ⟨⟨answer, s'⟩, hs'⟩ := Option.isSome_iff_exists.mp hsome
  obtain ⟨s, hs, hstep⟩ := Option.bind_eq_some_iff.mp hs'
  have hguard : recycledName.map (fun s => s.vars.get? "g") =
      some (some (.guard 0 ⟨.buffer .array, some 1, true⟩)) := by cbv
  have hlive : recycledName.map (fun s => s.driver.live) = some [(.buffer, 1), (.buffer, 2)] := by
    cbv
  simp only [hs, Option.map_some, Option.some.injEq] at hguard hlive
  have hreach : Reachable Clean _ s :=
    (Reachable.start.perform hs).mono fun _ _ _ => Unreleased.clean
  refine ⟨s, s', hs, hstep, (clean_release_iff hreach hguard hstep).mpr ?_⟩
  rw [hlive]
  decide

/-- A guard of buffer 2 recorded buffer 1, which has gone. -/
def strandedGuard : Option (Session Sim) :=
  (start .fresh { checkErrors := false, strictUnbind := true }).perform Unreleased
    [.create "a" 0 (.buffer .array), .create "b" 0 (.buffer .array), .bind "a",
      .acquire "g" 0 (.buffer .array) 2, .drop "a"]

/-- The release of the guard binds the dead name, and the context then takes it for bound. -/
theorem strandedGuard_binds_dead : ∃ s s', strandedGuard = some s ∧
    Reachable Clean { checkErrors := false, strictUnbind := true } s ∧
    s.step (.drop "g") = some ((), s') ∧ (Kind.buffer, 1) ∉ s.driver.live ∧
    s'.driver.bindCalls = s.driver.bindCalls ++ [(.buffer .array, 1)] ∧
    (s'.enter 0).cache.isActive (.buffer .array) 1 = true ∧
    s'.driver.bound (.buffer .array) = 2 := by
  have hsome : (strandedGuard.bind fun s => s.step (.drop "g")).isSome = true := by cbv
  obtain ⟨⟨answer, s'⟩, hs'⟩ := Option.isSome_iff_exists.mp hsome
  obtain ⟨s, hs, hstep⟩ := Option.bind_eq_some_iff.mp hs'
  have hbefore : strandedGuard.map (fun s => (s.driver.live, s.driver.bindCalls)) =
      some ([(.buffer, 2)], [(.buffer .array, 1), (.buffer .array, 2)]) := by cbv
  have hafter : (strandedGuard.bind fun s => s.step (.drop "g")).map (fun x =>
      (x.2.driver.bindCalls, (x.2.enter 0).cache.isActive (.buffer .array) 1,
        x.2.driver.bound (.buffer .array))) =
      some ([(.buffer .array, 1), (.buffer .array, 2), (.buffer .array, 1)], true, 2) := by cbv
  simp only [hs, Option.map_some, Option.some.injEq, Prod.mk.injEq] at hbefore
  simp only [hs', Option.map_some, Option.some.injEq, Prod.mk.injEq] at hafter
  obtain ⟨hlive, hcalls⟩ := hbefore
  obtain ⟨hcalls', hactive, hbound⟩ := hafter
  have hreach : Reachable Clean _ s :=
    (Reachable.start.perform hs).mono fun _ _ _ => Unreleased.clean
  refine ⟨s, s', hs, hreach, hstep, ?_, ?_, hactive, hbound⟩
  · rw [hlive]
    decide
  · rw [hcalls, hcalls']
    rfl

end Session

end GraphicsObjects
