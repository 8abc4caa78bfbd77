import GraphicsObjects.Proofs.Context.Lifetime
import GraphicsObjects.Proofs.Simulation.Agreement

/-!
# A context beside one that leaves out no bind

The same work in both contexts gives the same answers, and drivers that agree. A bind that the first
context leaves out would have changed nothing that can be read, as its cache is coherent.
-/

namespace GraphicsObjects

open ContextM Sim

/-- A context whose guards do not restore, beside one that leaves out no bind, over drivers that
agree. Only work that binds needs the element buffer to be tied to the vertex array. -/
structure Context.Twin (live : List (Kind × Id)) (tied : Prop) (c c' : Context Sim) : Prop where
  ready : c.Ready live []
  tied : tied → c.driver.Tied
  agrees : c.driver.Agrees c'.driver
  lax : c.config.strictUnbind = false
  config : c'.config = { c.config with cacheBindings := false }
  textureUnits : c'.textureUnits = c.textureUnits

/-- The same answer in both contexts, which are twins again afterwards. -/
def ContextM.Follows {α : Type} (live : List (Kind × Id)) (tied : Prop) (act : ContextM Sim α) :
    Prop :=
  ∀ c c', c.Twin live tied c' → (act c').1 = (act c).1 ∧ (act c).2.Twin live tied (act c').2

namespace Context.Twin

variable {α : Type} {live : List (Kind × Id)} {tied : Prop} {c c' : Context Sim}

theorem served (h : c.Twin live tied c') {x x' : α × Sim} (hx : c.driver.Alike x x')
    (hr : x.2.registers = c.driver.registers) (hl : ∀ o ∈ c.driver.live, o ∈ x.2.live)
    (trace trace' : List Event) :
    Twin x.2.live tied { c with driver := x.2, trace } { c' with driver := x'.2, trace := trace' }
    where
  ready := ⟨rfl, h.ready.coherent.congr hr hl, nofun⟩
  tied ht := (h.tied ht).congr hr hx.elementBuffer
  agrees := hx.agrees
  lax := h.lax
  config := h.config
  textureUnits := h.textureUnits

end Context.Twin

namespace ContextM

variable {α β : Type} {live : List (Kind × Id)} {tied : Prop} {c c' : Context Sim}
variable {slot : Slot} {k : Kind} {id : Id} {q : Request}

theorem Follows.pure (a : α) : Follows live tied (Pure.pure a) := fun _ _ h => ⟨rfl, h⟩

theorem Follows.bind {x : ContextM Sim α} {f : α → ContextM Sim β} (hx : Follows live tied x)
    (hf : ∀ a, Follows live tied (f a)) : Follows live tied (x >>= f) := by
  intro c c' h
  obtain ⟨ha, h'⟩ := hx c c' h
  rw [bind_apply, bind_apply, ha]
  exact hf _ _ _ h'

/-- Work that depends on what is the same in both contexts. -/
theorem Follows.reading {f : Context Sim → ContextM Sim α}
    (he : ∀ c c', c.Twin live tied c' → f c' = f c) (hf : ∀ c, Follows live tied (f c)) :
    Follows live tied (get >>= f) := by
  intro c c' h
  rw [bind_apply, bind_apply, get_apply, get_apply, he c c' h]
  exact hf c c c' h

theorem Follows.map {x : ContextM Sim α} (f : α → β) (hx : Follows live tied x) :
    Follows live tied (f <$> x) :=
  .bind hx fun _ => .pure _

theorem Follows.forM {xs : List α} {f : α → ContextM Sim PUnit} (h : ∀ x, Follows live tied (f x)) :
    Follows live tied (xs.forM f) := by
  induction xs with
  | nil => exact .pure _
  | cons x xs ih => exact .bind (h x) fun _ => ih

theorem Follows.mapM {f : α → ContextM Sim β} (xs : List α) (h : ∀ x, Follows live tied (f x)) :
    Follows live tied (xs.mapM f) := by
  induction xs with
  | nil => exact .pure _
  | cons x xs ih =>
      rw [List.mapM_cons]
      exact .bind (h x) fun _ => .bind ih fun _ => .pure _

/-! ## Requests -/

theorem follows_perform (hq : q.IsContent) : Follows live tied (perform q) := by
  intro c c' h
  have hregistry := (edits_execute (c.driver.receive q) hq).registry
  simp only [registry, Prod.mk.injEq] at hregistry
  obtain ⟨hlive, -, hregs, -⟩ := hregistry
  have hlive' : (execute q (c.driver.receive q)).2.live = live :=
    (hlive.trans (live_receive ..)).trans h.ready.live
  have hserve := h.agrees.serve hq
  have h' := h.served hserve (hregs.trans (registers_receive ..))
    (fun o ho => hlive' ▸ h.ready.live ▸ ho) (c.trace ++ []) (c'.trace ++ [])
  rw [hlive'] at h'
  exact ⟨hserve.answer, h'⟩

theorem follows_of_log {act : ContextM Sim Unit}
    (hact : ∀ c, ∃ lastError trace, (act c).2 = { c with lastError, trace }) :
    Follows live tied act := by
  intro c c' h
  obtain ⟨lastError, trace, he⟩ := hact c
  obtain ⟨lastError', trace', he'⟩ := hact c'
  rw [he, he']
  exact ⟨rfl, ⟨h.ready.live, h.ready.coherent, nofun⟩, h.tied, h.agrees, h.lax, h.config,
    h.textureUnits⟩

theorem follows_note (e : Event) : Follows live tied (note e) :=
  follows_of_log fun c => ⟨c.lastError, c.trace ++ [e], rfl⟩

theorem follows_reportError (error : DriverError) (site : Site) :
    Follows live tied (reportError error site) := by
  have he (c : Context Sim) : reportError error site c =
      (if c.lastError = some (error, site) then Pure.pure () else note (.driverError error site))
        { c with lastError := some (error, site) } := rfl
  refine follows_of_log fun c => ?_
  by_cases hlast : c.lastError = some (error, site)
  · refine ⟨some (error, site), c.trace, ?_⟩
    rw [he, if_pos hlast]
    rfl
  · refine ⟨some (error, site), c.trace ++ [.driverError error site], ?_⟩
    rw [he, if_neg hlast]
    rfl

theorem follows_pollError : Follows live tied (pollError : ContextM Sim (Option DriverError)) :=
  .bind (follows_perform trivial) fun _ => .pure _

theorem follows_checkError (site : Site) : Follows live tied (checkError site) := by
  unfold checkError
  refine .reading (fun c c' h => by simp only [h.config]) fun c => ?_
  split
  · refine .bind follows_pollError fun e => ?_
    cases e with
    | none => exact .pure _
    | some error => exact follows_reportError error site
  · exact .pure _

theorem follows_command {site : Site} (hq : q.IsContent) : Follows live tied (command q site) :=
  .bind (follows_perform hq) fun _ => .bind (follows_checkError site) fun _ => .pure _

/-! ## Binds -/

/-- A bind that may be left out in one context and is issued in the other. -/
theorem twin_bindSlot {held : List (Slot × Id)} (h : c.Twin live True c') (hr : c.Ready live held)
    (ha : slot.Admits live id)
    (hu : ∀ unit target, slot = .texture unit target → (.activeTexture, unit) ∈ held)
    (hs : ∀ h ∈ held, h.1.IsRegister ∧ h.1 ∉ slot.written) :
    (bindSlot slot id c).2.Twin live True (bindSlot slot id c').2 := by
  have hw : Work live (fun _ _ => True) held _ (bindSlot slot id) :=
    work_bindSlot ha hu hs Sim.within_anything
  have hready : (bindSlot slot id c).2.Ready live [] := (hw c hr).1.weaken nofun
  have hunit : ∀ unit target, slot = .texture unit target → c.driver.activeUnit = unit :=
    fun unit target he => hr.held _ (hu unit target he)
  have hplace : (c.driver.record (.bind slot id)).bind slot id =
      (c.driver.record (.bind slot id)).place slot id :=
    bind_of_admits (h.ready.live ▸ ha) (located_of_activeUnit hunit)
  have hplace' : (c'.driver.record (.bind slot id)).bind slot id =
      (c'.driver.record (.bind slot id)).place slot id :=
    bind_of_admits ((h.agrees.live.trans h.ready.live).symm ▸ ha)
      (located_of_activeUnit fun unit target he => (h.agrees.bound _).trans (hunit unit target he))
  have hissued : (bindSlot slot id c').2 = issued c' slot id := by
    rw [bindSlot_eq, h.config]
    rfl
  rw [hissued]
  rw [bindSlot_eq] at hready ⊢
  split at hready
  · -- the second driver is told to bind what the coherent cache knows to be bound
    rename_i helided
    have hactive : c.cache.isActive slot id = true := (Bool.and_eq_true_iff.mp helided).2
    rw [if_pos helided]
    refine ⟨hready, h.tied, ?_, h.lax, h.config, h.textureUnits⟩
    have hagrees := (h.agrees.record_bind slot id).place_bound (h.tied trivial)
      fun r => h.ready.coherent.bound_of_isActive hactive
    rw [← hplace'] at hagrees
    exact hagrees
  · rename_i hneeded
    rw [if_neg hneeded]
    refine ⟨hready, fun _ => ?_, ?_, h.lax, h.config, h.textureUnits⟩
    · have htied : (c.driver.record (.bind slot id)).Tied := h.tied trivial
      change ((c.driver.record _).bind slot id).Tied
      rw [hplace]
      exact htied.place slot id
    · have hagrees := (h.agrees.record (.bind slot id)).place slot id
      rw [← hplace, ← hplace'] at hagrees
      exact hagrees

theorem twin_bind (h : c.Twin live True c') (ha : slot.Admits live id) :
    (ContextM.bind slot id c).2.Twin live True (ContextM.bind slot id c').2 := by
  cases slot with
  | texture unit target =>
      have hno : ∀ u target, Slot.activeTexture = .texture u target →
          (Slot.activeTexture, u) ∈ ([] : List (Slot × Id)) := by
        intro u target he
        cases he
      have hw : Work live (fun _ _ => True) [] [(.activeTexture, unit)]
          (bindSlot .activeTexture unit) :=
        work_bindSlot (Slot.admits_unit ..) hno (List.forall_mem_nil _) Sim.within_anything
      have h' := twin_bindSlot h h.ready (Slot.admits_unit live unit) hno (List.forall_mem_nil _)
      refine twin_bindSlot h' (hw c h.ready).1 ha ?_ ?_
      · intro u t he
        cases he
        exact List.mem_cons_self
      · intro x hx
        rw [List.mem_singleton.mp hx]
        exact ⟨by simp [Slot.IsRegister], by simp [Slot.written, Slot.registers]⟩
  | _ =>
      refine twin_bindSlot h h.ready ha (fun unit target he => ?_) (List.forall_mem_nil _)
      cases he

theorem follows_bind (ha : slot.Admits live id) : Follows live True (ContextM.bind slot id) :=
  fun _ _ h => ⟨rfl, twin_bind h ha⟩

/-! ## Guards -/

theorem release_of_lax {g : Guard} (hg : g.restore = false) :
    (release g : ContextM Sim Unit) = Pure.pure () := by
  unfold release
  split
  · rw [hg]
    rfl
  · rfl

/-- Guards that do not restore hold nothing. -/
theorem holding_of_lax (hs : c.config.strictUnbind = false) (slot : Slot) (id : Id)
    (act : ContextM Sim α) :
    holding slot id act c = (do ContextM.bind slot id; act : ContextM Sim α) c := by
  have hrelease := release_of_lax (g := (acquire slot id c).1) hs
  have he : holding slot id act c = (do
      let a ← act
      release (acquire slot id c).1
      Pure.pure a : ContextM Sim α) (acquire slot id c).2 := rfl
  rw [he, hrelease]
  rfl

theorem follows_holding {act : ContextM Sim α} (ha : slot.Admits live id)
    (hact : Follows live True act) : Follows live True (holding slot id act) := by
  intro c c' h
  have hs : c'.config.strictUnbind = false := by
    rw [h.config]
    exact h.lax
  rw [holding_of_lax h.lax, holding_of_lax hs]
  exact (follows_bind ha).bind (fun _ => hact) c c' h

theorem follows_interrupted (ha : slot.Admits live id) :
    Follows live True (interrupted slot id : ContextM Sim Unit) :=
  follows_holding ha (.pure ())

/-! ## Forgetting and queries -/

theorem follows_updateCache {f : BindingCache → BindingCache}
    (hf : ∀ (c : BindingCache) (s : Sim), c.Coherent s → (f c).Coherent s) :
    Follows live tied (updateCache f) :=
  fun _ _ h => ⟨rfl, ⟨h.ready.live, hf _ _ h.ready.coherent, nofun⟩, h.tied, h.agrees, h.lax,
    h.config, h.textureUnits⟩

theorem follows_invalidateBinding (slot : Slot) : Follows live tied (invalidateBinding slot) :=
  follows_updateCache fun _ _ h => h.invalidate slot

theorem follows_invalidateBindings : Follows live tied invalidateBindings :=
  .bind (follows_note _) fun _ => follows_updateCache fun c s _ => .invalidateAll c s

theorem follows_getInteger (parameter : Enumerant) :
    Follows live tied (getInteger parameter : ContextM Sim Int) :=
  follows_perform trivial

/-- Both contexts remember the number of texture units, or both have to ask. -/
theorem follows_maxTextureUnits : Follows live tied (maxTextureUnits : ContextM Sim Nat) := by
  unfold maxTextureUnits
  refine .reading (fun c c' h => by simp only [h.textureUnits]) fun c => ?_
  split
  · exact .pure _
  · refine .bind (follows_getInteger _) fun n => .bind (fun _ _ h => ⟨rfl, ?_⟩) fun _ => .pure _
    exact ⟨⟨h.ready.live, h.ready.coherent, nofun⟩, h.tied, h.agrees, h.lax, h.config, rfl⟩

theorem follows_pixelStore (direction : PixelDirection) :
    Follows live tied (pixelStore direction : ContextM Sim PixelStore) :=
  .map _ (.mapM _ follows_getInteger)

/-! ## Creation -/

end ContextM

namespace Sim

theorem live_gen (s : Sim) (k : Kind) : ∀ o ∈ s.live, o ∈ (s.gen k).2.live := by
  intro o ho
  rw [gen_eq]
  split
  · exact ho
  · exact List.mem_cons_of_mem _ ho

end Sim

/-- The same outcome in twins, which are twins again, with what was created. -/
structure Context.MadeAlike (tied : Prop) (made : ContextM Sim (Except Failure Id))
    (c c' : Context Sim) : Prop where
  answer : (made c').1 = (made c).1
  twin : ∃ live, (made c).2.Twin live tied (made c').2

namespace ContextM

variable {live : List (Kind × Id)} {tied : Prop} {c c' : Context Sim}
variable {k : Kind} {id : Id} {q : Request}

theorem follows_settle (k : Kind) (id : Id) (site : Site) (e : Event) :
    Follows live tied (settle k id site e) := by
  refine .bind (follows_checkError site) fun _ => ?_
  unfold created
  split
  · exact .pure _
  · exact .bind (follows_note e) fun _ => .pure _

theorem madeAlike_of_gen (h : c.Twin live tied c')
    (hx : c.driver.Alike (execute q (c.driver.receive q)) (execute q (c'.driver.receive q)))
    (hg : (execute q (c.driver.receive q)).2.registry = (c.driver.gen k).2.registry)
    (name : q.Answer → Id) (site : Site) (e : Id → Event) :
    Context.MadeAlike tied (do
      let a ← perform q
      settle k (name a) site (e (name a))) c c' := by
  simp only [registry, Prod.mk.injEq] at hg
  obtain ⟨hlive, -, hregs, -⟩ := hg
  have h' := h.served hx (hregs.trans (registers_gen ..))
    (fun o ho => hlive ▸ live_gen _ k o ho) (c.trace ++ []) (c'.trace ++ [])
  have hanswer : (perform q c').1 = (perform q c).1 := hx.answer
  obtain ⟨ha, htwin⟩ := follows_settle k (name (perform q c).1) site
    (e (name (perform q c).1)) _ _ h'
  constructor
  · rw [bind_apply, bind_apply, hanswer]
    exact ha
  · rw [bind_apply, bind_apply, hanswer]
    exact ⟨_, htwin⟩

theorem madeAlike_createObject (h : c.Twin live tied c') (hk : ¬ (k = .shader ∨ k = .program)) :
    Context.MadeAlike tied (createObject k) c c' := by
  have he (s : Sim) : execute (.genObjects k [0]) s = genMany k 1 s := by
    simp only [execute, if_neg hk]
    rfl
  refine madeAlike_of_gen (q := .genObjects k [0]) (k := k) h ?_ ?_ (·.headD 0) .creatingObject
    (.createdObject k)
  · exact he c.driver ▸ he c'.driver ▸ h.agrees.genMany k 1
  · exact congrArg (·.2.registry) (he c.driver)

theorem madeAlike_createShader (h : c.Twin live tied c') (stage : ShaderStage) :
    Context.MadeAlike tied (createShader stage) c c' :=
  madeAlike_of_gen (q := .createShader stage) h (h.agrees.createShader stage)
    (registry_createShader c.driver stage) id .creatingShader (.createdShader stage)

theorem madeAlike_createProgram (h : c.Twin live tied c') :
    Context.MadeAlike tied createProgram c c' :=
  madeAlike_of_gen (q := .createProgram) h h.agrees.createProgram
    (registry_createProgram c.driver) id .creatingProgram .createdProgram

/-! ## Destruction -/

/-- What was bound stays tied if the object is neither a buffer nor a vertex array. -/
theorem twin_destroy (h : c.Twin live tied c') (hz : id ≠ 0) (hl : (k, id) ∈ live) :
    (destroy k id c).2.Twin (live.filter (· ≠ (k, id))) (tied ∧ k ≠ .buffer ∧ k ≠ .vertexArray)
      (destroy k id c').2 := by
  let gone (d : Context Sim) : Context Sim :=
    { d with
      driver := d.driver.delete k id
      cache := d.cache.forgetObject k id
      trace := d.trace ++ [] ++ [.deletedObject k id] }
  have he (d : Context Sim) : destroy k id d = checkError .deletingObject (gone d) := by
    cases k <;> rfl
  have hlive : (k, id) ∈ c.driver.live := h.ready.live ▸ hl
  have hlive' : (c.driver.delete k id).live = live.filter (· ≠ (k, id)) := by
    rw [live_delete hz hlive, h.ready.live]
  have hgone : (gone c).Twin (live.filter (· ≠ (k, id))) (tied ∧ k ≠ .buffer ∧ k ≠ .vertexArray)
      (gone c') :=
    { ready := ⟨hlive', h.ready.coherent.delete hz hlive, nofun⟩
      tied := fun ht => (h.tied ht.1).delete hz hlive ht.2.1 ht.2.2
      agrees := h.agrees.delete k id
      lax := h.lax
      config := h.config
      textureUnits := h.textureUnits }
  rw [he, he]
  exact (follows_checkError _ _ _ hgone).2

theorem twin_destroyAll {names : List (Kind × Id)} (h : c.Twin live tied c') (hn : names.Nodup)
    (hl : ∀ n ∈ names, n ∈ live) (hz : ∀ n ∈ names, n.2 ≠ 0) :
    ∃ live', (destroyAll names c).2.Twin live'
      (tied ∧ ∀ n ∈ names, n.1 ≠ .buffer ∧ n.1 ≠ .vertexArray) (destroyAll names c').2 := by
  induction names generalizing live tied c c' with
  | nil => exact ⟨live, { h with tied := fun ht => h.tied ht.1 }⟩
  | cons n ns ih =>
      obtain ⟨kind, id⟩ := n
      obtain ⟨hne, hns⟩ := List.nodup_cons.mp hn
      have hrest : ∀ m ∈ ns, m ∈ live.filter (· ≠ (kind, id)) := by
        intro m hm
        refine List.mem_filter.mpr ⟨hl m (List.mem_cons_of_mem _ hm), ?_⟩
        refine decide_eq_true fun e => hne ?_
        rw [← e]
        exact hm
      obtain ⟨live', h'⟩ := ih (twin_destroy h (hz _ List.mem_cons_self) (hl _ List.mem_cons_self))
        hns hrest fun m hm => hz m (List.mem_cons_of_mem _ hm)
      refine ⟨live', { h' with tied := fun ht => h'.tied ⟨⟨ht.1, ?_⟩, fun m hm => ?_⟩ }⟩
      · exact ht.2 _ List.mem_cons_self
      · exact ht.2 m (List.mem_cons_of_mem _ hm)

end ContextM

end GraphicsObjects
