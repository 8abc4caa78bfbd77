import GraphicsObjects.Proofs.Context.Holding

/-!
# Creation and destruction in a context

Creation gives an object that was not live, or fails and leaves the live objects as they are.
Destruction of a live object makes the cache forget it and takes it from the live ones, and is
logged.
-/

namespace GraphicsObjects

open Simulation

namespace Sim

variable {s s' : Sim} {k : Kind} {id : Id}

theorem WellNamed.congr (h : s.WellNamed) (hp : s'.pools = s.pools) (hl : s'.live = s.live) :
    s'.WellNamed := by
  intro n
  rw [poolOf, hp, hl]
  exact h n

/-- What has the registry of a driver has its names. -/
theorem WellNamed.of_registry (h : s.WellNamed) (hr : s'.registry = s.registry) : s'.WellNamed := by
  simp only [registry, Prod.mk.injEq] at hr
  exact h.congr hr.2.1 hr.1

/-- Creation fails and does nothing, or makes an object with a name. -/
theorem gen_cases (h : s.WellNamed) (k : Kind) :
    ((s.gen k).1 = 0 ∧ (s.gen k).2 = s) ∨
      ((s.gen k).1 ≠ 0 ∧ (s.gen k).2.live = (k, (s.gen k).1) :: s.live ∧
        (s.gen k).2.registers = s.registers ∧ (s.gen k).2.deleted = s.deleted) := by
  have hnew := h.gen k
  rw [gen_eq] at hnew ⊢
  by_cases hf : s.failCreation
  · rw [if_pos hf]
    exact .inl ⟨rfl, rfl⟩
  · rw [if_neg hf] at hnew ⊢
    refine .inr ⟨hnew.ne_zero List.mem_cons_self, rfl, rfl, ?_⟩
    simp [deleted]

/-- A new name is not one of a live object of its kind, nor of one that is named from the same
pool. -/
theorem not_mem_live_gen (h : s.WellNamed) (hz : (s.gen k).1 ≠ 0) {k' : Kind}
    (hk : namingKind k' = namingKind k) : (k', (s.gen k).1) ∉ s.live := by
  rcases gen_cases h k with ⟨hzero, -⟩ | ⟨-, hlive, -⟩
  · exact absurd hzero hz
  · intro hm
    have hnodup := (List.nodup_append.mp (h.gen k (namingKind k)).nodup).2.1
    rw [hlive, namesIn_cons, if_pos rfl] at hnodup
    exact (List.nodup_cons.mp hnodup).1 (hk ▸ mem_namesIn hm)

theorem registry_createShader (s : Sim) (stage : ShaderStage) :
    (s.createShader stage).2.registry = (s.gen .shader).2.registry := by
  unfold createShader
  dsimp only
  split <;> rfl

theorem registry_createProgram (s : Sim) :
    s.createProgram.2.registry = (s.gen .program).2.registry := by
  unfold createProgram
  dsimp only
  split <;> rfl

theorem stateOf_delete (hz : id ≠ 0) (hl : (k, id) ∈ s.live) {k' : Kind} {i : Id}
    (h : (k', i) ≠ (k, id)) : (s.delete k id).stateOf k' i = s.stateOf k' i := by
  have herase : ∀ {β : Type} (t : Table Id β), k' = k → (t.erase id).get? i = t.get? i := by
    intro β t hk
    rw [Table.get?_erase, if_neg fun hi => h (by rw [hk, hi])]
  rw [delete_eq hz hl]
  cases k <;> cases k' <;> first
    | rfl
    | simp [stateOf, forget, herase, textureState, framebufferState, vertexArrayState, Table.getD]

theorem deleted_delete (hz : id ≠ 0) (hl : (k, id) ∈ s.live) :
    (s.delete k id).deleted = s.deleted ++ [(k, id)] := by
  rw [delete_eq hz hl]
  simp [deleted]

end Sim

/-! ## Creation -/

namespace Context

/-- The outcome of creation in a context over a driver with the objects `live`. -/
structure Made (live : List (Kind × Id)) (kind : Kind) (c : Context Sim) (made : Except Failure Id)
    (c' : Context Sim) : Prop where
  config : c'.config = c.config
  wellNamed : c'.driver.WellNamed
  deleted : c'.driver.deleted = c.driver.deleted
  logged : deletions c'.trace = deletions c.trace
  failed : ∀ e, made = .error e → c'.Ready live []
  named : ∀ id, made = .ok id → id ≠ 0 ∧ c'.Ready ((kind, id) :: live) []

/-- What work keeps, whatever it may change. -/
theorem Kept.wellNamed {live live' : List (Kind × Id)} {may : Kind → Id → Prop}
    {held held' : List (Slot × Id)} {c c' : Context Sim} (h : c.Kept live' may c')
    (hc : c.Ready live held) (hc' : c'.Ready live held') (hw : c.driver.WellNamed) :
    c'.driver.WellNamed :=
  hw.congr h.pools (hc'.live.trans hc.live.symm)

end Context

namespace ContextM

open Sim

variable {live : List (Kind × Id)} {k : Kind} {id : Id} {c : Context Sim}

/-- What is left to do after the request that creates an object. -/
def settle (kind : Kind) (id : Id) (site : Site) (e : Event) :
    ContextM Sim (Except Failure Id) := do
  checkError site
  created kind id e

theorem work_settle {may : Kind → Id → Prop} {held : List (Slot × Id)} {site : Site} {e : Event}
    (he : e.deletion? = none) : Work live may held held (settle k id site e) := by
  refine .bind (work_checkError site) fun _ => ?_
  unfold created
  split
  · exact .pure _
  · exact .bind (work_note he) fun _ => .pure _

theorem settle_fst (k : Kind) (id : Id) (site : Site) (e : Event) (c : Context Sim) :
    (settle k id site e c).1 = if id = 0 then .error (.creationFailed k) else .ok id := by
  change ((if _ then _ else _ : ContextM Sim (Except Failure Id)) _).1 = _
  split <;> rfl

/-- A request that created an object, or failed to, settled. -/
theorem made_of_gen {driver : Sim} {site : Site} {e : Event} (h : c.Ready live [])
    (hw : c.driver.WellNamed) (he : e.deletion? = none)
    (hg : driver.registry = (c.driver.gen k).2.registry) (hid : id = (c.driver.gen k).1) :
    c.Made live k (settle k id site e { c with driver, trace := c.trace ++ [] }).1
      (settle k id site e { c with driver, trace := c.trace ++ [] }).2 := by
  simp only [registry, Prod.mk.injEq] at hg
  obtain ⟨hlive, hpools, hregs, hcalls⟩ := hg
  have hdeleted : driver.deleted = (c.driver.gen k).2.deleted := by
    simp only [deleted, hcalls]
  have hwell : driver.WellNamed := (hw.gen k).congr hpools hlive
  rw [settle_fst, hid]
  have hwork {ns} : Work ns (fun _ _ => True) [] [] (settle k (c.driver.gen k).1 site e) :=
    work_settle he
  rcases gen_cases hw k with ⟨hz, hs⟩ | ⟨hz, hl, hr, hd⟩
  · rw [hs] at hlive hregs hdeleted
    have hready : Context.Ready live [] { c with driver, trace := c.trace ++ [] } :=
      ⟨hlive.trans h.live, h.coherent.congr hregs fun o ho => hlive ▸ ho, List.forall_mem_nil _⟩
    obtain ⟨hready', hk⟩ := hwork _ hready
    rw [if_pos hz]
    refine ⟨hk.config, hk.wellNamed hready hready' hwell, hk.deleted.trans hdeleted, ?_, ?_, ?_⟩
    · exact hk.logged.trans (congrArg deletions (List.append_nil _))
    · exact fun _ _ => hready'
    · intro id' hid'
      cases hid'
  · have hnew : driver.live = (k, (c.driver.gen k).1) :: live := by
      rw [hlive, hl, h.live]
    have hready : Context.Ready ((k, (c.driver.gen k).1) :: live) []
        { c with driver, trace := c.trace ++ [] } := by
      refine ⟨hnew, h.coherent.congr (hregs.trans hr) fun o ho => ?_, List.forall_mem_nil _⟩
      rw [hlive, hl]
      exact List.mem_cons_of_mem _ ho
    obtain ⟨hready', hk⟩ := hwork _ hready
    rw [if_neg hz]
    refine ⟨hk.config, hk.wellNamed hready hready' hwell, ?_, ?_, ?_, ?_⟩
    · exact (hk.deleted.trans hdeleted).trans hd
    · exact hk.logged.trans (congrArg deletions (List.append_nil _))
    · intro e' he'
      cases he'
    · intro id' hid'
      cases hid'
      exact ⟨hz, hready'⟩

theorem made_createObject (h : c.Ready live []) (hw : c.driver.WellNamed)
    (hk : ¬ (k = .shader ∨ k = .program)) :
    c.Made live k (createObject k c).1 (createObject k c).2 := by
  have he : execute (.genObjects k [0]) c.driver =
      ([(c.driver.gen k).1], (c.driver.gen k).2) := by
    simp only [execute, if_neg hk]
    rfl
  refine made_of_gen h hw (e := .createdObject k _) rfl ?_ ?_
  · exact congrArg (fun x => x.2.registry) he
  · exact congrArg (fun x => x.1.headD 0) he

theorem made_createShader (h : c.Ready live []) (hw : c.driver.WellNamed) (stage : ShaderStage) :
    c.Made live .shader (createShader stage c).1 (createShader stage c).2 := by
  refine made_of_gen h hw rfl ?_ rfl
  exact registry_createShader c.driver stage

theorem made_createProgram (h : c.Ready live []) (hw : c.driver.WellNamed) :
    c.Made live .program (createProgram c).1 (createProgram c).2 := by
  refine made_of_gen h hw rfl ?_ rfl
  exact registry_createProgram c.driver

end ContextM

/-! ## Destruction -/

/-- A live object is destroyed: nothing else changes but what was bound to its name. -/
structure Context.Destroyed (live : List (Kind × Id)) (kind : Kind) (id : Id)
    (c c' : Context Sim) : Prop where
  config : c'.config = c.config
  wellNamed : c'.driver.WellNamed
  ready : c'.Ready (live.filter (· ≠ (kind, id))) []
  deleted : c'.driver.deleted = c.driver.deleted ++ [(kind, id)]
  logged : deletions c'.trace = deletions c.trace ++ [(kind, id)]
  others : ∀ k i, (k, i) ≠ (kind, id) → c'.driver.stateOf k i = c.driver.stateOf k i

namespace ContextM

open Sim

variable {live : List (Kind × Id)} {k : Kind} {id : Id} {c : Context Sim}

theorem destroyed_destroy (h : c.Ready live []) (hw : c.driver.WellNamed) (hl : (k, id) ∈ live) :
    c.Destroyed live k id (destroy k id c).2 := by
  have hlive : (k, id) ∈ c.driver.live := h.live ▸ hl
  have hz : id ≠ 0 := hw.ne_zero hlive
  let c₁ : Context Sim :=
    { c with
      driver := c.driver.delete k id
      cache := c.cache.forgetObject k id
      trace := c.trace ++ [] ++ [.deletedObject k id] }
  have he : destroy k id c = checkError .deletingObject c₁ := by
    cases k <;> rfl
  have hready : c₁.Ready (live.filter (· ≠ (k, id))) [] := by
    refine ⟨?_, h.coherent.delete hz hlive, nofun⟩
    change (c.driver.delete k id).live = _
    rw [live_delete hz hlive, h.live]
  have hwork : Work (live.filter (· ≠ (k, id))) (fun _ _ => False) [] []
      (checkError .deletingObject) := work_checkError _
  obtain ⟨hready', hk⟩ := hwork c₁ hready
  rw [he]
  refine ⟨hk.config, hk.wellNamed hready hready' (hw.delete k id), hready', ?_, ?_, ?_⟩
  · exact hk.deleted.trans (deleted_delete hz hlive)
  · refine hk.logged.trans ?_
    simp [c₁, deletions, Event.deletion?]
  · intro k' i hne
    exact (hk.others k' i not_false).trans (stateOf_delete hz hlive hne)

/-- Destroys several objects, in order. -/
def destroyAll (names : List (Kind × Id)) : ContextM Sim Unit :=
  names.forM fun n => destroy n.1 n.2

end ContextM

/-- Several live objects are destroyed, in order. -/
structure Context.AllDestroyed (live names : List (Kind × Id)) (c c' : Context Sim) : Prop where
  config : c'.config = c.config
  wellNamed : c'.driver.WellNamed
  ready : c'.Ready (live.filter (· ∉ names)) []
  deleted : c'.driver.deleted = c.driver.deleted ++ names
  logged : deletions c'.trace = deletions c.trace ++ names
  others : ∀ k i, (k, i) ∉ names → c'.driver.stateOf k i = c.driver.stateOf k i

theorem ContextM.allDestroyed_destroyAll {live names : List (Kind × Id)} {c : Context Sim}
    (h : c.Ready live []) (hw : c.driver.WellNamed) (hn : names.Nodup)
    (hl : ∀ n ∈ names, n ∈ live) : c.AllDestroyed live names (destroyAll names c).2 := by
  induction names generalizing live c with
  | nil =>
      refine ⟨rfl, hw, ?_, (List.append_nil _).symm, (List.append_nil _).symm, fun _ _ _ => rfl⟩
      rw [List.filter_eq_self.mpr fun n _ => by simp]
      exact h
  | cons n ns ih =>
      obtain ⟨kind, id⟩ := n
      obtain ⟨hne, hns⟩ := List.nodup_cons.mp hn
      have hd := destroyed_destroy h hw (hl _ List.mem_cons_self)
      have hrest : ∀ m ∈ ns, m ∈ live.filter (· ≠ (kind, id)) := by
        intro m hm
        refine List.mem_filter.mpr ⟨hl m (List.mem_cons_of_mem _ hm), ?_⟩
        refine decide_eq_true fun e => hne ?_
        rw [← e]
        exact hm
      have ha := ih hd.ready hd.wellNamed hns hrest
      have hfilter : (live.filter (· ≠ (kind, id))).filter (· ∉ ns) =
          live.filter (· ∉ (kind, id) :: ns) := by
        rw [List.filter_filter]
        refine List.filter_congr fun m _ => ?_
        simp [Bool.and_comm]
      refine ⟨ha.config.trans hd.config, ha.wellNamed, hfilter ▸ ha.ready, ?_, ?_, ?_⟩
      · refine ha.deleted.trans ?_
        rw [hd.deleted, List.append_assoc]
        rfl
      · refine ha.logged.trans ?_
        rw [hd.logged, List.append_assoc]
        rfl
      · intro k i hm
        obtain ⟨hki, hmem⟩ := not_or.mp fun e => hm (List.mem_cons.mpr e)
        exact (ha.others k i hmem).trans (hd.others k i hki)

end GraphicsObjects
