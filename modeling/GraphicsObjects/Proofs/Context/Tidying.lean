import GraphicsObjects.Proofs.Context.Linking
import GraphicsObjects.Proofs.Simulation.Ties

/-!
# What work keeps of the driver

Work on contents and binds keep the driver tidy and its element buffer settled, also where objects
are tied together. Creation ties nothing. Destruction unbinds what it deletes and nothing else.
-/

namespace GraphicsObjects.ContextM

open Sim

variable {α β : Type} {tied : Prop} {k : Kind} {id : Id} {q : Request} {site : Site}
variable {live : List (Kind × Id)} {may : Kind → Id → Prop} {held held' : List (Slot × Id)}
variable {c : Context Sim}

/-! ## Work on contents -/

/-- The work leaves the driver tidy, and the element buffer settled if it was. -/
def KeepsTidy (act : ContextM Sim α) : Prop :=
  ∀ c, c.driver.Tidy → (act c).2.driver.Tidy ∧ (c.driver.Settled → (act c).2.driver.Settled)

theorem KeepsLinks.keepsTidy {act : ContextM Sim α} (h : KeepsLinks tied act) : KeepsTidy act :=
  fun c ht => ⟨(h c).tidy ht, (h c).settled⟩

theorem KeepsTidy.bind {x : ContextM Sim α} {f : α → ContextM Sim β} (hx : KeepsTidy x)
    (hf : ∀ a, KeepsTidy (f a)) : KeepsTidy (x >>= f) := by
  intro c ht
  obtain ⟨ht₁, hs₁⟩ := hx c ht
  obtain ⟨ht₂, hs₂⟩ := hf (x c).1 (x c).2 ht₁
  exact ⟨ht₂, hs₂ ∘ hs₁⟩

theorem keepsTidy_command (hq : q.IsContent) : KeepsTidy (command q site) := by
  intro c ht
  have hrest : KeepsLinks False (do checkError site; pure (perform q c).1) :=
    .bind (keepsLinks_checkError site) fun _ => .pure _
  exact ⟨(hrest _).tidy (ht.serve q), fun hs => (hrest _).settled (hs.content hq)⟩

/-- What work that changes certain objects keeps. -/
theorem Work.preserves {act : ContextM Sim α} (hw : Work live may held held' act)
    (hk : KeepsTidy act) (hc : c.Ready live held) (ht : c.driver.Tidy) :
    c.driver.Preserves tied may (act c).2.driver where
  links k i hm _ := links_congr ((hw c hc).2.others k i hm)
  tidy := (hk c ht).1
  settled := (hk c ht).2

/-! ## Checking for errors -/

theorem bound_checkError (site : Site) (c : Context Sim) (r : Slot) :
    (checkError site c).2.driver.bound r = c.driver.bound r := by
  have htaken : c.driver.takeError.2.bound r = c.driver.bound r := by
    unfold takeError
    split <;> rfl
  rw [driver_checkError]
  split
  · exact htaken
  · rfl

/-! ## Creation -/

theorem keepsLinks_settle (e : Event) : KeepsLinks tied (settle k id site e) := by
  refine .bind (keepsLinks_checkError site) fun _ => ?_
  unfold created
  split
  · exact .pure _
  · exact .bind (keepsLinks_note _) fun _ => .pure _

/-- What is left to do after a request that creates an object. -/
theorem preserves_settled {d : Sim} {made : Except Failure Id × Context Sim} {e : Event}
    (h : c.driver.Preserves tied may d)
    (hm : made = settle k id site e { c with driver := d, trace := c.trace ++ [] }) :
    c.driver.Preserves tied may made.2.driver := by
  rw [hm]
  have hrest : KeepsLinks tied (settle k id site e) := keepsLinks_settle e
  exact h.trans ((hrest { c with driver := d, trace := c.trace ++ [] }).preserves h.tidy may)

theorem preserves_createObject (ht : c.driver.Tidy) (hk : ¬ (k = .shader ∨ k = .program)) :
    c.driver.Preserves tied may (createObject k c).2.driver := by
  have he : execute (.genObjects k [0]) c.driver =
      ([(c.driver.gen k).1], (c.driver.gen k).2) := by
    simp only [execute, if_neg hk]
    rfl
  refine preserves_settled (d := (execute (.genObjects k [0]) c.driver).2) ?_ rfl
  rw [he]
  exact ⟨fun _ _ _ _ => links_congr (stateOf_gen ..), ht.gen hk, fun hs => hs.gen k⟩

theorem preserves_createShader (ht : c.driver.Tidy) (stage : ShaderStage) :
    c.driver.Preserves tied may (createShader stage c).2.driver := by
  have hmade : c.driver.Preserves tied may (c.driver.createShader stage).2 :=
    ⟨fun _ _ _ _ => links_createShader .., ht.createShader stage, fun hs => hs.createShader stage⟩
  exact preserves_settled hmade rfl

theorem preserves_createProgram (ht : c.driver.Tidy) (hw : c.driver.WellNamed) :
    c.driver.Preserves tied may (createProgram c).2.driver := by
  have hmade : c.driver.Preserves tied may c.driver.createProgram.2 :=
    ⟨fun _ _ _ _ => links_createProgram ht hw .., ht.createProgram, fun hs => hs.createProgram⟩
  exact preserves_settled hmade rfl

/-! ## Destruction -/

theorem driver_destroy (k : Kind) (id : Id) (c : Context Sim) : ∃ c' : Context Sim,
    c'.driver = c.driver.delete k id ∧ destroy k id c = checkError .deletingObject c' := by
  refine ⟨{ c with
    driver := c.driver.delete k id
    cache := c.cache.forgetObject k id
    trace := c.trace ++ [] ++ [.deletedObject k id] }, rfl, ?_⟩
  cases k <;> rfl

theorem tidy_destroy (ht : c.driver.Tidy) : (destroy k id c).2.driver.Tidy := by
  obtain ⟨c', hd, he⟩ := driver_destroy k id c
  rw [he]
  have hcheck : KeepsLinks False (checkError .deletingObject) := keepsLinks_checkError _
  refine (hcheck c').tidy ?_
  rw [hd]
  exact ht.delete k id

theorem tidy_destroyAll (names : List (Kind × Id)) (ht : c.driver.Tidy) :
    (destroyAll names c).2.driver.Tidy := by
  induction names generalizing c with
  | nil => exact ht
  | cons n ns ih => exact ih (tidy_destroy ht)

theorem bound_destroy (hw : c.driver.WellNamed) (hl : (k, id) ∈ c.driver.live) {r : Slot}
    (hr : r.IsRegister) : (destroy k id c).2.driver.bound r =
      if r.kind? = some k ∧ c.driver.bound r = id then 0 else c.driver.bound r := by
  obtain ⟨c', hd, he⟩ := driver_destroy k id c
  rw [he, bound_checkError, hd, bound_delete (hw.ne_zero hl) hl hr]

/-- A register still holds what it held, or held an object that was destroyed. -/
theorem bound_destroyAll {names : List (Kind × Id)} (h : c.Ready live []) (hw : c.driver.WellNamed)
    (hn : names.Nodup) (hl : ∀ n ∈ names, n ∈ live) {r : Slot} (hr : r.IsRegister) :
    (destroyAll names c).2.driver.bound r = c.driver.bound r ∨
      (destroyAll names c).2.driver.bound r = 0 ∧
        ∃ k, r.kind? = some k ∧ (k, c.driver.bound r) ∈ names := by
  induction names generalizing live c with
  | nil => exact .inl rfl
  | cons n ns ih =>
      obtain ⟨kind, id⟩ := n
      obtain ⟨hne, hns⟩ := List.nodup_cons.mp hn
      have hlive : (kind, id) ∈ c.driver.live := h.live ▸ hl _ List.mem_cons_self
      have hd := destroyed_destroy h hw (hl _ List.mem_cons_self)
      have hrest : ∀ m ∈ ns, m ∈ live.filter (· ≠ (kind, id)) := fun m hm =>
        List.mem_filter.mpr ⟨hl m (List.mem_cons_of_mem _ hm), decide_eq_true fun e => hne (e ▸ hm)⟩
      have hfirst := bound_destroy hw hlive hr
      have hlater := ih hd.ready hd.wellNamed hns hrest
      change (destroyAll ns (destroy kind id c).2).2.driver.bound r = _ ∨ _
      split at hfirst
      · rename_i hgone
        refine .inr ⟨?_, kind, hgone.1, hgone.2 ▸ List.mem_cons_self⟩
        rcases hlater with hsame | ⟨hzero, -⟩
        · exact hsame.trans hfirst
        · exact hzero
      · rw [hfirst] at hlater
        rcases hlater with hsame | ⟨hzero, k, hk, hm⟩
        · exact .inl hsame
        · exact .inr ⟨hzero, k, hk, List.mem_cons_of_mem _ hm⟩

/-- The element buffer stays settled if no vertex array that is left has a buffer that went. -/
theorem settled_destroyAll {names : List (Kind × Id)} (h : c.Ready live [])
    (hw : c.driver.WellNamed) (hn : names.Nodup) (hl : ∀ n ∈ names, n ∈ live)
    (ht : c.driver.Tidy) (hs : c.driver.Settled)
    (he : ∀ id, id ≠ 0 → (.vertexArray, id) ∈ (destroyAll names c).2.driver.live →
      (.buffer, c.driver.elementBuffer id) ∉ names) : (destroyAll names c).2.driver.Settled := by
  intro hz
  have hv : (destroyAll names c).2.driver.bound .vertexArray = c.driver.bound .vertexArray :=
    (bound_destroyAll h hw hn hl (by decide)).resolve_right fun hgone => hz hgone.1
  have hlive := (tidy_destroyAll names ht).live_of_bound .vertexArray nofun rfl hz
  have ha := allDestroyed_destroyAll h hw hn hl
  have hleft : (.vertexArray, (destroyAll names c).2.driver.bound .vertexArray) ∉ names := by
    have hm := hlive
    rw [ha.ready.live] at hm
    exact of_decide_eq_true (List.mem_filter.mp hm).2
  have hstate : (destroyAll names c).2.driver.links .vertexArray _ =
      c.driver.links .vertexArray _ :=
    links_congr (ha.others _ _ hleft)
  rw [links_vertexArray hz, links_vertexArray hz] at hstate
  have htied : c.driver.bound .elementArray =
      c.driver.elementBuffer ((destroyAll names c).2.driver.bound .vertexArray) := by
    rw [hv] at hz ⊢
    exact hs hz
  refine Eq.trans ?_ (htied.trans (Links.elements.inj hstate).symm)
  refine (bound_destroyAll h hw hn hl (by decide)).resolve_right ?_
  rintro ⟨-, k, hk, hgone⟩
  cases hk
  rw [htied] at hgone
  exact he _ hz hlive hgone

end GraphicsObjects.ContextM
