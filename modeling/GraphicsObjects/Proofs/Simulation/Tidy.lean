import GraphicsObjects.Proofs.Simulation.Links

/-!
# What does not live

In every state of the driver the registers hold live objects, a name that nothing lives under refers
to nothing, and there are shaders and programs just where they live. Every request keeps this.
-/

namespace GraphicsObjects

open Simulation

namespace Sim

variable {s s' : Sim} {k : Kind} {id i : Id} {q : Request}

/-! ## Names that nothing lives under -/

/-- Registers hold live objects, programs and shaders are there just if they live, and what does not
live refers to nothing. A name is not 0. -/
structure Tidy (s : Sim) : Prop where
  bound : ∀ r : Slot, r.IsRegister → r ≠ .elementArray → r.Admits s.live (s.bound r)
  blank : ∀ k i, i ≠ 0 → (k, i) ∉ s.live → s.links k i = .initial k
  present : ∀ k i, i ≠ 0 → k = .shader ∨ k = .program →
    ((s.stateOf k i).Present ↔ (k, i) ∈ s.live)

theorem Tidy.fresh : Sim.fresh.Tidy where
  bound r _ _ := r.admits_zero _
  blank k i hi _ := by
    cases k with
    | vertexArray =>
        simp only [links, stateOf, VertexArrayState.named, if_neg hi]
        rfl
    | _ => rfl
  present k i _ hk := by
    rcases hk with rfl | rfl
    · exact iff_of_false Bool.false_ne_true List.not_mem_nil
    · exact iff_of_false Bool.false_ne_true List.not_mem_nil

/-- What is bound to a slot for objects of a kind is 0 or a live one. -/
theorem Tidy.live_of_bound (h : s.Tidy) (slot : Slot) (hs : slot ≠ .elementArray)
    (hk : slot.kind? = some k) (hz : s.bound slot ≠ 0) : (k, s.bound slot) ∈ s.live := by
  have hp := slot.primary_mem_registers
  have hreg := Slot.isRegister_of_mem_registers hp
  have hne : slot.primary ≠ .elementArray := by
    unfold Slot.primary
    split
    · nofun
    · exact hs
  have ha := h.bound _ hreg hne
  rw [bound_primary] at ha
  exact ha.resolve_left hz k ((Slot.kind?_of_mem_registers hp).trans hk)

theorem Tidy.programs_get?_eq_none (h : s.Tidy) (hz : id ≠ 0) (hl : (.program, id) ∉ s.live) :
    s.programs.get? id = none :=
  Option.not_isSome_iff_eq_none.mp (mt (h.present .program id hz (.inr rfl)).mp hl)

theorem Tidy.shaders_get?_eq_none (h : s.Tidy) (hz : id ≠ 0) (hl : (.shader, id) ∉ s.live) :
    s.shaders.get? id = none :=
  Option.not_isSome_iff_eq_none.mp (mt (h.present .shader id hz (.inl rfl)).mp hl)

/-- Commands are about what is bound, and that lives, or name a shader or a program, which is there
only if it lives. -/
theorem Tidy.stateOf_execute (h : s.Tidy) (hc : q.IsContent) (hk : k ≠ .buffer) (hz : i ≠ 0)
    (hl : (k, i) ∉ s.live) : (execute q s).2.stateOf k i = s.stateOf k i := by
  by_cases ha : s.aim q = some (k, i)
  · cases q with
    | bufferData | bufferSubData =>
        cases ha
        exact absurd rfl hk
    | readPixels =>
        simp only [aim] at ha
        split at ha
        · cases ha
        · cases ha
          exact absurd rfl hk
    | texImage target | texParameter target =>
        cases ha
        exact absurd (h.live_of_bound (.texture _ _) (by simp) rfl hz) hl
    | renderbufferStorage =>
        cases ha
        exact absurd (h.live_of_bound .renderbuffer (by decide) rfl hz) hl
    | framebufferRenderbuffer target | framebufferTexture target =>
        cases ha
        exact absurd (h.live_of_bound (.framebuffer target) (by simp) rfl hz) hl
    | drawBuffers =>
        cases ha
        exact absurd (h.live_of_bound (.framebuffer .draw) (by decide) rfl hz) hl
    | enableVertexAttribute | vertexAttributePointer =>
        cases ha
        exact absurd (h.live_of_bound .vertexArray (by decide) rfl hz) hl
    | uniform =>
        cases ha
        exact absurd (h.live_of_bound .program (by decide) rfl hz) hl
    | shaderSource | compileShader =>
        cases ha
        simp only [execute, shaderSource, compileShader, alterShader, h.shaders_get?_eq_none hz hl]
        rfl
    | attachShader =>
        cases ha
        simp only [execute, attachShader, h.programs_get?_eq_none hz hl]
        split <;> rfl
    | detachShader =>
        cases ha
        simp only [execute, detachShader, h.programs_get?_eq_none hz hl]
        rfl
    | linkProgram =>
        cases ha
        simp only [execute, link, h.programs_get?_eq_none hz hl]
        rfl
    | bindAttributeLocation =>
        cases ha
        simp only [execute, bindAttributeLocation, h.programs_get?_eq_none hz hl]
        rfl
    | genObjects | createShader | createProgram | deleteObjects | deleteShader
    | deleteProgram | bind => exact hc.elim
    | _ => cases ha
  · exact (edits_execute s hc).others k i ha

/-- A request about contents lets nothing refer to anything that does not live. -/
theorem Tidy.links_execute (h : s.Tidy) (hc : q.IsContent) (hz : i ≠ 0) (hl : (k, i) ∉ s.live) :
    (execute q s).2.links k i = s.links k i := by
  by_cases hk : k = .buffer
  · subst hk
    rfl
  · exact links_congr (h.stateOf_execute hc hk hz hl)

theorem present_alterShader (s : Sim) (id : Id) (f : ShaderState → ShaderState) (k : Kind)
    (i : Id) : ((s.alterShader id f).stateOf k i).Present ↔ (s.stateOf k i).Present := by
  by_cases h : some (Kind.shader, id) = some (k, i)
  · cases h
    unfold alterShader
    split
    · rename_i sh hsh
      simp [stateOf, ObjectState.Present, hsh]
    · rfl
  · rw [(edits_alterShader s id f).others k i h]

theorem present_setProgram (s : Sim) {id : Id} (p : ProgramState)
    (hp : (s.programs.get? id).isSome) (k : Kind) (i : Id) :
    ((s.setProgram id p).stateOf k i).Present ↔ (s.stateOf k i).Present := by
  by_cases h : some (Kind.program, id) = some (k, i)
  · cases h
    simp [stateOf, setProgram, ObjectState.Present, hp]
  · rw [(edits_setProgram s id p).others k i h]

/-- A request about contents makes no shader and no program. -/
theorem Tidy.present_execute (h : s.Tidy) (hc : q.IsContent) (k : Kind) (i : Id) :
    ((execute q s).2.stateOf k i).Present ↔ (s.stateOf k i).Present := by
  have hsome {id : Id} {p : ProgramState} (hp : s.programs.get? id = some p) :
      (s.programs.get? id).isSome := Option.isSome_of_eq_some hp
  by_cases ha : s.aim q = some (k, i)
  · cases q with
    | shaderSource | compileShader => exact present_alterShader ..
    | attachShader p sh =>
        simp only [execute, attachShader]
        split
        · cases k <;> rfl
        · split
          · cases k <;> rfl
          · rename_i hp
            split
            · cases k <;> rfl
            · exact present_setProgram s _ (hsome hp) k i
    | detachShader p sh =>
        simp only [execute, detachShader]
        split
        · cases k <;> rfl
        · rename_i hp
          split
          · exact present_setProgram s _ (hsome hp) k i
          · cases k <;> rfl
    | linkProgram p =>
        simp only [execute, link]
        split
        · cases k <;> rfl
        · rename_i hp
          exact present_setProgram s _ (hsome hp) k i
    | bindAttributeLocation p =>
        simp only [execute, bindAttributeLocation]
        split
        · cases k <;> rfl
        · rename_i hp
          exact present_setProgram s _ (hsome hp) k i
    | uniform =>
        simp only [execute, setUniform]
        split
        · cases k <;> rfl
        · rename_i hz
          split
          · rfl
          · have hlive := h.live_of_bound .program (by decide) rfl hz
            exact present_setProgram s _ ((h.present _ _ hz (.inr rfl)).mpr hlive) k i
    | genObjects | createShader | createProgram | deleteObjects | deleteShader
    | deleteProgram | bind => exact hc.elim
    | readPixels =>
        simp only [aim] at ha
        split at ha
        · cases ha
        · cases ha
          rfl
    | _ => cases ha <;> rfl
  · rw [(edits_execute s hc).others k i ha]

/-! ## Every request keeps this -/

theorem Tidy.receive (h : s.Tidy) (q : Request) : (s.receive q).Tidy where
  bound r hr hne := by
    rw [bound_receive, live_receive]
    exact h.bound r hr hne
  blank k i hz hl := by
    rw [live_receive] at hl
    exact (links_congr (stateOf_receive s q k i)).trans (h.blank k i hz hl)
  present k i hz hk := by
    rw [live_receive, stateOf_receive]
    exact h.present k i hz hk

theorem Tidy.execute_content (h : s.Tidy) (hc : q.IsContent) : (execute q s).2.Tidy := by
  have hreg := (edits_execute s hc).registry
  simp only [registry, Prod.mk.injEq] at hreg
  obtain ⟨hlive, -, hregs, -⟩ := hreg
  refine ⟨fun r hr hne => ?_, fun k i hz hl => ?_, fun k i hz hk => ?_⟩
  · rw [hlive, Sim.bound, hregs]
    exact h.bound r hr hne
  · rw [hlive] at hl
    exact (h.links_execute hc hz hl).trans (h.blank k i hz hl)
  · rw [hlive, h.present_execute hc]
    exact h.present k i hz hk

theorem Tidy.raise (h : s.Tidy) (code : Enumerant) : (s.raise code).Tidy where
  bound := h.bound
  blank k i hz hl := (links_raise ..).trans (h.blank k i hz hl)
  present k i hz hk := by
    rw [(edits_raise none s code).others k i nofun]
    exact h.present k i hz hk

theorem live_place (s : Sim) (slot : Slot) (id : Id) : (s.place slot id).live = s.live :=
  congrArg (·.live) (core_place s slot id)

theorem present_place (s : Sim) (slot : Slot) (id : Id) (hk : k = .shader ∨ k = .program) :
    (s.place slot id).stateOf k i = s.stateOf k i := by
  refine stateOf_place s slot id fun ha => ?_
  unfold aim at ha
  split at ha
  case h_1 =>
    split at ha
    · cases ha
    · cases ha
      rcases hk with hk | hk <;> cases hk
  all_goals simp_all

theorem Tidy.bind (h : s.Tidy) (slot : Slot) (id : Id) : (s.bind slot id).Tidy := by
  rcases s.bind_cases slot id with hb | ⟨ha, hb⟩
  · rw [hb]
    exact h.raise _
  · rw [hb]
    refine ⟨fun r hr hne => ?_, fun k i hz hl => ?_, fun k i hz hk => ?_⟩
    · rw [live_place, bound_place _ _ _ hr]
      split
      · rename_i hm
        exact ha.of_mem_registers hm
      · rw [if_neg fun e => hne e.2]
        exact h.bound r hr hne
    · rw [live_place] at hl
      refine (links_congr (stateOf_place _ _ _ fun haim => ?_)).trans (h.blank k i hz hl)
      unfold aim at haim
      split at haim
      case h_1 =>
        split at haim
        · cases haim
        · cases haim
          exact hl (h.live_of_bound .vertexArray nofun rfl hz)
      all_goals simp_all
    · rw [live_place, present_place _ _ _ hk]
      exact h.present k i hz hk

theorem stateOf_gen (s : Sim) (k k' : Kind) (i : Id) :
    (s.gen k).2.stateOf k' i = s.stateOf k' i := by
  rw [gen_eq]
  split
  · rfl
  · cases k' <;> rfl

theorem mem_live_gen (s : Sim) (k : Kind) {n : Kind × Id} :
    n ∈ (s.gen k).2.live ↔ n ∈ s.live ∨ s.failCreation = false ∧ n = (k, (s.gen k).1) := by
  rw [gen_eq]
  cases hf : s.failCreation <;> simp [or_comm]

/-- An object comes to live, of which nothing was known. -/
theorem Tidy.made (h : s.Tidy) {made : Prop} {n : Kind × Id} (hr : s'.registers = s.registers)
    (hl : ∀ x, x ∈ s'.live ↔ x ∈ s.live ∨ made ∧ x = n)
    (hs : ∀ k i, ¬ (made ∧ (k, i) = n) → s'.stateOf k i = s.stateOf k i)
    (hp : made → n.2 ≠ 0 → (s'.stateOf n.1 n.2).Present) : s'.Tidy where
  bound r hreg hne := by
    rw [Sim.bound, hr]
    exact (h.bound r hreg hne).mono fun k _ hm => (hl _).mpr (.inl hm)
  blank k i hz hn := by
    obtain ⟨hn, hnew⟩ := not_or.mp (mt (hl _).mpr hn)
    exact (links_congr (hs k i hnew)).trans (h.blank k i hz hn)
  present k i hz hk := by
    rw [hl]
    by_cases hnew : made ∧ (k, i) = n
    · obtain ⟨hm, rfl⟩ := hnew
      exact iff_of_true (hp hm hz) (.inr ⟨hm, rfl⟩)
    · rw [hs k i hnew, h.present k i hz hk]
      exact (or_iff_left hnew).symm

theorem Tidy.gen (h : s.Tidy) {k : Kind} (hk : ¬ (k = .shader ∨ k = .program)) :
    (s.gen k).2.Tidy := by
  refine h.made (registers_gen s k) (fun _ => mem_live_gen s k) (fun _ _ _ => stateOf_gen ..) ?_
  intro _ _
  cases k with
  | shader => exact absurd (.inl rfl) hk
  | program => exact absurd (.inr rfl) hk
  | _ => trivial

theorem Tidy.genMany (h : s.Tidy) {k : Kind} (hk : ¬ (k = .shader ∨ k = .program)) (n : Nat) :
    (genMany k n s).2.Tidy := by
  induction n generalizing s with
  | zero => exact h
  | succ n ih => exact ih (h.gen hk)

theorem gen_eq_zero (hf : ¬ s.failCreation = false) (k : Kind) : (s.gen k).1 = 0 := by
  rw [gen_eq, if_pos (eq_true_of_ne_false hf)]

/-- A shader or a program is made and stored. -/
theorem Tidy.created (h : s.Tidy) (k : Kind) (store : Sim → Id → Sim)
    (hr : ∀ d x, (store d x).registry = d.registry)
    (hs : ∀ d x k' i, (k', i) ≠ (k, x) → (store d x).stateOf k' i = d.stateOf k' i)
    (hp : ∀ d x, ((store d x).stateOf k x).Present) :
    (if (s.gen k).1 = 0 then (s.gen k).2 else store (s.gen k).2 (s.gen k).1).Tidy := by
  have hmem : ∀ x, x ∈ (s.gen k).2.live ↔
      x ∈ s.live ∨ s.failCreation = false ∧ x = (k, (s.gen k).1) := fun _ => mem_live_gen s k
  split
  · rename_i hz
    refine h.made (registers_gen s k) hmem (fun _ _ _ => stateOf_gen ..) ?_
    exact fun _ hn => absurd hz hn
  · rename_i hz
    have hreg := hr (s.gen k).2 (s.gen k).1
    simp only [registry, Prod.mk.injEq] at hreg
    obtain ⟨hlive, -, hregs, -⟩ := hreg
    rw [← hlive] at hmem
    refine h.made (hregs.trans (registers_gen s k)) hmem (fun k' i hn => ?_) fun _ _ => hp _ _
    refine (hs _ _ k' i fun e => hn ⟨?_, e⟩).trans (stateOf_gen ..)
    exact not_not.mp fun hf => hz (gen_eq_zero hf k)

theorem Tidy.createShader (h : s.Tidy) (stage : ShaderStage) : (s.createShader stage).2.Tidy := by
  refine h.created .shader (fun d x => { d with shaders := d.shaders.insert x { stage } })
    (fun _ _ => rfl) (fun d x k i hn => ?_) fun d x => ?_
  · cases k with
    | shader =>
        have hi : i ≠ x := fun e => hn (e ▸ rfl)
        simp only [stateOf, Table.get?_insert, if_neg hi]
    | _ => rfl
  · simp [stateOf, ObjectState.Present]

theorem Tidy.createProgram (h : s.Tidy) : s.createProgram.2.Tidy := by
  refine h.created .program (fun d x => { d with programs := d.programs.insert x {} })
    (fun _ _ => rfl) (fun d x k i hn => ?_) fun d x => ?_
  · cases k with
    | program =>
        have hi : i ≠ x := fun e => hn (e ▸ rfl)
        simp only [stateOf, Table.get?_insert, if_neg hi]
    | _ => rfl
  · simp [stateOf, ObjectState.Present]

/-- Of a deleted object nothing is left. -/
theorem links_delete (hz : id ≠ 0) (hl : (k, id) ∈ s.live) :
    (s.delete k id).links k id = .initial k := by
  rw [delete_eq hz hl]
  cases k with
  | framebuffer =>
      change Links.attachments ((s.framebuffers.erase id).getD id {}).attachments.get? = _
      rw [Table.getD, Table.get?_erase_self]
      rfl
  | vertexArray =>
      rw [links_vertexArray hz]
      change Links.elements ((s.vertexArrays.erase id).getD id {}).elementBuffer = _
      rw [Table.getD, Table.get?_erase_self]
      rfl
  | program =>
      change (ObjectState.program ((s.programs.erase id).get? id)).links = _
      rw [Table.get?_erase_self]
      rfl
  | _ => rfl

theorem not_present_delete (hz : id ≠ 0) (hl : (k, id) ∈ s.live) (hk : k = .shader ∨ k = .program) :
    ¬ ((s.delete k id).stateOf k id).Present := by
  rw [delete_eq hz hl]
  rcases hk with rfl | rfl <;> simp [stateOf, ObjectState.Present, forget]

theorem Tidy.delete (h : s.Tidy) (k : Kind) (id : Id) : (s.delete k id).Tidy := by
  rcases s.delete_cases k id with hs | ⟨hz, hl⟩
  · rw [hs]
    exact h
  · refine ⟨fun r hr hne => ?_, fun k' i hi hn => ?_, fun k' i hi hk' => ?_⟩
    · rw [bound_delete hz hl hr, live_delete hz hl]
      split
      · exact r.admits_zero _
      · rename_i hgone
        exact (h.bound r hr hne).filter hgone
    · by_cases he : (k', i) = (k, id)
      · cases he
        exact links_delete hz hl
      · rw [live_delete hz hl] at hn
        have hn' : (k', i) ∉ s.live := fun hm => hn (List.mem_filter.mpr ⟨hm, decide_eq_true he⟩)
        exact (links_congr (stateOf_delete hz hl he)).trans (h.blank k' i hi hn')
    · rw [live_delete hz hl]
      by_cases he : (k', i) = (k, id)
      · cases he
        refine iff_of_false (not_present_delete hz hl hk') ?_
        simp
      · rw [stateOf_delete hz hl he, h.present k' i hi hk', List.mem_filter]
        exact (and_iff_left (decide_eq_true he)).symm

theorem Tidy.serve (h : s.Tidy) (q : Request) : (s.serve q).Tidy := by
  have hq := h.receive q
  cases q with
  | genObjects kind slots =>
      simp only [Sim.serve, execute]
      split
      · exact hq
      · rename_i hk
        exact hq.genMany hk _
  | createShader stage => exact hq.createShader stage
  | createProgram => exact hq.createProgram
  | deleteObjects kind ids =>
      exact List.foldlRecOn ids _ hq fun d hd id _ => hd.delete kind id
  | deleteShader id => exact hq.delete .shader id
  | deleteProgram id => exact hq.delete .program id
  | bind slot id => exact hq.bind slot id
  | _ => exact hq.execute_content trivial

/-! ## Creation -/

/-- A new object refers to nothing, as its name was no live one. -/
theorem links_createProgram (h : s.Tidy) (hw : s.WellNamed) (k : Kind) (i : Id) :
    s.createProgram.2.links k i = s.links k i := by
  unfold createProgram
  dsimp only
  split
  · exact links_congr (stateOf_gen ..)
  · rename_i hz
    refine Eq.trans ?_ (links_congr (stateOf_gen s .program k i))
    by_cases he : (k, i) = (.program, (s.gen .program).1)
    · cases he
      have hnew : (.program, (s.gen .program).1) ∉ s.live := not_mem_live_gen hw hz rfl
      refine Eq.trans ?_ ((links_congr (stateOf_gen ..)).trans (h.blank _ _ hz hnew)).symm
      simp [links, stateOf, ObjectState.links, Links.initial]
    · refine links_congr ?_
      cases k with
      | program =>
          have hi : i ≠ (s.gen .program).1 := fun e => he (e ▸ rfl)
          simp only [stateOf, Table.get?_insert, if_neg hi]
      | _ => rfl

theorem links_createShader (s : Sim) (stage : ShaderStage) (k : Kind) (i : Id) :
    (s.createShader stage).2.links k i = s.links k i := by
  refine Eq.trans ?_ (links_congr (stateOf_gen s .shader k i))
  unfold createShader
  dsimp only
  split
  · rfl
  · cases k <;> rfl

end Sim

end GraphicsObjects
