import GraphicsObjects.Proofs.Object.Ties

/-!
# Drawing

Binds of live objects neither draw nor raise an error. So a draw with a linked program and a vertex
array draws once, with these, into the framebuffer that was bound before.
-/

namespace GraphicsObjects

open ContextM Simulation

namespace Sim

/-- The draw calls so far and the errors that are pending. -/
def outcome (s : Sim) : List Draw × List Enumerant := (s.draws, s.errors)

theorem outcome_place (s : Sim) (slot : Slot) (id : Id) : (s.place slot id).outcome = s.outcome :=
  congrArg (fun d => (d.draws, d.errors)) (core_place s slot id)

theorem outcome_receive (s : Sim) (q : Request) : (s.receive q).outcome = s.outcome := by
  unfold receive
  split
  · rfl
  · split <;> rfl

/-- A draw with a linked program, a vertex array and its element buffer. -/
theorem draw_elements {s : Sim} {buffer : Id} (mode : DrawMode) (offset : Nat) (count : Int)
    (type : IndexType) (hp : (s.programState (s.bound .program)).linked = true)
    (hv : s.bound .vertexArray ≠ 0) (he : s.bound .elementArray = buffer) (hz : buffer ≠ 0) :
    (s.draw mode offset count (some type)).outcome =
      (s.draws ++ [{ mode
                     program := s.bound .program
                     vertexArray := s.bound .vertexArray
                     framebuffer := s.bound (.framebuffer .draw)
                     first := offset
                     count
                     indices := some (type, buffer) }], s.errors) := by
  simp [draw, outcome, hp, hv, he, hz]

end Sim

namespace ContextM

variable {α : Type} {live : List (Kind × Id)} {held : List (Slot × Id)} {slot : Slot} {id : Id}
variable {c : Context Sim}

theorem outcome_bind (h : c.Ready live held) (ha : slot.Admits live id)
    (ht : ∀ unit target, slot ≠ .texture unit target) :
    (ContextM.bind slot id c).2.driver.outcome = c.driver.outcome := by
  have hbind : ContextM.bind slot id c = bindSlot slot id c := by
    cases slot with
    | texture unit target => exact absurd rfl (ht unit target)
    | _ => rfl
  rw [hbind, bindSlot_eq]
  split
  · rfl
  · have hlocated : (c.driver.record (.bind slot id)).located slot = slot :=
      Sim.located_of_activeUnit fun unit target he => absurd he (ht unit target)
    change ((c.driver.record (.bind slot id)).bind slot id).outcome = _
    rw [Sim.bind_of_admits (h.live ▸ ha) hlocated, Sim.outcome_place]
    rfl

theorem outcome_release {g : Guard} (h : c.Ready live held) (hg : g.Restorable live)
    (ht : ∀ unit target, g.slot ≠ .texture unit target) :
    (release g c).2.driver.outcome = c.driver.outcome := by
  unfold release
  cases hprevious : g.previous with
  | none => rfl
  | some id =>
      dsimp only
      split
      · rename_i hrestore
        exact outcome_bind h (hg hrestore id hprevious) ht
      · rfl

/-- Work with an object bound has the outcome that it has where the object was bound for it. -/
theorem outcome_holding {may : Kind → Id → Prop} {act : ContextM Sim α} (h : c.Ready live held)
    (ha : slot.Admits live id) (hs : slot.Spares held) (hw : Sim.Within held may (.bind slot 0))
    (ht : ∀ unit target, slot ≠ .texture unit target)
    (hact : Work live may (slot.holding id ++ held) (slot.holding id ++ held) act) :
    (holding slot id act c).2.driver.outcome = (act (acquire slot id c).2).2.driver.outcome := by
  have h₁ := (work_acquire ha hs (within_rebind hw) c h).1
  exact outcome_release (hact _ h₁).1 (restorable_acquire h slot id) ht

theorem outcome_command (q : Request) (site : Site) (c : Context Sim) :
    (command q site c).2.driver.outcome = ((c.driver.serve q).outcome.1,
      if c.config.checkErrors then (c.driver.serve q).outcome.2.tail
      else (c.driver.serve q).outcome.2) := by
  have hdriver : (command q site c).2.driver =
      if c.config.checkErrors then (c.driver.serve q).takeError.2 else c.driver.serve q :=
    driver_checkError site (perform q c).2
  rw [hdriver]
  split
  · unfold Sim.takeError
    cases he : (c.driver.serve q).errors <;> simp [Sim.outcome, he]
  · rfl

end ContextM

/-- The program and the vertex array are bound; only bindings differ, and not that for drawing. -/
structure Context.Drawing (p v : Id) (c c' : Context Sim) : Prop where
  program : c'.driver.bound .program = p
  vertexArray : c'.driver.bound .vertexArray = v
  framebuffer : c'.driver.bound (.framebuffer .draw) = c.driver.bound (.framebuffer .draw)
  continues : Sim.Continues True c.driver c'.driver
  outcome : c'.driver.outcome = c.driver.outcome
  config : c'.config = c.config

namespace Program

variable {live : List (Kind × Id)} {c : Context Sim} {p v buffer : Id}

/-- A draw hands its command to the driver once the program and the vertex array are bound. -/
theorem outcome_draw (q : Request) (site : Site) (h : c.Ready live [])
    (hp : Slot.program.Admits live p) (hv : Slot.vertexArray.Admits live v) (hq : q.IsContent)
    (ha : ∀ s : Sim, s.aim q = none) : ∃ c', c.Drawing p v c' ∧
      (draw p v q site c).2.driver.outcome = (command q site c').2.driver.outcome := by
  -- the draw framebuffer is held in place while the program and the vertex array are bound
  let held := [(Slot.framebuffer .draw, c.driver.bound (.framebuffer .draw))]
  let held₁ := Slot.program.holding p ++ held
  let held₂ := Slot.vertexArray.holding v ++ held₁
  have h₀ : c.Ready live held := ⟨h.live, h.coherent, by simp [held]⟩
  have hspares : Slot.program.Spares held :=
    Slot.spares_cons nofun (by decide) (Slot.spares_nil _)
  have hspares₁ : Slot.vertexArray.Spares held₁ :=
    Slot.spares_cons nofun (by decide) (Slot.spares_cons nofun (by decide) (Slot.spares_nil _))
  have hwithin : Sim.Within held₂ nothing q := by
    intro s _ k i haim
    cases (ha s).symm.trans haim
  have hcommand : Work live nothing held₂ held₂ (do let _ ← command q site : ContextM Sim Unit) :=
    .bind (work_command hq hwithin) fun _ => .pure _
  have hinner := work_holding hv hspares₁ (within_bind nofun) hcommand
  have hw₁ : Work live nothing held held₁ (acquire .program p) :=
    work_acquire hp hspares (within_bind nofun)
  have hw₂ : Work live nothing held₁ held₂ (acquire .vertexArray v) :=
    work_acquire hv hspares₁ (within_bind nofun)
  set c₁ := (acquire .program p c).2
  obtain ⟨h₁, hk₁⟩ := hw₁ c h₀
  set c₂ := (acquire .vertexArray v c₁).2
  obtain ⟨h₂, hk₂⟩ := hw₂ c₁ h₁
  refine ⟨c₂, ?_, ?_⟩
  · exact
      { program := h₂.held (.program, p) (by simp [held₂, held₁, Slot.holding, Slot.registers])
        vertexArray := h₂.held (.vertexArray, v) (by simp [held₂, Slot.holding, Slot.registers])
        framebuffer :=
          h₂.held _ (List.mem_append_right _ (List.mem_append_right _ List.mem_cons_self))
        continues := (keepsLinks_acquire nofun p c).trans (keepsLinks_acquire nofun v c₁)
        outcome := (outcome_bind h₁ hv nofun).trans (outcome_bind h₀ hp nofun)
        config := hk₂.config.trans hk₁.config }
  · calc (draw p v q site c).2.driver.outcome
      _ = (holding .vertexArray v (do let _ ← command q site) c₁).2.driver.outcome :=
        outcome_holding h₀ hp hspares (within_bind nofun) nofun hinner
      _ = (command q site c₂).2.driver.outcome :=
        outcome_holding h₁ hv hspares₁ (within_bind nofun) nofun hcommand

/-- An indexed draw takes its indices from the element buffer that the vertex array has recorded,
whichever was bound before. -/
theorem outcome_drawElements (h : c.Ready live []) (hs : c.driver.Settled)
    (hp : Slot.program.Admits live p) (hl : c.driver.programStatus p = true)
    (hv : Slot.vertexArray.Admits live v) (hvz : v ≠ 0) (he : c.driver.elementBuffer v = buffer)
    (hz : buffer ≠ 0) (mode : DrawMode) (count : Int) (type : IndexType) (offset : Nat) :
    (drawElements p v mode count type offset c).2.driver.outcome =
      (c.driver.draws ++ [{ mode
                            program := p
                            vertexArray := v
                            framebuffer := c.driver.bound (.framebuffer .draw)
                            first := offset
                            count
                            indices := some (type, buffer) }],
        if c.config.checkErrors then c.driver.errors.tail else c.driver.errors) := by
  let q : Request := .drawElements mode count type offset
  obtain ⟨c', hd, houtcome⟩ := outcome_draw q .drawingElements h hp hv trivial fun _ => rfl
  have hlinked : c'.driver.programStatus p = true :=
    (programStatus_of_links (hd.continues.links (fun _ => trivial) p)).trans hl
  have hbuffer : c'.driver.elementBuffer v = buffer := by
    have hlinks := hd.continues.links (k := .vertexArray) (fun _ => trivial) v
    rw [Sim.links_vertexArray hvz, Sim.links_vertexArray hvz] at hlinks
    exact (Links.elements.inj hlinks).trans he
  have helements : c'.driver.bound .elementArray = buffer := by
    have htied : c'.driver.Tied :=
      hd.continues.settled hs fun e => hvz (hd.vertexArray.symm.trans e)
    rw [htied, hd.vertexArray, hbuffer]
  have hreceive : (c'.driver.receive q).programStatus p = true :=
    (programStatus_of_links (Sim.links_congr (Sim.stateOf_receive _ q .program p))).trans hlinked
  obtain ⟨hdraws, herrors⟩ := Prod.mk.inj ((c'.driver.outcome_receive q).trans hd.outcome)
  have hserve : (c'.driver.serve q).outcome =
      ((c'.driver.receive q).draw mode offset count (some type)).outcome := rfl
  refine houtcome.trans ?_
  rw [outcome_command, hserve, Sim.draw_elements mode offset count type ?_ ?_ ?_ hz, hd.config,
    hdraws, herrors, Sim.bound_receive, Sim.bound_receive, Sim.bound_receive, hd.program,
    hd.vertexArray, hd.framebuffer]
  · rw [Sim.bound_receive, hd.program]
    exact hreceive
  · rw [Sim.bound_receive, hd.vertexArray]
    exact hvz
  · rw [Sim.bound_receive]
    exact helements

end Program

end GraphicsObjects
