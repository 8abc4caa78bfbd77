import GraphicsObjects.Proofs.Context.Tidying
import GraphicsObjects.Proofs.Object.Linking
import GraphicsObjects.Proofs.Object.Work

/-!
# Operations on objects that tie some together

A command has the effect of its request on links: the check for errors after it has none. A link
leaves a program with the status that it tells. An element buffer is recorded in the vertex array
that is given it, whether its bind is issued or left out.
-/

namespace GraphicsObjects

open ContextM Sim

variable {tied : Prop} {live : List (Kind × Id)} {k : Kind} {id i : Id} {q : Request} {site : Site}
variable {c : Context Sim}

namespace Sim

/-- The one object that may have changed has the links that it had. -/
theorem Preserves.of_only {s s' : Sim} (h : s.Preserves tied (only k id) s')
    (hl : (k = .vertexArray → tied) → s'.links k id = s.links k id) :
    s.Preserves tied nothing s' where
  links k' i' _ hk := by
    by_cases he : only k id k' i'
    · obtain ⟨rfl, rfl⟩ := he
      exact hl hk
    · exact h.links k' i' he hk
  tidy := h.tidy
  settled := h.settled

/-- Objects of some kinds refer to nothing. -/
theorem Preserves.of_unlinked {s s' : Sim} (h : s.Preserves tied (only k id) s')
    (hk : k = .buffer ∨ k = .texture ∨ k = .renderbuffer ∨ k = .shader) :
    s.Preserves tied nothing s' := by
  refine h.of_only fun _ => ?_
  rcases hk with rfl | rfl | rfl | rfl <;> rfl

end Sim

namespace ContextM

theorem links_command (q : Request) (site : Site) (c : Context Sim) (k : Kind) (i : Id) :
    (command q site c).2.driver.links k i = (c.driver.serve q).links k i := by
  have hrest : KeepsLinks True (do checkError site; pure (perform q c).1) :=
    .bind (keepsLinks_checkError site) fun _ => .pure _
  exact (hrest (perform q c).2).links (fun _ => trivial) i

/-- A command that changes the object that it names. -/
theorem preserves_command (h : c.Ready live []) (ht : c.driver.Tidy) (hq : q.IsContent)
    (ha : ∀ s : Sim, s.aim q = some (k, id)) :
    c.driver.Preserves tied (only k id) (command q site c).2.driver :=
  (work_command hq (within_named ha)).preserves (keepsTidy_command hq) h ht

end ContextM

namespace Program

theorem programStatus_of_links {s : Sim} {attached : List Id} {linked : Bool}
    (h : s.links .program id = .shaders attached linked) : s.programStatus id = linked :=
  (Links.shaders.inj h).2

theorem keepsTidy_link (p : Program) (id : Id) : KeepsTidy (p.link id) := by
  refine .bind (keepsTidy_command trivial) fun _ => ?_
  suffices h : KeepsLinks False _ from h.keepsTidy
  refine .bind (keepsLinks_perform trivial) fun status => ?_
  cases status with
  | true => exact .pure _
  | false => exact .bind (keepsLinks_note _) fun _ => .pure _

theorem driver_link (p : Program) (id : Id) (c : Context Sim) :
    (p.link id c).2.driver = (command (.linkProgram id) .linkingProgram c).2.driver := by
  unfold link
  change ((if _ then _ else _ : ContextM Sim Program) _).2.driver = _
  split <;> rfl

theorem linked_link (p : Program) (id : Id) (c : Context Sim) :
    (p.link id c).1.linked = (p.link id c).2.driver.programStatus id := by
  rw [driver_link]
  unfold link
  change ((if _ then _ else _ : ContextM Sim Program) _).1.linked = _
  split <;> rfl

/-- What is known of a program after a link is what the driver has of it. -/
theorem links_link (p : Program) (ht : c.driver.Tidy) (hz : id ≠ 0)
    (hl : (.program, id) ∈ c.driver.live) : (p.link id c).2.driver.links .program id =
      (c.driver.links .program id).link (p.link id c).1.linked := by
  rw [linked_link, driver_link]
  set c₁ := (command (.linkProgram id) .linkingProgram c).2
  have hpresent : ((c.driver.receive (.linkProgram id)).stateOf .program id).Present := by
    rw [stateOf_receive]
    exact (ht.present .program id hz (.inr rfl)).mpr hl
  have hlinks : c₁.driver.links .program id = (c.driver.links .program id).link _ :=
    (links_command ..).trans (Sim.links_link hpresent)
  obtain ⟨attached, linked, hbefore⟩ : ∃ attached linked,
      c.driver.links .program id = .shaders attached linked := ⟨_, _, rfl⟩
  rw [hbefore] at hlinks ⊢
  rw [programStatus_of_links hlinks]
  exact hlinks

end Program

namespace VertexArray

variable {buffer : Id}

theorem keepsLinks_setIndexBuffer :
    KeepsLinks False (setIndexBuffer id buffer : ContextM Sim Unit) :=
  keepsLinks_holding False.elim (keepsLinks_bind False.elim buffer)

/-- With a vertex array bound, the element buffer that is bound is the one that it has recorded. -/
theorem links_setIndexBuffer (h : c.Ready live []) (hs : c.driver.Settled)
    (hid : Slot.vertexArray.Admits live id) (hb : Slot.elementArray.Admits live buffer)
    (hz : id ≠ 0) : (setIndexBuffer id buffer c).2.driver.links .vertexArray id =
      .elements buffer := by
  have hspares : Slot.elementArray.Spares (Slot.vertexArray.holding id ++ []) :=
    Slot.spares_cons nofun (by decide) (Slot.spares_nil _)
  have hw : Work live (fun _ _ => True) [] _
      (do let _ ← acquire .vertexArray id; ContextM.bind .elementArray buffer) :=
    .bind (work_acquire hid (Slot.spares_nil _) (within_bind nofun)) fun _ =>
      work_bind hb hspares Sim.within_anything
  have hk : KeepsLinks False
      (do let _ ← acquire .vertexArray id; ContextM.bind .elementArray buffer) :=
    .bind (keepsLinks_acquire False.elim id) fun _ => keepsLinks_bind False.elim buffer
  have hheld := (hw c h).1.held
  set c₁ := ((do let _ ← acquire .vertexArray id; ContextM.bind .elementArray buffer) c).2
  have hv : c₁.driver.bound .vertexArray = id :=
    hheld (.vertexArray, id) (by simp [Slot.holding, Slot.registers])
  have he : c₁.driver.bound .elementArray = buffer :=
    hheld (.elementArray, buffer) (by simp [Slot.holding, Slot.registers])
  have htied : c₁.driver.Tied := (hk c).settled hs fun e => hz (hv.symm.trans e)
  have hslot : (acquire .vertexArray id c).1.slot ≠ .elementArray := by
    change Slot.vertexArray ≠ .elementArray
    decide
  have hrelease : KeepsLinks True (release (acquire .vertexArray id c).1) :=
    keepsLinks_release fun _ => hslot
  refine ((hrelease c₁).links (fun _ => trivial) id).trans ?_
  rw [links_vertexArray hz, ← he, htied, hv]

end VertexArray

end GraphicsObjects
