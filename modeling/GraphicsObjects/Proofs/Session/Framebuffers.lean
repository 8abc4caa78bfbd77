import GraphicsObjects.Proofs.Object.Framebuffers
import GraphicsObjects.Proofs.Session.Runs

/-!
# Strict guards on the combined framebuffer target

A guard on the combined target restores both registers if they held the same framebuffer. If they
did not, the read framebuffer is lost, and the draw framebuffer is bound in its place.
-/

namespace GraphicsObjects

open Ownership ContextM SessionM

/-- The operation is one on the framebuffer in a variable. -/
def Op.OnFramebuffer (name : String) : Op → Prop
  | framebuffer target _ | attachRenderbuffer target .. | attachTexture target .. => target = name
  | _ => False

namespace Session

variable {s s' : Session Sim} {op : Op} {name : String} {d r : Id}

theorem isActive_attach (h : s.Inv) {fb : Found Framebuffer} {object : Ref} {i : Id} {x : Object}
    {q : Request} (point : Attachment) (site : Site) (hf : s.Has .framebuffer fb)
    (ht : fb.known.target = .combined) (hx : (object, i, x) ∈ s.store.faces)
    (hmay : Kind.framebuffer.MayOwn x.payload.kind) (hq : q.IsContent)
    (ha : ∀ d : Sim, d.aim q = some (.framebuffer, d.bound fb.known.slot))
    (hb : (s.enter 0).Believes d r) :
    ((SessionM.attach fb point object q site s).2.enter 0).cache.isActive .combined d = true := by
  have hslot : fb.known.slot = .combined := congrArg Slot.framebuffer ht
  obtain ⟨hs, -⟩ := h.sound.withAttachment point site hf hx hmay hq ha
  obtain ⟨zs, hg⟩ := hs.giveBack
  rw [attach_eq h.sound.single (h.sound.context_eq hf), hslot, acquire_combined hb]
  have he := enter_leave hg.sound.single (bindSlot .combined d
    ((SessionM.giveBack (fb.known.attachments.get? point).toList
      (s.withAttachment fb point object q site)).2.enter 0)).2
  refine (congrArg (fun c => c.cache.isActive .combined d) he).trans ?_
  exact isActive_bindSlot _ .combined d

/-- An operation on a framebuffer of the combined target leaves the framebuffers that are bound as
they were, or puts the draw framebuffer into both registers. -/
theorem Inv.framebuffers_step (h : s.Inv) {fb : Found Framebuffer}
    (hf : s.find? Payload.framebuffer? name = some fb) (ht : fb.known.target = .combined)
    (hb : (s.enter 0).Believes d r) (ho : op.OnFramebuffer name) {answer : op.Answer}
    (hs : s.step op = some (answer, s')) :
    (s'.enter 0).Framebuffers d r ∨ (s'.enter 0).Framebuffers d d := by
  obtain ⟨-, hhas⟩ := has_of_find? Payload.reads_framebuffer hf
  have hcoherent : op.Admissible s.driver.live → (∀ g, s.released? op ≠ some g) →
      (s'.enter 0).cache.Coherent (s'.enter 0).driver := by
    intro ha hr
    obtain ⟨gone, hadvance, -⟩ := h.step ha (fun g hg => absurd hg (hr g)) hs
    exact hadvance.inv.sound.ready.coherent
  cases op with
  | framebuffer target op =>
      cases ho
      obtain ⟨f, hf', hstep⟩ := of_lookup hs
      cases hf.symm.trans hf'
      subst hstep
      have hc := hcoherent trivial nofun
      rw [h.sound.context_eq hhas] at hc ⊢
      have hrun := fb.known.believes_run fb.id op ht hb
      rw [← enter_leave h.sound.single (op.run fb.id fb.known (s.enter 0)).2] at hrun
      exact hrun.imp (.of_believes hc) (.of_believes hc)
  | attachRenderbuffer target point renderbuffer =>
      cases ho
      obtain ⟨f, rb, hf', hrb, hstep⟩ := of_lookups hs
      cases hf.symm.trans hf'
      subst hstep
      obtain ⟨-, hrb'⟩ := has_of_find? Payload.reads_renderbuffer hrb
      refine .inr (.of_isActive (hcoherent trivial nofun) ?_)
      exact isActive_attach h point _ hhas ht hrb' (.inr rfl) trivial (fun _ => rfl) hb
  | attachTexture target point texture part =>
      cases ho
      obtain ⟨f, t, hf', htex, hstep⟩ := of_lookups hs
      cases hf.symm.trans hf'
      subst hstep
      obtain ⟨-, htex'⟩ := has_of_find? Payload.reads_texture htex
      have hc := hcoherent trivial nofun
      simp only [SessionM.attachTexture] at hc ⊢
      cases hq : fb.known.textureRequest point part t.known.target t.id with
      | error e =>
          rw [hq] at hc
          exact .inl (.of_believes hc hb)
      | ok q =>
          obtain ⟨image, level, layer, rfl⟩ := Framebuffer.of_textureRequest hq
          rw [hq] at hc
          refine .inr (.of_isActive hc ?_)
          exact isActive_attach h point _ hhas ht htex' (.inl rfl) trivial (fun _ => rfl) hb
  | _ => exact ho.elim

/-- With strict guards and the draw and the read framebuffer known to be `d` and `r`, a guard on the
combined target leaves `d` in both registers, and restores what it found just if `r` is `d`. An
operation on a framebuffer of the combined target changes neither, or leaves `d` in both. -/
theorem combined_guard_restores_iff {c : Context Sim} {id : Id} (hc : c.cache.Coherent c.driver)
    (hs : c.config.strictUnbind = true) (hd : c.cache.belief (.framebuffer .draw) = .bound d)
    (hr : c.cache.belief (.framebuffer .read) = .bound r)
    (hid : Slot.combined.Admits c.driver.live id) :
    let released := (release (acquire .combined id c).1 (acquire .combined id c).2).2
    released.Framebuffers d d ∧ (released.Framebuffers d r ↔ r = d) ∧
      (∀ (op : FramebufferOp) (f : Framebuffer), f.target = .combined →
        (op.run id f c).2.Framebuffers d r ∨ (op.run id f c).2.Framebuffers d d) ∧
      ∀ s : Session Sim, s.Inv → s.enter 0 = c → ∀ name fb op answer s',
        s.find? Payload.framebuffer? name = some fb → fb.known.target = .combined →
          op.OnFramebuffer name → s.step op = some (answer, s') →
            (s'.enter 0).Framebuffers d r ∨ (s'.enter 0).Framebuffers d d := by
  intro released
  have hb : c.Believes d r := ⟨hs, hd, hr⟩
  have hready : c.Ready c.driver.live [] := ⟨rfl, hc, nofun⟩
  have hreleased : released.Framebuffers d d := by
    have hw : Work c.driver.live (fun _ _ => False) [] [] (interrupted .combined id) :=
      work_interrupted hid (Slot.spares_nil _) (within_bind nofun)
    exact .of_believes (hw c hready).1.coherent (believes_holding (.pure ()) hb id)
  refine ⟨hreleased, hreleased.restored_iff, fun op f hf => ?_, ?_⟩
  · have hslot : f.slot = .combined := congrArg Slot.framebuffer hf
    have hcoherent := (f.work_run op (hslot ▸ hid) c hready).1.coherent
    exact (f.believes_run id op hf hb).imp (.of_believes hcoherent) (.of_believes hcoherent)
  · rintro s h rfl name fb op answer s' hf ht ho hstep
    exact h.framebuffers_step hf ht hb ho hstep

/-- Two framebuffers of the combined target, of which the first is bound. -/
def combinedPair : Option (Session Sim) :=
  (start .fresh { strictUnbind := true }).perform Careful
    [.create "a" 0 (.framebuffer .combined), .create "b" 0 (.framebuffer .combined), .bind "a"]

theorem combinedPair_restored : ∃ s, combinedPair = some s ∧
    (release (acquire .combined 2 (s.enter 0)).1
      (acquire .combined 2 (s.enter 0)).2).2.Framebuffers 1 1 ∧
    ∀ answer s', s.step (.framebuffer "b" .checkStatus) = some (answer, s') →
      (s'.enter 0).Framebuffers 1 1 := by
  have hfound : combinedPair.map (fun s => ((s.enter 0).config.strictUnbind,
      (s.enter 0).cache.belief (.framebuffer .draw), (s.enter 0).cache.belief (.framebuffer .read),
      s.driver.live, (s.find? Payload.framebuffer? "b").map (·.known.target))) =
      some (true, .bound 1, .bound 1, [(.framebuffer, 2), (.framebuffer, 1)],
        some .combined) := by cbv
  obtain ⟨s, hs, he⟩ := Option.map_eq_some_iff.mp hfound
  simp only [Prod.mk.injEq, Option.map_eq_some_iff] at he
  obtain ⟨hstrict, hdraw, hread, hlive, fb, hfb, htarget⟩ := he
  have hinv : s.Inv := Reachable.inv (Reachable.start.perform hs)
  have hadmits : Slot.combined.Admits (s.enter 0).driver.live 2 := by
    change Slot.combined.Admits s.driver.live 2
    rw [hlive]
    decide
  obtain ⟨hreleased, -, -, hstep⟩ := combined_guard_restores_iff hinv.sound.ready.coherent hstrict
    hdraw hread hadmits
  refine ⟨s, hs, hreleased, fun answer s' he => ?_⟩
  exact (hstep s hinv rfl "b" fb _ answer s' hfb htarget rfl he).elim id id

/-- One framebuffer is bound for drawing and another for reading. -/
def drawAndRead : Option (Session Sim) :=
  (start .fresh { strictUnbind := true, checkErrors := false }).perform Careful
    [.create "a" 0 (.framebuffer .draw), .create "b" 0 (.framebuffer .read), .bind "a", .bind "b"]

/-- A guard that binds the default framebuffer for a moment, and the one for reading is lost. -/
theorem guard_loses_read_framebuffer : ∃ s, drawAndRead = some s ∧ s.Inv ∧
    (s.enter 0).config.strictUnbind = true ∧ (s.enter 0).Framebuffers 1 2 ∧
    (release (acquire .combined 0 (s.enter 0)).1
      (acquire .combined 0 (s.enter 0)).2).2.Framebuffers 1 1 := by
  have hfound : drawAndRead.map (fun s =>
      let released := (release (acquire .combined 0 (s.enter 0)).1
        (acquire .combined 0 (s.enter 0)).2).2
      ((s.enter 0).config.strictUnbind,
        ((s.enter 0).cache.belief (.framebuffer .draw), s.driver.bound (.framebuffer .draw),
          (s.enter 0).cache.belief (.framebuffer .read), s.driver.bound (.framebuffer .read)),
        released.cache.belief (.framebuffer .draw), released.driver.bound (.framebuffer .draw),
        released.cache.belief (.framebuffer .read), released.driver.bound (.framebuffer .read))) =
      some (true, (.bound 1, 1, .bound 2, 2), .bound 1, 1, .bound 1, 1) := by cbv
  obtain ⟨s, hs, he⟩ := Option.map_eq_some_iff.mp hfound
  simp only [Prod.mk.injEq] at he
  obtain ⟨hstrict, ⟨hdraw, hdraw', hread, hread'⟩, hdraw₁, hdraw₁', hread₁, hread₁'⟩ := he
  exact ⟨s, hs, Reachable.inv (Reachable.start.perform hs), hstrict,
    ⟨⟨hdraw, hdraw'⟩, ⟨hread, hread'⟩⟩, ⟨⟨hdraw₁, hdraw₁'⟩, ⟨hread₁, hread₁'⟩⟩⟩

end Session

end GraphicsObjects
