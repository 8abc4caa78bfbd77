import GraphicsObjects.Proofs.Session.Recording

/-!
# Objects live as long as they are referred to

The live objects of the driver are those that a variable refers to, directly or through what keeps
them alive. Each is deleted once, an owner before what it kept.
-/

namespace GraphicsObjects.Session

open Ownership

/-- A variable holds the reference, or what is referred to holds it. -/
inductive Referenced (s : Session Sim) : Ref → Prop where
  | held {name : String} {r : Ref} (h : s.vars.get? name = some (.object r)) : Referenced s r
  | kept {r q : Ref} {b : Box Object} (h : Referenced s r) (hb : s.store.get? r = some b)
    (hq : q ∈ b.content.payload.owned) : Referenced s q

/-- The object of the driver has a name and is referred to. -/
def Refers (s : Session Sim) (k : Kind) (id : Id) : Prop :=
  id ≠ 0 ∧ ∃ r b, s.Referenced r ∧ s.store.get? r = some b ∧ b.content.payload.kind = k ∧ b.id = id

variable {config : Config} {s s' : Session Sim} {op : Op} {r q : Ref} {k : Kind} {id : Id}

/-- What an object keeps alive keeps nothing alive in turn. -/
theorem Inv.not_mem_inner (h : s.Inv) {b : Box Object} (hb : s.store.get? r = some b)
    (hq : q ∈ b.content.payload.owned) : r ∉ s.store.inner := by
  intro hr
  obtain ⟨p, c, hc, hm⟩ := Store.mem_inner_iff.mp hr
  have hmay := h.sound.parts p c.id c.content (Store.mem_faces_iff.mpr ⟨c, hc, rfl, rfl⟩) r hm
    b.id b.content (Store.mem_faces_iff.mpr ⟨b, hb, rfl, rfl⟩)
  rw [hmay.owned_eq_nil] at hq
  exact List.not_mem_nil hq

/-- There is no box without a reference that comes from a variable. -/
theorem Inv.referenced (h : s.Inv) {b : Box Object} (hb : s.store.get? r = some b) :
    s.Referenced r := by
  rcases List.mem_append.mp (h.sound.balanced.mem_of_get? hb) with hroot | hinner
  · obtain ⟨name, hname⟩ := mem_roots_iff.mp hroot
    exact .held hname
  · -- what keeps it is kept by nothing, so a variable holds that
    obtain ⟨q, c, hc, hr⟩ := Store.mem_inner_iff.mp hinner
    have hq := (List.mem_append.mp (h.sound.balanced.mem_of_get? hc)).resolve_right
      (h.not_mem_inner hc hr)
    obtain ⟨name, hname⟩ := mem_roots_iff.mp hq
    exact .kept (.held hname) hc hr

theorem Inv.mem_live_iff (h : s.Inv) : (k, id) ∈ s.driver.live ↔ s.Refers k id := by
  rw [h.sound.named.mem_iff, mem_names_iff]
  constructor
  · rintro ⟨r, o, hm, hz, hk⟩
    obtain ⟨b, hb, hid, rfl⟩ := Store.mem_faces_iff.mp hm
    exact ⟨hz, r, b, h.referenced hb, hb, hk, hid⟩
  · rintro ⟨hz, r, b, -, hb, hk, hid⟩
    exact ⟨r, b.content, Store.mem_faces_iff.mpr ⟨b, hb, hid, rfl⟩, hz, hk⟩

/-- After any careful run the live objects are those referred to, and no object is live twice. Every
deletion that the driver received named what was live when the request came; these are all that the
driver carried out, and all that the context logged. What is to be deleted in a further step is no
longer live after it, and an owner is deleted before what it kept. -/
theorem lives_while_referenced {s : Session Recording} (h : OnRecord Careful config s) :
    (∀ k id, (k, id) ∈ s.driver.sim.live ↔ s.plain.Refers k id) ∧ s.driver.sim.live.Nodup ∧
      (∀ d q, (d, q) ∈ s.driver.received → ∀ n ∈ q.deletes, n ∈ d.live) ∧
      s.driver.asked = s.driver.sim.deleted ∧ s.driver.asked = deletions s.trace ∧
      ∀ op answer s', s.step op = some (answer, s') → Careful s.plain op s'.plain →
        ∃ gone, s'.driver.asked = s.driver.asked ++ gone ∧
          (∀ n ∈ gone, n ∉ s'.driver.sim.live) ∧
          gone.Pairwise fun earlier later => ¬ s.plain.Keeps later earlier := by
  have hinv : s.plain.Inv := h.reachable.inv
  refine ⟨fun k id => hinv.mem_live_iff, hinv.sound.wellNamed.nodup, fun d q => h.apt (d, q),
    h.asked_eq, h.frank.logged, fun op answer s' hs hr => ?_⟩
  obtain ⟨gone, hadvance, -⟩ := h.reachable.progress (step_plain hr.1 hs) hr
  refine ⟨gone, ?_, hadvance.dead, hadvance.ownersFirst⟩
  rw [(h.step hs hr).asked_eq, h.asked_eq]
  exact hadvance.deleted

/-- A framebuffer keeps a texture that no variable holds and whose name was another's before. -/
def keptTexture : Option (Session Recording) :=
  (start { sim := .fresh } {}).performOnRecord
    [.create "old" 0 (.texture .texture3D), .drop "old", .create "t" 0 (.texture .texture2D),
      .create "f" 0 (.framebuffer .draw), .attachTexture "f" (.color 0) "t" (.level 0), .drop "t"]

/-- After that, creation fails. -/
def keptTextureOnly : Option (Session Recording) :=
  keptTexture.bind fun s => (s.setUp (.failCreation true)).performOnRecord
    [.create "b" 0 (.buffer .array)]

/-- One deletion has been received so far, of the first texture. With the framebuffer goes the
texture that it kept, after it. -/
theorem keptTexture_lives : ∃ s answer s', keptTextureOnly = some s ∧
    s.plain.Refers .texture 1 ∧ ¬ s.plain.Refers .buffer 1 ∧
    s.driver.asked = [(.texture, 1)] ∧
    (∀ d q, (d, q) ∈ s.driver.received → ∀ n ∈ q.deletes, n ∈ d.live) ∧
    s.step (.drop "f") = some (answer, s') ∧
    s'.driver.asked = [(.texture, 1), (.framebuffer, 1), (.texture, 1)] ∧
    ∃ gone, s'.driver.asked = s.driver.asked ++ gone ∧ (∀ n ∈ gone, n ∉ s'.driver.sim.live) ∧
      gone.Pairwise fun earlier later => ¬ s.plain.Keeps later earlier := by
  have hrun : (keptTextureOnly.bind fun s => (s.step (.drop "f")).map fun x =>
      (s.driver.sim.live, s.driver.asked, x.2.driver.asked,
        decide (Careful s.plain (.drop "f") x.2.plain))) =
      some ([(.framebuffer, 1), (.texture, 1)], [(.texture, 1)],
        [(.texture, 1), (.framebuffer, 1), (.texture, 1)], true) := by
    cbv
  obtain ⟨s, hs, hstep⟩ := Option.bind_eq_some_iff.mp hrun
  obtain ⟨⟨answer, s'⟩, hs', hfacts⟩ := Option.map_eq_some_iff.mp hstep
  obtain ⟨hlive, hasked, hasked', hrule⟩ := by simpa only [Prod.mk.injEq] using hfacts
  obtain ⟨s₀, hs₀, hs₁⟩ := Option.bind_eq_some_iff.mp hs
  have hrecord : OnRecord Careful {} s :=
    ((OnRecord.start.perform hs₀).setUp (.failCreation true)).perform hs₁
  obtain ⟨hrefers, -, hapt, -, -, hsteps⟩ := lives_while_referenced hrecord
  refine ⟨s, answer, s', hs, ?_, ?_, hasked, hapt, hs', hasked',
    hsteps _ answer s' hs' (of_decide_eq_true hrule)⟩
  · rw [← hrefers, hlive]
    decide
  · rw [← hrefers, hlive]
    decide

end GraphicsObjects.Session
