import GraphicsObjects.Proofs.Object.Textures
import GraphicsObjects.Proofs.Session.Runs

/-!
# Updates hit their own object

Whatever is bound and believed to be bound, an operation that updates an object changes what the
driver keeps of that object only. An attachment is the exception, since the framebuffer gives back
what was attached at the point, and may have been the last to keep it.
-/

namespace GraphicsObjects.Session

open Ownership ContextM SessionM Simulation

variable {config : Config} {s s' : Session Sim} {op : Op} {name : String}

theorem careful_of_updated (h : op.updated? = some name) (s' : Session Sim) : Careful s op s' := by
  cases op with
  | buffer | texture | renderbuffer | framebuffer | shader | program | attachRenderbuffer
  | attachTexture | enableAttribute | setPointer | setIndexBuffer => exact ⟨trivial, nofun⟩
  | _ => cases h

/-- Nothing changes but the object, and what an attachment displaced and nothing keeps. -/
theorem Reachable.stateOf_update (h : Reachable Careful config s) {answer : op.Answer}
    (hs : s.step op = some (answer, s')) (hu : op.updated? = some name) {r : Ref} {b : Box Object}
    (hb : s.box? name = some (r, b)) {k : Kind} {i : Id}
    (hne : (k, i) ≠ (b.content.payload.kind, b.id)) :
    s'.driver.stateOf k i = s.driver.stateOf k i ∨
      s.Displaces op (k, i) ∧ (k, i) ∉ s'.driver.live := by
  obtain ⟨gone, hadvance, hgone⟩ := h.progress hs (careful_of_updated hu s')
  by_cases hm : (k, i) ∈ gone
  · exact .inr ⟨hgone (by rw [hu]; rfl) _ hm, hadvance.dead _ hm⟩
  · refine .inl (hadvance.others k i (fun hmay => hne ?_) hm)
    obtain ⟨r', b', hb', hk, hi⟩ := hmay name hu
    cases hb.symm.trans hb'
    rw [hk, hi]

theorem Reachable.elementBuffer_buffer (h : Reachable Careful config s) {op : BufferOp}
    {answer : (Op.buffer name op).Answer} (hs : s.step (.buffer name op) = some (answer, s'))
    {v : Id} (hv : v ≠ 0) : s'.driver.elementBuffer v = s.driver.elementBuffer v := by
  obtain ⟨f, hf, -⟩ := onObject_eq hs
  obtain ⟨b, hb, -, hc⟩ := box?_of_find? Payload.reads_buffer hf
  have hne : (Kind.vertexArray, v) ≠ (b.content.payload.kind, b.id) := by
    rw [hc]
    nofun
  rcases h.stateOf_update hs rfl hb hne with he | ⟨hd, -⟩
  · have hstate := ObjectState.vertexArray.inj he
    simp only [VertexArrayState.named, if_neg hv] at hstate
    exact congrArg (·.elementBuffer) hstate
  · exact hd.elim

/-- The driver's object of a texture in a variable has a name and may be bound on its unit. -/
theorem Inv.texture_named (h : s.Inv) {t : Found Texture}
    (ht : s.find? Payload.texture? name = some t) :
    t.context = 0 ∧ t.id ≠ 0 ∧ t.known.slot.Admits s.driver.live t.id := by
  obtain ⟨-, hhas⟩ := has_of_find? Payload.reads_texture ht
  refine ⟨h.sound.context_eq hhas, fun hz => ?_, h.sound.admits hhas rfl⟩
  have hface : (t.ref, 0, ⟨t.context, .texture t.known⟩) ∈ s.store.faces := hz ▸ hhas
  cases h.sound.screens _ _ hface

theorem Inv.setParameter_lands (h : s.Inv) {t : Found Texture} {p : Enumerant} {value : Int}
    (ht : s.find? Payload.texture? name = some t)
    (hs : s.step (.texture name (.setParameter p value)) = some ((), s')) :
    s'.driver.activeUnit = t.known.unit ∧ s'.driver.textureParameter? t.id p = some value := by
  obtain ⟨hc, hz, hid⟩ := h.texture_named ht
  obtain ⟨f, hf, -, rfl⟩ := onObject_eq hs
  cases ht.symm.trans hf
  have hlands := t.known.setParameter_lands h.sound.ready hid hz p value
  rw [hc]
  exact hlands

theorem Inv.setImage_lands (h : s.Inv) {t : Found Texture} {form : Texture.ImageForm}
    {image : ImageSpec} (ht : s.find? Payload.texture? name = some t)
    (hs : s.step (.texture name (.setImage form image)) = some (.ok (), s')) :
    s'.driver.activeUnit = t.known.unit ∧ ∃ target, form.target? t.known.target = some target ∧
      s'.driver.image? t.id target image.level = some (Texture.imageOf target
        { image with size := image.size.restrict form.dimensions }) := by
  obtain ⟨hc, hz, hid⟩ := h.texture_named ht
  obtain ⟨f, hf, hok, rfl⟩ := onObject_eq hs
  cases ht.symm.trans hf
  rw [hc] at hok ⊢
  exact t.known.setImage_lands h.sound.ready hid hz form image hok.symm

/-- In every state that a careful run reaches, an update changes what the driver keeps of its own
object only, but for what an attachment displaced and nothing keeps any more. In particular an
update of a buffer shows in no vertex array other than the default one, and what is set on a texture
is set on its unit, which is active afterwards, and under its name. -/
theorem updates_hit_own_object (h : Reachable Careful config s) :
    (∀ op answer s' name r b, s.step op = some (answer, s') → op.updated? = some name →
      s.box? name = some (r, b) → ∀ k i, (k, i) ≠ (b.content.payload.kind, b.id) →
        s'.driver.stateOf k i = s.driver.stateOf k i ∨
          s.Displaces op (k, i) ∧ (k, i) ∉ s'.driver.live) ∧
    (∀ name op answer s' v, s.step (.buffer name op) = some (answer, s') → v ≠ 0 →
      s'.driver.elementBuffer v = s.driver.elementBuffer v) ∧
    (∀ name t p value s', s.find? Payload.texture? name = some t →
      s.step (.texture name (.setParameter p value)) = some ((), s') →
        s'.driver.activeUnit = t.known.unit ∧
          s'.driver.textureParameter? t.id p = some value) ∧
    (∀ name t form image s', s.find? Payload.texture? name = some t →
      s.step (.texture name (.setImage form image)) = some (.ok (), s') →
        s'.driver.activeUnit = t.known.unit ∧
          ∃ target, form.target? t.known.target = some target ∧
            s'.driver.image? t.id target image.level = some (Texture.imageOf target
              { image with size := image.size.restrict form.dimensions })) := by
  refine ⟨?_, ?_, ?_, ?_⟩
  · intro op answer s' name r b hs hu hb k i hne
    exact h.stateOf_update hs hu hb hne
  · intro name op answer s' v hs hv
    exact h.elementBuffer_buffer hs hv
  · intro name t p value s' ht hs
    exact h.inv.setParameter_lands ht hs
  · intro name t form image s' ht hs
    exact h.inv.setImage_lands ht hs

/-- A texture on unit 2, with another on unit 0, which is the active one. -/
def twoTextures : Option (Session Sim) :=
  (start .fresh { strictUnbind := true }).perform Careful
    [.create "t" 0 (.texture .texture2D), .create "u" 0 (.texture .texture2D),
      .texture "t" (.setToUnit 2), .bind "u"]

theorem parameter_hits_own_unit : ∃ s s', twoTextures = some s ∧ s.driver.activeUnit = 0 ∧
    s.step (.texture "t" (.setParameter Enumerant.textureMagFilter 9728)) = some ((), s') ∧
    s'.driver.activeUnit = 2 ∧
    s'.driver.textureParameter? 1 Enumerant.textureMagFilter = some 9728 ∧
    s'.driver.stateOf .texture 2 = s.driver.stateOf .texture 2 := by
  have hsome : (twoTextures.bind fun s => s.step
      (.texture "t" (.setParameter Enumerant.textureMagFilter 9728))).isSome = true := by cbv
  obtain ⟨⟨answer, s'⟩, hs'⟩ := Option.isSome_iff_exists.mp hsome
  obtain ⟨s, hs, hstep⟩ := Option.bind_eq_some_iff.mp hs'
  have hunit : twoTextures.map (fun s => s.driver.activeUnit) = some 0 := by cbv
  have hfound : twoTextures.map (fun s => (s.find? Payload.texture? "t").map
      fun t => (t.id, t.known.unit)) = some (some (1, 2)) := by cbv
  have hbox : twoTextures.map (fun s => (s.box? "t").map
      fun x => (x.2.content.payload.kind, x.2.id)) = some (some (.texture, 1)) := by cbv
  simp only [hs, Option.map_some, Option.some.injEq, Option.map_eq_some_iff, Prod.mk.injEq]
    at hunit hfound hbox
  obtain ⟨t, ht, hid, htunit⟩ := hfound
  obtain ⟨⟨r, b⟩, hb, hkind, hbid⟩ := hbox
  obtain ⟨hown, -, hparameter, -⟩ := updates_hit_own_object (Reachable.start.perform hs)
  obtain ⟨hactive, hvalue⟩ := hparameter "t" t _ _ s' ht hstep
  have hne : (Kind.texture, 2) ≠ (b.content.payload.kind, b.id) := by
    rw [hkind, hbid]
    decide
  refine ⟨s, s', hs, hunit, hstep, htunit ▸ hactive, hid ▸ hvalue, ?_⟩
  exact (hown _ _ s' "t" r b hstep rfl hb .texture 2 hne).resolve_right fun hd => hd.1

/-- A framebuffer is the last to keep a texture of which a parameter is set. -/
def lastTexture : Option (Session Sim) :=
  (start .fresh { checkErrors := false }).perform Careful
    [.create "t" 0 (.texture .texture2D),
      .texture "t" (.setParameter Enumerant.textureMagFilter 9728), .create "r" 0 .renderbuffer,
      .create "f" 0 (.framebuffer .draw), .attachTexture "f" (.color 0) "t" (.level 0), .drop "t"]

/-- The parameter is lost when a renderbuffer is attached instead. -/
theorem attachment_loses_parameter : ∃ s s', lastTexture = some s ∧
    Reachable Careful { checkErrors := false } s ∧
    s.step (.attachRenderbuffer "f" (.color 0) "r") = some ((), s') ∧
    s.driver.textureParameter? 1 Enumerant.textureMagFilter = some 9728 ∧
    s'.driver.textureParameter? 1 Enumerant.textureMagFilter = none := by
  have hsome : (lastTexture.bind fun s =>
      s.step (.attachRenderbuffer "f" (.color 0) "r")).isSome = true := by cbv
  obtain ⟨⟨answer, s'⟩, hs'⟩ := Option.isSome_iff_exists.mp hsome
  obtain ⟨s, hs, hstep⟩ := Option.bind_eq_some_iff.mp hs'
  have hbefore : lastTexture.map (fun s =>
      s.driver.textureParameter? 1 Enumerant.textureMagFilter) = some (some 9728) := by cbv
  have hafter : (lastTexture.bind fun s =>
      s.step (.attachRenderbuffer "f" (.color 0) "r")).map (fun x =>
        x.2.driver.textureParameter? 1 Enumerant.textureMagFilter) = some none := by cbv
  rw [hs] at hbefore
  rw [hs'] at hafter
  exact ⟨s, s', hs, Reachable.start.perform hs, hstep, Option.some.inj hbefore,
    Option.some.inj hafter⟩

end GraphicsObjects.Session
