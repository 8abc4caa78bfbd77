import GraphicsObjects.Proofs.Context.Foreign
import GraphicsObjects.Proofs.Object.Refusals
import GraphicsObjects.Proofs.Object.Restoring
import GraphicsObjects.Proofs.Object.Textures

/-!
# Registers after the update of a texture

A texture is updated on its own unit, which is made active for it. The guards of an update put back
what was bound to their slots, and a guard on the slot of a texture makes the unit active once more
for that. No guard is on the active unit itself: it is the one register that an update changes.
-/

namespace GraphicsObjects

open ContextM Sim

variable {α β : Type} {live : List (Kind × Id)} {held : List (Slot × Id)} {c : Context Sim}
variable {slots : List Slot} {slot r : Slot} {unit : Nat} {id : Id}

namespace ContextM

/-! ## What is known of slots -/

/-- Where guards restore, what is known of lasting registers before is known afterwards. -/
def Retaining (act : ContextM Sim α) : Prop :=
  ∀ c, c.config.strictUnbind = true → (act c).2.config = c.config ∧ c.Retains (act c).2

theorem Retaining.bind {x : ContextM Sim α} {f : α → ContextM Sim β} (hx : Retaining x)
    (hf : ∀ a, Retaining (f a)) : Retaining (x >>= f) := by
  intro c hs
  obtain ⟨hconfig, hretains⟩ := hx c hs
  have hs' : (x c).2.config.strictUnbind = true := (congrArg _ hconfig).trans hs
  obtain ⟨hconfig', hretains'⟩ := hf (x c).1 (x c).2 hs'
  exact ⟨hconfig'.trans hconfig, fun r id hr hb => hretains' r id hr (hretains r id hr hb)⟩

theorem Neutral.retaining {act : ContextM Sim α} (h : Neutral act) : Retaining act := by
  intro c _
  obtain ⟨hconfig, hcache⟩ := h c
  exact ⟨hconfig, fun r id _ hb => hcache ▸ hb⟩

theorem config_release (g : Guard) (c : Context Sim) : (release g c).2.config = c.config := by
  obtain ⟨slot, previous, restore⟩ := g
  cases previous with
  | none => rfl
  | some id =>
      cases restore with
      | false => rfl
      | true => exact Context.config_bind c slot id

/-- The guard puts its own slot back, and binds to that touch no other register that lasts. -/
theorem Retaining.holding {act : ContextM Sim α} (hact : Retaining act) (hslot : slot.IsRegister)
    (id : Id) : Retaining (holding slot id act) := by
  intro c hs
  let c₁ := (acquire slot id c).2
  have hconfig₁ : c₁.config = c.config := Context.config_bind c slot id
  obtain ⟨hconfig₂, hretains⟩ := hact c₁ ((congrArg _ hconfig₁).trans hs)
  refine ⟨(config_release _ _).trans (hconfig₂.trans hconfig₁), fun r x hr hb => ?_⟩
  by_cases he : r = slot
  · subst he
    have hactive := isActive_holding act hslot hb hs id
    exact BindingCache.belief_of_isActive hactive (by simp [Slot.registers_of_isRegister hslot])
  · have hn : r ∉ slot.registers := by simpa [Slot.registers_of_isRegister hslot] using he
    have hb₁ : c₁.cache.belief r = .bound x := (belief_bind c id hr hn).trans hb
    exact (belief_release _ hr hn).trans (hretains r x hr hb₁)

/-! ## Work on a unit -/

/-- Work under guards on some slots that leaves a unit active. -/
structure OnUnit (live : List (Kind × Id)) (slots : List Slot) (unit : Nat)
    (act : ContextM Sim α) : Prop where
  work : ∀ held : List (Slot × Id),
    (∀ x ∈ held, x.1.IsRegister ∧ x.1 ≠ .activeTexture ∧ x.1 ∉ slots) →
    Work live (fun _ _ => True) held ((.activeTexture, unit) :: held) act
  retaining : Retaining act

theorem OnUnit.bind {x : ContextM Sim α} {f : α → ContextM Sim β}
    (hx : OnUnit live slots unit x) (hf : ∀ a, OnUnit live slots unit (f a)) :
    OnUnit live slots unit (x >>= f) where
  work held h := .bind ((hx.work held h).weaken fun _ => List.mem_cons_of_mem _)
    fun a => (hf a).work held h
  retaining := hx.retaining.bind fun a => (hf a).retaining

theorem OnUnit.bind_pure {x : ContextM Sim α} (hx : OnUnit live slots unit x) (f : α → β) :
    OnUnit live slots unit (x >>= fun a => pure (f a)) where
  work held h := .bind (hx.work held h) fun _ => .pure _
  retaining := hx.retaining.bind fun _ => (Neutral.pure _).retaining

/-- The last action of several leaves the unit active. -/
theorem OnUnit.forM {xs : List α} {f : α → ContextM Sim PUnit} (hne : xs ≠ [])
    (h : ∀ x ∈ xs, OnUnit live slots unit (f x)) : OnUnit live slots unit (xs.forM f) := by
  induction xs with
  | nil => exact absurd rfl hne
  | cons x xs ih =>
      have hx := h x List.mem_cons_self
      cases xs with
      | nil => exact hx.bind_pure _
      | cons y ys =>
          refine hx.bind fun _ => ih (List.cons_ne_nil y ys) fun z hz => ?_
          exact h z (List.mem_cons_of_mem _ hz)

/-- All registers but the active unit are as before, if the guarded ones were known. -/
theorem OnUnit.bound_eq {act : ContextM Sim α} (hact : OnUnit live slots unit act)
    (h : c.Ready live []) (hs : c.config.strictUnbind = true)
    (hk : ∀ r ∈ slots, r.Lasting ∧ c.cache.belief r ≠ .unknown) (hr : r.IsRegister) :
    (act c).2.driver.bound r = if r = .activeTexture then unit else c.driver.bound r := by
  by_cases hu : r = .activeTexture
  · subst hu
    rw [if_pos rfl]
    exact (hact.work [] nofun c h).1.held _ List.mem_cons_self
  · rw [if_neg hu]
    by_cases hm : r ∈ slots
    · obtain ⟨hlasting, hknown⟩ := hk r hm
      cases hb : c.cache.belief r with
      | unknown => exact absurd hb hknown
      | bound x =>
          have hready := (hact.work [] nofun c h).1
          have hbelief := (hact.retaining c hs).2 r x hlasting hb
          rw [(hready.coherent.agrees r x hr hbelief).1, (h.coherent.agrees r x hr hb).1]
    · have hheld : c.Ready live [(r, c.driver.bound r)] := ⟨h.live, h.coherent, by simp⟩
      have hapart : ∀ x ∈ [(r, c.driver.bound r)],
          x.1.IsRegister ∧ x.1 ≠ .activeTexture ∧ x.1 ∉ slots := by simp [hr, hu, hm]
      exact (hact.work _ hapart c hheld).1.held _ (List.mem_cons_of_mem _ List.mem_cons_self)

end ContextM

/-! ## Updates -/

/-- The slots on which an update of a texture holds guards. -/
def TextureOp.guarded (t : Texture) : TextureOp → List Slot
  | setImage .. => [.buffer .pixelUnpack, t.slot]
  | generateMipmap | setParameter .. | parameter _ | setWrap _ | setFilter .. => [t.slot]
  | .target | .unit | setToUnit _ => []

namespace Texture

variable {t : Texture} {q : Request} {op : TextureOp}

theorem spares_slot (h : ∀ x ∈ held, x.1.IsRegister ∧ x.1 ≠ .activeTexture ∧ x.1 ≠ t.slot) :
    t.slot.Spares held := by
  intro x hx
  obtain ⟨hr, hu, hne⟩ := h x hx
  exact ⟨hr, by simpa [slot, Slot.touched] using And.intro hne hu⟩

theorem work_holding_unit {act : ContextM Sim α} {may : Kind → Id → Prop}
    (hid : t.slot.Admits live id) (hs : t.slot.Spares held)
    (hact : Work live may (t.slot.holding id ++ held) (t.slot.holding id ++ held) act) :
    Work live may held ((.activeTexture, t.unit) :: held) (holding t.slot id act) := by
  have hleft : Work live may (t.slot.holding id ++ held) ((.activeTexture, t.unit) :: held)
      act := by
    refine hact.weaken fun x hx => ?_
    rcases List.mem_cons.mp hx with rfl | hx
    · exact List.mem_append_left _ (List.mem_cons_of_mem _ List.mem_cons_self)
    · exact List.mem_append_right _ hx
  refine work_holding_leaving hid hs (within_bind nofun) hleft fun g hg hrestorable => ?_
  exact (work_release_unit hg hrestorable (hg ▸ hs)).mono nofun

theorem onUnit_command (t : Texture) (hid : t.slot.Admits live id) (hq : q.IsContent)
    (site : Site) : OnUnit live [t.slot] t.unit (holding t.slot id (command q site)) where
  work held h := by
    have hspares : t.slot.Spares held := spares_slot fun x hx => by simpa using h x hx
    exact work_holding_unit hid hspares (ContextM.work_command hq Sim.within_anything)
  retaining := (neutral_command q site).retaining.holding (by simp [slot, Slot.IsRegister]) id

/-- How an image is specified once it has passed its check. -/
def specifying (t : Texture) (id : Id) (target : ImageTarget) (image : ImageSpec) :
    ContextM Sim Unit :=
  holding (.buffer .pixelUnpack) 0 <| holding t.slot id <|
    command (.texImage target image) .settingTextureImage

/-- The guard of the unpack buffer is released last, and leaves the unit active. -/
theorem onUnit_specifying (t : Texture) (hid : t.slot.Admits live id) (target : ImageTarget)
    (image : ImageSpec) :
    OnUnit live [.buffer .pixelUnpack, t.slot] t.unit (t.specifying id target image) where
  work held h := by
    have hne : ∀ x ∈ held, x.1 ≠ .buffer .pixelUnpack ∧ x.1 ≠ t.slot := fun x hx => by
      simpa using (h x hx).2.2
    have hunpack : (Slot.buffer .pixelUnpack).Spares ((.activeTexture, t.unit) :: held) :=
      Slot.spares_cons (by decide) (by decide) fun x hx => ⟨(h x hx).1, by
        simpa [Slot.touched, Slot.written, Slot.registers] using (hne x hx).1⟩
    have htexture : t.slot.Spares ((Slot.buffer .pixelUnpack).holding 0 ++ held) :=
      Slot.spares_cons (by decide) (by simp [slot, Slot.touched]) <|
        spares_slot fun x hx => ⟨(h x hx).1, (h x hx).2.1, (hne x hx).2⟩
    have hq : (Request.texImage target image).IsContent := trivial
    have hinner : Work live (fun _ _ => True) ((Slot.buffer .pixelUnpack).holding 0 ++ held)
        ((.activeTexture, t.unit) :: held)
        (holding t.slot id (command (.texImage target image) .settingTextureImage)) :=
      (work_holding_unit hid htexture (ContextM.work_command hq Sim.within_anything)).weaken
        (List.cons_subset_cons _ (List.subset_append_right _ _))
    refine work_holding_leaving (Slot.admits_zero ..) (fun x hx => hunpack x (.tail _ hx))
      Sim.within_anything hinner fun g hg hrestorable => ?_
    exact work_release hrestorable (hg ▸ hunpack) Sim.within_anything
  retaining := ((neutral_command _ _).retaining.holding (by simp [slot, Slot.IsRegister])
    id).holding (by decide) 0

theorem onUnit_setParameter (t : Texture) (hid : t.slot.Admits live id) (p : Enumerant)
    (value : Int) : OnUnit live [t.slot] t.unit (t.setParameter id p value) :=
  t.onUnit_command (q := .texParameter t.target p value) hid trivial _

theorem onUnit_parameter (t : Texture) (hid : t.slot.Admits live id) (p : Enumerant) :
    OnUnit live [t.slot] t.unit (t.parameter id p) :=
  t.onUnit_command (q := .getTexParameter t.target p) hid trivial _

theorem onUnit_generateMipmap (t : Texture) (hid : t.slot.Admits live id) :
    OnUnit live [t.slot] t.unit (t.generateMipmap id) :=
  t.onUnit_command (q := .generateMipmap t.target) hid trivial _

theorem onUnit_setFilter (t : Texture) (hid : t.slot.Admits live id) (min : MinFilter)
    (mag : MagFilter) : OnUnit live [t.slot] t.unit (t.setFilter id min mag) :=
  .bind (t.onUnit_setParameter hid _ _) fun _ => t.onUnit_setParameter hid _ _

theorem wrapParameters_ne_nil (target : TextureTarget) : wrapParameters target ≠ [] := by
  cases target <;> simp [wrapParameters, axes, TextureTarget.imageDimensions]

theorem onUnit_setWrap (t : Texture) (hid : t.slot.Admits live id) (mode : WrapMode) :
    OnUnit live [t.slot] t.unit (t.setWrap id mode) :=
  .forM (wrapParameters_ne_nil t.target) fun p _ => t.onUnit_setParameter hid p _

/-- Client memory is checked first, which changes nothing. -/
theorem setImage_ok {form : ImageForm} {image : ImageSpec}
    (hok : Failure.of? (t.setImage id form image c).1 = none) :
    ∃ target image', (t.setImage id form image c).2 = (t.specifying id target image' c).2 := by
  unfold setImage at hok ⊢
  cases ht : form.target? t.target with
  | none =>
      rw [ht] at hok
      cases hok
  | some target =>
      rw [ht] at hok
      refine ⟨target, { image with size := image.size.restrict form.dimensions }, ?_⟩
      cases hcheck : (checkImage target { image with
          size := image.size.restrict form.dimensions } c).1 with
      | error e =>
          rw [upload_error hcheck] at hok
          cases hok
      | ok u =>
          refine (upload_ok hcheck).trans ?_
          rw [still_checkImage]
          rfl

/-- An update that is not refused is work under its guards that leaves the unit active. -/
theorem onUnit_run (hid : t.slot.Admits live id) (hop : t.slot ∈ op.guarded t)
    (hok : op.failure? (op.run id t c).1.1 = none) :
    ∃ act : ContextM Sim (op.Answer × Texture), OnUnit live (op.guarded t) t.unit act ∧
      (op.run id t c).2 = (act c).2 := by
  cases op with
  | target | unit | setToUnit unit => exact absurd hop List.not_mem_nil
  | generateMipmap => exact ⟨_, (t.onUnit_generateMipmap hid).bind_pure _, rfl⟩
  | setParameter p value => exact ⟨_, (t.onUnit_setParameter hid p value).bind_pure _, rfl⟩
  | parameter p => exact ⟨_, (t.onUnit_parameter hid p).bind_pure _, rfl⟩
  | setWrap mode => exact ⟨_, (t.onUnit_setWrap hid mode).bind_pure _, rfl⟩
  | setFilter min mag => exact ⟨_, (t.onUnit_setFilter hid min mag).bind_pure _, rfl⟩
  | setImage form image =>
      obtain ⟨target, image', hrun⟩ := setImage_ok hok
      exact ⟨_, (t.onUnit_specifying hid target image').bind_pure fun _ => (.ok (), t), hrun⟩

/-! ## All registers -/

theorem lasting_of_guarded (h : r ∈ op.guarded t) : r.Lasting := by
  have hmem : r = .buffer .pixelUnpack ∨ r = t.slot := by
    cases op <;> simp_all [TextureOp.guarded]
  rcases hmem with rfl | rfl
  · simp [Slot.Lasting, Slot.IsRegister]
  · simp [Slot.Lasting, Slot.IsRegister, slot]

/-- With guards that restore, from every state in which the cache is right and knows what is bound
to the slots that are guarded: an update of a live texture leaves its unit active, unless it is
refused, and leaves in all other registers what they held. So all registers are restored just if the
unit was active before or the update is refused. -/
theorem update_leaves_unit (t : Texture) (op : TextureOp) (hop : t.slot ∈ op.guarded t)
    (hs : c.config.strictUnbind = true)
    (hc : ∀ r x, r.IsRegister → c.cache.belief r = .bound x →
      c.driver.bound r = x ∧ r.Admits c.driver.live x)
    (hk : ∀ r ∈ op.guarded t, c.cache.belief r ≠ .unknown) (hl : (.texture, id) ∈ c.driver.live) :
    (∀ r : Slot, r.IsRegister → (op.run id t c).2.driver.bound r =
      if r = .activeTexture ∧ op.failure? (op.run id t c).1.1 = none then t.unit
      else c.driver.bound r) ∧
    ((∀ r : Slot, r.IsRegister → (op.run id t c).2.driver.bound r = c.driver.bound r) ↔
      c.driver.activeUnit = t.unit ∨ op.failure? (op.run id t c).1.1 ≠ none) := by
  have hready : c.Ready c.driver.live [] := ⟨rfl, .of_agrees hc, nofun⟩
  have hid : t.slot.Admits c.driver.live id := .inr fun k hkind => by cases hkind; exact hl
  have hbound (r : Slot) (hr : r.IsRegister) : (op.run id t c).2.driver.bound r =
      if r = .activeTexture ∧ op.failure? (op.run id t c).1.1 = none then t.unit
      else c.driver.bound r := by
    cases hok : op.failure? (op.run id t c).1.1 with
    | some e =>
        rw [if_neg nofun]
        rcases (refused_run hok).2 with he | ⟨-, he⟩
        · rw [he]
        · rw [he, Context.counted]
    | none =>
        obtain ⟨act, hact, hrun⟩ := onUnit_run hid hop hok
        rw [hrun, hact.bound_eq hready hs (fun r hm => ⟨lasting_of_guarded hm, hk r hm⟩) hr]
        simp
  refine ⟨hbound, fun hall => ?_, fun hcases r hr => ?_⟩
  · by_cases hok : op.failure? (op.run id t c).1.1 = none
    · have hunit := (hbound .activeTexture (by decide)).symm.trans (hall _ (by decide))
      rw [if_pos ⟨rfl, hok⟩] at hunit
      exact .inl hunit.symm
    · exact .inr hok
  · refine (hbound r hr).trans ?_
    split
    · rename_i hchanged
      rw [hchanged.1]
      exact (hcases.resolve_right (not_not_intro hchanged.2)).symm
    · rfl

/-- A texture is bound on unit 2, then unit 0 is made active. -/
def shelfBinds : ContextM Sim Unit := do
  ContextM.bind (.texture 2 .texture2D) 1
  ContextM.bind .activeTexture 0

/-- A context with two textures. -/
def shelf : Context Sim :=
  .new (Sim.genMany .texture 2 .fresh).2 { checkErrors := false, strictUnbind := true }

def shelved : Context Sim := (shelfBinds shelf).2

theorem coherent_shelved : shelved.cache.Coherent shelved.driver := by
  have hnew : shelf.Ready shelf.driver.live [] :=
    ⟨rfl, BindingCache.Coherent.fresh.congr rfl (List.forall_mem_nil _), List.forall_mem_nil _⟩
  have hbinds : Work shelf.driver.live (fun _ _ => True) [] [] shelfBinds :=
    .bind (work_bind (by decide) (Slot.spares_nil _) Sim.within_anything).forget
      fun _ => (work_bind (by decide) (Slot.spares_nil _) Sim.within_anything).forget
  exact (hbinds _ hnew).1.coherent

theorem live_shelved : shelved.driver.live = [(.texture, 2), (.texture, 1)] := by cbv

/-- An update on the unit that is active restores all registers. -/
theorem shelved_restored : shelved.driver.activeUnit = 0 ∧ ∀ r : Slot, r.IsRegister →
    (TextureOp.run (.setFilter .nearest .nearest) 2 { target := .texture2D } shelved).2.driver.bound
      r = shelved.driver.bound r := by
  have hactive : shelved.driver.activeUnit = 0 := by cbv
  have hknown : shelved.cache.belief (.texture 0 .texture2D) = .bound 0 := by cbv
  refine ⟨hactive, (update_leaves_unit { target := .texture2D } (.setFilter .nearest .nearest)
    List.mem_cons_self (by cbv) coherent_shelved.agrees ?_ ?_).2.mpr (.inl hactive)⟩
  · intro r hr hunknown
    rw [List.mem_singleton.mp hr] at hunknown
    cases hknown.symm.trans hunknown
  · rw [live_shelved]
    decide

/-- An update on another unit leaves that unit active. -/
theorem shelved_left_active : shelved.config.strictUnbind = true ∧
    shelved.cache.Coherent shelved.driver ∧
    shelved.cache.belief .activeTexture = .bound 0 ∧
    shelved.cache.belief (.texture 2 .texture2D) = .bound 1 ∧
    (.texture, 1) ∈ shelved.driver.live ∧ shelved.driver.bound .activeTexture = 0 ∧
    (TextureOp.run (.setParameter Enumerant.textureMagFilter 9728) 1
      { target := .texture2D, unit := 2 } shelved).2.driver.bound .activeTexture = 2 := by
  have hlive : (.texture, 1) ∈ shelved.driver.live := by
    rw [live_shelved]
    decide
  refine ⟨by cbv, coherent_shelved, ?_, ?_, hlive, ?_, ?_⟩
  · cbv
  · cbv
  · cbv
  · cbv

end Texture

end GraphicsObjects
