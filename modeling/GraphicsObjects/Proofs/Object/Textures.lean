import GraphicsObjects.Proofs.Object.Work

/-!
# Where updates of a texture land

A command on a texture is issued with the unit of the texture active and the texture bound there,
and that unit stays active. So what it sets is set under the name of the texture.
-/

namespace GraphicsObjects.Texture

open ContextM Sim

variable {live : List (Kind × Id)} {held : List (Slot × Id)} {c : Context Sim} {id : Id}

theorem nothing_acquire {slot : Slot} (hid : slot.Admits live id) (hs : slot.Spares held)
    (hne : slot ≠ .elementArray) :
    Work live nothing held (slot.holding id ++ held) (acquire slot id) :=
  work_acquire hid hs (within_bind hne)

/-- A guard of a texture slot leaves the unit of the slot active. -/
theorem work_release_unit {g : Guard} {unit : Nat} {target : TextureTarget}
    (hslot : g.slot = .texture unit target) (hg : g.Restorable live) (hs : g.slot.Spares held) :
    Work live nothing ((.activeTexture, unit) :: held) ((.activeTexture, unit) :: held)
      (release g) := by
  unfold release
  split
  · rename_i id hid
    split
    · rename_i hrestore
      intro c hc
      have hw : Sim.Within held nothing (.bind g.slot id) := within_bind (by rw [hslot]; nofun)
      have hbind := work_bind (hg hrestore id hid) hs hw
      obtain ⟨hready, hkept⟩ := hbind c (hc.weaken fun _ hx => List.mem_cons_of_mem _ hx)
      refine ⟨hready.weaken fun x hx => ?_, hkept⟩
      rcases List.mem_cons.mp hx with rfl | hx
      · rw [hslot]
        exact List.mem_append_left _ (List.mem_cons_of_mem _ List.mem_cons_self)
      · exact List.mem_append_right _ hx
    · exact .pure _
  · exact .pure _

/-- A request about a texture is carried out by a driver that has the texture bound on its unit, and
nothing changes the contents of the texture afterwards. -/
theorem lands (t : Texture) {q : Request} (site : Site) (h : c.Ready live held)
    (hid : t.slot.Admits live id) (hs : t.slot.Spares held) (hq : q.IsContent) :
    (holding t.slot id (command q site) c).2.Ready live ((.activeTexture, t.unit) :: held) ∧
      ∃ d : Sim, (∀ x ∈ t.slot.holding id ++ held, d.bound x.1 = x.2) ∧
        (holding t.slot id (command q site) c).2.driver.stateOf .texture id =
          (execute q d).2.stateOf .texture id := by
  have hunit : (.activeTexture, t.unit) ∈ t.slot.holding id ++ held :=
    List.mem_append_left _ (List.mem_cons_of_mem _ List.mem_cons_self)
  let c₁ := (acquire t.slot id c).2
  let c₂ := (perform q c₁).2
  let c₃ := (checkError site c₂).2
  obtain ⟨h₁, -⟩ := nothing_acquire hid hs nofun c h
  have hwithin : Within (t.slot.holding id ++ held) (fun _ _ => True) q :=
    Sim.within_anything
  obtain ⟨h₂, -⟩ := work_perform hq hwithin c₁ h₁
  have hcheck : Work live nothing (t.slot.holding id ++ held) _ (checkError site) :=
    work_checkError site
  obtain ⟨h₃, hk₃⟩ := hcheck c₂ h₂
  have h₃' : c₃.Ready live ((.activeTexture, t.unit) :: held) := h₃.weaken fun x hx => by
    rcases List.mem_cons.mp hx with rfl | hx
    · exact hunit
    · exact List.mem_append_right _ hx
  obtain ⟨h₄, hk₄⟩ := work_release_unit rfl (restorable_acquire h t.slot id) hs c₃ h₃'
  refine ⟨h₄, c₁.driver.receive q, fun x hx => ?_, ?_⟩
  · rw [bound_receive]
    exact h₁.held x hx
  · exact (hk₄.others _ _ not_false).trans (hk₃.others _ _ not_false)

theorem textureState_eq_of_stateOf {s s' : Sim}
    (h : s.stateOf .texture id = s'.stateOf .texture id) :
    s.textureState id = s'.textureState id :=
  ObjectState.texture.inj h

theorem boundTexture_of_holding {t : Texture} {d : Sim}
    (h : ∀ x ∈ t.slot.holding id ++ held, d.bound x.1 = x.2) : d.boundTexture t.target = id := by
  have hunit : d.bound .activeTexture = t.unit :=
    h (.activeTexture, t.unit) (List.mem_append_left _ (List.mem_cons_of_mem _ List.mem_cons_self))
  have hbound : d.bound t.slot = id := h (t.slot, id) (List.mem_append_left _ List.mem_cons_self)
  rw [boundTexture, activeUnit, hunit]
  exact hbound

/-- A parameter is set under the name of the texture. -/
theorem setParameter_lands (t : Texture) (h : c.Ready live []) (hid : t.slot.Admits live id)
    (hz : id ≠ 0) (p : Enumerant) (value : Int) :
    (t.setParameter id p value c).2.driver.activeUnit = t.unit ∧
      (t.setParameter id p value c).2.driver.textureParameter? id p = some value := by
  obtain ⟨hready, d, hd, hstate⟩ := t.lands (q := .texParameter t.target p value)
    .settingTextureParameter h hid (Slot.spares_nil _) trivial
  refine ⟨hready.held _ List.mem_cons_self, ?_⟩
  rw [textureParameter?, setParameter, textureState_eq_of_stateOf hstate]
  simp only [execute, texParameter, boundTexture_of_holding hd, if_neg hz]
  simp [textureState, alterTexture, Table.alter, Table.getD_insert]

/-- What the driver keeps of an image. It comes from client memory, not from a buffer. -/
def imageOf (target : ImageTarget) (image : ImageSpec) : Simulation.Image where
  internalFormat := image.internalFormat
  size := image.size.restrict target.dimensions
  initialized := image.data.isSome
  unpackBuffer := 0

theorem upload_error {t : Texture} {target : ImageTarget} {image : ImageSpec} {e : Failure}
    (h : (checkImage target image c).1 = .error e) : (t.upload id target image c).1 = .error e := by
  unfold upload
  rw [bind_apply, h]
  rfl

theorem upload_ok {t : Texture} {target : ImageTarget} {image : ImageSpec}
    (h : (checkImage target image c).1 = .ok ()) :
    (t.upload id target image c).2 =
      (holding (.buffer .pixelUnpack) 0
        (holding t.slot id (command (.texImage target image) .settingTextureImage))
        (checkImage target image c).2).2 := by
  unfold upload
  rw [bind_apply, h]
  rfl

theorem upload_lands (t : Texture) (h : c.Ready live []) (hid : t.slot.Admits live id)
    (hz : id ≠ 0) {target : ImageTarget} (ht : target.textureTarget = t.target) (image : ImageSpec)
    (hok : (t.upload id target image c).1 = .ok ()) :
    (t.upload id target image c).2.driver.activeUnit = t.unit ∧
      (t.upload id target image c).2.driver.image? id target image.level =
        some (imageOf target image) := by
  let inner : ContextM Sim Unit :=
    holding t.slot id (command (.texImage target image) .settingTextureImage)
  let c₀ := (checkImage target image c).2
  let c₁ := (acquire (.buffer .pixelUnpack) 0 c₀).2
  let c₂ := (inner c₁).2
  cases hcheck : (checkImage target image c).1 with
  | error e => cases (upload_error hcheck).symm.trans hok
  | ok _ =>
      have hcheckImage : Work live nothing [] [] (checkImage target image) :=
        work_checkImage target image
      have hzero : (Slot.buffer .pixelUnpack).Admits live 0 := Slot.admits_zero ..
      have hspares : t.slot.Spares ((Slot.buffer .pixelUnpack).holding 0 ++ []) := by
        refine Slot.spares_cons (by decide) ?_ (Slot.spares_nil _)
        simp [slot, Slot.touched]
      have hspares' : (Slot.buffer .pixelUnpack).Spares [(.activeTexture, t.unit)] :=
        Slot.spares_cons (by decide) (by decide) (Slot.spares_nil _)
      have hunpackSlot : Slot.buffer .pixelUnpack ≠ .elementArray := by decide
      obtain ⟨h₀, -⟩ := hcheckImage c h
      obtain ⟨h₁, -⟩ := nothing_acquire hzero (Slot.spares_nil _) hunpackSlot c₀ h₀
      obtain ⟨h₂, d, hd, hstate⟩ := t.lands (q := .texImage target image) .settingTextureImage
        h₁ hid hspares trivial
      have h₂' : c₂.Ready live [(.activeTexture, t.unit)] := h₂.weaken fun x hx => by
        rw [List.mem_singleton.mp hx]
        exact List.mem_cons_self
      have hrelease : Work live nothing _ _ (release (acquire (.buffer .pixelUnpack) 0 c₀).1) :=
        work_release (restorable_acquire h₀ _ _) hspares' (within_bind hunpackSlot)
      -- the guard of the unpack buffer is released last, and leaves unit and texture alone
      obtain ⟨h₃, hk₃⟩ := hrelease c₂ h₂'
      rw [upload_ok hcheck]
      refine ⟨h₃.held _ List.mem_cons_self, ?_⟩
      have hlast := (hk₃.others .texture id not_false).trans hstate
      have hunpack : d.bound (.buffer .pixelUnpack) = 0 :=
        hd (.buffer .pixelUnpack, 0) (List.mem_append_right _ List.mem_cons_self)
      have hbound : d.boundTexture target.textureTarget = id := ht ▸ boundTexture_of_holding hd
      refine (congrArg (fun x => x.images.get? (target, image.level))
        (textureState_eq_of_stateOf hlast)).trans ?_
      simp only [execute, texImage, hbound, if_neg hz, hunpack]
      simp [textureState, alterTexture, Table.alter, Table.getD_insert, imageOf]

/-- An image that is accepted is set under the name of the texture. -/
theorem setImage_lands (t : Texture) (h : c.Ready live []) (hid : t.slot.Admits live id)
    (hz : id ≠ 0) (form : ImageForm) (image : ImageSpec)
    (hok : (t.setImage id form image c).1 = .ok ()) :
    (t.setImage id form image c).2.driver.activeUnit = t.unit ∧
      ∃ target, form.target? t.target = some target ∧
        (t.setImage id form image c).2.driver.image? id target image.level =
          some (imageOf target { image with size := image.size.restrict form.dimensions }) := by
  unfold setImage at hok ⊢
  cases ht : form.target? t.target with
  | none =>
      rw [ht] at hok
      cases hok
  | some target =>
      rw [ht] at hok
      obtain ⟨hunit, hlands⟩ := t.upload_lands h hid hz (textureTarget_of_target? ht) _ hok
      exact ⟨hunit, target, rfl, hlands⟩

end GraphicsObjects.Texture
