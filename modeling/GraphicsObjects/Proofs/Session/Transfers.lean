import GraphicsObjects.Proofs.Session.Updates

/-!
# Transfers of pixels

An image is taken from client memory and a block of pixels is read into it, whatever is bound as
pixel buffer and whatever the cache believes of it: both operations hold 0 bound there.
-/

namespace GraphicsObjects

/-! ## Images -/

theorem Extents.restrict_restrict (size : Extents) (d : Nat) :
    (size.restrict d).restrict d = size.restrict d := by
  simp only [restrict]
  split_ifs <;> rfl

namespace Texture

variable {form : ImageForm} {target : TextureTarget} {image : ImageTarget}

theorem dimensions_of_target? (h : form.target? target = some image) :
    image.dimensions = form.dimensions := by
  cases form with
  | face face =>
      simp only [ImageForm.target?] at h
      split at h
      · cases h
        rfl
      · cases h
  | _ =>
      simp only [ImageForm.target?] at h
      split at h
      · rename_i hd
        cases h
        exact hd.1
      · cases h

end Texture

/-! ## Reading -/

theorem Sim.readPixels_client {s : Sim} {id : Id} (block : PixelBlock) (out : Bytes)
    (hread : s.bound (.framebuffer .read) = id) (hpack : s.bound (.buffer .pixelPack) = 0) :
    s.readPixels block out = (if block.width = 0 ∨ block.height = 0 then out
      else List.replicate out.length (UInt8.ofNat id), s) := by
  simp only [readPixels, hread, hpack]
  split_ifs <;> rfl

namespace Framebuffer

open ContextM Sim

variable {live : List (Kind × Id)} {c : Context Sim} {id : Id} {block : PixelBlock} {out : Bytes}

theorem readPixels_error {f : Framebuffer} {e : Failure}
    (h : (f.checkRead block out.length c).1 = .error e) :
    (f.readPixels id block out c).1 = (.error e, out) := by
  unfold readPixels
  rw [bind_apply, h]
  rfl

/-- The request of a read that is accepted is answered while both guards are held. -/
theorem readPixels_ok {f : Framebuffer} (h : (f.checkRead block out.length c).1 = .ok ()) :
    (f.readPixels id block out c).1 = (.ok (), (perform (.readPixels block out) (acquire f.slot id
      (acquire (.buffer .pixelPack) 0 (f.checkRead block out.length c).2).2).2).1) := by
  unfold readPixels
  rw [bind_apply, h]
  rfl

theorem target_ne_draw {f : Framebuffer} {len : Nat} (h : (f.checkRead block len c).1 = .ok ()) :
    f.target ≠ .draw := by
  intro hd
  simp only [checkRead, require, if_pos hd] at h
  cases h

theorem read_mem_holding {f : Framebuffer} (h : f.target ≠ .draw) :
    (.framebuffer .read, id) ∈ f.slot.holding id := by
  unfold slot
  cases ht : f.target with
  | draw => exact absurd ht h
  | _ => simp [Slot.holding, Slot.registers]

theorem spares_pixelPack (f : Framebuffer) :
    f.slot.Spares ((Slot.buffer .pixelPack).holding 0 ++ []) := by
  refine Slot.spares_cons (by decide) ?_ (Slot.spares_nil _)
  unfold slot
  cases f.target <;> simp [Slot.touched, Slot.written, Slot.registers]

/-- What is read comes from the framebuffer, and into client memory. -/
theorem readPixels_fills (f : Framebuffer) (h : c.Ready live []) (hid : f.slot.Admits live id)
    (hok : (f.readPixels id block out c).1.1 = .ok ()) :
    (f.readPixels id block out c).1.2 =
      if block.width = 0 ∨ block.height = 0 then out
      else List.replicate out.length (UInt8.ofNat id) := by
  cases hcheck : (f.checkRead block out.length c).1 with
  | error e =>
      rw [readPixels_error hcheck] at hok
      cases hok
  | ok _ =>
      let c₀ := (f.checkRead block out.length c).2
      let c₁ := (acquire (.buffer .pixelPack) 0 c₀).2
      have hread : Work live (fun _ _ => False) [] [] (f.checkRead block out.length) :=
        f.work_checkRead block out.length
      have hpack : Work live (fun _ _ => False) [] _ (acquire (.buffer .pixelPack) 0) :=
        work_acquire (Slot.admits_zero ..) (Slot.spares_nil _) (within_bind (by decide))
      have hframe : Work live (fun _ _ => False) _ _ (acquire f.slot id) :=
        work_acquire hid f.spares_pixelPack (within_bind nofun)
      obtain ⟨h₀, -⟩ := hread c h
      obtain ⟨h₁, -⟩ := hpack c₀ h₀
      obtain ⟨h₂, -⟩ := hframe c₁ h₁
      have hfrom : (acquire f.slot id c₁).2.driver.bound (.framebuffer .read) = id :=
        h₂.held (.framebuffer .read, id)
          (List.mem_append_left _ (read_mem_holding (target_ne_draw hcheck)))
      have hinto : (acquire f.slot id c₁).2.driver.bound (.buffer .pixelPack) = 0 :=
        h₂.held (.buffer .pixelPack, 0) (List.mem_append_right _ List.mem_cons_self)
      rw [readPixels_ok hcheck]
      rw [← bound_receive _ (.readPixels block out)] at hfrom hinto
      exact congrArg Prod.fst (Sim.readPixels_client block out hfrom hinto)

end Framebuffer

/-! ## Sessions -/

namespace Session

open Ownership ContextM SessionM Simulation

variable {config : Config} {s s' : Session Sim} {name : String}

theorem Inv.image_of_setImage (h : s.Inv) {t : Found Texture} {form : Texture.ImageForm}
    {image : ImageSpec} (ht : s.find? Payload.texture? name = some t)
    (hs : s.step (.texture name (.setImage form image)) = some (.ok (), s')) :
    ∃ target, form.target? t.known.target = some target ∧
      s'.driver.image? t.id target image.level = some {
        internalFormat := image.internalFormat
        size := image.size.restrict target.dimensions
        initialized := image.data.isSome
        unpackBuffer := 0 } := by
  obtain ⟨-, target, htarget, hlands⟩ := h.setImage_lands ht hs
  refine ⟨target, htarget, hlands.trans ?_⟩
  rw [Texture.imageOf, ← Texture.dimensions_of_target? htarget, Extents.restrict_restrict]

theorem Inv.readPixels_fills (h : s.Inv) {f : Found Framebuffer} {block : PixelBlock}
    {out out' : Bytes} (hf : s.find? Payload.framebuffer? name = some f)
    (hs : s.step (.framebuffer name (.readPixels block out)) = some ((.ok (), out'), s')) :
    out' = (if block.width = 0 ∨ block.height = 0 then out
      else List.replicate out.length (UInt8.ofNat f.id)) ∧
      ∀ i, s'.driver.buffers.get? i = s.driver.buffers.get? i := by
  obtain ⟨-, hhas⟩ := has_of_find? Payload.reads_framebuffer hf
  obtain ⟨f', hf', he⟩ := inContextOf_eq hs
  cases hf.symm.trans hf'
  rw [h.sound.context_eq hhas] at he
  have hid : f.known.slot.Admits s.driver.live f.id := h.sound.admits hhas rfl
  have hanswer : (.ok (), out') = (f.known.readPixels f.id block out (s.enter 0)).1 :=
    congrArg Prod.fst he
  have hdriver : s'.driver = (f.known.readPixels f.id block out (s.enter 0)).2.driver :=
    congrArg (·.2.driver) he
  have hwork : Work s.driver.live (fun _ _ => False) [] [] (f.known.readPixels f.id block out) :=
    f.known.work_readPixels hid block out
  have hfills := f.known.readPixels_fills h.sound.ready hid (congrArg Prod.fst hanswer).symm
  refine ⟨(congrArg Prod.snd hanswer).trans hfills, fun i => ?_⟩
  rw [hdriver]
  exact ObjectState.buffer.inj ((hwork _ h.sound.ready).2.others .buffer i not_false)

/-- In every state that a careful run reaches, whatever is bound and believed to be bound, pixels
are taken from client memory and read into it. -/
theorem transfers_use_client_memory (h : Reachable Careful config s) :
    (∀ name t form image s', s.find? Payload.texture? name = some t →
      s.step (.texture name (.setImage form image)) = some (.ok (), s') →
        ∃ target, form.target? t.known.target = some target ∧
          s'.driver.image? t.id target image.level = some {
            internalFormat := image.internalFormat
            size := image.size.restrict target.dimensions
            initialized := image.data.isSome
            unpackBuffer := 0 }) ∧
    (∀ name f block out out' s', s.find? Payload.framebuffer? name = some f →
      s.step (.framebuffer name (.readPixels block out)) = some ((.ok (), out'), s') →
        out' = (if block.width = 0 ∨ block.height = 0 then out
          else List.replicate out.length (UInt8.ofNat f.id)) ∧
        ∀ i, s'.driver.buffers.get? i = s.driver.buffers.get? i) := by
  constructor
  · intro name t form image s' ht hs
    exact h.inv.image_of_setImage ht hs
  · intro name f block out out' s' hf hs
    exact h.inv.readPixels_fills hf hs

/-- Both pixel buffers are bound, and the cache has forgotten it. -/
def pixelBuffers : Option (Session Sim) :=
  (start .fresh {}).perform Careful
    [.create "t" 0 (.texture .texture2D), .create "f" 0 (.framebuffer .combined),
      .create "p" 0 (.buffer .pixelPack), .create "u" 0 (.buffer .pixelUnpack),
      .buffer "p" (.allocate 16 .dynamicDraw), .buffer "u" (.allocate 16 .dynamicDraw),
      .bind "p", .bind "u", .context 0 .invalidateBindings]

/-- An image of one texel, to which a depth is given that it does not have. -/
def texel : ImageSpec where
  level := 0
  internalFormat := Enumerant.rgba
  size := ⟨1, 1, 7⟩
  format := Enumerant.rgba
  type := Enumerant.unsignedByte
  data := some ⟨#[1, 2, 3, 4]⟩

def pixel : PixelBlock := ⟨0, 0, 1, 1, Enumerant.rgba, Enumerant.unsignedByte⟩

theorem pixelBuffers_bypassed : ∃ s s₁ s₂, pixelBuffers = some s ∧
    s.driver.bound (.buffer .pixelPack) = 1 ∧ s.driver.bound (.buffer .pixelUnpack) = 2 ∧
    s.step (.texture "t" (.setImage .image2D texel)) = some (.ok (), s₁) ∧
    s₁.driver.image? 1 (.texture .texture2D) 0 = some ⟨Enumerant.rgba, ⟨1, 1, 1⟩, true, 0⟩ ∧
    s.step (.framebuffer "f" (.readPixels pixel [9, 9, 9, 9, 9])) =
      some ((.ok (), [1, 1, 1, 1, 1]), s₂) ∧
    s₂.driver.buffers.get? 1 = s.driver.buffers.get? 1 := by
  have hfound : pixelBuffers.map (fun s =>
      ((s.driver.bound (.buffer .pixelPack), s.driver.bound (.buffer .pixelUnpack)),
        (s.find? Payload.texture? "t").map (fun t => (t.id, t.known.target)),
        (s.find? Payload.framebuffer? "f").map (·.id),
        (s.step (.texture "t" (.setImage .image2D texel))).map Prod.fst,
        (s.step (.framebuffer "f" (.readPixels pixel [9, 9, 9, 9, 9]))).map (·.1.1))) =
      some ((1, 2), some (1, .texture2D), some 1, some (.ok ()), some (.ok ())) := by cbv
  obtain ⟨s, hs, he⟩ := Option.map_eq_some_iff.mp hfound
  simp only [Prod.mk.injEq, Option.map_eq_some_iff] at he
  obtain ⟨hbound, ⟨t, ht, htid, httarget⟩, ⟨f, hf, hfid⟩, himage, hread⟩ := he
  obtain ⟨⟨answer, s₁⟩, hs₁, hanswer⟩ := himage
  obtain ⟨⟨⟨answer', out⟩, s₂⟩, hs₂, hanswer'⟩ := hread
  cases hanswer
  cases hanswer'
  obtain ⟨himages, hreads⟩ := transfers_use_client_memory (Reachable.start.perform hs)
  obtain ⟨target, htarget, hlands⟩ := himages "t" t _ _ s₁ ht hs₁
  obtain ⟨hout, hbuffers⟩ := hreads "f" f _ _ _ s₂ hf hs₂
  rw [httarget] at htarget
  cases htarget
  rw [htid] at hlands
  rw [hfid] at hout
  cases hout
  exact ⟨s, s₁, s₂, hs, hbound.1, hbound.2, hs₁, hlands, hs₂, hbuffers 1⟩

end Session

end GraphicsObjects
