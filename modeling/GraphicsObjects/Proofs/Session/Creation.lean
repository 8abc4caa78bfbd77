import GraphicsObjects.Proofs.Session.Links

/-!
# Making objects

Every way of making an object gives one that its maker holds, or fails and changes nothing that
counts. Only boxes made meanwhile are edited.
-/

namespace GraphicsObjects

open Ownership ContextM SessionM

namespace Session

variable {s s' : Session Sim} {outside : List Ref} {edited : Ref → Prop}

theorem of_adopt_ok {payload : Payload} {made : ContextM Sim (Except Failure Id)} {r : Ref}
    {id : Id} (h : s.Sound outside) (ha : (SessionM.adopt 0 payload made s).1 = .ok (r, id)) :
    r = s.store.next ∧ (r, id, ⟨0, payload⟩) ∈ (SessionM.adopt 0 payload made s).2.store.faces := by
  cases hmade : (made (s.enter 0)).1 with
  | error e =>
      rw [adopt_error hmade] at ha
      cases ha
  | ok i =>
      rw [adopt_ok hmade] at ha ⊢
      cases ha
      refine ⟨rfl, ?_⟩
      change _ ∈ (s.store.add id true ⟨0, payload⟩).2.faces
      rw [Store.faces_add (h.balanced.fresh _ (Nat.le_refl _))]
      exact List.mem_cons_self

theorem Created.andThen {made : SessionM Sim (Except Failure (Ref × Id))}
    {act : Ref → Id → SessionM Sim Unit} (h : Created outside edited s (made s).1 (made s).2)
    (hact : ∀ r id, (made s).1 = .ok (r, id) → (act r id (made s).2).2.Sound (r :: outside) ∧
      (made s).2.Quiet (fun _ _ => True) edited (act r id (made s).2).2) :
    Created outside edited s (SessionM.andThen made act s).1 (SessionM.andThen made act s).2 := by
  unfold SessionM.andThen
  rw [bind_apply]
  cases hm : (made s).1 with
  | error e =>
      refine ⟨h.quiet, fun _ _ => h.failed e hm, fun r id hr => ?_⟩
      cases hr
  | ok x =>
      obtain ⟨r, id⟩ := x
      obtain ⟨hs, hq⟩ := hact r id hm
      refine ⟨h.quiet.trans hq, fun e he => ?_, fun r' id' hr => ?_⟩
      · cases he
      · cases hr
        exact hs

theorem Sound.newObject (h : s.Sound outside) (payload : Payload) (ho : payload.owned = [])
    (hk : ¬ (payload.kind = .shader ∨ payload.kind = .program)) :
    Created outside edited s (SessionM.newObject 0 payload s).1
      (SessionM.newObject 0 payload s).2 :=
  h.adopt ho (made_createObject h.ready h.wellNamed hk)

theorem Sound.newFramebuffer (h : s.Sound outside) (target : FramebufferTarget) :
    Created outside edited s (SessionM.newFramebuffer 0 target s).1
      (SessionM.newFramebuffer 0 target s).2 :=
  h.newObject (.framebuffer { target, order := s.order s.store.next })
    (Framebuffer.kept_eq_nil rfl) nofun

theorem Sound.newShader (h : s.Sound outside) (stage : ShaderStage) :
    Created outside edited s (SessionM.newShader 0 stage s).1 (SessionM.newShader 0 stage s).2 :=
  h.adopt rfl (made_createShader h.ready h.wellNamed stage)

theorem Sound.newProgram (h : s.Sound outside) :
    Created outside edited s (SessionM.newProgram 0 s).1 (SessionM.newProgram 0 s).2 :=
  h.adopt rfl (made_createProgram h.ready h.wellNamed)

theorem Sound.newBufferWithData (h : s.Sound outside) (target : BufferTarget) (data : Bytes)
    (usage : BufferUsage) :
    Created outside edited s (SessionM.newBufferWithData 0 target data usage s).1
      (SessionM.newBufferWithData 0 target data usage s).2 := by
  have hc : Created outside edited s (SessionM.newBuffer 0 target s).1
      (SessionM.newBuffer 0 target s).2 := h.newObject _ rfl nofun
  refine hc.andThen fun r id hm => ?_
  obtain ⟨-, hf⟩ := of_adopt_ok h hm
  have hs := hc.held r id hm
  have hw := Buffer.work_setStore { target } (hs.admits hf rfl) (.bytes data) usage
    .settingBufferData
  exact hs.rework edited hw.anything hf rfl rfl

theorem Sound.newRenderbufferWithStorage (h : s.Sound outside) (internalFormat : Enumerant)
    (width height : Nat) :
    Created outside edited s (SessionM.newRenderbufferWithStorage 0 internalFormat width height s).1
      (SessionM.newRenderbufferWithStorage 0 internalFormat width height s).2 := by
  have hc : Created outside edited s (SessionM.newObject 0 .renderbuffer s).1
      (SessionM.newObject 0 .renderbuffer s).2 := h.newObject _ rfl nofun
  refine hc.andThen fun r id hm => ?_
  obtain ⟨-, hf⟩ := of_adopt_ok h hm
  have hs := hc.held r id hm
  have hw := Renderbuffer.work_run (.setStorage internalFormat width height 0) (hs.admits hf rfl)
  exact hs.work edited hw.anything

theorem Sound.newShaderWithSource (h : s.Sound outside) (stage : ShaderStage) (source : String) :
    Created outside edited s (SessionM.newShaderWithSource 0 stage source s).1
      (SessionM.newShaderWithSource 0 stage source s).2 := by
  have hc : Created outside edited s (SessionM.newShader 0 stage s).1
      (SessionM.newShader 0 stage s).2 := h.newShader stage
  refine hc.andThen fun r id hm => ?_
  obtain ⟨-, hf⟩ := of_adopt_ok h hm
  have hs := hc.held r id hm
  have hw : Work (SessionM.newShader 0 stage s).2.driver.live (only .shader id) [] []
      (do (← Shader.setSource { stage } id source).compile id) :=
    .bind (Shader.work_setSource { stage } id source) fun sh => sh.work_compile id
  have hstored (sh : Shader) := hs.rework (p := .shader sh) edited hw.anything hf rfl rfl
  exact hstored _

theorem Sound.newShaderFromFile (h : s.Sound outside) (stage : ShaderStage)
    (contents : Option Bytes) :
    Created outside edited s (SessionM.newShaderFromFile 0 stage contents s).1
      (SessionM.newShaderFromFile 0 stage contents s).2 := by
  unfold SessionM.newShaderFromFile
  cases Shader.readSource contents with
  | error e => exact ⟨.refl .., fun _ _ => h, nofun⟩
  | ok source => exact h.newShaderWithSource stage source

theorem Sound.newProgramWithShaders (h : s.Sound outside) (shaders : List Ref) :
    Created outside (s.store.next ≤ ·) s (SessionM.newProgramWithShaders 0 shaders s).1
      (SessionM.newProgramWithShaders 0 shaders s).2 := by
  have hc : Created outside (s.store.next ≤ ·) s (SessionM.newProgram 0 s).1
      (SessionM.newProgram 0 s).2 := h.newProgram
  refine hc.andThen fun r id hm => ?_
  obtain ⟨rfl, -⟩ := of_adopt_ok h hm
  obtain ⟨hs, hq⟩ := (hc.held _ id hm).attachShaders s.store.next shaders
  obtain ⟨hs', hq'⟩ := hs.linkAt (s.store.next ≤ ·) s.store.next
  exact ⟨hs', (hq.mono (fun _ _ hm => hm) fun r hr => Nat.le_of_eq hr.symm).trans hq'⟩

/-- The default framebuffer names no object. -/
theorem Sound.screen (h : s.Sound outside) :
    Created outside edited s (.ok (SessionM.screen 0 s).1) (SessionM.screen 0 s).2 := by
  refine ⟨⟨rfl, rfl, fun _ hn => hn, fun _ _ _ => rfl, fun r id o hm => ?_⟩, nofun, ?_⟩
  · refine ⟨o, ?_, rfl, fun _ => rfl⟩
    change _ ∈ (s.store.add 0 false ⟨0, _⟩).2.faces
    rw [Store.faces_add (h.balanced.fresh _ (Nat.le_refl _))]
    exact List.mem_cons_of_mem _ hm
  · intro r id hr
    cases hr
    have ho : (Payload.framebuffer
        { target := .combined, order := s.order s.store.next }).owned = [] :=
      Framebuffer.kept_eq_nil rfl
    exact h.add ho (fun _ => rfl) h.single h.wellNamed h.ready h.logged rfl (.refl _)

theorem Created.of_eq {made : Except Failure (Ref × Id)}
    {x : Except Failure (Ref × Id) × Session Sim} (h : Created outside edited s x.1 x.2)
    (he : some x = some (made, s')) : Created outside edited s made s' := by
  cases he
  exact h

theorem Sound.make (h : s.Sound outside) {what : Creation} {made : Except Failure (Ref × Id)}
    (hm : s.make 0 what = some (made, s')) :
    Created outside (s.store.next ≤ ·) s made s' := by
  cases what with
  | buffer target => exact (h.newObject (.buffer { target }) rfl nofun).of_eq hm
  | bufferWithData target data usage => exact (h.newBufferWithData target data.bytes usage).of_eq hm
  | texture target => exact (h.newObject (.texture { target }) rfl nofun).of_eq hm
  | renderbuffer => exact (h.newObject .renderbuffer rfl nofun).of_eq hm
  | renderbufferWithStorage internalFormat width height =>
      exact (h.newRenderbufferWithStorage internalFormat width height).of_eq hm
  | framebuffer target => exact (h.newFramebuffer target).of_eq hm
  | screen =>
      cases hm
      exact h.screen
  | vertexArray => exact (h.newObject (.vertexArray {}) rfl nofun).of_eq hm
  | shader stage => exact (h.newShader stage).of_eq hm
  | shaderWithSource stage source => exact (h.newShaderWithSource stage source).of_eq hm
  | shaderFromFile stage contents => exact (h.newShaderFromFile stage contents).of_eq hm
  | program => exact h.newProgram.of_eq hm
  | programWithShaders shaders =>
      simp only [Session.make, Option.bind_eq_bind, Option.bind_eq_some_iff, Option.pure_def] at hm
      obtain ⟨found, -, he⟩ := hm
      exact (h.newProgramWithShaders _).of_eq he

end Session

end GraphicsObjects
