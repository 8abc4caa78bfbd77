import GraphicsObjects.Proofs.Session.MirrorLinks

/-!
# The mirror through all ways of making objects

What is made at once with contents, shaders or a link is an object that holds nothing, on which
operations follow.
-/

namespace GraphicsObjects

open Ownership ContextM SessionM

namespace Session

variable {s s' : Session Sim} {outside : List Ref} {tied : Prop} {last : Ref → Option Ref}

theorem Mirrored.andThen {made : SessionM Sim (Except Failure (Ref × Id))}
    {act : Ref → Id → SessionM Sim Unit} (h : (made s).2.Mirrored tied last)
    (hact : ∀ r id, (made s).1 = .ok (r, id) → (act r id (made s).2).2.Mirrored tied last) :
    (SessionM.andThen made act s).2.Mirrored tied last := by
  unfold SessionM.andThen
  rw [bind_apply]
  cases hm : (made s).1 with
  | error e => exact h
  | ok x => exact hact x.1 x.2 hm

theorem Mirrored.newObject (h : s.Mirrored tied last) (hs : s.Sound outside) {p : Payload}
    (ho : p.Orderly none) (hl : ∀ s', p.links s' none = .initial p.kind)
    (hk : ¬ (p.kind = .shader ∨ p.kind = .program)) :
    (SessionM.newObject 0 p s).2.Mirrored tied last :=
  h.adopt hs ho hl (made_createObject hs.ready hs.wellNamed hk)
    (preserves_createObject (c := s.enter 0) h.tidy hk)

theorem Mirrored.newShader (h : s.Mirrored tied last) (hs : s.Sound outside)
    (stage : ShaderStage) : (SessionM.newShader 0 stage s).2.Mirrored tied last :=
  h.adopt hs trivial (fun _ => rfl) (made_createShader hs.ready hs.wellNamed stage)
    (preserves_createShader (c := s.enter 0) h.tidy stage)

theorem Mirrored.newProgram (h : s.Mirrored tied last) (hs : s.Sound outside) :
    (SessionM.newProgram 0 s).2.Mirrored tied last :=
  h.adopt hs List.nodup_nil (fun _ => rfl) (made_createProgram hs.ready hs.wellNamed)
    (preserves_createProgram (c := s.enter 0) h.tidy hs.wellNamed)

theorem Mirrored.newBufferWithData (h : s.Mirrored tied last) (hs : s.Sound outside)
    (target : BufferTarget) (data : Bytes) (usage : BufferUsage) :
    (SessionM.newBufferWithData 0 target data usage s).2.Mirrored tied last := by
  have hc : Created outside (fun _ => False) s (SessionM.newBuffer 0 target s).1
      (SessionM.newBuffer 0 target s).2 := hs.newObject _ rfl nofun
  have h₁ : (SessionM.newBuffer 0 target s).2.Mirrored tied last :=
    h.newObject hs trivial (fun _ => rfl) nofun
  refine h₁.andThen fun r id hm => ?_
  obtain ⟨-, hf⟩ := of_adopt_ok hs hm
  have hs₁ := hc.held r id hm
  have hw := Buffer.work_setStore { target } (hs₁.admits hf rfl) (.bytes data) usage
    .settingBufferData
  have hk : KeepsLinks False
      (Buffer.setStore { target } id (.bytes data) usage .settingBufferData) :=
    Buffer.keepsLinks_setStore _ _ _ _
  exact h₁.rework hs₁ ((hw.preserves hk.keepsTidy hs₁.ready h₁.tidy).of_unlinked (.inl rfl)) hf rfl
    trivial rfl

theorem Mirrored.newRenderbufferWithStorage (h : s.Mirrored tied last) (hs : s.Sound outside)
    (internalFormat : Enumerant) (width height : Nat) :
    (SessionM.newRenderbufferWithStorage 0 internalFormat width height s).2.Mirrored tied last := by
  have h₁ : (SessionM.newObject 0 .renderbuffer s).2.Mirrored tied last :=
    h.newObject hs trivial (fun _ => rfl) nofun
  refine h₁.andThen fun r id hm => ?_
  have hk : KeepsLinks tied (Renderbuffer.setStorage id internalFormat width height 0) :=
    Renderbuffer.keepsLinks_run (.setStorage internalFormat width height 0)
  exact h₁.work hk

theorem Mirrored.newShaderWithSource (h : s.Mirrored tied last) (hs : s.Sound outside)
    (stage : ShaderStage) (source : String) :
    (SessionM.newShaderWithSource 0 stage source s).2.Mirrored tied last := by
  have hc : Created outside (fun _ => False) s (SessionM.newShader 0 stage s).1
      (SessionM.newShader 0 stage s).2 := hs.newShader stage
  have h₁ := h.newShader hs stage
  refine h₁.andThen fun r id hm => ?_
  obtain ⟨-, hf⟩ := of_adopt_ok hs hm
  have hk : KeepsLinks tied (do (← Shader.setSource { stage } id source).compile id) :=
    .bind (Shader.keepsLinks_setSource _ source) fun sh => sh.keepsLinks_compile
  have hd := (hk ((SessionM.newShader 0 stage s).2.enter 0)).preserves h₁.tidy nothing
  have hstored (sh : Shader) :
      (SessionM.setPayload r (.shader sh) (inContext 0 _ _).2).2.Mirrored tied last :=
     h₁.rework (p := .shader sh) (hc.held r id hm) hd hf rfl trivial rfl
  exact hstored _

theorem Mirrored.newShaderFromFile (h : s.Mirrored tied last) (hs : s.Sound outside)
    (stage : ShaderStage) (contents : Option Bytes) :
    (SessionM.newShaderFromFile 0 stage contents s).2.Mirrored tied last := by
  unfold SessionM.newShaderFromFile
  cases Shader.readSource contents with
  | error e => exact h
  | ok source => exact h.newShaderWithSource hs stage source

theorem Mirrored.attachShaderAt (h : s.Mirrored tied last) (hs : s.Sound outside)
    (program shader : Ref) :
    (SessionM.attachShaderAt program shader s).2.Mirrored tied last := by
  unfold SessionM.attachShaderAt
  rw [bind_apply, get_apply]
  cases hp : s.follow? Payload.program? program with
  | none => exact h
  | some p =>
      cases hsh : s.follow? Payload.shader? shader with
      | none => exact h
      | some sh =>
          obtain ⟨-, hp'⟩ := has_of_follow? Payload.reads_program hp
          obtain ⟨-, hsh'⟩ := has_of_follow? Payload.reads_shader hsh
          exact h.attachShader hs hp' hsh'

theorem Mirrored.attachShaders (h : s.Mirrored tied last) (hs : s.Sound outside) (program : Ref)
    (shaders : List Ref) :
    (shaders.forM (SessionM.attachShaderAt program) s).2.Mirrored tied last := by
  induction shaders generalizing s with
  | nil => exact h
  | cons shader shaders ih =>
      exact ih (h.attachShaderAt hs program shader) (hs.attachShaderAt program shader).1

theorem Mirrored.linkAt (h : s.Mirrored tied last) (hs : s.Sound outside) (program : Ref) :
    (SessionM.linkAt program s).2.Mirrored tied last := by
  unfold SessionM.linkAt
  rw [bind_apply, get_apply]
  cases hp : s.follow? Payload.program? program with
  | none => exact h
  | some p =>
      obtain ⟨-, hp'⟩ := has_of_follow? Payload.reads_program hp
      simp only [hs.context_eq hp']
      exact h.link hs hp'

theorem Mirrored.newProgramWithShaders (h : s.Mirrored tied last) (hs : s.Sound outside)
    (shaders : List Ref) :
    (SessionM.newProgramWithShaders 0 shaders s).2.Mirrored tied last := by
  have hc : Created outside (fun _ => False) s (SessionM.newProgram 0 s).1
      (SessionM.newProgram 0 s).2 := hs.newProgram
  have h₁ := h.newProgram hs
  refine h₁.andThen fun r id hm => ?_
  have hs₁ := hc.held r id hm
  exact (h₁.attachShaders hs₁ r shaders).linkAt (hs₁.attachShaders r shaders).1 r

theorem Mirrored.screen (h : s.Mirrored tied last) (hs : s.Sound outside) :
    (SessionM.screen 0 s).2.Mirrored tied last :=
  h.add hs 0 (Sim.Continues.preserves .refl h.tidy nothing) rfl rfl trivial
    fun hz => absurd rfl hz

theorem Mirrored.of_eq {made : Except Failure (Ref × Id)}
    {x : Except Failure (Ref × Id) × Session Sim} (h : x.2.Mirrored tied last)
    (he : some x = some (made, s')) : s'.Mirrored tied last := by
  cases he
  exact h

theorem Mirrored.make (h : s.Mirrored tied last) (hs : s.Sound outside) {what : Creation}
    {made : Except Failure (Ref × Id)} (hm : s.make 0 what = some (made, s')) :
    s'.Mirrored tied last := by
  cases what with
  | buffer target =>
      exact (h.newObject hs (p := .buffer { target }) trivial (fun _ => rfl) nofun).of_eq hm
  | bufferWithData target data usage =>
      exact (h.newBufferWithData hs target data.bytes usage).of_eq hm
  | texture target =>
      exact (h.newObject hs (p := .texture { target }) trivial (fun _ => rfl) nofun).of_eq hm
  | renderbuffer =>
      exact (h.newObject hs (p := .renderbuffer) trivial (fun _ => rfl) nofun).of_eq hm
  | renderbufferWithStorage internalFormat width height =>
      exact (h.newRenderbufferWithStorage hs internalFormat width height).of_eq hm
  | framebuffer target =>
      exact (h.newObject hs (p := .framebuffer { target, order := s.order s.store.next }) trivial
        (fun _ => rfl) nofun).of_eq hm
  | screen =>
      cases hm
      exact h.screen hs
  | vertexArray =>
      exact (h.newObject hs (p := .vertexArray {}) nofun (fun _ => rfl) nofun).of_eq hm
  | shader stage => exact (h.newShader hs stage).of_eq hm
  | shaderWithSource stage source => exact (h.newShaderWithSource hs stage source).of_eq hm
  | shaderFromFile stage contents =>
      exact (h.newShaderFromFile hs stage contents).of_eq hm
  | program => exact (h.newProgram hs).of_eq hm
  | programWithShaders shaders =>
      simp only [Session.make, Option.bind_eq_bind, Option.bind_eq_some_iff, Option.pure_def] at hm
      obtain ⟨found, -, he⟩ := hm
      exact (h.newProgramWithShaders hs _).of_eq he

end Session

end GraphicsObjects
