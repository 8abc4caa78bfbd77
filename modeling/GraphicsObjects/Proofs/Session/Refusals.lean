import GraphicsObjects.Proofs.Object.Refusals
import GraphicsObjects.Proofs.Session.Runs

/-!
# Refused operations change nothing

An operation that is refused for its arguments leaves the session as it was: what the driver was
asked and holds, the cache, what is known of the objects and how often each is referred to. Only the
number of texture units may have been asked for.
-/

namespace GraphicsObjects

open Ownership ContextM SessionM

/-! ## Answers -/

namespace Op

/-- The failure that an answer reports, if there is one. -/
def failure? : (op : Op) → op.Answer → Option Failure
  | create .., answer | attachTexture .., answer => Failure.of? answer
  | buffer _ op, answer => op.failure? answer
  | texture _ op, answer => op.failure? answer
  | framebuffer _ op, answer => op.failure? answer
  | _, _ => none

/-- The client memory that an operation reads into, as it was. -/
def destination? : Op → Option Bytes
  | framebuffer _ (.readPixels _ out) => some out
  | _ => none

/-- The client memory that an operation has read into. -/
def delivered? : (op : Op) → op.Answer → Option Bytes
  | framebuffer _ (.readPixels ..), answer => some answer.2
  | _, _ => none

end Op

/-- Replacing a value by itself. -/
theorem Table.modify_eq_self {κ β : Type} [DecidableEq κ] {t : Table κ β} {k : κ} {f : β → β}
    (h : ∀ v, t.get? k = some v → f v = v) : t.modify k f = t := by
  have he : t.entries.map (fun e => (e.1, if e.1 = k then f e.2 else e.2)) = t.entries := by
    refine (List.map_congr_left fun e he => ?_).trans (List.map_id _)
    split
    · rename_i hk
      have hv : t.get? k = some e.2 := Table.mem_entries_iff.mp (hk ▸ he)
      rw [h _ hv, id]
    · rfl
  obtain ⟨entries, hn⟩ := t
  simp only [modify, mapValues, he]

namespace Session

/-- The session when a context knows the number of texture units. -/
def counted (s : Session Sim) (c : ContextId) : Session Sim :=
  let units := s.driver.integer Enumerant.maxCombinedTextureImageUnits
  let known := { s.contexts.getD c default with textureUnits := some units.toNat }
  { s with contexts := s.contexts.set c known }

/-- Nothing has changed, but for the number of texture units if a context did not know it. -/
def Spared (s s' : Session Sim) : Prop :=
  s' = s ∨ ∃ c, (s.contexts.getD c default).textureUnits = none ∧ s' = s.counted c

variable {s s' : Session Sim} {c : ContextId} {e : Failure} {α ρ : Type}
variable {known? : Payload → Option ρ} {payload : ρ → Payload} {name : String}

/-! ## Work in a context -/

theorem leave_enter_self (s : Session Sim) (c : ContextId) : s.leave c (s.enter c) = s := by
  have hc : s.contexts.set c (s.contexts.getD c default) = s.contexts := by
    refine List.ext_getElem (List.length_set ..) fun i hi _ => ?_
    rw [List.getElem_set]
    split
    · rename_i hci
      subst hci
      rw [List.length_set] at hi
      rw [List.getD_eq_getElem _ _ hi]
    · rfl
  change { s with contexts := s.contexts.set c (s.contexts.getD c default) } = s
  rw [hc]

theorem spared_leave {ctx : Context Sim} (h : (s.enter c).Spared ctx) :
    s.Spared (s.leave c ctx) := by
  rcases h with rfl | ⟨hc, rfl⟩
  · exact .inl (leave_enter_self s c)
  · exact .inr ⟨c, hc, rfl⟩

/-- Work after which the same is known of an object. -/
theorem setPayload_leave {f : Found ρ} (hr : Payload.Reads known? payload)
    (hf : s.find? known? name = some f) (ctx : Context Sim) :
    (SessionM.setPayload f.ref (payload f.known) (s.leave f.context ctx)).2 =
      s.leave f.context ctx := by
  obtain ⟨b, hb, -, hc⟩ := box?_of_find? hr hf
  obtain ⟨-, hget⟩ := get?_of_box? hb
  have hboxes : s.store.boxes.modify f.ref (fun b => { b with content := { b.content with
      payload := payload f.known } }) = s.store.boxes := by
    refine Table.modify_eq_self fun b' hb' => ?_
    cases hget.symm.trans hb'
    obtain ⟨id, assigned, refs, content⟩ := b
    subst hc
    rfl
  exact congrArg (fun boxes : Table Ref (Box Object) =>
    ({ s.leave f.context ctx with store := { s.store with boxes } } : Session Sim)) hboxes

theorem spared_onObject (hr : Payload.Reads known? payload) {act : Id → ρ → ContextM Sim (α × ρ)}
    {a : α} (hs : s.onObject known? payload name act = some (a, s'))
    (hact : ∀ id known c, (act id known c).1.1 = a →
      (act id known c).1.2 = known ∧ c.Spared (act id known c).2) : s.Spared s' := by
  obtain ⟨f, hf, ha, rfl⟩ := onObject_eq hs
  obtain ⟨hknown, hctx⟩ := hact f.id f.known (s.enter f.context) ha.symm
  rw [hknown]
  change s.Spared (SessionM.setPayload _ _ (s.leave f.context _)).2
  rw [setPayload_leave hr hf]
  exact spared_leave hctx

/-! ## Creation -/

theorem not_refused_created {kind : Kind} {id : Id} {event : Event} {c : Context Sim}
    (h : (created kind id event c).1 = .error e) : ¬ e.IsRefusal := by
  unfold created at h
  split at h
  · cases h
    exact not_false
  · cases h

theorem not_refused_adopt {payload : Payload} {made : ContextM Sim (Except Failure Id)}
    (hmade : ∀ c e, (made c).1 = .error e → ¬ e.IsRefusal)
    (h : (adopt c payload made s).1 = .error e) : ¬ e.IsRefusal := by
  unfold adopt at h
  rw [bind_apply] at h
  cases hm : (inContext c made s).1 with
  | error e' =>
      rw [hm] at h
      cases h
      exact hmade _ _ hm
  | ok id =>
      rw [hm] at h
      cases h

theorem not_refused_andThen {made : SessionM Sim (Except Failure (Ref × Id))}
    {act : Ref → Id → SessionM Sim Unit} (hmade : ∀ e, (made s).1 = .error e → ¬ e.IsRefusal)
    (h : (andThen made act s).1 = .error e) : ¬ e.IsRefusal := by
  unfold andThen at h
  rw [bind_apply] at h
  cases hm : (made s).1 with
  | error e' =>
      rw [hm] at h
      cases h
      exact hmade _ hm
  | ok x =>
      rw [hm] at h
      cases h

theorem not_refused_newObject {payload : Payload} (h : (newObject c payload s).1 = .error e) :
    ¬ e.IsRefusal :=
  not_refused_adopt (fun _ _ => not_refused_created) h

theorem not_refused_newShaderWithSource {stage : ShaderStage} {source : String}
    (h : (newShaderWithSource c stage source s).1 = .error e) : ¬ e.IsRefusal :=
  not_refused_andThen (fun _ => not_refused_adopt fun _ _ => not_refused_created) h

theorem not_refused_newShaderFromFile {stage : ShaderStage} {contents : Option Bytes}
    (h : (newShaderFromFile c stage contents s).1 = .error e) : ¬ e.IsRefusal := by
  unfold newShaderFromFile at h
  cases hread : Shader.readSource contents with
  | ok source =>
      rw [hread] at h
      exact not_refused_newShaderWithSource h
  | error e' =>
      rw [hread] at h
      cases h
      unfold Shader.readSource at hread
      split at hread
      · cases hread
        exact not_false
      · split at hread
        · cases hread
        · cases hread
          exact not_false

/-- Creation has no arguments that it does not take. -/
theorem not_refused_make {what : Creation} (h : s.make c what = some (.error e, s')) :
    ¬ e.IsRefusal := by
  have he {x : Except Failure (Ref × Id) × Session Sim}
      (hx : some x = some (.error e, s')) : x.1 = .error e :=
    congrArg Prod.fst (Option.some.inj hx)
  cases what with
  | buffer | texture | renderbuffer | framebuffer | vertexArray =>
      exact not_refused_newObject (he h)
  | bufferWithData | renderbufferWithStorage =>
      exact not_refused_andThen (fun _ => not_refused_newObject) (he h)
  | screen => cases h
  | shader | program => exact not_refused_adopt (fun _ _ => not_refused_created) (he h)
  | shaderWithSource => exact not_refused_newShaderWithSource (he h)
  | shaderFromFile => exact not_refused_newShaderFromFile (he h)
  | programWithShaders =>
      simp only [Session.make, Option.bind_eq_bind, Option.bind_eq_some_iff, Option.pure_def] at h
      obtain ⟨found, -, hx⟩ := h
      exact not_refused_andThen
        (fun _ => not_refused_adopt fun _ _ => not_refused_created) (he hx)

theorem not_refused_create {what : Creation} (h : s.create name c what = some (.error e, s')) :
    ¬ e.IsRefusal := by
  simp only [Session.create, Option.bind_eq_bind, Option.bind_eq_some_iff] at h
  obtain ⟨⟨made, s₁⟩, hm, hx⟩ := h
  cases made with
  | ok x => cases hx
  | error e' =>
      cases hx
      exact not_refused_make hm

/-! ## All operations -/

theorem unchanged_attachTexture {fb : Found Framebuffer} {t : Found Texture} {point : Attachment}
    {part : Framebuffer.TexturePart} (h : (attachTexture fb point t part s).1 = .error e) :
    (attachTexture fb point t part s).2 = s := by
  unfold attachTexture at h ⊢
  cases hq : fb.known.textureRequest point part t.known.target t.id with
  | error e' => rfl
  | ok q =>
      rw [hq] at h
      cases h

theorem delivered?_framebuffer {target : String} {op : FramebufferOp} {id : Id} {f : Framebuffer}
    {c : Context Sim} (h : op.failure? (op.run id f c).1 = some e) :
    (Op.framebuffer target op).delivered? (op.run id f c).1 =
      (Op.framebuffer target op).destination? := by
  cases op with
  | readPixels block out =>
      exact congrArg some (Framebuffer.refused_readPixels (Failure.of?_eq_some_iff.mp h)).1
  | _ => rfl

/-- An operation that is refused leaves everything as it was, also client memory that it was to read
into. -/
theorem unchanged_of_refused {op : Op} {answer : op.Answer} (hs : s.step op = some (answer, s'))
    (hf : op.failure? answer = some e) (he : e.IsRefusal) :
    s.Spared s' ∧ op.delivered? answer = op.destination? := by
  cases op with
  | create name c what =>
      simp only [Session.step] at hs
      split at hs
      · cases Failure.of?_eq_some_iff.mp hf
        exact absurd he (not_refused_create hs)
      · cases hs
  | buffer target op =>
      refine ⟨spared_onObject Payload.reads_buffer hs fun id b c ha => ?_, rfl⟩
      subst ha
      obtain ⟨hknown, hctx⟩ := Buffer.refused_run hf
      exact ⟨hknown, .inl hctx⟩
  | texture target op =>
      refine ⟨spared_onObject Payload.reads_texture hs fun id t c ha => ?_, rfl⟩
      subst ha
      exact Texture.refused_run hf
  | framebuffer target op =>
      obtain ⟨f, -, hx⟩ := inContextOf_eq hs
      cases hx
      have hctx := Framebuffer.refused_run hf he
      exact ⟨spared_leave (.inl hctx), delivered?_framebuffer hf⟩
  | attachTexture framebuffer point texture part =>
      refine ⟨.inl ?_, rfl⟩
      simp only [Session.step, Option.bind_eq_bind, Option.bind_eq_some_iff, Option.pure_def] at hs
      obtain ⟨fb, -, t, -, hx⟩ := hs
      obtain rfl : _ = answer := congrArg Prod.fst (Option.some.inj hx)
      obtain rfl : _ = s' := congrArg Prod.snd (Option.some.inj hx)
      exact unchanged_attachTexture (Failure.of?_eq_some_iff.mp hf)
  | _ => cases hf

/-- A framebuffer and a pixel pack buffer that is bound, while an error is pending. -/
def pendingRead : Option (Session Sim) :=
  ((start .fresh { strictUnbind := true }).perform Careful
    [.create "f" 0 (.framebuffer .combined), .create "p" 0 (.buffer .pixelPack), .bind "p",
      .create "t" 0 (.texture .texture2D),
      .attachTexture "f" (.color 0) "t" (.level 0)]).map (·.adjust (.raise Enumerant.invalidEnum))

/-- Two pixels take eight bytes, and the slice has three. -/
def shortRead : Op :=
  .framebuffer "f" (.readPixels ⟨0, 0, 2, 1, Enumerant.rgba, Enumerant.unsignedByte⟩ [7, 8, 9])

theorem unchanged_of_shortRead : ∃ s s' answer, pendingRead = some s ∧
    s.step shortRead = some (answer, s') ∧
    shortRead.failure? answer = some (.bufferTooSmall 8 3) ∧
    s.Spared s' ∧ shortRead.delivered? answer = some [7, 8, 9] := by
  have hfound : (pendingRead.bind fun s => s.step shortRead).map (shortRead.failure? ·.1) =
      some (some (.bufferTooSmall 8 3)) := by cbv
  obtain ⟨⟨answer, s'⟩, hrun, hf⟩ := Option.map_eq_some_iff.mp hfound
  obtain ⟨s, hs, hstep⟩ := Option.bind_eq_some_iff.mp hrun
  obtain ⟨hspared, hdelivered⟩ := unchanged_of_refused hstep hf trivial
  exact ⟨s, s', answer, hs, hstep, hf, hspared, hdelivered⟩

end Session

end GraphicsObjects
