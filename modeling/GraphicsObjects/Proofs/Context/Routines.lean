import GraphicsObjects.Context.Basic
import GraphicsObjects.Proofs.Simulation.Requests

/-!
# Routines

Whatever the driver is, work in a context is made of a few things: requests that go unchecked,
commands with the check for errors that belongs to them, destruction of objects, and notes. So what
each of these does to a context and its driver is done by all work together.
-/

namespace GraphicsObjects

/-- An error that was reported, and where. -/
abbrev Report := DriverError × Site

/-- The report that an event logs, if it logs one. -/
def Event.report? : Event → Option Report
  | driverError error site => some (error, site)
  | _ => none

namespace Request

/-- Where a command is said to have been issued if there is an error after it. Queries and binds are
no commands: there is no check after them. -/
def site? : Request → Option Site
  | genObjects .. => some .creatingObject
  | createShader _ => some .creatingShader
  | createProgram => some .creatingProgram
  | deleteObjects .. | deleteShader _ | deleteProgram _ => some .deletingObject
  | viewport .. => some .settingViewport
  | clearColor _ => some .settingClearColor
  | clear _ => some .clearing
  | bufferData .. => some .settingBufferData
  | bufferSubData .. => some .settingBufferSubData
  | texImage .. => some .settingTextureImage
  | texParameter .. => some .settingTextureParameter
  | getTexParameter .. => some .gettingTextureParameter
  | generateMipmap _ => some .generatingMipmaps
  | renderbufferStorage .. => some .settingRenderbufferStorage
  | framebufferRenderbuffer .. => some .attachingRenderbuffer
  | framebufferTexture .. => some .attachingTexture
  | checkFramebufferStatus _ => some .checkingFramebufferStatus
  | drawBuffers _ => some .settingDrawBuffers
  | readPixels .. => some .readingPixels
  | enableVertexAttribute .. => some .enablingVertexAttribute
  | vertexAttributePointer _ => some .settingVertexAttributePointer
  | shaderSource .. => some .settingShaderSource
  | compileShader _ => some .compilingShader
  | attachShader .. => some .attachingShader
  | detachShader .. => some .detachingShader
  | linkProgram _ => some .linkingProgram
  | validateProgram _ => some .validatingProgram
  | programParameter .. => some .gettingProgramParameter
  | bindAttributeLocation .. => some .bindingAttributeLocation
  | uniform .. => some .settingUniform
  | dispatchCompute .. => some .dispatchingCompute
  | drawArrays .. => some .drawingArrays
  | drawElements .. => some .drawingElements
  | bind .. | getError | getInteger _ | shaderStatus _ | shaderInfoLog _ | programStatus ..
  | programInfoLog _ | attributeLocation .. | uniformLocation .. | activeUniform ..
  | activeAttribute .. => none

/-- The request attaches an object to a framebuffer. -/
def Attaches : Request → Prop
  | framebufferRenderbuffer .. | framebufferTexture .. => True
  | _ => False

/-- The request attaches nothing, and replaces a store only if `fills` holds. -/
def Apart (fills : Prop) (q : Request) : Prop := q.Permitted fills ∧ ¬ q.Attaches

/-- A request that is asked for and that takes no error out of the queue, with the site of the check
after it, if there is one. -/
def By (asked : Request → Prop) (site? : Request → Option Site) (q : Request) (at? : Option Site) :
    Prop :=
  asked q ∧ q ≠ .getError ∧ at? = site? q

variable {q : Request} {fills : Prop}

theorem Plain.apart (h : q.Plain) : q.Apart fills := by
  refine ⟨h.permitted, fun ha => ?_⟩
  cases q with
  | framebufferRenderbuffer | framebufferTexture => exact h
  | _ => exact ha

end Request

namespace ContextM

/-- Work that sends what is allowed, with checks for errors as told, and reports errors in the
course of these checks only. -/
inductive Routine {δ : Type} [Driver δ] (sent : Request → Option Site → Prop) :
    {α : Type} → ContextM δ α → Prop where
  | pure {α : Type} (a : α) : Routine sent (Pure.pure a)
  /-- The second part need be one only for what the first part can give. -/
  | sequence {α β : Type} {x : ContextM δ α} {f : α → ContextM δ β} (hx : Routine sent x)
    (hf : ∀ c, Routine sent (f (x c).1)) : Routine sent (x >>= f)
  | get : Routine sent (MonadState.get : ContextM δ (Context δ))
  | perform {q : Request} (hq : sent q none) : Routine sent (perform q)
  | command {q : Request} {site : Site} (hq : sent q (some site)) : Routine sent (command q site)
  | destroy {kind : Kind} {id : Id} (hq : sent (deleteRequest kind id) (some .deletingObject)) :
    Routine sent (destroy kind id)
  | note {e : Event} (he : e.report? = none) : Routine sent (note e)
  | updateCache (f : BindingCache → BindingCache) : Routine sent (updateCache f)
  | keepTextureUnits (n : Nat) :
    Routine sent (modify fun c => { c with textureUnits := some n } : ContextM δ PUnit)

variable {δ : Type} [Driver δ] {α β : Type} {sent sent' : Request → Option Site → Prop}
variable {asked : Request → Prop} {fills : Prop} {slot : Slot} {id : Id} {q : Request}

namespace Routine

theorem mono {act : ContextM δ α} (h : Routine sent act)
    (hs : ∀ q at?, sent q at? → sent' q at?) : Routine sent' act := by
  induction h with
  | pure a => exact .pure a
  | sequence _ _ ihx ihf => exact .sequence ihx ihf
  | get => exact .get
  | perform hq => exact .perform (hs _ _ hq)
  | command hq => exact .command (hs _ _ hq)
  | destroy hq => exact .destroy (hs _ _ hq)
  | note he => exact .note he
  | updateCache f => exact .updateCache f
  | keepTextureUnits n => exact .keepTextureUnits n

theorem bind {x : ContextM δ α} {f : α → ContextM δ β} (hx : Routine sent x)
    (hf : ∀ a, Routine sent (f a)) : Routine sent (x >>= f) :=
  .sequence hx fun _ => hf _

theorem map {x : ContextM δ α} (f : α → β) (hx : Routine sent x) : Routine sent (f <$> x) :=
  .bind hx fun _ => .pure _

theorem forM {xs : List α} {f : α → ContextM δ PUnit} (h : ∀ x ∈ xs, Routine sent (f x)) :
    Routine sent (xs.forM f) := by
  induction xs with
  | nil => exact .pure _
  | cons x xs ih =>
      exact .bind (h x List.mem_cons_self) fun _ => ih fun y hy => h y (List.mem_cons_of_mem _ hy)

theorem mapM {f : α → ContextM δ β} (xs : List α) (h : ∀ x, Routine sent (f x)) :
    Routine sent (xs.mapM f) := by
  induction xs with
  | nil => exact .pure _
  | cons x xs ih =>
      rw [List.mapM_cons]
      exact .bind (h x) fun _ => .bind ih fun _ => .pure _

end Routine

/-! ## Checks -/

omit [Driver δ] in
theorem reportError_apply (error : DriverError) (site : Site) (c : Context δ) :
    reportError error site c =
      (if c.lastError = some (error, site) then Pure.pure () else note (.driverError error site))
        { c with lastError := some (error, site) } := rfl

omit [Driver δ] in
theorem reportError_kept (error : DriverError) (site : Site) (c : Context δ) :
    (reportError error site c).2.config = c.config ∧
      (reportError error site c).2.driver = c.driver := by
  rw [reportError_apply]
  split <;> exact ⟨rfl, rfl⟩

theorem checkError_of_unchecked {c : Context δ} (h : c.config.checkErrors = false) (site : Site) :
    checkError site c = ((), c) := by
  simp only [checkError, bind_apply, get_apply, h, Bool.false_eq_true, if_false]
  rfl

theorem checkError_of_checked {c : Context δ} (h : c.config.checkErrors = true) (site : Site) :
    checkError site c = (match DriverError.ofCode? (ContextM.perform .getError c).1 with
      | some error => reportError error site
      | none => Pure.pure ()) (ContextM.perform .getError c).2 := by
  simp only [checkError, bind_apply, get_apply, h, if_true]
  rfl

/-- A check takes an error out of the queue of the driver. -/
theorem driver_checkError (site : Site) (c : Context δ) : (checkError site c).2.driver =
    if c.config.checkErrors then (ContextM.perform .getError c).2.driver else c.driver := by
  cases h : c.config.checkErrors with
  | false => simp only [checkError_of_unchecked h, Bool.false_eq_true, if_false]
  | true =>
      rw [checkError_of_checked h, if_pos rfl]
      cases DriverError.ofCode? (ContextM.perform .getError c).1 with
      | none => rfl
      | some error => exact (reportError_kept error site _).2

/-! ## Binds -/

theorem routine_bindSlot (hs : sent (.bind slot id) none) :
    Routine sent (bindSlot slot id : ContextM δ Unit) := by
  refine .bind .get fun _ => ?_
  split
  · exact .note rfl
  · exact .bind (.note rfl) fun _ => .bind (.perform hs) fun _ => .updateCache _

/-- Texture units may be made active. -/
abbrev Activates (sent : Request → Option Site → Prop) : Prop :=
  ∀ unit, sent (.bind .activeTexture unit) none

theorem routine_bind (hu : Activates sent) (hs : sent (.bind slot id) none) :
    Routine sent (ContextM.bind slot id : ContextM δ Unit) := by
  cases slot with
  | texture unit target => exact .bind (routine_bindSlot (hu unit)) fun _ => routine_bindSlot hs
  | _ => exact routine_bindSlot hs

theorem routine_acquire (hu : Activates sent) (hs : sent (.bind slot id) none) :
    Routine sent (acquire slot id : ContextM δ Guard) :=
  .bind .get fun _ => .bind (routine_bind hu hs) fun _ => .pure _

theorem routine_release {g : Guard} (hu : Activates sent) (hs : ∀ id, sent (.bind g.slot id) none) :
    Routine sent (release g : ContextM δ Unit) := by
  unfold release
  split
  · split
    · exact routine_bind hu (hs _)
    · exact .pure _
  · exact .pure _

theorem routine_holding {act : ContextM δ α} (hu : Activates sent)
    (hs : ∀ id, sent (.bind slot id) none) (hact : Routine sent act) :
    Routine sent (holding slot id act) := by
  refine .sequence (routine_acquire hu (hs id)) fun c => .bind hact fun _ => ?_
  have hg : (acquire slot id c).1.slot = slot := rfl
  exact .bind (routine_release hu (hg ▸ hs)) fun _ => .pure _

/-! ## Plain requests -/

/-- Plain requests, with the usual checks. -/
abbrev Plainly : Request → Option Site → Prop := Request.By Request.Plain Request.site?

/-- Requests that attach nothing, with the usual checks. -/
abbrev Apartly (fills : Prop) : Request → Option Site → Prop :=
  Request.By (Request.Apart fills) Request.site?

theorem Routine.apart {act : ContextM δ α} (h : Routine Plainly act) :
    Routine (Apartly fills) act :=
  h.mono fun _ _ hq => ⟨hq.1.apart, hq.2⟩

theorem activates_plainly : Activates Plainly := fun _ => ⟨nofun, nofun, rfl⟩

theorem activates_apartly : Activates (Apartly fills) :=
  fun _ => ⟨⟨False.elim, id⟩, nofun, rfl⟩

theorem plainly_bind (hs : slot ≠ .elementArray) (id : Id) : Plainly (.bind slot id) none :=
  ⟨hs, nofun, rfl⟩

theorem apartly_bind (slot : Slot) (i : Id) : Apartly fills (.bind slot i) none :=
  ⟨⟨False.elim, id⟩, nofun, rfl⟩

theorem plainly_holding {act : ContextM δ α} (hs : slot ≠ .elementArray)
    (hact : Routine Plainly act) : Routine Plainly (holding slot id act) :=
  routine_holding activates_plainly (plainly_bind hs) hact

theorem apartly_holding {act : ContextM δ α} (slot : Slot) (id : Id)
    (hact : Routine (Apartly fills) act) : Routine (Apartly fills) (holding slot id act) :=
  routine_holding activates_apartly (apartly_bind slot) hact

/-! ## Queries -/

theorem routine_getInteger (parameter : Enumerant) :
    Routine Plainly (getInteger parameter : ContextM δ Int) :=
  .perform ⟨trivial, nofun, rfl⟩

theorem routine_maxTextureUnits : Routine Plainly (maxTextureUnits : ContextM δ Nat) := by
  refine .bind .get fun _ => ?_
  split
  · exact .pure _
  · exact .bind (routine_getInteger _) fun _ => .bind (.keepTextureUnits _) fun _ => .pure _

theorem routine_pixelStore (direction : PixelDirection) :
    Routine Plainly (pixelStore direction : ContextM δ PixelStore) :=
  .map _ (.mapM _ routine_getInteger)

/-! ## Creation and destruction -/

theorem routine_created (kind : Kind) (id : Id) {e : Event} (he : e.report? = none) :
    Routine sent (created kind id e : ContextM δ (Except Failure Id)) := by
  unfold created
  split
  · exact .pure _
  · exact .bind (.note he) fun _ => .pure _

theorem routine_createObject (kind : Kind) :
    Routine (Apartly fills) (createObject kind : ContextM δ (Except Failure Id)) :=
  .bind (.command ⟨⟨False.elim, id⟩, nofun, rfl⟩) fun _ => routine_created _ _ rfl

theorem routine_createShader (stage : ShaderStage) :
    Routine (Apartly fills) (createShader stage : ContextM δ (Except Failure Id)) :=
  .bind (.command ⟨⟨False.elim, id⟩, nofun, rfl⟩) fun _ => routine_created _ _ rfl

theorem routine_createProgram :
    Routine (Apartly fills) (createProgram : ContextM δ (Except Failure Id)) :=
  .bind (.command ⟨⟨False.elim, id⟩, nofun, rfl⟩) fun _ => routine_created _ _ rfl

theorem routine_destroy (kind : Kind) (i : Id) :
    Routine (Apartly fills) (destroy kind i : ContextM δ Unit) := by
  refine .destroy ?_
  cases kind <;> exact ⟨⟨False.elim, id⟩, nofun, rfl⟩

end ContextM

end GraphicsObjects
