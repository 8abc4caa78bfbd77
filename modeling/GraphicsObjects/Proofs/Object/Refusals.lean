import GraphicsObjects.Object.Buffer
import GraphicsObjects.Object.Framebuffer
import GraphicsObjects.Object.Texture
import GraphicsObjects.Proofs.Context.Work

/-!
# Operations on objects that are refused

An operation that is refused for its arguments has only asked the driver questions before: the
context is as it was, but for the number of texture units, and so is what is known of the object.
-/

namespace GraphicsObjects

/-! ## Failures -/

namespace Failure

/-- The operation does not take its arguments. -/
def IsRefusal : Failure → Prop
  | invalidTarget .. | invalidTextureUnit .. | outOfBounds .. | bufferTooSmall ..
  | unsupportedPixelFormat .. => True
  | creationFailed _ | framebufferIncomplete _ | unreadable _ | malformedConfig => False

instance (e : Failure) : Decidable e.IsRefusal := by
  cases e with
  | creationFailed | framebufferIncomplete | unreadable | malformedConfig =>
      exact inferInstanceAs (Decidable False)
  | _ => exact inferInstanceAs (Decidable True)

/-- The failure in an answer, if there is one. -/
def of? {α : Type} : Except Failure α → Option Failure
  | .error e => some e
  | .ok _ => none

theorem of?_eq_some_iff {α : Type} {answer : Except Failure α} {e : Failure} :
    of? answer = some e ↔ answer = .error e := by
  cases answer <;> simp [of?]

end Failure

def BufferOp.failure? : (op : BufferOp) → op.Answer → Option Failure
  | setSubData .., answer => Failure.of? answer
  | _, _ => none

def TextureOp.failure? : (op : TextureOp) → op.Answer → Option Failure
  | setToUnit _, answer | setImage .., answer => Failure.of? answer
  | _, _ => none

def FramebufferOp.failure? : (op : FramebufferOp) → op.Answer → Option Failure
  | ensureComplete, answer | setDrawBuffers _, answer | clear _, answer => Failure.of? answer
  | readPixels .., answer => Failure.of? answer.1
  | target, _ | checkStatus, _ => none

/-! ## Contexts -/

namespace Context

/-- The context knows the number of texture units. -/
def counted (c : Context Sim) : Context Sim :=
  let units := c.driver.integer Enumerant.maxCombinedTextureImageUnits
  { c with textureUnits := some units.toNat }

/-- Nothing has changed, but for the number of texture units if that was not known. -/
def Spared (c c' : Context Sim) : Prop := c' = c ∨ c.textureUnits = none ∧ c' = c.counted

end Context

namespace ContextM

variable {α β : Type} {c : Context Sim}

/-- Work that changes nothing. -/
def Still (act : ContextM Sim α) : Prop := ∀ c, (act c).2 = c

theorem Still.pure (a : α) : Still (Pure.pure a) := fun _ => rfl

theorem Still.bind {x : ContextM Sim α} {f : α → ContextM Sim β} (hx : Still x)
    (hf : ∀ a, Still (f a)) : Still (x >>= f) := by
  intro c
  rw [bind_apply, hf, hx]

theorem Still.map {x : ContextM Sim α} (f : α → β) (hx : Still x) : Still (f <$> x) :=
  fun c => hx c

theorem Still.mapM {f : α → ContextM Sim β} (xs : List α) (h : ∀ x, Still (f x)) :
    Still (xs.mapM f) := by
  induction xs with
  | nil => exact .pure _
  | cons x xs ih =>
      rw [List.mapM_cons]
      exact .bind (h x) fun _ => .bind ih fun _ => .pure _

/-- A question that is not recorded. -/
theorem still_getInteger (parameter : Enumerant) : Still (getInteger parameter) := by
  intro c
  change { c with trace := c.trace ++ [] } = c
  rw [List.append_nil]

theorem still_pixelStore (direction : PixelDirection) :
    Still (pixelStore direction : ContextM Sim PixelStore) :=
  .map _ (.mapM _ still_getInteger)

theorem spared_maxTextureUnits (c : Context Sim) :
    c.Spared (maxTextureUnits c : Nat × Context Sim).2 := by
  unfold maxTextureUnits
  rw [bind_apply, get_apply]
  cases hc : c.textureUnits with
  | some n => exact .inl rfl
  | none =>
      refine .inr ⟨hc, ?_⟩
      have hasked : (getInteger Enumerant.maxCombinedTextureImageUnits c).2 = c :=
        still_getInteger ..
      simp only [bind_apply, modify_apply, hasked]
      rfl

end ContextM

/-! ## Operations -/

open ContextM

variable {c : Context Sim} {id : Id} {e : Failure}

namespace Buffer

variable {b : Buffer}

theorem refused_setSubData {offset : Nat} {data : Bytes}
    (h : (b.setSubData id offset data c).1 = .error e) : (b.setSubData id offset data c).2 = c := by
  unfold setSubData at h ⊢
  split
  · rename_i hbounds
    rw [if_pos hbounds] at h
    cases h
  · rfl

theorem refused_run {op : BufferOp} (h : op.failure? (op.run id b c).1.1 = some e) :
    (op.run id b c).1.2 = b ∧ (op.run id b c).2 = c := by
  cases op with
  | setSubData offset data => exact ⟨rfl, refused_setSubData (Failure.of?_eq_some_iff.mp h)⟩
  | _ => cases h

end Buffer

namespace Texture

variable {t : Texture}

/-- The unit is checked before the texture moves. -/
theorem refused_setToUnit {unit : Nat} (h : (t.setToUnit id unit c).1.1 = .error e) :
    (t.setToUnit id unit c).1.2 = t ∧ c.Spared (t.setToUnit id unit c).2 := by
  unfold setToUnit at h ⊢
  rw [bind_apply] at h ⊢
  split
  · exact ⟨rfl, spared_maxTextureUnits c⟩
  · rename_i hunit
    rw [if_neg hunit] at h
    cases h

theorem still_checkImage (target : ImageTarget) (image : ImageSpec) :
    Still (checkImage target image) := by
  unfold checkImage
  split
  · exact .pure _
  · exact .bind (still_pixelStore _) fun _ => .pure _

/-- Client memory is checked before anything is bound. -/
theorem refused_upload {target : ImageTarget} {image : ImageSpec}
    (h : (t.upload id target image c).1 = .error e) : (t.upload id target image c).2 = c := by
  unfold upload at h ⊢
  rw [bind_apply] at h ⊢
  cases hchecked : (checkImage target image c).1 with
  | error e' => exact still_checkImage target image c
  | ok u =>
      rw [hchecked] at h
      cases h

theorem refused_setImage {form : ImageForm} {image : ImageSpec}
    (h : (t.setImage id form image c).1 = .error e) : (t.setImage id form image c).2 = c := by
  unfold setImage at h ⊢
  cases htarget : form.target? t.target with
  | none => rfl
  | some target =>
      rw [htarget] at h
      exact refused_upload h

theorem refused_run {op : TextureOp} (h : op.failure? (op.run id t c).1.1 = some e) :
    (op.run id t c).1.2 = t ∧ c.Spared (op.run id t c).2 := by
  cases op with
  | setToUnit unit => exact refused_setToUnit (Failure.of?_eq_some_iff.mp h)
  | setImage form image =>
      exact ⟨rfl, .inl (refused_setImage (Failure.of?_eq_some_iff.mp h))⟩
  | _ => cases h

end Texture

namespace Framebuffer

variable {f : Framebuffer}

/-- An operation on framebuffers of some targets only, which is refused before it is begun. -/
theorem refused_require {excluded : FramebufferTarget} {operation : Restricted}
    {act : ContextM Sim Unit}
    (h : ((match f.require excluded operation with
      | .error e => pure (.error e)
      | .ok () => do
        act
        pure (.ok ()) : ContextM Sim (Except Failure Unit)) c).1 = .error e) :
    ((match f.require excluded operation with
      | .error e => pure (.error e)
      | .ok () => do
        act
        pure (.ok ()) : ContextM Sim (Except Failure Unit)) c).2 = c := by
  cases hr : f.require excluded operation with
  | error e => rfl
  | ok u =>
      rw [hr] at h
      cases h

theorem still_checkRead (f : Framebuffer) (block : PixelBlock) (len : Nat) :
    Still (f.checkRead block len) := by
  unfold checkRead
  split
  · exact .pure _
  · exact .bind (still_pixelStore _) fun _ => .pure _

/-- Client memory is checked before anything is bound, and left alone on failure. -/
theorem refused_readPixels {block : PixelBlock} {out : Bytes}
    (h : (f.readPixels id block out c).1.1 = .error e) :
    (f.readPixels id block out c).1.2 = out ∧ (f.readPixels id block out c).2 = c := by
  unfold readPixels at h ⊢
  rw [bind_apply] at h ⊢
  cases hchecked : (f.checkRead block out.length c).1 with
  | error e' => exact ⟨rfl, f.still_checkRead block out.length c⟩
  | ok u =>
      rw [hchecked] at h
      cases h

/-- That a framebuffer is not complete is found out with the framebuffer bound. -/
theorem not_refused_ensureComplete (h : (f.ensureComplete id c).1 = .error e) :
    ¬ e.IsRefusal := by
  unfold ensureComplete at h
  rw [bind_apply] at h
  change (if _ then _ else _) = _ at h
  split at h
  · cases h
  · cases h
    exact not_false

/-- A refusal leaves the context alone. -/
theorem refused_run {op : FramebufferOp} (h : op.failure? (op.run id f c).1 = some e)
    (he : e.IsRefusal) : (op.run id f c).2 = c := by
  cases op with
  | target | checkStatus => cases h
  | ensureComplete => exact absurd he (not_refused_ensureComplete (Failure.of?_eq_some_iff.mp h))
  | setDrawBuffers points => exact refused_require (Failure.of?_eq_some_iff.mp h)
  | readPixels block out => exact (refused_readPixels (Failure.of?_eq_some_iff.mp h)).2
  | clear mask => exact refused_require (Failure.of?_eq_some_iff.mp h)

end Framebuffer

end GraphicsObjects
