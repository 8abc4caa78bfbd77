import GraphicsObjects.Proofs.Context.Work
import GraphicsObjects.Proofs.Simulation.Recording

/-!
# Work over a driver that keeps what it is asked

What is done in a context over a recording driver is what is done over the driver itself, with the
same answers. And a deletion is asked for exactly where one is logged.
-/

namespace GraphicsObjects

/-! ## The same work on two kinds of states -/

/-- Work on states and the same work on what is seen of them: the answers are the same, and what is
seen afterwards is what the second leaves. The first keeps what `kept` says. -/
def Alongside {σ σ' α : Type} (view : σ → σ') (kept : σ → Prop) (x : StateM σ α)
    (y : StateM σ' α) : Prop :=
  ∀ s, y (view s) = ((x s).1, view (x s).2) ∧ (kept s → kept (x s).2)

namespace Alongside

variable {σ σ' α β : Type} {view : σ → σ'} {kept : σ → Prop}
variable {x x' : StateM σ α} {y y' : StateM σ' α}

theorem pure (a : α) : Alongside view kept (Pure.pure a) (Pure.pure a) := fun _ => ⟨rfl, id⟩

theorem bind {f : α → StateM σ β} {g : α → StateM σ' β} (hx : Alongside view kept x y)
    (hf : ∀ a, Alongside view kept (f a) (g a)) : Alongside view kept (x >>= f) (y >>= g) := by
  intro s
  obtain ⟨hy, hkept⟩ := hx s
  obtain ⟨hg, hkept'⟩ := hf (x s).1 (x s).2
  refine ⟨?_, fun h => hkept' (hkept h)⟩
  rw [bind_apply, hy]
  exact hg

theorem map (f : α → β) (hx : Alongside view kept x y) : Alongside view kept (f <$> x) (f <$> y) :=
  .bind hx fun _ => .pure _

theorem reading {f : σ → StateM σ α} {g : σ' → StateM σ' α}
    (h : ∀ s, Alongside view kept (f s) (g (view s))) :
    Alongside view kept (get >>= f) (get >>= g) :=
  fun s => h s s

theorem change {f : σ → σ} {g : σ' → σ'} (hf : ∀ s, g (view s) = view (f s))
    (hk : ∀ s, kept s → kept (f s)) : Alongside view kept (modify f) (modify g) :=
  fun s => ⟨congrArg (Prod.mk PUnit.unit) (hf s), hk s⟩

theorem choice {p : Prop} [Decidable p] (h : Alongside view kept x y)
    (h' : Alongside view kept x' y') :
    Alongside view kept (if p then x else x') (if p then y else y') := by
  split
  · exact h
  · exact h'

theorem forM {f : α → StateM σ PUnit} {g : α → StateM σ' PUnit} (xs : List α)
    (h : ∀ a, Alongside view kept (f a) (g a)) : Alongside view kept (xs.forM f) (xs.forM g) := by
  induction xs with
  | nil => exact .pure _
  | cons a xs ih => exact .bind (h a) fun _ => ih

theorem mapM {f : α → StateM σ β} {g : α → StateM σ' β} (xs : List α)
    (h : ∀ a, Alongside view kept (f a) (g a)) : Alongside view kept (xs.mapM f) (xs.mapM g) := by
  induction xs with
  | nil => exact .pure _
  | cons a xs ih =>
      rw [List.mapM_cons, List.mapM_cons]
      exact .bind (h a) fun _ => .bind ih fun _ => .pure _

end Alongside

/-! ## Contexts -/

/-- What was to be deleted is what a log reports as deleted. -/
structure Recording.Frank (d : Recording) (trace : List Event) : Prop where
  sifted : d.Sifted
  logged : d.asked = deletions trace

/-- The context over the driver itself. -/
def Context.plain (c : Context Recording) : Context Sim :=
  { toBookkeeping := c.toBookkeeping, driver := c.driver.sim, trace := c.trace }

@[simp] theorem Context.plain_textureUnits (c : Context Recording) :
    c.plain.textureUnits = c.textureUnits := rfl

namespace ContextM

/-- The same work over a recording driver and over the driver itself. -/
abbrev Recorded {α : Type} (x : ContextM Recording α) (y : ContextM Sim α) : Prop :=
  Alongside Context.plain (fun c => c.driver.Frank c.trace) x y

variable {α : Type} {x : ContextM Recording α} {y : ContextM Sim α}

theorem recorded_perform {q : Request} (hq : q.deletes = []) :
    Recorded (perform q) (perform q) := by
  refine fun c => ⟨rfl, fun h => ⟨h.sifted.perform q, ?_⟩⟩
  change (Driver.perform q c.driver).driver.asked = deletions (c.trace ++ [])
  rw [Recording.asked_perform, hq, List.append_nil, List.append_nil]
  exact h.logged

theorem recorded_note {e : Event} (he : e.deletion? = none) : Recorded (note e) (note e) :=
  .change (fun _ => rfl) fun _ h => ⟨h.sifted, h.logged.trans (deletions_note _ he).symm⟩

theorem recorded_updateCache (f : BindingCache → BindingCache) :
    Recorded (updateCache f) (updateCache f) :=
  .change (fun _ => rfl) fun _ => id

/-! ## Errors -/

theorem recorded_pollError : Recorded pollError pollError :=
  .bind (recorded_perform rfl) fun _ => .pure _

theorem recorded_reportError (error : DriverError) (site : Site) :
    Recorded (reportError error site) (reportError error site) := by
  refine .reading fun c => .bind (.change (fun _ => rfl) fun _ => id) fun _ => ?_
  exact .choice (.pure _) (recorded_note rfl)

theorem recorded_checkError (site : Site) : Recorded (checkError site) (checkError site) := by
  refine .reading fun c => .choice (.bind recorded_pollError fun error? => ?_) (.pure _)
  cases error? with
  | none => exact .pure _
  | some error => exact recorded_reportError error site

theorem recorded_command {q : Request} (hq : q.deletes = []) (site : Site) :
    Recorded (command q site) (command q site) :=
  .bind (recorded_perform hq) fun _ => .bind (recorded_checkError site) fun _ => .pure _

/-! ## Binding -/

theorem recorded_bindSlot (slot : Slot) (id : Id) :
    Recorded (bindSlot slot id) (bindSlot slot id) := by
  refine .reading fun c => .choice (recorded_note rfl) (.bind (recorded_note rfl) fun _ => ?_)
  exact .bind (recorded_perform rfl) fun _ => recorded_updateCache _

theorem recorded_bind (slot : Slot) (id : Id) :
    Recorded (ContextM.bind slot id) (ContextM.bind slot id) := by
  cases slot with
  | texture unit target => exact .bind (recorded_bindSlot _ _) fun _ => recorded_bindSlot _ _
  | _ => exact recorded_bindSlot _ _

theorem recorded_acquire (slot : Slot) (id : Id) : Recorded (acquire slot id) (acquire slot id) :=
  .reading fun _ => .bind (recorded_bind slot id) fun _ => .pure _

theorem recorded_release (g : Guard) : Recorded (release g) (release g) := by
  unfold release
  cases g.previous with
  | none => exact .pure _
  | some id => exact .choice (recorded_bind g.slot id) (.pure _)

theorem recorded_holding (slot : Slot) (id : Id) (h : Recorded x y) :
    Recorded (holding slot id x) (holding slot id y) :=
  .bind (recorded_acquire slot id) fun g => .bind h fun _ =>
    .bind (recorded_release g) fun _ => .pure _

/-- A command with an object bound. -/
theorem recorded_bound (slot : Slot) (id : Id) {q : Request} (hq : q.deletes = []) (site : Site) :
    Recorded (holding slot id (command q site)) (holding slot id (command q site)) :=
  recorded_holding slot id (recorded_command hq site)

/-! ## Queries -/

theorem recorded_getInteger (parameter : Enumerant) :
    Recorded (getInteger parameter) (getInteger parameter) := recorded_perform rfl

theorem recorded_maxTextureUnits : Recorded maxTextureUnits maxTextureUnits := by
  refine .reading fun c => ?_
  simp only [Context.plain_textureUnits]
  cases c.textureUnits with
  | some n => exact .pure _
  | none =>
      refine .bind (recorded_getInteger _) fun _ => .bind ?_ fun _ => .pure _
      exact .change (fun _ => rfl) fun _ => id

theorem recorded_pixelStore (direction : PixelDirection) :
    Recorded (pixelStore direction) (pixelStore direction) :=
  .map _ (.mapM _ recorded_getInteger)

/-! ## Lifetime of objects -/

theorem recorded_created (kind : Kind) (id : Id) {e : Event} (he : e.deletion? = none) :
    Recorded (created kind id e) (created kind id e) :=
  .choice (.pure _) (.bind (recorded_note he) fun _ => .pure _)

theorem recorded_createObject (kind : Kind) :
    Recorded (createObject kind) (createObject kind) :=
  .bind (recorded_command rfl _) fun _ => recorded_created _ _ rfl

theorem recorded_createShader (stage : ShaderStage) :
    Recorded (createShader stage) (createShader stage) :=
  .bind (recorded_command rfl _) fun _ => recorded_created _ _ rfl

theorem recorded_createProgram : Recorded createProgram createProgram :=
  .bind (recorded_command rfl _) fun _ => recorded_created _ _ rfl

/-- A deletion is asked for once and logged once. -/
theorem recorded_deletion {q : Request} {kind : Kind} {id : Id} (hq : q.deletes = [(kind, id)]) :
    Recorded (do let _ ← perform q; note (.deletedObject kind id))
      (do let _ ← perform q; note (.deletedObject kind id)) := by
  refine fun c => ⟨rfl, fun h => ⟨h.sifted.perform q, ?_⟩⟩
  change (Driver.perform q c.driver).driver.asked =
    deletions (c.trace ++ [] ++ [.deletedObject kind id])
  rw [Recording.asked_perform, hq, h.logged]
  simp [deletions, Event.deletion?]

theorem deletes_deleteRequest (kind : Kind) (id : Id) :
    (deleteRequest kind id).deletes = [(kind, id)] := by
  cases kind <;> rfl

theorem recorded_destroy (kind : Kind) (id : Id) :
    Recorded (destroy kind id) (destroy kind id) := by
  have hforget := recorded_updateCache (·.forgetObject kind id)
  have h := (recorded_deletion (deletes_deleteRequest kind id)).bind fun _ =>
    hforget.bind fun _ => recorded_checkError .deletingObject
  simp only [bind_assoc] at h
  exact h

/-! ## Operations -/

/-- Whatever is asked of a context, but for requests past it. -/
theorem recorded_run {op : ContextOp} {live : List (Kind × Id)} (h : op.Admissible live) :
    Recorded op.run op.run := by
  cases op with
  | config | activeBinding | isBound => exact .reading fun _ => .pure _
  | bind slot id => exact recorded_bind slot id
  | unbind slot => exact recorded_bind slot 0
  | interrupted slot id => exact recorded_holding slot id (.pure _)
  | invalidateBinding slot => exact recorded_updateCache (·.invalidate slot)
  | invalidateBindings => exact .bind (recorded_note rfl) fun _ => recorded_updateCache _
  | pollError => exact recorded_pollError
  | getInteger parameter => exact recorded_getInteger parameter
  | maxTextureUnits => exact recorded_maxTextureUnits
  | pixelStore direction => exact recorded_pixelStore direction
  | clear | clearColor | viewport => exact recorded_command rfl _
  | request r => exact h.elim

end ContextM

end GraphicsObjects
