import GraphicsObjects.Proofs.Context.Routines

/-!
# Work by its requests

What work in a context asks of the simulated driver. Checks for errors and queries are plain
requests, and so are binds of anything but an element buffer; creation, destruction and binds of any
kind replace no stores.
-/

namespace GraphicsObjects.ContextM

variable {α β : Type} {allowed allowed' : Request → Prop} {tied fills : Prop}
variable {slot : Slot} {id : Id} {q : Request}

/-- All requests that the work sends are allowed. -/
def Sends (allowed : Request → Prop) (act : ContextM Sim α) : Prop :=
  ∀ c : Context Sim, c.driver.Served allowed (act c).2.driver

/-- The work sends plain requests only. -/
abbrev Plain (act : ContextM Sim α) : Prop := Sends Request.Plain act

theorem Sends.mono {act : ContextM Sim α} (h : Sends allowed act)
    (ha : ∀ q, allowed q → allowed' q) : Sends allowed' act :=
  fun c => (h c).mono ha

theorem Plain.permitted {act : ContextM Sim α} (h : Plain act) :
    Sends (Request.Permitted fills) act :=
  h.mono fun _ hq => hq.permitted

theorem Sends.pure (a : α) : Sends allowed (Pure.pure a) := fun _ => .refl

theorem Sends.get : Sends allowed (MonadState.get : ContextM Sim (Context Sim)) := fun _ => .refl

theorem Sends.bind {x : ContextM Sim α} {f : α → ContextM Sim β} (hx : Sends allowed x)
    (hf : ∀ a, Sends allowed (f a)) : Sends allowed (x >>= f) :=
  fun c => (hx c).trans (hf (x c).1 (x c).2)

/-! ## Requests -/

theorem sends_perform (hq : allowed q) : Sends allowed (perform q) := fun _ => .single ⟨q, hq, rfl⟩

theorem sends_note (e : Event) : Sends allowed (note e) := fun _ => .refl

theorem sends_updateCache (f : BindingCache → BindingCache) : Sends allowed (updateCache f) :=
  fun _ => .refl

theorem sends_reportError (error : DriverError) (site : Site) :
    Sends allowed (reportError error site) := by
  refine .bind .get fun _ => .bind (fun _ => .refl) fun _ => ?_
  split
  · exact .pure _
  · exact sends_note _

theorem plain_pollError : Plain pollError := .bind (sends_perform trivial) fun _ => .pure _

theorem sends_checkError (hg : allowed .getError) (site : Site) :
    Sends allowed (checkError site) := by
  refine .bind .get fun _ => ?_
  split
  · refine .bind (.bind (sends_perform hg) fun _ => .pure _) fun e => ?_
    cases e with
    | none => exact .pure _
    | some error => exact sends_reportError error site
  · exact .pure _

theorem plain_checkError (site : Site) : Plain (checkError site) := sends_checkError trivial site

/-- A command sends its request, and otherwise what a check for errors does. -/
theorem sends_command {site : Site} (hg : allowed .getError) (hq : allowed q) :
    Sends allowed (command q site) :=
  .bind (sends_perform hq) fun _ => .bind (sends_checkError hg site) fun _ => .pure _

/-! ## Routines -/

/-- A routine sends what it is allowed to, and takes errors out of the queue. -/
theorem Routine.sends {sent : Request → Option Site → Prop} {act : ContextM Sim α}
    (h : Routine sent act) (hg : allowed .getError) (hs : ∀ q at?, sent q at? → allowed q) :
    Sends allowed act := by
  induction h with
  | pure a => exact .pure a
  | sequence _ _ ihx ihf => exact fun c => (ihx c).trans (ihf c _)
  | get => exact .get
  | perform hq => exact sends_perform (hs _ _ hq)
  | command hq => exact sends_command hg (hs _ _ hq)
  | destroy hq =>
      refine .bind (sends_perform (hs _ _ hq)) fun _ => .bind (sends_note _) fun _ => ?_
      exact .bind (sends_updateCache _) fun _ => sends_checkError hg _
  | note _ => exact sends_note _
  | updateCache f => exact sends_updateCache f
  | keepTextureUnits n => exact fun _ => .refl

theorem Routine.plain {site? : Request → Option Site} {act : ContextM Sim α}
    (h : Routine (Request.By Request.Plain site?) act) : Plain act :=
  h.sends trivial fun _ _ hq => hq.1

theorem Routine.permitted {site? : Request → Option Site} {act : ContextM Sim α}
    (h : Routine (Request.By (Request.Apart fills) site?) act) :
    Sends (Request.Permitted fills) act :=
  h.sends False.elim fun _ _ hq => hq.1.1

/-! ## Binds -/

theorem sends_bindSlot (hs : allowed (.bind slot id)) : Sends allowed (bindSlot slot id) := by
  refine .bind .get fun _ => ?_
  split
  · exact sends_note _
  · exact .bind (sends_note _) fun _ => .bind (sends_perform hs) fun _ => sends_updateCache _

theorem sends_bind (hp : Request.Plain ≤ allowed) (hs : allowed (.bind slot id)) :
    Sends allowed (ContextM.bind slot id) := by
  cases slot with
  | texture unit target =>
      have hunit : Request.Plain (.bind .activeTexture unit) := nofun
      exact .bind (sends_bindSlot (hp _ hunit)) fun _ => sends_bindSlot hs
  | _ => exact sends_bindSlot hs

theorem sends_acquire (hp : Request.Plain ≤ allowed) (hs : allowed (.bind slot id)) :
    Sends allowed (acquire slot id) :=
  .bind .get fun _ => .bind (sends_bind hp hs) fun _ => .pure _

theorem sends_release {g : Guard} (hp : Request.Plain ≤ allowed)
    (hs : ∀ id, allowed (.bind g.slot id)) : Sends allowed (release g) := by
  unfold release
  split
  · split
    · exact sends_bind hp (hs _)
    · exact .pure _
  · exact .pure _

theorem sends_holding {act : ContextM Sim α} (hp : Request.Plain ≤ allowed)
    (hs : ∀ id, allowed (.bind slot id)) (hact : Sends allowed act) :
    Sends allowed (holding slot id act) := by
  intro c
  have hg : (acquire slot id c).1.slot = slot := rfl
  exact ((sends_acquire hp (hs id) c).trans (hact _)).trans (sends_release hp (hg ▸ hs) _)

/-! ## Requests of any kind that replace no store -/

theorem plain_le_permitted : Request.Plain ≤ Request.Permitted fills := fun _ hq => hq.permitted

theorem permitted_command {site : Site} (hq : q.Permitted fills) :
    Sends (Request.Permitted fills) (command q site) :=
  sends_command False.elim hq

theorem permitted_bind (slot : Slot) (id : Id) :
    Sends (Request.Permitted fills) (ContextM.bind slot id) :=
  sends_bind plain_le_permitted False.elim

theorem permitted_acquire (slot : Slot) (id : Id) :
    Sends (Request.Permitted fills) (acquire slot id) :=
  sends_acquire plain_le_permitted False.elim

theorem permitted_release (g : Guard) : Sends (Request.Permitted fills) (release g) :=
  sends_release plain_le_permitted fun _ => False.elim

end GraphicsObjects.ContextM
