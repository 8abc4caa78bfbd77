import GraphicsObjects.Proofs.Context.Holding
import GraphicsObjects.Proofs.Context.Requests
import GraphicsObjects.Proofs.Simulation.Settled

/-!
# Work that ties no objects together

Such work sends the driver requests that keep the links between objects, and neither creates nor
deletes. Plain requests are of this kind. Binds belong to it, but those of an element buffer only
where vertex arrays do not count.
-/

namespace GraphicsObjects.ContextM

open Sim

variable {α β : Type} {tied : Prop} {slot : Slot} {id : Id} {q : Request}

/-- All that the work asks of the driver keeps the links. -/
def KeepsLinks (tied : Prop) (act : ContextM Sim α) : Prop :=
  ∀ c, Continues tied c.driver (act c).2.driver

theorem Plain.keepsLinks {act : ContextM Sim α} (h : Plain act) : KeepsLinks tied act :=
  h.mono fun _ hq => hq.keepsLinks

theorem plain_le_keepsLinks : Request.Plain ≤ Request.KeepsLinks tied := fun _ hq => hq.keepsLinks

theorem KeepsLinks.pure (a : α) : KeepsLinks tied (Pure.pure a) := Sends.pure a

theorem KeepsLinks.get : KeepsLinks tied (MonadState.get : ContextM Sim (Context Sim)) := Sends.get

theorem KeepsLinks.bind {x : ContextM Sim α} {f : α → ContextM Sim β} (hx : KeepsLinks tied x)
    (hf : ∀ a, KeepsLinks tied (f a)) : KeepsLinks tied (x >>= f) :=
  Sends.bind hx hf

/-! ## Requests -/

theorem keepsLinks_perform (hq : q.KeepsLinks tied) : KeepsLinks tied (perform q) :=
  sends_perform hq

theorem keepsLinks_note (e : Event) : KeepsLinks tied (note e) := sends_note e

theorem keepsLinks_updateCache (f : BindingCache → BindingCache) :
    KeepsLinks tied (updateCache f) :=
  sends_updateCache f

theorem keepsLinks_pollError : KeepsLinks tied pollError := plain_pollError.keepsLinks

theorem keepsLinks_checkError (site : Site) : KeepsLinks tied (checkError site) :=
  (plain_checkError site).keepsLinks

theorem keepsLinks_command {site : Site} (hq : q.KeepsLinks tied) :
    KeepsLinks tied (command q site) :=
  sends_command trivial hq

/-! ## Binds -/

theorem keepsLinks_bind (hs : tied → slot ≠ .elementArray) (id : Id) :
    KeepsLinks tied (ContextM.bind slot id) :=
  sends_bind plain_le_keepsLinks hs

theorem keepsLinks_acquire (hs : tied → slot ≠ .elementArray) (id : Id) :
    KeepsLinks tied (acquire slot id) :=
  sends_acquire plain_le_keepsLinks hs

theorem keepsLinks_release {g : Guard} (hs : tied → g.slot ≠ .elementArray) :
    KeepsLinks tied (release g) :=
  sends_release plain_le_keepsLinks fun _ => hs

theorem keepsLinks_holding {act : ContextM Sim α} (hs : tied → slot ≠ .elementArray)
    (hact : KeepsLinks tied act) : KeepsLinks tied (holding slot id act) :=
  sends_holding plain_le_keepsLinks (fun _ => hs) hact

/-! ## Queries -/

theorem keepsLinks_getInteger (parameter : Enumerant) :
    KeepsLinks tied (getInteger parameter : ContextM Sim Int) :=
  (routine_getInteger parameter).plain.keepsLinks

theorem keepsLinks_maxTextureUnits : KeepsLinks tied (maxTextureUnits : ContextM Sim Nat) :=
  routine_maxTextureUnits.plain.keepsLinks

theorem keepsLinks_pixelStore (direction : PixelDirection) :
    KeepsLinks tied (pixelStore direction : ContextM Sim PixelStore) :=
  (routine_pixelStore direction).plain.keepsLinks

end GraphicsObjects.ContextM
