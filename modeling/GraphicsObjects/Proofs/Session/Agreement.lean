import GraphicsObjects.Proofs.Session.Runs

/-!
# The cache agrees with the driver

Along every run in which nothing is deleted that an outstanding guard recorded, what the context
believes of a register is what the driver holds there.
-/

namespace GraphicsObjects.Session

open Ownership

variable {config : Config} {s : Session Sim}

/-- A belief about a register is true, and what is believed to be bound there is 0, a texture unit
or a live object of the register's kind. -/
theorem belief_agrees (h : Reachable Undisturbed config s) {r : Slot} (hr : r.IsRegister) {id : Id}
    (hb : (s.enter 0).cache.belief r = .bound id) :
    s.driver.bound r = id ∧ r.Admits s.driver.live id := by
  obtain ⟨hcareful, -⟩ := h.careful
  exact hcareful.inv.sound.ready.coherent.agrees r id hr hb

/-- Two guards are released in the order in which they were acquired, while strict guards restore,
and the object that one of them had bound is deleted in between. -/
def crossedGuards : Option (Session Sim) :=
  (start .fresh { strictUnbind := true }).perform Undisturbed
    [.create "a" 0 (.buffer .array), .create "b" 0 (.buffer .array), .bind "a",
      .acquire "outer" 0 (.buffer .array) 2, .create "t" 0 (.texture .texture2D),
      .texture "t" (.setToUnit 3), .acquire "inner" 0 (.texture 0 .texture2D) 1,
      .drop "outer", .drop "b", .drop "inner"]

theorem belief_agrees_after_crossed_guards :
    ∃ s, crossedGuards = some s ∧ (s.enter 0).cache.belief (.buffer .array) = .bound 1 ∧
      s.driver.bound (.buffer .array) = 1 ∧ (Slot.buffer .array).Admits s.driver.live 1 := by
  have hsome : crossedGuards.isSome = true := by cbv
  obtain ⟨s, hs⟩ := Option.isSome_iff_exists.mp hsome
  have hb : crossedGuards.map (fun s => (s.enter 0).cache.belief (.buffer .array)) =
      some (.bound 1) := by cbv
  rw [hs] at hb
  have hbelief := Option.some.inj hb
  exact ⟨s, hs, hbelief, belief_agrees (Reachable.start.perform hs) (by decide) hbelief⟩

end GraphicsObjects.Session
