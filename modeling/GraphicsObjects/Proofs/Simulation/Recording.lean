import GraphicsObjects.Proofs.Session.Runs
import GraphicsObjects.Proofs.Simulation.Requests

/-!
# A driver that keeps what it is asked

The driver in memory leaves no mark of a deletion that names nothing live. Here it writes down every
request, with the state in which the request came. If all that was to be deleted has been deleted,
then each deletion named what was live when it came.
-/

namespace GraphicsObjects

/-- A driver in memory with the requests that it received, each with the state before it. -/
structure Recording where
  sim : Sim
  received : List (Sim × Request) := []

namespace Recording

instance : Driver Recording where
  perform q d :=
    let reply := Driver.perform q d.sim
    { answer := reply.answer
      driver := { sim := reply.driver, received := d.received ++ [(d.sim, q)] }
      events := reply.events }

def adjust (d : Recording) (a : Adjustment) : Recording := { d with sim := a.apply d.sim }

/-- What was to be deleted, in order. -/
def asked (d : Recording) : List (Kind × Id) := d.received.flatMap (·.2.deletes)

/-- Whatever was to be deleted was live when the request came. -/
def Apt (d : Recording) : Prop := ∀ x ∈ d.received, ∀ n ∈ x.2.deletes, n ∈ x.1.live

/-- What was deleted is among what was to be deleted, and all of that only if all was live. -/
structure Sifted (d : Recording) : Prop where
  sublist : d.sim.deleted.Sublist d.asked
  apt : d.sim.deleted = d.asked → d.Apt

variable {d : Recording}

theorem Sifted.fresh : ({ sim := .fresh } : Recording).Sifted :=
  ⟨.refl _, fun _ => List.forall_mem_nil _⟩

theorem asked_perform (d : Recording) (q : Request) :
    (Driver.perform q d).driver.asked = d.asked ++ q.deletes := by
  simp [asked, Driver.perform]

theorem Sifted.perform (h : d.Sifted) (q : Request) : (Driver.perform q d).driver.Sifted := by
  obtain ⟨gone, hgone, hserve⟩ := d.sim.deleted_serve q
  have hdeleted : (Driver.perform q d).driver.sim.deleted = d.sim.deleted ++ gone := hserve
  constructor
  · rw [hdeleted, asked_perform]
    exact h.sublist.append hgone.sublist
  · intro he
    rw [hdeleted, asked_perform] at he
    -- neither part is longer than what it is a part of, so both are all of it
    have hlen := congrArg List.length he
    have hle := h.sublist.length_le
    have hle' := hgone.sublist.length_le
    simp only [List.length_append] at hlen
    obtain ⟨hbefore, rfl⟩ := List.append_inj he (by omega)
    intro x hx
    rcases List.mem_append.mp hx with hx | hx
    · exact h.apt hbefore x hx
    · cases List.mem_singleton.mp hx
      exact hgone.live

theorem Sifted.adjust (h : d.Sifted) (a : Adjustment) : (d.adjust a).Sifted := by
  cases a <;> exact ⟨h.sublist, h.apt⟩

end Recording

end GraphicsObjects
