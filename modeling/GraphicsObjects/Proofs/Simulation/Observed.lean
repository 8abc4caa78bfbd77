import GraphicsObjects.Proofs.Session.Runs
import GraphicsObjects.Proofs.Simulation.Links

/-!
# The queue of errors

A request adds error codes to the end of the queue, or takes the oldest one. So the codes that have
been taken and those that are pending are the codes that have entered, in their order. What was
asked, and what entered, is written down by a driver that is otherwise the one in memory.
-/

namespace GraphicsObjects

open Simulation

/-! ## What entered the queue -/

namespace Sim

theorem errors_raise (s : Sim) (code : Enumerant) : s.errors <+: (s.raise code).errors :=
  List.prefix_append _ _

/-- A command that is refused raises an error. -/
theorem errors_refused {s t : Sim} {p : Prop} [Decidable p] {code : Enumerant}
    (h : t.errors = s.errors) : s.errors <+: (if p then s.raise code else t).errors := by
  split
  · exact errors_raise ..
  · rw [h]

theorem errors_gen (s : Sim) (kind : Kind) : (s.gen kind).2.errors = s.errors := by
  rw [gen_eq]
  split <;> rfl

theorem errors_genMany (kind : Kind) (n : Nat) (s : Sim) :
    (genMany kind n s).2.errors = s.errors := by
  induction n generalizing s with
  | zero => rfl
  | succ n ih => exact (ih _).trans (errors_gen s kind)

theorem errors_createShader (s : Sim) (stage : ShaderStage) :
    (s.createShader stage).2.errors = s.errors := by
  simp only [createShader]
  split <;> exact errors_gen s .shader

theorem errors_createProgram (s : Sim) : s.createProgram.2.errors = s.errors := by
  simp only [createProgram]
  split <;> exact errors_gen s .program

theorem errors_delete (s : Sim) (kind : Kind) (id : Id) : (s.delete kind id).errors = s.errors := by
  unfold delete
  split
  · rfl
  · cases kind <;> rfl

theorem errors_deleteMany (s : Sim) (kind : Kind) (ids : List Id) :
    (s.deleteMany kind ids).errors = s.errors := by
  induction ids generalizing s with
  | nil => rfl
  | cons id ids ih => exact (ih _).trans (errors_delete s kind id)

theorem errors_place (s : Sim) (slot : Slot) (id : Id) : (s.place slot id).errors = s.errors := by
  unfold place
  split <;> rfl

theorem errors_bind (s : Sim) (slot : Slot) (id : Id) : s.errors <+: (s.bind slot id).errors := by
  rcases s.bind_cases slot id with h | ⟨-, h⟩
  · rw [h]
    exact errors_raise ..
  · rw [h, errors_place]

theorem errors_alterShader (s : Sim) (id : Id) (f : ShaderState → ShaderState) :
    s.errors <+: (s.alterShader id f).errors := by
  unfold alterShader
  split
  · exact List.prefix_rfl
  · exact errors_raise ..

theorem errors_answerOr {α : Type} (s : Sim) (v? : Option α) (code : Enumerant) (d : α) :
    s.errors <+: (s.answerOr v? code d).2.errors := by
  cases v? with
  | none => exact errors_raise ..
  | some _ => exact List.prefix_rfl

theorem errors_receive (s : Sim) (q : Request) : (s.receive q).errors = s.errors := by
  unfold receive
  split
  · rfl
  · split <;> rfl

/-- But for the one that takes an error, requests leave the queue as it is or add to its end. -/
theorem errors_execute (s : Sim) {q : Request} (h : q ≠ .getError) :
    s.errors <+: (execute q s).2.errors := by
  cases q with
  | getError => exact absurd rfl h
  | genObjects kind slots =>
      simp only [execute]
      split
      · exact List.prefix_rfl
      · rw [errors_genMany]
  | createShader stage => exact (errors_createShader s stage).symm ▸ List.prefix_rfl
  | createProgram => exact (errors_createProgram s).symm ▸ List.prefix_rfl
  | deleteObjects kind ids => exact (errors_deleteMany s kind ids).symm ▸ List.prefix_rfl
  | deleteShader id => exact (errors_delete s .shader id).symm ▸ List.prefix_rfl
  | deleteProgram id => exact (errors_delete s .program id).symm ▸ List.prefix_rfl
  | bind slot id => exact errors_bind s slot id
  | bufferData | texImage | texParameter | generateMipmap | renderbufferStorage
  | framebufferRenderbuffer | framebufferTexture | enableVertexAttribute | vertexAttributePointer
  | dispatchCompute | drawArrays | drawElements => exact errors_refused rfl
  | bufferSubData =>
      simp only [execute, bufferSubData]
      split
      · exact errors_raise ..
      · split
        · exact List.prefix_rfl
        · exact errors_raise ..
  | readPixels =>
      simp only [execute, readPixels]
      split
      · exact List.prefix_rfl
      · split <;> exact List.prefix_rfl
  | shaderSource | compileShader => exact errors_alterShader ..
  | attachShader =>
      simp only [execute, attachShader]
      split
      · exact errors_raise ..
      · split
        · exact errors_raise ..
        · exact errors_refused rfl
  | detachShader =>
      simp only [execute, detachShader]
      split
      · exact errors_raise ..
      · split
        · exact List.prefix_rfl
        · exact errors_raise ..
  | linkProgram =>
      simp only [execute, link]
      split
      · exact errors_raise ..
      · exact List.prefix_rfl
  | bindAttributeLocation =>
      simp only [execute, bindAttributeLocation]
      split
      · exact errors_raise ..
      · exact List.prefix_rfl
  | uniform =>
      simp only [execute, setUniform]
      split
      · exact errors_raise ..
      · split <;> exact List.prefix_rfl
  | programParameter | activeUniform | activeAttribute => exact errors_answerOr ..
  | _ => exact List.prefix_rfl

theorem errors_serve (s : Sim) {q : Request} (h : q ≠ .getError) :
    s.errors <+: (s.serve q).errors :=
  errors_receive s q ▸ errors_execute (s.receive q) h

end Sim

/-! ## The driver observed -/

namespace Request

/-- A request with the answer to it. -/
abbrev Exchange : Type := (q : Request) × q.Answer

/-- The code that was taken out of the queue, or 0 if there was none to take. -/
def Exchange.code? : Exchange → Option Enumerant
  | ⟨.getError, code⟩ => some code
  | _ => none

theorem Exchange.code?_eq_none {x : Exchange} (h : x.1 ≠ .getError) : x.code? = none := by
  obtain ⟨q, a⟩ := x
  cases q with
  | getError => exact absurd rfl h
  | _ => rfl

end Request

open Request

/-- A driver in memory. What it is asked is written down with the answers, and the error codes that
enter its queue. -/
structure Observed where
  sim : Sim
  exchanges : List Exchange := []
  entered : List Enumerant := sim.errors

namespace Observed

/-- The driver in memory is in another state. Codes in the queue behind those that there were have
entered it. -/
def become (d : Observed) (s : Sim) : Observed :=
  { d with sim := s, entered := d.entered ++ s.errors.drop d.sim.errors.length }

def adjust (d : Observed) (a : Adjustment) : Observed := d.become (a.apply d.sim)

instance : Driver Observed where
  perform q d :=
    let reply := Driver.perform q d.sim
    { answer := reply.answer
      driver := { d.become reply.driver with exchanges := d.exchanges ++ [⟨q, reply.answer⟩] }
      events := reply.events }

/-- The codes of errors; the code 0 is none. -/
def ofErrors (codes : List Enumerant) : List Enumerant := codes.filter (· ≠ Enumerant.noError)

/-- The codes that were taken out of the queue. -/
def taken (xs : List Exchange) : List Enumerant := ofErrors (xs.filterMap Exchange.code?)

/-- What entered the queue was taken out of it, and what was not is still in the queue. -/
def Balanced (d : Observed) : Prop :=
  ofErrors d.entered = taken d.exchanges ++ ofErrors d.sim.errors

variable {d : Observed} {s : Sim}

theorem ofErrors_append (cs cs' : List Enumerant) :
    ofErrors (cs ++ cs') = ofErrors cs ++ ofErrors cs' :=
  List.filter_append ..

theorem taken_concat (xs : List Exchange) (x : Exchange) :
    taken (xs ++ [x]) = taken xs ++ ofErrors x.code?.toList := by
  rw [taken, List.filterMap_append, ofErrors_append]
  cases hx : x.code? <;> simp [hx, taken]

theorem Balanced.start (s : Sim) : ({ sim := s } : Observed).Balanced := rfl

/-- Codes may enter the queue at any time. -/
theorem Balanced.become (h : d.Balanced) (he : d.sim.errors <+: s.errors) :
    (d.become s).Balanced := by
  obtain ⟨new, hnew⟩ := he
  change ofErrors (d.entered ++ s.errors.drop d.sim.errors.length) =
    taken d.exchanges ++ ofErrors s.errors
  rw [← hnew, List.drop_left, ofErrors_append, ofErrors_append, h, List.append_assoc]

theorem Balanced.adjust (h : d.Balanced) (a : Adjustment) : (d.adjust a).Balanced := by
  refine h.become ?_
  cases a with
  | raise code => exact Sim.errors_raise ..
  | _ => exact List.prefix_rfl

/-- What a request takes out of the queue is the oldest code, and only one request takes any. -/
theorem Balanced.perform (h : d.Balanced) (q : Request) : (Driver.perform q d).driver.Balanced := by
  by_cases hq : q = .getError
  · subst hq
    have hnone : d.sim.takeError.2.errors.drop d.sim.errors.length = [] := by
      unfold Sim.takeError
      split <;> simp [*]
    have hcodes : ofErrors [d.sim.takeError.1] ++ ofErrors d.sim.takeError.2.errors =
        ofErrors d.sim.errors := by
      unfold Sim.takeError
      split
      · rename_i hnil
        rw [hnil]
        rfl
      · rename_i e es hcons
        rw [hcons]
        exact (ofErrors_append [e] es).symm
    change ofErrors (d.entered ++ d.sim.takeError.2.errors.drop d.sim.errors.length) =
      taken (d.exchanges ++ [⟨.getError, d.sim.takeError.1⟩]) ++ ofErrors d.sim.takeError.2.errors
    rw [hnone, List.append_nil, taken_concat, List.append_assoc, h]
    exact congrArg (taken d.exchanges ++ ·) hcodes.symm
  · have hserved : (d.become (d.sim.serve q)).Balanced := h.become (d.sim.errors_serve hq)
    have htaken : taken (d.exchanges ++ [⟨q, (Driver.perform q d.sim).answer⟩]) =
        taken d.exchanges := by
      rw [taken_concat, Exchange.code?_eq_none hq]
      exact List.append_nil _
    exact hserved.trans (congrArg (· ++ _) htaken.symm)

end Observed

end GraphicsObjects
