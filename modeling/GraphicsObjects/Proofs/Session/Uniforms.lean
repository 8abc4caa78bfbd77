import GraphicsObjects.Proofs.Object.Uniforms
import GraphicsObjects.Proofs.Session.Programs
import GraphicsObjects.Proofs.Session.Refusals
import GraphicsObjects.Proofs.Session.Requests

/-!
# Uniforms by position and by name

A program tells how many uniforms are active, which one has an index and which index has a name.
These answers fit together, whatever was linked and in whatever order one asks. A value that is set
by name is kept where the name is located, and a name without a location sends nothing.
-/

namespace GraphicsObjects

open Ownership ContextM SessionM Sim Simulation

/-- The questions about active uniforms. -/
def ProgramOp.AsksUniform : ProgramOp → Prop
  | uniformCount | uniformInfo _ | uniformLocation _ => True
  | _ => False

/-- A question leaves every program as it was. -/
theorem Program.run_of_asksUniform {c : Context Sim} {id : Id} {ps : ProgramState} (p : Program)
    {op : ProgramOp} (ha : op.AsksUniform) (h : c.driver.programs.get? id = some ps) :
    (op.run id p c).1.2 = p ∧ (op.run id p c).2.driver.programs = c.driver.programs := by
  cases op with
  | uniformCount =>
      simp only [ProgramOp.run, bind_apply, uniformCount_eq h]
      exact ⟨rfl, programs_parameter ..⟩
  | uniformInfo index =>
      simp only [ProgramOp.run, bind_apply, uniformInfo_eq h]
      exact ⟨rfl, programs_parameter ..⟩
  | uniformLocation name =>
      simp only [ProgramOp.run, bind_apply, uniformLocation_eq h]
      exact ⟨rfl, rfl⟩
  | _ => exact ha.elim

namespace Session

variable {config : Config} {s s' : Session Sim} {name : String} {p : Found Program}
variable {ps : ProgramState}

/-- Questions about the active uniforms of a program are asked, any number of them. -/
def Asked (name : String) : Session Sim → Session Sim → Prop :=
  Relation.ReflTransGen fun s s' => ∃ (op : ProgramOp) (answer : op.Answer),
    op.AsksUniform ∧ s.step (.program name op) = some (answer, s')

theorem step_program (hp : s.find? Payload.program? name = some p) (hc : p.context = 0)
    (op : ProgramOp) {answer : op.Answer} {known : Program} {c : Context Sim}
    (hrun : op.run p.id p.known (s.enter 0) = ((answer, known), c)) :
    ∃ s', s.step (.program name op) = some (answer, s') ∧ s'.driver = c.driver := by
  have hstep : s.step (.program name op) = some (answer,
      (SessionM.setPayload p.ref (.program known) (s.leave 0 c)).2) := by
    refine (onObject_of_find? hp).trans ?_
    simp only [inContext, hc, hrun]
  exact ⟨_, hstep, rfl⟩

/-- What a careful client has of a program: it finds it, and the driver has it. -/
structure Holds (config : Config) (name : String) (p : Found Program) (ps : ProgramState)
    (s : Session Sim) : Prop where
  reachable : Reachable Careful config s
  found : s.find? Payload.program? name = some p
  state : s.driver.programs.get? p.id = some ps

namespace Holds

theorem context (h : s.Holds config name p ps) : p.context = 0 := by
  obtain ⟨-, hhas⟩ := has_of_find? Payload.reads_program h.found
  exact h.reachable.inv.sound.context_eq hhas

/-- A question leaves the program as it is. -/
theorem asked_once (h : s.Holds config name p ps) {op : ProgramOp} {answer : op.Answer}
    (ha : op.AsksUniform) (hs : s.step (.program name op) = some (answer, s')) :
    s'.Holds config name p ps ∧ s'.driver.programs = s.driver.programs := by
  have hreached := h.reachable.step hs ⟨trivial, nofun⟩
  obtain ⟨f, hf, -, rfl⟩ := onObject_eq hs
  cases h.found.symm.trans hf
  obtain ⟨hknown, hprograms⟩ :=
    p.known.run_of_asksUniform (c := s.enter p.context) ha h.state
  rw [hknown] at hreached ⊢
  have hleave := setPayload_leave Payload.reads_program hf
    (op.run p.id p.known (s.enter p.context)).2
  have hfound := congrArg (fun s₁ : Session Sim => s₁.find? Payload.program? name) hleave
  exact ⟨⟨hreached, hfound.trans h.found, (congrArg (·.get? p.id) hprograms).trans h.state⟩,
    hprograms⟩

theorem asked (h : s.Holds config name p ps) (ha : Asked name s s') :
    s'.Holds config name p ps ∧ s'.driver.programs = s.driver.programs := by
  induction ha with
  | refl => exact ⟨h, rfl⟩
  | tail _ hstep ih =>
      obtain ⟨op, answer, hop, hs⟩ := hstep
      obtain ⟨hheld, hsame⟩ := ih.1.asked_once hop hs
      exact ⟨hheld, hsame.trans ih.2⟩

/-- What the program tells is read off the list of its active uniforms. -/
theorem tells (h : s.Holds config name p ps) :
    (∃ s', s.step (.program name .uniformCount) = some (ps.uniforms.length, s')) ∧
      (∀ i, ∃ s', s.step (.program name (.uniformInfo i)) = some (ps.uniforms[i]?, s')) ∧
      ∀ x, ∃ s', s.step (.program name (.uniformLocation x)) =
        some ((ps.position? x).map Int.ofNat, s') := by
  have hstate : (s.enter 0).driver.programs.get? p.id = some ps := h.state
  refine ⟨?_, fun i => ?_, fun x => ?_⟩
  · obtain ⟨s', hs, -⟩ := step_program h.found h.context .uniformCount
      (by simp only [ProgramOp.run, bind_apply, Program.uniformCount_eq hstate]; rfl)
    exact ⟨s', hs⟩
  · obtain ⟨s', hs, -⟩ := step_program h.found h.context (.uniformInfo i)
      (by simp only [ProgramOp.run, bind_apply, Program.uniformInfo_eq hstate]; rfl)
    exact ⟨s', hs⟩
  · obtain ⟨s', hs, -⟩ := step_program h.found h.context (.uniformLocation x)
      (by simp only [ProgramOp.run, bind_apply, Program.uniformLocation_eq hstate]; rfl)
    exact ⟨s', hs⟩

/-- A value that is set by name is set where the name is located; otherwise the driver does not hear
of it. -/
theorem set (h : s.Holds config name p ps) (x : String) (value : UniformValue) :
    ∃ s', s.step (.program name (.setUniform x value)) = some ((ps.position? x).isSome, s') ∧
      (ps.position? x = none → s'.driver = s.driver) ∧
      ∀ l : Nat, ps.position? x = some l → ∀ q k, s'.driver.uniformValue? q k =
        if q = p.id ∧ k = l then some value else s.driver.uniformValue? q k := by
  have hs := h.reachable.inv.sound
  obtain ⟨-, hhas⟩ := has_of_find? Payload.reads_program h.found
  have hstate : (s.enter 0).driver.programs.get? p.id = some ps := h.state
  cases hl : ps.position? x with
  | none =>
      have hrun := Program.setUniform_of_none hstate hl value
      obtain ⟨s', hstep, hdriver⟩ := step_program h.found h.context
        (.setUniform x value) (by simp only [ProgramOp.run, bind_apply, hrun]; rfl)
      exact ⟨s', hstep, fun _ => hdriver, by simp⟩
  | some l =>
      have hrun := Program.setUniform_of_some hstate hl value
      obtain ⟨s', hstep, hdriver⟩ := step_program h.found h.context
        (.setUniform x value) (by simp only [ProgramOp.run, bind_apply, hrun]; rfl)
      refine ⟨s', hstep, by simp, fun l' hl' q k => ?_⟩
      cases hl'
      rw [hdriver]
      exact Program.uniformValue?_setUniformAt hs.ready (hs.admits hhas rfl)
        (hs.id_ne_zero hhas (by simp [Payload.kind])) (Int.natCast_nonneg l) value q k

end Holds

/-- In every state that a careful client reaches, and for every program: it tells of a uniform just
if the index is below their number; it locates the name of that uniform at this index, and wherever
it locates a name is a uniform of the name. However many questions were asked before, a value that
is set by name is kept just if the name is located, there and nowhere else; otherwise nothing is
sent to the driver. -/
theorem uniforms_are_found_by_name (h : Reachable Careful config s)
    (hp : s.find? Payload.program? name = some p) :
    ∃ (count : Nat) (info : Nat → Option ActiveVariable) (location : String → Option Int),
      (∀ i, (info i).isSome ↔ i < count) ∧
      (∀ i v, info i = some v → location v.name = some (i : Int)) ∧
      (∀ x l, location x = some l → ∃ (i : Nat) (v : ActiveVariable),
        l = i ∧ info i = some v ∧ v.name = x) ∧
      ∀ s₁, Asked name s s₁ →
        (∃ s', s₁.step (.program name .uniformCount) = some (count, s')) ∧
        (∀ i, ∃ s', s₁.step (.program name (.uniformInfo i)) = some (info i, s')) ∧
        (∀ x, ∃ s', s₁.step (.program name (.uniformLocation x)) = some (location x, s')) ∧
        ∀ x value, ∃ s',
          s₁.step (.program name (.setUniform x value)) = some ((location x).isSome, s') ∧
          (location x = none → s'.driver = s₁.driver) ∧
          ∀ l, location x = some l → ∀ q k, s'.driver.uniformValue? q k =
            if q = p.id ∧ k = l then some value else s₁.driver.uniformValue? q k := by
  obtain ⟨last, hm⟩ := h.mirrored
  obtain ⟨-, hhas⟩ := has_of_find? Payload.reads_program hp
  obtain ⟨ps, hps, -, -⟩ := hm.programState h.inv.sound hhas
  obtain ⟨is, his⟩ := h.after
  have hnodup : (ps.uniforms.map (·.name)).Nodup := nodup_uniforms (his ▸ hps)
  refine ⟨ps.uniforms.length, (ps.uniforms[·]?), fun x => (ps.position? x).map Int.ofNat,
    fun i => ?_, fun i v hv => ?_, fun x l hl => ?_, fun s₁ hasked => ?_⟩
  · simp
  · dsimp only
    rw [(ProgramState.position?_eq_some_iff hnodup).mpr ⟨v, hv, rfl⟩]
    rfl
  · obtain ⟨i, hi, rfl⟩ := Option.map_eq_some_iff.mp hl
    obtain ⟨v, hv, hname⟩ := (ProgramState.position?_eq_some_iff hnodup).mp hi
    exact ⟨i, v, rfl, hv, hname⟩
  · obtain ⟨hholds, -⟩ := Holds.asked ⟨h, hp, hps⟩ hasked
    obtain ⟨hcount, hinfo, hlocation⟩ := hholds.tells
    refine ⟨hcount, hinfo, hlocation, fun x value => ?_⟩
    obtain ⟨s', hs, hnone, hsome⟩ := hholds.set x value
    refine ⟨s', ?_, fun hl => hnone (Option.map_eq_none_iff.mp hl), fun l hl => ?_⟩
    · rw [Option.isSome_map]
      exact hs
    · obtain ⟨i, hi, rfl⟩ := Option.map_eq_some_iff.mp hl
      exact hsome i hi

/-- A program of two shaders that declare the same uniform, one of them twice, after it was linked
with one of them only; the source of the other was replaced after it was compiled. -/
def relinkedProgram : Option (Session Sim) :=
  (start .fresh {}).perform Careful
    [.create "v" 0 (.shader .vertex),
      .shader "v" (.setSource "uniform vec2 a;\nuniform float b;\nuniform float a;"),
      .create "f" 0 (.shader .fragment), .create "p" 0 .program, .attachShader "p" "v",
      .program "p" .link, .shader "f" (.setSource "uniform float a;"), .attachShader "p" "f",
      .shader "f" (.setSource "uniform mat4 c[3];\nuniform float b;"), .program "p" .link]

theorem relinkedProgram_is_set : ∃ s p v s₁ s₂ s₃, relinkedProgram = some s ∧
    s.find? Payload.program? "p" = some p ∧
    s.step (.program "p" (.uniformInfo 2)) = some (some v, s₁) ∧ v.name = "c" ∧
    s.step (.program "p" (.setUniform "c" (.int 1))) = some (true, s₂) ∧
    (∀ q k, s₂.driver.uniformValue? q k =
      if q = p.id ∧ k = 2 then some (.int 1) else s.driver.uniformValue? q k) ∧
    s.step (.program "p" (.setUniform "x" (.int 1))) = some (false, s₃) ∧
    s₃.driver = s.driver := by
  have hfound : relinkedProgram.map (fun s => ((s.find? Payload.program? "p").isSome,
      (s.step (.program "p" (.uniformLocation "c"))).map (·.1),
      (s.step (.program "p" (.uniformLocation "x"))).map (·.1))) =
        some (true, some (some 2), some none) := by decide +kernel
  obtain ⟨s, hs, he⟩ := Option.map_eq_some_iff.mp hfound
  obtain ⟨hp, hlocated⟩ := Prod.mk.inj he
  obtain ⟨p, hp⟩ := Option.isSome_iff_exists.mp hp
  obtain ⟨count, info, location, -, -, hname, hasked⟩ :=
    uniforms_are_found_by_name (Reachable.start.perform hs) hp
  obtain ⟨-, hinfo, hlocation, hset⟩ := hasked s .refl
  have htold (x : String) (l : Option Int)
      (h : (s.step (.program "p" (.uniformLocation x))).map (·.1) = some l) : location x = l := by
    obtain ⟨s', hstep⟩ := hlocation x
    rw [hstep] at h
    exact Option.some.inj h
  have hc := htold "c" (some 2) (congrArg Prod.fst hlocated)
  have hx := htold "x" none (congrArg Prod.snd hlocated)
  obtain ⟨i, v, hi, hv, hvname⟩ := hname "c" 2 hc
  obtain rfl : i = 2 := by omega
  obtain ⟨s₁, hs₁⟩ := hinfo 2
  obtain ⟨s₂, hs₂, -, hkept⟩ := hset "c" (.int 1)
  obtain ⟨s₃, hs₃, hsame, -⟩ := hset "x" (.int 1)
  rw [hv] at hs₁
  rw [hc] at hs₂
  rw [hx] at hs₃
  exact ⟨s, p, v, s₁, s₂, s₃, hs, hp, hs₁, hvname, hs₂, hkept 2 hc, hs₃, hsame hx⟩

end Session

end GraphicsObjects
