import GraphicsObjects.Proofs.Object.Buffers
import GraphicsObjects.Proofs.Object.Ties
import GraphicsObjects.Proofs.Simulation.AttributeLocations

/-!
# Linked programs

A link that succeeds finds every attached shader compiled. But the driver counts a shader as
compiled until it is compiled again: a source that was set in between is linked as it stands. The
attributes of the program are where the link put them, until it is linked again.
-/

namespace GraphicsObjects

open ContextM Sim Simulation

variable {c : Context Sim} {is ks : List Input} {id : Id} {ps : ProgramState}

theorem ContextM.programs_command (q : Request) (site : Site) (c : Context Sim) :
    (command q site c).2.driver.programs = (c.driver.serve q).programs := by
  rw [driver_command]
  split <;> rfl

namespace Program

theorem programs_link (p : Program) (id : Id) (c : Context Sim) :
    (p.link id c).2.driver.programs.get? id =
      (c.driver.programs.get? id).map c.driver.linkedState := by
  rw [driver_link, programs_command]
  exact Sim.programs_link ..

theorem linked_link_of_some (p : Program) (hps : c.driver.programs.get? id = some ps) :
    (p.link id c).1.linked = (c.driver.linkedState ps).linked := by
  have hafter := (programs_link p id c).trans (congrArg _ hps)
  rw [linked_link, programStatus, programState_of_get? hafter]

/-- A link that is told to have succeeded is one of a program that can be linked. -/
theorem linkable_of_linked {p : Program} (hl : (p.link id c).1.linked = true) :
    ∃ ps, c.driver.programs.get? id = some ps ∧ c.driver.Linkable ps ∧
      (p.link id c).2.driver.programs.get? id = some (c.driver.linkedState ps) := by
  cases hps : c.driver.programs.get? id with
  | none =>
      rw [linked_link, programStatus, programState, Table.getD, programs_link, hps] at hl
      cases hl
  | some ps =>
      rw [linked_link_of_some p hps, linked_linkedState_iff] at hl
      exact ⟨ps, rfl, hl, (programs_link p id c).trans (congrArg _ hps)⟩

/-- When a link succeeds after any run of the driver, every attached shader was last compiled from a
text without errors, and the active variables are those that the sources declare which the shaders
have by then: those of the texts that were compiled where each shader still has the source that it
was compiled from. -/
theorem link_reads_stored_sources (p : Program) (hc : c.driver = after is)
    (hl : (p.link id c).1.linked = true) :
    ∃ ps ps', (after is).programs.get? id = some ps ∧
      (p.link id c).2.driver.programs.get? id = some ps' ∧
      ps'.attached = ps.attached ∧ ps.attached ≠ [] ∧
      (∀ x ∈ ps.attached, ∃ text, compiledText is x = some text ∧ sourceError? text = none) ∧
      ps'.uniforms = declaredUniforms ((after is).attachedShaders ps) ∧
      (ps'.uniforms.map (·.name)).Nodup ∧
      ps'.attributes = declaredAttributes ((after is).attachedShaders ps) ∧
      ((∀ x ∈ ps.attached, ((after is).shaders.get? x).map (·.source) = compiledText is x) →
        ps'.uniforms = declaredUniforms (compiledShaders is ps) ∧
          ps'.attributes = declaredAttributes (compiledShaders is ps)) := by
  obtain ⟨ps, hps, hlinkable, hps'⟩ := linkable_of_linked hl
  rw [hc] at hps hlinkable hps'
  rw [linkedState_of_linkable hlinkable] at hps'
  refine ⟨ps, _, hps, hps', rfl, hlinkable.1, fun x hx => hlinkable.compiledText hx, rfl,
    nodup_distinctByName _, rfl, fun hsame => ?_⟩
  rw [compiledShaders_eq hsame]
  exact ⟨rfl, rfl⟩

/-- A shader is compiled and attached to a program. -/
def attaching : List Input :=
  [.request (.createShader .vertex), .request (.shaderSource 1 "uniform float a;"),
    .request (.compileShader 1), .request .createProgram, .request (.attachShader 2 1)]

theorem attaching_linked : (Program.link {} 2 (.new (after attaching) {})).1.linked = true ∧
    ∃ ps ps', (after attaching).programs.get? 2 = some ps ∧
      (Program.link {} 2 (.new (after attaching) {})).2.driver.programs.get? 2 = some ps' ∧
      ps'.uniforms = declaredUniforms (compiledShaders attaching ps) := by
  have hl : (Program.link {} 2 (.new (after attaching) {})).1.linked = true := by decide +kernel
  obtain ⟨ps, ps', hps, hps', -, -, -, -, -, -, hsame⟩ := link_reads_stored_sources {} rfl hl
  refine ⟨hl, ps, ps', hps, hps', (hsame ?_).1⟩
  have hattached : ((after attaching).programs.get? 2).map (·.attached) = some [1] := by
    decide +kernel
  rw [hps, Option.map_some, Option.some.injEq] at hattached
  rw [hattached]
  decide +kernel

/-- The context after the source of the shader was replaced. -/
def rewritten : Context Sim :=
  (Shader.setSource { stage := .vertex, compiled := true } 1 "uniform float b;"
    (.new (after attaching) { checkErrors := false })).2

/-- The program is linked, with the uniform of a source that never was compiled. -/
theorem rewritten_linked : ∃ is, rewritten.driver = after is ∧
    compiledText is 1 = some "uniform float a;" ∧ (Program.link {} 2 rewritten).1.linked = true ∧
    ((Program.link {} 2 rewritten).2.driver.programs.get? 2).map (·.attached) = some [1] ∧
    ((Program.link {} 2 rewritten).2.driver.programs.get? 2).map (·.uniforms) =
      some (declarations "uniform" "uniform float b;") ∧
    declarations "uniform" "uniform float b;" ≠ declarations "uniform" "uniform float a;" :=
  ⟨attaching ++ [.request (.shaderSource 1 "uniform float b;")], rfl, by decide +kernel,
    by decide +kernel, by decide +kernel, by decide +kernel, by decide +kernel⟩

/-! ## Attribute locations -/

/-- What a program tells is what the driver has, as far as a signed number can tell it. -/
theorem attributeLocation_eq (name : String) (hps : c.driver.programs.get? id = some ps)
    (hl : ∀ l, ps.locations.get? name = some l → l < 2 ^ 31) :
    (attributeLocation id name c).1 = ps.locations.get? name := by
  have hanswer : (attributeLocation id name c).1 =
      if c.driver.attributeLocation id name < 0 then none
      else some (c.driver.attributeLocation id name).toNat := rfl
  rw [hanswer, Sim.attributeLocation, programState_of_get? hps]
  cases hloc : ps.locations.get? name with
  | none => rfl
  | some l =>
      have hsigned : signed32 l = l := by
        have hlt := hl l hloc
        exact Int.bmod_eq_of_le (by omega) (by omega)
      rw [Option.elim_some, hsigned, if_neg (by omega), Int.toNat_natCast]

/-- A link of a live program ends, after any run of the driver. If it succeeds, the attributes are
where names were bound last, and the others take the numbers that are left; if not, no name has a
location. That holds up to the next link, and the program tells it. -/
theorem attribute_locations_of_link (hlive : (.program, id) ∈ (after is).live)
    (hks : ∀ k ∈ ks, k ≠ .request (.linkProgram id) ∧ ¬ k.Deletes (.program, id))
    (hc : c.driver = after (is ++ .request (.linkProgram id) :: ks)) :
    ∃ ps ps', (after is).programs.get? id = some ps ∧ c.driver.programs.get? id = some ps' ∧
      (∀ name l, ps.boundLocations.get? name = some l ↔ GivenIndex is id name l) ∧
      (∀ p c₀, c₀.driver = after is → (link p id c₀).1.linked = ps'.linked) ∧
      (∀ name, (∀ l, ps'.locations.get? name = some l → l < 2 ^ 31) →
        (attributeLocation id name c).1 = ps'.locations.get? name) ∧
      (ps'.linked = true →
        ps'.attributes = declaredAttributes ((after is).attachedShaders ps) ∧
          Assigns ps.boundLocations ps'.attributes 0 .empty ps'.locations ∧
          Located ps.boundLocations ps'.attributes ps'.locations) ∧
      (ps'.linked = false → ∀ name, (attributeLocation id name c).1 = none) := by
  obtain ⟨ps, hps⟩ := exists_program hlive
  obtain ⟨ps', hps', hlinkage⟩ := linkage_of_link hlive hps hks
  rw [← hc] at hps'
  obtain ⟨hlinked, -, hattributes, hlocations⟩ := by
    simpa only [ProgramState.linkage, Prod.mk.injEq] using hlinkage
  have hread (name : String) := attributeLocation_eq name hps'
  refine ⟨ps, ps', hps, hps', fun name l => boundLocations_iff hlive hps, fun p c₀ hc₀ => ?_, hread,
    fun hl => ?_, fun hl name => ?_⟩
  · rw [← hc₀] at hps hlinked
    exact (linked_link_of_some p hps).trans hlinked.symm
  · rw [hlinked, linked_linkedState_iff] at hl
    rw [linkedState_of_linkable hl] at hattributes hlocations
    have hassigns : Assigns ps.boundLocations ps'.attributes 0 .empty ps'.locations := by
      rw [hattributes, hlocations]
      exact assigns_assignLocations ..
    exact ⟨hattributes, hassigns, hassigns.located⟩
  · have hnot : ¬ (after is).Linkable ps := by
      rw [← linked_linkedState_iff, ← hlinked, hl]
      exact Bool.false_ne_true
    rw [locations_of_not_linkable hnot] at hlocations
    rw [hread name (by rw [hlocations]; exact nofun), hlocations]
    rfl

/-- A vertex shader with four attributes is attached to a program; names are bound to two indices,
one of them twice, and one that is no attribute. -/
def binding : List Input :=
  [.request (.createShader .vertex),
    .request (.shaderSource 1 "in vec2 a;\nin vec2 b;\nin float c;\nin float a;"),
    .request (.compileShader 1), .request .createProgram, .request (.attachShader 2 1),
    .request (.bindAttributeLocation 2 7 "b"), .request (.bindAttributeLocation 2 1 "x"),
    .request (.bindAttributeLocation 2 0 "b")]

/-- After the link another name is bound. -/
def rebinding : Context Sim :=
  .new (after (binding ++
    [.request (.linkProgram 2), .request (.bindAttributeLocation 2 5 "c")])) {}

theorem rebinding_located : (.program, 2) ∈ (after binding).live ∧
    (attributeLocation 2 "b" rebinding).1 = some 0 ∧
    (attributeLocation 2 "a" rebinding).1 = some 4 ∧
    (attributeLocation 2 "x" rebinding).1 = none := by
  have hlive : (.program, 2) ∈ (after binding).live := by decide +kernel
  obtain ⟨ps, ps', hps, hps', -, -, hread, hlocated, -⟩ :=
    attribute_locations_of_link (c := rebinding) hlive (by decide +kernel) rfl
  obtain rfl := programState_of_get? hps
  obtain rfl := programState_of_get? hps'
  obtain ⟨-, -, h⟩ := hlocated (by decide +kernel)
  have hb := h.bound ⟨"b", Enumerant.floatVec2, 1⟩ (by decide +kernel) 0 (by decide +kernel)
  have hnth : Nat.nth (IsFree ((after binding).programState 2).boundLocations) 2 = 4 :=
    (congrArg _ (by decide +kernel)).trans (Nat.nth_count (n := 4) (by decide +kernel))
  have ha := h.counted [⟨"a", Enumerant.floatVec2, 1⟩, ⟨"c", Enumerant.float, 1⟩]
    ⟨"a", Enumerant.float, 1⟩ [] (by decide +kernel) List.not_mem_nil
  have hx := h.inactive "x" (by decide +kernel)
  rw [List.length_cons, List.length_singleton, hnth] at ha
  refine ⟨hlive, ?_, ?_, ?_⟩
  · rw [hread "b" (by simp [hb]), hb]
  · rw [hread "a" (by simp [ha]), ha]
  · rw [hread "x" (by simp [hx]), hx]

end Program

end GraphicsObjects
