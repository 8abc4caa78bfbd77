import GraphicsObjects.Proofs.Object.Programs

/-!
# Uniforms

However a program came to be linked, its active uniforms have different names: a link leaves out
declarations whose names came before. So the location of a uniform, which is its position among the
active ones, and its name determine each other; and a value is kept for the location at which it was
set, and for no other.
-/

namespace GraphicsObjects

open ContextM Sim Simulation

variable {live : List (Kind × Id)} {c c' : Context Sim} {id : Id} {ps : ProgramState}

/-! ## Names -/

/-- The position of the uniform of a name among the active ones. -/
def Simulation.ProgramState.position? (ps : ProgramState) (name : String) : Option Nat :=
  ps.uniforms.findIdx? (·.name = name)

/-- Among uniforms with different names, the one that is found by its name is the one that has
it. -/
theorem Simulation.ProgramState.position?_eq_some_iff (h : (ps.uniforms.map (·.name)).Nodup)
    {name : String} {l : Nat} :
    ps.position? name = some l ↔ ∃ v, ps.uniforms[l]? = some v ∧ v.name = name := by
  simp only [position?, List.findIdx?_eq_some_iff_getElem, decide_eq_true_eq,
    List.getElem?_eq_some_iff]
  constructor
  · rintro ⟨hl, hname, -⟩
    exact ⟨ps.uniforms[l], ⟨hl, rfl⟩, hname⟩
  · rintro ⟨_, ⟨hl, rfl⟩, hname⟩
    refine ⟨hl, hname, fun j hj hsame => ?_⟩
    have hne := List.nodup_iff_getElem?_ne_getElem?.mp h j l hj (by simpa using hl)
    simp [List.getElem?_eq_getElem hl, List.getElem?_eq_getElem (hj.trans hl), hsame, hname] at hne

theorem Simulation.ProgramState.nodup_link (ps : ProgramState) (log : String)
    (shaders : List ShaderState) : ((ps.link log shaders).uniforms.map (·.name)).Nodup := by
  unfold link
  split
  · exact nodup_distinctByName _
  · exact List.nodup_nil

/-- After any run of the driver the active uniforms of a program have different names. -/
theorem Sim.nodup_uniforms {is : List Input} (h : (after is).programs.get? id = some ps) :
    (ps.uniforms.map (·.name)).Nodup := by
  induction is using List.reverseRecOn generalizing ps with
  | nil => cases h
  | append_singleton is i ih =>
      rw [after_concat] at h
      rcases program_take (.after is) (.after is) h with ⟨-, -, rfl⟩ | ⟨ps₀, hps₀, hstep⟩
      · exact List.nodup_nil
      · have hold := ih hps₀
        cases hstep with
        | link => exact ps₀.nodup_link ..
        | bindLocation | rest => exact hold

/-! ## Values -/

theorem Sim.uniformValue?_setUniform {s : Sim} (hb : s.bound .program = id) (hz : id ≠ 0) {l : Int}
    (hl : 0 ≤ l) (value : UniformValue) (q : Id) (k : Int) :
    (s.setUniform l value).uniformValue? q k =
      if q = id ∧ k = l then some value else s.uniformValue? q k := by
  simp only [setUniform, hb, if_neg hz, if_neg hl.not_gt, uniformValue?, programState, setProgram,
    Table.getD_insert]
  by_cases hq : q = id
  · subst hq
    simp only [if_true, Table.get?_insert, true_and]
  · simp only [hq, false_and, if_false]

theorem Context.Rebound.program (h : c.Rebound live c') (i : Id) :
    c'.driver.programState i = c.driver.programState i := by
  have hsame := ObjectState.program.inj (h.kept.others .program i not_false)
  rw [programState, Table.getD, hsame]
  rfl

/-! ## Operations -/

namespace Program

theorem programs_parameter (id : Id) (parameter : Enumerant) (c : Context Sim) :
    (Program.parameter id parameter c).2.driver.programs = c.driver.programs := by
  have hanswer : (execute (.programParameter id parameter) c.driver).2.programs =
      c.driver.programs := by
    change (c.driver.answerOr _ _ _).2.programs = _
    unfold answerOr
    split <;> rfl
  exact (programs_command (.programParameter id parameter) _ c).trans hanswer

theorem uniformCount_eq (h : c.driver.programs.get? id = some ps) :
    uniformCount id c =
      (ps.uniforms.length, (Program.parameter id Enumerant.activeUniforms c).2) := by
  have hanswer : (Program.parameter id Enumerant.activeUniforms c).1 = ps.uniforms.length := by
    change (c.driver.programParameter id Enumerant.activeUniforms).1 = _
    rw [programParameter, programParameter?, h]
    rfl
  simp only [uniformCount, bind_apply, hanswer]
  rfl

theorem uniformLocation_eq (h : c.driver.programs.get? id = some ps) (name : String) :
    uniformLocation id name c = ((ps.position? name).map Int.ofNat, c) := by
  have hanswer : uniformLocation id name c =
      (if c.driver.uniformLocation id name < 0 then none
        else some (c.driver.uniformLocation id name), { c with trace := c.trace ++ [] }) := rfl
  rw [hanswer, List.append_nil, Sim.uniformLocation, programState_of_get? h, ProgramState.position?]
  cases ps.uniforms.findIdx? (·.name = name) with
  | none => rfl
  | some l => exact congrArg (·, c) (if_neg (Int.natCast_nonneg l).not_gt)

theorem perform_activeUniform (h : c.driver.programs.get? id = some ps) {index : Nat}
    (hl : index < ps.uniforms.length) :
    perform (.activeUniform id index) c = (ps.uniforms[index], c) := by
  have hserve : c.driver.activeUniform id index = (ps.uniforms[index], c.driver) := by
    rw [activeUniform, programState_of_get? h, List.getElem?_eq_getElem hl]
    rfl
  have hperform : perform (.activeUniform id index) c =
      ((c.driver.activeUniform id index).1,
        { c with driver := (c.driver.activeUniform id index).2, trace := c.trace ++ [] }) := rfl
  rw [hperform, hserve, List.append_nil]

/-- A uniform is told of just if there is one with the index. -/
theorem uniformInfo_eq (h : c.driver.programs.get? id = some ps) (index : Nat) :
    uniformInfo id index c =
      (ps.uniforms[index]?, (Program.parameter id Enumerant.activeUniforms c).2) := by
  have hkept := programs_parameter id Enumerant.activeUniforms c
  simp only [uniformInfo, bind_apply, uniformCount_eq h]
  split
  · rename_i hle
    rw [List.getElem?_eq_none hle]
    rfl
  · rename_i hlt
    have hl : index < ps.uniforms.length := Nat.lt_of_not_le hlt
    rw [bind_apply, perform_activeUniform (hkept ▸ h) hl, List.getElem?_eq_getElem hl]
    rfl

/-- A value that is set at a location is kept there for the program, and nothing else changes. -/
theorem uniformValue?_setUniformAt (h : c.Ready live []) (hid : Slot.program.Admits live id)
    (hz : id ≠ 0) {l : Int} (hl : 0 ≤ l) (value : UniformValue) (q : Id) (k : Int) :
    (setUniformAt id l value c).2.driver.uniformValue? q k =
      if q = id ∧ k = l then some value else c.driver.uniformValue? q k := by
  let r : Request := .uniform l value
  have hwork : Work live (fun _ _ => True) (Slot.program.holding id ++ [])
      (Slot.program.holding id ++ []) (command r .settingUniform) :=
    work_command trivial Sim.within_anything
  obtain ⟨c₁, h₁, hbefore, hafter⟩ := rebound_holding h hid (within_bind nofun) nofun hwork
  have hbound : (c₁.driver.receive r).bound .program = id :=
    (bound_receive ..).trans (h₁.held _ List.mem_cons_self)
  calc (setUniformAt id l value c).2.driver.uniformValue? q k
    _ = (command r .settingUniform c₁).2.driver.uniformValue? q k :=
      congrArg (·.values.get? k) (hafter.program q)
    _ = ((c₁.driver.receive r).setUniform l value).uniformValue? q k := by
      rw [uniformValue?, programState, programs_command]
      rfl
    _ = if q = id ∧ k = l then some value else (c₁.driver.receive r).uniformValue? q k :=
      uniformValue?_setUniform hbound hz hl value q k
    _ = if q = id ∧ k = l then some value else c.driver.uniformValue? q k := by
      have hbefore' : (c₁.driver.receive r).uniformValue? q k = c.driver.uniformValue? q k :=
        congrArg (·.values.get? k) (hbefore.program q)
      rw [hbefore']

theorem setUniform_of_none (h : c.driver.programs.get? id = some ps) {name : String}
    (hl : ps.position? name = none) (value : UniformValue) :
    setUniform id name value c = (false, (note (.uniformNotActive id name) c).2) := by
  simp only [setUniform, bind_apply, uniformLocation_eq h, hl]
  rfl

theorem setUniform_of_some (h : c.driver.programs.get? id = some ps) {name : String} {l : Nat}
    (hl : ps.position? name = some l) (value : UniformValue) :
    setUniform id name value c = (true, (setUniformAt id l value c).2) := by
  simp only [setUniform, bind_apply, uniformLocation_eq h, hl]
  rfl

end Program

end GraphicsObjects
