import GraphicsObjects.Proofs.Simulation.Clean

/-!
# Shaders and programs along a run

What an input of the driver can make of one shader or of one program. A link succeeds just if some
shader is attached and every one of them is compiled; it reads the sources that the driver has then,
and these need not be the ones that were compiled.
-/

namespace GraphicsObjects

open Simulation

namespace Sim

variable {s : Sim} {k : Kind} {x p : Id} {i : Input} {q : Request} {is ks : List Input}

/-! ## One input -/

theorem stateOf_content (hc : q.IsContent) (ha : s.aim q ≠ some (k, x)) :
    (s.serve q).stateOf k x = s.stateOf k x := by
  have hedits := edits_execute (s.receive q) hc
  rw [aim_congr (registers_receive s q)] at hedits
  exact (hedits.others k x ha).trans (stateOf_receive s q k x)

/-- A shader or a program is left alone, deleted, made or named by a command. -/
theorem stateOf_take_cases (hw : s.WellNamed) (hk : k = .shader ∨ k = .program) (i : Input)
    (x : Id) :
    (s.take i).stateOf k x = s.stateOf k x ∨ (s.take i).stateOf k x = .blank k ∨
      ((k, x) ∈ s.given i ∧ x ≠ 0 ∧ (s.take i).stateOf k x = i.made k) ∨
      ∃ q, i = .request q ∧ q.IsContent ∧ s.aim q = some (k, x) := by
  cases hd : i.deletes with
  | some d =>
      obtain ⟨k', ids⟩ := d
      rw [take_of_deletes _ hd, stateOf_deleteMany hw]
      split
      · rename_i hgone
        rw [hgone.1]
        exact .inr (.inl rfl)
      · exact .inl rfl
  | none =>
      cases i with
      | setUp a => cases a <;> exact .inl (by cases k <;> rfl)
      | request q =>
        by_cases hc : q.IsContent
        · by_cases ha : s.aim q = some (k, x)
          · exact .inr (.inr (.inr ⟨q, rfl, hc, ha⟩))
          · exact .inl (stateOf_content hc ha)
        · cases q with
          | deleteObjects | deleteShader | deleteProgram => cases hd
          | bind slot id =>
              refine .inl ?_
              rcases (s.receive (.bind slot id)).bind_cases slot id with hb | ⟨-, hb⟩
              · simp only [take, serve, execute, hb]
                cases k <;> rfl
              · simp only [take, serve, execute, hb]
                exact (present_place _ _ _ hk).trans (stateOf_receive ..)
          | genObjects kind slots =>
              refine .inl ?_
              simp only [take, serve, execute]
              split
              · exact stateOf_receive ..
              · exact (stateOf_genMany ..).trans (stateOf_receive ..)
          | createShader stage =>
              have hmade := stateOf_createShader s stage k x
              split at hmade
              · rename_i hnew
                obtain ⟨rfl, rfl, hz⟩ := hnew
                exact .inr (.inr (.inl ⟨List.mem_singleton_self _, hz, hmade⟩))
              · exact .inl hmade
          | createProgram =>
              have hmade := stateOf_createProgram s k x
              split at hmade
              · rename_i hnew
                obtain ⟨rfl, rfl, hz⟩ := hnew
                exact .inr (.inr (.inl ⟨List.mem_singleton_self _, hz, hmade⟩))
              · exact .inl hmade
          | _ => exact absurd trivial hc

/-! ## One shader -/

theorem shaders_alterShader (s : Sim) (id : Id) (f : ShaderState → ShaderState) (x : Id) :
    (s.alterShader id f).shaders.get? x =
      if x = id then (s.shaders.get? x).map f else s.shaders.get? x := by
  unfold alterShader
  cases hsh : s.shaders.get? id with
  | none =>
      refine Eq.trans (rfl : _ = s.shaders.get? x) ?_
      split
      · rename_i hx
        rw [hx, hsh]
        rfl
      · rfl
  | some sh =>
      refine (Table.get?_insert ..).trans ?_
      split
      · rename_i hx
        rw [hx, hsh]
        rfl
      · rfl

/-- What an input makes of a shader that was there before. -/
inductive ShaderStep (x : Id) : Input → ShaderState → ShaderState → Prop
  | source (text : String) (sh : ShaderState) :
    ShaderStep x (.request (.shaderSource x text)) sh { sh with source := text }
  | compile (sh : ShaderState) : ShaderStep x (.request (.compileShader x)) sh sh.compile
  | rest {i : Input} (sh : ShaderState) (hi : i ≠ .request (.compileShader x)) :
    ShaderStep x i sh sh

theorem aim_eq_shader (hc : q.IsContent) (h : s.aim q = some (.shader, x)) :
    q = .compileShader x ∨ ∃ text, q = .shaderSource x text := by
  cases q with
  | shaderSource id text =>
      cases h
      exact .inr ⟨text, rfl⟩
  | compileShader id =>
      cases h
      exact .inl rfl
  | bind => exact hc.elim
  | readPixels =>
      simp only [aim] at h
      split at h
      · cases h
      · cases h
  | _ => cases h

/-- A shader that there is after an input is new, or the input has made it of what it was. -/
theorem shader_take (hw : s.WellNamed) {sh' : ShaderState}
    (h : (s.take i).shaders.get? x = some sh') :
    (∃ stage, i = .request (.createShader stage) ∧ sh' = { stage }) ∨
      ∃ sh, s.shaders.get? x = some sh ∧ ShaderStep x i sh sh' := by
  have hstate : (s.take i).stateOf .shader x = .shader (some sh') := congrArg ObjectState.shader h
  by_cases hcompile : i = .request (.compileShader x)
  · subst hcompile
    have hmade : (s.take (.request (.compileShader x))).shaders.get? x =
        (s.shaders.get? x).map ShaderState.compile :=
      (shaders_alterShader _ x _ x).trans (if_pos rfl)
    obtain ⟨sh, hsh, rfl⟩ := Option.map_eq_some_iff.mp (hmade.symm.trans h)
    exact .inr ⟨sh, hsh, .compile sh⟩
  · rcases stateOf_take_cases hw (.inl rfl) i x with
      hsame | hblank | ⟨hgiven, hz, hmade⟩ | ⟨q, rfl, hc, ha⟩
    · exact .inr ⟨sh', ObjectState.shader.inj (hsame.symm.trans hstate), .rest sh' hcompile⟩
    · cases hblank.symm.trans hstate
    · have hnew : i.made .shader = .shader (some sh') := hmade.symm.trans hstate
      rcases given_cases hgiven hz with ⟨_, -, -, hblank⟩ | ⟨stage, rfl, -⟩ | ⟨-, hk, -⟩
      · cases hblank.symm.trans hnew
      · cases hnew
        exact .inl ⟨stage, rfl, rfl⟩
      · cases hk
    · rcases aim_eq_shader hc ha with rfl | ⟨text, rfl⟩
      · exact absurd rfl hcompile
      · have hmade : (s.take (.request (.shaderSource x text))).shaders.get? x =
            (s.shaders.get? x).map fun sh => { sh with source := text } :=
          (shaders_alterShader _ x _ x).trans (if_pos rfl)
        obtain ⟨sh, hsh, rfl⟩ := Option.map_eq_some_iff.mp (hmade.symm.trans h)
        exact .inr ⟨sh, hsh, .source text sh⟩

/-! ## One program -/

theorem Tidy.mem_live_program_iff (h : s.Tidy) (hz : p ≠ 0) :
    (.program, p) ∈ s.live ↔ ∃ ps, s.programs.get? p = some ps :=
  (h.present .program p hz (.inr rfl)).symm.trans Option.isSome_iff_exists

theorem programState_of_get? {ps : ProgramState} (h : s.programs.get? p = some ps) :
    s.programState p = ps := by
  rw [programState, Table.getD, h]
  rfl

theorem programs_setProgram (s : Sim) (id : Id) (ps : ProgramState) (p : Id) :
    (s.setProgram id ps).programs.get? p = if p = id then some ps else s.programs.get? p :=
  Table.get?_insert ..

def linkedState (s : Sim) (ps : ProgramState) : ProgramState :=
  ps.link (linkLog s.isCompiled ps.attached)
    ((ps.attached.filterMap s.shaders.get?).filter (·.compiled))

/-- What an input makes of a program that was there before. -/
inductive ProgramStep (s : Sim) (p : Id) : Input → ProgramState → ProgramState → Prop
  | link (ps : ProgramState) :
    ProgramStep s p (.request (.linkProgram p)) ps (s.linkedState ps)
  | bindLocation (l : Nat) (name : String) (ps : ProgramState) :
    ProgramStep s p (.request (.bindAttributeLocation p l name)) ps
      { ps with boundLocations := ps.boundLocations.insert name l }
  | rest {i : Input} (attached : List Id) (values : Table Int UniformValue) (ps : ProgramState)
    (hl : i ≠ .request (.linkProgram p))
    (hb : ∀ l name, i ≠ .request (.bindAttributeLocation p l name)) :
    ProgramStep s p i ps { ps with attached, values }

theorem ProgramStep.same (ps : ProgramState) (hl : i ≠ .request (.linkProgram p))
    (hb : ∀ l name, i ≠ .request (.bindAttributeLocation p l name)) : s.ProgramStep p i ps ps :=
  .rest ps.attached ps.values ps hl hb

theorem programs_link (s : Sim) (p : Id) :
    (s.link p).programs.get? p = (s.programs.get? p).map s.linkedState := by
  unfold link
  cases hps : s.programs.get? p with
  | none => exact hps
  | some ps => exact (programs_setProgram ..).trans (if_pos rfl)

theorem programs_bindAttributeLocation (s : Sim) (p : Id) (l : Nat) (name : String) :
    (s.bindAttributeLocation p l name).programs.get? p = (s.programs.get? p).map fun ps =>
      { ps with boundLocations := ps.boundLocations.insert name l } := by
  unfold bindAttributeLocation
  cases hps : s.programs.get? p with
  | none => exact hps
  | some ps => exact (programs_setProgram ..).trans (if_pos rfl)

theorem programs_attachShader {sh : Id} {ps' : ProgramState}
    (h : (s.attachShader p sh).programs.get? p = some ps') :
    ∃ ps attached, s.programs.get? p = some ps ∧ ps' = { ps with attached } := by
  unfold attachShader at h
  split at h
  · exact ⟨ps', ps'.attached, h, rfl⟩
  · split at h
    · exact ⟨ps', ps'.attached, h, rfl⟩
    · rename_i ps hps
      split at h
      · exact ⟨ps', ps'.attached, h, rfl⟩
      · rw [programs_setProgram, if_pos rfl] at h
        exact ⟨ps, _, hps, (Option.some.inj h).symm⟩

theorem programs_detachShader {sh : Id} {ps' : ProgramState}
    (h : (s.detachShader p sh).programs.get? p = some ps') :
    ∃ ps attached, s.programs.get? p = some ps ∧ ps' = { ps with attached } := by
  unfold detachShader at h
  split at h
  · exact ⟨ps', ps'.attached, h, rfl⟩
  · rename_i ps hps
    split at h
    · rw [programs_setProgram, if_pos rfl] at h
      exact ⟨ps, _, hps, (Option.some.inj h).symm⟩
    · exact ⟨ps', ps'.attached, h, rfl⟩

theorem programs_setUniform (ht : s.Tidy) {location : Int} {value : UniformValue}
    {ps' : ProgramState} (h : (s.setUniform location value).programs.get? p = some ps') :
    ∃ ps values, s.programs.get? p = some ps ∧ ps' = { ps with values } := by
  unfold setUniform at h
  dsimp only at h
  split at h
  · exact ⟨ps', ps'.values, h, rfl⟩
  · rename_i hz
    split at h
    · exact ⟨ps', ps'.values, h, rfl⟩
    · rw [programs_setProgram] at h
      split at h
      · rename_i hp
        -- the current program is there, as it lives
        obtain ⟨ps, hps⟩ :=
          (ht.mem_live_program_iff hz).mp (ht.live_of_bound .program (by decide) rfl hz)
        rw [programState_of_get? hps] at h
        exact ⟨ps, _, hp ▸ hps, (Option.some.inj h).symm⟩
      · exact ⟨ps', ps'.values, h, rfl⟩

theorem program_take (hw : s.WellNamed) (ht : s.Tidy) {ps' : ProgramState}
    (h : (s.take i).programs.get? p = some ps') :
    (.program, p) ∉ s.live ∧ i = .request .createProgram ∧ ps' = {} ∨
      ∃ ps, s.programs.get? p = some ps ∧ s.ProgramStep p i ps ps' := by
  have hstate : (s.take i).stateOf .program p = .program (some ps') :=
    congrArg ObjectState.program h
  by_cases hl : i = .request (.linkProgram p)
  · subst hl
    obtain ⟨ps, hps, rfl⟩ := Option.map_eq_some_iff.mp ((programs_link ..).symm.trans h)
    exact .inr ⟨ps, hps, .link ps⟩
  · by_cases hb : ∃ l name, i = .request (.bindAttributeLocation p l name)
    · obtain ⟨l, name, rfl⟩ := hb
      obtain ⟨ps, hps, rfl⟩ :=
        Option.map_eq_some_iff.mp ((programs_bindAttributeLocation ..).symm.trans h)
      exact .inr ⟨ps, hps, .bindLocation l name ps⟩
    · replace hb : ∀ l name, i ≠ .request (.bindAttributeLocation p l name) :=
        fun l name e => hb ⟨l, name, e⟩
      rcases stateOf_take_cases hw (.inr rfl) i p with
        hsame | hblank | ⟨hgiven, hz, hmade⟩ | ⟨q, rfl, hc, ha⟩
      · exact .inr ⟨ps', ObjectState.program.inj (hsame.symm.trans hstate), .same ps' hl hb⟩
      · cases hblank.symm.trans hstate
      · have hnew : i.made .program = .program (some ps') := hmade.symm.trans hstate
        rcases given_cases hgiven hz with ⟨_, -, -, hblank⟩ | ⟨_, -, hk, -⟩ | ⟨rfl, -, -⟩
        · cases hblank.symm.trans hnew
        · cases hk
        · cases hnew
          exact .inl ⟨not_mem_live_given hw hgiven hz rfl, rfl, rfl⟩
      · cases q with
        | linkProgram =>
            cases ha
            exact absurd rfl hl
        | bindAttributeLocation =>
            cases ha
            exact absurd rfl (hb _ _)
        | attachShader =>
            cases ha
            obtain ⟨ps, attached, hps, rfl⟩ := programs_attachShader h
            exact .inr ⟨ps, hps, .rest attached ps.values ps hl hb⟩
        | detachShader =>
            cases ha
            obtain ⟨ps, attached, hps, rfl⟩ := programs_detachShader h
            exact .inr ⟨ps, hps, .rest attached ps.values ps hl hb⟩
        | uniform =>
            obtain ⟨ps, values, hps, rfl⟩ := programs_setUniform (ht.receive _) h
            exact .inr ⟨ps, hps, .rest ps.attached values ps hl hb⟩
        | bind => exact hc.elim
        | readPixels =>
            simp only [aim] at ha
            split at ha
            · cases ha
            · cases ha
        | _ => cases ha

/-! ## Links -/

theorem join_eq_empty_iff (lines : List String) :
    String.join lines = "" ↔ ∀ line ∈ lines, line = "" := by
  induction lines with
  | nil => simp
  | cons line lines ih =>
      rw [String.join_cons, String.append_eq_empty_iff, ih]
      simp

theorem linkLog_eq_empty_iff {isCompiled : Id → Bool} {attached : List Id} :
    linkLog isCompiled attached = "" ↔ attached ≠ [] ∧ ∀ x ∈ attached, isCompiled x = true := by
  unfold linkLog
  split
  · rename_i hnil
    simp [hnil]
  · rename_i hne
    rw [join_eq_empty_iff, List.forall_mem_map]
    simp [String.append_eq_empty_iff, hne]

/-- The shaders that are attached to a program, as far as they live. -/
def attachedShaders (s : Sim) (ps : ProgramState) : List ShaderState :=
  ps.attached.filterMap s.shaders.get?

/-- Some shader is attached, and all that are attached are compiled. -/
def Linkable (s : Sim) (ps : ProgramState) : Prop :=
  ps.attached ≠ [] ∧ ∀ x ∈ ps.attached, s.isCompiled x = true

theorem linked_linkedState_iff {ps : ProgramState} :
    (s.linkedState ps).linked = true ↔ s.Linkable ps := by
  unfold linkedState ProgramState.link
  rw [Linkable, ← linkLog_eq_empty_iff]
  split
  · rename_i h
    simp [h]
  · rename_i h
    simp [h]

theorem isCompiled_iff : s.isCompiled x = true ↔
    ∃ sh, s.shaders.get? x = some sh ∧ sh.compiled = true := by
  simp [isCompiled, Option.any_eq_true]

theorem filter_compiled {ps : ProgramState} (h : s.Linkable ps) :
    (s.attachedShaders ps).filter (·.compiled) = s.attachedShaders ps := by
  refine List.filter_eq_self.mpr fun sh hm => ?_
  obtain ⟨x, hx, hsh⟩ := List.mem_filterMap.mp hm
  obtain ⟨sh', hsh', hcompiled⟩ := isCompiled_iff.mp (h.2 x hx)
  cases hsh.symm.trans hsh'
  exact hcompiled

/-- A link that succeeds reads the sources that the attached shaders have. -/
theorem linkedState_of_linkable {ps : ProgramState} (h : s.Linkable ps) :
    s.linkedState ps = { ps with
      linked := true, log := ""
      uniforms := declaredUniforms (s.attachedShaders ps)
      attributes := declaredAttributes (s.attachedShaders ps)
      locations := assignLocations ps.boundLocations
        (declaredAttributes (s.attachedShaders ps)) 0 .empty } := by
  have hlog : linkLog s.isCompiled ps.attached = "" := linkLog_eq_empty_iff.mpr h
  have hfilter := filter_compiled h
  unfold attachedShaders at hfilter ⊢
  rw [linkedState, ProgramState.link, if_pos hlog, hfilter, hlog]

theorem locations_of_not_linkable {ps : ProgramState} (h : ¬ s.Linkable ps) :
    (s.linkedState ps).locations = .empty := by
  rw [linkedState, ProgramState.link, if_neg (mt linkLog_eq_empty_iff.mp h)]

/-! ## What shaders were compiled from -/

/-- The texts that shaders were last compiled from, with one more input noted. -/
def noteText (s : Sim) (text? : Id → Option String) : Input → Id → Option String
  | .request (.compileShader x) => Function.update text? x ((s.shaders.get? x).map (·.source))
  | _ => text?

/-- The text that each shader was last compiled from in a run. -/
def compiledText (is : List Input) : Id → Option String :=
  (is.foldl (fun c i => (c.1.take i, c.1.noteText c.2 i)) (Sim.fresh, fun _ => none)).2

theorem compiledText_concat (is : List Input) (i : Input) :
    compiledText (is ++ [i]) = (after is).noteText (compiledText is) i := by
  have hdriver : (is.foldl (fun (c : Sim × (Id → Option String)) i =>
      (c.1.take i, c.1.noteText c.2 i)) (Sim.fresh, fun _ => none)).1 = after is := by
    induction is using List.reverseRecOn with
    | nil => rfl
    | append_singleton is j ih => rw [List.foldl_concat, ih, after_concat]
  rw [compiledText, List.foldl_concat, hdriver]
  rfl

theorem noteText_of_ne {text? : Id → Option String} (h : i ≠ .request (.compileShader x)) :
    s.noteText text? i x = text? x := by
  unfold noteText
  split
  · rename_i y
    refine Function.update_of_ne (fun e => h ?_) _ _
    rw [e]
  · rfl

/-- A shader that counts as compiled was last compiled from a text without errors. -/
theorem compiledText_of_compiled {sh : ShaderState} (h : (after is).shaders.get? x = some sh)
    (hc : sh.compiled = true) :
    ∃ text, compiledText is x = some text ∧ sourceError? text = none := by
  induction is using List.reverseRecOn generalizing sh with
  | nil => cases h
  | append_singleton is i ih =>
      rw [after_concat] at h
      rw [compiledText_concat]
      rcases shader_take (.after is) h with ⟨stage, -, rfl⟩ | ⟨sh₀, hsh₀, hstep⟩
      · cases hc
      · cases hstep with
        | source text => exact ih hsh₀ hc
        | rest _ hi =>
            rw [noteText_of_ne hi]
            exact ih hsh₀ hc
        | compile =>
            refine ⟨sh₀.source, (Function.update_self ..).trans (congrArg _ hsh₀), ?_⟩
            unfold ShaderState.compile at hc
            split at hc
            · cases hc
            · assumption

/-- The attached shaders with the texts that they were last compiled from. -/
def compiledShaders (is : List Input) (ps : ProgramState) : List ShaderState :=
  ps.attached.filterMap fun x => ((after is).shaders.get? x).bind fun sh =>
    (compiledText is x).map fun source => { sh with source }

theorem compiledShaders_eq {ps : ProgramState}
    (h : ∀ x ∈ ps.attached, ((after is).shaders.get? x).map (·.source) = compiledText is x) :
    compiledShaders is ps = (after is).attachedShaders ps := by
  refine List.filterMap_congr fun x hx => ?_
  rw [← h x hx]
  cases (after is).shaders.get? x <;> rfl

theorem Linkable.compiledText {ps : ProgramState} (h : (after is).Linkable ps)
    (hx : x ∈ ps.attached) :
    ∃ text, compiledText is x = some text ∧ sourceError? text = none := by
  obtain ⟨sh, hsh, hc⟩ := isCompiled_iff.mp (h.2 x hx)
  exact compiledText_of_compiled hsh hc

end Sim

theorem Simulation.nodup_distinctByName (vs : List ActiveVariable) :
    ((distinctByName vs).map (·.name)).Nodup := by
  unfold distinctByName
  refine List.foldlRecOn vs _
    (motive := fun (kept : List ActiveVariable) => (kept.map ActiveVariable.name).Nodup)
    (by rw [List.map_nil]; exact List.nodup_nil) fun kept hkept v _ => ?_
  split
  · exact hkept
  · rename_i hnew
    rw [List.map_append, List.nodup_append]
    refine ⟨hkept, List.nodup_singleton _, ?_⟩
    simp only [List.any_eq_true, not_exists, not_and, decide_eq_true_eq] at hnew
    simpa using fun u hu => hnew u hu

end GraphicsObjects
