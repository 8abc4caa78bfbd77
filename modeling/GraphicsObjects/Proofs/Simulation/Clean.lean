import GraphicsObjects.Proofs.Simulation.ElementBuffers

/-!
# Names of objects that do not live

A name that was given out is free or belongs to one live object of its namespace. With an object
goes all that is kept under its name, and commands change live objects only. So nothing is kept
under the name of a new object, unless it is a buffer: data may be stored under the name of a
deleted one that a vertex array has brought back.
-/

namespace GraphicsObjects

open Simulation

/-- What is kept of an object of which nothing is known. -/
def ObjectState.blank : Kind → ObjectState
  | .buffer => buffer none
  | .texture => texture default
  | .framebuffer => framebuffer default
  | .renderbuffer => renderbuffer none
  | .vertexArray => vertexArray default
  | .shader => shader none
  | .program => program none

/-- What is kept of an object that the input has just made. -/
def Simulation.Input.made : Input → Kind → ObjectState
  | request (.createShader stage), _ => .shader (some { stage })
  | request .createProgram, _ => .program (some {})
  | _, kind => .blank kind

namespace Sim

variable {s s' : Sim} {k k' n : Kind} {id i : Id} {ids : List Id} {q : Request} {input : Input}

/-! ## Free names -/

theorem mem_namesIn_iff {os : List (Kind × Id)} :
    id ∈ namesIn n os ↔ ∃ k, namingKind k = n ∧ (k, id) ∈ os := by
  simp only [namesIn, List.mem_map, List.mem_filter, decide_eq_true_eq]
  constructor
  · rintro ⟨⟨k, id⟩, ⟨hm, hk⟩, rfl⟩
    exact ⟨k, hk, hm⟩
  · rintro ⟨k, hk, hm⟩
    exact ⟨(k, id), ⟨hm, hk⟩, rfl⟩

theorem WellNamed.nodup_free (h : s.WellNamed) (n : Kind) : (s.poolOf n).free.Nodup :=
  (List.nodup_append.mp (h n).nodup).1

theorem WellNamed.not_mem_free (h : s.WellNamed) (hl : (k, id) ∈ s.live) :
    id ∉ (s.poolOf (namingKind k)).free := fun hm =>
  (List.nodup_append.mp (h (namingKind k)).nodup).2.2 id hm id (mem_namesIn hl) rfl

/-- The names that were given out are those of live objects and those that are free. -/
theorem WellNamed.mem_free_or_live_iff (h : s.WellNamed) (n : Kind) (id : Id) :
    (id ∈ (s.poolOf n).free ∨ ∃ k, namingKind k = n ∧ (k, id) ∈ s.live) ↔
      1 ≤ id ∧ id ≤ (s.poolOf n).last := by
  rw [← mem_namesIn_iff, ← List.mem_append, (h n).mem_iff, List.mem_range'_1, Nat.lt_one_add_iff]

/-- Objects of one namespace share no name. -/
theorem WellNamed.kind_eq (h : s.WellNamed) (hl : (k, id) ∈ s.live) (hl' : (k', id) ∈ s.live)
    (hk : namingKind k = namingKind k') : k = k' := by
  have hnodup := (List.nodup_append.mp (h (namingKind k')).nodup).2.1
  have hmem {x : Kind} (hx : (x, id) ∈ s.live) (he : namingKind x = namingKind k') :
      (x, id) ∈ s.live.filter fun o => namingKind o.1 = namingKind k' :=
    List.mem_filter.mpr ⟨hx, decide_eq_true he⟩
  exact congrArg Prod.fst (List.inj_on_of_nodup_map hnodup (hmem hl hk) (hmem hl' rfl) rfl)

/-! ## Deletion -/

theorem stateOf_delete_self (hz : id ≠ 0) (hl : (k, id) ∈ s.live) :
    (s.delete k id).stateOf k id = .blank k := by
  rw [delete_eq hz hl]
  cases k <;> simp [stateOf, forget, ObjectState.blank, textureState, framebufferState,
    vertexArrayState, VertexArrayState.named, Table.getD, hz]

/-- All that is kept of deleted objects is dropped, and nothing else. -/
theorem stateOf_deleteMany (hw : s.WellNamed) :
    (s.deleteMany k ids).stateOf k' i =
      if k' = k ∧ i ∈ ids ∧ (k, i) ∈ s.live then .blank k else s.stateOf k' i := by
  induction ids generalizing s with
  | nil => simp [deleteMany]
  | cons id ids ih =>
      refine (ih (hw.delete k id)).trans ?_
      simp only [mem_live_delete hw]
      by_cases hl : (k, id) ∈ s.live
      · by_cases he : (k', i) = (k, id)
        · cases he
          simp [stateOf_delete_self (hw.ne_zero hl) hl, hl]
        · rw [stateOf_delete (hw.ne_zero hl) hl he]
          by_cases hk : k' = k
          · have hi : i ≠ id := fun e => he (by rw [hk, e])
            simp [hk, hi]
          · simp [hk]
      · rw [delete_of_not_mem hl]
        by_cases hi : i = id
        · simp [hi, hl]
        · simp [hi]

theorem deleteMany_append (s : Sim) (k : Kind) (ids ids' : List Id) :
    s.deleteMany k (ids ++ ids') = (s.deleteMany k ids).deleteMany k ids' :=
  List.foldl_append

theorem deleteMany_of_not_mem (h : ∀ id ∈ ids, (k, id) ∉ s.live) : s.deleteMany k ids = s := by
  induction ids with
  | nil => rfl
  | cons id ids ih =>
      obtain ⟨hid, hids⟩ := List.forall_mem_cons.mp h
      exact (congrArg (·.deleteMany k ids) (delete_of_not_mem hid)).trans (ih hids)

/-- A name that does not live when its turn comes may be left out. -/
theorem deleteMany_skip {ids' : List Id} (hl : (k, id) ∉ (s.deleteMany k ids).live) :
    s.deleteMany k (ids ++ id :: ids') = s.deleteMany k (ids ++ ids') := by
  rw [deleteMany_append, deleteMany_append]
  exact congrArg (·.deleteMany k ids') (delete_of_not_mem hl)

/-! ## What is kept of objects that do not live -/

/-- Nothing is kept under a name that nothing lives under, buffers apart. -/
def Clean (s : Sim) : Prop :=
  ∀ k i, k ≠ .buffer → i ≠ 0 → (k, i) ∉ s.live → s.stateOf k i = .blank k

theorem Clean.fresh : Sim.fresh.Clean := by
  intro k i hk hz _
  cases k with
  | buffer => exact absurd rfl hk
  | vertexArray =>
      simp only [stateOf, VertexArrayState.named, if_neg hz]
      rfl
  | _ => rfl

/-- Objects come to live, and the others are as before. -/
theorem Clean.of_live (h : s.Clean) (hl : ∀ o ∈ s.live, o ∈ s'.live)
    (hs : ∀ k i, k ≠ .buffer → i ≠ 0 → (k, i) ∉ s'.live → s'.stateOf k i = s.stateOf k i) :
    s'.Clean := fun k i hk hz hn =>
  (hs k i hk hz hn).trans (h k i hk hz fun hm => hn (hl _ hm))

theorem Clean.bind (h : s.Clean) (ht : s.Tidy) (slot : Slot) (id : Id) :
    (s.bind slot id).Clean := by
  refine h.of_live (fun o ho => (live_bind s slot id).symm ▸ ho) fun k i hk hz hn => ?_
  rw [live_bind] at hn
  rcases s.bind_cases slot id with hb | ⟨-, hb⟩
  · rw [hb]
    exact (edits_raise none s _).others k i nofun
  · rw [hb]
    refine stateOf_place s _ id fun ha => ?_
    unfold aim at ha
    split at ha
    case h_1 =>
      split at ha
      · cases ha
      · cases ha
        exact hn (ht.live_of_bound .vertexArray nofun rfl hz)
    all_goals simp_all

theorem stateOf_genMany (s : Sim) (k k' : Kind) (n : Nat) (i : Id) :
    (genMany k n s).2.stateOf k' i = s.stateOf k' i := by
  induction n generalizing s with
  | zero => rfl
  | succ n ih => exact (ih (s.gen k).2).trans (stateOf_gen s k k' i)

/-- A new object is stored unless it has no name. -/
theorem stateOf_created (store : Sim → Id → Sim) {made : ObjectState}
    (hstore : ∀ d x k' i, (store d x).stateOf k' i =
      if k' = k ∧ i = x then made else d.stateOf k' i) (s : Sim) (k' : Kind) (i : Id) :
    (if (s.gen k).1 = 0 then (s.gen k).2 else store (s.gen k).2 (s.gen k).1).stateOf k' i =
      if k' = k ∧ i = (s.gen k).1 ∧ i ≠ 0 then made else s.stateOf k' i := by
  split
  · rename_i hz
    rw [stateOf_gen, if_neg]
    rintro ⟨-, rfl, hi⟩
    exact hi hz
  · rename_i hz
    rw [hstore, stateOf_gen]
    refine if_congr (and_congr_right fun _ => ?_) rfl rfl
    exact (and_iff_left_of_imp fun he => he ▸ hz).symm

theorem stateOf_createShader (s : Sim) (stage : ShaderStage) (k : Kind) (i : Id) :
    (s.createShader stage).2.stateOf k i =
      if k = .shader ∧ i = (s.createShader stage).1 ∧ i ≠ 0 then .shader (some { stage })
      else s.stateOf k i := by
  refine stateOf_created (fun d x => { d with shaders := d.shaders.insert x { stage } })
    (fun d x k i => ?_) s k i
  cases k with
  | shader => by_cases hi : i = x <;> simp [stateOf, hi, Table.get?_insert]
  | _ => rfl

theorem stateOf_createProgram (s : Sim) (k : Kind) (i : Id) :
    s.createProgram.2.stateOf k i =
      if k = .program ∧ i = s.createProgram.1 ∧ i ≠ 0 then .program (some {})
      else s.stateOf k i := by
  refine stateOf_created (fun d x => { d with programs := d.programs.insert x {} })
    (fun d x k i => ?_) s k i
  cases k with
  | program => by_cases hi : i = x <;> simp [stateOf, hi, Table.get?_insert]
  | _ => rfl

theorem mem_live_gen_self (h : (s.gen k).1 ≠ 0) : (k, (s.gen k).1) ∈ (s.gen k).2.live :=
  (mem_live_gen s k).mpr (.inr ⟨not_not.mp fun hf => h (gen_eq_zero hf k), rfl⟩)

theorem mem_live_createShader {stage : ShaderStage} (h : (s.createShader stage).1 ≠ 0) :
    (.shader, (s.createShader stage).1) ∈ (s.createShader stage).2.live := by
  have hlive := congrArg (·.1) (registry_createShader s stage)
  simp only [registry] at hlive
  exact hlive ▸ mem_live_gen_self h

theorem mem_live_createProgram (h : s.createProgram.1 ≠ 0) :
    (.program, s.createProgram.1) ∈ s.createProgram.2.live := by
  have hlive := congrArg (·.1) (registry_createProgram s)
  simp only [registry] at hlive
  exact hlive ▸ mem_live_gen_self h

theorem Clean.createShader (h : s.Clean) (stage : ShaderStage) :
    (s.createShader stage).2.Clean := by
  refine h.of_live (keeps_createShader s stage).live fun k i _ hz hn => ?_
  rw [stateOf_createShader, if_neg]
  rintro ⟨rfl, rfl, -⟩
  exact hn (mem_live_createShader hz)

theorem Clean.createProgram (h : s.Clean) : s.createProgram.2.Clean := by
  refine h.of_live (keeps_createProgram s).live fun k i _ hz hn => ?_
  rw [stateOf_createProgram, if_neg]
  rintro ⟨rfl, rfl, -⟩
  exact hn (mem_live_createProgram hz)

theorem Clean.genMany (h : s.Clean) (k : Kind) (n : Nat) : (genMany k n s).2.Clean :=
  h.of_live (keeps_genMany s k n).live fun _ _ _ _ _ => stateOf_genMany ..

theorem Clean.deleteMany (h : s.Clean) (hw : s.WellNamed) (k : Kind) (ids : List Id) :
    (s.deleteMany k ids).Clean := by
  intro k' i hk hz hn
  rw [stateOf_deleteMany hw]
  split
  · rename_i hgone
    rw [hgone.1]
  · rename_i hstays
    refine h k' i hk hz fun hl => hn ((mem_live_deleteMany hw).mpr ⟨hl, ?_⟩)
    rintro ⟨rfl, hm⟩
    exact hstays ⟨rfl, hm, hl⟩

theorem live_content (s : Sim) (hc : q.IsContent) : (s.serve q).live = s.live := by
  have hlive := congrArg (·.1) (edits_execute (s.receive q) hc).registry
  exact hlive.trans (live_receive s q)

theorem Clean.content (h : s.Clean) (ht : s.Tidy) (hc : q.IsContent) : (s.serve q).Clean := by
  refine h.of_live (fun o ho => (live_content s hc).symm ▸ ho) fun k i hk hz hn => ?_
  rw [live_content s hc, ← live_receive s q] at hn
  exact ((ht.receive q).stateOf_execute hc hk hz hn).trans (stateOf_receive s q k i)

theorem Clean.serve (h : s.Clean) (ht : s.Tidy) (hw : s.WellNamed) (q : Request) :
    (s.serve q).Clean := by
  have hq : (s.receive q).Clean :=
    h.of_live (keeps_receive s q).live fun k i _ _ _ => stateOf_receive s q k i
  cases q with
  | genObjects kind slots =>
      simp only [Sim.serve, execute]
      split
      · exact hq
      · exact hq.genMany kind _
  | createShader stage => exact hq.createShader stage
  | createProgram => exact hq.createProgram
  | deleteObjects kind ids => exact h.deleteMany hw kind ids
  | deleteShader id => exact h.deleteMany hw .shader [id]
  | deleteProgram id => exact h.deleteMany hw .program [id]
  | bind slot id => exact hq.bind (ht.receive _) slot id
  | _ => exact h.content ht trivial

theorem Clean.after (is : List Input) : (after is).Clean := by
  induction is using List.reverseRecOn with
  | nil => exact .fresh
  | append_singleton is i ih =>
      rw [after_concat]
      cases i with
      | request q => exact ih.serve (.after is) (.after is) q
      | setUp a => cases a <;> exact ih

/-! ## New objects -/

theorem mem_live_genMany {m : Nat} (hm : id ∈ (genMany k m s).1) (hz : id ≠ 0) :
    (k, id) ∈ (genMany k m s).2.live := by
  induction m generalizing s with
  | zero => cases hm
  | succ m ih =>
      rcases List.mem_cons.mp hm with rfl | hm
      · exact (keeps_genMany (s.gen k).2 k m).live _ (mem_live_gen_self hz)
      · exact ih hm

theorem nodup_genMany (hw : s.WellNamed) (k : Kind) (m : Nat) :
    ((genMany k m s).1.filter (· ≠ 0)).Nodup := by
  induction m generalizing s with
  | zero => exact .nil
  | succ m ih =>
      have hrest := ih (hw.gen k)
      have hids : (genMany k (m + 1) s).1 = (s.gen k).1 :: (genMany k m (s.gen k).2).1 := rfl
      rw [hids]
      by_cases hz : (s.gen k).1 = 0
      · rw [List.filter_cons_of_neg (by simpa using hz)]
        exact hrest
      · have hnew : (s.gen k).1 ∉ (genMany k m (s.gen k).2).1 := fun hm =>
          not_mem_live_genMany (hw.gen k) hm hz rfl (mem_live_gen_self hz)
        rw [List.filter_cons_of_pos (by simpa using hz)]
        exact List.nodup_cons.mpr ⟨fun hm => hnew (List.mem_filter.mp hm).1, hrest⟩

/-- The ways to make a new object. -/
theorem given_cases (hm : (k, id) ∈ s.given input) (hz : id ≠ 0) :
    (∃ m, id ∈ (genMany k m s).1 ∧ s.take input = (genMany k m s).2 ∧ input.made k = .blank k) ∨
      (∃ stage, input = .request (.createShader stage) ∧ k = .shader ∧
        id = (s.createShader stage).1) ∨
      input = .request .createProgram ∧ k = .program ∧ id = s.createProgram.1 := by
  cases input with
  | setUp a => cases hm
  | request q =>
      cases q with
      | genObjects kind slots =>
          obtain ⟨_, hm, he⟩ := List.mem_map.mp hm
          cases he
          simp only [Driver.perform, execute] at hm
          split at hm
          · obtain ⟨_, -, rfl⟩ := List.mem_map.mp hm
            exact absurd rfl hz
          · rename_i hkind
            refine .inl ⟨slots.length, hm, ?_, rfl⟩
            simp only [take, serve, execute, if_neg hkind]
            rfl
      | createShader stage =>
          cases List.mem_singleton.mp hm
          exact .inr (.inl ⟨stage, rfl, rfl, rfl⟩)
      | createProgram =>
          cases List.mem_singleton.mp hm
          exact .inr (.inr ⟨rfl, rfl, rfl⟩)
      | _ => cases hm

theorem mem_live_given (hm : (k, id) ∈ s.given input) (hz : id ≠ 0) :
    (k, id) ∈ (s.take input).live := by
  rcases given_cases hm hz with ⟨m, hm, ht, -⟩ | ⟨stage, rfl, rfl, rfl⟩ | ⟨rfl, rfl, rfl⟩
  · exact ht ▸ mem_live_genMany hm hz
  · exact mem_live_createShader hz
  · exact mem_live_createProgram hz

/-- Objects that are made by one input have different names. -/
theorem nodup_given (hw : s.WellNamed) (input : Input) :
    (((s.given input).map Prod.snd).filter (· ≠ 0)).Nodup := by
  cases input with
  | setUp a => exact .nil
  | request q =>
      cases q with
      | genObjects kind slots =>
          have hids : (s.given (.request (.genObjects kind slots))).map Prod.snd =
              (execute (.genObjects kind slots) s).1 := by
            refine (List.map_map ..).trans ?_
            exact List.map_id _
          rw [hids, execute]
          split
          · simp [List.filter_eq_nil_iff.mpr]
          · exact nodup_genMany hw kind _
      | createShader | createProgram => exact (List.nodup_singleton _).filter _
      | _ => exact .nil

/-- Of a new object no more is kept than creation itself stores. -/
theorem stateOf_given (h : s.Clean) (hw : s.WellNamed) (hm : (k, id) ∈ s.given input)
    (hz : id ≠ 0) (hk : k ≠ .buffer) : (s.take input).stateOf k id = input.made k := by
  have hblank := h k id hk hz (not_mem_live_given hw hm hz rfl)
  rcases given_cases hm hz with ⟨m, -, ht, hmade⟩ | ⟨stage, rfl, rfl, rfl⟩ | ⟨rfl, rfl, rfl⟩
  · rw [ht, stateOf_genMany, hblank, hmade]
  · exact (stateOf_createShader s stage _ _).trans (if_pos ⟨rfl, rfl, hz⟩)
  · exact (stateOf_createProgram s _ _).trans (if_pos ⟨rfl, rfl, hz⟩)

/-- In every state of the driver the free names of a namespace are distinct, no live object has one
of them, and together with the names of the live objects, each of which is the name of one, they are
all that were given out. The names of new objects are not names of live ones, and but for
buffers nothing is kept under them from before. A deletion drops all that is kept of the objects
that it is about, as far as they live, and changes nothing else; names that do not live when their
turn comes may be left out. -/
theorem names_unique_and_clean (is : List Input) :
    (∀ n, ((after is).poolOf n).free.Nodup ∧
      (∀ k id, namingKind k = n → (k, id) ∈ (after is).live → id ∉ ((after is).poolOf n).free) ∧
      (∀ id, (id ∈ ((after is).poolOf n).free ∨ ∃ k, namingKind k = n ∧ (k, id) ∈ (after is).live) ↔
        1 ≤ id ∧ id ≤ ((after is).poolOf n).last)) ∧
    (∀ k k' id, namingKind k = namingKind k' → (k, id) ∈ (after is).live →
      (k', id) ∈ (after is).live → k = k') ∧
    (∀ i, (((after is).given i).map Prod.snd |>.filter (· ≠ 0)).Nodup ∧
      ∀ k id, (k, id) ∈ (after is).given i → id ≠ 0 →
        (∀ k', namingKind k' = namingKind k → (k', id) ∉ (after is).live) ∧
        (k, id) ∈ ((after is).take i).live ∧
        (k ≠ .buffer → (after is).stateOf k id = .blank k ∧
          ((after is).take i).stateOf k id = i.made k)) ∧
    ∀ i k ids, i.deletes = some (k, ids) →
      (∀ o, o ∈ ((after is).take i).live ↔ o ∈ (after is).live ∧ ¬ (o.1 = k ∧ o.2 ∈ ids)) ∧
      (∀ k' id, ((after is).take i).stateOf k' id =
        if k' = k ∧ id ∈ ids ∧ (k, id) ∈ (after is).live then .blank k
        else (after is).stateOf k' id) ∧
      ((∀ id ∈ ids, (k, id) ∉ (after is).live) → (after is).take i = after is) ∧
      ∀ xs id ys, ids = xs ++ id :: ys → (k, id) ∉ ((after is).deleteMany k xs).live →
        (after is).take i = (after is).deleteMany k (xs ++ ys) := by
  have hw : (after is).WellNamed := .after is
  have hclean : (after is).Clean := .after is
  refine ⟨fun n => ⟨hw.nodup_free n, ?_, hw.mem_free_or_live_iff n⟩, ?_, fun i => ⟨?_, ?_⟩, ?_⟩
  · rintro k id rfl hl
    exact hw.not_mem_free hl
  · exact fun k k' id hk hl hl' => hw.kind_eq hl hl' hk
  · exact nodup_given hw i
  · intro k id hm hz
    have hnew (k' : Kind) (hk : namingKind k' = namingKind k) : (k', id) ∉ (after is).live :=
      not_mem_live_given hw hm hz hk
    refine ⟨hnew, mem_live_given hm hz, fun hk => ⟨?_, ?_⟩⟩
    · exact hclean k id hk hz (hnew k rfl)
    · exact stateOf_given hclean hw hm hz hk
  · intro i k ids hd
    rw [take_of_deletes _ hd]
    refine ⟨fun o => mem_live_deleteMany hw, fun k' id => stateOf_deleteMany hw, fun hnone => ?_,
      ?_⟩
    · exact deleteMany_of_not_mem hnone
    · rintro xs id ys rfl hl
      exact deleteMany_skip hl

end Sim

end GraphicsObjects
