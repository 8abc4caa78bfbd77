import GraphicsObjects.Proofs.Simulation.Runs

/-!
# The element buffer of the bound vertex array

The driver keeps an element buffer with each vertex array, and the one of the bound vertex array in
a register as well. Binds bring the two together, deletions take them apart: that of the bound
vertex array leaves the register, and that of a buffer clears the register but not what vertex
arrays have recorded, so that a later bind may bring its name back. Nothing else disturbs the
register, and no other register is disturbed.
-/

namespace GraphicsObjects

open Simulation

namespace Sim

variable {s : Sim} {slot : Slot} {k k' : Kind} {id : Id} {ids : List Id} {i : Input}

/-! ## The register and the bound vertex array -/

instance (s : Sim) : Decidable s.Tied := inferInstanceAs (Decidable (_ = _))

/-- Deleting the objects takes the bound vertex array, which has another element buffer than the
default one, or the buffer that the bound vertex array has recorded. -/
def Severs (s : Sim) (ids : List Id) : Kind → Prop
  | .vertexArray => s.bound .vertexArray ∈ ids ∧ (.vertexArray, s.bound .vertexArray) ∈ s.live ∧
      s.elementBuffer (s.bound .vertexArray) ≠ s.elementBuffer 0
  | .buffer => s.bound .elementArray ∈ ids ∧ (.buffer, s.bound .elementArray) ∈ s.live
  | _ => False

/-- The input takes apart what is bound for indexed draws and what the bound vertex array has. -/
def Unties (s : Sim) (i : Input) : Prop := ∃ k ids, i.deletes = some (k, ids) ∧ s.Severs ids k

theorem Tied.bind (h : s.Tied) (slot : Slot) (id : Id) : (s.bind slot id).Tied := by
  rcases s.bind_cases slot id with hb | ⟨-, hb⟩
  · rw [hb]
    exact h
  · rw [hb]
    exact h.place _ id

/-- After a bind of a vertex array or an element buffer the two agree, whatever was before. -/
theorem tied_bind (hs : slot = .vertexArray ∨ slot = .elementArray) (ha : slot.Admits s.live id) :
    (s.bind slot id).Tied := by
  have hl : s.located slot = slot := by
    rcases hs with rfl | rfl <;> rfl
  rw [bind_of_admits ha hl]
  unfold Tied
  rw [elementBuffer_place, bound_place _ _ _ (by decide), bound_place _ _ _ (by decide)]
  rcases hs with rfl | rfl <;> simp [Slot.registers]

theorem tied_deleteMany_iff (hw : s.WellNamed) (h : s.Tied) :
    (s.deleteMany k ids).Tied ↔ ¬ s.Severs ids k := by
  have hzero (k : Kind) : (k, 0) ∉ s.live := fun hl => hw.ne_zero hl rfl
  unfold Tied at h ⊢
  rw [bound_deleteMany hw (by decide), bound_deleteMany hw (by decide), elementBuffer_deleteMany hw]
  cases k with
  | vertexArray =>
      by_cases hgone : s.bound .vertexArray ∈ ids ∧ (.vertexArray, s.bound .vertexArray) ∈ s.live
      · -- the register is left as it was, and the default vertex array is bound
        simp [Slot.kind?, Severs, hgone, hzero, h]
      · refine iff_of_true ?_ fun hs => hgone ⟨hs.1, hs.2.1⟩
        simp [Slot.kind?, hgone, h]
  | buffer =>
      by_cases hgone : s.bound .elementArray ∈ ids ∧ (.buffer, s.bound .elementArray) ∈ s.live
      · -- the register is cleared, and what is recorded is not 0
        refine iff_of_false ?_ (not_not.mpr hgone)
        have hz := hw.ne_zero hgone.2
        rw [h] at hz
        simpa [Slot.kind?, hgone] using hz.symm
      · refine iff_of_true ?_ hgone
        simpa [Slot.kind?, hgone] using h
  | _ => simp [Slot.kind?, Severs, h]

theorem tied_take_iff (is : List Input) (i : Input) (h : (after is).Tied) :
    ((after is).take i).Tied ↔ ¬ (after is).Unties i := by
  cases hd : i.deletes with
  | some d =>
      obtain ⟨k, ids⟩ := d
      rw [take_of_deletes _ hd, tied_deleteMany_iff (.after is) h]
      simp [Unties, hd]
  | none =>
      refine iff_of_true ?_ ?_
      · by_cases hb : ∃ slot id, i = .request (.bind slot id)
        · obtain ⟨slot, id, rfl⟩ := hb
          have hreceived : ((after is).receive (.bind slot id)).Tied := h
          exact hreceived.bind slot id
        · have hkeeps := (after is).keeps_take hd fun slot id e => hb ⟨slot, id, e⟩
          exact h.congr hkeeps.registers hkeeps.elementBuffer
      · simp [Unties, hd]

/-- What is bound for indexed draws is what the bound vertex array has recorded, all along a run
just if no deletion in it takes the two apart; the next bind of either brings them together. -/
theorem tied_along_iff (is : List Input) :
    ((∀ ps, ps <+: is → (after ps).Tied) ↔
      ∀ ps i, ps ++ [i] <+: is → ¬ (after ps).Unties i) ∧
    ∀ slot id, slot = .vertexArray ∨ slot = .elementArray → slot.Admits (after is).live id →
      ((after is).take (.request (.bind slot id))).Tied := by
  refine ⟨along_iff (P := Tied) rfl tied_take_iff is, fun slot id hs ha => ?_⟩
  have hreceived : slot.Admits ((after is).receive (.bind slot id)).live id := ha
  exact tied_bind hs hreceived

/-- A vertex array is made and bound, and a buffer for its indices. -/
def indexed : List Input :=
  [.request (.genObjects .vertexArray [0]), .request (.genObjects .buffer [0]),
    .request (.bind .vertexArray 1), .request (.bind .elementArray 1)]

/-- Deletion of the vertex array leaves its element buffer bound, and deletion of the buffer leaves
it recorded. -/
theorem deletions_untie :
    ¬ (after (indexed ++ [.request (.deleteObjects .vertexArray [1])])).Tied ∧
      ¬ (after (indexed ++ [.request (.deleteObjects .buffer [1])])).Tied := by
  decide

/-! ## What registers hold -/

/-- Every register holds 0 or a live object of its kind. -/
def Living (s : Sim) : Prop := ∀ r : Slot, r.IsRegister → r.Admits s.live (s.bound r)

/-- The input binds a vertex array which has recorded a buffer that does not live. -/
def Revives (s : Sim) (i : Input) : Prop :=
  ∃ id, i = .request (.bind .vertexArray id) ∧ Slot.vertexArray.Admits s.live id ∧
    ¬ Slot.elementArray.Admits s.live (s.elementBuffer id)

/-- The objects that the answer to an input names as new. -/
def given (s : Sim) : Input → List (Kind × Id)
  | .request (.genObjects k slots) =>
    (Driver.perform (.genObjects k slots) s).answer.map fun id => (k, id)
  | .request (.createShader stage) => [(.shader, (Driver.perform (.createShader stage) s).answer)]
  | .request .createProgram => [(.program, (Driver.perform .createProgram s).answer)]
  | _ => []

theorem Tidy.living_iff (h : s.Tidy) :
    s.Living ↔ Slot.elementArray.Admits s.live (s.bound .elementArray) := by
  refine ⟨fun hall => hall _ (by decide), fun he r hr => ?_⟩
  by_cases hre : r = .elementArray
  · rw [hre]
    exact he
  · exact h.bound r hr hre

theorem Living.deleteMany (h : s.Living) (hw : s.WellNamed) (k : Kind) (ids : List Id) :
    (s.deleteMany k ids).Living := by
  intro r hr
  rw [bound_deleteMany hw hr]
  split
  · exact r.admits_zero _
  · rename_i hstays
    refine (h r hr).imp_right fun hlive k' hk' => (mem_live_deleteMany hw).mpr ⟨hlive k' hk', ?_⟩
    rintro ⟨rfl, hm⟩
    exact hstays ⟨hk', hm, hlive _ hk'⟩

theorem Living.keeps {s' : Sim} (h : s.Living) (hk : s.Keeps s') : s'.Living := by
  intro r hr
  rw [bound, hk.registers]
  exact (h r hr).mono fun _ _ hm => hk.live _ hm

theorem Living.place (h : s.Living) (ha : slot.Admits s.live id)
    (hs : slot ≠ .vertexArray) : (s.place slot id).Living := by
  intro r hr
  rw [live_place, bound_place _ _ _ hr]
  split
  · rename_i hm
    exact ha.of_mem_registers hm
  · rw [if_neg fun e => hs e.1]
    exact h r hr

theorem Living.bind_iff (h : s.Living) (ht : s.Tidy) (slot : Slot) (id : Id) :
    (s.bind slot id).Living ↔ ¬ s.Revives (.request (.bind slot id)) := by
  by_cases hv : slot = .vertexArray
  · subst hv
    by_cases ha : Slot.vertexArray.Admits s.live id
    · rw [(ht.bind .vertexArray id).living_iff, bind_of_admits ha rfl, live_place,
        bound_place _ _ _ (by decide)]
      simp [Revives, Slot.registers, ha]
    · refine iff_of_true ?_ ?_
      · rcases s.bind_cases .vertexArray id with hb | ⟨haccepted, -⟩
        · rw [hb]
          exact h
        · exact absurd haccepted ha
      · rintro ⟨_, he, hadmits, -⟩
        cases he
        exact ha hadmits
  · refine iff_of_true ?_ ?_
    · rcases s.bind_cases slot id with hb | ⟨ha, hb⟩
      · rw [hb]
        exact h
      · rw [hb]
        refine h.place ha fun e => hv ?_
        cases slot with
        | texture => cases e
        | _ => exact e
    · rintro ⟨_, he, -⟩
      cases he
      exact hv rfl

theorem living_take_iff (is : List Input) (i : Input) (h : (after is).Living) :
    ((after is).take i).Living ↔ ¬ (after is).Revives i := by
  by_cases hb : ∃ slot id, i = .request (.bind slot id)
  · obtain ⟨slot, id, rfl⟩ := hb
    have hreceived : ((after is).receive (.bind slot id)).Living := h
    exact hreceived.bind_iff ((Tidy.after is).receive _) slot id
  · refine iff_of_true ?_ ?_
    · cases hd : i.deletes with
      | some d =>
          rw [take_of_deletes _ hd]
          exact h.deleteMany (.after is) d.1 d.2
      | none => exact h.keeps (keeps_take _ hd fun slot id e => hb ⟨slot, id, e⟩)
    · rintro ⟨id, rfl, -⟩
      exact hb ⟨_, _, rfl⟩

/-! ## New names -/

theorem not_mem_live_genMany (hw : s.WellNamed) {n : Nat} (hm : id ∈ (genMany k n s).1)
    (hz : id ≠ 0) (hk : namingKind k' = namingKind k) : (k', id) ∉ s.live := by
  induction n generalizing s with
  | zero => cases hm
  | succ n ih =>
      rcases List.mem_cons.mp hm with rfl | hm
      · exact not_mem_live_gen hw hz hk
      · exact fun hl => ih (hw.gen k) hm ((mem_live_gen s k).mpr (.inl hl))

theorem not_mem_live_given (hw : s.WellNamed) (hm : (k, id) ∈ s.given i) (hz : id ≠ 0)
    (hk : namingKind k' = namingKind k) : (k', id) ∉ s.live := by
  cases i with
  | setUp a => cases hm
  | request q =>
      cases q with
      | genObjects kind slots =>
          obtain ⟨_, hm, he⟩ := List.mem_map.mp hm
          cases he
          simp only [Driver.perform, execute] at hm
          split at hm
          · obtain ⟨_, -, rfl⟩ := List.mem_map.mp hm
            exact absurd rfl hz
          · exact not_mem_live_genMany hw hm hz hk
      | createShader stage =>
          cases List.mem_singleton.mp hm
          exact not_mem_live_gen hw hz hk
      | createProgram =>
          cases List.mem_singleton.mp hm
          exact not_mem_live_gen hw hz hk
      | _ => cases hm

theorem keeps_take_given (hm : (k, id) ∈ s.given i) : s.Keeps (s.take i) := by
  refine s.keeps_take ?_ fun slot id e => ?_
  · cases i with
    | setUp a => cases hm
    | request q => cases q <;> first | rfl | cases hm
  · subst e
    cases hm

/-- All registers hold live objects all along a run just if no bind of a vertex array in it brings a
deleted buffer back. Registers other than that of the element buffer always do, and a new name is in
none of the registers that hold live objects. -/
theorem living_along_iff (is : List Input) :
    ((∀ ps, ps <+: is → (after ps).Living) ↔
      ∀ ps i, ps ++ [i] <+: is → ¬ (after ps).Revives i) ∧
    (∀ r : Slot, r.IsRegister → r ≠ .elementArray →
      r.Admits (after is).live ((after is).bound r)) ∧
    ∀ i k id, (k, id) ∈ (after is).given i → id ≠ 0 →
      ∀ (r : Slot) k', r.IsRegister → r.kind? = some k' → namingKind k' = namingKind k →
        r ≠ .elementArray ∨ (after is).Living → ((after is).take i).bound r ≠ id := by
  refine ⟨along_iff (P := Living) (fun r _ => r.admits_zero _) living_take_iff is,
    (Tidy.after is).bound, fun i k id hm hz r k' hr hkind hk hlive he => ?_⟩
  have hadmits : r.Admits (after is).live ((after is).bound r) := by
    rcases hlive with hne | hlive
    · exact (Tidy.after is).bound r hr hne
    · exact hlive r hr
  have hbound : (after is).bound r = id := by
    rw [← he, bound, bound, (keeps_take_given hm).registers]
  rw [hbound] at hadmits
  exact not_mem_live_given (.after is) hm hz hk (hadmits.resolve_left hz k' hkind)

/-- A buffer is deleted while a vertex array that is not bound has recorded it. -/
def orphaned : List Input :=
  indexed ++ [.request (.bind .vertexArray 0), .request (.deleteObjects .buffer [1])]

/-- The vertex array brings the deleted buffer back, and the next buffer gets its name. -/
theorem deleted_buffer_returns :
    ¬ (after (orphaned ++ [.request (.bind .vertexArray 1)])).Living ∧
      (.buffer, 1) ∈ (after (orphaned ++ [.request (.bind .vertexArray 1)])).given
        (.request (.genObjects .buffer [0])) ∧
      (after (orphaned ++ [.request (.bind .vertexArray 1),
        .request (.genObjects .buffer [0])])).bound .elementArray = 1 := by
  refine ⟨fun h => ?_, by decide, by decide⟩
  exact absurd (h .elementArray (by decide)) (by decide)

end Sim

end GraphicsObjects
