import GraphicsObjects.Proofs.Session.Creation

/-!
# What a step does to a session

The references from outside the store are those that the variables hold. A step that keeps the
invariant deletes some objects, owners before what they kept, and leaves all others live.
-/

namespace GraphicsObjects

open Ownership ContextM SessionM

/-- The reference that a variable holds, if it does not hold a guard. -/
def Held.ref? : Held → Option Ref
  | .object r => some r
  | .guard .. => none

namespace Session

/-- The references that the variables hold. -/
def roots (s : Session Sim) : List Ref := s.vars.values.filterMap Held.ref?

/-- The state of a session with one context between two steps. -/
structure Inv (s : Session Sim) : Prop where
  sound : s.Sound s.roots
  guards : ∀ name c g, s.vars.get? name = some (.guard c g) → c = 0

/-- One object of the driver keeps another alive. -/
def Keeps (s : Session Sim) (owner part : Kind × Id) : Prop :=
  ∃ x ∈ s.store.faces, ∃ y ∈ s.store.faces,
    nameOf? x = some owner ∧ nameOf? y = some part ∧ y.1 ∈ x.2.2.payload.owned

/-- A step that deletes `gone`, in this order, and changes the contents of no object that is left
but those it may. -/
structure Advance (may : Kind → Id → Prop) (gone : List (Kind × Id)) (s s' : Session Sim) :
    Prop where
  inv : s'.Inv
  deleted : s'.driver.deleted = s.driver.deleted ++ gone
  ownersFirst : gone.Pairwise fun earlier later => ¬ s.Keeps later earlier
  kept : ∀ n ∈ s.driver.live, n ∉ gone → n ∈ s'.driver.live
  dead : ∀ n ∈ gone, n ∉ s'.driver.live
  others : ∀ k i, ¬ may k i → (k, i) ∉ gone → s'.driver.stateOf k i = s.driver.stateOf k i
  guards : ∀ name c g, s'.vars.get? name = some (.guard c g) →
    s.vars.get? name = some (.guard c g) ∨ c = 0 ∧ g.Restorable s.driver.live

variable {s s₁ s' : Session Sim} {outside outside₁ : List Ref} {may : Kind → Id → Prop}
variable {edited : Ref → Prop} {zs : List (Ref × Box Object)}

/-! ## Variables -/

theorem mem_roots {name : String} {r : Ref} (h : s.vars.get? name = some (.object r)) :
    r ∈ s.roots := by
  refine List.mem_filterMap.mpr ⟨.object r, ?_, rfl⟩
  exact List.mem_map.mpr ⟨_, Table.mem_entries_iff.mpr h, rfl⟩

theorem mem_roots_iff {r : Ref} :
    r ∈ s.roots ↔ ∃ name, s.vars.get? name = some (.object r) := by
  constructor
  · intro h
    obtain ⟨held, hm, hr⟩ := List.mem_filterMap.mp h
    obtain ⟨⟨name, held'⟩, he, rfl⟩ := List.mem_map.mp hm
    cases held' with
    | object q =>
        cases hr
        exact ⟨name, Table.mem_entries_iff.mp he⟩
    | guard c g => cases hr
  · rintro ⟨name, h⟩
    exact mem_roots h

theorem roots_congr (h : s'.vars = s.vars) : s'.roots = s.roots := by
  rw [roots, h]
  rfl

/-- The variable `name` apart from the others. -/
theorem roots_perm (s : Session Sim) (name : String) :
    s.roots.Perm (((s.vars.get? name).bind Held.ref?).toList ++
      (s.vars.erase name).values.filterMap Held.ref?) := by
  refine ((s.vars.values_perm name).filterMap _).trans (.of_eq ?_)
  cases s.vars.get? name with
  | none => rfl
  | some held => cases held <;> rfl

/-- Storing something in a variable sets free what was there. -/
theorem roots_insert_perm (s : Session Sim) (name : String) (held : Held) :
    (held.ref?.toList ++ s.roots).Perm (((s.vars.get? name).bind Held.ref?).toList ++
      ({ s with vars := s.vars.insert name held } : Session Sim).roots) := by
  refine ((roots_perm s name).append_left _).trans ?_
  refine (List.perm_append_comm_assoc ..).trans (.append_left _ (.of_eq ?_))
  cases held <;> rfl

/-- The variables play no part but for the references that they hold. -/
theorem Sound.setVariables (h : s.Sound outside) (vars : Table String Held) :
    ({ s with vars } : Session Sim).Sound outside :=
  ⟨h.single, h.wellNamed, h.ready, h.named, h.logged, h.balanced, h.parts, h.home,
    h.screens⟩

/-! ## Order of deletion -/

theorem nameOf?_unique (h : s.Sound outside) {x y : Ref × Id × Object} {n : Kind × Id}
    (hx : x ∈ s.store.faces) (hy : y ∈ s.store.faces) (hnx : nameOf? x = some n)
    (hny : nameOf? y = some n) : x = y := by
  have hp := List.pairwise_filterMap.mp h.nodup
  refine List.Pairwise.forall_of_forall_of_flip
    (R := fun x y => nameOf? x = some n → nameOf? y = some n → x = y) ?_ ?_ ?_ hx hy hnx hny
  · exact fun _ _ _ _ => rfl
  · exact hp.imp fun hne hx hy => absurd rfl (hne n hx n hy)
  · exact hp.imp fun hne hy hx => absurd rfl (hne n hx n hy)

/-- The names of what is left when some boxes went. -/
theorem Dropped.names_perm (h : Dropped outside zs s₁ s') :
    (names s₁.store).Perm (gone zs ++ names s'.store) :=
  Session.names_perm h.faces

/-- Owners went before what they kept, in the session as it was before its contents were edited, if
no box that held something else by then went. -/
theorem Dropped.pairwise (hd : Dropped outside zs s₁ s') (hq : s.Quiet may edited s₁)
    (hs₁ : s₁.Sound outside₁)
    (he : ∀ r id o, (r, id, o) ∈ s.store.faces → edited r → r ∈ outside) :
    (gone zs).Pairwise fun earlier later => ¬ s.Keeps later earlier := by
  have hface : ∀ z ∈ zs, Store.face z ∈ s₁.store.faces := fun z hz =>
    hd.faces.mem_iff.mpr (List.mem_append_left _ (List.mem_map_of_mem hz))
  refine List.pairwise_filterMap.mpr (List.pairwise_map.mpr ?_)
  refine hd.ownersFirst.imp_of_mem ?_
  rintro x y hx hy hxy m hm n hn ⟨⟨r, i, o⟩, ho, ⟨q, j, p⟩, hp, hno, hmp, howned⟩
  obtain ⟨o₁, ho₁, hko, hoo⟩ := hq.boxes r i o ho
  obtain ⟨p₁, hp₁, hkp, -⟩ := hq.boxes q j p hp
  have hno₁ : nameOf? (r, i, o₁) = some n := by
    simpa [nameOf?, hko] using hno
  have hmp₁ : nameOf? (q, j, p₁) = some m := by
    simpa [nameOf?, hkp] using hmp
  have hyface := nameOf?_unique hs₁ (hface y hy) ho₁ hn hno₁
  have hxface := nameOf?_unique hs₁ (hface x hx) hp₁ hm hmp₁
  by_cases hedit : edited r
  · -- an edited box stayed, so its name is not among those that went
    obtain ⟨b, hb⟩ := hd.sound.balanced.get?_of_mem (List.mem_append_left _ (he r i o ho hedit))
    have hb' := Store.mem_faces_iff.mpr ⟨b, hb, rfl, rfl⟩
    obtain ⟨rfl, rfl⟩ := faces_unique ho₁ (hd.faces.mem_iff.mpr (List.mem_append_right _ hb'))
    have hleft : n ∈ names s'.store := List.mem_filterMap.mpr ⟨_, hb', hno₁⟩
    have hgone : n ∈ gone zs := List.mem_filterMap.mpr ⟨_, List.mem_map_of_mem hy, hn⟩
    have hnodup := hd.names_perm.nodup_iff.mp hs₁.nodup
    exact (List.nodup_append.mp hnodup).2.2 n hgone n hleft rfl
  · have hq' : q ∈ o₁.payload.owned := (hoo hedit).symm ▸ howned
    have hy' : y.2.content = o₁ := congrArg (fun f => f.2.2) hyface
    have hx' : x.1 = q := congrArg (fun f => f.1) hxface
    refine hxy ?_
    rw [hx', hy']
    exact hq'

/-! ## Steps -/

theorem Inv.advance_of_quiet (h : s.Inv) (hs : s'.Sound s.roots) (hq : s.Quiet may edited s') :
    s.Advance may [] s' where
  inv := ⟨(roots_congr hq.vars).symm ▸ hs, hq.vars.symm ▸ h.guards⟩
  deleted := hq.deleted.trans (List.append_nil _).symm
  ownersFirst := .nil
  kept n hn _ := hq.live n hn
  dead := nofun
  others k i hm _ := hq.others k i hm
  guards _ _ _ hg := .inl (hq.vars ▸ hg)

/-- A step whose work is done in `s₁`, where it drops something. -/
theorem Inv.advance_of_dropped (h : s.Inv) (hq : s.Quiet may edited s₁) (hs₁ : s₁.Sound outside₁)
    (hd : Dropped s'.roots zs s₁ s')
    (he : ∀ r id o, (r, id, o) ∈ s.store.faces → edited r → r ∈ s'.roots)
    (ho : ∀ k i, ¬ may k i → (k, i) ∉ gone zs →
      s'.driver.stateOf k i = s₁.driver.stateOf k i)
    (hg : ∀ name c g, s'.vars.get? name = some (.guard c g) →
      s.vars.get? name = some (.guard c g) ∨ c = 0 ∧ g.Restorable s.driver.live) :
    s.Advance may (gone zs) s' where
  inv := ⟨hd.sound, fun name c g hn => (hg name c g hn).elim (h.guards name c g) And.left⟩
  deleted := hd.deleted.trans (congrArg (· ++ gone zs) hq.deleted)
  ownersFirst := hd.pairwise hq hs₁ he
  kept n hn hz := by
    have hm := hd.names_perm.mem_iff.mp (hs₁.named.mem_iff.mp (hq.live n hn))
    exact hd.sound.named.mem_iff.mpr ((List.mem_append.mp hm).resolve_left hz)
  dead n hn hl := by
    have hnodup := hd.names_perm.nodup_iff.mp hs₁.nodup
    exact (List.nodup_append.mp hnodup).2.2 n hn n (hd.sound.named.mem_iff.mp hl) rfl
  others k i hm hz := (ho k i hm hz).trans (hq.others k i hm)
  guards := hg

/-! ## Dropping -/

/-- What a variable held is given back; a guard must be one that can be released. -/
theorem Sound.dropHeld (held : Held) (h : s.Sound (held.ref?.toList ++ outside))
    (hg : ∀ c g, held = .guard c g → c = 0 ∧ g.Restorable s.driver.live) :
    ∃ zs, Dropped outside zs s (SessionM.dropHeld held s).2 ∧
      (SessionM.dropHeld held s).2.vars = s.vars := by
  cases held with
  | object r =>
      obtain ⟨zs, hz⟩ := h.giveBack
      exact ⟨zs, hz.toDropped, hz.vars⟩
  | guard c g =>
      obtain ⟨rfl, hr⟩ := hg c g rfl
      have hs₀ : s.Sound outside := h
      have hw : Work s.driver.live (fun _ _ => True) [] [] (release g) :=
        work_release hr (Slot.spares_nil _) Sim.within_anything
      obtain ⟨hs, hq⟩ := hs₀.work (fun _ => False) hw
      refine ⟨[], ⟨hs, .nil, .refl _, ?_⟩, hq.vars⟩
      exact hq.deleted.trans (List.append_nil _).symm

/-- Storing something in a variable gives back what was there. -/
theorem Sound.setVariable (name : String) {held : Held} (h : s.Sound (held.ref?.toList ++ s.roots))
    (hg : ∀ c g, s.vars.get? name = some (.guard c g) → c = 0 ∧ g.Restorable s.driver.live) :
    ∃ zs, Dropped (SessionM.setVariable name held s).2.roots zs s
        (SessionM.setVariable name held s).2 ∧
      (SessionM.setVariable name held s).2.vars = s.vars.insert name held := by
  have hs₁ := (h.perm (roots_insert_perm s name held)).setVariables (s.vars.insert name held)
  simp only [SessionM.setVariable, bind_apply, get_apply, modify_apply]
  cases hold : s.vars.get? name with
  | none =>
      rw [hold] at hs₁
      exact ⟨[], ⟨hs₁, .nil, .refl _, (List.append_nil _).symm⟩, rfl⟩
  | some old =>
      rw [hold] at hs₁
      obtain ⟨zs, hz, hv⟩ := Sound.dropHeld old hs₁ fun c g ho => hg c g (ho ▸ hold)
      rw [← roots_congr hv] at hz
      exact ⟨zs, ⟨hz.sound, hz.ownersFirst, hz.faces, hz.deleted⟩, hv⟩

end Session

end GraphicsObjects
