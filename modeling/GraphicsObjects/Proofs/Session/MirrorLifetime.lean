import GraphicsObjects.Proofs.Session.Mirror

/-!
# The mirror through creation and destruction

A new object refers to nothing, and neither does its box. What is destroyed was held by nothing that
is left, so what is left still refers to what it holds; above all the element buffer of the bound
vertex array is not destroyed.
-/

namespace GraphicsObjects

open Ownership ContextM SessionM

namespace Session

variable {s s' : Session Sim} {outside : List Ref} {r : Ref} {id : Id} {o : Object} {p : Payload}
variable {tied : Prop} {last : Ref → Option Ref} {name : String} {held : Held}

/-! ## Creation -/

/-- A new box for an object whose links are those of the box. -/
theorem Mirrored.add (h : s.Mirrored tied last) (hs : s.Sound outside) (id : Id) {assigned : Bool}
    (hd : s.driver.Preserves tied nothing s'.driver)
    (hst : s'.store = (s.store.add id assigned ⟨0, p⟩).2) (hv : s'.vars = s.vars)
    (ho : p.Orderly none)
    (hl : id ≠ 0 → s.driver.links p.kind id = p.links s' none) : s'.Mirrored tied last := by
  have hfresh := hs.balanced.fresh _ (Nat.le_refl _)
  have hf : s'.store.faces = (s.store.next, id, ⟨0, p⟩) :: s.store.faces := by
    rw [hst]
    exact Store.faces_add hfresh ..
  have hn : s'.store.next = s.store.next + 1 := by
    rw [hst]
    rfl
  have hlast : last s.store.next = none := h.fresh _ (Nat.le_refl _)
  refine ⟨hd.tidy, fun ht => hd.settled (h.settled ht), fun r i o hm => ?_,
    fun r i o hm hz hk => ?_, fun r hr => h.fresh r ?_, ?_⟩
  · rw [hf] at hm
    rcases List.mem_cons.mp hm with hm | hm
    · cases hm
      rw [hlast]
      exact ho
    · exact h.orderly r i o hm
  · rw [hd.links _ _ not_false hk]
    rw [hf] at hm
    rcases List.mem_cons.mp hm with hm | hm
    · cases hm
      rw [hlast]
      exact hl hz
    · rw [h.links r i o hm hz hk]
      refine (Payload.links_congr (h.orderly r i o hm) fun q hq => ?_).symm
      obtain ⟨j, x, hx⟩ := hs.face_of_owned hm hq
      rw [nameAt?_of_mem hx, nameAt?_of_mem (hf ▸ List.mem_cons_of_mem _ hx)]
  · rw [hn] at hr
    exact Nat.le_of_succ_le hr
  · rw [guards_congr hv]
    exact h.guards

/-- An object that holds nothing is made. -/
theorem Mirrored.adopt (h : s.Mirrored tied last) (hs : s.Sound outside)
    {made : ContextM Sim (Except Failure Id)} (ho : p.Orderly none)
    (hl : ∀ s', p.links s' none = .initial p.kind)
    (hm : (s.enter 0).Made s.driver.live p.kind (made (s.enter 0)).1 (made (s.enter 0)).2)
    (hd : s.driver.Preserves tied nothing (made (s.enter 0)).2.driver) :
    (SessionM.adopt 0 p made s).2.Mirrored tied last := by
  cases hmade : (made (s.enter 0)).1 with
  | error e =>
      rw [adopt_error hmade]
      exact h.congr hd rfl rfl rfl
  | ok id =>
      obtain ⟨-, hr⟩ := hm.named id hmade
      have hnew : (p.kind, id) ∉ s.driver.live := by
        have hnodup := hm.wellNamed.nodup
        rw [hr.live] at hnodup
        exact (List.nodup_cons.mp hnodup).1
      rw [adopt_ok hmade]
      refine h.add hs id hd rfl rfl ho fun hz => ?_
      rw [hl]
      exact h.tidy.blank _ _ hz hnew

/-! ## Giving back -/

/-- What is left refers to what it held before, which is left too. -/
theorem Mirrored.giveBack {rs : List Ref} (h : s.Mirrored tied last)
    (hs : s.Sound (rs ++ outside)) : (SessionM.giveBack rs s).2.Mirrored tied last := by
  obtain ⟨-, hnext, zs, hd, -, -, hp⟩ := hs.balanced.release
  obtain ⟨hgone, hlive, hhome⟩ := hs.nodup_gone hp
  obtain ⟨_, ⟨⟨hs', -, -, -⟩, -, -, -, -⟩⟩ := hs.giveBack
  rw [giveBack_eq hs.single hd hhome] at hs' ⊢
  have ha := allDestroyed_destroyAll hs.ready hs.wellNamed hgone hlive
  have hkept : ∀ {r i o}, (r, i, o) ∈ (s.store.release rs).2.faces → (r, i, o) ∈ s.store.faces :=
    fun hm => hp.mem_iff.mpr (List.mem_append_right _ hm)
  have hleft : ∀ {r i o}, (r, i, o) ∈ (s.store.release rs).2.faces → i ≠ 0 →
      (o.payload.kind, i) ∉ gone zs := by
    intro r i o hm hz hg
    have hnodup := (names_perm hp).nodup_iff.mp hs.nodup
    exact (List.nodup_append.mp hnodup).2.2 _ hg _ (mem_names_iff.mpr ⟨r, o, hm, hz, rfl⟩) rfl
  refine ⟨tidy_destroyAll _ h.tidy, fun ht => ?_, fun r i o hm => h.orderly r i o (hkept hm),
    fun r i o hm hz hk => ?_, fun r hr => h.fresh r (hnext ▸ hr), h.guards⟩
  · refine settled_destroyAll hs.ready hs.wellNamed hgone hlive h.tidy (h.settled ht) ?_
    intro id hz hm hg
    -- the vertex array is left, and so is the buffer that it keeps alive
    obtain ⟨r, o, hface, -, hk⟩ := mem_names_iff.mp (hs'.named.mem_iff.mp hm)
    rcases h.element hs ht (hkept hface) hz hk with hzero | ⟨b, hown, x, hx, hkx⟩
    · exact hs.wellNamed.ne_zero (hlive _ hg) hzero
    · obtain ⟨i, y, hy⟩ := hs'.face_of_owned hface hown
      obtain ⟨rfl, rfl⟩ := faces_unique hx (hkept hy)
      exact hleft hy (hs.wellNamed.ne_zero (hlive _ hg)) (hkx ▸ hg)
  · have hsame := Sim.links_congr (ha.others _ _ (hleft hm hz))
    refine hsame.trans ((h.links r i o (hkept hm) hz hk).trans ?_)
    refine (Payload.links_congr (h.orderly r i o (hkept hm)) fun q hq => ?_).symm
    obtain ⟨j, x, hx⟩ := hs'.face_of_owned hm hq
    rw [nameAt?_of_mem hx, nameAt?_of_mem (hkept hx)]

/-! ## Variables -/

/-- The variables play no part but for the guards that they hold. -/
theorem Mirrored.setVariables (h : s.Mirrored tied last) {vars : Table String Held}
    (hg : tied → ∀ name c g, vars.get? name = some (.guard c g) → g.slot ≠ .elementArray) :
    ({ s with vars } : Session Sim).Mirrored tied last := by
  refine ⟨h.tidy, h.settled, h.orderly, h.links, h.fresh, fun ht g hmem => ?_⟩
  obtain ⟨name, c, hname⟩ := mem_guards_iff.mp hmem
  exact hg ht name c g hname

theorem Mirrored.slot_ne (h : s.Mirrored tied last) (ht : tied) {c : ContextId} {g : Guard}
    (hg : s.vars.get? name = some (.guard c g)) : g.slot ≠ .elementArray :=
  h.guards ht g (mem_guards_iff.mpr ⟨name, c, hg⟩)

theorem Mirrored.dropHeld (held : Held) (h : s.Mirrored tied last)
    (hs : s.Sound (held.ref?.toList ++ outside))
    (hg : ∀ c g, held = .guard c g → c = 0 ∧ (tied → g.slot ≠ .elementArray)) :
    (SessionM.dropHeld held s).2.Mirrored tied last := by
  cases held with
  | object r => exact h.giveBack hs
  | guard c g =>
      obtain ⟨rfl, hslot⟩ := hg c g rfl
      exact h.work (keepsLinks_release hslot)

theorem Mirrored.setVariable (name : String) (h : s.Mirrored tied last)
    (hs : s.Sound (held.ref?.toList ++ s.roots))
    (hc : ∀ c g, s.vars.get? name = some (.guard c g) → c = 0)
    (hg : ∀ c g, held = .guard c g → tied → g.slot ≠ .elementArray) :
    (SessionM.setVariable name held s).2.Mirrored tied last := by
  have hs₁ := (hs.perm (roots_insert_perm s name held)).setVariables (s.vars.insert name held)
  have h₁ : ({ s with vars := s.vars.insert name held } : Session Sim).Mirrored tied last := by
    refine h.setVariables fun ht q c g hq => ?_
    rw [Table.get?_insert] at hq
    split at hq
    · exact hg c g (Option.some.inj hq) ht
    · exact h.slot_ne ht hq
  simp only [SessionM.setVariable, bind_apply, get_apply, modify_apply]
  cases hold : s.vars.get? name with
  | none => exact h₁
  | some old =>
      rw [hold] at hs₁
      refine h₁.dropHeld old hs₁ fun c g he => ?_
      rw [he] at hold
      exact ⟨hc c g hold, fun ht => h.slot_ne ht hold⟩

theorem Mirrored.drop (h : s.Mirrored tied last) (hi : s.Inv) (hv : s.vars.get? name = some held) :
    (SessionM.dropHeld held { s with vars := s.vars.erase name }).2.Mirrored tied last := by
  have hperm := roots_perm s name
  rw [hv] at hperm
  have hs := (hi.sound.perm hperm).setVariables (s.vars.erase name)
  have h₁ : ({ s with vars := s.vars.erase name } : Session Sim).Mirrored tied last := by
    refine h.setVariables fun ht q c g hq => ?_
    rw [Table.get?_erase] at hq
    split at hq
    · cases hq
    · exact h.slot_ne ht hq
  refine h₁.dropHeld held hs fun c g he => ?_
  rw [he] at hv
  exact ⟨hi.guards name c g hv, fun ht => h.slot_ne ht hv⟩

end Session

end GraphicsObjects
