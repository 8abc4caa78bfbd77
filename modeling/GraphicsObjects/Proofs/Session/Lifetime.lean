import GraphicsObjects.Proofs.Session.Invariant

/-!
# Creation and destruction in a session

A new object enters the store with the reference that its maker holds. Giving references back
destroys the objects that nothing refers to any more, owners before what they owned, and no others.
-/

namespace GraphicsObjects

open Ownership ContextM SessionM

namespace Session

variable {s s' : Session Sim} {outside outside' : List Ref} {edited : Ref → Prop}

/-! ## Creation -/

/-- The outcome of the creation of an object, which is then held outside of the store. -/
structure Created (outside : List Ref) (edited : Ref → Prop) (s : Session Sim)
    (made : Except Failure (Ref × Id)) (s' : Session Sim) : Prop where
  quiet : s.Quiet (fun _ _ => True) edited s'
  failed : ∀ e, made = .error e → s'.Sound outside
  held : ∀ r id, made = .ok (r, id) → s'.Sound (r :: outside)

/-- A new box that holds nothing, with the driver's object that it names. -/
theorem Sound.add (h : s.Sound outside) {payload : Payload} {id : Id} {assigned : Bool}
    (ho : payload.owned = []) (hz : id = 0 → payload.kind = .framebuffer)
    (hs : s'.contexts.length = 1) (hw : s'.driver.WellNamed)
    (hr : (s'.enter 0).Ready s'.driver.live []) (hl : deletions s'.trace = s'.driver.deleted)
    (hst : s'.store = (s.store.add id assigned ⟨0, payload⟩).2)
    (hn : s'.driver.live.Perm
      ((nameOf? (s.store.next, id, ⟨0, payload⟩)).toList ++ s.driver.live)) :
    s'.Sound (s.store.next :: outside) := by
  have hfresh := h.balanced.fresh _ (Nat.le_refl _)
  have hf : s'.store.faces = (s.store.next, id, ⟨0, payload⟩) :: s.store.faces := by
    rw [hst]
    exact Store.faces_add hfresh ..
  have hbalanced : s.store.Balanced (Owner.owned (⟨0, payload⟩ : Object) ++ outside) := by
    rw [show Owner.owned (⟨0, payload⟩ : Object) = [] from ho]
    exact h.balanced
  refine ⟨hs, hw, hr, hn.trans ?_, hl, hst ▸ hbalanced.add id assigned, ?_, ?_, ?_⟩
  · refine (h.named.append_left _).trans (.of_eq ?_)
    rw [names, names, hf, List.filterMap_cons]
    cases nameOf? (s.store.next, id, ⟨0, payload⟩) <;> rfl
  · rw [hf]
    intro r i o hm q hq i' o' hm'
    rcases List.mem_cons.mp hm with hm | hm
    · cases hm
      exact absurd (ho ▸ hq) List.not_mem_nil
    · rcases List.mem_cons.mp hm' with hm' | hm'
      · cases hm'
        have hinner : s.store.next ∈ s.store.inner := List.mem_flatMap.mpr ⟨_, hm, hq⟩
        obtain ⟨b, hb⟩ := h.balanced.get?_of_mem (List.mem_append_right _ hinner)
        rw [hfresh] at hb
        cases hb
      · exact h.parts r i o hm q hq i' o' hm'
  · rw [hf]
    intro r i o hm
    rcases List.mem_cons.mp hm with hm | hm
    · cases hm
      rfl
    · exact h.home r i o hm
  · rw [hf]
    intro r o hm
    rcases List.mem_cons.mp hm with hm | hm
    · cases hm
      exact hz rfl
    · exact h.screens r o hm

theorem adopt_error {payload : Payload} {made : ContextM Sim (Except Failure Id)} {e : Failure}
    (h : (made (s.enter 0)).1 = .error e) :
    SessionM.adopt 0 payload made s = (.error e, s.leave 0 (made (s.enter 0)).2) := by
  have hmade : (SessionM.inContext 0 made s).1 = .error e := h
  unfold SessionM.adopt
  rw [bind_apply, hmade]
  rfl

theorem adopt_ok {payload : Payload} {made : ContextM Sim (Except Failure Id)} {id : Id}
    (h : (made (s.enter 0)).1 = .ok id) :
    SessionM.adopt 0 payload made s = (.ok (s.store.next, id),
      { s.leave 0 (made (s.enter 0)).2 with store := (s.store.add id true ⟨0, payload⟩).2 }) := by
  have hmade : (SessionM.inContext 0 made s).1 = .ok id := h
  unfold SessionM.adopt
  rw [bind_apply, hmade]
  rfl

theorem Sound.adopt (h : s.Sound outside) {payload : Payload}
    {made : ContextM Sim (Except Failure Id)} (ho : payload.owned = [])
    (hm : (s.enter 0).Made s.driver.live payload.kind (made (s.enter 0)).1 (made (s.enter 0)).2) :
    Created outside edited s (SessionM.adopt 0 payload made s).1
      (SessionM.adopt 0 payload made s).2 := by
  have hlogged : deletions (made (s.enter 0)).2.trace = (made (s.enter 0)).2.driver.deleted :=
    (hm.logged.trans h.logged).trans hm.deleted.symm
  have henter := enter_leave h.single (made (s.enter 0)).2
  cases hmade : (made (s.enter 0)).1 with
  | error e =>
      have hr := hm.failed e hmade
      rw [adopt_error hmade]
      refine ⟨⟨rfl, hm.deleted, fun n hn => ?_, fun _ _ hf => absurd trivial hf, ?_⟩, ?_, nofun⟩
      · exact hr.live.symm ▸ hn
      · exact (Quiet.refl (fun _ _ => True) edited s).boxes
      · intro _ _
        refine ⟨length_leave h.single _, hm.wellNamed, ?_, ?_, hlogged, h.balanced, h.parts, h.home,
          h.screens⟩
        · change ((s.leave 0 _).enter 0).Ready (made (s.enter 0)).2.driver.live []
          rw [henter, hr.live]
          exact hr
        · exact (List.Perm.of_eq hr.live).trans h.named
  | ok id =>
      obtain ⟨hz, hr⟩ := hm.named id hmade
      have hname : nameOf? (s.store.next, id, ⟨0, payload⟩) = some (payload.kind, id) := if_neg hz
      rw [adopt_ok hmade]
      refine ⟨⟨rfl, hm.deleted, fun n hn => ?_, fun _ _ hf => absurd trivial hf, ?_⟩, nofun, ?_⟩
      · exact hr.live.symm ▸ List.mem_cons_of_mem _ hn
      · intro r i o hmem
        refine ⟨o, ?_, rfl, fun _ => rfl⟩
        change _ ∈ (s.store.add id true ⟨0, payload⟩).2.faces
        rw [Store.faces_add (h.balanced.fresh _ (Nat.le_refl _))]
        exact List.mem_cons_of_mem _ hmem
      · intro r i he
        cases he
        refine h.add ho (fun e => absurd e hz) (length_leave h.single _) hm.wellNamed ?_ hlogged
          rfl ?_
        · change ((s.leave 0 _).enter 0).Ready (made (s.enter 0)).2.driver.live []
          rw [henter, hr.live]
          exact hr
        · rw [hname]
          exact .of_eq hr.live

/-! ## Giving back -/

theorem leave_enter (h : s.contexts.length = 1) : s.leave 0 (s.enter 0) = s := by
  obtain ⟨b, hb⟩ := List.length_eq_one_iff.mp h
  have hc : s.contexts.set 0 (s.contexts.getD 0 default) = s.contexts := by
    simp [hb]
  change { s with contexts := s.contexts.set 0 (s.contexts.getD 0 default) } = s
  rw [hc]

/-- The names of boxes that are gone. -/
def gone (zs : List (Ref × Box Object)) : List (Kind × Id) :=
  (zs.map Store.face).filterMap nameOf?

/-- Destroying boxes is destroying what they name. -/
theorem forM_destroyBox (h : s.contexts.length = 1) (zs : List (Ref × Box Object))
    (hc : ∀ z ∈ zs, z.2.content.context = 0) :
    ((zs.map Prod.snd).forM destroyBox s).2 = (inContext 0 (destroyAll (gone zs)) s).2 := by
  induction zs generalizing s with
  | nil => exact (leave_enter h).symm
  | cons z zs ih =>
      have hz := hc z List.mem_cons_self
      have hzs : ∀ y ∈ zs, y.2.content.context = 0 := fun y hy => hc y (List.mem_cons_of_mem _ hy)
      change ((zs.map Prod.snd).forM destroyBox (destroyBox z.2 s).2).2 = _
      by_cases hid : z.2.id = 0
      · have hd : destroyBox z.2 s = ((), s) := by
          rw [destroyBox, if_pos hid]
          rfl
        have hg : gone (z :: zs) = gone zs := by
          simp [gone, Store.face, nameOf?, hid]
        rw [hd, hg]
        exact ih h hzs
      · have hd : destroyBox z.2 s =
            inContext 0 (ContextM.destroy z.2.content.payload.kind z.2.id) s := by
          rw [destroyBox, if_neg hid, hz]
        have hg : gone (z :: zs) = (z.2.content.payload.kind, z.2.id) :: gone zs := by
          simp [gone, Store.face, nameOf?, hid]
        have hl : (inContext 0 (ContextM.destroy z.2.content.payload.kind z.2.id) s).2 =
            s.leave 0 (ContextM.destroy z.2.content.payload.kind z.2.id (s.enter 0)).2 := rfl
        rw [hd, hg, hl, ih (length_leave h _) hzs]
        change (s.leave 0 _).leave 0 (destroyAll (gone zs) ((s.leave 0 _).enter 0)).2 = _
        rw [enter_leave h, leave_leave]
        rfl

theorem filter_not_mem_perm {l xs ys : List (Kind × Id)} (h : l.Perm (xs ++ ys))
    (hn : (xs ++ ys).Nodup) : (l.filter (· ∉ xs)).Perm ys := by
  have hdisjoint := (List.nodup_append.mp hn).2.2
  refine (h.filter _).trans (.of_eq ?_)
  have hx : xs.filter (· ∉ xs) = [] := List.filter_eq_nil_iff.mpr fun x hx => by simp [hx]
  have hy : ys.filter (· ∉ xs) = ys :=
    List.filter_eq_self.mpr fun y hy => decide_eq_true fun hm => hdisjoint y hm y hy rfl
  rw [List.filter_append, hx, hy, List.nil_append]

/-- What dropping references or a guard does: the boxes `zs` go. -/
structure Dropped (outside : List Ref) (zs : List (Ref × Box Object)) (s s' : Session Sim) :
    Prop where
  sound : s'.Sound outside
  ownersFirst : Store.OwnersFirst zs
  faces : s.store.faces.Perm (zs.map Store.face ++ s'.store.faces)
  deleted : s'.driver.deleted = s.driver.deleted ++ gone zs

/-- What giving references back does. -/
structure Given (outside rs : List Ref) (zs : List (Ref × Box Object)) (s s' : Session Sim) : Prop
    extends Dropped outside zs s s' where
  vars : s'.vars = s.vars
  givenBack : Store.GivenBack rs zs
  live : s'.driver.live = s.driver.live.filter (· ∉ gone zs)
  others : ∀ k i, (k, i) ∉ gone zs → s'.driver.stateOf k i = s.driver.stateOf k i

/-- If what is given back holds nothing, nothing else goes. -/
theorem Given.mem_given {rs : List Ref} {zs : List (Ref × Box Object)}
    (hg : Given outside rs zs s s') (h : s.Sound outside')
    (hrs : ∀ r ∈ rs, ∀ id o, (r, id, o) ∈ s.store.faces → o.payload.owned = [])
    {z : Ref × Box Object} (hz : z ∈ zs) : z.1 ∈ rs := by
  have hface : ∀ y ∈ zs, Store.face y ∈ s.store.faces := fun y hy =>
    hg.faces.mem_iff.mpr (List.mem_append_left _ (List.mem_map_of_mem hy))
  have howned : ∀ y ∈ zs, y.2.content.payload.owned = [] := by
    intro y hy
    rcases hg.givenBack y hy with hm | ⟨x, hx, hm⟩
    · exact hrs y.1 hm _ _ (hface y hy)
    · exact (h.parts _ _ _ (hface x hx) y.1 hm _ _ (hface y hy)).owned_eq_nil
  rcases hg.givenBack z hz with hm | ⟨y, hy, hm⟩
  · exact hm
  · have hnil : Owner.owned y.2.content = [] := howned y hy
    rw [hnil] at hm
    exact absurd hm List.not_mem_nil

/-- The names of the boxes that go, and of those that are left. -/
theorem names_perm {t t' : Store Object} {zs : List (Ref × Box Object)}
    (hp : t.faces.Perm (zs.map Store.face ++ t'.faces)) :
    (names t).Perm (gone zs ++ names t') := by
  have hf := hp.filterMap nameOf?
  rw [List.filterMap_append] at hf
  exact hf

/-- The boxes that go name different live objects. -/
theorem Sound.nodup_gone (h : s.Sound outside) {t' : Store Object} {zs : List (Ref × Box Object)}
    (hp : s.store.faces.Perm (zs.map Store.face ++ t'.faces)) :
    (gone zs).Nodup ∧ (∀ n ∈ gone zs, n ∈ s.driver.live) ∧ ∀ z ∈ zs, z.2.content.context = 0 := by
  have hnames := names_perm hp
  have hnodup : (gone zs ++ names t').Nodup := hnames.nodup_iff.mp h.nodup
  refine ⟨(List.nodup_append.mp hnodup).1, fun n hn => ?_, fun z hz => ?_⟩
  · exact h.named.mem_iff.mpr (hnames.mem_iff.mpr (List.mem_append_left _ hn))
  · refine h.home z.1 z.2.id z.2.content (hp.mem_iff.mpr ?_)
    exact List.mem_append_left _ (List.mem_map_of_mem hz)

/-- Giving back is destroying what the boxes named that the store let go. -/
theorem giveBack_eq (h : s.contexts.length = 1) {rs : List Ref} {zs : List (Ref × Box Object)}
    (hd : (s.store.release rs).1 = zs.map Prod.snd) (hc : ∀ z ∈ zs, z.2.content.context = 0) :
    (SessionM.giveBack rs s).2 =
      (inContext 0 (destroyAll (gone zs)) { s with store := (s.store.release rs).2 }).2 := by
  rw [← forM_destroyBox (s := { s with store := (s.store.release rs).2 }) h zs hc, ← hd]
  rfl

theorem Sound.giveBack {rs : List Ref} (h : s.Sound (rs ++ outside)) :
    ∃ zs, Given outside rs zs s (SessionM.giveBack rs s).2 := by
  obtain ⟨hbal, hnext, zs, hd, ho, hg, hp⟩ := h.balanced.release
  have hnames := names_perm hp
  have hnodup : (gone zs ++ names (s.store.release rs).2).Nodup := hnames.nodup_iff.mp h.nodup
  obtain ⟨hgone, hlive, hhome⟩ := h.nodup_gone hp
  have ha := allDestroyed_destroyAll h.ready h.wellNamed hgone hlive
  have hkept : ∀ {r id o}, (r, id, o) ∈ (s.store.release rs).2.faces → (r, id, o) ∈ s.store.faces :=
    fun hm => hp.mem_iff.mpr (List.mem_append_right _ hm)
  have hfilter : (s.driver.live.filter (· ∉ gone zs)).Perm (names (s.store.release rs).2) :=
    filter_not_mem_perm (h.named.trans hnames) hnodup
  have hlive' : (destroyAll (gone zs) (s.enter 0)).2.driver.live =
      s.driver.live.filter (· ∉ gone zs) := ha.ready.live
  rw [giveBack_eq h.single hd hhome]
  refine ⟨zs, ⟨⟨length_leave h.single _, ha.wellNamed, ?_, ?_, ?_, hbal, ?_, ?_, ?_⟩, ho, hp,
    ha.deleted⟩, rfl, hg, hlive', ha.others⟩
  · change ((s.leave 0 (destroyAll (gone zs) (s.enter 0)).2).enter 0).Ready
      (destroyAll (gone zs) (s.enter 0)).2.driver.live []
    rw [enter_leave h.single, hlive']
    exact ha.ready
  · exact (List.Perm.of_eq hlive').trans hfilter
  · refine ha.logged.trans ((congrArg (· ++ gone zs) h.logged).trans ?_)
    exact ha.deleted.symm
  · exact fun r id o hm q hq i' o' hm' => h.parts r id o (hkept hm) q hq i' o' (hkept hm')
  · exact fun r id o hm => h.home r id o (hkept hm)
  · exact fun r o hm => h.screens r o (hkept hm)

end Session

end GraphicsObjects
