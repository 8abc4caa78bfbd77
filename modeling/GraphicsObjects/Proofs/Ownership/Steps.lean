import GraphicsObjects.Ownership.Handles
import GraphicsObjects.Proofs.Ownership.Balance

/-!
# One step on handles

A step moves references between variables and deleters, and then gives some back. What it gives back
decides which boxes go, and which deleters run.
-/

namespace GraphicsObjects.Ownership

open Store

/-- A box that has been assigned has a deleter, and one that has not is empty. -/
structure Box.Proper (b : Box (Option Deleter)) : Prop where
  assigned : b.assigned = true → ∃ d, b.content = some d
  empty : b.assigned = false → b.id = 0 ∧ b.content = none

/-- A proper box with a name has a deletion to come. -/
theorem Box.Proper.deletion_eq {b b' : Box (Option Deleter)} (hp : b.Proper) (hid : b.id = b'.id)
    (hcontent : b.content = b'.content) (hne : b'.id ≠ 0) :
    ∃ d, b'.content = some d ∧ b'.deletion? = some ⟨d.tag, d.shape, b'.id⟩ := by
  cases ha : b.assigned with
  | false => exact absurd (hid.symm.trans (hp.empty ha).1) hne
  | true =>
      obtain ⟨d, hd⟩ := hp.assigned ha
      have hd' : b'.content = some d := hcontent.symm.trans hd
      exact ⟨d, hd', by simp [Box.deletion?, hd', hne]⟩

/-- The boxes differ in their counts at most. -/
structure Box.Same {α : Type} (b b' : Box α) : Prop where
  id : b'.id = b.id
  assigned : b'.assigned = b.assigned
  content : b'.content = b.content

theorem Box.Same.refl {α : Type} (b : Box α) : b.Same b := ⟨rfl, rfl, rfl⟩

theorem Box.Same.trans {α : Type} {b b' b'' : Box α} (h : b.Same b') (h' : b'.Same b'') :
    b.Same b'' :=
  ⟨h'.id.trans h.id, h'.assigned.trans h.assigned, h'.content.trans h.content⟩

theorem Box.Same.proper {b b' : Box (Option Deleter)} (h : b.Same b') (hp : b.Proper) :
    b'.Proper where
  assigned ha := h.content ▸ hp.assigned (h.assigned ▸ ha)
  empty ha := h.id ▸ h.content ▸ hp.empty (h.assigned ▸ ha)

/-! ## Stores -/

section Store

variable {α : Type} {s : Store α} {r : Ref} {b' : Box α} {rs : List Ref}

theorem get?_recount {f : Box α → Box α} {q : Ref} (h : (s.modify q f).get? r = some b')
    (hf : ∀ b : Box α, b.Same (f b)) : ∃ b, s.get? r = some b ∧ b.Same b' := by
  rw [get?_modify] at h
  split at h
  · obtain ⟨b, hb, rfl⟩ := Option.map_eq_some_iff.mp h
    exact ⟨b, hb, hf b⟩
  · exact ⟨b', h, .refl b'⟩

theorem next_release [Owner α] (s : Store α) (rs : List Ref) :
    (s.release rs).2.next = s.next := by
  fun_induction Store.release s rs with
  | case1 => rfl
  | case2 _ _ _ _ ih => exact ih
  | case3 _ _ _ _ _ _ ih => exact ih
  | case4 _ _ _ _ _ _ _ _ he ih =>
      rw [he] at ih
      exact ih

/-- What is left after references were given back was there before, with another count at most. -/
theorem get?_release [Owner α] (h : (s.release rs).2.get? r = some b') :
    ∃ b, s.get? r = some b ∧ b.Same b' := by
  fun_induction Store.release s rs with
  | case1 s => exact ⟨b', h, .refl b'⟩
  | case2 s q rs hq ih => exact ih h
  | case3 s q rs b hq h1 ih =>
      obtain ⟨b₁, hb₁, hsame⟩ := ih h
      obtain ⟨b₀, hb₀, hsame'⟩ := get?_recount hb₁ fun _ => ⟨rfl, rfl, rfl⟩
      exact ⟨b₀, hb₀, hsame'.trans hsame⟩
  | case4 s q rs b hq h1 destroyed s' he ih =>
      rw [he] at ih
      obtain ⟨b₁, hb₁, hsame⟩ := ih h
      have hget : ({ s with boxes := s.boxes.erase q } : Store α).get? r =
          if r = q then none else s.get? r := Table.get?_erase ..
      rw [hget] at hb₁
      split at hb₁
      · cases hb₁
      · exact ⟨b₁, hb₁, hsame⟩

/-- What is destroyed was there before. -/
theorem exists_of_mem_release [Owner α] {z : Box α} (h : z ∈ (s.release rs).1) :
    ∃ r b, s.get? r = some b ∧ z.content = b.content := by
  fun_induction Store.release s rs with
  | case1 => cases h
  | case2 s q rs hq ih => exact ih h
  | case3 s q rs b hq h1 ih =>
      obtain ⟨r, b₁, hb₁, hz⟩ := ih h
      obtain ⟨b₀, hb₀, hsame⟩ := get?_recount hb₁ fun _ => ⟨rfl, rfl, rfl⟩
      exact ⟨r, b₀, hb₀, hz.trans hsame.content⟩
  | case4 s q rs b hq h1 destroyed s' he ih =>
      rcases List.mem_cons.mp h with rfl | h
      · exact ⟨q, z, hq, rfl⟩
      · rw [he] at ih
        obtain ⟨r, b₁, hb₁, hz⟩ := ih h
        have hget : ({ s with boxes := s.boxes.erase q } : Store α).get? r =
            if r = q then none else s.get? r := Table.get?_erase ..
        rw [hget] at hb₁
        split at hb₁
        · cases hb₁
        · exact ⟨r, b₁, hb₁, hz⟩

theorem keys_nodup (s : Store α) : (s.faces.map Prod.fst).Nodup := by
  simp only [faces, List.map_map]
  exact s.boxes.nodup

theorem mem_keys_iff : r ∈ s.faces.map Prod.fst ↔ ∃ b, s.get? r = some b := by
  constructor
  · intro h
    obtain ⟨⟨r, id, content⟩, hx, rfl⟩ := List.mem_map.mp h
    obtain ⟨b, hb, -⟩ := mem_faces_iff.mp hx
    exact ⟨b, hb⟩
  · rintro ⟨b, hb⟩
    exact List.mem_map.mpr ⟨_, mem_faces_iff.mpr ⟨b, hb, rfl, rfl⟩, rfl⟩

/-! Boxes that went, with what is left of a store without them. -/

variable {s' : Store α} {gone : List (Ref × Box α)}

theorem keys_perm (hf : s.faces.Perm (gone.map face ++ s'.faces)) :
    (s.faces.map Prod.fst).Perm (gone.map Prod.fst ++ s'.faces.map Prod.fst) := by
  have hkeys := hf.map Prod.fst
  rw [List.map_append, List.map_map] at hkeys
  exact hkeys

theorem nodup_of_gone (hf : s.faces.Perm (gone.map face ++ s'.faces)) :
    (gone.map Prod.fst).Nodup ∧ ∀ r ∈ gone.map Prod.fst, s'.get? r = none := by
  obtain ⟨hdistinct, -, hdisjoint⟩ :=
    List.nodup_append.mp ((keys_perm hf).nodup_iff.mp (keys_nodup s))
  refine ⟨hdistinct, fun r hr => Option.eq_none_iff_forall_ne_some.mpr fun b hb => ?_⟩
  exact hdisjoint r hr r (mem_keys_iff.mpr ⟨b, hb⟩) rfl

theorem gone_of_get? {b : Box α} (hf : s.faces.Perm (gone.map face ++ s'.faces))
    (hb : s.get? r = some b) (hn : s'.get? r = none) : r ∈ gone.map Prod.fst := by
  have hkey := (keys_perm hf).mem_iff.mp (mem_keys_iff.mpr ⟨b, hb⟩)
  refine (List.mem_append.mp hkey).resolve_right fun hm => ?_
  obtain ⟨b', hb'⟩ := mem_keys_iff.mp hm
  cases hn.symm.trans hb'

theorem get?_of_gone (hf : s.faces.Perm (gone.map face ++ s'.faces)) {z : Ref × Box α}
    (hz : z ∈ gone) : ∃ b, s.get? z.1 = some b ∧ b.id = z.2.id ∧ b.content = z.2.content :=
  mem_faces_iff.mp (hf.mem_iff.mpr (List.mem_append_left _ (List.mem_map_of_mem hz)))

end Store

namespace Handles

variable {h h₁ : Handles} {names : List String} {rs : List Ref}

/-! ## Deletions to come -/

/-- The deletions that the end of the boxes would bring about. -/
def pending (h : Handles) : List Deletion := h.store.boxes.values.filterMap Box.deletion?

/-- The deleters that have not run. -/
def deleters (h : Handles) : List Deleter := h.store.boxes.values.filterMap (·.content)

/-- How many references to a box there are in variables and in deleters. -/
def holders (h : Handles) (r : Ref) : Nat :=
  h.vars.values.count r + (h.deleters.flatMap (·.owned)).count r

theorem pending_eq (h : Handles) : h.pending =
    h.store.faces.flatMap fun x => (Box.deletion? ⟨x.2.1, true, 0, x.2.2⟩).toList := by
  simp only [pending, Table.values, faces, List.filterMap_eq_flatMap_toList, List.flatMap_map]
  rfl

theorem inner_eq (h : Handles) : h.store.inner = h.deleters.flatMap (·.owned) := by
  simp only [Store.inner, faces, deleters, Table.values]
  induction h.store.boxes.entries with
  | nil => rfl
  | cons e es ih =>
      obtain ⟨r, id, assigned, refs, content⟩ := e
      cases content with
      | none => simpa [face, Owner.owned] using ih
      | some d => simpa [face, Owner.owned] using ih

/-! ## Deleters -/

/-- The variables that are taken set their references free. -/
theorem take_eq (ht : h.take names = some (rs, h₁)) :
    h₁.store = h.store ∧ h.vars.values.Perm (rs ++ h₁.vars.values) ∧
      ∀ name, h₁.vars.get? name = if name ∈ names then none else h.vars.get? name := by
  induction names generalizing h rs with
  | nil =>
      cases ht
      exact ⟨rfl, .refl _, fun _ => rfl⟩
  | cons name names ih =>
      simp only [take, Option.bind_eq_bind, Option.bind_eq_some_iff, Option.pure_def,
        Option.some.injEq, Prod.mk.injEq, Prod.exists] at ht
      obtain ⟨r, hr, rs', h₂, ht, rfl, rfl⟩ := ht
      obtain ⟨hstore, hvalues, hvars⟩ := ih ht
      refine ⟨hstore, ?_, fun name' => ?_⟩
      · have hperm := h.vars.values_perm name
        rw [hr] at hperm
        exact hperm.trans (hvalues.cons r)
      · rw [hvars name', Table.get?_erase]
        by_cases hn : name' = name <;> simp [hn]

theorem get?_of_take {name : String} {r : Ref} (ht : h.take names = some (rs, h₁))
    (hr : h₁.vars.get? name = some r) : h.vars.get? name = some r := by
  rw [(take_eq ht).2.2 name] at hr
  split at hr
  · cases hr
  · exact hr

theorem makeDeleter_eq {d : DeleterSpec} {x : Deleter} (hm : h.makeDeleter d = some (x, h₁)) :
    x.tag = d.tag ∧ x.shape = d.shape ∧ h.take d.taken = some (x.owned, h₁) := by
  simp only [makeDeleter, Option.bind_eq_bind, Option.bind_eq_some_iff, Option.pure_def,
    Option.some.injEq, Prod.mk.injEq, Prod.exists] at hm
  obtain ⟨rs, h₂, ht, rfl, rfl⟩ := hm
  exact ⟨rfl, rfl, ht⟩

theorem lookup_eq {name : String} {r : Ref} {b : Box (Option Deleter)}
    (hl : h.lookup name = some (r, b)) : h.vars.get? name = some r ∧ h.store.get? r = some b := by
  simp only [lookup, Option.bind_eq_some_iff, Option.map_eq_some_iff, Prod.mk.injEq] at hl
  obtain ⟨q, hq, b', hb', rfl, rfl⟩ := hl
  exact ⟨hq, hb'⟩

end Handles

/-! ## Before anything is given back -/

/-- The deletion that a deleter handed to a box is to bring about. -/
def HandleOp.given : (op : HandleOp) → op.Answer → List Deletion
  | .create _ id d, _ => [⟨d.tag, d.shape, id⟩]
  | .assign _ id d, .ok () => [⟨d.tag, d.shape, id⟩]
  | _, _ => []

/-- What a step may do to a box that stays: only the first assignment of a box changes its name,
which was 0. -/
def Handles.Changes (h : Handles) (op : HandleOp) (r : Ref) (b b' : Box (Option Deleter)) : Prop :=
  b.Same b' ∨ b.assigned = false ∧ b.id = 0 ∧ b'.assigned = true ∧
    ∃ target d, op = .assign target b'.id d ∧ h.vars.get? target = some r

namespace Handles

variable {h h' h₁ : Handles} {op : HandleOp} {rs : List Ref}

/-- The counts are right, and boxes have deleters just if they have been assigned. -/
structure Sound (h : Handles) : Prop where
  balanced : h.store.Balanced h.vars.values
  proper : ∀ r b, h.store.get? r = some b → b.Proper

/-- How a step arranges boxes and variables before it gives the references `rs` back. -/
structure Arranged (h : Handles) (op : HandleOp) (answer : op.Answer) (rs : List Ref)
    (h₁ : Handles) : Prop where
  balanced : h₁.store.Balanced (rs ++ h₁.vars.values)
  proper : ∀ r b, h₁.store.get? r = some b → b.Proper
  /-- A box that changes is in a variable. -/
  kept : ∀ r b, h.store.get? r = some b → ∃ b₁, h₁.store.get? r = some b₁ ∧ h.Changes op r b b₁ ∧
    (b.Same b₁ ∨ r ∈ h₁.vars.values)
  /-- So is a box that is new. -/
  new : ∀ r b₁, h₁.store.get? r = some b₁ →
    (∃ b, h.store.get? r = some b) ∨ h.store.next ≤ r ∧ r ∈ h₁.vars.values
  next : h.store.next ≤ h₁.store.next
  pending : h₁.pending.Perm (h.pending ++ (op.given answer).filter (·.id ≠ 0))

/-- Only variables differ. -/
theorem Sound.arranged_of_store (hs : h.Sound) {answer : op.Answer} (he : h₁.store = h.store)
    (hv : h.vars.values.Perm (rs ++ h₁.vars.values)) (hg : op.given answer = []) :
    Arranged h op answer rs h₁ where
  balanced := he ▸ hs.balanced.perm hv
  proper := he ▸ hs.proper
  kept r b hb := ⟨b, he ▸ hb, .inl (.refl b), .inl (.refl b)⟩
  new r b hb := .inl ⟨b, he ▸ hb⟩
  next := Nat.le_of_eq (congrArg Store.next he.symm)
  pending := by
    rw [hg, pending, he]
    simp [pending]

/-- A new box takes over references from variables. -/
theorem Sound.arranged_of_add (hs : h.Sound) {answer : op.Answer} (id : Id) (assigned : Bool)
    (content : Option Deleter) (he : h₁.store = h.store)
    (hv : h.vars.values.Perm (Owner.owned content ++ h₁.vars.values))
    (hp : (Box.mk id assigned 1 content).Proper)
    (hg : (op.given answer).filter (·.id ≠ 0) = (Box.mk id assigned 1 content).deletion?.toList)
    (name : String) :
    Arranged h op answer (h₁.vars.get? name).toList {
      store := (h₁.store.add id assigned content).2
      vars := h₁.vars.insert name h₁.store.next } where
  balanced := by
    rw [he]
    exact ((hs.balanced.perm hv).add id assigned).perm (Table.values_insert_perm ..)
  proper r b hb := by
    rw [get?_add] at hb
    split at hb
    · cases hb
      exact hp
    · exact hs.proper r b (he ▸ hb)
  kept r b hb := by
    have hne : r ≠ h₁.store.next := by
      rintro rfl
      rw [he, hs.balanced.fresh _ (Nat.le_refl _)] at hb
      cases hb
    refine ⟨b, ?_, .inl (.refl b), .inl (.refl b)⟩
    rw [get?_add, if_neg hne, he]
    exact hb
  new r b hb := by
    rw [get?_add] at hb
    split at hb
    · rename_i hr
      subst hr
      refine .inr ⟨Nat.le_of_eq (congrArg Store.next he.symm), ?_⟩
      rw [Table.values_insert]
      exact List.mem_cons_self
    · exact .inl ⟨b, he ▸ hb⟩
  next := Nat.le_succ_of_le (Nat.le_of_eq (congrArg Store.next he.symm))
  pending := by
    have hfresh : h₁.store.get? h₁.store.next = none := he ▸ hs.balanced.fresh _ (Nat.le_refl _)
    rw [hg, pending_eq, faces_add hfresh, List.flatMap_cons, he, ← pending_eq]
    exact List.perm_append_comm

theorem given_filter {d : DeleterSpec} {x : Deleter} (htag : x.tag = d.tag)
    (hshape : x.shape = d.shape) (id : Id) (assigned : Bool) (refs : Nat) :
    ([⟨d.tag, d.shape, id⟩] : List Deletion).filter (·.id ≠ 0) =
      (Box.mk id assigned refs (some x)).deletion?.toList := by
  simp only [Box.deletion?, Option.bind_some, htag, hshape]
  by_cases hid : id = 0 <;> simp [hid]

/-- A box that was not assigned gets its name and a deleter. -/
theorem Sound.arranged_of_assign (hs : h.Sound) {target : String} {id : Id} {d : DeleterSpec}
    {x : Deleter} {r : Ref} {b : Box (Option Deleter)} (he : h₁.store = h.store)
    (hv : h.vars.values.Perm (x.owned ++ h₁.vars.values)) (htag : x.tag = d.tag)
    (hshape : x.shape = d.shape) (ht : h.vars.get? target = some r)
    (ht₁ : h₁.vars.get? target = some r) (hb : h.store.get? r = some b)
    (ha : b.assigned = false) :
    Arranged h (.assign target id d) (.ok ()) [] { h₁ with
      store := h₁.store.modify r fun b => { b with id, assigned := true, content := some x } } := by
  obtain ⟨hid, hcontent⟩ := (hs.proper r b hb).empty ha
  rw [he]
  constructor
  · refine (hs.balanced.perm hv).modify hb (fun _ => rfl) ?_
    rw [hcontent]
    exact List.perm_append_comm.trans (.of_eq (List.append_nil _).symm)
  · intro q b' hb'
    rw [get?_modify] at hb'
    split at hb'
    · obtain ⟨b₀, -, rfl⟩ := Option.map_eq_some_iff.mp hb'
      exact ⟨fun _ => ⟨x, rfl⟩, nofun⟩
    · exact hs.proper q b' hb'
  · intro q b' hb'
    rw [get?_modify]
    split
    · rename_i hq
      subst hq
      cases hb.symm.trans hb'
      refine ⟨_, congrArg _ hb, .inr ⟨ha, hid, rfl, target, d, rfl, ht⟩, .inr ?_⟩
      exact Table.mem_values_of_get? ht₁
    · exact ⟨b', hb', .inl (.refl b'), .inl (.refl b')⟩
  · intro q b' hb'
    rw [get?_modify] at hb'
    split at hb'
    · obtain ⟨b₀, hb₀, -⟩ := Option.map_eq_some_iff.mp hb'
      exact .inl ⟨b₀, hb₀⟩
    · exact .inl ⟨b', hb'⟩
  · exact Nat.le_refl _
  · have hg : (HandleOp.given (.assign target id d) (.ok ())).filter (·.id ≠ 0) =
        (Box.mk id true b.refs (some x)).deletion?.toList := given_filter htag hshape id true b.refs
    rw [hg]
    simp only [pending_eq]
    refine ((faces_modify_perm _ hb).flatMap_right _).trans ?_
    refine .trans ?_ (((faces_perm hb).flatMap_right _).append_right _).symm
    rw [List.flatMap_cons, List.flatMap_cons]
    simp only [face, Box.deletion?, hcontent]
    exact List.perm_append_comm

/-- One more variable refers to a box. -/
theorem Sound.arranged_of_retain (hs : h.Sound) {answer : op.Answer} {r : Ref}
    {b : Box (Option Deleter)} (hb : h.store.get? r = some b) (hg : op.given answer = [])
    (name : String) :
    Arranged h op answer (h.vars.get? name).toList {
      store := h.store.retain r
      vars := h.vars.insert name r } := by
  constructor
  · exact (hs.balanced.retain hb).perm (Table.values_insert_perm ..)
  · intro q b' hb'
    obtain ⟨b₀, hb₀, hsame⟩ := get?_recount hb' fun _ => ⟨rfl, rfl, rfl⟩
    exact hsame.proper (hs.proper q b₀ hb₀)
  · intro q b' hb'
    rw [Store.retain, get?_modify, hb']
    split
    · exact ⟨_, rfl, .inl ⟨rfl, rfl, rfl⟩, .inl ⟨rfl, rfl, rfl⟩⟩
    · exact ⟨b', rfl, .inl (.refl b'), .inl (.refl b')⟩
  · intro q b' hb'
    obtain ⟨b₀, hb₀, -⟩ := get?_recount hb' fun _ => ⟨rfl, rfl, rfl⟩
    exact .inl ⟨b₀, hb₀⟩
  · exact Nat.le_refl _
  · rw [hg, pending_eq, faces_retain, ← pending_eq]
    exact .of_eq (List.append_nil _).symm

theorem release_nil (h : Handles) : h.release [] = ([], h) := by
  simp only [release, Store.release]
  rfl

/-- Every step arranges boxes and variables first, and then gives references back. -/
theorem Sound.step (hs : h.Sound) {answer : op.Answer} {deleted : List Deletion}
    (hstep : h.step op = some (answer, deleted, h')) :
    ∃ rs h₁, Arranged h op answer rs h₁ ∧ (deleted, h') = h₁.release rs := by
  cases op with
  | create name id d =>
      simp only [Handles.step, Option.bind_eq_bind, Option.bind_eq_some_iff, Prod.exists] at hstep
      obtain ⟨x, h₁, hx, he⟩ := hstep
      obtain ⟨htag, hshape, htake⟩ := makeDeleter_eq hx
      obtain ⟨hstore, hvalues, -⟩ := take_eq htake
      have hg : (HandleOp.given (.create name id d) answer).filter (·.id ≠ 0) =
          (Box.mk id true 1 (some x)).deletion?.toList := given_filter htag hshape id true 1
      have harranged : Arranged h (.create name id d) answer _ _ :=
        hs.arranged_of_add id true (some x) hstore hvalues ⟨fun _ => ⟨x, rfl⟩, nofun⟩ hg name
      cases he
      exact ⟨_, _, harranged, rfl⟩
  | pending name =>
      have hvalues : h.vars.values.Perm (Owner.owned (none : Option Deleter) ++ h.vars.values) :=
        .refl _
      have harranged : Arranged h (.pending name) answer _ _ :=
        hs.arranged_of_add 0 false none rfl hvalues ⟨nofun, fun _ => ⟨rfl, rfl⟩⟩ rfl name
      cases hstep
      exact ⟨_, _, harranged, rfl⟩
  | assign target id d =>
      simp only [Handles.step, Option.bind_eq_bind, Option.bind_eq_some_iff, Prod.exists] at hstep
      obtain ⟨x, h₁, hx, r, b, hl, he⟩ := hstep
      obtain ⟨htag, hshape, htake⟩ := makeDeleter_eq hx
      obtain ⟨hstore, hvalues, -⟩ := take_eq htake
      obtain ⟨hv, hb⟩ := lookup_eq hl
      rw [hstore] at hb
      have ht : h.vars.get? target = some r := get?_of_take htake hv
      split at he
      · cases he
        exact ⟨x.owned, h₁, hs.arranged_of_store hstore hvalues rfl, rfl⟩
      · rename_i ha
        cases he
        have ha' : b.assigned = false := by simpa using ha
        exact ⟨[], _, hs.arranged_of_assign hstore hvalues htag hshape ht hv hb ha',
          (release_nil _).symm⟩
  | clone source name =>
      simp only [Handles.step, Option.bind_eq_bind, Option.bind_eq_some_iff, Prod.exists] at hstep
      obtain ⟨r, b, hl, he⟩ := hstep
      obtain ⟨hv, hb⟩ := lookup_eq hl
      cases he
      exact ⟨_, _, hs.arranged_of_retain hb rfl name, rfl⟩
  | drop target =>
      simp only [Handles.step, Option.bind_eq_bind, Option.bind_eq_some_iff, Prod.exists] at hstep
      obtain ⟨r, b, hl, he⟩ := hstep
      obtain ⟨hv, hb⟩ := lookup_eq hl
      have hvalues := h.vars.values_perm target
      rw [hv] at hvalues
      cases he
      exact ⟨[r], { h with vars := h.vars.erase target },
        hs.arranged_of_store rfl hvalues rfl, rfl⟩
  | info target =>
      simp only [Handles.step, Option.bind_eq_bind, Option.bind_eq_some_iff, Prod.exists] at hstep
      obtain ⟨r, b, hl, he⟩ := hstep
      cases he
      exact ⟨[], h, hs.arranged_of_store rfl (.refl _) rfl, (release_nil h).symm⟩
  | sameBox one other =>
      simp only [Handles.step, Option.bind_eq_bind, Option.bind_eq_some_iff, Prod.exists] at hstep
      obtain ⟨r, b, hl, q, b', hl', he⟩ := hstep
      cases he
      exact ⟨[], h, hs.arranged_of_store rfl (.refl _) rfl, (release_nil h).symm⟩
  | inspect d =>
      simp only [Handles.step, Option.bind_eq_bind, Option.bind_eq_some_iff, Prod.exists] at hstep
      obtain ⟨x, h₁, hx, he⟩ := hstep
      obtain ⟨-, -, htake⟩ := makeDeleter_eq hx
      obtain ⟨hstore, hvalues, -⟩ := take_eq htake
      cases he
      exact ⟨x.owned, h₁, hs.arranged_of_store hstore hvalues rfl, rfl⟩

end Handles

end GraphicsObjects.Ownership
