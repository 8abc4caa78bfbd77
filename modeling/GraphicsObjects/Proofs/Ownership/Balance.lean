import Mathlib
import GraphicsObjects.Ownership.Store

/-!
# Balanced stores

The count of a box is the number of references to it, those from outside and those that other boxes
hold. Every operation on a store keeps the balance when the references from outside are adjusted,
and giving references back destroys a box before what only that box referred to.
-/

namespace GraphicsObjects.Ownership

namespace Store

variable {α : Type}

/-- The count of a box, 0 if there is none. -/
def refs (s : Store α) (r : Ref) : Nat := (s.get? r).elim 0 (·.refs)

/-- A box without its count. -/
def face (e : Ref × Box α) : Ref × Id × α := (e.1, e.2.id, e.2.content)

/-- The boxes without their counts. -/
def faces (s : Store α) : List (Ref × Id × α) := s.boxes.entries.map face

/-- The references that the boxes hold. -/
def inner [Owner α] (s : Store α) : List Ref := s.faces.flatMap fun x => Owner.owned x.2.2

variable {s : Store α} {r q : Ref} {b : Box α} {roots roots' : List Ref} {f : Box α → Box α}

theorem get?_modify (s : Store α) (r q : Ref) (f : Box α → Box α) :
    (s.modify r f).get? q = if q = r then (s.get? q).map f else s.get? q :=
  Table.get?_modify ..

theorem mem_faces_iff {id : Id} {content : α} :
    (r, id, content) ∈ s.faces ↔ ∃ b, s.get? r = some b ∧ b.id = id ∧ b.content = content := by
  simp only [faces, List.mem_map, face, Prod.mk.injEq]
  constructor
  · rintro ⟨⟨r', b⟩, hm, rfl, rfl, rfl⟩
    exact ⟨b, Table.mem_entries_iff.1 hm, rfl, rfl⟩
  · rintro ⟨b, hb, rfl, rfl⟩
    exact ⟨(r, b), Table.mem_entries_iff.2 hb, rfl, rfl, rfl⟩

/-- A change of counts shows in no face. -/
theorem faces_modify (h : ∀ b, (f b).id = b.id ∧ (f b).content = b.content) :
    (s.modify r f).faces = s.faces := by
  simp only [faces, modify, Table.modify, Table.mapValues, List.map_map]
  refine List.map_congr_left fun e _ => ?_
  simp only [Function.comp, face]
  split
  · rw [(h e.2).1, (h e.2).2]
  · rfl

theorem faces_retain (s : Store α) (r : Ref) : (s.retain r).faces = s.faces :=
  faces_modify fun _ => ⟨rfl, rfl⟩

theorem faces_giveBack (s : Store α) (r : Ref) :
    (s.modify r fun b => { b with refs := b.refs - 1 }).faces = s.faces :=
  faces_modify fun _ => ⟨rfl, rfl⟩

theorem faces_perm (h : s.get? r = some b) :
    s.faces.Perm (face (r, b) :: ({ s with boxes := s.boxes.erase r } : Store α).faces) :=
  (Table.entries_perm h).map face

theorem faces_modify_perm (f : Box α → Box α) (h : s.get? r = some b) :
    (s.modify r f).faces.Perm
      (face (r, f b) :: ({ s with boxes := s.boxes.erase r } : Store α).faces) :=
  (Table.entries_modify f h).map face

theorem refs_modify (h : s.get? r = some b) :
    (s.modify r f).refs q = if q = r then (f b).refs else s.refs q := by
  by_cases hq : q = r
  · subst hq
    simp [refs, get?_modify, h]
  · simp [refs, get?_modify, hq]

theorem faces_add (h : s.get? s.next = none) (id : Id) (assigned : Bool) (content : α) :
    (s.add id assigned content).2.faces = (s.next, id, content) :: s.faces := by
  change face _ :: (s.boxes.erase s.next).entries.map face = _
  rw [Table.entries_erase h]
  rfl

theorem get?_add (s : Store α) (id : Id) (assigned : Bool) (content : α) (r : Ref) :
    (s.add id assigned content).2.get? r =
      if r = s.next then some ⟨id, assigned, 1, content⟩ else s.get? r :=
  Table.get?_insert ..

theorem fresh_modify (h : ∀ q, s.next ≤ q → s.get? q = none) (hq : s.next ≤ q) :
    (s.modify r f).get? q = none := by
  rw [get?_modify, h q hq]
  split <;> rfl

variable [Owner α]

theorem mem_inner_iff : q ∈ s.inner ↔ ∃ r b, s.get? r = some b ∧ q ∈ Owner.owned b.content := by
  simp only [inner, List.mem_flatMap]
  constructor
  · rintro ⟨⟨r, id, content⟩, hm, hq⟩
    obtain ⟨b, hb, -, rfl⟩ := mem_faces_iff.1 hm
    exact ⟨r, b, hb, hq⟩
  · rintro ⟨r, b, hb, hq⟩
    exact ⟨_, mem_faces_iff.2 ⟨b, hb, rfl, rfl⟩, hq⟩

theorem inner_perm (h : s.get? r = some b) :
    s.inner.Perm
      (Owner.owned b.content ++ ({ s with boxes := s.boxes.erase r } : Store α).inner) :=
  (faces_perm h).flatMap_right _

/-- Every count is right, and there are no boxes without references. -/
structure Balanced (s : Store α) (roots : List Ref) : Prop where
  counts : ∀ r, s.refs r = (roots ++ s.inner).count r
  referred : ∀ r b, s.get? r = some b → 0 < b.refs
  fresh : ∀ r, s.next ≤ r → s.get? r = none

theorem Balanced.empty : (Store.empty : Store α).Balanced [] where
  counts _ := rfl
  referred _ _ h := nomatch h
  fresh _ _ := rfl

theorem Balanced.perm (h : s.Balanced roots) (hp : roots.Perm roots') : s.Balanced roots' where
  counts r := (h.counts r).trans ((hp.append_right _).count_eq r)
  referred := h.referred
  fresh := h.fresh

/-- No reference dangles. -/
theorem Balanced.get?_of_mem (h : s.Balanced roots) (hm : r ∈ roots ++ s.inner) :
    ∃ b, s.get? r = some b := by
  have hpos := List.count_pos_iff.2 hm
  rw [← h.counts] at hpos
  cases hb : s.get? r with
  | none => simp [refs, hb] at hpos
  | some b => exact ⟨b, rfl⟩

/-- Every box is referred to, from outside or by a box. -/
theorem Balanced.mem_of_get? (h : s.Balanced roots) (hb : s.get? r = some b) :
    r ∈ roots ++ s.inner := by
  have hc := h.counts r
  have hpos := h.referred r b hb
  refine List.count_pos_iff.1 ?_
  simp only [refs, hb, Option.elim_some] at hc
  omega

/-! ## More references -/

/-- A new box takes over the references that it holds. -/
theorem Balanced.add {content : α} (h : s.Balanced (Owner.owned content ++ roots)) (id : Id)
    (assigned : Bool) : (s.add id assigned content).2.Balanced (s.next :: roots) := by
  have hnew : s.get? s.next = none := h.fresh _ (Nat.le_refl _)
  have hinner : (s.add id assigned content).2.inner = Owner.owned content ++ s.inner := by
    rw [inner, faces_add hnew, List.flatMap_cons]
    rfl
  constructor
  · intro r
    have hc := h.counts r
    rw [hinner, List.cons_append, List.count_cons]
    simp only [refs, get?_add, List.count_append] at hc ⊢
    by_cases hr : r = s.next
    · subst hr
      simp only [hnew, Option.elim_none] at hc
      simp only [if_true, Option.elim_some, BEq.rfl]
      omega
    · have hr' : ¬ s.next = r := fun e => hr e.symm
      simp only [if_neg hr, beq_iff_eq, if_neg hr']
      omega
  · intro r b hb
    rw [get?_add] at hb
    split at hb
    · cases hb
      exact Nat.one_pos
    · exact h.referred r b hb
  · intro r hr
    have hlt : s.next < r := hr
    rw [get?_add, if_neg (Nat.ne_of_gt hlt)]
    exact h.fresh r (Nat.le_of_lt hlt)

theorem Balanced.retain (h : s.Balanced roots) (hb : s.get? r = some b) :
    (s.retain r).Balanced (r :: roots) := by
  have hinner : (s.retain r).inner = s.inner := by
    rw [inner, faces_retain]
    rfl
  constructor
  · intro q
    have hc := h.counts q
    rw [hinner, Store.retain, refs_modify hb, List.cons_append, List.count_cons, ← hc]
    by_cases hq : q = r
    · subst hq
      simp [refs, hb]
    · have hq' : ¬ r = q := fun e => hq e.symm
      simp [hq, hq']
  · intro q b' hb'
    rw [Store.retain, get?_modify] at hb'
    split at hb'
    · obtain ⟨b'', -, rfl⟩ := Option.map_eq_some_iff.1 hb'
      exact Nat.succ_pos _
    · exact h.referred q b' hb'
  · exact fun q hq => fresh_modify h.fresh hq

/-- References may move from outside into a box and back. -/
theorem Balanced.modify (h : s.Balanced roots) (hb : s.get? r = some b)
    (hf : ∀ b, (f b).refs = b.refs)
    (hp : (roots' ++ Owner.owned (f b).content).Perm (roots ++ Owner.owned b.content)) :
    (s.modify r f).Balanced roots' := by
  have hinner : (s.modify r f).inner.Perm
      (Owner.owned (f b).content ++ ({ s with boxes := s.boxes.erase r } : Store α).inner) :=
    (faces_modify_perm f hb).flatMap_right _
  have hrefs : ∀ q, (s.modify r f).refs q = s.refs q := by
    intro q
    rw [refs_modify hb]
    split
    · rename_i hq
      simp [hq, refs, hb, hf]
    · rfl
  constructor
  · intro q
    rw [hrefs, h.counts q]
    have hold := (inner_perm hb).count_eq q
    have hnew := hinner.count_eq q
    have hmoved := hp.count_eq q
    simp only [List.count_append] at hold hnew hmoved ⊢
    omega
  · intro q b' hb'
    rw [get?_modify] at hb'
    split at hb'
    · obtain ⟨b'', hb'', rfl⟩ := Option.map_eq_some_iff.1 hb'
      rw [hf]
      exact h.referred q b'' hb''
    · exact h.referred q b' hb'
  · exact fun q hq => fresh_modify h.fresh hq

/-! ## Giving back -/

/-- No box comes after a box that it owned. -/
def OwnersFirst (zs : List (Ref × Box α)) : Prop :=
  zs.Pairwise fun x y => x.1 ∉ Owner.owned y.2.content

/-- Every box was given back, or was owned by another of them. -/
def GivenBack (rs : List Ref) (zs : List (Ref × Box α)) : Prop :=
  ∀ z ∈ zs, z.1 ∈ rs ∨ ∃ y ∈ zs, z.1 ∈ Owner.owned y.2.content

/-- A box of which several references are left. -/
theorem Balanced.giveBack_shared (h : s.Balanced (r :: roots)) (hb : s.get? r = some b)
    (h1 : 1 < b.refs) : (s.modify r fun b => { b with refs := b.refs - 1 }).Balanced roots := by
  have hinner : (s.modify r fun b => { b with refs := b.refs - 1 }).inner = s.inner := by
    rw [inner, faces_giveBack]
    rfl
  constructor
  · intro q
    have hc := h.counts q
    rw [List.cons_append, List.count_cons] at hc
    rw [hinner, refs_modify hb]
    by_cases hq : q = r
    · subst hq
      simp only [refs, hb, Option.elim_some, BEq.rfl, if_true] at hc
      simp only [if_true]
      omega
    · have hq' : ¬ r = q := fun e => hq e.symm
      simpa [hq, hq'] using hc
  · intro q b' hb'
    rw [get?_modify] at hb'
    split at hb'
    · rename_i hq
      subst hq
      rw [hb] at hb'
      cases hb'
      exact Nat.sub_pos_of_lt h1
    · exact h.referred q b' hb'
  · exact fun q hq => fresh_modify h.fresh hq

/-- Nothing else refers to a box whose last reference is given back. -/
theorem Balanced.not_mem_of_last (h : s.Balanced (r :: roots)) (hb : s.get? r = some b)
    (h1 : ¬ 1 < b.refs) : r ∉ roots ++ s.inner := by
  have hc := h.counts r
  simp only [List.cons_append, List.count_cons_self, refs, hb, Option.elim_some] at hc
  exact List.count_eq_zero.1 (by omega)

/-- A box whose last reference is given back goes, and what it held is to be given back. -/
theorem Balanced.giveBack_last (h : s.Balanced (r :: roots)) (hb : s.get? r = some b)
    (h1 : ¬ 1 < b.refs) :
    ({ s with boxes := s.boxes.erase r } : Store α).Balanced
      (roots ++ Owner.owned b.content) := by
  have hnone := h.not_mem_of_last hb h1
  have hget : ∀ q, ({ s with boxes := s.boxes.erase r } : Store α).get? q =
      if q = r then none else s.get? q := fun q => Table.get?_erase ..
  constructor
  · intro q
    have hc := h.counts q
    have hi := (inner_perm hb).count_eq q
    rw [List.cons_append, List.count_cons] at hc
    by_cases hq : q = r
    · subst hq
      have hz := List.count_eq_zero.2 hnone
      simp only [List.count_append] at hi hz ⊢
      simp only [refs, hget, if_true, Option.elim_none]
      omega
    · have hq' : ¬ r = q := fun e => hq e.symm
      simp only [refs, hget, if_neg hq, List.count_append] at hc hi ⊢
      simp only [hq', beq_iff_eq, if_false] at hc
      omega
  · intro q b' hb'
    rw [hget] at hb'
    split at hb'
    · cases hb'
    · exact h.referred q b' hb'
  · intro q hq
    rw [hget, h.fresh q hq]
    split <;> rfl

/-- Giving references back balances the store: what is destroyed and what is left were the boxes
before, and owners go first. -/
theorem Balanced.release {rs : List Ref} (h : s.Balanced (rs ++ roots)) :
    (s.release rs).2.Balanced roots ∧ (s.release rs).2.next = s.next ∧
      ∃ zs : List (Ref × Box α), (s.release rs).1 = zs.map Prod.snd ∧ OwnersFirst zs ∧
        GivenBack rs zs ∧ s.faces.Perm (zs.map face ++ (s.release rs).2.faces) := by
  fun_induction Store.release s rs with
  | case1 s => exact ⟨h, rfl, [], rfl, .nil, nofun, .refl _⟩
  | case2 s r rs hb ih =>
      obtain ⟨b, hb'⟩ := h.get?_of_mem (r := r) List.mem_cons_self
      exact absurd (hb.symm.trans hb') nofun
  | case3 s r rs b hb h1 ih =>
      obtain ⟨hs, hn, zs, hd, ho, hg, hp⟩ := ih (h.giveBack_shared hb h1)
      rw [faces_giveBack] at hp
      exact ⟨hs, hn, zs, hd, ho, fun z hz => (hg z hz).imp_left (List.mem_cons_of_mem _), hp⟩
  | case4 s r rs b hb h1 destroyed s' he ih =>
      have hlast : ({ s with boxes := s.boxes.erase r } : Store α).Balanced
          (Owner.owned b.content ++ rs ++ roots) := by
        refine (h.giveBack_last hb h1).perm ?_
        rw [List.append_assoc (Owner.owned b.content)]
        exact List.perm_append_comm
      obtain ⟨hs, hn, zs, hd, ho, hg, hp⟩ := ih hlast
      have hfaces := faces_perm hb
      simp only [he] at hs hn hd hp ⊢
      refine ⟨hs, hn, (r, b) :: zs, by rw [hd]; rfl, ?_, ?_, ?_⟩
      · refine List.pairwise_cons.2 ⟨fun y hy hm => ?_, ho⟩
        -- a box that goes later was in the store, where nothing owned `r`
        have hface : face y ∈ s.faces := by
          refine hfaces.mem_iff.2 (List.mem_cons_of_mem _ (hp.mem_iff.2 ?_))
          exact List.mem_append_left _ (List.mem_map_of_mem hy)
        have hinner : r ∈ s.inner := List.mem_flatMap.2 ⟨_, hface, hm⟩
        exact h.not_mem_of_last hb h1 (List.mem_append_right _ hinner)
      · intro z hz
        rcases List.mem_cons.1 hz with rfl | hz
        · exact .inl List.mem_cons_self
        · rcases hg z hz with hm | ⟨y, hy, hm⟩
          · rcases List.mem_append.1 hm with hm | hm
            · exact .inr ⟨_, List.mem_cons_self, hm⟩
            · exact .inl (List.mem_cons_of_mem _ hm)
          · exact .inr ⟨y, List.mem_cons_of_mem _ hy, hm⟩
      · exact hfaces.trans (.cons _ hp)

end Store

end GraphicsObjects.Ownership
