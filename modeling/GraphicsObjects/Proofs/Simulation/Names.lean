import Mathlib
import GraphicsObjects.Simulation.Lifetime

/-!
# Names of live objects

In every namespace the names that are free and the names of live objects are together the names that
were ever given out, each of them once. Creation and deletion keep this, so a new object never gets
the name of a live one.
-/

namespace GraphicsObjects

open Simulation

/-! ## Pools -/

namespace Simulation.NamePool

/-- The free names and `live` are the names given out so far, each once. -/
def Accounts (p : NamePool) (live : List Id) : Prop := (p.free ++ live).Perm (List.range' 1 p.last)

variable {p : NamePool} {live rest : List Id} {id : Id}

theorem Accounts.nodup (h : p.Accounts live) : (p.free ++ live).Nodup :=
  h.nodup_iff.mpr List.nodup_range'

theorem Accounts.ne_zero (h : p.Accounts live) (hm : id ∈ live) : id ≠ 0 := by
  have hr : id ∈ List.range' 1 p.last := h.mem_iff.mp (List.mem_append_right _ hm)
  exact Nat.ne_of_gt (List.mem_range'_1.mp hr).1

theorem Accounts.take (h : p.Accounts live) : p.take.2.Accounts (p.take.1 :: live) := by
  obtain ⟨last, free⟩ := p
  cases free with
  | nil =>
      have hn : ((last + 1) :: live).Perm ((last + 1) :: List.range' 1 last) := .cons _ h
      refine hn.trans ?_
      change (_ :: _).Perm (List.range' 1 (last + 1))
      rw [List.range'_1_concat, Nat.add_comm 1 last]
      exact (List.perm_append_singleton _ _).symm
  | cons f fs => exact List.perm_middle.trans h

theorem Accounts.giveBack (h : p.Accounts live) (hp : live.Perm (id :: rest)) :
    (p.giveBack id).Accounts rest :=
  (List.perm_middle.symm.trans (hp.append_left p.free).symm).trans h

end Simulation.NamePool

/-! ## The driver -/

namespace Sim

/-- The pool of a namespace. -/
def poolOf (s : Sim) (namespc : Kind) : NamePool := s.pools.getD namespc {}

/-- The names of the listed objects that belong to a namespace. -/
def namesIn (namespc : Kind) (objects : List (Kind × Id)) : List Id :=
  (objects.filter fun o => namingKind o.1 = namespc).map Prod.snd

/-- The pools account for the live objects. -/
def WellNamed (s : Sim) : Prop := ∀ k, (s.poolOf k).Accounts (namesIn k s.live)

variable {s : Sim} {k : Kind} {id : Id}

theorem namesIn_cons (n k : Kind) (id : Id) (os : List (Kind × Id)) :
    namesIn n ((k, id) :: os) = if namingKind k = n then id :: namesIn n os else namesIn n os := by
  by_cases h : namingKind k = n <;> simp [namesIn, h]

theorem mem_namesIn {os : List (Kind × Id)} (h : (k, id) ∈ os) :
    id ∈ namesIn (namingKind k) os := by
  simp only [namesIn, List.mem_map, List.mem_filter, decide_eq_true_eq]
  exact ⟨(k, id), ⟨h, rfl⟩, rfl⟩

theorem namesIn_perm {os os' : List (Kind × Id)} (n : Kind) (h : os.Perm os') :
    (namesIn n os).Perm (namesIn n os') :=
  (h.filter _).map _

theorem WellNamed.ne_zero (h : s.WellNamed) (hl : (k, id) ∈ s.live) : id ≠ 0 :=
  (h (namingKind k)).ne_zero (mem_namesIn hl)

theorem nodup_of_namesIn {os : List (Kind × Id)} (h : ∀ n, (namesIn n os).Nodup) : os.Nodup := by
  induction os with
  | nil => exact .nil
  | cons o os ih =>
      obtain ⟨k, id⟩ := o
      refine List.nodup_cons.mpr ⟨?_, ih fun n => ?_⟩
      · intro hm
        have hn := h (namingKind k)
        rw [namesIn_cons, if_pos rfl] at hn
        exact (List.nodup_cons.mp hn).1 (mem_namesIn hm)
      · have hn := h n
        rw [namesIn_cons] at hn
        split at hn
        · exact (List.nodup_cons.mp hn).2
        · exact hn

theorem WellNamed.nodup (h : s.WellNamed) : s.live.Nodup :=
  nodup_of_namesIn fun n => (List.nodup_append.mp (h n).nodup).2.1

/-! ## Creation -/

/-- The object that creation makes, if creation does not fail. -/
theorem gen_eq (s : Sim) (k : Kind) : s.gen k =
    if s.failCreation then (0, s) else
      ((s.poolOf (namingKind k)).take.1,
        { s with
          pools := s.pools.insert (namingKind k) (s.poolOf (namingKind k)).take.2
          live := (k, (s.poolOf (namingKind k)).take.1) :: s.live
          calls := s.calls ++ [.gen k (s.poolOf (namingKind k)).take.1] }) := by
  unfold gen
  split <;> rfl

theorem registers_gen (s : Sim) (k : Kind) : (s.gen k).2.registers = s.registers := by
  rw [gen_eq]
  split <;> rfl

theorem WellNamed.gen (h : s.WellNamed) (k : Kind) : (s.gen k).2.WellNamed := by
  rw [gen_eq]
  split
  · exact h
  · intro n
    simp only [poolOf, namesIn_cons, Table.getD_insert]
    by_cases hn : n = namingKind k
    · subst hn
      rw [if_pos rfl, if_pos rfl]
      exact (h _).take
    · rw [if_neg hn, if_neg fun e => hn e.symm]
      exact h n

/-! ## Deletion -/

theorem live_perm_filter (hn : s.live.Nodup) (hl : (k, id) ∈ s.live) :
    s.live.Perm ((k, id) :: s.live.filter (· ≠ (k, id))) := by
  have he := hn.erase_eq_filter (k, id)
  have hp := List.perm_cons_erase hl
  rw [he] at hp
  refine hp.trans (List.Perm.of_eq ?_)
  congr 1
  exact List.filter_congr fun o _ => by simp [bne, Bool.beq_eq_decide_eq]

theorem WellNamed.delete (h : s.WellNamed) (k : Kind) (id : Id) : (s.delete k id).WellNamed := by
  unfold Sim.delete
  split
  · exact h
  · rename_i hc
    have hl : (k, id) ∈ s.live := by simpa [isLive] using (not_or.mp hc).2
    have hperm := live_perm_filter h.nodup hl
    intro n
    have hnames := namesIn_perm n hperm
    rw [namesIn_cons] at hnames
    simp only [poolOf, Table.getD_insert]
    by_cases hn : n = namingKind k
    · subst hn
      rw [if_pos rfl] at hnames ⊢
      exact (h _).giveBack hnames
    · rw [if_neg fun e => hn e.symm] at hnames
      rw [if_neg hn]
      exact (hnames.append_left _).symm.trans (h n)

theorem WellNamed.fresh : Sim.fresh.WellNamed := by
  intro n
  exact List.Perm.refl []

end Sim

end GraphicsObjects
