import GraphicsObjects.Proofs.Simulation.Linking

/-!
# Attribute locations

A link counts upwards through the numbers that no name is bound to, one for each occurrence of an
attribute without a bound location. The bound indices are those that were given to the program in
its present life. What a link assigned stays until the next one.
-/

namespace GraphicsObjects

open Simulation

namespace Simulation

/-! ## Indices that are not bound -/

/-- No name is bound to the index. -/
def IsFree (given : Table String Nat) (l : Nat) : Prop := ∀ name, given.get? name ≠ some l

theorem isFree_iff {given : Table String Nat} {l : Nat} : IsFree given l ↔ l ∉ given.values := by
  refine ⟨fun h hm => ?_, fun h name e => h (Table.mem_values_of_get? e)⟩
  obtain ⟨⟨name, l⟩, he, rfl⟩ := List.mem_map.mp hm
  exact h name (Table.mem_entries_iff.mp he)

instance (given : Table String Nat) : DecidablePred (IsFree given) :=
  fun _ => decidable_of_iff _ isFree_iff.symm

theorem infinite_isFree (given : Table String Nat) : {l | IsFree given l}.Infinite :=
  (List.finite_toSet given.values).infinite_compl.mono fun _ hl => isFree_iff.mpr hl

theorem firstFree_spec (taken : List Nat) (n : Nat) :
    n ≤ firstFree taken n ∧ firstFree taken n ∉ taken ∧
      ∀ k, n ≤ k → k < firstFree taken n → k ∈ taken := by
  unfold firstFree
  cases hfound : (List.range' n (taken.length + 1)).find? (· ∉ taken) with
  | none =>
      -- more numbers are tried than are taken
      have hall : List.range' n (taken.length + 1) ⊆ taken := fun k hk => by
        simpa using List.find?_eq_none.mp hfound k hk
      have hlength := (List.Nodup.subperm List.nodup_range' hall).length_le
      rw [List.length_range'] at hlength
      omega
  | some l =>
      obtain ⟨hfree, hl, hleast⟩ := List.find?_range'_eq_some.mp hfound
      refine ⟨(List.mem_range'_1.mp hl).1, by simpa using hfree, fun k hk hlt => ?_⟩
      simpa using hleast k hk hlt

/-! ## The loop -/

/-- The runs of the loop that assigns the locations. Its counter passes the bound indices one by
one. -/
inductive Assigns (given : Table String Nat) :
    List ActiveVariable → (next : Nat) → (assigned assigned' : Table String Nat) → Prop
  | done (next t) : Assigns given [] next t t
  | fixed {v vs next t t' l} (hg : given.get? v.name = some l)
    (h : Assigns given vs next (t.insert v.name l) t') : Assigns given (v :: vs) next t t'
  | pass {v vs next t t'} (hg : given.get? v.name = none) (hn : ¬ IsFree given next)
    (h : Assigns given (v :: vs) (next + 1) t t') : Assigns given (v :: vs) next t t'
  | count {v vs next t t'} (hg : given.get? v.name = none) (hn : IsFree given next)
    (h : Assigns given vs (next + 1) (t.insert v.name next) t') : Assigns given (v :: vs) next t t'

variable {given t t' : Table String Nat} {v : ActiveVariable} {vs us : List ActiveVariable}
variable {next l : Nat} {name : String}

theorem assigns_assignLocations (given : Table String Nat) (vs : List ActiveVariable) (next : Nat)
    (t : Table String Nat) : Assigns given vs next t (assignLocations given vs next t) := by
  induction vs generalizing next t with
  | nil => exact .done next t
  | cons v vs ih =>
      cases hg : given.get? v.name with
      | some l =>
          simp only [assignLocations, hg]
          exact .fixed hg (ih ..)
      | none =>
          simp only [assignLocations, hg]
          obtain ⟨hle, hfree, hpassed⟩ := firstFree_spec given.values next
          generalize firstFree given.values next = l at *
          -- from the free number back to where the counter stands
          refine Nat.decreasingInduction' (fun k hk hn h => ?_) hle ?_
          · exact .pass hg (fun hf => isFree_iff.mp hf (hpassed k hn hk)) h
          · exact .count hg (isFree_iff.mpr hfree) (ih ..)

theorem Assigns.unique {t'' : Table String Nat} (h : Assigns given vs next t t')
    (h' : Assigns given vs next t t'') : t' = t'' := by
  induction h with
  | done =>
      cases h'
      rfl
  | fixed hg _ ih =>
      cases h' with
      | fixed hg' h' =>
          cases hg.symm.trans hg'
          exact ih h'
      | pass hg' => cases hg.symm.trans hg'
      | count hg' => cases hg.symm.trans hg'
  | pass hg hn _ ih =>
      cases h' with
      | fixed hg' => cases hg.symm.trans hg'
      | pass _ _ h' => exact ih h'
      | count _ hn' => exact absurd hn' hn
  | count hg hn _ ih =>
      cases h' with
      | fixed hg' => cases hg.symm.trans hg'
      | pass _ hn' => exact absurd hn hn'
      | count _ _ h' => exact ih h'

/-- The loop ends, for any indices and attributes, and in one way. -/
theorem assigns_iff : Assigns given vs next t t' ↔ t' = assignLocations given vs next t := by
  refine ⟨fun h => h.unique (assigns_assignLocations ..), ?_⟩
  rintro rfl
  exact assigns_assignLocations ..

/-! ## What it assigns -/

/-- The occurrences of attributes without a bound location. -/
def unbound (given : Table String Nat) (vs : List ActiveVariable) : List ActiveVariable :=
  vs.filter fun v => (given.get? v.name).isNone

theorem mem_unbound : v ∈ unbound given vs ↔ v ∈ vs ∧ given.get? v.name = none := by
  rw [unbound, List.mem_filter, Option.isNone_iff_eq_none]

theorem Assigns.get?_of_inactive (h : Assigns given vs next t t')
    (hn : name ∉ vs.map (·.name)) : t'.get? name = t.get? name := by
  induction h with
  | done => rfl
  | fixed _ _ ih =>
      rw [List.map_cons, List.mem_cons, not_or] at hn
      rw [ih hn.2, Table.get?_insert, if_neg hn.1]
  | pass _ _ _ ih => exact ih hn
  | count _ _ _ ih =>
      rw [List.map_cons, List.mem_cons, not_or] at hn
      rw [ih hn.2, Table.get?_insert, if_neg hn.1]

theorem Assigns.get?_of_bound (h : Assigns given vs next t t') (hg : given.get? name = some l)
    (hn : name ∈ vs.map (·.name)) : t'.get? name = some l := by
  induction h with
  | done => cases hn
  | @fixed v vs _ _ _ l' hg' h ih =>
      by_cases hlater : name ∈ vs.map (·.name)
      · exact ih hlater
      · have hname : name = v.name := (List.mem_cons.mp hn).resolve_right hlater
        subst hname
        cases hg.symm.trans hg'
        rw [h.get?_of_inactive hlater, Table.get?_insert, if_pos rfl]
  | pass _ _ _ ih => exact ih hn
  | @count v vs _ _ _ hg' _ _ ih =>
      refine ih ((List.mem_cons.mp hn).resolve_left ?_)
      rintro rfl
      cases hg.symm.trans hg'

/-- The counter assigns the free numbers in order, and a name keeps the last one it got. -/
theorem Assigns.get?_of_unbound {pre post : List ActiveVariable} (h : Assigns given vs next t t')
    (hu : unbound given vs = pre ++ v :: post) (hlast : v.name ∉ post.map (·.name)) :
    t'.get? v.name =
      some (Nat.nth (IsFree given) (Nat.count (IsFree given) next + pre.length)) := by
  induction h generalizing pre with
  | done => cases pre <;> cases hu
  | fixed hg _ ih =>
      refine ih ?_
      rw [← hu, unbound, unbound, List.filter_cons_of_neg (by simp [hg])]
  | pass _ hn _ ih =>
      rw [ih hu, Nat.count_succ, if_neg hn, Nat.add_zero]
  | @count u us next _ _ hg hn h ih =>
      have hcons : unbound given (u :: us) = u :: unbound given us :=
        List.filter_cons_of_pos (by simp [hg])
      rw [hcons] at hu
      cases pre with
      | nil =>
          obtain ⟨rfl, rfl⟩ := List.cons.inj hu
          have hinactive : u.name ∉ us.map (·.name) := fun hm => by
            obtain ⟨w, hw, hname⟩ := List.mem_map.mp hm
            exact hlast (List.mem_map.mpr ⟨w, mem_unbound.mpr ⟨hw, hname ▸ hg⟩, hname⟩)
          rw [h.get?_of_inactive hinactive, Table.get?_insert, if_pos rfl, List.length_nil,
            Nat.add_zero, Nat.nth_count hn]
      | cons w pre =>
          obtain ⟨rfl, hrest⟩ := List.cons.inj hu
          rw [ih hrest, Nat.count_succ, if_pos hn, List.length_cons, Nat.add_right_comm,
            Nat.add_assoc]

theorem exists_last (hv : v ∈ vs) : ∃ pre u post, vs = pre ++ u :: post ∧ u.name = v.name ∧
    u.name ∉ post.map (·.name) := by
  induction vs using List.reverseRecOn with
  | nil => cases hv
  | append_singleton vs w ih =>
      by_cases hw : w.name = v.name
      · exact ⟨vs, w, [], rfl, hw, List.not_mem_nil⟩
      · have hv' : v ∈ vs := (List.mem_append.mp hv).resolve_right fun hm =>
          hw (congrArg (·.name) (List.mem_singleton.mp hm)).symm
        obtain ⟨pre, u, post, rfl, hname, hlast⟩ := ih hv'
        refine ⟨pre, u, post ++ [w], by simp, hname, ?_⟩
        rw [List.map_append, List.mem_append, not_or]
        exact ⟨hlast, fun hm => hw ((List.mem_singleton.mp hm).symm.trans hname)⟩

/-- Where the attributes are that a link found, if names were bound to indices. The locations of
all others are the free numbers in order; of a name that occurs more than once, the last counts. -/
structure Located (given : Table String Nat) (attributes : List ActiveVariable)
    (locations : Table String Nat) : Prop where
  bound : ∀ v ∈ attributes, ∀ l, given.get? v.name = some l → locations.get? v.name = some l
  counted : ∀ pre v post, unbound given attributes = pre ++ v :: post →
    v.name ∉ post.map (·.name) → locations.get? v.name = some (Nat.nth (IsFree given) pre.length)
  free : ∀ v ∈ unbound given attributes, ∃ l, locations.get? v.name = some l ∧ IsFree given l
  distinct : ∀ v ∈ unbound given attributes, ∀ w ∈ unbound given attributes, v.name ≠ w.name →
    locations.get? v.name ≠ locations.get? w.name
  inactive : ∀ name, name ∉ attributes.map (·.name) → locations.get? name = none

theorem Assigns.located (h : Assigns given vs 0 .empty t) : Located given vs t := by
  have hcounted : ∀ pre v post, unbound given vs = pre ++ v :: post →
      v.name ∉ post.map (·.name) → t.get? v.name = some (Nat.nth (IsFree given) pre.length) := by
    intro pre v post hu hlast
    rw [h.get?_of_unbound hu hlast, Nat.count_zero, Nat.zero_add]
  refine ⟨fun v hv l hg => h.get?_of_bound hg (List.mem_map_of_mem hv), hcounted, ?_, ?_,
    fun name hn => h.get?_of_inactive hn⟩
  · intro v hv
    obtain ⟨pre, u, post, hu, hname, hlast⟩ := exists_last hv
    refine ⟨_, ?_, Nat.nth_mem_of_infinite (infinite_isFree given) pre.length⟩
    rw [← hname]
    exact hcounted pre u post hu hlast
  · intro v hv w hw hne he
    obtain ⟨pre, u, post, hu, hname, hlast⟩ := exists_last hv
    obtain ⟨pre', u', post', hu', hname', hlast'⟩ := exists_last hw
    rw [← hname, ← hname', hcounted pre u post hu hlast,
      hcounted pre' u' post' hu' hlast', Option.some.injEq] at he
    have hlength := Nat.nth_injective (infinite_isFree given) he
    obtain ⟨-, hrest⟩ := List.append_inj (hu.symm.trans hu') hlength
    cases hrest
    exact hne (hname.symm.trans hname')

end Simulation

/-- The input deletes the object. -/
def Simulation.Input.Deletes (i : Input) (o : Kind × Id) : Prop :=
  ∃ d ∈ i.deletes, d.1 = o.1 ∧ o.2 ∈ d.2

instance (i : Input) (o : Kind × Id) : Decidable (i.Deletes o) :=
  inferInstanceAs (Decidable (∃ d ∈ i.deletes, _))

/-- What a program has from its last link. -/
def Simulation.ProgramState.linkage (ps : ProgramState) :
    Bool × List ActiveVariable × List ActiveVariable × Table String Nat :=
  (ps.linked, ps.uniforms, ps.attributes, ps.locations)

namespace Sim

variable {s : Sim} {o : Kind × Id} {p : Id} {i : Input} {is ks : List Input}
variable {ps ps' : ProgramState} {name : String} {l : Nat}

/-! ## The life of an object -/

theorem mem_live_take (hw : s.WellNamed) (hl : o ∈ s.live) (hd : ¬ i.Deletes o) :
    o ∈ (s.take i).live := by
  cases hdel : i.deletes with
  | some d =>
      obtain ⟨k, ids⟩ := d
      rw [take_of_deletes _ hdel, mem_live_deleteMany hw]
      refine ⟨hl, ?_⟩
      rintro ⟨rfl, hm⟩
      exact hd ⟨_, hdel, rfl, hm⟩
  | none =>
      by_cases hb : ∃ slot id, i = .request (.bind slot id)
      · obtain ⟨slot, id, rfl⟩ := hb
        have hlive := live_bind (s.receive (.bind slot id)) slot id
        rw [live_receive] at hlive
        exact hlive.symm ▸ hl
      · exact (keeps_take s hdel fun slot id e => hb ⟨slot, id, e⟩).live o hl

theorem not_deletes_of_mem_live (hw : s.WellNamed) (hl : o ∈ (s.take i).live) : ¬ i.Deletes o := by
  rintro ⟨⟨k, ids⟩, hdel, hk, hm⟩
  rw [take_of_deletes _ hdel, mem_live_deleteMany hw] at hl
  exact hl.2 ⟨hk.symm, hm⟩

theorem mem_live_along (hl : o ∈ (after is).live) (hks : ∀ k ∈ ks, ¬ k.Deletes o) :
    o ∈ (after (is ++ ks)).live := by
  induction ks using List.reverseRecOn with
  | nil => simpa using hl
  | append_singleton ks k ih =>
      rw [← List.append_assoc, after_concat]
      refine mem_live_take (.after _) (ih fun j hj => hks j (List.mem_append_left _ hj)) ?_
      exact hks k (List.mem_append_right _ (List.mem_singleton_self k))

theorem exists_program (hl : (.program, p) ∈ (after is).live) :
    ∃ ps, (after is).programs.get? p = some ps :=
  ((Tidy.after is).mem_live_program_iff ((WellNamed.after is).ne_zero hl)).mp hl

/-! ## Indices given to a program -/

/-- The index that was given to a name last, since the program was made. -/
def GivenIndex (is : List Input) (p : Id) (name : String) (l : Nat) : Prop :=
  ∃ js ks, is = js ++ .request (.bindAttributeLocation p l name) :: ks ∧
    (.program, p) ∈ (after js).live ∧
    ∀ k ∈ ks, ¬ k.Deletes (.program, p) ∧ ∀ l', k ≠ .request (.bindAttributeLocation p l' name)

theorem GivenIndex.live (h : GivenIndex is p name l) : (.program, p) ∈ (after is).live := by
  obtain ⟨js, ks, rfl, hl, hks⟩ := h
  refine mem_live_along hl fun k hk => ?_
  rcases List.mem_cons.mp hk with rfl | hk
  · rintro ⟨_, hd, -⟩
    cases hd
  · exact (hks k hk).1

theorem givenIndex_concat : GivenIndex (is ++ [i]) p name l ↔
    (i = .request (.bindAttributeLocation p l name) ∧ (.program, p) ∈ (after is).live) ∨
      GivenIndex is p name l ∧ ¬ i.Deletes (.program, p) ∧
        ∀ l', i ≠ .request (.bindAttributeLocation p l' name) := by
  constructor
  · rintro ⟨js, ks, he, hl, hks⟩
    rcases List.eq_nil_or_concat ks with rfl | ⟨ks, k, rfl⟩
    · obtain ⟨rfl, hi⟩ := List.append_inj' he rfl
      exact .inl ⟨List.singleton_inj.mp hi, hl⟩
    · rw [List.concat_eq_append, ← List.cons_append, ← List.append_assoc] at he
      obtain ⟨rfl, hi⟩ := List.append_inj' he rfl
      rw [List.singleton_inj.mp hi]
      simp only [List.concat_eq_append, List.mem_append, List.mem_singleton] at hks
      exact .inr ⟨⟨js, ks, rfl, hl, fun k hk => hks k (.inl hk)⟩, hks k (.inr rfl)⟩
  · rintro (⟨rfl, hl⟩ | ⟨⟨js, ks, rfl, hl, hks⟩, hi⟩)
    · exact ⟨is, [], rfl, hl, List.forall_mem_nil _⟩
    · refine ⟨js, ks ++ [i], by simp, hl, fun k hk => ?_⟩
      rcases List.mem_append.mp hk with hk | hk
      · exact hks k hk
      · exact List.mem_singleton.mp hk ▸ hi

theorem boundLocations_linkedState (s : Sim) (ps : ProgramState) :
    (s.linkedState ps).boundLocations = ps.boundLocations := by
  unfold linkedState ProgramState.link
  split <;> rfl

/-- What a program has bound are the indices that it was given. -/
theorem boundLocations_iff (hl : (.program, p) ∈ (after is).live)
    (hps : (after is).programs.get? p = some ps) :
    ps.boundLocations.get? name = some l ↔ GivenIndex is p name l := by
  induction is using List.reverseRecOn generalizing ps with
  | nil => cases hps
  | append_singleton is i ih =>
      have hw : (after is).WellNamed := .after is
      have hz : p ≠ 0 := (WellNamed.after _).ne_zero hl
      rw [after_concat] at hl hps
      have hd : ¬ i.Deletes (.program, p) := not_deletes_of_mem_live hw hl
      rw [givenIndex_concat]
      rcases program_take hw (.after is) hps with ⟨hnew, rfl, rfl⟩ | ⟨ps₀, hps₀, hstep⟩
      · -- a new program has nothing bound, and was given nothing in this life
        refine iff_of_false nofun ?_
        rintro (⟨hi, -⟩ | ⟨hg, -⟩)
        · cases hi
        · exact hnew hg.live
      · have hlive : (.program, p) ∈ (after is).live :=
          ((Tidy.after is).mem_live_program_iff hz).mpr ⟨ps₀, hps₀⟩
        have hold := ih hlive hps₀
        cases hstep with
        | link =>
            rw [boundLocations_linkedState, hold]
            simp [hd]
        | bindLocation l' name' =>
            rw [Table.get?_insert]
            split
            · rename_i hname
              subst hname
              simp [hlive, eq_comm]
            · rename_i hname
              rw [hold]
              simp [hd, Ne.symm hname]
        | rest _ _ _ _ hb =>
            rw [hold]
            simp [hd, hb]

/-! ## What a link leaves -/

theorem ProgramStep.linkage_eq (h : s.ProgramStep p i ps ps')
    (hi : i ≠ .request (.linkProgram p)) : ps'.linkage = ps.linkage := by
  cases h with
  | link => exact absurd rfl hi
  | bindLocation => rfl
  | rest => rfl

theorem linkage_along (hl : (.program, p) ∈ (after is).live)
    (hps : (after is).programs.get? p = some ps)
    (hks : ∀ k ∈ ks, k ≠ .request (.linkProgram p) ∧ ¬ k.Deletes (.program, p)) :
    ∃ ps', (after (is ++ ks)).programs.get? p = some ps' ∧ ps'.linkage = ps.linkage := by
  induction ks using List.reverseRecOn with
  | nil => exact ⟨ps, by simpa using hps, rfl⟩
  | append_singleton ks k ih =>
      have hbefore (j : Input) (hj : j ∈ ks) := hks j (List.mem_append_left _ hj)
      have hk := hks k (List.mem_append_right _ (List.mem_singleton_self k))
      have hlive := mem_live_along hl fun j hj => (hks j hj).2
      have hlive₀ := mem_live_along hl fun j hj => (hbefore j hj).2
      obtain ⟨ps₀, hps₀, hsame⟩ := ih hbefore
      obtain ⟨ps', hps'⟩ := exists_program hlive
      refine ⟨ps', hps', ?_⟩
      rw [← List.append_assoc, after_concat] at hps'
      rcases program_take (.after _) (.after _) hps' with ⟨hnew, -⟩ | ⟨ps₁, hps₁, hstep⟩
      · exact absurd hlive₀ hnew
      · cases hps₀.symm.trans hps₁
        exact (hstep.linkage_eq hk.1).trans hsame

theorem linkage_of_link (hl : (.program, p) ∈ (after is).live)
    (hps : (after is).programs.get? p = some ps)
    (hks : ∀ k ∈ ks, k ≠ .request (.linkProgram p) ∧ ¬ k.Deletes (.program, p)) :
    ∃ ps', (after (is ++ .request (.linkProgram p) :: ks)).programs.get? p = some ps' ∧
      ps'.linkage = ((after is).linkedState ps).linkage := by
  have hlinked : (after (is ++ [.request (.linkProgram p)])).programs.get? p =
      some ((after is).linkedState ps) := by
    rw [after_concat]
    exact (programs_link ..).trans (congrArg _ hps)
  have hlive : (.program, p) ∈ (after (is ++ [.request (.linkProgram p)])).live := by
    refine mem_live_along hl fun k hk => ?_
    rw [List.mem_singleton.mp hk]
    rintro ⟨_, hd, -⟩
    cases hd
  have halong := linkage_along hlive hlinked hks
  rwa [List.append_assoc, List.singleton_append] at halong

end Sim

end GraphicsObjects
