import GraphicsObjects.Proofs.Ownership.Steps

/-!
# Deletions by handles

A deleter runs when nothing holds its box any more, once and with the name it was assigned with,
before the deleters of the boxes that it owned. A second assignment changes nothing, and gives back
what its deleter owned.
-/

namespace GraphicsObjects.Ownership

open Store

namespace Handles

variable {h h' h₁ : Handles} {op : HandleOp} {answer : op.Answer} {rs : List Ref} {r : Ref}
variable {given given' log log' deleted : List Deletion}

/-- The deleter of a box owns another box. -/
def Owns (h : Handles) (r q : Ref) : Prop :=
  ∃ b d, h.store.get? r = some b ∧ b.content = some d ∧ q ∈ d.owned

/-- No box owns itself, directly or through others. -/
def Acyclic (h : Handles) : Prop := ∀ r, ¬ Relation.TransGen h.Owns r r

/-- A variable holds the box, or a box that owns it directly or through others. -/
def Accessible (h : Handles) (r : Ref) : Prop :=
  ∃ root ∈ h.vars.values, Relation.ReflTransGen h.Owns root r

/-- The boxes that go in a step, in the order in which they go, with the deletions that this brings
about. They are the boxes that nothing holds afterwards. -/
structure Gone (h h' : Handles) (deleted : List Deletion)
    (gone : List (Ref × Box (Option Deleter))) : Prop where
  deleted : deleted = gone.filterMap (·.2.deletion?)
  distinct : (gone.map Prod.fst).Nodup
  ownersFirst : OwnersFirst gone
  before : ∀ z ∈ gone, ∃ b, h.store.get? z.1 = some b ∧ z.2.id = b.id ∧ z.2.content = b.content
  named : ∀ z ∈ gone, z.2.id ≠ 0 →
    ∃ d, z.2.content = some d ∧ z.2.deletion? = some ⟨d.tag, d.shape, z.2.id⟩
  unheld : ∀ r b, h.store.get? r = some b → (r ∈ gone.map Prod.fst ↔ h'.holders r = 0)
  accessible : h'.Acyclic → ∀ r b, h.store.get? r = some b →
    (r ∈ gone.map Prod.fst ↔ ¬ h'.Accessible r)

/-! ## Counts -/

theorem Sound.refs_eq (hs : h.Sound) (r : Ref) : h.store.refs r = h.holders r := by
  rw [hs.balanced.counts, List.count_append, inner_eq]
  rfl

theorem Sound.holders_pos (hs : h.Sound) {b : Box (Option Deleter)}
    (hb : h.store.get? r = some b) : 0 < h.holders r := by
  rw [← hs.refs_eq, refs, hb]
  exact hs.balanced.referred r b hb

theorem Sound.get?_eq_none_iff (hs : h.Sound) :
    h.store.get? r = none ↔ h.holders r = 0 := by
  constructor
  · intro hn
    rw [← hs.refs_eq, refs, hn]
    rfl
  · intro hz
    cases hb : h.store.get? r with
    | none => rfl
    | some b => exact absurd hz (Nat.ne_of_gt (hs.holders_pos hb))

theorem owns_of_mem_inner {q : Ref} (hq : q ∈ h.store.inner) : ∃ r, h.Owns r q := by
  obtain ⟨r, b, hb, hm⟩ := mem_inner_iff.mp hq
  cases hc : b.content with
  | none => simp [hc, Owner.owned] at hm
  | some d => exact ⟨r, b, d, hb, hc, by simpa [hc, Owner.owned] using hm⟩

theorem Sound.accessible_of_held (hs : h.Sound)
    (ho : ∀ q, h.Owns q r → h.Accessible q) (hr : 0 < h.holders r) : h.Accessible r := by
  rw [← hs.refs_eq, hs.balanced.counts, List.count_pos_iff] at hr
  rcases List.mem_append.mp hr with hr | hr
  · exact ⟨r, hr, .refl⟩
  · obtain ⟨q, hq⟩ := owns_of_mem_inner hr
    obtain ⟨root, hroot, hpath⟩ := ho q hq
    exact ⟨root, hroot, hpath.tail hq⟩

/-- Without cycles, going from a box to an owner of it again and again ends at a variable. -/
theorem Sound.accessible_of_get? (hs : h.Sound) (ha : h.Acyclic) {b : Box (Option Deleter)}
    (hb : h.store.get? r = some b) : h.Accessible r := by
  have horder : IsStrictOrder Ref (Relation.TransGen h.Owns) :=
    { irrefl := ha, trans := fun _ _ _ => Relation.TransGen.trans }
  have hwell : {r | r ∈ h.store.boxes.keys}.WellFoundedOn (Relation.TransGen h.Owns) :=
    (List.finite_toSet h.store.boxes.keys).wellFoundedOn
  have hkey : ∀ {q b}, h.store.get? q = some b → q ∈ h.store.boxes.keys := by
    intro q b hq
    exact List.mem_map.mpr ⟨(q, b), Table.mem_entries_iff.mpr hq, rfl⟩
  refine hwell.induction (hkey hb) fun q hq ih => hs.accessible_of_held (fun p hp => ?_) ?_
  · obtain ⟨b', -, hb', -⟩ := id hp
    exact ih p (hkey hb') (.single hp)
  · obtain ⟨⟨_, b'⟩, hb', rfl⟩ := List.mem_map.mp hq
    exact hs.holders_pos (Table.mem_entries_iff.mp hb')

theorem Sound.holders_of_accessible (hs : h.Sound) (ha : h.Accessible r) : 0 < h.holders r := by
  rw [← hs.refs_eq, hs.balanced.counts, List.count_pos_iff]
  obtain ⟨root, hroot, hpath⟩ := ha
  cases hpath with
  | refl => exact List.mem_append_left _ hroot
  | tail _ ho =>
      obtain ⟨b, d, hb, hc, hm⟩ := ho
      refine List.mem_append_right _ (mem_inner_iff.mpr ⟨_, b, hb, ?_⟩)
      rw [hc]
      exact hm

/-! ## What goes -/

/-- The boxes that are left out of the store are those that nothing holds. -/
theorem Arranged.gone (ha : Arranged h op answer rs h₁) (hs' : h'.Sound) (hv : h'.vars = h₁.vars)
    {gone : List (Ref × Box (Option Deleter))}
    (hf : h₁.store.faces.Perm (gone.map face ++ h'.store.faces)) (ho : OwnersFirst gone)
    (hd : deleted = gone.filterMap (·.2.deletion?)) : Gone h h' deleted gone := by
  obtain ⟨hdistinct, hleft⟩ := nodup_of_gone hf
  have hunheld : ∀ r b, h.store.get? r = some b →
      (r ∈ gone.map Prod.fst ↔ h'.holders r = 0) := by
    intro r b hb
    rw [← hs'.get?_eq_none_iff]
    obtain ⟨b₁, hb₁, -⟩ := ha.kept r b hb
    exact ⟨hleft r, gone_of_get? hf hb₁⟩
  -- a box that the step has changed or added is in a variable, so it stays
  have hfree : ∀ r ∈ gone.map Prod.fst, r ∉ h₁.vars.values := by
    intro r hr hm
    have hpos : 0 < h'.holders r := hs'.holders_of_accessible ⟨r, hv ▸ hm, .refl⟩
    exact absurd (hs'.get?_eq_none_iff.mp (hleft r hr)) (Nat.ne_of_gt hpos)
  constructor
  · exact hd
  · exact hdistinct
  · exact ho
  · intro z hz
    have hz' := hfree z.1 (List.mem_map_of_mem hz)
    obtain ⟨b₁, hb₁, hid, hcontent⟩ := get?_of_gone hf hz
    obtain ⟨b, hb⟩ := (ha.new z.1 b₁ hb₁).resolve_right fun hm => hz' hm.2
    obtain ⟨b₂, hb₂, -, hsame⟩ := ha.kept z.1 b hb
    cases hb₁.symm.trans hb₂
    have hsame := hsame.resolve_right hz'
    exact ⟨b, hb, hid.symm.trans hsame.id, hcontent.symm.trans hsame.content⟩
  · intro z hz hne
    obtain ⟨b₁, hb₁, hid, hcontent⟩ := get?_of_gone hf hz
    exact (ha.proper z.1 b₁ hb₁).deletion_eq hid hcontent hne
  · exact hunheld
  · intro hac r b hb
    rw [hunheld r b hb]
    constructor
    · intro hr hacc
      exact absurd hr (Nat.ne_of_gt (hs'.holders_of_accessible hacc))
    · intro hacc
      refine hs'.get?_eq_none_iff.mp (Option.eq_none_iff_forall_ne_some.mpr fun b' hb' => ?_)
      exact hacc (hs'.accessible_of_get? hac hb')

/-- What is given back after boxes and variables are arranged. -/
theorem Arranged.release (ha : Arranged h op answer rs h₁) (hr : (deleted, h') = h₁.release rs) :
    h'.Sound ∧ h'.vars = h₁.vars ∧ h.store.next ≤ h'.store.next ∧
      (∀ r b', h'.store.get? r = some b' → ∃ b₁, h₁.store.get? r = some b₁ ∧ b₁.Same b') ∧
      (deleted ++ h'.pending).Perm (h.pending ++ (op.given answer).filter (·.id ≠ 0)) ∧
      ∃ gone, Gone h h' deleted gone := by
  obtain ⟨hbalanced, hnext, gone, hgone, howners, -, hfaces⟩ := ha.balanced.release
  have hdeleted : deleted = gone.filterMap (·.2.deletion?) := by
    have hfirst : deleted = (h₁.store.release rs).1.filterMap Box.deletion? := congrArg Prod.fst hr
    rw [hfirst, hgone, List.filterMap_map]
    rfl
  obtain rfl : h' = { h₁ with store := (h₁.store.release rs).2 } := congrArg Prod.snd hr
  have hsame : ∀ r b', (h₁.store.release rs).2.get? r = some b' →
      ∃ b₁, h₁.store.get? r = some b₁ ∧ b₁.Same b' := fun r b' => get?_release
  have hs' : Sound { h₁ with store := (h₁.store.release rs).2 } := by
    refine ⟨hbalanced, fun r b' hb' => ?_⟩
    obtain ⟨b₁, hb₁, hsame⟩ := hsame r b' hb'
    exact hsame.proper (ha.proper r b₁ hb₁)
  refine ⟨hs', rfl, ha.next.trans (Nat.le_of_eq hnext.symm), hsame, ?_, gone, ?_⟩
  · refine .trans (.of_eq ?_) (.trans (hfaces.flatMap_right _).symm (pending_eq h₁ ▸ ha.pending))
    rw [hdeleted, pending_eq, List.flatMap_append, List.filterMap_eq_flatMap_toList,
      List.flatMap_map]
    rfl
  · exact ha.gone hs' rfl hfaces howners hdeleted

/-! ## Steps -/

theorem Changes.trans {b b₁ b' : Box (Option Deleter)} (h₁ : h.Changes op r b b₁)
    (h₂ : b₁.Same b') : h.Changes op r b b' := by
  rcases h₁ with h₁ | ⟨ha, hid, ha₁, target, d, hop, ht⟩
  · exact .inl (h₁.trans h₂)
  · exact .inr ⟨ha, hid, h₂.assigned.trans ha₁, target, d, h₂.id ▸ hop, ht⟩

/-- What one step does. References are never used again. -/
structure Advance (h : Handles) (op : HandleOp) (answer : op.Answer) (deleted : List Deletion)
    (h' : Handles) : Prop where
  sound : h'.Sound
  next : h.store.next ≤ h'.store.next
  changes : ∀ r b', h'.store.get? r = some b' →
    (∃ b, h.store.get? r = some b ∧ h.Changes op r b b') ∨ h.store.next ≤ r
  pending : (deleted ++ h'.pending).Perm (h.pending ++ (op.given answer).filter (·.id ≠ 0))
  gone : ∃ gone, Gone h h' deleted gone

theorem Sound.advance (hs : h.Sound) (hstep : h.step op = some (answer, deleted, h')) :
    Advance h op answer deleted h' := by
  obtain ⟨rs, h₁, harranged, hrelease⟩ := hs.step hstep
  obtain ⟨hs', -, hnext, hsame, hpending, hgone⟩ := harranged.release hrelease
  refine ⟨hs', hnext, fun r b' hb' => ?_, hpending, hgone⟩
  obtain ⟨b₁, hb₁, hsame⟩ := hsame r b' hb'
  rcases harranged.new r b₁ hb₁ with ⟨b, hb⟩ | ⟨hr, -⟩
  · obtain ⟨b₂, hb₂, hchanges, -⟩ := harranged.kept r b hb
    cases hb₁.symm.trans hb₂
    exact .inl ⟨b, hb, hchanges.trans hsame⟩
  · exact .inr hr

/-- Steps from `h`, with the deletions that were handed to boxes and those that took place. -/
inductive Steps (h : Handles) : List Deletion → List Deletion → Handles → Prop
  | refl : Steps h [] [] h
  | step {given log deleted : List Deletion} {h₁ h₂ : Handles} {op : HandleOp}
      {answer : op.Answer} (hs : Steps h given log h₁)
      (he : h₁.step op = some (answer, deleted, h₂)) :
      Steps h (given ++ op.given answer) (log ++ deleted) h₂

theorem Sound.start : Sound {} where
  balanced := .empty
  proper _ _ h := nomatch h

theorem Steps.sound (hr : Steps h given log h') (hs : h.Sound) : h'.Sound := by
  induction hr with
  | refl => exact hs
  | step _ he ih => exact (ih.advance he).sound

/-- Every deletion that was handed to a box has taken place once, or is to come. -/
theorem Steps.pending (hr : Steps h given log h') (hs : h.Sound) :
    (log ++ h'.pending).Perm (h.pending ++ given.filter (·.id ≠ 0)) := by
  induction hr with
  | refl => exact .of_eq (List.append_nil _).symm
  | step hr he ih =>
      have hstep := ((hr.sound hs).advance he).pending
      rw [List.append_assoc, List.filter_append, ← List.append_assoc h.pending]
      refine (hstep.append_left _).trans ?_
      rw [← List.append_assoc]
      exact ih.append_right _

/-- Once a box has been assigned, it keeps its name and its deleter. -/
theorem Steps.stable (hr : Steps h given log h') (hs : h.Sound) :
    h.store.next ≤ h'.store.next ∧ ∀ b b', h.store.get? r = some b → h'.store.get? r = some b' →
      b.assigned = true → b'.assigned = true ∧ b'.id = b.id ∧ b'.content = b.content := by
  induction hr with
  | refl =>
      refine ⟨Nat.le_refl _, fun b b' hb hb' ha => ?_⟩
      cases hb.symm.trans hb'
      exact ⟨ha, rfl, rfl⟩
  | step hr he ih =>
      obtain ⟨hnext, ih⟩ := ih
      have hadvance := (hr.sound hs).advance he
      refine ⟨hnext.trans hadvance.next, fun b b' hb hb' ha => ?_⟩
      rcases hadvance.changes r b' hb' with ⟨b₁, hb₁, hchanges⟩ | hr
      · obtain ⟨ha₁, hid, hcontent⟩ := ih b b₁ hb hb₁ ha
        rcases hchanges with hsame | ⟨ha₁', -⟩
        · exact ⟨hsame.assigned.trans ha₁, hsame.id.trans hid, hsame.content.trans hcontent⟩
        · exact absurd (ha₁.symm.trans ha₁') (by decide)
      · rw [hs.balanced.fresh r (hnext.trans hr)] at hb
        cases hb

/-- A second assignment is refused, and what its deleter owned is given back. -/
theorem Sound.assign_again (hs : h.Sound) {target : String} {id : Id} {d : DeleterSpec}
    {answer : Except DoubleAssignment Unit} {b : Box (Option Deleter)}
    (hstep : h.step (.assign target id d) = some (answer, deleted, h'))
    (ht : h.vars.get? target = some r) (hb : h.store.get? r = some b) (ha : b.assigned = true) :
    answer = .error ⟨b.id, id⟩ ∧ (∃ b', h'.store.get? r = some b' ∧ b.Same b') ∧
      ∃ owned h₁, h.take d.taken = some (owned, h₁) ∧ (deleted, h') = h₁.release owned := by
  have hadvance := hs.advance hstep
  simp only [Handles.step, Option.bind_eq_bind, Option.bind_eq_some_iff, Prod.exists] at hstep
  obtain ⟨x, h₁, hx, q, b₁, hl, he⟩ := hstep
  obtain ⟨-, -, htake⟩ := makeDeleter_eq hx
  obtain ⟨hstore, -⟩ := take_eq htake
  obtain ⟨hq, hb₁⟩ := lookup_eq hl
  obtain rfl : q = r := Option.some.inj ((get?_of_take htake hq).symm.trans ht)
  rw [hstore, hb] at hb₁
  cases hb₁
  rw [if_pos ha] at he
  cases he
  refine ⟨rfl, ?_, x.owned, h₁, htake, rfl⟩
  have hheld : Accessible (h₁.release x.owned).2 q :=
    ⟨q, Table.mem_values_of_get? hq, .refl⟩
  have hpos := hadvance.sound.holders_of_accessible hheld
  cases hb' : (h₁.release x.owned).2.store.get? q with
  | none => exact absurd (hadvance.sound.get?_eq_none_iff.mp hb') (Nat.ne_of_gt hpos)
  | some b' =>
      refine ⟨b', hb', ?_⟩
      rcases hadvance.changes q b' hb' with ⟨b₀, hb₀, hchanges⟩ | hr
      · cases hb.symm.trans hb₀
        exact hchanges.resolve_right fun hn => absurd (ha.symm.trans hn.1) (by decide)
      · rw [hs.balanced.fresh q hr] at hb
        cases hb

/-- In every state that steps on handles reach, the count of a box is the number of variables and
deleters that hold it, and the deletions that took place and those to come are those that were
handed to boxes under names other than 0. A step runs the deleters of just the boxes that nothing
holds after it, owners first; without cycles these are the boxes that no variable leads to. A name
changes by the first assignment only, and a second one is refused. -/
theorem deletions_accounted (hr : Steps {} given log h) :
    (∀ r, h.store.refs r = h.holders r) ∧
    (∀ r b, h.store.get? r = some b → b.Proper) ∧
    (log ++ h.pending).Perm (given.filter (·.id ≠ 0)) ∧
    (∀ op answer deleted h', h.step op = some (answer, deleted, h') →
      (∃ gone, Gone h h' deleted gone) ∧
      ∀ r b', h'.store.get? r = some b' →
        (∃ b, h.store.get? r = some b ∧ h.Changes op r b b') ∨ h.store.next ≤ r) ∧
    (∀ given' log' h', Steps h given' log' h' → ∀ r b b', h.store.get? r = some b →
      h'.store.get? r = some b' → b.assigned = true →
        b'.assigned = true ∧ b'.id = b.id ∧ b'.content = b.content) ∧
    (∀ target id d answer deleted h' r b,
      h.step (.assign target id d) = some (answer, deleted, h') →
      h.vars.get? target = some r → h.store.get? r = some b → b.assigned = true →
        answer = .error ⟨b.id, id⟩ ∧ (∃ b', h'.store.get? r = some b' ∧ b.Same b') ∧
        ∃ owned h₁, h.take d.taken = some (owned, h₁) ∧ (deleted, h') = h₁.release owned) := by
  have hs : h.Sound := hr.sound .start
  refine ⟨hs.refs_eq, hs.proper, hr.pending .start, ?_, ?_, ?_⟩
  · intro op answer deleted h' hstep
    have hadvance := hs.advance hstep
    exact ⟨hadvance.gone, hadvance.changes⟩
  · intro given' log' h' hr' r b b'
    exact (hr'.stable hs).2 b b'
  · intro target id d answer deleted h' r b hstep ht hb ha
    exact hs.assign_again hstep ht hb ha

/-- Performs steps in a row. -/
def follow (h : Handles) : List HandleOp → Option (List Deletion × List Deletion × Handles)
  | [] => some ([], [], h)
  | op :: ops => do
    let (answer, deleted, h) ← h.step op
    let (given, log, h) ← h.follow ops
    pure (op.given answer ++ given, deleted ++ log, h)

theorem Steps.follow {ops : List HandleOp} (hr : Steps h given log h₁)
    (hf : h₁.follow ops = some (given', log', h')) :
    Steps h (given ++ given') (log ++ log') h' := by
  induction ops generalizing given log h₁ given' log' with
  | nil =>
      cases hf
      simpa using hr
  | cons op ops ih =>
      simp only [Handles.follow, Option.bind_eq_bind, Option.bind_eq_some_iff, Option.pure_def,
        Option.some.injEq, Prod.mk.injEq, Prod.exists] at hf
      obtain ⟨answer, deleted, h₂, he, given₂, log₂, h₃, hf, rfl, rfl, rfl⟩ := hf
      simpa using ih (hr.step he) hf

/-- A box owns two others, one of which has another owner too. -/
def sharedOwners : List HandleOp :=
  [.create "a" 1 ⟨"a", .one, none, []⟩, .create "b" 2 ⟨"b", .array, none, []⟩, .clone "a" "c",
    .pending "p", .clone "p" "q", .assign "q" 7 ⟨"p", .one, some "a", ["b"]⟩,
    .create "o" 8 ⟨"o", .one, some "c", []⟩, .drop "q"]

theorem sharedOwners_accounted : ∃ given log h deleted h',
    follow {} sharedOwners = some (given, log, h) ∧ h.step (.drop "p") = some ((), deleted, h') ∧
    deleted = [⟨"p", .one, 7⟩, ⟨"b", .array, 2⟩] ∧ h.store.refs 0 = h.holders 0 ∧
    (log ++ h.pending).Perm (given.filter (·.id ≠ 0)) ∧ ∃ gone, Gone h h' deleted gone := by
  have hsome : (follow {} sharedOwners).isSome = true := by cbv
  obtain ⟨⟨given, log, h⟩, hf⟩ := Option.isSome_iff_exists.mp hsome
  have hdrop : ((follow {} sharedOwners).bind fun x => x.2.2.step (.drop "p")).map (·.2.1) =
      some [⟨"p", .one, 7⟩, ⟨"b", .array, 2⟩] := by cbv
  simp only [hf, Option.bind_some, Option.map_eq_some_iff] at hdrop
  obtain ⟨⟨answer, deleted, h'⟩, hstep, hdeleted⟩ := hdrop
  have hr : Steps {} given log h := Steps.refl.follow hf
  obtain ⟨hrefs, -, hpending, hsteps, -, -⟩ := deletions_accounted hr
  exact ⟨given, log, h, deleted, h', hf, hstep, hdeleted, hrefs 0, hpending,
    (hsteps _ _ _ _ hstep).1⟩

end Handles

end GraphicsObjects.Ownership
