import GraphicsObjects.Proofs.Session.Steps

/-!
# Runs

The states that a client reaches from a context over a fresh driver, by operations that keep to a
rule. Between operations the driver may be set up to fail. Along a run that releases only guards
that may be released, the invariant holds.
-/

namespace GraphicsObjects

open Ownership

/-- What may be set up in the driver between operations: whether creation fails, a pending error,
and an answer to a query. -/
inductive Adjustment where
  | failCreation (fail : Bool)
  | raise (code : Enumerant)
  | setInteger (parameter : Enumerant) (value : Int)
  deriving DecidableEq

/-- The guard that a variable holds, if it holds one. -/
def Held.guard? : Held → Option Guard
  | .object _ => none
  | .guard _ g => some g

def Adjustment.apply : Adjustment → Sim → Sim
  | failCreation fail, s => { s with failCreation := fail }
  | raise code, s => s.raise code
  | setInteger parameter value, s => s.setInteger parameter value

namespace Session

/-- The guards that are outstanding. -/
def guards (s : Session Sim) : List Guard := s.vars.values.filterMap Held.guard?

def adjust (s : Session Sim) (a : Adjustment) : Session Sim := { s with driver := a.apply s.driver }

/-- A condition on steps: on the state before, the operation and the state after. -/
abbrev Rule := Session Sim → Op → Session Sim → Prop

/-- The states of one context over a fresh driver after operations that keep to a rule, whatever the
order in which framebuffers give back what is attached to them. -/
inductive Reachable (rule : Rule) (config : Config) : Session Sim → Prop where
  | start {orders : List (List Nat)} : Reachable rule config (start .fresh config orders)
  | adjust {s : Session Sim} (a : Adjustment) (h : Reachable rule config s) :
    Reachable rule config (s.adjust a)
  | step {s s' : Session Sim} {op : Op} {answer : op.Answer} (h : Reachable rule config s)
    (hs : s.step op = some (answer, s')) (hr : rule s op s') : Reachable rule config s'

/-- Binds are of live objects, and a guard is only released if what it restores may be bound. -/
def Careful : Rule := fun s op _ =>
  op.Admissible s.driver.live ∧ ∀ g, s.released? op = some g → g.Restorable s.driver.live

/-- Binds are of live objects, and no object is deleted that an outstanding guard recorded. -/
def Undisturbed : Rule := fun s op s' =>
  op.Admissible s.driver.live ∧ ∀ g ∈ s'.guards, ∀ k ∈ g.slot.kind?, ∀ id ∈ g.previous,
    (k, id) ∉ s'.driver.deleted.drop s.driver.deleted.length

instance (s : Session Sim) (op : Op) (s' : Session Sim) : Decidable (Careful s op s') :=
  inferInstanceAs (Decidable (_ ∧ ∀ g ∈ s.released? op, _))

instance (s : Session Sim) (op : Op) (s' : Session Sim) : Decidable (Undisturbed s op s') :=
  inferInstanceAs (Decidable (_ ∧ _))

variable {rule rule' : Rule} {config : Config} {s s' : Session Sim} {op : Op}

/-! ## The invariant -/

theorem Inv.start (config : Config) (orders : List (List Nat)) :
    (Session.start .fresh config orders).Inv where
  sound := ⟨rfl, .fresh, ⟨rfl, .fresh, nofun⟩, .refl _, rfl, .empty, nofun, nofun, nofun⟩
  guards _ _ _ h := nomatch h

/-- A driver that differs in nothing that counts. -/
theorem Inv.adjust (h : s.Inv) (a : Adjustment) : (s.adjust a).Inv := by
  have hs := h.sound
  refine ⟨⟨hs.single, ?_, ?_, ?_, ?_, hs.balanced, hs.parts, hs.home, hs.screens⟩, h.guards⟩
  · exact hs.wellNamed.congr (by cases a <;> rfl) (by cases a <;> rfl)
  · refine ⟨rfl, hs.ready.coherent.congr (by cases a <;> rfl) fun o ho => ?_, nofun⟩
    cases a <;> exact ho
  · cases a <;> exact hs.named
  · cases a <;> exact hs.logged

theorem Reachable.inv (h : Reachable Careful config s) : s.Inv := by
  induction h with
  | start => exact .start config _
  | adjust a _ ih => exact ih.adjust a
  | step _ hs hr ih =>
      obtain ⟨gone, hadvance, -⟩ := ih.step hr.1 hr.2 hs
      exact hadvance.inv

/-- A step along a careful run. -/
theorem Reachable.progress (h : Reachable Careful config s) {answer : op.Answer}
    (hs : s.step op = some (answer, s')) (hr : Careful s op s') : s.Progress op s' :=
  h.inv.step hr.1 hr.2 hs

/-! ## Guards -/

theorem mem_guards_iff {g : Guard} :
    g ∈ s.guards ↔ ∃ name c, s.vars.get? name = some (.guard c g) := by
  constructor
  · intro h
    obtain ⟨held, hm, hg⟩ := List.mem_filterMap.mp h
    obtain ⟨⟨name, held'⟩, he, rfl⟩ := List.mem_map.mp hm
    cases held' with
    | object r => cases hg
    | guard c g' =>
        cases hg
        exact ⟨name, c, Table.mem_entries_iff.mp he⟩
  · rintro ⟨name, c, h⟩
    refine List.mem_filterMap.mpr ⟨.guard c g, ?_, rfl⟩
    exact List.mem_map.mpr ⟨_, Table.mem_entries_iff.mpr h, rfl⟩

/-- Every guard may be released. -/
def Guarded (s : Session Sim) : Prop := ∀ g ∈ s.guards, g.Restorable s.driver.live

theorem of_released {g : Guard} (h : s.released? op = some g) :
    ∃ name c, op.dropped? = some name ∧ s.vars.get? name = some (.guard c g) := by
  obtain ⟨held, hheld, hg⟩ := Option.bind_eq_some_iff.mp h
  obtain ⟨name, hdropped, hname⟩ := Option.bind_eq_some_iff.mp hheld
  cases held with
  | object r => cases hg
  | guard c g' =>
      cases hg
      exact ⟨name, c, hdropped, hname⟩

theorem Guarded.careful (h : s.Guarded) (ha : op.Admissible s.driver.live) (s' : Session Sim) :
    Careful s op s' := by
  refine ⟨ha, fun g hg => ?_⟩
  obtain ⟨name, c, -, hname⟩ := of_released hg
  exact h g (mem_guards_iff.mpr ⟨name, c, hname⟩)

/-- As long as what guards recorded is not deleted, they may be released. -/
theorem Guarded.step (h : s.Guarded) (hr : Undisturbed s op s') (hp : s.Progress op s') :
    s'.Guarded := by
  obtain ⟨gone, hadvance, -⟩ := hp
  intro g hg
  obtain ⟨name, c, hname⟩ := mem_guards_iff.mp hg
  have hold : g.Restorable s.driver.live := by
    rcases hadvance.guards name c g hname with hkept | ⟨-, hnew⟩
    · exact h g (mem_guards_iff.mpr ⟨name, c, hkept⟩)
    · exact hnew
  intro hrestore id hid
  refine (hold hrestore id hid).mono fun k hk hm => hadvance.kept _ hm fun hgone => ?_
  refine hr.2 g hg k hk id hid ?_
  rw [hadvance.deleted, List.drop_left]
  exact hgone

/-- A run in which what guards recorded stays is a careful one, whatever the order of releases. -/
theorem Reachable.careful (h : Reachable Undisturbed config s) :
    Reachable Careful config s ∧ s.Guarded := by
  induction h with
  | start => exact ⟨.start, nofun⟩
  | adjust a _ ih =>
      refine ⟨ih.1.adjust a, fun g hg => ?_⟩
      cases a <;> exact ih.2 g hg
  | @step _ s' _ _ _ hs hr ih =>
      have hcareful := ih.2.careful hr.1 s'
      exact ⟨ih.1.step hs hcareful, ih.2.step hr (ih.1.progress hs hcareful)⟩

/-- A run under a rule is one under any weaker rule. -/
theorem Reachable.mono (h : Reachable rule config s)
    (hr : ∀ s op s', rule s op s' → rule' s op s') : Reachable rule' config s := by
  induction h with
  | start => exact .start
  | adjust a _ ih => exact ih.adjust a
  | step _ hs hrule ih => exact ih.step hs (hr _ _ _ hrule)

/-! ## Runs that are given -/

/-- Performs operations in order, as long as they keep to the rule. -/
def perform (rule : Rule) [∀ s op s', Decidable (rule s op s')] (s : Session Sim) :
    List Op → Option (Session Sim)
  | [] => some s
  | op :: ops => do
    let (_, s') ← s.step op
    if rule s op s' then s'.perform rule ops else none

theorem Reachable.perform [∀ s op s', Decidable (rule s op s')] {ops : List Op}
    (h : Reachable rule config s) (hp : s.perform rule ops = some s') :
    Reachable rule config s' := by
  induction ops generalizing s with
  | nil =>
      cases hp
      exact h
  | cons op ops ih =>
      simp only [Session.perform, Option.bind_eq_bind, Option.bind_eq_some_iff] at hp
      obtain ⟨⟨answer, s₁⟩, hs, hp⟩ := hp
      split at hp
      · rename_i hr
        exact ih (h.step hs hr) hp
      · cases hp

end Session

end GraphicsObjects
