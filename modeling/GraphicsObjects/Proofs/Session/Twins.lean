import GraphicsObjects.Proofs.Object.Twins
import GraphicsObjects.Proofs.Session.Runs

/-!
# A session beside one that leaves out no bind

Two sessions that hold the same objects in the same variables, over contexts that are twins. What a
session is made of gives the same answers in both, and sessions that are twins again.
-/

namespace GraphicsObjects

open Ownership ContextM SessionM

/-- The guard without what it recorded, which is the cache's own answer. -/
def Guard.blind (g : Guard) : Guard := { g with previous := none }

/-- What a variable holds, without what a guard recorded. -/
def Held.blind : Held → Held
  | .object r => .object r
  | .guard c g => .guard c g.blind

/-- A guard of the one context, if it is one, that does not restore. -/
def Held.Lax : Held → Prop
  | .object _ => True
  | .guard c g => c = 0 ∧ g.restore = false

/-- No buffer and no vertex array was deleted. -/
def Sim.Spared (s : Sim) : Prop := ∀ n ∈ s.deleted, n.1 ≠ .buffer ∧ n.1 ≠ .vertexArray

instance (s : Sim) : Decidable s.Spared := inferInstanceAs (Decidable (∀ n ∈ s.deleted, _))

/-- Every framebuffer gives back what is attached to it in the same order. -/
def SameOrders (orders orders' : List (List Nat)) : Prop :=
  ∀ r, orders'.getD r [] = orders.getD r []

/-- Sessions with the same objects and variables, over contexts that are twins, and the same order
for every framebuffer. No guard restores. -/
structure Session.Twin (tied : Prop) (s s' : Session Sim) : Prop where
  single : s.contexts.length = 1 ∧ s'.contexts.length = 1
  twin : (s.enter 0).Twin s.driver.live tied (s'.enter 0)
  store : s'.store = s.store
  orders : SameOrders s.orders s'.orders
  vars : ∀ name, (s'.vars.get? name).map Held.blind = (s.vars.get? name).map Held.blind
  lax : ∀ name held, s.vars.get? name = some held → held.Lax

/-- The same answer in both sessions, which are twins afterwards. -/
structure Session.Together {α : Type} (tied : Prop) (act : SessionM Sim α) (s s' : Session Sim) :
    Prop where
  answer : (act s').1 = (act s).1
  twin : (act s).2.Twin tied (act s').2

namespace Session

variable {α β ρ : Type} {tied tied' : Prop} {s s' : Session Sim} {outside : List Ref}
variable {c c' : Context Sim}

theorem Twin.mono (h : s.Twin tied s') (ht : tied' → tied) : s.Twin tied' s' :=
  { h with twin := { h.twin with tied := fun h' => h.twin.tied (ht h') } }

theorem Together.pure (h : s.Twin tied s') (a : α) : Together tied (Pure.pure a) s s' := ⟨rfl, h⟩

theorem Together.bind {x : SessionM Sim α} {f : α → SessionM Sim β} (hx : Together tied x s s')
    (hf : Together tied' (f (x s).1) (x s).2 (x s').2) : Together tied' (x >>= f) s s' := by
  obtain ⟨ha, ht⟩ := hf
  constructor
  · rw [bind_apply, bind_apply, hx.answer]
    exact ha
  · rw [bind_apply, bind_apply, hx.answer]
    exact ht

/-! ## What is looked up -/

theorem ref?_blind (held : Option Held) :
    (held.map Held.blind).bind Held.ref? = held.bind Held.ref? := by
  cases held with
  | none => rfl
  | some held => cases held <;> rfl

theorem Twin.ref?_eq (h : s.Twin tied s') (name : String) :
    (s'.vars.get? name).bind Held.ref? = (s.vars.get? name).bind Held.ref? := by
  rw [← ref?_blind, h.vars, ref?_blind]

theorem match_object (held : Option Held) (f : Ref → Option α) :
    (match held with
      | some (.object r) => f r
      | _ => none) = (held.bind Held.ref?).bind f := by
  cases held with
  | none => rfl
  | some held => cases held <;> rfl

theorem Twin.box?_eq (h : s.Twin tied s') (name : String) : s'.box? name = s.box? name := by
  have he (t : Session Sim) : t.box? name =
      ((t.vars.get? name).bind Held.ref?).bind fun r => (t.store.get? r).map fun b => (r, b) :=
    match_object ..
  rw [he, he, h.ref?_eq, h.store]

theorem Twin.follow?_eq (h : s.Twin tied s') (known? : Payload → Option ρ) :
    s'.follow? known? = s.follow? known? := by
  funext r
  rw [follow?, follow?, h.store]

theorem Twin.find?_eq (h : s.Twin tied s') (known? : Payload → Option ρ) (name : String) :
    s'.find? known? name = s.find? known? name := by
  have he (t : Session Sim) : t.find? known? name =
      ((t.vars.get? name).bind Held.ref?).bind (t.follow? known?) := match_object ..
  rw [he, he, h.ref?_eq, h.follow?_eq]

/-! ## Work in the context -/

theorem Twin.leave (h : s.Twin tied s') {live : List (Kind × Id)}
    (hc : c.Twin live tied' c') : (s.leave 0 c).Twin tied' (s'.leave 0 c') where
  single := ⟨length_leave h.single.1 c, length_leave h.single.2 c'⟩
  twin := by
    rw [enter_leave h.single.1, enter_leave h.single.2]
    exact hc.ready.live ▸ hc
  store := h.store
  orders := h.orders
  vars := h.vars
  lax := h.lax

theorem Twin.work (h : s.Twin tied s') {act : ContextM Sim α}
    (hf : Follows s.driver.live tied act) : Together tied (inContext 0 act) s s' := by
  obtain ⟨ha, hc⟩ := hf _ _ h.twin
  exact ⟨ha, h.leave hc⟩

/-! ## References -/

theorem Twin.setStore (h : s.Twin tied s') (t : Store Object) :
    Twin tied { s with store := t } { s' with store := t } :=
  { h with store := rfl }

theorem Twin.retain (h : s.Twin tied s') (r : Ref) : Together tied (SessionM.retain r) s s' := by
  have ht := h.setStore (s.store.retain r)
  refine ⟨rfl, ?_⟩
  change Twin tied _ { s' with store := s'.store.retain r }
  rw [h.store]
  exact ht

theorem Twin.setPayload (h : s.Twin tied s') (r : Ref) (p : Payload) :
    Together tied (SessionM.setPayload r p) s s' := by
  have ht := h.setStore (s.store.modify r fun b =>
    { b with content := { b.content with payload := p } })
  refine ⟨rfl, ?_⟩
  change Twin tied _ { s' with store := s'.store.modify r _ }
  rw [h.store]
  exact ht

theorem Twin.giveBack (h : s.Twin True s') {rs : List Ref} (hs : s.Sound (rs ++ outside)) :
    Together (SessionM.giveBack rs s).2.driver.Spared (SessionM.giveBack rs) s s' := by
  obtain ⟨-, -, zs, hd, -, -, hp⟩ := hs.balanced.release
  obtain ⟨hn, hl, hc⟩ := hs.nodup_gone hp
  have hz : ∀ n ∈ gone zs, n.2 ≠ 0 := fun n hn => hs.wellNamed.ne_zero (hl n hn)
  obtain ⟨live, htwin⟩ := twin_destroyAll h.twin hn hl hz
  have ha := allDestroyed_destroyAll hs.ready hs.wellNamed hn hl
  have hd' : (s'.store.release rs).1 = zs.map Prod.snd := by
    rw [h.store]
    exact hd
  refine ⟨rfl, ?_⟩
  rw [giveBack_eq h.single.1 hd hc, giveBack_eq h.single.2 hd' hc, h.store]
  have hleft := (h.setStore (s.store.release rs).2).leave htwin
  refine hleft.mono fun hspared => ⟨trivial, fun n hn => hspared n ?_⟩
  have hdeleted : (destroyAll (gone zs) (s.enter 0)).2.driver.deleted =
      s.driver.deleted ++ gone zs := ha.deleted
  change n ∈ (destroyAll (gone zs) (s.enter 0)).2.driver.deleted
  rw [hdeleted]
  exact List.mem_append_right _ hn

/-! ## Variables -/

/-- The release of a guard that does not restore does nothing. -/
theorem inContext_release (h : s.contexts.length = 1) {g : Guard} (hg : g.restore = false) :
    inContext 0 (release g) s = ((), s) := by
  rw [release_of_lax hg]
  exact congrArg (Prod.mk ()) (leave_enter h)

theorem Twin.dropHeld (h : s.Twin True s') {held held' : Held} (hb : held'.blind = held.blind)
    (hl : held.Lax) (hs : s.Sound (held.ref?.toList ++ outside)) :
    (SessionM.dropHeld held s).2.Twin (SessionM.dropHeld held s).2.driver.Spared
      (SessionM.dropHeld held' s').2 := by
  cases held with
  | object r =>
      cases held' with
      | object r' =>
          cases hb
          exact (h.giveBack hs).twin
      | guard => cases hb
  | guard c g =>
      cases held' with
      | object => cases hb
      | guard c' g' =>
          obtain ⟨rfl, hg⟩ := hl
          obtain ⟨rfl, hblind⟩ := Held.guard.inj hb
          have hg' : g'.restore = false := (congrArg Guard.restore hblind).trans hg
          rw [SessionM.dropHeld, SessionM.dropHeld, inContext_release h.single.1 hg,
            inContext_release h.single.2 hg']
          exact h.mono fun _ => trivial

theorem Twin.setVars (h : s.Twin tied s') {vars vars' : Table String Held}
    (hv : ∀ name, (vars'.get? name).map Held.blind = (vars.get? name).map Held.blind)
    (hl : ∀ name held, vars.get? name = some held → held.Lax) :
    Twin tied { s with vars } { s' with vars := vars' } :=
  { h with vars := hv, lax := hl }

theorem Twin.insert (h : s.Twin tied s') (name : String) {held held' : Held}
    (hb : held'.blind = held.blind) (hl : held.Lax) :
    Twin tied { s with vars := s.vars.insert name held }
      { s' with vars := s'.vars.insert name held' } := by
  refine h.setVars (fun n => ?_) fun n x hx => ?_
  · rw [Table.get?_insert, Table.get?_insert]
    split
    · exact congrArg some hb
    · exact h.vars n
  · rw [Table.get?_insert] at hx
    split at hx
    · cases hx
      exact hl
    · exact h.lax n x hx

theorem Twin.erase (h : s.Twin tied s') (name : String) :
    Twin tied { s with vars := s.vars.erase name } { s' with vars := s'.vars.erase name } := by
  refine h.setVars (fun n => ?_) fun n x hx => ?_
  · rw [Table.get?_erase, Table.get?_erase]
    split
    · rfl
    · exact h.vars n
  · rw [Table.get?_erase] at hx
    split at hx
    · cases hx
    · exact h.lax n x hx

/-- What a variable held in both sessions, if it held anything. -/
theorem Twin.held (h : s.Twin tied s') {name : String} {held : Held}
    (hv : s.vars.get? name = some held) :
    ∃ held', s'.vars.get? name = some held' ∧ held'.blind = held.blind := by
  have hb := h.vars name
  rw [hv] at hb
  exact Option.map_eq_some_iff.mp hb

theorem Twin.unheld (h : s.Twin tied s') {name : String} (hv : s.vars.get? name = none) :
    s'.vars.get? name = none := by
  have hb := h.vars name
  rw [hv] at hb
  exact Option.map_eq_none_iff.mp hb

theorem setVariable_none {name : String} (hv : s.vars.get? name = none) (held : Held) :
    SessionM.setVariable name held s = ((), { s with vars := s.vars.insert name held }) := by
  rw [SessionM.setVariable, bind_apply, get_apply, bind_apply, modify_apply, hv]
  rfl

theorem setVariable_some {name : String} {old : Held} (hv : s.vars.get? name = some old)
    (held : Held) : SessionM.setVariable name held s =
      SessionM.dropHeld old { s with vars := s.vars.insert name held } := by
  rw [SessionM.setVariable, bind_apply, get_apply, bind_apply, modify_apply, hv]

theorem Twin.setVariable (h : s.Twin True s') (name : String) (held held' : Held)
    (hb : held'.blind = held.blind) (hl : held.Lax)
    (hs : s.Sound (held.ref?.toList ++ s.roots)) :
    (SessionM.setVariable name held s).2.Twin (SessionM.setVariable name held s).2.driver.Spared
      (SessionM.setVariable name held' s').2 := by
  have hinsert := h.insert name hb hl
  cases hold : s.vars.get? name with
  | none =>
      rw [setVariable_none hold, setVariable_none (h.unheld hold)]
      exact hinsert.mono fun _ => trivial
  | some old =>
      obtain ⟨old', hold', hbold⟩ := h.held hold
      rw [setVariable_some hold, setVariable_some hold']
      have hs₁ := (hs.perm (roots_insert_perm s name held)).setVariables (s.vars.insert name held)
      rw [hold] at hs₁
      exact hinsert.dropHeld hbold (h.lax name old hold) hs₁

end Session

end GraphicsObjects
