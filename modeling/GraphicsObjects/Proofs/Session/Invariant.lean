import GraphicsObjects.Proofs.Context.Lifetime
import GraphicsObjects.Proofs.Object.Work
import GraphicsObjects.Proofs.Ownership.Balance
import GraphicsObjects.Session.Operation

/-!
# The invariant of a session with one context

The live objects of the driver are those that the boxes of the store name, each once; the counts of
the boxes are right; the cache is coherent; and every deletion that the context logged took place.
The references from outside the store are a parameter, since an operation may hold some for a while.
-/

namespace GraphicsObjects

open Ownership ContextM SessionM

/-- The kinds of the objects that an object of a kind may keep alive. -/
def Kind.MayOwn : Kind → Kind → Prop
  | .framebuffer, k => k = .texture ∨ k = .renderbuffer
  | .vertexArray, k => k = .buffer
  | .program, k => k = .shader
  | _, _ => False

theorem Kind.MayOwn.owned_eq_nil {p : Payload} {k : Kind} (h : k.MayOwn p.kind) : p.owned = [] := by
  cases p with
  | framebuffer | vertexArray | program => cases k <;> simp [MayOwn, Payload.kind] at h
  | _ => rfl

/-- The driver's object behind a box, unless it is the default object. -/
def nameOf? (x : Ref × Id × Object) : Option (Kind × Id) :=
  if x.2.1 = 0 then none else some (x.2.2.payload.kind, x.2.1)

/-- The driver's objects behind the boxes of a store. -/
def names (s : Store Object) : List (Kind × Id) := s.faces.filterMap nameOf?

theorem mem_names_iff {s : Store Object} {k : Kind} {id : Id} :
    (k, id) ∈ names s ↔ ∃ r o, (r, id, o) ∈ s.faces ∧ id ≠ 0 ∧ o.payload.kind = k := by
  simp only [names, List.mem_filterMap, nameOf?]
  constructor
  · rintro ⟨⟨r, i, o⟩, hm, hn⟩
    split at hn
    · cases hn
    · rename_i hz
      cases hn
      exact ⟨r, o, hm, hz, rfl⟩
  · rintro ⟨r, o, hm, hz, rfl⟩
    exact ⟨(r, id, o), hm, if_neg hz⟩

namespace Session

/-- The state of a session with one context, when the references in `outside` are held outside of
the store. -/
structure Sound (outside : List Ref) (s : Session Sim) : Prop where
  single : s.contexts.length = 1
  wellNamed : s.driver.WellNamed
  ready : (s.enter 0).Ready s.driver.live []
  named : s.driver.live.Perm (names s.store)
  logged : deletions s.trace = s.driver.deleted
  balanced : s.store.Balanced outside
  parts : ∀ r id o, (r, id, o) ∈ s.store.faces → ∀ q ∈ o.payload.owned,
    ∀ id' o', (q, id', o') ∈ s.store.faces → o.payload.kind.MayOwn o'.payload.kind
  home : ∀ r id o, (r, id, o) ∈ s.store.faces → o.context = 0
  screens : ∀ r o, (r, 0, o) ∈ s.store.faces → o.payload.kind = .framebuffer

/-- What goes on without deletion: only the contents of objects change that may, and boxes stay,
holding the same unless they are edited. -/
structure Quiet (may : Kind → Id → Prop) (edited : Ref → Prop) (s s' : Session Sim) : Prop where
  vars : s'.vars = s.vars
  deleted : s'.driver.deleted = s.driver.deleted
  live : ∀ n ∈ s.driver.live, n ∈ s'.driver.live
  others : ∀ k i, ¬ may k i → s'.driver.stateOf k i = s.driver.stateOf k i
  boxes : ∀ r id o, (r, id, o) ∈ s.store.faces → ∃ o', (r, id, o') ∈ s'.store.faces ∧
    o'.payload.kind = o.payload.kind ∧ (¬ edited r → o'.payload.owned = o.payload.owned)

variable {s s' s'' : Session Sim} {outside outside' : List Ref} {may : Kind → Id → Prop}
variable {edited : Ref → Prop} {α : Type}

theorem Quiet.refl (may : Kind → Id → Prop) (edited : Ref → Prop) (s : Session Sim) :
    s.Quiet may edited s :=
  ⟨rfl, rfl, fun _ h => h, fun _ _ _ => rfl, fun _ _ o h => ⟨o, h, rfl, fun _ => rfl⟩⟩

theorem Quiet.trans (h : s.Quiet may edited s') (h' : s'.Quiet may edited s'') :
    s.Quiet may edited s'' where
  vars := h'.vars.trans h.vars
  deleted := h'.deleted.trans h.deleted
  live n hn := h'.live n (h.live n hn)
  others k i hm := (h'.others k i hm).trans (h.others k i hm)
  boxes r id o hm := by
    obtain ⟨o₁, hm₁, hk₁, ho₁⟩ := h.boxes r id o hm
    obtain ⟨o₂, hm₂, hk₂, ho₂⟩ := h'.boxes r id o₁ hm₁
    exact ⟨o₂, hm₂, hk₂.trans hk₁, fun hr => (ho₂ hr).trans (ho₁ hr)⟩

theorem Sound.perm (h : s.Sound outside) (hp : outside.Perm outside') : s.Sound outside' :=
  { h with balanced := h.balanced.perm hp }

/-! ## What is live -/

theorem Sound.nodup (h : s.Sound outside) : (names s.store).Nodup :=
  h.named.nodup_iff.mp h.wellNamed.nodup

theorem Sound.mem_live (h : s.Sound outside) {r : Ref} {id : Id} {o : Object}
    (hm : (r, id, o) ∈ s.store.faces) (hz : id ≠ 0) : (o.payload.kind, id) ∈ s.driver.live :=
  h.named.mem_iff.mpr (mem_names_iff.mpr ⟨r, o, hm, hz, rfl⟩)

/-- An object behind a box may be bound. -/
theorem Sound.admits (h : s.Sound outside) {r : Ref} {id : Id} {o : Object} {slot : Slot}
    (hm : (r, id, o) ∈ s.store.faces) (hk : slot.kind? = some o.payload.kind) :
    slot.Admits s.driver.live id := by
  by_cases hz : id = 0
  · exact .inl hz
  · exact Slot.admits_of_mem hk (h.mem_live hm hz)

/-! ## Work in the context -/

theorem enter_leave {δ : Type} {s : Session δ} (h : s.contexts.length = 1) (c : Context δ) :
    (s.leave 0 c).enter 0 = c := by
  obtain ⟨b, hb⟩ := List.length_eq_one_iff.mp h
  simp [enter, leave, hb]

theorem leave_leave (s : Session Sim) (c c' : Context Sim) :
    (s.leave 0 c).leave 0 c' = s.leave 0 c' := by
  simp [leave]

theorem length_leave {δ : Type} {s : Session δ} (h : s.contexts.length = 1) (c : Context δ) :
    (s.leave 0 c).contexts.length = 1 := by
  simpa [leave] using h

/-- Two pieces of work one after the other are one. -/
theorem inContext_bind {β : Type} (h : s.contexts.length = 1) (x : ContextM Sim α)
    (f : α → ContextM Sim β) :
    inContext 0 (f (inContext 0 x s).1) (inContext 0 x s).2 = inContext 0 (x >>= f) s := by
  change (_, (s.leave 0 (x (s.enter 0)).2).leave 0 _) = _
  have he : (inContext 0 x s).2.enter 0 = (x (s.enter 0)).2 := enter_leave h _
  rw [he, leave_leave]
  rfl

theorem Sound.work (h : s.Sound outside) (edited : Ref → Prop) {act : ContextM Sim α}
    {held : List (Slot × Id)} (hw : Work s.driver.live may [] held act) :
    (inContext 0 act s).2.Sound outside ∧ s.Quiet may edited (inContext 0 act s).2 := by
  obtain ⟨hr, hk⟩ := hw (s.enter 0) h.ready
  have he := enter_leave h.single (act (s.enter 0)).2
  have hl : (act (s.enter 0)).2.driver.live = s.driver.live := hr.live
  constructor
  · refine ⟨length_leave h.single _, hk.wellNamed h.ready hr h.wellNamed, ?_, ?_, ?_, h.balanced,
      h.parts, h.home, h.screens⟩
    · change ((s.leave 0 (act (s.enter 0)).2).enter 0).Ready (act (s.enter 0)).2.driver.live []
      rw [he]
      exact ⟨rfl, hr.coherent, nofun⟩
    · exact (List.Perm.of_eq hl).trans h.named
    · exact (hk.logged.trans h.logged).trans hk.deleted.symm
  · refine ⟨rfl, hk.deleted, fun n hn => ?_, hk.others, (Quiet.refl may edited s).boxes⟩
    change n ∈ (act (s.enter 0)).2.driver.live
    rw [hl]
    exact hn

/-! ## References -/

theorem Sound.retain (h : s.Sound outside) (may : Kind → Id → Prop) (edited : Ref → Prop) {r : Ref}
    (hr : r ∈ outside ++ s.store.inner) :
    (SessionM.retain r s).2.Sound (r :: outside) ∧
      s.Quiet may edited (SessionM.retain r s).2 := by
  obtain ⟨b, hb⟩ := h.balanced.get?_of_mem hr
  have hf : (SessionM.retain r s).2.store.faces = s.store.faces := Store.faces_retain ..
  have hn : names (SessionM.retain r s).2.store = names s.store := by
    rw [names, hf]
    rfl
  constructor
  · refine ⟨h.single, h.wellNamed, h.ready, ?_, h.logged, h.balanced.retain hb, ?_, ?_, ?_⟩
    · rw [hn]
      exact h.named
    · rw [hf]
      exact h.parts
    · rw [hf]
      exact h.home
    · rw [hf]
      exact h.screens
  · refine ⟨rfl, rfl, fun _ hn => hn, fun _ _ _ => rfl, ?_⟩
    rw [hf]
    exact (Quiet.refl may edited s).boxes

theorem faces_unique {t : Store Object} {r : Ref} {id id' : Id} {o o' : Object}
    (h : (r, id, o) ∈ t.faces) (h' : (r, id', o') ∈ t.faces) : id' = id ∧ o' = o := by
  obtain ⟨b, hb, rfl, rfl⟩ := Store.mem_faces_iff.mp h
  obtain ⟨b', hb', rfl, rfl⟩ := Store.mem_faces_iff.mp h'
  rw [hb] at hb'
  cases hb'
  exact ⟨rfl, rfl⟩

theorem mem_faces_setPayload {r q : Ref} {p : Payload} {id : Id} {o : Object} :
    (q, id, o) ∈ (SessionM.setPayload r p s).2.store.faces ↔
      ∃ o₀, (q, id, o₀) ∈ s.store.faces ∧ o = if q = r then { o₀ with payload := p } else o₀ := by
  rw [Store.mem_faces_iff]
  change (∃ b, Store.get? (s.store.modify r _) q = some b ∧ _) ↔ _
  rw [Store.get?_modify]
  by_cases hq : q = r
  · simp only [if_pos hq, Option.map_eq_some_iff]
    constructor
    · rintro ⟨b, ⟨b₀, hb₀, rfl⟩, rfl, rfl⟩
      exact ⟨b₀.content, Store.mem_faces_iff.mpr ⟨b₀, hb₀, rfl, rfl⟩, rfl⟩
    · rintro ⟨o₀, hm, rfl⟩
      obtain ⟨b₀, hb₀, rfl, rfl⟩ := Store.mem_faces_iff.mp hm
      exact ⟨_, ⟨b₀, hb₀, rfl⟩, rfl, rfl⟩
  · simp only [if_neg hq]
    constructor
    · rintro ⟨b, hb, rfl, rfl⟩
      exact ⟨b.content, Store.mem_faces_iff.mpr ⟨b, hb, rfl, rfl⟩, rfl⟩
    · rintro ⟨o₀, hm, rfl⟩
      exact Store.mem_faces_iff.mp hm

/-- An object may come to hold other references, and give some to the outside or take some from
there. -/
theorem Sound.setPayload (h : s.Sound outside) {r : Ref} {id : Id} {o : Object} {p : Payload}
    (hm : (r, id, o) ∈ s.store.faces) (hk : p.kind = o.payload.kind)
    (hp : (outside' ++ p.owned).Perm (outside ++ o.payload.owned))
    (hparts : ∀ q ∈ p.owned, ∀ id' o', (q, id', o') ∈ s.store.faces →
      p.kind.MayOwn o'.payload.kind) :
    (SessionM.setPayload r p s).2.Sound outside' := by
  obtain ⟨b, hb, rfl, rfl⟩ := Store.mem_faces_iff.mp hm
  refine ⟨h.single, h.wellNamed, h.ready, ?_, h.logged, ?_, ?_, ?_, ?_⟩
  · have hold := (Store.faces_perm hb).filterMap nameOf?
    have hnew := (Store.faces_modify_perm
      (fun b => { b with content := { b.content with payload := p } }) hb).filterMap nameOf?
    refine h.named.trans (hold.trans ?_)
    refine List.Perm.trans (.of_eq ?_) hnew.symm
    simp only [List.filterMap_cons, Store.face, nameOf?, hk]
  · exact h.balanced.modify hb (fun _ => rfl) hp
  · intro q id o hq x hx id' o' hx'
    obtain ⟨o₀, hq₀, rfl⟩ := mem_faces_setPayload.mp hq
    obtain ⟨o₁, hx₁, rfl⟩ := mem_faces_setPayload.mp hx'
    have hkind :
        (if x = r then { o₁ with payload := p } else o₁).payload.kind = o₁.payload.kind := by
      split
      · rename_i hxr
        subst hxr
        obtain ⟨-, rfl⟩ := faces_unique hm hx₁
        exact hk
      · rfl
    rw [hkind]
    split at hx
    · rename_i hqr
      rw [if_pos hqr]
      exact hparts x hx _ _ hx₁
    · rename_i hqr
      rw [if_neg hqr]
      exact h.parts q id o₀ hq₀ x hx _ _ hx₁
  · intro q id o hq
    obtain ⟨o₀, hq₀, rfl⟩ := mem_faces_setPayload.mp hq
    have hc : (if q = r then { o₀ with payload := p } else o₀).context = o₀.context := by
      split <;> rfl
    rw [hc]
    exact h.home q id o₀ hq₀
  · intro q o hq
    obtain ⟨o₀, hq₀, rfl⟩ := mem_faces_setPayload.mp hq
    split
    · rename_i hqr
      subst hqr
      obtain ⟨-, ho⟩ := faces_unique hm hq₀
      exact hk.trans (ho ▸ h.screens q o₀ hq₀)
    · exact h.screens q o₀ hq₀

theorem quiet_setPayload {r : Ref} {id : Id} {o : Object} {p : Payload}
    (hm : (r, id, o) ∈ s.store.faces) (hk : p.kind = o.payload.kind)
    (he : ¬ edited r → p.owned = o.payload.owned) :
    s.Quiet may edited (SessionM.setPayload r p s).2 := by
  refine ⟨rfl, rfl, fun _ hn => hn, fun _ _ _ => rfl, fun q i o' hq => ?_⟩
  refine ⟨_, mem_faces_setPayload.mpr ⟨o', hq, rfl⟩, ?_⟩
  split
  · rename_i hqr
    subst hqr
    obtain ⟨-, rfl⟩ := faces_unique hm hq
    exact ⟨hk, he⟩
  · exact ⟨rfl, fun _ => rfl⟩

end Session

end GraphicsObjects
