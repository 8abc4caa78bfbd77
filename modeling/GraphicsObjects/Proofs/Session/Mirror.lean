import GraphicsObjects.Proofs.Context.Tidying
import GraphicsObjects.Proofs.Object.Linking
import GraphicsObjects.Proofs.Session.Runs
import GraphicsObjects.Proofs.Simulation.Ties

/-!
# What is known of objects mirrors the driver

A framebuffer's attachments, a program's shaders and its link status, and the element buffer that a
vertex array was given last are the same in the store and in the driver. Vertex arrays count only
where no element buffer is bound but by way of a vertex array.
-/

namespace GraphicsObjects

open Ownership ContextM SessionM

namespace Session

variable {s : Session Sim} {outside : List Ref} {r : Ref} {id : Id} {o : Object}

/-! ## Names of objects -/

/-- The kind and the driver's name of the object behind a reference. -/
def nameAt? (s : Session Sim) (r : Ref) : Option (Kind × Id) :=
  (s.store.get? r).map fun b => (b.content.payload.kind, b.id)

theorem nameAt?_eq_some_iff {n : Kind × Id} :
    s.nameAt? r = some n ↔ ∃ o, (r, n.2, o) ∈ s.store.faces ∧ o.payload.kind = n.1 := by
  simp only [nameAt?, Option.map_eq_some_iff, Store.mem_faces_iff]
  constructor
  · rintro ⟨b, hb, rfl⟩
    exact ⟨b.content, ⟨b, hb, rfl, rfl⟩, rfl⟩
  · rintro ⟨o, ⟨b, hb, hid, rfl⟩, hk⟩
    exact ⟨b, hb, Prod.ext hk hid⟩

theorem nameAt?_of_mem (h : (r, id, o) ∈ s.store.faces) :
    s.nameAt? r = some (o.payload.kind, id) :=
  nameAt?_eq_some_iff.mpr ⟨o, h, rfl⟩

theorem idOf_eq (s : Session Sim) (r : Ref) : s.idOf r = (s.nameAt? r).elim 0 Prod.snd := by
  unfold idOf nameAt?
  cases s.store.get? r <;> rfl

theorem idOf_of_mem (h : (r, id, o) ∈ s.store.faces) : s.idOf r = id := by
  rw [idOf_eq, nameAt?_of_mem h]
  rfl

/-- What an object keeps alive is in the store. -/
theorem Sound.face_of_owned (h : s.Sound outside) (hm : (r, id, o) ∈ s.store.faces) {q : Ref}
    (hq : q ∈ o.payload.owned) : ∃ i x, (q, i, x) ∈ s.store.faces := by
  have hinner : q ∈ s.store.inner := List.mem_flatMap.mpr ⟨_, hm, hq⟩
  obtain ⟨b, hb⟩ := h.balanced.get?_of_mem (List.mem_append_right _ hinner)
  exact ⟨b.id, b.content, Store.mem_faces_iff.mpr ⟨b, hb, rfl, rfl⟩⟩

theorem Sound.lt_next (h : s.Sound outside) (hm : (r, id, o) ∈ s.store.faces) :
    r < s.store.next := by
  obtain ⟨b, hb, -, -⟩ := Store.mem_faces_iff.mp hm
  refine Nat.lt_of_not_le fun hle => ?_
  cases (h.balanced.fresh r hle).symm.trans hb

end Session

/-! ## Links -/

namespace Payload

/-- The links that an object has by what is known of it. `element` is the element buffer that it was
given last. -/
def links (s : Session Sim) (element : Option Ref) : Payload → Links
  | framebuffer f => .attachments fun point => (f.attachments.get? point).bind s.nameAt?
  | program p => .shaders (p.shaders.map s.idOf) p.linked
  | vertexArray _ => .elements (element.elim 0 s.idOf)
  | _ => .none

/-- No shader is listed twice, and the element buffer is kept alive. -/
def Orderly (element : Option Ref) : Payload → Prop
  | program p => p.shaders.Nodup
  | vertexArray v => ∀ b ∈ element, b ∈ v.buffers
  | _ => True

theorem links_congr {s s' : Session Sim} {element : Option Ref} {p : Payload}
    (ho : p.Orderly element) (h : ∀ r ∈ p.owned, s'.nameAt? r = s.nameAt? r) :
    p.links s' element = p.links s element := by
  have hid : ∀ r ∈ p.owned, s'.idOf r = s.idOf r := fun r hr => by
    rw [Session.idOf_eq, Session.idOf_eq, h r hr]
  cases p with
  | framebuffer f =>
      refine congrArg Links.attachments (funext fun point => ?_)
      cases hr : f.attachments.get? point with
      | none => rfl
      | some r => exact h r (Framebuffer.mem_kept hr)
  | program p => exact congrArg (Links.shaders · p.linked) (List.map_congr_left hid)
  | vertexArray v =>
      cases element with
      | none => rfl
      | some b => exact congrArg Links.elements (hid b (ho b rfl))
  | _ => rfl

end Payload

namespace Session

/-- The driver's objects refer to what the objects in the store hold. `last` tells the element
buffer that a vertex array was given last; vertex arrays count if `tied` holds. -/
structure Mirrored (tied : Prop) (last : Ref → Option Ref) (s : Session Sim) : Prop where
  tidy : s.driver.Tidy
  settled : tied → s.driver.Settled
  orderly : ∀ r id o, (r, id, o) ∈ s.store.faces → o.payload.Orderly (last r)
  links : ∀ r id o, (r, id, o) ∈ s.store.faces → id ≠ 0 → (o.payload.kind = .vertexArray → tied) →
    s.driver.links o.payload.kind id = o.payload.links s (last r)
  fresh : ∀ r, s.store.next ≤ r → last r = none
  guards : tied → ∀ g ∈ s.guards, g.slot ≠ .elementArray

variable {s s' : Session Sim} {outside : List Ref} {r : Ref} {id : Id} {o : Object} {p : Payload}
variable {tied : Prop} {last last' : Ref → Option Ref} {α : Type}

/-- The element buffer of a vertex array, if it has one, is kept alive by it. -/
theorem Mirrored.element (h : s.Mirrored tied last) (hs : s.Sound outside) (ht : tied)
    (hm : (r, id, o) ∈ s.store.faces) (hz : id ≠ 0) (hk : o.payload.kind = .vertexArray) :
    s.driver.elementBuffer id = 0 ∨ ∃ b ∈ o.payload.owned, ∃ x,
      (b, s.driver.elementBuffer id, x) ∈ s.store.faces ∧ x.payload.kind = .buffer := by
  have hl := h.links r id o hm hz fun _ => ht
  have ho := h.orderly r id o hm
  rw [hk, Sim.links_vertexArray hz] at hl
  cases hp : o.payload with
  | vertexArray v =>
      rw [hp] at hl ho
      have hid : s.driver.elementBuffer id = (last r).elim 0 s.idOf := Links.elements.inj hl
      cases hb : last r with
      | none =>
          rw [hb] at hid
          exact .inl hid
      | some b =>
          rw [hb] at hid
          have hown : b ∈ o.payload.owned := by
            rw [hp]
            exact ho b hb
          obtain ⟨i, x, hx⟩ := hs.face_of_owned hm hown
          have hkind := hs.parts r id o hm b hown i x hx
          rw [hk] at hkind
          have hi : s.driver.elementBuffer id = i := hid.trans (idOf_of_mem hx)
          exact .inr ⟨b, hp ▸ hown, x, hi ▸ hx, hkind⟩
  | _ =>
      rw [hp] at hk
      cases hk

theorem guards_congr (h : s'.vars = s.vars) : s'.guards = s.guards := by
  rw [guards, h]
  rfl

/-! ## Work -/

/-- The driver changed, but no links. -/
theorem Mirrored.congr (h : s.Mirrored tied last)
    (hd : s.driver.Preserves tied nothing s'.driver) (hf : s'.store.faces = s.store.faces)
    (hn : s'.store.next = s.store.next) (hv : s'.vars = s.vars) : s'.Mirrored tied last where
  tidy := hd.tidy
  settled ht := hd.settled (h.settled ht)
  orderly := by
    rw [hf]
    exact h.orderly
  links r id o hm hz hk := by
    rw [hf] at hm
    have hname : s'.nameAt? = s.nameAt? := by
      funext q
      refine Option.ext fun n => ?_
      rw [nameAt?_eq_some_iff, nameAt?_eq_some_iff, hf]
    rw [hd.links _ _ not_false hk, h.links r id o hm hz hk]
    exact (Payload.links_congr (h.orderly r id o hm) fun q _ => congrFun hname q).symm
  fresh := by
    rw [hn]
    exact h.fresh
  guards := by
    rw [guards_congr hv]
    exact h.guards

theorem Mirrored.work (h : s.Mirrored tied last) {act : ContextM Sim α}
    (hk : KeepsLinks tied act) : (inContext 0 act s).2.Mirrored tied last :=
  h.congr ((hk (s.enter 0)).preserves h.tidy nothing) rfl rfl rfl

theorem Mirrored.retain (h : s.Mirrored tied last) (r : Ref) :
    (SessionM.retain r s).2.Mirrored tied last :=
  h.congr (Sim.Continues.preserves .refl h.tidy nothing) (Store.faces_retain ..) rfl rfl

/-- An object in the driver changes together with what is known of it. -/
theorem Mirrored.edit (h : s.Mirrored tied last) (hs : s.Sound outside)
    (hm : (r, id, o) ∈ s.store.faces) (hk : p.kind = o.payload.kind)
    (hd : s.driver.Preserves tied (only p.kind id) s'.driver)
    (hf : ∀ q i x, (q, i, x) ∈ s'.store.faces ↔ ∃ x₀, (q, i, x₀) ∈ s.store.faces ∧
      x = if q = r then { x₀ with payload := p } else x₀)
    (hn : s'.store.next = s.store.next) (hv : s'.vars = s.vars)
    (hlast : ∀ q, q ≠ r → last' q = last q) (ho : p.Orderly (last' r))
    (hl : id ≠ 0 → (p.kind = .vertexArray → tied) →
      s'.driver.links p.kind id = p.links s (last' r)) : s'.Mirrored tied last' := by
  have hname : ∀ q, s'.nameAt? q = s.nameAt? q := by
    intro q
    refine Option.ext fun n => ?_
    rw [nameAt?_eq_some_iff, nameAt?_eq_some_iff]
    constructor
    · rintro ⟨x, hx, hkx⟩
      obtain ⟨x₀, hx₀, rfl⟩ := (hf ..).mp hx
      refine ⟨x₀, hx₀, ?_⟩
      split at hkx
      · rename_i hqr
        subst hqr
        obtain ⟨-, rfl⟩ := faces_unique hm hx₀
        exact hk.symm.trans hkx
      · exact hkx
    · rintro ⟨x₀, hx₀, hkx⟩
      refine ⟨_, (hf ..).mpr ⟨x₀, hx₀, rfl⟩, ?_⟩
      split
      · rename_i hqr
        subst hqr
        obtain ⟨-, rfl⟩ := faces_unique hm hx₀
        exact hk.trans hkx
      · exact hkx
  refine ⟨hd.tidy, fun ht => hd.settled (h.settled ht), fun q i x hx => ?_,
    fun q i x hx hz hkx => ?_, fun q hq => ?_, ?_⟩
  · obtain ⟨x₀, hx₀, rfl⟩ := (hf ..).mp hx
    split
    · rename_i hqr
      rw [hqr]
      exact ho
    · rename_i hqr
      rw [hlast q hqr]
      exact h.orderly q i x₀ hx₀
  · obtain ⟨x₀, hx₀, rfl⟩ := (hf ..).mp hx
    split at hkx
    · rename_i hqr
      subst hqr
      obtain ⟨rfl, rfl⟩ := faces_unique hm hx₀
      rw [if_pos rfl]
      exact (hl hz hkx).trans (Payload.links_congr ho fun q _ => hname q).symm
    · rename_i hqr
      rw [if_neg hqr, hlast q hqr]
      have hother : ¬ only p.kind id x₀.payload.kind i := by
        rintro ⟨hkind, rfl⟩
        have hn₀ : nameOf? (q, i, x₀) = some (p.kind, i) := by simp [nameOf?, hz, hkind]
        have hn : nameOf? (r, i, o) = some (p.kind, i) := by simp [nameOf?, hz, hk]
        exact hqr (congrArg Prod.fst (nameOf?_unique hs hx₀ hm hn₀ hn))
      rw [hd.links _ _ hother hkx, h.links q i x₀ hx₀ hz hkx]
      exact (Payload.links_congr (h.orderly q i x₀ hx₀) fun y _ => hname y).symm
  · rw [hn] at hq
    rw [hlast q fun e => absurd (hs.lt_next hm) (Nat.not_lt.mpr (e ▸ hq))]
    exact h.fresh q hq
  · rw [guards_congr hv]
    exact h.guards

/-- Work that changes no links, after which something else is known of an object that has the same
links. -/
theorem Mirrored.rework (h : s.Mirrored tied last) (hs : s.Sound outside) {act : ContextM Sim α}
    (hd : s.driver.Preserves tied nothing (inContext 0 act s).2.driver)
    (hm : (r, id, o) ∈ s.store.faces) (hk : p.kind = o.payload.kind) (ho : p.Orderly (last r))
    (hl : p.links s (last r) = o.payload.links s (last r)) :
    (SessionM.setPayload r p (inContext 0 act s).2).2.Mirrored tied last := by
  refine h.edit hs hm hk ⟨fun k i _ => hd.links k i not_false, hd.tidy, hd.settled⟩
    (fun q i x => mem_faces_setPayload) rfl rfl (fun _ _ => rfl) ho fun hz hkind => ?_
  change (inContext 0 act s).2.driver.links _ _ = _
  rw [hd.links _ _ not_false hkind, hl, hk]
  rw [hk] at hkind
  exact h.links r id o hm hz hkind

end Session

end GraphicsObjects
