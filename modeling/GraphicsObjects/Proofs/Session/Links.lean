import GraphicsObjects.Proofs.Session.Lifetime

/-!
# Operations that tie two objects together

A vertex array, a program or a framebuffer takes a reference to what it comes to hold and gives back
what it held instead.
-/

namespace GraphicsObjects

open Ownership ContextM SessionM

/-! ## Objects found in the store -/

/-- `known?` takes just the payloads that `payload` makes. -/
def Payload.Reads {ρ : Type} (known? : Payload → Option ρ) (payload : ρ → Payload) : Prop :=
  ∀ p known, known? p = some known → p = payload known

namespace Payload

theorem reads_buffer : Reads buffer? .buffer := by
  intro p known h
  cases p <;> cases h
  rfl

theorem reads_texture : Reads texture? .texture := by
  intro p known h
  cases p <;> cases h
  rfl

theorem reads_renderbuffer : Reads renderbuffer? fun _ => .renderbuffer := by
  intro p known h
  cases p <;> cases h
  rfl

theorem reads_framebuffer : Reads framebuffer? .framebuffer := by
  intro p known h
  cases p <;> cases h
  rfl

theorem reads_vertexArray : Reads vertexArray? .vertexArray := by
  intro p known h
  cases p <;> cases h
  rfl

theorem reads_shader : Reads shader? .shader := by
  intro p known h
  cases p <;> cases h
  rfl

theorem reads_program : Reads program? .program := by
  intro p known h
  cases p <;> cases h
  rfl

end Payload

namespace Session

variable {s s' : Session Sim} {outside : List Ref} {may : Kind → Id → Prop} {edited : Ref → Prop}
variable {α ρ : Type} {known? : Payload → Option ρ} {payload : ρ → Payload}

/-- The object is in the store, as it was found. -/
def Has (s : Session Sim) (payload : ρ → Payload) (f : Found ρ) : Prop :=
  (f.ref, f.id, ⟨f.context, payload f.known⟩) ∈ s.store.faces

theorem has_of_follow? (hk : Payload.Reads known? payload) {r : Ref} {f : Found ρ}
    (h : s.follow? known? r = some f) : f.ref = r ∧ s.Has payload f := by
  simp only [follow?, Option.bind_eq_bind, Option.bind_eq_some_iff, Option.pure_def,
    Option.some.injEq] at h
  obtain ⟨b, hb, known, hknown, rfl⟩ := h
  refine ⟨rfl, Store.mem_faces_iff.mpr ⟨b, hb, rfl, ?_⟩⟩
  rw [← hk _ _ hknown]

theorem has_of_find? (hk : Payload.Reads known? payload) {name : String} {f : Found ρ}
    (h : s.find? known? name = some f) :
    s.vars.get? name = some (.object f.ref) ∧ s.Has payload f := by
  unfold find? at h
  split at h
  · rename_i r hr
    obtain ⟨he, hf⟩ := has_of_follow? hk h
    exact ⟨he ▸ hr, hf⟩
  · cases h

theorem Sound.context_eq (h : s.Sound outside) {f : Found ρ} (hf : s.Has payload f) :
    f.context = 0 :=
  h.home _ _ _ hf

/-! ## Composition -/

theorem Quiet.mono {may' : Kind → Id → Prop} {edited' : Ref → Prop} (h : s.Quiet may edited s')
    (hm : ∀ k i, may k i → may' k i) (he : ∀ r, edited r → edited' r) :
    s.Quiet may' edited' s' where
  vars := h.vars
  deleted := h.deleted
  live := h.live
  others k i hk := h.others k i fun hk' => hk (hm k i hk')
  boxes r id o hmem := by
    obtain ⟨o', ho', hkind, howned⟩ := h.boxes r id o hmem
    exact ⟨o', ho', hkind, fun hr => howned fun hr' => hr (he r hr')⟩

/-- Work after which something else is known of an object, which holds the same as before. -/
theorem Sound.rework (h : s.Sound outside) (edited : Ref → Prop) {act : ContextM Sim α}
    {held : List (Slot × Id)} (hw : Work s.driver.live may [] held act) {r : Ref} {id : Id}
    {o : Object} {p : Payload}
    (hm : (r, id, o) ∈ s.store.faces) (hk : p.kind = o.payload.kind)
    (ho : p.owned = o.payload.owned) :
    (SessionM.setPayload r p (inContext 0 act s).2).2.Sound outside ∧
      s.Quiet may edited (SessionM.setPayload r p (inContext 0 act s).2).2 := by
  obtain ⟨hs, hq⟩ := h.work edited hw
  refine ⟨hs.setPayload hm hk (.of_eq (congrArg _ ho)) ?_, ?_⟩
  · rw [hk, ho]
    exact h.parts r id o hm
  · exact hq.trans (quiet_setPayload hm hk fun _ => ho)

/-- An object takes a reference to another that it may keep alive. -/
theorem Sound.take (h : s.Sound outside) {r q : Ref} {id i : Id} {o x : Object} {p : Payload}
    (hr : (r, id, o) ∈ s.store.faces) (hq : (q, i, x) ∈ s.store.faces)
    (hk : p.kind = o.payload.kind) (hp : p.owned.Perm (q :: o.payload.owned))
    (hmay : p.kind.MayOwn x.payload.kind) :
    (SessionM.setPayload r p (SessionM.retain q s).2).2.Sound outside ∧
      s.Quiet may (· = r) (SessionM.setPayload r p (SessionM.retain q s).2).2 := by
  obtain ⟨b, hb, -, -⟩ := Store.mem_faces_iff.mp hq
  obtain ⟨hs, hquiet⟩ := h.retain may (· = r) (h.balanced.mem_of_get? hb)
  have hf : (SessionM.retain q s).2.store.faces = s.store.faces := Store.faces_retain ..
  have hr' : (r, id, o) ∈ (SessionM.retain q s).2.store.faces := hf ▸ hr
  constructor
  · refine hs.setPayload hr' hk ?_ ?_
    · refine (hp.append_left outside).trans ?_
      exact List.perm_middle
    · rw [hf]
      intro y hy i' o' hm
      rcases List.mem_cons.mp (hp.mem_iff.mp hy) with rfl | hy
      · obtain ⟨-, rfl⟩ := faces_unique hq hm
        exact hmay
      · rw [hk]
        exact h.parts r id o hr y hy i' o' hm
  · exact hquiet.trans (quiet_setPayload hr' hk fun hne => absurd rfl hne)

/-! ## Vertex arrays -/

theorem Sound.keepBuffer (h : s.Sound outside) {vao : Found VertexArray} {b : Found Buffer}
    (hv : s.Has .vertexArray vao) (hb : s.Has .buffer b) :
    (SessionM.keepBuffer vao b.ref s).2.Sound outside ∧
      s.Quiet may (· = vao.ref) (SessionM.keepBuffer vao b.ref s).2 := by
  by_cases hm : b.ref ∈ vao.known.buffers
  · have he : SessionM.keepBuffer vao b.ref s = ((), s) := by
      rw [SessionM.keepBuffer, if_pos hm]
      rfl
    rw [he]
    exact ⟨h, .refl ..⟩
  · rw [SessionM.keepBuffer, if_neg hm]
    exact h.take hv hb rfl List.perm_append_comm rfl

theorem Sound.setPointer (h : s.Sound outside) {vao : Found VertexArray} {b : Found Buffer}
    (hv : s.Has .vertexArray vao) (hb : s.Has .buffer b) (layout : VertexAttribute) :
    (SessionM.setPointer vao b layout s).2.Sound outside ∧
      s.Quiet (only .vertexArray vao.id) (· = vao.ref) (SessionM.setPointer vao b layout s).2 := by
  rw [SessionM.setPointer, h.context_eq hv]
  obtain ⟨hs, hq⟩ := h.work (· = vao.ref)
    (VertexArray.work_setPointer (h.admits hv rfl) (h.admits hb rfl) layout)
  obtain ⟨hs', hq'⟩ := hs.keepBuffer hv hb
  exact ⟨hs', hq.trans hq'⟩

theorem Sound.setIndexBuffer (h : s.Sound outside) {vao : Found VertexArray} {b : Found Buffer}
    (hv : s.Has .vertexArray vao) (hb : s.Has .buffer b) :
    (SessionM.setIndexBuffer vao b s).2.Sound outside ∧
      s.Quiet (only .vertexArray vao.id) (· = vao.ref) (SessionM.setIndexBuffer vao b s).2 := by
  rw [SessionM.setIndexBuffer, h.context_eq hv]
  obtain ⟨hs, hq⟩ := h.work (· = vao.ref)
    (VertexArray.work_setIndexBuffer (h.admits hv rfl) (h.admits hb rfl))
  obtain ⟨hs', hq'⟩ := hs.keepBuffer hv hb
  exact ⟨hs', hq.trans hq'⟩

/-! ## Framebuffers -/

/-- Binds a framebuffer and changes it while it is bound. -/
def opening (fb : Found Framebuffer) (q : Request) (site : Site) : ContextM Sim Guard := do
  let g ← acquire fb.known.slot fb.id
  let _ ← command q site
  pure g

theorem work_opening {live : List (Kind × Id)} {fb : Found Framebuffer} {q : Request} (site : Site)
    (hid : fb.known.slot.Admits live fb.id) (hq : q.IsContent)
    (ha : ∀ d : Sim, d.aim q = some (.framebuffer, d.bound fb.known.slot)) :
    Work live (only .framebuffer fb.id) [] [] (opening fb q site) := by
  have hm : (fb.known.slot.primary, fb.id) ∈ fb.known.slot.holding fb.id ++ [] := by
    unfold Framebuffer.slot
    cases fb.known.target <;> simp [Slot.primary, Slot.holding, Slot.registers]
  have hne : fb.known.slot ≠ .elementArray := by simp [Framebuffer.slot]
  refine .bind (work_acquire hid (Slot.spares_nil _) (within_bind hne)) fun _ => ?_
  refine (Work.bind (work_command hq (Sim.within_held _ ha hm)) fun _ => .pure _).weaken ?_
  exact List.forall_mem_nil _

/-- The driver's object that is attached to a framebuffer at a point. -/
def Attached (s : Session Sim) (fb : Found Framebuffer) (point : Attachment) (n : Kind × Id) :
    Prop :=
  ∃ r o, fb.known.attachments.get? point = some r ∧ (r, n.2, o) ∈ s.store.faces ∧
    o.payload.kind = n.1

/-- An object that is attached to a framebuffer is one that a framebuffer may hold. -/
theorem Sound.mayOwn_of_attached (h : s.Sound outside) {fb : Found Framebuffer} {point : Attachment}
    (hf : s.Has .framebuffer fb) {r : Ref} (hr : fb.known.attachments.get? point = some r) {i : Id}
    {x : Object} (hx : (r, i, x) ∈ s.store.faces) : Kind.framebuffer.MayOwn x.payload.kind :=
  h.parts _ _ _ hf r (Framebuffer.mem_kept hr) i x hx

/-- When what was attached at a point is given back, nothing else goes. -/
theorem Sound.attached_of_gone (h : s.Sound outside) {fb : Found Framebuffer} {point : Attachment}
    (hf : s.Has .framebuffer fb) (hq : s.Quiet may edited s') (hs' : s'.Sound outside')
    {s'' : Session Sim} {zs : List (Ref × Box Object)}
    (hg : Given outside (fb.known.attachments.get? point).toList zs s' s'') {n : Kind × Id}
    (hn : n ∈ gone zs) : s.Attached fb point n := by
  obtain ⟨y, hy, hname⟩ := List.mem_filterMap.mp hn
  obtain ⟨z, hz, rfl⟩ := List.mem_map.mp hy
  have hold : ∀ r ∈ (fb.known.attachments.get? point).toList, ∀ i x,
      (r, i, x) ∈ s'.store.faces → ∃ o, (r, i, o) ∈ s.store.faces ∧
        fb.known.attachments.get? point = some r ∧ o.payload.kind = x.payload.kind := by
    intro r hr i x hx
    have hr : fb.known.attachments.get? point = some r := Option.mem_toList.mp hr
    have hinner : r ∈ s.store.inner :=
      List.mem_flatMap.mpr ⟨_, hf, Framebuffer.mem_kept hr⟩
    obtain ⟨b, hb⟩ := h.balanced.get?_of_mem (List.mem_append_right _ hinner)
    obtain ⟨o', ho', hk, -⟩ := hq.boxes r b.id b.content (Store.mem_faces_iff.mpr ⟨b, hb, rfl, rfl⟩)
    obtain ⟨rfl, rfl⟩ := faces_unique ho' hx
    exact ⟨b.content, Store.mem_faces_iff.mpr ⟨b, hb, rfl, rfl⟩, hr, hk.symm⟩
  have hface : Store.face z ∈ s'.store.faces :=
    hg.faces.mem_iff.mpr (List.mem_append_left _ (List.mem_map_of_mem hz))
  have hrs : ∀ r ∈ (fb.known.attachments.get? point).toList, ∀ i x,
      (r, i, x) ∈ s'.store.faces → x.payload.owned = [] := by
    intro r hr i x hx
    obtain ⟨o, ho, hr', hk⟩ := hold r hr i x hx
    have hmay := h.mayOwn_of_attached hf hr' ho
    rw [hk] at hmay
    exact hmay.owned_eq_nil
  obtain ⟨o, ho, hr, hk⟩ := hold z.1 (hg.mem_given hs' hrs hz) _ _ hface
  unfold nameOf? at hname
  split at hname
  · cases hname
  · cases hname
    exact ⟨z.1, o, hr, ho, hk⟩

/-- A session in which a framebuffer, still bound, has taken an object at a point and not yet given
back what was there. -/
def withAttachment (s : Session Sim) (fb : Found Framebuffer) (point : Attachment) (object : Ref)
    (q : Request) (site : Site) : Session Sim :=
  let attachments := fb.known.attachments.insert point object
  (SessionM.setPayload fb.ref (.framebuffer { fb.known with attachments })
    (SessionM.retain object (inContext 0 (opening fb q site) s).2).2).2

theorem attach_eq (h : s.contexts.length = 1) {fb : Found Framebuffer} (hc : fb.context = 0)
    (point : Attachment) (object : Ref) (q : Request) (site : Site) :
    SessionM.attach fb point object q site s =
      inContext 0 (release (acquire fb.known.slot fb.id (s.enter 0)).1)
        (SessionM.giveBack (fb.known.attachments.get? point).toList
          (s.withAttachment fb point object q site)).2 := by
  have hopen := inContext_bind h (acquire fb.known.slot fb.id) fun g => do
    let _ ← command q site
    pure g
  rw [SessionM.attach, hc]
  unfold withAttachment opening
  rw [← hopen]
  rfl

theorem Sound.withAttachment (h : s.Sound outside) {fb : Found Framebuffer} {object : Ref} {i : Id}
    {x : Object} {q : Request} (point : Attachment) (site : Site) (hf : s.Has .framebuffer fb)
    (hx : (object, i, x) ∈ s.store.faces) (hmay : Kind.framebuffer.MayOwn x.payload.kind)
    (hq : q.IsContent) (ha : ∀ d : Sim, d.aim q = some (.framebuffer, d.bound fb.known.slot)) :
    (s.withAttachment fb point object q site).Sound
        ((fb.known.attachments.get? point).toList ++ outside) ∧
      s.Quiet (only .framebuffer fb.id) (· = fb.ref)
        (s.withAttachment fb point object q site) := by
  let payload := Payload.framebuffer
    { fb.known with attachments := fb.known.attachments.insert point object }
  obtain ⟨hs₁, hq₁⟩ := h.work (· = fb.ref) (work_opening site (h.admits hf rfl) hq ha)
  obtain ⟨b, hb, -, -⟩ := Store.mem_faces_iff.mp hx
  obtain ⟨hs₂, hq₂⟩ := hs₁.retain (only .framebuffer fb.id) (· = fb.ref)
    (hs₁.balanced.mem_of_get? hb)
  have hfaces : (SessionM.retain object (inContext 0 (opening fb q site) s).2).2.store.faces =
      s.store.faces := Store.faces_retain ..
  have hbefore : fb.known.kept.Perm
      ((fb.known.attachments.get? point).toList ++ (fb.known.attachments.erase point).values) :=
    fb.known.kept_perm.trans (fb.known.attachments.values_perm point)
  have hafter : payload.owned.Perm (object :: (fb.known.attachments.erase point).values) :=
    Framebuffer.kept_perm _
  have hperm : ((fb.known.attachments.get? point).toList ++ outside ++ payload.owned).Perm
      (object :: outside ++ fb.known.kept) := by
    refine List.perm_iff_count.mpr fun r => ?_
    have hb := hbefore.count_eq r
    have ha := hafter.count_eq r
    simp only [List.count_append, List.count_cons, List.cons_append] at hb ha ⊢
    omega
  have hparts : ∀ r ∈ payload.owned, ∀ id' o', (r, id', o') ∈ s.store.faces →
      payload.kind.MayOwn o'.payload.kind := by
    intro r hr id' o' hm
    rcases List.mem_cons.mp (hafter.mem_iff.mp hr) with rfl | hr
    · obtain ⟨-, rfl⟩ := faces_unique hx hm
      exact hmay
    · exact h.parts _ _ _ hf r (hbefore.mem_iff.mpr (List.mem_append_right _ hr)) id' o' hm
  have hf₂ : (fb.ref, fb.id, ⟨fb.context, .framebuffer fb.known⟩) ∈
      (SessionM.retain object (inContext 0 (opening fb q site) s).2).2.store.faces := hfaces ▸ hf
  exact ⟨hs₂.setPayload (p := payload) hf₂ rfl hperm (hfaces ▸ hparts),
    hq₁.trans (hq₂.trans (quiet_setPayload (p := payload) hf₂ rfl fun hne => absurd rfl hne))⟩

/-- What was attached is given back while the framebuffer is still bound, after which the previous
framebuffer, still live, is bound again. -/
theorem Sound.attach (h : s.Sound outside) {fb : Found Framebuffer} {object : Ref} {i : Id}
    {x : Object} {q : Request} (point : Attachment) (site : Site) (hf : s.Has .framebuffer fb)
    (hx : (object, i, x) ∈ s.store.faces) (hmay : Kind.framebuffer.MayOwn x.payload.kind)
    (hq : q.IsContent) (ha : ∀ d : Sim, d.aim q = some (.framebuffer, d.bound fb.known.slot)) :
    ∃ s₁ outside₁ zs, s.Quiet (only .framebuffer fb.id) (· = fb.ref) s₁ ∧ s₁.Sound outside₁ ∧
      Dropped outside zs s₁ (SessionM.attach fb point object q site s).2 ∧
      (∀ n ∈ gone zs, s.Attached fb point n) ∧
      (SessionM.attach fb point object q site s).2.vars = s.vars ∧
      ∀ k i, (k, i) ∉ gone zs →
        (SessionM.attach fb point object q site s).2.driver.stateOf k i =
          s₁.driver.stateOf k i := by
  obtain ⟨hs₁, hq₁⟩ := h.withAttachment point site hf hx hmay hq ha
  obtain ⟨zs, hg⟩ := hs₁.giveBack
  have hgone : ∀ n ∈ gone zs, s.Attached fb point n := fun n => h.attached_of_gone hf hq₁ hs₁ hg
  have hrestorable : (acquire fb.known.slot fb.id (s.enter 0)).1.Restorable
      (SessionM.giveBack (fb.known.attachments.get? point).toList
        (s.withAttachment fb point object q site)).2.driver.live := by
    intro hrestore id hprevious
    refine (restorable_acquire h.ready _ _ hrestore id hprevious).mono fun k hk hm => ?_
    cases hk
    rw [hg.live]
    refine List.mem_filter.mpr ⟨hq₁.live _ hm, decide_eq_true fun hn => ?_⟩
    obtain ⟨r, o, hr, ho, hk⟩ := hgone _ hn
    have hmay := h.mayOwn_of_attached hf hr ho
    rw [hk] at hmay
    rcases hmay with hmay | hmay <;> cases hmay
  have hw : Work _ (fun _ _ => False) [] [] (release _) :=
    work_release hrestorable (Slot.spares_nil _) (within_bind nofun)
  obtain ⟨hs₂, hq₂⟩ := hg.sound.work (fun _ => False) hw
  rw [attach_eq h.single (h.context_eq hf)]
  refine ⟨_, _, zs, hq₁, hs₁, ⟨hs₂, hg.ownersFirst, hg.faces, ?_⟩, hgone, ?_, fun k i hn => ?_⟩
  · exact hq₂.deleted.trans hg.deleted
  · exact hq₂.vars.trans (hg.vars.trans hq₁.vars)
  · exact (hq₂.others k i not_false).trans (hg.others k i hn)

/-! ## Programs -/

theorem Sound.ensureCompiled (h : s.Sound outside) (edited : Ref → Prop) {sh : Found Shader}
    (hsh : s.Has .shader sh) :
    (SessionM.ensureCompiled sh s).2.Sound outside ∧
      s.Quiet (only .shader sh.id) edited (SessionM.ensureCompiled sh s).2 := by
  by_cases hc : sh.known.compiled
  · have he : SessionM.ensureCompiled sh s = ((), s) := by
      rw [SessionM.ensureCompiled, if_pos hc]
      rfl
    rw [he]
    exact ⟨h, .refl ..⟩
  · rw [SessionM.ensureCompiled, if_neg hc, h.context_eq hsh]
    exact h.rework edited (sh.known.work_compile sh.id) hsh rfl rfl

/-- A program takes a reference to a shader that it does not hold yet. -/
theorem Sound.attachShader (h : s.Sound outside) {p : Found Program} {sh : Found Shader}
    (hp : s.Has .program p) (hsh : s.Has .shader sh) :
    (SessionM.attachShader p sh s).2.Sound outside ∧
      s.Quiet (fun _ _ => True) (· = p.ref) (SessionM.attachShader p sh s).2 := by
  obtain ⟨hs, hq⟩ := h.ensureCompiled (fun _ => False) hsh
  obtain ⟨o, ho, hok, hoo⟩ := hq.boxes _ _ _ hp
  obtain ⟨x, hx, hxk, -⟩ := hq.boxes _ _ _ hsh
  have hwork : Work (SessionM.ensureCompiled sh s).2.driver.live (only .program p.id) [] []
      (command (.attachShader p.id sh.id) .attachingShader : ContextM Sim Unit) :=
    work_command trivial (Sim.within_named fun _ => rfl)
  obtain ⟨hs', hq'⟩ := hs.work (· = p.ref) hwork
  have hq₁ : s.Quiet (fun _ _ => True) (· = p.ref) (SessionM.ensureCompiled sh s).2 :=
    hq.mono (fun _ _ _ => trivial) fun _ => False.elim
  have hq₂ := hq₁.trans (hq'.mono (fun _ _ _ => trivial) fun _ he => he)
  rw [SessionM.attachShader, h.context_eq hp]
  by_cases hm : sh.ref ∈ p.known.shaders
  · rw [if_pos hm]
    exact ⟨hs', hq₂⟩
  · rw [if_neg hm]
    have howned : o.payload.owned = p.known.shaders := hoo not_false
    have hperm : (p.known.shaders ++ [sh.ref]).Perm (sh.ref :: o.payload.owned) := by
      rw [howned]
      exact List.perm_append_comm
    obtain ⟨hs₃, hq₃⟩ := hs'.take (p := .program { p.known with
      shaders := p.known.shaders ++ [sh.ref] }) ho hx hok.symm hperm hxk
    exact ⟨hs₃, hq₂.trans hq₃⟩

/-- A session in which a program has let go of a shader, and not yet given back its references. -/
def withoutShader (s : Session Sim) (p : Found Program) (sh : Found Shader) : Session Sim :=
  let shaders := p.known.shaders.filter (· ≠ sh.ref)
  (SessionM.setPayload p.ref (.program { p.known with shaders })
    (inContext 0 (command (.detachShader p.id sh.id) .detachingShader) s).2).2

theorem detachShader_eq {p : Found Program} (hc : p.context = 0) (sh : Found Shader) :
    SessionM.detachShader p sh s =
      SessionM.giveBack (p.known.shaders.filter (· = sh.ref)) (s.withoutShader p sh) := by
  rw [SessionM.detachShader, hc]
  rfl

theorem Sound.withoutShader (h : s.Sound outside) {p : Found Program} (sh : Found Shader)
    (hp : s.Has .program p) :
    (s.withoutShader p sh).Sound (p.known.shaders.filter (· = sh.ref) ++ outside) ∧
      s.Quiet (only .program p.id) (· = p.ref) (s.withoutShader p sh) := by
  have hwork : Work s.driver.live (only .program p.id) [] []
      (command (.detachShader p.id sh.id) .detachingShader : ContextM Sim Unit) :=
    work_command trivial (Sim.within_named fun _ => rfl)
  obtain ⟨hs, hq⟩ := h.work (· = p.ref) hwork
  have hperm : (p.known.shaders.filter (· = sh.ref) ++ outside ++
      p.known.shaders.filter (· ≠ sh.ref)).Perm (outside ++ p.known.shaders) := by
    have hsplit := List.filter_append_perm (fun q => decide (q = sh.ref)) p.known.shaders
    simp only [← decide_not] at hsplit
    refine (List.perm_append_comm.append_right _).trans ?_
    rw [List.append_assoc]
    exact hsplit.append_left outside
  refine ⟨hs.setPayload hp rfl hperm fun q hm i' o' hm' => ?_,
    hq.trans (quiet_setPayload hp rfl fun hne => absurd rfl hne)⟩
  exact h.parts _ _ _ hp q (List.mem_filter.mp hm).1 i' o' hm'

/-- The shaders that a program no longer holds are given back. -/
theorem Sound.detachShader (h : s.Sound outside) {p : Found Program} (sh : Found Shader)
    (hp : s.Has .program p) :
    ∃ s₁ outside₁ zs, s.Quiet (only .program p.id) (· = p.ref) s₁ ∧ s₁.Sound outside₁ ∧
      Given outside (p.known.shaders.filter (· = sh.ref)) zs s₁
        (SessionM.detachShader p sh s).2 := by
  obtain ⟨hs, hq⟩ := h.withoutShader sh hp
  obtain ⟨zs, hg⟩ := hs.giveBack
  rw [detachShader_eq (h.context_eq hp)]
  exact ⟨_, _, zs, hq, hs, hg⟩

theorem Sound.attachShaderAt (h : s.Sound outside) (program shader : Ref) :
    (SessionM.attachShaderAt program shader s).2.Sound outside ∧
      s.Quiet (fun _ _ => True) (· = program) (SessionM.attachShaderAt program shader s).2 := by
  unfold SessionM.attachShaderAt
  rw [bind_apply, get_apply]
  cases hp : s.follow? Payload.program? program with
  | none => exact ⟨h, .refl ..⟩
  | some p =>
      cases hsh : s.follow? Payload.shader? shader with
      | none => exact ⟨h, .refl ..⟩
      | some sh =>
          obtain ⟨rfl, hp'⟩ := has_of_follow? Payload.reads_program hp
          obtain ⟨-, hsh'⟩ := has_of_follow? Payload.reads_shader hsh
          exact h.attachShader hp' hsh'

theorem Sound.attachShaders (h : s.Sound outside) (program : Ref) (shaders : List Ref) :
    (shaders.forM (SessionM.attachShaderAt program) s).2.Sound outside ∧
      s.Quiet (fun _ _ => True) (· = program)
        (shaders.forM (SessionM.attachShaderAt program) s).2 := by
  induction shaders generalizing s with
  | nil => exact ⟨h, .refl ..⟩
  | cons shader shaders ih =>
      obtain ⟨hs, hq⟩ := h.attachShaderAt program shader
      obtain ⟨hs', hq'⟩ := ih hs
      exact ⟨hs', hq.trans hq'⟩

theorem Sound.linkAt (h : s.Sound outside) (edited : Ref → Prop) (program : Ref) :
    (SessionM.linkAt program s).2.Sound outside ∧
      s.Quiet (fun _ _ => True) edited (SessionM.linkAt program s).2 := by
  unfold SessionM.linkAt
  rw [bind_apply, get_apply]
  cases hp : s.follow? Payload.program? program with
  | none => exact ⟨h, .refl ..⟩
  | some p =>
      obtain ⟨-, hp⟩ := has_of_follow? Payload.reads_program hp
      have howned : (Payload.program (p.known.link p.id (s.enter 0)).1).owned = p.known.shaders :=
        p.known.shaders_link p.id _
      have hw : Work s.driver.live (fun _ _ => True) [] [] (p.known.link p.id) :=
        (p.known.work_link p.id).anything
      simp only [h.context_eq hp]
      exact h.rework edited hw hp rfl howned

end Session

end GraphicsObjects
