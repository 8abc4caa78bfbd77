import GraphicsObjects.Proofs.Object.Ties
import GraphicsObjects.Proofs.Session.MirrorLifetime

/-!
# The mirror through operations that tie two objects together

A framebuffer, a program or a vertex array comes to hold another object in the store and to refer to
it in the driver. The driver compares names and the store references; as every reference has a name
of its own, both lists stay the same in order.
-/

namespace GraphicsObjects

open Ownership ContextM SessionM

namespace Session

variable {s s' : Session Sim} {outside : List Ref} {tied : Prop} {last last' : Ref → Option Ref}
variable {fb : Found Framebuffer} {p : Found Program} {sh : Found Shader}
variable {vao : Found VertexArray} {b : Found Buffer} {q : Request} {site : Site}

/-- An object of a kind that only framebuffers do not have is not the default one. -/
theorem Sound.id_ne_zero (h : s.Sound outside) {r : Ref} {id : Id} {o : Object}
    (hm : (r, id, o) ∈ s.store.faces) (hk : o.payload.kind ≠ .framebuffer) : id ≠ 0 := by
  rintro rfl
  exact hk (h.screens r o hm)

/-! ## Vertex arrays -/

/-- What a vertex array keeps alive once it was given a buffer. -/
def keeping (v : VertexArray) (buffer : Ref) : VertexArray :=
  if buffer ∈ v.buffers then v else { v with buffers := v.buffers ++ [buffer] }

theorem mem_faces_keepBuffer {r : Ref} {id : Id} {o : Object} {buffer : Ref}
    (hv : s.Has .vertexArray vao) :
    (r, id, o) ∈ (SessionM.keepBuffer vao buffer s).2.store.faces ↔
      ∃ o₀, (r, id, o₀) ∈ s.store.faces ∧ o = if r = vao.ref then
        { o₀ with payload := .vertexArray (keeping vao.known buffer) } else o₀ := by
  unfold keepBuffer keeping
  split
  · constructor
    · refine fun hm => ⟨o, hm, ?_⟩
      split
      · rename_i hr
        subst hr
        obtain ⟨-, rfl⟩ := faces_unique hv hm
        rfl
      · rfl
    · rintro ⟨o₀, hm, rfl⟩
      split
      · rename_i hr
        subst hr
        obtain ⟨-, rfl⟩ := faces_unique hv hm
        exact hm
      · exact hm
  · refine mem_faces_setPayload.trans ?_
    change (∃ o₀, (r, id, o₀) ∈ (s.store.retain buffer).faces ∧ _) ↔ _
    rw [Store.faces_retain]

/-- A vertex array that was changed keeps a buffer, which may be its element buffer from now on. -/
theorem Mirrored.keepBuffer (h : s.Mirrored tied last) (hs : s.Sound outside)
    {act : ContextM Sim Unit} (hv : s.Has .vertexArray vao)
    (hd : s.driver.Preserves tied (only .vertexArray vao.id) (inContext 0 act s).2.driver)
    (hlast : ∀ r, r ≠ vao.ref → last' r = last r)
    (ho : ∀ r ∈ last' vao.ref, r = b.ref ∨ last vao.ref = some r)
    (hl : vao.id ≠ 0 → tied → (inContext 0 act s).2.driver.links .vertexArray vao.id =
      .elements ((last' vao.ref).elim 0 s.idOf)) :
    (SessionM.keepBuffer vao b.ref (inContext 0 act s).2).2.Mirrored tied last' := by
  have hdriver : (SessionM.keepBuffer vao b.ref (inContext 0 act s).2).2.driver =
      (inContext 0 act s).2.driver := by
    unfold SessionM.keepBuffer
    split <;> rfl
  have hsame : (SessionM.keepBuffer vao b.ref (inContext 0 act s).2).2.vars = s.vars ∧
      (SessionM.keepBuffer vao b.ref (inContext 0 act s).2).2.store.next = s.store.next := by
    unfold SessionM.keepBuffer
    split <;> exact ⟨rfl, rfl⟩
  have hkept : ∀ r ∈ vao.known.buffers, r ∈ (keeping vao.known b.ref).buffers := by
    intro r hr
    unfold keeping
    split
    · exact hr
    · exact List.mem_append_left _ hr
  refine h.edit (p := .vertexArray (keeping vao.known b.ref)) hs hv rfl (hdriver ▸ hd)
    (fun r i x => mem_faces_keepBuffer hv) hsame.2 hsame.1 hlast (fun r hr => ?_) fun hz hk => ?_
  · rcases ho r hr with rfl | hr
    · unfold keeping
      split
      · assumption
      · exact List.mem_append_right _ List.mem_cons_self
    · exact hkept r (h.orderly _ _ _ hv r hr)
  · rw [hdriver]
    exact hl hz (hk rfl)

theorem Mirrored.setPointer (h : s.Mirrored tied last) (hs : s.Sound outside)
    (hv : s.Has .vertexArray vao) (b : Found Buffer) (layout : VertexAttribute) :
    (SessionM.setPointer vao b layout s).2.Mirrored tied last := by
  have hk : KeepsLinks tied (VertexArray.setPointer vao.id b.id layout) :=
    VertexArray.keepsLinks_setPointer b.id layout
  have hd := (hk (s.enter 0)).preserves h.tidy (only .vertexArray vao.id)
  rw [SessionM.setPointer, hs.context_eq hv]
  refine h.keepBuffer hs hv hd (fun _ _ => rfl) (fun r hr => .inr hr) fun hz ht => ?_
  exact ((hk (s.enter 0)).links (fun _ => ht) vao.id).trans (h.links _ _ _ hv hz fun _ => ht)

theorem Mirrored.setIndexBuffer (h : s.Mirrored tied last) (hs : s.Sound outside)
    (hv : s.Has .vertexArray vao) (hb : s.Has .buffer b) :
    (SessionM.setIndexBuffer vao b s).2.Mirrored tied
      (Function.update last vao.ref (some b.ref)) := by
  have hid : Slot.vertexArray.Admits s.driver.live vao.id := hs.admits hv rfl
  have hbid : Slot.elementArray.Admits s.driver.live b.id := hs.admits hb rfl
  have hd : s.driver.Preserves tied (only .vertexArray vao.id)
      (inContext 0 (VertexArray.setIndexBuffer vao.id b.id) s).2.driver :=
    (VertexArray.work_setIndexBuffer hid hbid).preserves
      VertexArray.keepsLinks_setIndexBuffer.keepsTidy hs.ready h.tidy
  rw [SessionM.setIndexBuffer, hs.context_eq hv]
  refine h.keepBuffer hs hv hd (fun r hr => Function.update_of_ne hr ..) (fun r hr => ?_)
    fun hz ht => ?_
  · rw [Function.update_self] at hr
    exact .inl (Option.some.inj hr).symm
  · rw [Function.update_self]
    exact (VertexArray.links_setIndexBuffer hs.ready (h.settled ht) hid hbid hz).trans
      (congrArg Links.elements (idOf_of_mem hb).symm)

/-! ## Framebuffers -/

/-- The framebuffer that an object is attached to is the one that was bound for it. -/
theorem links_opening {c : Context Sim} {live : List (Kind × Id)} {point : Attachment}
    {object : Kind × Id} (hc : c.Ready live []) (hid : fb.known.slot.Admits live fb.id)
    (hz : fb.id ≠ 0) (ho : object.2 ≠ 0)
    (he : ∀ d : Sim, (Sim.execute q d).2 = d.attach fb.known.target point object) :
    (opening fb q site c).2.driver.links .framebuffer fb.id =
      (c.driver.links .framebuffer fb.id).attach point object := by
  have hw : Work live (fun _ _ => True) [] _ (acquire fb.known.slot fb.id) :=
    work_acquire hid (Slot.spares_nil _) Sim.within_anything
  have hk : KeepsLinks True (acquire fb.known.slot fb.id) := keepsLinks_acquire nofun fb.id
  have hm : (fb.known.slot.primary, fb.id) ∈ fb.known.slot.holding fb.id ++ [] := by
    unfold Framebuffer.slot
    cases fb.known.target <;> simp [Slot.primary, Slot.holding, Slot.registers]
  set c₁ := (acquire fb.known.slot fb.id c).2
  have hbound : (c₁.driver.receive q).bound (.framebuffer fb.known.target) = fb.id := by
    rw [Sim.bound_receive, ← Sim.bound_primary]
    exact (hw c hc).1.held _ hm
  change (command q site c₁).2.driver.links .framebuffer fb.id = _
  rw [links_command, Sim.serve, he, Sim.links_attach point hbound hz ho,
    Sim.links_congr (Sim.stateOf_receive ..), (hk c).links (fun _ => trivial)]

theorem keepsTidy_opening (hq : q.IsContent) : KeepsTidy (opening fb q site) := by
  have hk : KeepsLinks True (acquire fb.known.slot fb.id) := keepsLinks_acquire nofun fb.id
  refine hk.keepsTidy.bind fun _ => (keepsTidy_command hq).bind fun _ => ?_
  exact KeepsLinks.keepsTidy (.pure _ : KeepsLinks True _)

theorem Mirrored.withAttachment (h : s.Mirrored tied last) (hs : s.Sound outside) {object : Ref}
    {i : Id} {x : Object} {point : Attachment} (hf : s.Has .framebuffer fb)
    (hx : (object, i, x) ∈ s.store.faces) (hmay : Kind.framebuffer.MayOwn x.payload.kind)
    (hq : q.IsContent) (ha : ∀ d : Sim, d.aim q = some (.framebuffer, d.bound fb.known.slot))
    (he : ∀ d : Sim, (Sim.execute q d).2 =
      d.attach fb.known.target point (x.payload.kind, i)) :
    (s.withAttachment fb point object q site).Mirrored tied last := by
  have hid : fb.known.slot.Admits s.driver.live fb.id := hs.admits hf rfl
  have hi : i ≠ 0 := hs.id_ne_zero hx fun e => by
    rw [e] at hmay
    rcases hmay with hmay | hmay <;> cases hmay
  let known := { fb.known with attachments := fb.known.attachments.insert point object }
  refine h.edit (p := .framebuffer known) hs hf rfl
    ((work_opening site hid hq ha).preserves (keepsTidy_opening hq) hs.ready h.tidy)
    (fun r j y => ?_) rfl rfl (fun _ _ => rfl) trivial fun hz _ => ?_
  · refine mem_faces_setPayload.trans ?_
    change (∃ o₀, (r, j, o₀) ∈ (s.store.retain object).faces ∧ _) ↔ _
    rw [Store.faces_retain]
  · refine (links_opening hs.ready hid hz hi he).trans ?_
    have hbefore : s.driver.links .framebuffer fb.id = _ := h.links _ _ _ hf hz nofun
    change (s.driver.links .framebuffer fb.id).attach point _ = _
    rw [hbefore]
    refine congrArg Links.attachments (funext fun y => ?_)
    change _ = ((fb.known.attachments.insert point object).get? y).bind s.nameAt?
    rw [Function.update_apply, Table.get?_insert]
    split
    · exact (nameAt?_of_mem hx).symm
    · rfl

theorem Mirrored.attach (h : s.Mirrored tied last) (hs : s.Sound outside) {object : Ref}
    {i : Id} {x : Object} {point : Attachment} (hf : s.Has .framebuffer fb)
    (hx : (object, i, x) ∈ s.store.faces) (hmay : Kind.framebuffer.MayOwn x.payload.kind)
    (hq : q.IsContent) (ha : ∀ d : Sim, d.aim q = some (.framebuffer, d.bound fb.known.slot))
    (he : ∀ d : Sim, (Sim.execute q d).2 =
      d.attach fb.known.target point (x.payload.kind, i)) :
    (SessionM.attach fb point object q site s).2.Mirrored tied last := by
  rw [attach_eq hs.single (hs.context_eq hf)]
  have hs₁ := (hs.withAttachment point site hf hx hmay hq ha).1
  refine ((h.withAttachment hs hf hx hmay hq ha he).giveBack hs₁).work (keepsLinks_release ?_)
  exact fun _ => nofun

/-! ## Programs -/

/-- Different references to shaders have different names. -/
theorem Sound.idOf_inj (h : s.Sound outside) {r r' : Ref} {i i' : Id} {o o' : Object}
    (hm : (r, i, o) ∈ s.store.faces) (hm' : (r', i', o') ∈ s.store.faces)
    (hk : o.payload.kind = .shader) (hk' : o'.payload.kind = .shader) : i = i' ↔ r = r' := by
  constructor
  · rintro rfl
    have hz : i ≠ 0 := h.id_ne_zero hm (hk ▸ nofun)
    have hn : nameOf? (r, i, o) = some (.shader, i) := by simp [nameOf?, hz, hk]
    have hn' : nameOf? (r', i, o') = some (.shader, i) := by simp [nameOf?, hz, hk']
    exact congrArg Prod.fst (nameOf?_unique h hm hm' hn hn')
  · rintro rfl
    exact (faces_unique hm' hm).1

/-- The shaders of a program, compared by name or by reference. -/
theorem Sound.idOf_eq_iff (h : s.Sound outside) (hp : s.Has .program p) {q r : Ref} {i : Id}
    {x : Object} (hx : (q, i, x) ∈ s.store.faces) (hk : x.payload.kind = .shader)
    (hr : r ∈ p.known.shaders) : s.idOf r = i ↔ r = q := by
  obtain ⟨j, y, hy⟩ := h.face_of_owned hp hr
  rw [idOf_of_mem hy]
  exact h.idOf_inj hy hx (h.parts _ _ _ hp r hr j y hy) hk

theorem Mirrored.ensureCompiled (h : s.Mirrored tied last) (hs : s.Sound outside)
    (hsh : s.Has .shader sh) : (SessionM.ensureCompiled sh s).2.Mirrored tied last := by
  unfold SessionM.ensureCompiled
  split
  · exact h
  · rw [hs.context_eq hsh]
    have hk : KeepsLinks tied (sh.known.compile sh.id) := sh.known.keepsLinks_compile
    exact h.rework hs ((hk (s.enter 0)).preserves h.tidy nothing) hsh rfl trivial rfl

theorem has_ensureCompiled (hp : s.Has .program p) (hsh : s.Has .shader sh) :
    (SessionM.ensureCompiled sh s).2.Has .program p := by
  unfold SessionM.ensureCompiled
  split
  · exact hp
  · refine mem_faces_setPayload.mpr ⟨_, hp, (if_neg fun e => ?_).symm⟩
    have hface : (sh.ref, p.id, _) ∈ s.store.faces := e ▸ (show (p.ref, p.id, _) ∈ _ from hp)
    cases congrArg Object.payload (faces_unique hface hsh).2

/-- The driver has what is known of a program. -/
theorem Mirrored.links_program (h : s.Mirrored tied last) (hs : s.Sound outside)
    (hp : s.Has .program p) :
    s.driver.links .program p.id = .shaders (p.known.shaders.map s.idOf) p.known.linked :=
  h.links _ _ _ hp (hs.id_ne_zero hp nofun) nofun

theorem Mirrored.present (h : s.Mirrored tied last) (hs : s.Sound outside) {r : Ref} {id : Id}
    {o : Object} (hm : (r, id, o) ∈ s.store.faces)
    (hk : o.payload.kind = .shader ∨ o.payload.kind = .program) (q : Request) :
    ((s.driver.receive q).stateOf o.payload.kind id).Present := by
  have hz : id ≠ 0 := hs.id_ne_zero hm fun e => by rcases hk with hk | hk <;> cases e.symm.trans hk
  rw [Sim.stateOf_receive]
  exact (h.tidy.present _ _ hz hk).mpr (hs.mem_live hm hz)

/-- A program changes in the driver, and with it what is known of it. -/
theorem Mirrored.editProgram (h : s.Mirrored tied last) (hs : s.Sound outside)
    (hp : s.Has .program p) (known : Program)
    (hd : s.driver.Preserves tied (only .program p.id) s'.driver)
    (hf : ∀ r i x, (r, i, x) ∈ s'.store.faces ↔ ∃ x₀, (r, i, x₀) ∈ s.store.faces ∧
      x = if r = p.ref then { x₀ with payload := .program known } else x₀)
    (hn : s'.store.next = s.store.next) (hv : s'.vars = s.vars) (ho : known.shaders.Nodup)
    (hl : s'.driver.links .program p.id =
      .shaders (known.shaders.map s.idOf) known.linked) : s'.Mirrored tied last :=
  h.edit (p := .program known) hs hp rfl hd hf hn hv (fun _ _ => rfl) ho fun _ _ => hl

/-- A shader that is there is attached in the driver and listed, both if it was not. -/
theorem Mirrored.listShader (h : s.Mirrored tied last) (hs : s.Sound outside)
    (hp : s.Has .program p) {shader : Ref} {i : Id} {x : Object}
    (hx : (shader, i, x) ∈ s.store.faces) (hk : x.payload.kind = .shader) :
    ((do
      inContext 0 (command (.attachShader p.id i) .attachingShader)
      if shader ∈ p.known.shaders then pure ()
      else
        SessionM.retain shader
        SessionM.setPayload p.ref (.program
          { p.known with shaders := p.known.shaders ++ [shader] }) : SessionM Sim Unit)
      s).2.Mirrored tied last := by
  have hz : p.id ≠ 0 := hs.id_ne_zero hp nofun
  have hd : s.driver.Preserves tied (only .program p.id)
      (inContext 0 (command (.attachShader p.id i) .attachingShader) s).2.driver :=
    preserves_command hs.ready h.tidy trivial fun _ => rfl
  have hbefore := h.links_program hs hp
  have hshader := h.present hs hx (.inl hk) (.attachShader p.id i)
  rw [hk] at hshader
  have hlinks : (inContext 0 (command (.attachShader p.id i) .attachingShader) s).2.driver.links
      .program p.id = (s.driver.links .program p.id).attachShader i := by
    refine (links_command ..).trans ((Sim.links_attachShader hshader ?_).trans ?_)
    · exact h.present hs hp (.inr rfl) _
    · rw [Sim.links_congr (Sim.stateOf_receive ..)]
  have hmem : i ∈ p.known.shaders.map s.idOf ↔ shader ∈ p.known.shaders := by
    rw [List.mem_map]
    constructor
    · rintro ⟨r, hr, he⟩
      exact (hs.idOf_eq_iff hp hx hk hr).mp he ▸ hr
    · exact fun hm => ⟨shader, hm, idOf_of_mem hx⟩
  rw [hbefore, Links.attachShader] at hlinks
  by_cases hm : shader ∈ p.known.shaders
  · rw [if_pos (hmem.mpr hm), ← hbefore] at hlinks
    rw [if_pos hm]
    exact h.congr (hd.of_only fun _ => hlinks) rfl rfl rfl
  · rw [if_neg (mt hmem.mp hm)] at hlinks
    rw [if_neg hm]
    refine h.editProgram hs hp { p.known with shaders := p.known.shaders ++ [shader] } hd
      (fun r j y => ?_) rfl rfl ?_ (hlinks.trans ?_)
    · refine mem_faces_setPayload.trans ?_
      change (∃ o₀, (r, j, o₀) ∈ (s.store.retain shader).faces ∧ _) ↔ _
      rw [Store.faces_retain]
    · refine List.nodup_append.mpr ⟨h.orderly _ _ _ hp, List.nodup_singleton _, ?_⟩
      rintro r hr _ hr' rfl
      exact hm (List.mem_singleton.mp hr' ▸ hr)
    · rw [List.map_append, List.map_singleton, idOf_of_mem hx]

theorem Mirrored.attachShader (h : s.Mirrored tied last) (hs : s.Sound outside)
    (hp : s.Has .program p) (hsh : s.Has .shader sh) :
    (SessionM.attachShader p sh s).2.Mirrored tied last := by
  obtain ⟨hs₁, hquiet⟩ := hs.ensureCompiled (fun _ => False) hsh
  obtain ⟨x, hx, hk, -⟩ := hquiet.boxes _ _ _ hsh
  rw [SessionM.attachShader, hs.context_eq hp]
  exact (h.ensureCompiled hs hsh).listShader hs₁ (has_ensureCompiled hp hsh) hx hk

theorem Mirrored.detachShader (h : s.Mirrored tied last) (hs : s.Sound outside)
    (hp : s.Has .program p) (hsh : s.Has .shader sh) :
    (SessionM.detachShader p sh s).2.Mirrored tied last := by
  have hd : s.driver.Preserves tied (only .program p.id)
      (inContext 0 (command (.detachShader p.id sh.id) .detachingShader) s).2.driver :=
    preserves_command hs.ready h.tidy trivial fun _ => rfl
  have hlinks : (inContext 0 (command (.detachShader p.id sh.id) .detachingShader) s).2.driver.links
      .program p.id = (s.driver.links .program p.id).detachShader sh.id := by
    refine (links_command ..).trans ((Sim.links_detachShader ?_).trans ?_)
    · exact h.present hs hp (.inr rfl) _
    · rw [Sim.links_congr (Sim.stateOf_receive ..)]
      rfl
  rw [detachShader_eq (hs.context_eq hp)]
  refine Mirrored.giveBack ?_ (hs.withoutShader sh hp).1
  refine h.editProgram hs hp _ hd (fun r j y => mem_faces_setPayload) rfl rfl ?_ (hlinks.trans ?_)
  · exact (h.orderly _ _ _ hp).filter _
  · rw [h.links_program hs hp]
    refine congrArg (Links.shaders · p.known.linked) ?_
    rw [List.filter_map]
    refine congrArg (List.map s.idOf) (List.filter_congr fun r hr => ?_)
    exact decide_eq_decide.mpr (not_congr (hs.idOf_eq_iff hp hsh rfl hr))

theorem Mirrored.link (h : s.Mirrored tied last) (hs : s.Sound outside) (hp : s.Has .program p) :
    (SessionM.setPayload p.ref (.program (inContext 0 (p.known.link p.id) s).1)
      (inContext 0 (p.known.link p.id) s).2).2.Mirrored tied last := by
  have hz : p.id ≠ 0 := hs.id_ne_zero hp nofun
  have hshaders : (inContext 0 (p.known.link p.id) s).1.shaders = p.known.shaders :=
    p.known.shaders_link p.id _
  refine h.editProgram hs hp _ ((p.known.work_link p.id).preserves (p.known.keepsTidy_link p.id)
    hs.ready h.tidy) (fun r j y => mem_faces_setPayload) rfl rfl ?_ ?_
  · rw [hshaders]
    exact h.orderly _ _ _ hp
  · rw [hshaders]
    refine (p.known.links_link h.tidy hz (hs.mem_live hp hz)).trans ?_
    change (s.driver.links .program p.id).link _ = _
    rw [h.links_program hs hp]
    rfl

end Session

end GraphicsObjects
