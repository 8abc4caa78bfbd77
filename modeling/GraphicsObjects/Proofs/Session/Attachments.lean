import GraphicsObjects.Proofs.Session.MirrorRuns

/-!
# Framebuffers

What is known to be attached to a framebuffer is what the driver has attached to it, and all of it
is live. So a framebuffer that has anything attached is complete.
-/

namespace GraphicsObjects

open Ownership ContextM SessionM

namespace Sim

variable {s : Sim} {target : FramebufferTarget} {id : Id}

theorem mem_attached_iff {n : Kind × Id} :
    n ∈ (s.framebufferState id).attachments.values ↔ ∃ point, s.attachment? id point = some n := by
  constructor
  · intro h
    obtain ⟨⟨point, _⟩, hm, rfl⟩ := List.mem_map.mp h
    exact ⟨point, Table.mem_entries_iff.mp hm⟩
  · rintro ⟨point, h⟩
    exact Table.mem_values_of_get? h

/-- A framebuffer with live objects attached is complete. -/
theorem framebufferStatus_of_attached (hb : s.bound (.framebuffer target) = id) (hz : id ≠ 0)
    (hl : ∀ point n, s.attachment? id point = some n → n ∈ s.live)
    (ha : ∃ point n, s.attachment? id point = some n) :
    s.framebufferStatus target = Enumerant.framebufferComplete := by
  obtain ⟨point, n, hn⟩ := ha
  have hsome : (s.framebufferState id).attachments.values ≠ [] :=
    List.ne_nil_of_mem (mem_attached_iff.mpr ⟨point, hn⟩)
  have hall : (s.framebufferState id).attachments.values.all s.live.contains = true := by
    refine List.all_eq_true.mpr fun m hm => ?_
    obtain ⟨point, hpoint⟩ := mem_attached_iff.mp hm
    exact List.contains_iff_mem.mpr (hl point m hpoint)
  simp only [framebufferStatus, hb, if_neg hz, if_neg hsome, if_pos hall]

theorem framebufferStatus_of_bare (hb : s.bound (.framebuffer target) = id) (hz : id ≠ 0)
    (ha : ∀ point, s.attachment? id point = none) :
    s.framebufferStatus target = Enumerant.framebufferMissingAttachment := by
  have hnil : (s.framebufferState id).attachments.values = [] := by
    refine List.eq_nil_iff_forall_not_mem.mpr fun n hn => ?_
    obtain ⟨point, hpoint⟩ := mem_attached_iff.mp hn
    cases (ha point).symm.trans hpoint
  simp only [framebufferStatus, hb, if_neg hz, if_pos hnil]

end Sim

/-- The status that is told is that of the framebuffer on which the operation is called. -/
theorem Framebuffer.checkStatus_eq (f : Framebuffer) {id : Id} {live : List (Kind × Id)}
    {c : Context Sim} (h : c.Ready live []) (hid : f.slot.Admits live id) : ∃ d : Sim,
    (f.checkStatus id c).1 = FramebufferStatus.ofEnumerant (d.framebufferStatus f.target) ∧
      d.bound f.slot = id ∧ d.live = live ∧ d.attachment? id = c.driver.attachment? id := by
  have hw : Work live (fun _ _ => True) [] _ (acquire f.slot id) :=
    work_acquire hid (Slot.spares_nil _) Sim.within_anything
  have hk : KeepsLinks True (acquire f.slot id) := keepsLinks_acquire nofun id
  have hready := (hw c h).1
  have hm : (f.slot.primary, id) ∈ f.slot.holding id ++ [] := by
    unfold slot
    cases f.target <;> simp [Slot.primary, Slot.holding, Slot.registers]
  refine ⟨(acquire f.slot id c).2.driver.receive (.checkFramebufferStatus f.target), rfl, ?_, ?_,
    ?_⟩
  · rw [Sim.bound_receive, ← Sim.bound_primary]
    exact hready.held _ hm
  · rw [Sim.live_receive]
    exact hready.live
  · have hlinks := (hk c).links (k := .framebuffer) (fun _ => trivial) id
    exact Links.attachments.inj hlinks

namespace Session

variable {config : Config} {s : Session Sim} {name : String} {fb : Found Framebuffer}
variable {tied : Prop} {last : Ref → Option Ref} {outside : List Ref}

theorem Mirrored.attachment?_eq (h : s.Mirrored tied last) (hf : s.Has .framebuffer fb)
    (hz : fb.id ≠ 0) (point : Attachment) :
    s.driver.attachment? fb.id point = (fb.known.attachments.get? point).bind s.nameAt? :=
  congrFun (Links.attachments.inj (h.links _ _ _ hf hz nofun)) point

theorem Mirrored.live_of_attached (h : s.Mirrored tied last) (hs : s.Sound outside)
    (hf : s.Has .framebuffer fb) (hz : fb.id ≠ 0) {point : Attachment} {n : Kind × Id}
    (hn : s.driver.attachment? fb.id point = some n) : n ∈ s.driver.live := by
  rw [h.attachment?_eq hf hz] at hn
  obtain ⟨r, hr, hname⟩ := Option.bind_eq_some_iff.mp hn
  obtain ⟨o, hm, hk⟩ := nameAt?_eq_some_iff.mp hname
  have hmay := hs.mayOwn_of_attached hf hr hm
  have hlive := hs.mem_live hm (hs.id_ne_zero hm fun e => by
    rw [e] at hmay
    rcases hmay with hmay | hmay <;> cases hmay)
  rwa [hk] at hlive

/-- In every state that a careful client reaches, and for every framebuffer that has a name: asked
for what is attached at a point, the framebuffer tells what the driver has attached there, which is
live. It is complete if anything is attached, and otherwise misses an attachment. -/
theorem attachments_mirrored (h : Reachable Careful config s)
    (hf : s.find? Payload.framebuffer? name = some fb) (hz : fb.id ≠ 0) :
    (∀ point, ∃ info : Option AttachmentInfo,
      s.step (.attachment name point) = some (info, s) ∧
      info.map (fun i => (i.kind, i.id)) = s.driver.attachment? fb.id point ∧
      ∀ i ∈ info, (i.kind, i.id) ∈ s.driver.live) ∧
    ∃ (status : FramebufferStatus) (s' : Session Sim),
      s.step (.framebuffer name .checkStatus) = some (status, s') ∧
      ((∃ point n, s.driver.attachment? fb.id point = some n) → status = .complete) ∧
      ((∀ point, s.driver.attachment? fb.id point = none) → status = .missingAttachment) := by
  obtain ⟨last, hm⟩ := h.mirrored
  have hs := h.inv.sound
  obtain ⟨-, hhas⟩ := has_of_find? Payload.reads_framebuffer hf
  have hlive : ∀ point n, s.driver.attachment? fb.id point = some n → n ∈ s.driver.live :=
    fun _ _ hn => hm.live_of_attached hs hhas hz hn
  constructor
  · intro point
    let info : Option AttachmentInfo := ((fb.known.attachments.get? point).bind s.store.get?).map
      fun b => ⟨b.content.payload.kind, b.id, b.refs + 1⟩
    have hinfo : info.map (fun i => (i.kind, i.id)) = s.driver.attachment? fb.id point := by
      rw [hm.attachment?_eq hhas hz, Option.map_map]
      cases fb.known.attachments.get? point <;> rfl
    refine ⟨info, ?_, hinfo, fun i hi => hlive point _ ?_⟩
    · simp only [Session.step, hf]
      rfl
    · rw [← hinfo, hi]
      rfl
  · have hid : fb.known.slot.Admits s.driver.live fb.id := hs.admits hhas rfl
    obtain ⟨d, hstatus, hbound, hdlive, hattached⟩ := fb.known.checkStatus_eq hs.ready hid
    have hattached' : d.attachment? fb.id = s.driver.attachment? fb.id := hattached
    refine ⟨(fb.known.checkStatus fb.id (s.enter 0)).1,
      (inContext 0 (fb.known.checkStatus fb.id) s).2, ?_, fun ha => ?_, fun ha => ?_⟩
    · simp only [Session.step, inContextOf, hf]
      change some (inContext fb.context (fb.known.checkStatus fb.id) s) = _
      rw [hs.context_eq hhas]
      rfl
    · rw [hstatus, Sim.framebufferStatus_of_attached hbound hz]
      · rfl
      · rw [hattached', hdlive]
        exact hlive
      · rw [hattached']
        exact ha
    · rw [hstatus, Sim.framebufferStatus_of_bare hbound hz]
      · rfl
      · rw [hattached']
        exact ha

/-- A framebuffer with a texture, whose name was another's before, in place of a renderbuffer that
is gone, and a framebuffer without attachments, bound for drawing and for reading. -/
def replacedAttachment : Option (Session Sim) :=
  (start .fresh { strictUnbind := true }).perform Careful
    [.create "old" 0 (.texture .texture3D), .drop "old", .create "r" 0 .renderbuffer,
      .create "f" 0 (.framebuffer .combined), .create "g" 0 (.framebuffer .read),
      .attachRenderbuffer "f" .depth "r", .drop "r", .bind "g", .create "t" 0 (.texture .texture2D),
      .attachTexture "f" .depth "t" (.level 0), .drop "t",
      .context 0 (.invalidateBinding (.framebuffer .read))]

theorem attachments_mirrored_after_replacement : ∃ s f g s₁ s₂, replacedAttachment = some s ∧
    s.find? Payload.framebuffer? "f" = some f ∧ s.find? Payload.framebuffer? "g" = some g ∧
    f.id ≠ 0 ∧ g.id ≠ 0 ∧ s.driver.attachment? f.id .depth = some (.texture, 1) ∧
    (.texture, 1) ∈ s.driver.live ∧ (.renderbuffer, 1) ∉ s.driver.live ∧
    s.step (.framebuffer "f" .checkStatus) = some (FramebufferStatus.complete, s₁) ∧
    s.step (.framebuffer "g" .checkStatus) = some (FramebufferStatus.missingAttachment, s₂) := by
  have hfound : replacedAttachment.map (fun s => ((s.find? Payload.framebuffer? "f").map (·.id),
      (s.find? Payload.framebuffer? "g").map (·.id), decide ((.renderbuffer, 1) ∈ s.driver.live),
      s.driver.attachment? 1 .depth, (s.driver.framebufferState 2).attachments.values)) =
      some (some 1, some 2, false, some (.texture, 1), []) := by cbv
  obtain ⟨s, hs, he⟩ := Option.map_eq_some_iff.mp hfound
  simp only [Prod.mk.injEq, Option.map_eq_some_iff, decide_eq_false_iff_not] at he
  obtain ⟨⟨f, hf, hfid⟩, ⟨g, hg, hgid⟩, hlive, hattached, hbare⟩ := he
  have hreach : Reachable Careful { strictUnbind := true } s := Reachable.start.perform hs
  have hfz : f.id ≠ 0 := hfid ▸ by decide
  have hgz : g.id ≠ 0 := hgid ▸ by decide
  obtain ⟨hpoints, _, s₁, hstep₁, hcomplete, -⟩ := attachments_mirrored hreach hf hfz
  obtain ⟨-, _, s₂, hstep₂, -, hmissing⟩ := attachments_mirrored hreach hg hgz
  rw [hfid] at hcomplete hpoints
  have hnone : ∀ point, s.driver.attachment? g.id point = none := by
    intro point
    refine Option.eq_none_iff_forall_not_mem.mpr fun n hn => ?_
    rw [hgid] at hn
    have hmem := Sim.mem_attached_iff.mpr ⟨point, hn⟩
    rw [hbare] at hmem
    cases hmem
  obtain ⟨info, -, hinfo, hinfoLive⟩ := hpoints .depth
  rw [hattached] at hinfo
  obtain ⟨i, hi, hname⟩ := Option.map_eq_some_iff.mp hinfo
  rw [hcomplete ⟨_, _, hattached⟩] at hstep₁
  rw [hmissing hnone] at hstep₂
  exact ⟨s, f, g, s₁, s₂, hs, hf, hg, hfz, hgz, hfid ▸ hattached, hname ▸ hinfoLive i hi, hlive,
    hstep₁, hstep₂⟩

end Session

end GraphicsObjects
