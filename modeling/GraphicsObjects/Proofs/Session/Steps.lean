import GraphicsObjects.Proofs.Session.Advance

/-!
# Every operation keeps the invariant

An operation is admissible if it binds only what may be bound and goes through the one context.
What it changes is the object on which it is called, for those that update an object; what it
deletes then is at most what was attached at a point of a framebuffer.
-/

namespace GraphicsObjects

open Ownership ContextM SessionM

/-! ## Operations -/

def ContextOp.Admissible (live : List (Kind × Id)) : ContextOp → Prop
  | bind slot id | interrupted slot id => slot.Admits live id
  | request _ => False
  | _ => True

instance (live : List (Kind × Id)) (op : ContextOp) : Decidable (op.Admissible live) := by
  cases op with
  | bind slot id | interrupted slot id => exact inferInstanceAs (Decidable (slot.Admits live id))
  | request => exact inferInstanceAs (Decidable False)
  | _ => exact inferInstanceAs (Decidable True)

namespace Op

/-- The operation binds 0 and live objects only, and goes through the one context. -/
def Admissible (live : List (Kind × Id)) : Op → Prop
  | addContext _ => False
  | context _ op => op.Admissible live
  | acquire _ _ slot id => slot.Admits live id
  | _ => True

instance (live : List (Kind × Id)) (op : Op) : Decidable (op.Admissible live) := by
  cases op with
  | addContext => exact inferInstanceAs (Decidable False)
  | context _ op => exact inferInstanceAs (Decidable (op.Admissible live))
  | acquire _ _ slot id => exact inferInstanceAs (Decidable (slot.Admits live id))
  | _ => exact inferInstanceAs (Decidable True)

/-- The variable whose content an operation drops or replaces. -/
def dropped? : Op → Option String
  | acquire name .. | create name .. | clone _ name | drop name => some name
  | _ => none

/-- The variable whose object an operation updates, if it is one that updates an object. -/
def updated? : Op → Option String
  | buffer target _ | texture target _ | renderbuffer target _ | framebuffer target _
  | shader target _ | program target _ => some target
  | attachRenderbuffer target .. | attachTexture target .. => some target
  | enableAttribute target .. | setPointer target .. | setIndexBuffer target .. => some target
  | _ => none

end Op

namespace Session

/-- The guard that an operation releases, if there is one in the variable that it drops. -/
def released? (s : Session Sim) (op : Op) : Option Guard :=
  (op.dropped?.bind s.vars.get?).bind fun
    | .guard _ g => some g
    | .object _ => none

/-- An operation that updates an object may change that one only. -/
def MayChange (s : Session Sim) (op : Op) (k : Kind) (i : Id) : Prop :=
  ∀ name, op.updated? = some name →
    ∃ r b, s.box? name = some (r, b) ∧ k = b.content.payload.kind ∧ i = b.id

/-- The operation attaches something where an object is attached. -/
def Displaces (s : Session Sim) : Op → Kind × Id → Prop
  | .attachRenderbuffer framebuffer point _, n | .attachTexture framebuffer point _ _, n =>
    ∃ fb, s.find? Payload.framebuffer? framebuffer = some fb ∧ s.Attached fb point n
  | _, _ => False

/-- What a step does: an operation that updates an object deletes only what it displaces. -/
def Progress (s : Session Sim) (op : Op) (s' : Session Sim) : Prop :=
  ∃ gone, s.Advance (s.MayChange op) gone s' ∧
    (op.updated?.isSome → ∀ n ∈ gone, s.Displaces op n)

variable {s s' : Session Sim} {op : Op} {name : String} {α β γ ρ : Type} {a : α}
variable {known? : Payload → Option ρ} {payload : ρ → Payload} {edited : Ref → Prop}
variable {may : Kind → Id → Prop}

theorem box?_of_find? (hk : Payload.Reads known? payload) {f : Found ρ}
    (h : s.find? known? name = some f) :
    ∃ b, s.box? name = some (f.ref, b) ∧ b.id = f.id ∧
      b.content = ⟨f.context, payload f.known⟩ := by
  obtain ⟨hv, hf⟩ := has_of_find? hk h
  obtain ⟨b, hb, hid, hc⟩ := Store.mem_faces_iff.mp hf
  refine ⟨b, ?_, hid, hc⟩
  rw [box?, hv]
  exact congrArg (Option.map _) hb

theorem get?_of_box? {δ : Type} {s : Session δ} {r : Ref} {b : Box Object}
    (h : s.box? name = some (r, b)) :
    s.vars.get? name = some (.object r) ∧ s.store.get? r = some b := by
  unfold box? at h
  split at h
  · rename_i q hq
    obtain ⟨b', hb, he⟩ := Option.map_eq_some_iff.mp h
    cases he
    exact ⟨hq, hb⟩
  · cases h

theorem mayChange_of_only (hk : Payload.Reads known? payload) (hn : op.updated? = some name)
    {f : Found ρ} (hf : s.find? known? name = some f) {k : Kind} {i : Id}
    (h : only (payload f.known).kind f.id k i) : s.MayChange op k i := by
  obtain ⟨b, hb, hid, hc⟩ := box?_of_find? hk hf
  intro name' hn'
  cases hn.symm.trans hn'
  refine ⟨f.ref, b, hb, ?_, h.2.trans hid.symm⟩
  rw [hc]
  exact h.1

/-! ## Steps that delete nothing -/

theorem Inv.progress_of_quiet (h : s.Inv) (hs : s'.Sound s.roots)
    (hq : s.Quiet (s.MayChange op) edited s') : s.Progress op s' :=
  ⟨[], h.advance_of_quiet hs hq, fun _ => nofun⟩

theorem Inv.progress_refl (h : s.Inv) : s.Progress op s :=
  h.progress_of_quiet h.sound (.refl _ (fun _ => False) s)

theorem Inv.progress_of_work (h : s.Inv) {act : ContextM Sim α}
    (hw : Work s.driver.live (s.MayChange op) [] [] act) : s.Progress op (inContext 0 act s).2 := by
  obtain ⟨hs, hq⟩ := h.sound.work (fun _ => False) hw
  exact h.progress_of_quiet hs hq

theorem mayChange_of_no_update (hn : op.updated? = none) (k : Kind) (i : Id) : s.MayChange op k i :=
  fun _ hn' => nomatch hn.symm.trans hn'

theorem Inv.progress_of_anything (h : s.Inv) (hn : op.updated? = none) {act : ContextM Sim α}
    (hw : Work s.driver.live may [] [] act) : s.Progress op (inContext 0 act s).2 :=
  h.progress_of_work (hw.mono fun k i _ => mayChange_of_no_update hn k i)

/-! ## Operations on one object -/

/-- What is done with something that was looked up. -/
theorem of_lookup {σ : Type} {s' : σ} {found : Option β} {act : β → α × σ}
    (h : (do let x ← found; pure (act x)) = some (a, s')) :
    ∃ x, found = some x ∧ s' = (act x).2 := by
  obtain ⟨x, hx, he⟩ := Option.bind_eq_some_iff.mp h
  exact ⟨x, hx, (congrArg Prod.snd (Option.some.inj he)).symm⟩

/-- What is done with two things that were looked up. -/
theorem of_lookups {σ : Type} {s' : σ} {found : Option β} {found' : Option γ}
    {act : β → γ → α × σ} (h : (do let x ← found; let y ← found'; pure (act x y)) = some (a, s')) :
    ∃ x y, found = some x ∧ found' = some y ∧ s' = (act x y).2 := by
  obtain ⟨x, hx, h'⟩ := Option.bind_eq_some_iff.mp h
  obtain ⟨y, hy, he⟩ := of_lookup h'
  exact ⟨x, y, hx, hy, he⟩

theorem onObject_eq {δ : Type} [Driver δ] {s s' : Session δ}
    {act : Id → ρ → ContextM δ (α × ρ)}
    (h : s.onObject known? payload name act = some (a, s')) :
    ∃ f, s.find? known? name = some f ∧ a = (act f.id f.known (s.enter f.context)).1.1 ∧
      s' = (SessionM.setPayload f.ref
        (payload (act f.id f.known (s.enter f.context)).1.2)
        (inContext f.context (act f.id f.known) s).2).2 := by
  simp only [onObject, Option.bind_eq_bind, Option.bind_eq_some_iff, Option.pure_def,
    Option.some.injEq] at h
  obtain ⟨f, hf, he⟩ := h
  exact ⟨f, hf, (congrArg Prod.fst he).symm, (congrArg Prod.snd he).symm⟩

theorem onObject_of_find? {f : Found ρ} {act : Id → ρ → ContextM Sim (α × ρ)}
    (h : s.find? known? name = some f) :
    s.onObject known? payload name act = some ((act f.id f.known (s.enter f.context)).1.1,
      (SessionM.setPayload f.ref (payload (act f.id f.known (s.enter f.context)).1.2)
        (inContext f.context (act f.id f.known) s).2).2) := by
  rw [onObject, h]
  rfl

theorem inContextOf_eq {act : Id → ρ → ContextM Sim α}
    (h : s.inContextOf known? name act = some (a, s')) :
    ∃ f, s.find? known? name = some f ∧
      (a, s') = inContext f.context (act f.id f.known) s := by
  obtain ⟨f, hf, he⟩ := Option.bind_eq_some_iff.mp h
  exact ⟨f, hf, (Option.some.inj he).symm⟩

theorem Inv.onObject (h : s.Inv) (hr : Payload.Reads known? payload)
    (hn : op.updated? = some name) {act : Id → ρ → ContextM Sim (α × ρ)}
    (hs : s.onObject known? payload name act = some (a, s'))
    (hw : ∀ f, s.Has payload f →
      Work s.driver.live (only (payload f.known).kind f.id) [] [] (act f.id f.known))
    (hk : ∀ known known', (payload known).kind = (payload known').kind)
    (ho : ∀ id known c, (payload (act id known c).1.2).owned = (payload known).owned) :
    s.Progress op s' := by
  obtain ⟨f, hf, -, rfl⟩ := onObject_eq hs
  obtain ⟨-, hhas⟩ := has_of_find? hr hf
  rw [h.sound.context_eq hhas]
  obtain ⟨hs', hq⟩ := h.sound.rework (fun _ => False) (hw f hhas) hhas (hk _ _) (ho f.id f.known _)
  exact h.progress_of_quiet hs' (hq.mono (fun _ _ => mayChange_of_only hr hn hf) fun _ => id)

theorem Inv.inContextOf (h : s.Inv) (hr : Payload.Reads known? payload)
    (hn : op.updated? = some name) {act : Id → ρ → ContextM Sim α}
    (hs : s.inContextOf known? name act = some (a, s'))
    (hw : ∀ f, s.Has payload f →
      Work s.driver.live (only (payload f.known).kind f.id) [] [] (act f.id f.known)) :
    s.Progress op s' := by
  obtain ⟨f, hf, rfl⟩ := of_lookup hs
  obtain ⟨-, hhas⟩ := has_of_find? hr hf
  rw [h.sound.context_eq hhas]
  exact h.progress_of_work ((hw f hhas).mono fun _ _ => mayChange_of_only hr hn hf)

theorem Inv.progress_of_tied (h : s.Inv) (hr : Payload.Reads known? payload)
    (hn : op.updated? = some name) {f : Found ρ} (hf : s.find? known? name = some f)
    (hs : s'.Sound s.roots ∧ s.Quiet (only (payload f.known).kind f.id) edited s') :
    s.Progress op s' :=
  h.progress_of_quiet hs.1 (hs.2.mono (fun _ _ => mayChange_of_only hr hn hf) fun _ => id)

/-! ## Attachments -/

theorem Inv.attach (h : s.Inv) (hn : op.updated? = some name) {fb : Found Framebuffer}
    (hf : s.find? Payload.framebuffer? name = some fb) {object : Ref} {i : Id} {x : Object}
    {q : Request} {point : Attachment} (site : Site) (hx : (object, i, x) ∈ s.store.faces)
    (hmay : Kind.framebuffer.MayOwn x.payload.kind) (hq : q.IsContent)
    (ha : ∀ d : Sim, d.aim q = some (.framebuffer, d.bound fb.known.slot))
    (hd : ∀ n, s.Attached fb point n → s.Displaces op n) :
    s.Progress op (SessionM.attach fb point object q site s).2 := by
  obtain ⟨hv, hhas⟩ := has_of_find? Payload.reads_framebuffer hf
  obtain ⟨s₁, outside₁, zs, hquiet, hs₁, hdropped, hgone, hvars, hothers⟩ :=
    h.sound.attach point site hhas hx hmay hq ha
  have hquiet' : s.Quiet (s.MayChange op) (· = fb.ref) s₁ :=
    hquiet.mono (fun _ _ => mayChange_of_only Payload.reads_framebuffer hn hf) fun _ => id
  refine ⟨_, h.advance_of_dropped hquiet' hs₁ ((roots_congr hvars).symm ▸ hdropped) ?_ ?_ ?_, ?_⟩
  · rintro r - - - rfl
    rw [roots_congr hvars]
    exact mem_roots hv
  · exact fun k i _ hz => hothers k i hz
  · exact fun _ _ _ hg => .inl (hvars ▸ hg)
  · exact fun _ n hz => hd n (hgone n hz)

theorem Inv.detachShader (h : s.Inv) (hn : op.updated? = none) {p : Found Program}
    {sh : Found Shader} (hp : s.find? Payload.program? name = some p) :
    s.Progress op (SessionM.detachShader p sh s).2 := by
  obtain ⟨hv, hhas⟩ := has_of_find? Payload.reads_program hp
  obtain ⟨s₁, outside₁, zs, hquiet, hs₁, hgiven⟩ := h.sound.detachShader sh hhas
  have hvars := hgiven.vars.trans hquiet.vars
  refine ⟨_, h.advance_of_dropped (hquiet.mono (fun k i _ => mayChange_of_no_update hn k i)
    fun _ => id) hs₁ ((roots_congr hvars).symm ▸ hgiven.toDropped) ?_ ?_ ?_, ?_⟩
  · rintro r - - - rfl
    rw [roots_congr hvars]
    exact mem_roots hv
  · exact fun k i _ hz => hgiven.others k i hz
  · exact fun _ _ _ hg => .inl (hvars ▸ hg)
  · rw [hn]
    nofun

/-! ## Variables -/

theorem Inv.setVariable (h : s.Inv) {s₁ : Session Sim} {held : Held}
    (hq : s.Quiet (fun _ _ => True) edited s₁) (hs₁ : s₁.Sound (held.ref?.toList ++ s.roots))
    (he : ∀ r id o, (r, id, o) ∈ s.store.faces → ¬ edited r)
    (hr : ∀ c g, s.vars.get? name = some (.guard c g) → g.Restorable s.driver.live)
    (hh : ∀ c g, held = .guard c g → c = 0 ∧ g.Restorable s.driver.live)
    (hn : op.updated? = none) : s.Progress op (SessionM.setVariable name held s₁).2 := by
  rw [← roots_congr hq.vars] at hs₁
  obtain ⟨zs, hd, hv⟩ := hs₁.setVariable name fun c g hg => by
    rw [hq.vars] at hg
    exact ⟨h.guards name c g hg, (hr c g hg).mono hq.live⟩
  have hquiet : s.Quiet (s.MayChange op) edited s₁ :=
    hq.mono (fun k i _ => mayChange_of_no_update hn k i) fun _ => id
  refine ⟨_, h.advance_of_dropped hquiet hs₁ hd ?_ ?_ ?_, ?_⟩
  · exact fun r id o hm hr => absurd hr (he r id o hm)
  · exact fun k i hm => absurd (mayChange_of_no_update hn k i) hm
  · intro name' c g hg
    rw [hv, Table.get?_insert, hq.vars] at hg
    split at hg
    · exact .inr (hh c g (Option.some.inj hg))
    · exact .inl hg
  · intro hu
    simp [hn] at hu

theorem restorable_of_released (hd : op.dropped? = some name)
    (hr : ∀ g, s.released? op = some g → g.Restorable s.driver.live) (c : ContextId) (g : Guard)
    (hg : s.vars.get? name = some (.guard c g)) : g.Restorable s.driver.live := by
  refine hr g ?_
  simp [released?, hd, hg]

theorem Inv.drop (h : s.Inv) {held : Held} (hv : s.vars.get? name = some held)
    (hr : ∀ g, s.released? (.drop name) = some g → g.Restorable s.driver.live) :
    s.Progress (.drop name)
      (SessionM.dropHeld held { s with vars := s.vars.erase name }).2 := by
  have hperm := roots_perm s name
  rw [hv] at hperm
  have hs := (h.sound.perm hperm).setVariables (s.vars.erase name)
  obtain ⟨zs, hd, hvars⟩ := Sound.dropHeld held hs fun c g hg => by
    subst hg
    exact ⟨h.guards name c g hv, restorable_of_released (s := s) rfl hr c g hv⟩
  have hroots := roots_congr hvars
  have hd' : Dropped (SessionM.dropHeld held { s with vars := s.vars.erase name }).2.roots
      zs s (SessionM.dropHeld held { s with vars := s.vars.erase name }).2 :=
    ⟨hroots.symm ▸ hd.sound, hd.ownersFirst, hd.faces, hd.deleted⟩
  refine ⟨_, h.advance_of_dropped (.refl _ (fun _ => False) s) h.sound hd' ?_ ?_ ?_, nofun⟩
  · exact fun _ _ _ _ => False.elim
  · exact fun k i hm => absurd (mayChange_of_no_update rfl k i) hm
  · intro name' c g hg
    rw [hvars, Table.get?_erase] at hg
    split at hg
    · cases hg
    · exact .inl hg

theorem Inv.clone (h : s.Inv) {source : String} {r : Ref} {b : Box Object}
    (hb : s.box? source = some (r, b))
    (hr : ∀ g, s.released? (.clone source name) = some g → g.Restorable s.driver.live) :
    s.Progress (.clone source name)
      (SessionM.setVariable name (.object r) (SessionM.retain r s).2).2 := by
  obtain ⟨-, hb'⟩ := get?_of_box? hb
  obtain ⟨hs, hq⟩ := h.sound.retain (fun _ _ => True) (fun _ => False)
    (h.sound.balanced.mem_of_get? hb')
  exact h.setVariable hq hs (fun _ _ _ _ => id) (restorable_of_released rfl hr) nofun rfl

theorem Inv.acquire (h : s.Inv) {slot : Slot} {id : Id} (ha : slot.Admits s.driver.live id)
    (hr : ∀ g, s.released? (.acquire name 0 slot id) = some g → g.Restorable s.driver.live) :
    s.Progress (.acquire name 0 slot id)
      (SessionM.setVariable name (.guard 0 (inContext 0 (ContextM.acquire slot id) s).1)
        (inContext 0 (ContextM.acquire slot id) s).2).2 := by
  have hw : Work s.driver.live (fun _ _ => True) [] _ (ContextM.acquire slot id) :=
    work_acquire ha (Slot.spares_nil _) Sim.within_anything
  obtain ⟨hs, hq⟩ := h.sound.work (fun _ => False) hw
  refine h.setVariable hq hs (fun _ _ _ _ => False.elim) (restorable_of_released rfl hr) ?_ rfl
  intro c g hg
  cases hg
  exact ⟨rfl, restorable_acquire h.sound.ready slot id⟩

theorem Inv.create (h : s.Inv) {what : Creation} {made : Except Failure Id}
    (hr : ∀ g, s.released? (.create name 0 what) = some g → g.Restorable s.driver.live)
    (hs : s.create name 0 what = some (made, s')) : s.Progress (.create name 0 what) s' := by
  simp only [Session.create, Option.bind_eq_bind, Option.bind_eq_some_iff] at hs
  obtain ⟨⟨made', s₁⟩, hm, he⟩ := hs
  have hc := h.sound.make hm
  have hquiet : s.Quiet (s.MayChange (.create name 0 what)) (s.store.next ≤ ·) s₁ :=
    hc.quiet.mono (fun k i _ => mayChange_of_no_update rfl k i) fun _ => id
  cases made' with
  | error e =>
      cases he
      exact h.progress_of_quiet (hc.failed e rfl) hquiet
  | ok x =>
      obtain ⟨r, id⟩ := x
      cases he
      refine h.setVariable hc.quiet (hc.held r id rfl) ?_ (restorable_of_released rfl hr) nofun rfl
      -- what creation edits is new, so it is none of the objects of before
      intro q i o hq hnext
      obtain ⟨b, hb, -, -⟩ := Store.mem_faces_iff.mp hq
      cases (h.sound.balanced.fresh q hnext).symm.trans hb

/-! ## All operations -/

theorem work_contextOp {live : List (Kind × Id)} (op : ContextOp) (ha : op.Admissible live) :
    Work live (fun _ _ => True) [] [] (op.run : ContextM Sim op.Answer) := by
  cases op with
  | config => exact .bind .get fun _ => .pure _
  | bind slot id => exact (work_bind ha (Slot.spares_nil _) Sim.within_anything).forget
  | unbind slot =>
      exact (work_bind (Slot.admits_zero ..) (Slot.spares_nil _) Sim.within_anything).forget
  | interrupted slot id => exact work_interrupted ha (Slot.spares_nil _) Sim.within_anything
  | activeBinding slot => exact .bind .get fun _ => .pure _
  | isBound slot id => exact .bind .get fun _ => .pure _
  | invalidateBinding slot => exact work_invalidateBinding slot
  | invalidateBindings => exact work_invalidateBindings
  | pollError => exact work_pollError
  | getInteger parameter => exact work_getInteger parameter
  | maxTextureUnits => exact work_maxTextureUnits
  | pixelStore direction => exact work_pixelStore direction
  | clear mask => exact work_command trivial nofun
  | clearColor color => exact work_command trivial nofun
  | viewport x y width height => exact work_command trivial nofun
  | request r => exact ha.elim

theorem Inv.rebind (h : s.Inv) (hn : op.updated? = none) {bound : Bool} {answer : Unit}
    (hs : s.rebind name bound = some (answer, s')) : s.Progress op s' := by
  simp only [Session.rebind, Option.bind_eq_bind, Option.bind_eq_some_iff, Option.pure_def,
    Option.some.injEq] at hs
  obtain ⟨⟨r, b⟩, hb, slot, hslot, he⟩ := hs
  obtain rfl : _ = s' := congrArg Prod.snd he
  have hface : (r, b.id, b.content) ∈ s.store.faces :=
    Store.mem_faces_iff.mpr ⟨b, (get?_of_box? hb).2, rfl, rfl⟩
  have hkind : slot.kind? = some b.content.payload.kind := by
    cases hp : b.content.payload <;> rw [hp] at hslot <;> cases hslot <;> rfl
  have hadmits : slot.Admits s.driver.live (if bound then b.id else 0) := by
    split
    · exact h.sound.admits hface hkind
    · exact slot.admits_zero _
  have hw : Work s.driver.live (fun _ _ => True) [] _
      (ContextM.bind slot (if bound then b.id else 0)) :=
    work_bind hadmits (Slot.spares_nil _) Sim.within_anything
  rw [h.sound.home _ _ _ hface]
  exact h.progress_of_anything hn hw.forget

theorem Inv.draw (h : s.Inv) (hn : op.updated? = none) {program vertexArray : String} {r : Request}
    {site : Site} {answer : Unit}
    (hs : s.draw program vertexArray (fun p v => Program.draw p v r site) = some (answer, s'))
    (hr : r.IsContent) (ha : ∀ d : Sim, d.aim r = none) : s.Progress op s' := by
  obtain ⟨p, v, hp, hv, rfl⟩ := of_lookups hs
  obtain ⟨-, hp'⟩ := has_of_find? Payload.reads_program hp
  obtain ⟨-, hv'⟩ := has_of_find? Payload.reads_vertexArray hv
  have hw : Work s.driver.live (fun _ _ => True) [] [] (Program.draw p.id v.id r site) :=
    Program.work_draw (h.sound.admits hp' rfl) (h.sound.admits hv' rfl) hr ha site
  rw [h.sound.context_eq hp']
  exact h.progress_of_anything hn hw

theorem Inv.attachTexture (h : s.Inv) {framebuffer texture : String} {point : Attachment}
    {part : Framebuffer.TexturePart} {fb : Found Framebuffer} {t : Found Texture}
    (hf : s.find? Payload.framebuffer? framebuffer = some fb)
    (ht : s.find? Payload.texture? texture = some t) :
    s.Progress (.attachTexture framebuffer point texture part)
      (SessionM.attachTexture fb point t part s).2 := by
  obtain ⟨-, ht'⟩ := has_of_find? Payload.reads_texture ht
  unfold SessionM.attachTexture
  cases hq : fb.known.textureRequest point part t.known.target t.id with
  | error e => exact h.progress_refl
  | ok q =>
      obtain ⟨image, level, layer, rfl⟩ := Framebuffer.of_textureRequest hq
      exact h.attach rfl hf _ ht' (.inl rfl) trivial (fun _ => rfl) fun n hn => ⟨fb, hf, hn⟩

/-- Every admissible operation that releases no guard but such as may be released makes progress. -/
theorem Inv.step (h : s.Inv) {answer : op.Answer} (ha : op.Admissible s.driver.live)
    (hr : ∀ g, s.released? op = some g → g.Restorable s.driver.live)
    (hs : s.step op = some (answer, s')) : s.Progress op s' := by
  cases op with
  | addContext config => exact ha.elim
  | context c op =>
      simp only [Session.step, h.sound.single] at hs
      split at hs
      · rename_i hc
        obtain rfl := Nat.lt_one_iff.mp hc
        obtain rfl : _ = s' := congrArg Prod.snd (Option.some.inj hs)
        exact h.progress_of_anything rfl (work_contextOp op ha)
      · cases hs
  | acquire name c slot id =>
      simp only [Session.step, h.sound.single] at hs
      split at hs
      · rename_i hc
        obtain rfl := Nat.lt_one_iff.mp hc
        obtain rfl : _ = s' := congrArg Prod.snd (Option.some.inj hs)
        exact h.acquire ha hr
      · cases hs
  | create name c what =>
      simp only [Session.step, h.sound.single] at hs
      split at hs
      · rename_i hc
        obtain rfl := Nat.lt_one_iff.mp hc
        exact h.create hr hs
      · cases hs
  | clone source name =>
      simp only [Session.step, Option.bind_eq_bind, Option.bind_eq_some_iff, Option.pure_def] at hs
      obtain ⟨⟨r, b⟩, hb, he⟩ := hs
      obtain rfl : _ = s' := congrArg Prod.snd (Option.some.inj he)
      exact h.clone hb hr
  | drop target =>
      obtain ⟨held, hv, rfl⟩ := of_lookup hs
      exact h.drop hv hr
  | bind target => exact h.rebind rfl hs
  | unbind target => exact h.rebind rfl hs
  | info | bufferCount | shaders | attachment =>
      obtain ⟨_, -, rfl⟩ := of_lookup hs
      exact h.progress_refl
  | buffer target op =>
      exact h.onObject Payload.reads_buffer rfl hs
        (fun f hf => f.known.work_run op (h.sound.admits hf rfl)) (fun _ _ => rfl)
        fun _ _ _ => rfl
  | texture target op =>
      exact h.onObject Payload.reads_texture rfl hs
        (fun f hf => f.known.work_run op (h.sound.admits hf rfl)) (fun _ _ => rfl)
        fun _ _ _ => rfl
  | renderbuffer target op =>
      simp only [Session.step] at hs
      exact h.inContextOf Payload.reads_renderbuffer rfl hs fun f hf =>
        Renderbuffer.work_run op (h.sound.admits hf rfl)
  | framebuffer target op =>
      exact h.inContextOf Payload.reads_framebuffer rfl hs fun f hf =>
        f.known.work_run op (h.sound.admits hf rfl)
  | shader target op =>
      exact h.onObject Payload.reads_shader rfl hs (fun f _ => f.known.work_run op f.id)
        (fun _ _ => rfl) fun _ _ _ => rfl
  | program target op =>
      exact h.onObject Payload.reads_program rfl hs
        (fun f hf => f.known.work_run op (h.sound.admits hf rfl)) (fun _ _ => rfl)
        fun id p c => p.shaders_run op id c
  | attachRenderbuffer framebuffer point renderbuffer =>
      obtain ⟨fb, rb, hf, hrb, rfl⟩ := of_lookups hs
      obtain ⟨-, hrb'⟩ := has_of_find? Payload.reads_renderbuffer hrb
      exact h.attach rfl hf _ hrb' (.inr rfl) trivial (fun _ => rfl) fun n hn => ⟨fb, hf, hn⟩
  | attachTexture framebuffer point texture part =>
      obtain ⟨fb, t, hf, ht, rfl⟩ := of_lookups hs
      exact h.attachTexture hf ht
  | enableAttribute vertexArray index enable =>
      simp only [Session.step] at hs
      exact h.inContextOf Payload.reads_vertexArray rfl hs fun f hf =>
        VertexArray.work_enableAttribute (h.sound.admits hf rfl) index enable
  | setPointer vertexArray buffer layout =>
      obtain ⟨v, b, hv, hb, rfl⟩ := of_lookups hs
      obtain ⟨-, hv'⟩ := has_of_find? Payload.reads_vertexArray hv
      obtain ⟨-, hb'⟩ := has_of_find? Payload.reads_buffer hb
      exact h.progress_of_tied Payload.reads_vertexArray rfl hv (h.sound.setPointer hv' hb' layout)
  | setIndexBuffer vertexArray buffer =>
      obtain ⟨v, b, hv, hb, rfl⟩ := of_lookups hs
      obtain ⟨-, hv'⟩ := has_of_find? Payload.reads_vertexArray hv
      obtain ⟨-, hb'⟩ := has_of_find? Payload.reads_buffer hb
      exact h.progress_of_tied Payload.reads_vertexArray rfl hv (h.sound.setIndexBuffer hv' hb')
  | attachShader program shader =>
      obtain ⟨p, sh, hp, hsh, rfl⟩ := of_lookups hs
      obtain ⟨-, hp'⟩ := has_of_find? Payload.reads_program hp
      obtain ⟨-, hsh'⟩ := has_of_find? Payload.reads_shader hsh
      obtain ⟨hs', hq⟩ := h.sound.attachShader hp' hsh'
      refine h.progress_of_quiet hs' (hq.mono (fun k i _ => ?_) fun _ => id)
      exact mayChange_of_no_update rfl k i
  | detachShader program shader =>
      obtain ⟨p, sh, hp, hsh, rfl⟩ := of_lookups hs
      exact h.detachShader rfl hp
  | drawArrays program vertexArray mode first count =>
      exact h.draw rfl hs trivial fun _ => rfl
  | drawElements program vertexArray mode count type offset =>
      exact h.draw rfl hs trivial fun _ => rfl

end Session

end GraphicsObjects
