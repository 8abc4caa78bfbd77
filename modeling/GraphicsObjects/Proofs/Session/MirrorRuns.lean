import GraphicsObjects.Proofs.Session.MirrorCreation

/-!
# The mirror along runs

Every step keeps the mirror, whatever it does. Where vertex arrays count, a client may bind element
buffers only by giving them to a vertex array; the buffer that each was given last is recorded along
the run.
-/

namespace GraphicsObjects

open Ownership ContextM SessionM

/-- The slot that an operation on a context binds. -/
def ContextOp.slot? : ContextOp → Option Slot
  | bind slot _ | unbind slot | interrupted slot _ => some slot
  | _ => none

theorem ContextOp.keepsLinks_run {tied : Prop} (op : ContextOp) (hr : ∀ r, op ≠ .request r)
    (hs : tied → op.slot? ≠ some .elementArray) :
    KeepsLinks tied (op.run : ContextM Sim op.Answer) := by
  have hslot {slot : Slot} (he : op.slot? = some slot) : tied → slot ≠ .elementArray :=
    fun ht e => hs ht (he.trans (congrArg some e))
  cases op with
  | config => exact .bind .get fun _ => .pure _
  | bind slot id => exact keepsLinks_bind (hslot rfl) id
  | unbind slot => exact keepsLinks_bind (hslot rfl) 0
  | interrupted slot id => exact keepsLinks_holding (hslot rfl) (.pure _)
  | activeBinding | isBound => exact .bind .get fun _ => .pure _
  | invalidateBinding => exact keepsLinks_updateCache _
  | invalidateBindings => exact .bind (keepsLinks_note _) fun _ => keepsLinks_updateCache _
  | pollError => exact keepsLinks_pollError
  | getInteger => exact keepsLinks_getInteger _
  | maxTextureUnits => exact keepsLinks_maxTextureUnits
  | pixelStore => exact keepsLinks_pixelStore _
  | clear | clearColor | viewport => exact keepsLinks_command trivial
  | request r => exact absurd rfl (hr r)

/-- All operations on a program but a link leave what is known of it. -/
theorem Program.known_run {op : ProgramOp} (p : Program) (h : op ≠ .link) (id : Id)
    (c : Context Sim) : (op.run id p c).1.2 = p := by
  cases op with
  | link => exact absurd rfl h
  | _ => rfl

namespace Session

variable {s s' : Session Sim} {tied : Prop} {last last' : Ref → Option Ref}
variable {α ρ : Type} {name : String} {known? : Payload → Option ρ} {payload : ρ → Payload}
variable {config : Config} {op : Op} {a : α}

/-- The slot that an operation of a client binds or unbinds by itself. -/
def boundSlot? (s : Session Sim) : Op → Option Slot
  | .context _ op => op.slot?
  | .acquire _ _ slot _ => some slot
  | .bind target | .unbind target => (s.box? target).bind fun x => x.2.content.payload.slot?
  | _ => none

/-- The buffer that each vertex array was given last for indexed draws, after an operation. -/
def reindex (s : Session Sim) (last : Ref → Option Ref) : Op → Ref → Option Ref
  | .setIndexBuffer vertexArray buffer =>
    match s.find? Payload.vertexArray? vertexArray, s.find? Payload.buffer? buffer with
    | some v, some b => Function.update last v.ref (some b.ref)
    | _, _ => last
  | _ => last

/-! ## Steps -/

theorem Mirrored.onObject (h : s.Mirrored tied last) (hi : s.Inv)
    (hr : Payload.Reads known? payload) {act : Id → ρ → ContextM Sim (α × ρ)}
    (hs : s.onObject known? payload name act = some (a, s'))
    (hd : ∀ f, s.Has payload f →
      s.driver.Preserves tied nothing (inContext 0 (act f.id f.known) s).2.driver)
    (hl : ∀ f c, s.Has payload f →
      (payload (act f.id f.known c).1.2).kind = (payload f.known).kind ∧
        (payload (act f.id f.known c).1.2).Orderly (last f.ref) ∧
        (payload (act f.id f.known c).1.2).links s (last f.ref) =
          (payload f.known).links s (last f.ref)) : s'.Mirrored tied last := by
  obtain ⟨f, hf, -, rfl⟩ := onObject_eq hs
  obtain ⟨-, hhas⟩ := has_of_find? hr hf
  rw [hi.sound.context_eq hhas]
  obtain ⟨hkind, horderly, hlinks⟩ := hl f (s.enter 0) hhas
  exact h.rework hi.sound (hd f hhas) hhas hkind horderly hlinks

theorem Mirrored.inContextOf (h : s.Mirrored tied last) (hi : s.Inv)
    (hr : Payload.Reads known? payload) {act : Id → ρ → ContextM Sim α}
    (hs : s.inContextOf known? name act = some (a, s'))
    (hk : ∀ id known, KeepsLinks tied (act id known)) : s'.Mirrored tied last := by
  obtain ⟨f, hf, rfl⟩ := of_lookup hs
  obtain ⟨-, hhas⟩ := has_of_find? hr hf
  rw [hi.sound.context_eq hhas]
  exact h.work (hk f.id f.known)

theorem Mirrored.program (h : s.Mirrored tied last) (hi : s.Inv) {op : ProgramOp}
    {answer : op.Answer}
    (hs : s.onObject Payload.program? .program name op.run = some (answer, s')) :
    s'.Mirrored tied last := by
  by_cases hop : op = .link
  · subst hop
    obtain ⟨p, hp, -, rfl⟩ := onObject_eq hs
    obtain ⟨-, hhas⟩ := has_of_find? Payload.reads_program hp
    rw [hi.sound.context_eq hhas]
    exact h.link hi.sound hhas
  · refine h.onObject hi Payload.reads_program hs (fun f _ => ?_) fun f c hf => ?_
    · exact ((f.known.keepsLinks_run hop) (s.enter 0)).preserves h.tidy nothing
    · rw [f.known.known_run hop]
      exact ⟨rfl, h.orderly _ _ _ hf, rfl⟩

theorem Mirrored.rebind (h : s.Mirrored tied last) (hi : s.Inv) {bound : Bool} {answer : Unit}
    (he : tied → ((s.box? name).bind fun x => x.2.content.payload.slot?) ≠ some .elementArray)
    (hs : s.rebind name bound = some (answer, s')) : s'.Mirrored tied last := by
  simp only [Session.rebind, Option.bind_eq_bind, Option.bind_eq_some_iff, Option.pure_def,
    Option.some.injEq] at hs
  obtain ⟨⟨r, b⟩, hb, slot, hslot, hdone⟩ := hs
  obtain rfl : _ = s' := congrArg Prod.snd hdone
  have hface : (r, b.id, b.content) ∈ s.store.faces :=
    Store.mem_faces_iff.mpr ⟨b, (get?_of_box? hb).2, rfl, rfl⟩
  rw [hi.sound.home _ _ _ hface]
  refine h.work (keepsLinks_bind (fun ht e => he ht ?_) _)
  rw [hb, ← e]
  exact hslot

theorem Mirrored.attachTexture (h : s.Mirrored tied last) (hi : s.Inv) {fb : Found Framebuffer}
    {t : Found Texture} (hf : s.Has .framebuffer fb) (ht : s.Has .texture t) (point : Attachment)
    (part : Framebuffer.TexturePart) :
    (SessionM.attachTexture fb point t part s).2.Mirrored tied last := by
  unfold SessionM.attachTexture
  cases hq : fb.known.textureRequest point part t.known.target t.id with
  | error e => exact h
  | ok q =>
      obtain ⟨image, level, layer, rfl⟩ := Framebuffer.of_textureRequest hq
      exact h.attach hi.sound hf ht (.inl rfl) trivial (fun _ => rfl) fun _ => rfl

theorem Mirrored.draw (h : s.Mirrored tied last) (hi : s.Inv) {program vertexArray : String}
    {r : Request} {site : Site} {answer : Unit}
    (hs : s.draw program vertexArray (fun p v => Program.draw p v r site) = some (answer, s'))
    (hr : r.KeepsLinks tied) : s'.Mirrored tied last := by
  obtain ⟨p, v, hp, -, rfl⟩ := of_lookups hs
  obtain ⟨-, hp'⟩ := has_of_find? Payload.reads_program hp
  rw [hi.sound.context_eq hp']
  exact h.work (Program.keepsLinks_draw v.id hr site)

theorem Mirrored.create (h : s.Mirrored tied last) (hi : s.Inv) {what : Creation}
    {made : Except Failure Id} (hs : s.create name 0 what = some (made, s')) :
    s'.Mirrored tied last := by
  simp only [Session.create, Option.bind_eq_bind, Option.bind_eq_some_iff] at hs
  obtain ⟨⟨made', s₁⟩, hm, he⟩ := hs
  have hc := hi.sound.make hm
  have h₁ := h.make hi.sound hm
  cases made' with
  | error e =>
      cases he
      exact h₁
  | ok x =>
      obtain ⟨r, id⟩ := x
      cases he
      have hs₁ := hc.held r id rfl
      rw [← roots_congr hc.quiet.vars] at hs₁
      refine h₁.setVariable name hs₁ (fun c g hg => hi.guards name c g (hc.quiet.vars ▸ hg)) ?_
      intro c g hg
      cases hg

theorem Mirrored.acquire (h : s.Mirrored tied last) (hi : s.Inv) {slot : Slot} {id : Id}
    (ha : slot.Admits s.driver.live id) (he : tied → slot ≠ .elementArray) :
    (SessionM.setVariable name (.guard 0 (inContext 0 (ContextM.acquire slot id) s).1)
      (inContext 0 (ContextM.acquire slot id) s).2).2.Mirrored tied last := by
  have hw : Work s.driver.live (fun _ _ => True) [] _ (ContextM.acquire slot id) :=
    work_acquire ha (Slot.spares_nil _) Sim.within_anything
  obtain ⟨hs₁, -⟩ := hi.sound.work (fun _ => False) hw
  refine (h.work (keepsLinks_acquire he id)).setVariable name hs₁ (hi.guards name) ?_
  intro c g hg
  cases hg
  exact he

theorem Mirrored.clone (h : s.Mirrored tied last) (hi : s.Inv) {source : String} {r : Ref}
    {b : Box Object} (hb : s.box? source = some (r, b)) :
    (SessionM.setVariable name (.object r) (SessionM.retain r s).2).2.Mirrored tied last := by
  obtain ⟨-, hb'⟩ := get?_of_box? hb
  obtain ⟨hs₁, -⟩ := hi.sound.retain (fun _ _ => True) (fun _ => False)
    (hi.sound.balanced.mem_of_get? hb')
  exact (h.retain r).setVariable name hs₁ (hi.guards name) nofun

/-- Every admissible operation keeps the mirror; where vertex arrays count, it binds no element
buffer itself. -/
theorem Mirrored.step (h : s.Mirrored tied last) (hi : s.Inv) {answer : op.Answer}
    (ha : op.Admissible s.driver.live) (he : tied → s.boundSlot? op ≠ some .elementArray)
    (hs : s.step op = some (answer, s')) : s'.Mirrored tied (s.reindex last op) := by
  cases op with
  | addContext config => exact ha.elim
  | context c op =>
      simp only [Session.step, hi.sound.single] at hs
      split at hs
      · rename_i hc
        obtain rfl := Nat.lt_one_iff.mp hc
        obtain rfl : _ = s' := congrArg Prod.snd (Option.some.inj hs)
        refine h.work (op.keepsLinks_run ?_ he)
        rintro r rfl
        exact ha
      · cases hs
  | acquire name c slot id =>
      simp only [Session.step, hi.sound.single] at hs
      split at hs
      · rename_i hc
        obtain rfl := Nat.lt_one_iff.mp hc
        obtain rfl : _ = s' := congrArg Prod.snd (Option.some.inj hs)
        exact h.acquire hi ha fun ht e => he ht (congrArg some e)
      · cases hs
  | create name c what =>
      simp only [Session.step, hi.sound.single] at hs
      split at hs
      · rename_i hc
        obtain rfl := Nat.lt_one_iff.mp hc
        exact h.create hi hs
      · cases hs
  | clone source name =>
      simp only [Session.step, Option.bind_eq_bind, Option.bind_eq_some_iff, Option.pure_def] at hs
      obtain ⟨⟨r, b⟩, hb, hdone⟩ := hs
      obtain rfl : _ = s' := congrArg Prod.snd (Option.some.inj hdone)
      exact h.clone hi hb
  | drop target =>
      obtain ⟨held, hv, rfl⟩ := of_lookup hs
      exact h.drop hi hv
  | bind target => exact h.rebind hi he hs
  | unbind target => exact h.rebind hi he hs
  | info | bufferCount | shaders | attachment =>
      obtain ⟨_, -, rfl⟩ := of_lookup hs
      exact h
  | buffer target op =>
      refine h.onObject hi Payload.reads_buffer hs (fun f hf => ?_)
        fun _ _ _ => ⟨rfl, trivial, rfl⟩
      exact ((f.known.work_run op (hi.sound.admits hf rfl)).preserves
        (f.known.keepsLinks_run op).keepsTidy hi.sound.ready h.tidy).of_unlinked (.inl rfl)
  | texture target op =>
      exact h.onObject hi Payload.reads_texture hs
        (fun f _ => (f.known.keepsLinks_run op (s.enter 0)).preserves h.tidy nothing)
        fun _ _ _ => ⟨rfl, trivial, rfl⟩
  | renderbuffer target op =>
      simp only [Session.step] at hs
      exact h.inContextOf hi Payload.reads_renderbuffer hs fun _ _ => Renderbuffer.keepsLinks_run op
  | framebuffer target op =>
      exact h.inContextOf hi Payload.reads_framebuffer hs fun _ f => f.keepsLinks_run op
  | shader target op =>
      exact h.onObject hi Payload.reads_shader hs
        (fun f _ => (f.known.keepsLinks_run op (s.enter 0)).preserves h.tidy nothing)
        fun _ _ _ => ⟨rfl, trivial, rfl⟩
  | program target op => exact h.program hi hs
  | attachRenderbuffer framebuffer point renderbuffer =>
      obtain ⟨fb, rb, hf, hrb, rfl⟩ := of_lookups hs
      obtain ⟨-, hf'⟩ := has_of_find? Payload.reads_framebuffer hf
      obtain ⟨-, hrb'⟩ := has_of_find? Payload.reads_renderbuffer hrb
      exact h.attach hi.sound hf' hrb' (.inr rfl) trivial (fun _ => rfl) fun _ => rfl
  | attachTexture framebuffer point texture part =>
      obtain ⟨fb, t, hf, ht, rfl⟩ := of_lookups hs
      obtain ⟨-, hf'⟩ := has_of_find? Payload.reads_framebuffer hf
      obtain ⟨-, ht'⟩ := has_of_find? Payload.reads_texture ht
      exact h.attachTexture hi hf' ht' point part
  | enableAttribute vertexArray index enable =>
      simp only [Session.step] at hs
      exact h.inContextOf hi Payload.reads_vertexArray hs fun id _ =>
        VertexArray.keepsLinks_enableAttribute index enable
  | setPointer vertexArray buffer layout =>
      obtain ⟨v, b, hv, -, rfl⟩ := of_lookups hs
      obtain ⟨-, hv'⟩ := has_of_find? Payload.reads_vertexArray hv
      exact h.setPointer hi.sound hv' b layout
  | setIndexBuffer vertexArray buffer =>
      obtain ⟨v, b, hv, hb, rfl⟩ := of_lookups hs
      obtain ⟨-, hv'⟩ := has_of_find? Payload.reads_vertexArray hv
      obtain ⟨-, hb'⟩ := has_of_find? Payload.reads_buffer hb
      simp only [reindex, hv, hb]
      exact h.setIndexBuffer hi.sound hv' hb'
  | attachShader program shader =>
      obtain ⟨p, sh, hp, hsh, rfl⟩ := of_lookups hs
      obtain ⟨-, hp'⟩ := has_of_find? Payload.reads_program hp
      obtain ⟨-, hsh'⟩ := has_of_find? Payload.reads_shader hsh
      exact h.attachShader hi.sound hp' hsh'
  | detachShader program shader =>
      obtain ⟨p, sh, hp, hsh, rfl⟩ := of_lookups hs
      obtain ⟨-, hp'⟩ := has_of_find? Payload.reads_program hp
      obtain ⟨-, hsh'⟩ := has_of_find? Payload.reads_shader hsh
      exact h.detachShader hi.sound hp' hsh'
  | drawArrays program vertexArray mode first count => exact h.draw hi hs trivial
  | drawElements program vertexArray mode count type offset => exact h.draw hi hs trivial

/-! ## Runs -/

theorem Mirrored.start (tied : Prop) (config : Config) (orders : List (List Nat)) :
    (Session.start .fresh config orders).Mirrored tied fun _ => none where
  tidy := .fresh
  settled _ hz := absurd rfl hz
  orderly := nofun
  links := nofun
  fresh _ _ := rfl
  guards _ := nofun

theorem Mirrored.adjust (h : s.Mirrored tied last) (a : Adjustment) :
    (s.adjust a).Mirrored tied last := by
  refine h.congr ⟨fun k i _ _ => ?_, ?_, fun hs => ?_⟩ rfl rfl rfl
  · cases a <;> cases k <;> rfl
  · cases a with
    | raise code => exact h.tidy.raise code
    | _ => exact ⟨h.tidy.bound, h.tidy.blank, h.tidy.present⟩
  · cases a <;> exact hs.congr rfl fun _ => rfl

/-- Whatever a careful client does, framebuffers and programs are as the driver has them. -/
theorem Reachable.mirrored (h : Reachable Careful config s) : ∃ last, s.Mirrored False last := by
  induction h with
  | start => exact ⟨_, .start False config _⟩
  | adjust a _ ih =>
      obtain ⟨last, hm⟩ := ih
      exact ⟨last, hm.adjust a⟩
  | step hreach hs hr ih =>
      obtain ⟨last, hm⟩ := ih
      exact ⟨_, hm.step hreach.inv hr.1 False.elim hs⟩

/-- The states of a careful client that binds no element buffer by itself, with the buffer that each
vertex array was given last for indexed draws. -/
inductive Indexing (config : Config) : (Ref → Option Ref) → Session Sim → Prop where
  | start {orders : List (List Nat)} : Indexing config (fun _ => none) (start .fresh config orders)
  | adjust {last : Ref → Option Ref} {s : Session Sim} (a : Adjustment)
    (h : Indexing config last s) : Indexing config last (s.adjust a)
  | step {last : Ref → Option Ref} {s s' : Session Sim} {op : Op} {answer : op.Answer}
    (h : Indexing config last s) (hs : s.step op = some (answer, s')) (hr : Careful s op s')
    (he : s.boundSlot? op ≠ some .elementArray) : Indexing config (s.reindex last op) s'

theorem Indexing.reachable (h : Indexing config last s) : Reachable Careful config s := by
  induction h with
  | start => exact .start
  | adjust a _ ih => exact ih.adjust a
  | step _ hs hr _ ih => exact ih.step hs hr

/-- The driver has the element buffer of every vertex array as it was given last. -/
theorem Indexing.mirrored (h : Indexing config last s) : s.Mirrored True last := by
  induction h with
  | start => exact .start True config _
  | adjust a _ ih => exact ih.adjust a
  | step hrun hs hr he ih => exact ih.step hrun.reachable.inv hr.1 (fun _ => he) hs

/-- Performs operations in order, as long as the client is careful and binds no element buffer. -/
def performIndexing (last : Ref → Option Ref) (s : Session Sim) :
    List Op → Option ((Ref → Option Ref) × Session Sim)
  | [] => some (last, s)
  | op :: ops => do
    let (_, s') ← s.step op
    if Careful s op s' ∧ s.boundSlot? op ≠ some .elementArray then
      s'.performIndexing (s.reindex last op) ops
    else none

theorem Indexing.perform {ops : List Op} (h : Indexing config last s)
    (hp : s.performIndexing last ops = some (last', s')) : Indexing config last' s' := by
  induction ops generalizing s last with
  | nil =>
      cases hp
      exact h
  | cons op ops ih =>
      simp only [performIndexing, Option.bind_eq_bind, Option.bind_eq_some_iff] at hp
      obtain ⟨⟨answer, s₁⟩, hs, hp⟩ := hp
      split at hp
      · rename_i hr
        exact ih (h.step hs hr.1 hr.2) hp
      · cases hp

end Session

end GraphicsObjects
