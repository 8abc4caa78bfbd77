import GraphicsObjects.Proofs.Object.Routines
import GraphicsObjects.Proofs.Ownership.Steps
import GraphicsObjects.Proofs.Session.Steps

/-!
# Routines in a session

Whatever the driver is, work in a session with one context does to the context what a routine does.
It does not matter what is bound, and whether it lives. What is attached to a framebuffer changes
only in framebuffers that are edited.
-/

namespace GraphicsObjects

open Ownership ContextM SessionM

variable {δ : Type} [Driver δ] {α β ρ : Type} {sent : Request → Option Site → Prop}
variable {edited : Ref → Prop} {fills : Prop}

namespace Session

variable {s s' s'' : Session δ} {name : String} {r : Ref} {b : Box Object}

/-! ## One context -/

omit [Driver δ] in
/-- There is one context, and all objects and guards belong to it. -/
structure AtHome (s : Session δ) : Prop where
  single : s.contexts.length = 1
  objects : ∀ r b, s.store.get? r = some b → b.content.context = 0
  guards : ∀ name c g, s.vars.get? name = some (.guard c g) → c = 0
  below : ∀ r b, s.store.get? r = some b → r < s.store.next

omit [Driver δ] in
theorem atHome_start (driver : δ) (config : Config) (orders : List (List Nat)) :
    (start driver config orders).AtHome :=
  ⟨rfl, nofun, nofun, nofun⟩

omit [Driver δ] in
theorem exists_box_of_follow? {known? : Payload → Option ρ} {f : Found ρ}
    (h : s.follow? known? r = some f) : f.ref = r ∧ ∃ b, s.store.get? r = some b ∧ b.id = f.id ∧
      b.content.context = f.context ∧ known? b.content.payload = some f.known := by
  simp only [follow?, Option.bind_eq_bind, Option.bind_eq_some_iff, Option.pure_def,
    Option.some.injEq] at h
  obtain ⟨b, hb, known, hknown, rfl⟩ := h
  exact ⟨rfl, b, hb, rfl, rfl, hknown⟩

omit [Driver δ] in
theorem AtHome.context_eq_of_follow? (h : s.AtHome) {known? : Payload → Option ρ} {f : Found ρ}
    (hf : s.follow? known? r = some f) : f.context = 0 := by
  obtain ⟨-, b, hb, -, hc, -⟩ := exists_box_of_follow? hf
  exact hc.symm.trans (h.objects _ _ hb)

omit [Driver δ] in
theorem follow?_of_find? {known? : Payload → Option ρ} {f : Found ρ}
    (h : s.find? known? name = some f) : s.vars.get? name = some (.object f.ref) ∧
      s.follow? known? f.ref = some f := by
  unfold find? at h
  split at h
  · rename_i r hr
    obtain ⟨rfl, -⟩ := exists_box_of_follow? h
    exact ⟨hr, h⟩
  · cases h

omit [Driver δ] in
theorem AtHome.context_eq (h : s.AtHome) {known? : Payload → Option ρ} {f : Found ρ}
    (hf : s.find? known? name = some f) : f.context = 0 :=
  h.context_eq_of_follow? (follow?_of_find? hf).2

/-! ## What an operation does -/

omit [Driver δ] in
/-- The object has the name that it had, and nothing else is attached to it unless it is edited. -/
structure Kept (edited : Prop) (b b' : Box Object) : Prop where
  id : b'.id = b.id
  framebuffer : ∀ f, ¬ edited → b'.content.payload = .framebuffer f →
    b.content.payload = .framebuffer f

omit [Driver δ] in
/-- What became of the boxes of a store. Nothing is attached to new framebuffers. -/
def Inherits (edited : Ref → Prop) (store store' : Store Object) : Prop :=
  ∀ r b', store'.get? r = some b' →
    (∃ b, store.get? r = some b ∧ Kept (edited r) b b') ∨
    store.next ≤ r ∧
      ∀ f, ¬ edited r → b'.content.payload = .framebuffer f → f.attachments = .empty

omit [Driver δ] in
theorem Kept.of_same {p : Prop} {b' : Box Object} (h : b.Same b') : Kept p b b' :=
  ⟨h.id, fun _ _ hf => h.content ▸ hf⟩

omit [Driver δ] in
theorem Inherits.of_same {store store' : Store Object}
    (h : ∀ r b', store'.get? r = some b' → ∃ b, store.get? r = some b ∧ b.Same b') :
    Inherits edited store store' := by
  intro r b' hb'
  obtain ⟨b, hb, hsame⟩ := h r b' hb'
  exact .inl ⟨b, hb, .of_same hsame⟩

omit [Driver δ] in
theorem Inherits.refl (store : Store Object) : Inherits edited store store :=
  .of_same fun _ b' hb' => ⟨b', hb', .refl b'⟩

/-- The context does what a routine does. Framebuffers that are not edited are those that there were
before, or new ones to which nothing is attached. -/
structure Passes (sent : Request → Option Site → Prop) (edited : Ref → Prop) (s s' : Session δ) :
    Prop where
  home : s'.AtHome
  work : ∃ act : ContextM δ Unit, Routine sent act ∧ s'.enter 0 = (act (s.enter 0)).2
  next : s.store.next ≤ s'.store.next
  boxes : Inherits edited s.store s'.store

theorem Passes.trans (h : s.Passes sent edited s') (h' : s'.Passes sent edited s'') :
    s.Passes sent edited s'' where
  home := h'.home
  work := by
    obtain ⟨act, hact, he⟩ := h.work
    obtain ⟨act', hact', he'⟩ := h'.work
    refine ⟨do act; act', .bind hact fun _ => hact', ?_⟩
    rw [he', he]
    rfl
  next := h.next.trans h'.next
  boxes r b'' hb'' := by
    rcases h'.boxes r b'' hb'' with ⟨b', hb', hkept'⟩ | ⟨hnext, hf⟩
    · rcases h.boxes r b' hb' with ⟨b, hb, hkept⟩ | ⟨hnext, hf⟩
      · exact .inl ⟨b, hb, hkept'.id.trans hkept.id,
          fun f hr hp => hkept.framebuffer f hr (hkept'.framebuffer f hr hp)⟩
      · exact .inr ⟨hnext, fun f hr hp => hf f hr (hkept'.framebuffer f hr hp)⟩
    · exact .inr ⟨h.next.trans hnext, hf⟩

/-- Something that does nothing in the context. -/
theorem Passes.of_enter (hh : s'.AtHome) (he : s'.enter 0 = s.enter 0)
    (hn : s.store.next ≤ s'.store.next) (hk : Inherits edited s.store s'.store) :
    s.Passes sent edited s' :=
  ⟨hh, ⟨Pure.pure (), .pure (), he⟩, hn, hk⟩

theorem Passes.refl (h : s.AtHome) : s.Passes sent edited s := .of_enter h rfl le_rfl (.refl _)

theorem AtHome.setVariables (h : s.AtHome) (vars : Table String Held)
    (hv : ∀ name c g, vars.get? name = some (.guard c g) → c = 0) :
    s.Passes sent edited { s with vars } :=
  .of_enter ⟨h.single, h.objects, hv, h.below⟩ rfl le_rfl (.refl _)

/-- The store holds boxes of before, with other counts. -/
theorem AtHome.recount (h : s.AtHome) {store : Store Object} (hn : s.store.next ≤ store.next)
    (hs : ∀ r b', store.get? r = some b' → ∃ b, s.store.get? r = some b ∧ b.Same b') :
    s.Passes sent edited { s with store } := by
  refine .of_enter ⟨h.single, fun r b' hb' => ?_, h.guards, fun r b' hb' => ?_⟩ rfl hn (.of_same hs)
  · obtain ⟨b, hb, hsame⟩ := hs r b' hb'
    rw [hsame.content]
    exact h.objects r b hb
  · obtain ⟨b, hb, -⟩ := hs r b' hb'
    exact Nat.lt_of_lt_of_le (h.below r b hb) hn

theorem AtHome.add (h : s.AtHome) (id : Id) (assigned : Bool) {o : Object} (ho : o.context = 0)
    (hf : ∀ f, o.payload = .framebuffer f → f.attachments = .empty) :
    s.Passes sent edited { s with store := (s.store.add id assigned o).2 } := by
  have hget (r : Ref) (b' : Box Object) (hb' : (s.store.add id assigned o).2.get? r = some b') :
      s.store.get? r = some b' ∨ r = s.store.next ∧ b'.content = o := by
    rw [Store.get?_add] at hb'
    split at hb'
    · rename_i hr
      cases hb'
      exact .inr ⟨hr, rfl⟩
    · exact .inl hb'
  refine .of_enter ⟨h.single, fun r b' hb' => ?_, h.guards, fun r b' hb' => ?_⟩ rfl (Nat.le_succ _)
    fun r b' hb' => ?_
  · rcases hget r b' hb' with hold | ⟨-, hnew⟩
    · exact h.objects r b' hold
    · rw [hnew, ho]
  · rcases hget r b' hb' with hold | ⟨rfl, -⟩
    · exact Nat.lt_succ_of_lt (h.below r b' hold)
    · exact Nat.lt_succ_self _
  · rcases hget r b' hb' with hold | ⟨rfl, hnew⟩
    · exact .inl ⟨b', hold, .of_same (.refl b')⟩
    · exact .inr ⟨le_rfl, fun f _ hp => hf f (hnew ▸ hp)⟩

end Session

/-- The work does what routines do, in sessions with one context. -/
def SessionM.Passing (sent : Request → Option Site → Prop) (edited : Ref → Prop)
    (act : SessionM δ α) : Prop :=
  ∀ s : Session δ, s.AtHome → s.Passes sent edited (act s).2

namespace SessionM

theorem Passing.pure (a : α) : Passing sent edited (Pure.pure a : SessionM δ α) :=
  fun _ h => .refl h

theorem Passing.get : Passing sent edited (MonadState.get : SessionM δ (Session δ)) :=
  fun _ h => .refl h

theorem Passing.bind {x : SessionM δ α} {f : α → SessionM δ β} (hx : Passing sent edited x)
    (hf : ∀ a, Passing sent edited (f a)) : Passing sent edited (x >>= f) :=
  fun s h => (hx s h).trans (hf _ _ (hx s h).home)

theorem passing_inContext {act : ContextM δ α} {c : ContextId} (hc : c = 0)
    (h : Routine sent act) : Passing sent edited (inContext c act) := by
  subst hc
  exact fun s hs => {
    home := ⟨Session.length_leave hs.single _, hs.objects, hs.guards, hs.below⟩
    work := ⟨do let _ ← act; Pure.pure (), .bind h fun _ => .pure _,
      Session.enter_leave hs.single _⟩
    next := le_rfl
    boxes := .refl _ }

theorem passing_retain (r : Ref) : Passing sent edited (retain r : SessionM δ Unit) :=
  fun _ h => h.recount le_rfl fun _ _ hb' => get?_recount hb' fun _ => ⟨rfl, rfl, rfl⟩

/-- What is known of an object may change, but what is attached to a framebuffer only if the
framebuffer is edited. -/
theorem passing_setPayload {r : Ref} {p : Payload}
    (hp : ∀ f, p = .framebuffer f → edited r) :
    Passing sent edited (setPayload r p : SessionM δ Unit) := by
  intro s h
  have hget {q : Ref} {b' : Box Object}
      (hb' : (setPayload r p s).2.store.get? q = some b') :
      ∃ b, s.store.get? q = some b ∧ b'.content.context = b.content.context ∧ b'.id = b.id ∧
        (b.Same b' ∨ q = r ∧ b'.content.payload = p) := by
    change (s.store.modify r _).get? q = some b' at hb'
    rw [Store.get?_modify] at hb'
    split at hb'
    · rename_i hq
      obtain ⟨b, hb, rfl⟩ := Option.map_eq_some_iff.mp hb'
      exact ⟨b, hb, rfl, rfl, .inr ⟨hq, rfl⟩⟩
    · exact ⟨b', hb', rfl, rfl, .inl (.refl b')⟩
  refine .of_enter ⟨h.single, fun q b' hb' => ?_, h.guards, fun q b' hb' => ?_⟩ rfl le_rfl
    fun q b' hb' => ?_
  · obtain ⟨b, hb, hc, -⟩ := hget hb'
    exact hc.trans (h.objects q b hb)
  · obtain ⟨b, hb, -⟩ := hget hb'
    exact h.below q b hb
  · obtain ⟨b, hb, -, hid, hsame | ⟨rfl, hp'⟩⟩ := hget hb'
    · exact .inl ⟨b, hb, .of_same hsame⟩
    · exact .inl ⟨b, hb, hid, fun f hq hf => absurd (hp f (hp'.symm.trans hf)) hq⟩

/-! ## Giving back -/

/-- What may be asked for by any operation: binds, creation, destruction and the rest of the
requests that attach nothing and give no buffer a store. -/
abbrev Allows (sent : Request → Option Site → Prop) : Prop :=
  ∀ q at?, Apartly False q at? → sent q at?

theorem passing_destroyBox {b : Box Object} (hs : Allows sent) (hc : b.content.context = 0) :
    Passing sent edited (destroyBox b : SessionM δ Unit) := by
  unfold destroyBox
  split
  · exact .pure _
  · exact passing_inContext hc ((routine_destroy _ _).mono hs)

theorem Passing.forM {xs : List α} {f : α → SessionM δ PUnit}
    (h : ∀ x ∈ xs, Passing sent edited (f x)) : Passing sent edited (xs.forM f) := by
  induction xs with
  | nil => exact .pure _
  | cons x xs ih =>
      exact .bind (h x List.mem_cons_self) fun _ => ih fun y hy => h y (List.mem_cons_of_mem _ hy)

theorem passing_giveBack (hs : Allows sent) (rs : List Ref) :
    Passing sent edited (giveBack rs : SessionM δ Unit) := by
  intro s h
  have hrelease : s.Passes sent edited { s with store := (s.store.release rs).2 } :=
    h.recount (next_release s.store rs).ge fun _ _ => get?_release
  have hdestroyed : Passing sent edited
      ((s.store.release rs).1.forM destroyBox : SessionM δ PUnit) := by
    refine .forM fun z hz => passing_destroyBox hs ?_
    obtain ⟨r, b, hb, hz⟩ := exists_of_mem_release hz
    rw [hz]
    exact h.objects r b hb
  exact hrelease.trans (hdestroyed _ hrelease.home)

theorem passing_dropHeld (hs : Allows sent) {held : Held}
    (hc : ∀ c g, held = .guard c g → c = 0) :
    Passing sent edited (dropHeld held : SessionM δ Unit) := by
  cases held with
  | object r => exact passing_giveBack hs [r]
  | guard c g =>
      refine passing_inContext (hc c g rfl) (routine_release ?_ fun i => ?_)
      · exact fun unit => hs _ _ (activates_apartly unit)
      · exact hs _ _ (apartly_bind _ i)

theorem passing_setVariable (hs : Allows sent) (name : String) {held : Held}
    (hc : ∀ c g, held = .guard c g → c = 0) :
    Passing sent edited (setVariable name held : SessionM δ Unit) := by
  intro s h
  have hinsert : s.Passes sent edited { s with vars := s.vars.insert name held } := by
    refine h.setVariables _ fun name' c g hg => ?_
    rw [Table.get?_insert] at hg
    split at hg
    · exact hc c g (Option.some.inj hg)
    · exact h.guards name' c g hg
  cases hold : s.vars.get? name with
  | none =>
      have hrun : setVariable name held s = ((), { s with vars := s.vars.insert name held }) := by
        simp only [setVariable, bind_apply, get_apply, modify_apply, hold]
        rfl
      rw [hrun]
      exact hinsert
  | some old =>
      have hrun : setVariable name held s =
          dropHeld old { s with vars := s.vars.insert name held } := by
        simp only [setVariable, bind_apply, get_apply, modify_apply, hold]
      rw [hrun]
      have hdrop : Passing sent edited (dropHeld old : SessionM δ Unit) :=
        passing_dropHeld hs fun c g he => h.guards name c g (he ▸ hold)
      exact hinsert.trans (hdrop _ hinsert.home)

/-! ## Creation -/

theorem passing_adopt {c : ContextId} (hc : c = 0) {p : Payload}
    (hp : ∀ f, p = .framebuffer f → f.attachments = .empty)
    {made : ContextM δ (Except Failure Id)} (h : Routine sent made) :
    Passing sent edited (adopt c p made) := by
  refine .bind (passing_inContext hc h) fun made => ?_
  cases made with
  | error e => exact .pure _
  | ok id => exact fun s hs => hs.add id true hc hp

theorem passing_newObject (hs : Allows sent) {c : ContextId} (hc : c = 0) {p : Payload}
    (hp : ∀ f, p = .framebuffer f → f.attachments = .empty) :
    Passing sent edited (newObject c p : SessionM δ _) :=
  passing_adopt hc hp ((routine_createObject _).mono hs)

theorem passing_newFramebuffer (hs : Allows sent) {c : ContextId} (hc : c = 0)
    (target : FramebufferTarget) : Passing sent edited (newFramebuffer c target : SessionM δ _) :=
  .bind .get fun _ => passing_newObject hs hc (by rintro _ ⟨⟩; rfl)

theorem passing_newShader (hs : Allows sent) {c : ContextId} (hc : c = 0) (stage : ShaderStage) :
    Passing sent edited (newShader c stage : SessionM δ _) :=
  passing_adopt (p := .shader { stage }) hc nofun ((routine_createShader stage).mono hs)

theorem passing_newProgram (hs : Allows sent) {c : ContextId} (hc : c = 0) :
    Passing sent edited (newProgram c : SessionM δ _) :=
  passing_adopt (p := .program {}) hc nofun (routine_createProgram.mono hs)

theorem Passing.andThen {made : SessionM δ (Except Failure (Ref × Id))}
    {act : Ref → Id → SessionM δ Unit} (h : Passing sent edited made)
    (hact : ∀ r id, Passing sent edited (act r id)) :
    Passing sent edited (SessionM.andThen made act) := by
  refine .bind h fun made => ?_
  cases made with
  | error e => exact .pure _
  | ok x => exact .bind (hact x.1 x.2) fun _ => .pure _

theorem passing_newBufferWithData (hs : ∀ q at?, Apartly True q at? → sent q at?) {c : ContextId}
    (hc : c = 0) (target : BufferTarget) (data : Bytes) (usage : BufferUsage) :
    Passing sent edited (newBufferWithData c target data usage : SessionM δ _) := by
  have hallows : Allows sent := fun q at? hq => hs q at? ⟨⟨fun _ => trivial, hq.1.2⟩, hq.2⟩
  refine .andThen (passing_newObject hallows hc nofun) fun r id => ?_
  refine .bind (passing_inContext hc ((Buffer.apartly_setData _ data usage).mono hs)) fun b => ?_
  exact passing_setPayload nofun

theorem passing_newRenderbufferWithStorage (hs : Allows sent) {c : ContextId} (hc : c = 0)
    (internalFormat : Enumerant) (width height : Nat) :
    Passing sent edited
      (newRenderbufferWithStorage c internalFormat width height : SessionM δ _) := by
  refine .andThen (passing_newObject hs hc nofun) fun _ id => passing_inContext hc ?_
  exact (Renderbuffer.routine_run (.setStorage internalFormat width height 0)).apart.mono hs

theorem passing_screen {c : ContextId} (hc : c = 0) :
    Passing sent edited (screen c : SessionM δ (Ref × Id)) :=
  fun _ hs => hs.add 0 false hc (by rintro _ ⟨⟩; rfl)

theorem passing_newShaderWithSource (hs : Allows sent) {c : ContextId} (hc : c = 0)
    (stage : ShaderStage) (source : String) :
    Passing sent edited (newShaderWithSource c stage source : SessionM δ _) := by
  refine .andThen (passing_newShader hs hc stage) fun r id =>
    .bind (passing_inContext hc ?_) fun sh => passing_setPayload nofun
  refine .bind ((Shader.routine_setSource _ source).apart.mono hs) fun sh => ?_
  exact sh.routine_compile.apart.mono hs

theorem passing_newShaderFromFile (hs : Allows sent) {c : ContextId} (hc : c = 0)
    (stage : ShaderStage) (contents : Option Bytes) :
    Passing sent edited (newShaderFromFile c stage contents : SessionM δ _) := by
  unfold newShaderFromFile
  split
  · exact .pure _
  · exact passing_newShaderWithSource hs hc stage _

/-! ## Objects that are tied together -/

theorem passing_attach (hs : Allows sent) {fb : Found Framebuffer} (hc : fb.context = 0)
    (point : Attachment) (object : Ref) {q : Request} {site : Site} (hq : sent q (some site)) :
    Passing sent (· = fb.ref) (attach fb point object q site : SessionM δ Unit) := by
  have hunit : Activates sent := fun unit => hs _ _ (activates_apartly unit)
  have hbind (slot : Slot) (i : Id) : sent (.bind slot i) none := hs _ _ (apartly_bind slot i)
  refine .bind (passing_inContext hc (routine_acquire hunit (hbind _ _))) fun g => ?_
  refine .bind (passing_inContext hc (.bind (.command hq) fun _ => .pure _)) fun _ => ?_
  refine .bind (passing_retain object) fun _ => ?_
  refine .bind (passing_setPayload fun _ _ => rfl) fun _ => ?_
  exact .bind (passing_giveBack hs _) fun _ =>
    passing_inContext hc (routine_release hunit (hbind _))

theorem passing_attachRenderbuffer (hs : Allows sent) {fb : Found Framebuffer}
    (hc : fb.context = 0) (point : Attachment) (rb : Found Unit) (hq : ∀ id, sent
      (.framebufferRenderbuffer fb.known.target point id) (some .attachingRenderbuffer)) :
    Passing sent (· = fb.ref) (attachRenderbuffer fb point rb : SessionM δ Unit) :=
  passing_attach hs hc point rb.ref (hq rb.id)

theorem passing_attachTexture (hs : Allows sent) {fb : Found Framebuffer} (hc : fb.context = 0)
    (point : Attachment) (t : Found Texture) (part : Framebuffer.TexturePart)
    (hq : ∀ image id level layer, sent
      (.framebufferTexture fb.known.target point image id level layer) (some .attachingTexture)) :
    Passing sent (· = fb.ref) (attachTexture fb point t part : SessionM δ _) := by
  unfold attachTexture
  cases he : fb.known.textureRequest point part t.known.target t.id with
  | error e => exact .pure _
  | ok q =>
      obtain ⟨image, level, layer, rfl⟩ := Framebuffer.of_textureRequest he
      exact .bind (passing_attach hs hc point t.ref (hq ..)) fun _ => .pure _

theorem passing_keepBuffer (vao : Found VertexArray) (buffer : Ref) :
    Passing sent edited (keepBuffer vao buffer : SessionM δ Unit) := by
  unfold keepBuffer
  split
  · exact .pure _
  · exact .bind (passing_retain buffer) fun _ => passing_setPayload nofun

theorem passing_setPointer (hs : Allows sent) {vao : Found VertexArray} (hc : vao.context = 0)
    (b : Found Buffer) (layout : VertexAttribute) :
    Passing sent edited (setPointer vao b layout : SessionM δ Unit) :=
  .bind (passing_inContext hc ((VertexArray.routine_setPointer _ layout).apart.mono hs)) fun _ =>
    passing_keepBuffer vao b.ref

theorem passing_setIndexBuffer (hs : Allows sent) {vao : Found VertexArray} (hc : vao.context = 0)
    (b : Found Buffer) : Passing sent edited (setIndexBuffer vao b : SessionM δ Unit) :=
  .bind (passing_inContext hc ((VertexArray.routine_setIndexBuffer _).mono hs)) fun _ =>
    passing_keepBuffer vao b.ref

theorem passing_ensureCompiled (hs : Allows sent) {sh : Found Shader} (hc : sh.context = 0) :
    Passing sent edited (ensureCompiled sh : SessionM δ Unit) := by
  unfold ensureCompiled
  split
  · exact .pure _
  · exact .bind (passing_inContext hc (sh.known.routine_compile.apart.mono hs)) fun _ =>
      passing_setPayload nofun

theorem passing_attachShader (hs : Allows sent) {p : Found Program} {sh : Found Shader}
    (hp : p.context = 0) (hsh : sh.context = 0) :
    Passing sent edited (attachShader p sh : SessionM δ Unit) := by
  refine .bind (passing_ensureCompiled hs hsh) fun _ => ?_
  refine .bind (passing_inContext hp (.command (hs _ _ ⟨⟨False.elim, nofun⟩, nofun, rfl⟩)))
    fun _ => ?_
  split
  · exact .pure _
  · exact .bind (passing_retain sh.ref) fun _ => passing_setPayload nofun

theorem passing_detachShader (hs : Allows sent) {p : Found Program} (hp : p.context = 0)
    (sh : Found Shader) : Passing sent edited (detachShader p sh : SessionM δ Unit) := by
  refine .bind (passing_inContext hp (.command (hs _ _ ⟨⟨False.elim, nofun⟩, nofun, rfl⟩)))
    fun _ => ?_
  exact .bind (passing_setPayload nofun) fun _ => passing_giveBack hs _

theorem passing_attachShaderAt (hs : Allows sent) (program shader : Ref) :
    Passing sent edited (attachShaderAt program shader : SessionM δ Unit) := by
  intro s h
  simp only [attachShaderAt, bind_apply, get_apply]
  cases hp : s.follow? Payload.program? program with
  | none => exact .refl h
  | some p =>
      cases hsh : s.follow? Payload.shader? shader with
      | none => exact .refl h
      | some sh =>
          exact passing_attachShader hs (h.context_eq_of_follow? hp) (h.context_eq_of_follow? hsh)
            s h

theorem passing_linkAt (hs : Allows sent) (program : Ref) :
    Passing sent edited (linkAt program : SessionM δ Unit) := by
  intro s h
  simp only [linkAt, bind_apply, get_apply]
  cases hp : s.follow? Payload.program? program with
  | none => exact .refl h
  | some p =>
      have hlink : Passing sent edited (do
          let linked ← inContext p.context (p.known.link p.id)
          setPayload p.ref (.program linked) : SessionM δ Unit) :=
        .bind (passing_inContext (h.context_eq_of_follow? hp)
          ((Program.routine_link _).mono hs)) fun _ => passing_setPayload nofun
      exact hlink s h

theorem passing_newProgramWithShaders (hs : Allows sent) {c : ContextId} (hc : c = 0)
    (shaders : List Ref) :
    Passing sent edited (newProgramWithShaders c shaders : SessionM δ _) := by
  refine .andThen (passing_newProgram hs hc) fun r _ => ?_
  exact .bind (.forM fun sh _ => passing_attachShaderAt hs r sh) fun _ => passing_linkAt hs r

end SessionM

end GraphicsObjects
