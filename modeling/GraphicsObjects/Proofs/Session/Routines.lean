import GraphicsObjects.Proofs.Session.Passing

/-!
# Operations as routines

Whatever the driver is, an operation of a client does to the one context what a routine does, and
what is attached to a framebuffer changes only where something is attached to it.
-/

namespace GraphicsObjects

open Ownership ContextM SessionM

variable {δ : Type} [Driver δ] {α ρ : Type} {sent : Request → Option Site → Prop}
variable {edited : Ref → Prop} {fills : Prop}

/-- The operation neither polls nor passes a request of the client on. -/
def ContextOp.IsOwn : ContextOp → Prop
  | pollError | request _ => False
  | _ => True

namespace Op

/-- The operation goes through the one context and does not poll. -/
def IsOwn : Op → Prop
  | addContext _ => False
  | context _ op => op.IsOwn
  | _ => True

/-- The framebuffer to which something is to be attached. -/
def framebuffer? : Op → Option String
  | attachRenderbuffer target .. | attachTexture target .. => some target
  | _ => none

/-- The sites of the checks in an operation. -/
def site? : Op → Request → Option Site
  | buffer _ op => op.site?
  | framebuffer _ op => op.site?
  | _ => Request.site?

/-- What an operation may send: requests that attach something only if that is what it is for. -/
abbrev Sends (op : Op) : Request → Option Site → Prop :=
  Request.By (fun q => q.Attaches → op.framebuffer?.isSome) op.site?

variable {op : Op}

theorem sends_of_apartly (hsite : op.site? = Request.site?) (q : Request) (at? : Option Site)
    (h : Apartly True q at?) : op.Sends q at? :=
  ⟨fun ha => absurd ha h.1.2, h.2.1, hsite ▸ h.2.2⟩

theorem allows (hsite : op.site? = Request.site?) : Allows op.Sends :=
  fun q at? h => sends_of_apartly hsite q at? ⟨⟨fun _ => trivial, h.1.2⟩, h.2⟩

/-- The client takes an error out of the queue. -/
def Polls : Op → Prop
  | context _ .pollError => True
  | _ => False

theorem IsOwn.not_polls (h : op.IsOwn) : ¬ op.Polls := by
  cases op with
  | context c op =>
      cases op with
      | pollError => exact h.elim
      | _ => exact id
  | _ => exact id

theorem Polls.eq (h : op.Polls) : ∃ c, op = .context c .pollError := by
  cases op with
  | context c op =>
      cases op with
      | pollError => exact ⟨c, rfl⟩
      | _ => exact h.elim
  | _ => exact h.elim

end Op

theorem ContextOp.routine_run {op : ContextOp} (h : op.IsOwn) :
    Routine (Apartly fills) (op.run : ContextM δ op.Answer) := by
  cases op with
  | config | activeBinding | isBound => exact .bind .get fun _ => .pure _
  | bind slot id => exact routine_bind activates_apartly (apartly_bind _ _)
  | unbind slot => exact routine_bind activates_apartly (apartly_bind _ _)
  | interrupted slot id => exact apartly_holding slot id (.pure ())
  | invalidateBinding slot => exact .updateCache fun cache => cache.invalidate slot
  | invalidateBindings => exact .bind (.note rfl) fun _ => .updateCache _
  | getInteger => exact (routine_getInteger _).apart
  | maxTextureUnits => exact routine_maxTextureUnits.apart
  | pixelStore => exact (routine_pixelStore _).apart
  | clear | clearColor | viewport => exact .command ⟨⟨False.elim, nofun⟩, nofun, rfl⟩
  | pollError | request => exact h.elim

namespace Session

variable {s s' : Session δ} {name : String} {a : α} {op : Op}
variable {known? : Payload → Option ρ} {payload : ρ → Payload}

omit [Driver δ] in
/-- The framebuffer to which an operation attaches something. -/
def Edits (s : Session δ) (op : Op) (r : Ref) : Prop :=
  ∃ name, op.framebuffer? = some name ∧ s.vars.get? name = some (.object r)

theorem Passes.mono {edited' : Ref → Prop} (h : s.Passes sent edited s')
    (he : ∀ r, edited r → edited' r) : s.Passes sent edited' s' :=
  ⟨h.home, h.work, h.next, fun r b' hb' => (h.boxes r b' hb').imp
    (fun ⟨b, hb, hkept⟩ => ⟨b, hb, hkept.id, fun f hr => hkept.framebuffer f (mt (he r) hr)⟩)
    fun ⟨hnext, hf⟩ => ⟨hnext, fun f hr => hf f (mt (he r) hr)⟩⟩

theorem passes_onObject {act : Id → ρ → ContextM δ (α × ρ)}
    (hs : s.onObject known? payload name act = some (a, s')) (h : s.AtHome)
    (hact : ∀ id known, Routine sent (act id known))
    (hp : ∀ known f, payload known ≠ .framebuffer f) : s.Passes sent edited s' := by
  obtain ⟨f, hf, -, rfl⟩ := onObject_eq hs
  have hwork : s.Passes sent edited (inContext f.context (act f.id f.known) s).2 :=
    passing_inContext (h.context_eq hf) (hact f.id f.known) s h
  exact hwork.trans (passing_setPayload (fun f' he => absurd he (hp _ f')) _ hwork.home)

theorem passes_inContextOf {act : Id → ρ → ContextM δ α}
    (hs : s.inContextOf known? name act = some (a, s')) (h : s.AtHome)
    (hact : ∀ id known, Routine sent (act id known)) : s.Passes sent edited s' := by
  obtain ⟨f, hf, rfl⟩ := of_lookup hs
  exact passing_inContext (h.context_eq hf) (hact f.id f.known) s h

theorem passes_rebind {bound : Bool} {answer : Unit} (hs : s.rebind name bound = some (answer, s'))
    (h : s.AtHome) (hallows : Allows sent) : s.Passes sent edited s' := by
  simp only [Session.rebind, Option.bind_eq_bind, Option.bind_eq_some_iff, Option.pure_def,
    Option.some.injEq] at hs
  obtain ⟨⟨r, b⟩, hb, slot, -, he⟩ := hs
  obtain rfl : _ = s' := congrArg Prod.snd he
  refine passing_inContext (h.objects _ _ (get?_of_box? hb).2) (routine_bind ?_ ?_) s h
  · exact fun unit => hallows _ _ (activates_apartly unit)
  · exact hallows _ _ (apartly_bind _ _)

theorem passes_draw {program vertexArray : String} {q : Request} {site : Site} {answer : Unit}
    (hs : s.draw program vertexArray (fun p v => Program.draw p v q site) = some (answer, s'))
    (h : s.AtHome) (hallows : Allows sent) (hq : sent q (some site)) :
    s.Passes sent edited s' := by
  obtain ⟨p, v, hp, -, rfl⟩ := of_lookups hs
  refine passing_inContext (h.context_eq hp) (Program.routine_draw v.id ?_ hq) s h
  exact fun slot i _ => hallows _ _ (apartly_bind slot i)

theorem passes_make {c : ContextId} {what : Creation} {made : Except Failure (Ref × Id)}
    (hm : s.make c what = some (made, s')) (h : s.AtHome) (hc : c = 0)
    (hs : ∀ q at?, Apartly True q at? → sent q at?) : s.Passes sent edited s' := by
  have hallows : Allows sent := fun q at? hq => hs q at? ⟨⟨fun _ => trivial, hq.1.2⟩, hq.2⟩
  have of_eq {act : SessionM δ (Except Failure (Ref × Id))} (hact : Passing sent edited act)
      (he : some (act s) = some (made, s')) : s.Passes sent edited s' := by
    obtain rfl : _ = s' := congrArg Prod.snd (Option.some.inj he)
    exact hact s h
  cases what with
  | buffer | texture | renderbuffer | vertexArray =>
      refine of_eq (passing_newObject hallows hc ?_) hm
      rintro _ ⟨⟩
  | framebuffer target => exact of_eq (passing_newFramebuffer hallows hc target) hm
  | bufferWithData target data usage =>
      exact of_eq (passing_newBufferWithData hs hc target data.bytes usage) hm
  | renderbufferWithStorage internalFormat width height =>
      exact of_eq (passing_newRenderbufferWithStorage hallows hc internalFormat width height) hm
  | screen =>
      cases hm
      exact passing_screen hc s h
  | shader stage => exact of_eq (passing_newShader hallows hc stage) hm
  | shaderWithSource stage source =>
      exact of_eq (passing_newShaderWithSource hallows hc stage source) hm
  | shaderFromFile stage contents =>
      exact of_eq (passing_newShaderFromFile hallows hc stage contents) hm
  | program => exact of_eq (passing_newProgram hallows hc) hm
  | programWithShaders shaders =>
      simp only [Session.make, Option.bind_eq_bind, Option.bind_eq_some_iff, Option.pure_def] at hm
      obtain ⟨found, -, he⟩ := hm
      exact of_eq (passing_newProgramWithShaders hallows hc _) he

theorem passes_create {c : ContextId} {what : Creation} {made : Except Failure Id}
    (hs : s.create name c what = some (made, s')) (h : s.AtHome) (hc : c = 0)
    (hsent : ∀ q at?, Apartly True q at? → sent q at?) : s.Passes sent edited s' := by
  have hallows : Allows sent := fun q at? hq => hsent q at? ⟨⟨fun _ => trivial, hq.1.2⟩, hq.2⟩
  simp only [Session.create, Option.bind_eq_bind, Option.bind_eq_some_iff] at hs
  obtain ⟨⟨made', s₁⟩, hm, he⟩ := hs
  have hmake : s.Passes sent edited s₁ := passes_make hm h hc hsent
  cases made' with
  | error e =>
      cases he
      exact hmake
  | ok x =>
      cases he
      refine hmake.trans (passing_setVariable hallows _ ?_ _ hmake.home)
      rintro _ _ ⟨⟩

/-- Every operation that goes through the one context does what a routine of its own does. -/
theorem AtHome.step (h : s.AtHome) (ho : op.IsOwn) {answer : op.Answer}
    (hs : s.step op = some (answer, s')) : s.Passes op.Sends (s.Edits op) s' := by
  cases op with
  | addContext config => exact ho.elim
  | context c op =>
      simp only [Session.step, h.single] at hs
      split at hs
      · rename_i hc
        obtain rfl : _ = s' := congrArg Prod.snd (Option.some.inj hs)
        have hrun : Routine (Apartly False) (op.run : ContextM δ op.Answer) :=
          ContextOp.routine_run ho
        exact passing_inContext (Nat.lt_one_iff.mp hc) (hrun.mono (Op.allows rfl)) s h
      · cases hs
  | acquire name c slot id =>
      simp only [Session.step, h.single] at hs
      split at hs
      · rename_i hc
        obtain rfl := Nat.lt_one_iff.mp hc
        obtain rfl : _ = s' := congrArg Prod.snd (Option.some.inj hs)
        have hallows : Allows (Op.acquire name 0 slot id).Sends := Op.allows rfl
        have hwork : s.Passes (Op.acquire name 0 slot id).Sends
            (s.Edits (.acquire name 0 slot id))
            (inContext 0 (ContextM.acquire slot id) s).2 :=
          passing_inContext rfl (routine_acquire (fun unit => hallows _ _ (activates_apartly unit))
            (hallows _ _ (apartly_bind _ _))) s h
        exact hwork.trans (passing_setVariable hallows _ (by rintro _ _ ⟨⟩; rfl) _ hwork.home)
      · cases hs
  | create name c what =>
      simp only [Session.step, h.single] at hs
      split at hs
      · rename_i hc
        exact passes_create hs h (Nat.lt_one_iff.mp hc) (Op.sends_of_apartly rfl)
      · cases hs
  | clone source name =>
      simp only [Session.step, Option.bind_eq_bind, Option.bind_eq_some_iff, Option.pure_def] at hs
      obtain ⟨⟨r, b⟩, -, he⟩ := hs
      obtain rfl : _ = s' := congrArg Prod.snd (Option.some.inj he)
      have hretain : s.Passes (Op.clone source name).Sends (s.Edits (.clone source name))
          (SessionM.retain r s).2 :=
        passing_retain r s h
      refine hretain.trans (passing_setVariable (Op.allows rfl) _ ?_ _ hretain.home)
      rintro _ _ ⟨⟩
  | drop target =>
      obtain ⟨held, hheld, rfl⟩ := of_lookup hs
      have herased : s.Passes (Op.drop target).Sends (s.Edits (.drop target))
          { s with vars := s.vars.erase target } := by
        refine h.setVariables _ fun name c g hg => ?_
        rw [Table.get?_erase] at hg
        split at hg
        · cases hg
        · exact h.guards name c g hg
      refine herased.trans (passing_dropHeld (Op.allows rfl) ?_ _ herased.home)
      exact fun c g he => h.guards target c g (he ▸ hheld)
  | bind target | unbind target => exact passes_rebind hs h (Op.allows rfl)
  | info | bufferCount | shaders | attachment =>
      obtain ⟨_, -, rfl⟩ := of_lookup hs
      exact .refl h
  | buffer target op =>
      refine passes_onObject hs h (fun _ b => (b.routine_run op).mono ?_) (by simp)
      exact fun q at? hq => ⟨fun ha => absurd ha hq.1.2, hq.2⟩
  | texture target op =>
      exact passes_onObject hs h
        (fun _ t => (t.routine_run op).apart.mono (Op.allows rfl)) (by simp)
  | renderbuffer target op =>
      simp only [Session.step] at hs
      exact passes_inContextOf hs h fun _ _ =>
        (Renderbuffer.routine_run op).apart.mono (Op.allows rfl)
  | framebuffer target op =>
      refine passes_inContextOf hs h fun _ f => (f.routine_run op).mono ?_
      intro q at? hq
      have hapart : q.Apart False := hq.1.apart
      exact ⟨fun ha => absurd ha hapart.2, hq.2⟩
  | shader target op =>
      exact passes_onObject hs h
        (fun _ sh => (sh.routine_run op).apart.mono (Op.allows rfl)) (by simp)
  | program target op =>
      exact passes_onObject hs h
        (fun _ p => (p.routine_run_apart op).mono (Op.allows rfl)) (by simp)
  | attachRenderbuffer framebuffer point renderbuffer =>
      obtain ⟨fb, rb, hfb, -, rfl⟩ := of_lookups hs
      have hattach : s.Passes (Op.attachRenderbuffer framebuffer point renderbuffer).Sends _
          (SessionM.attachRenderbuffer fb point rb s).2 :=
        passing_attachRenderbuffer (Op.allows rfl) (h.context_eq hfb) point rb
          (fun _ => ⟨fun _ => rfl, by simp, rfl⟩) s h
      exact hattach.mono fun r hr => ⟨framebuffer, rfl, hr ▸ (follow?_of_find? hfb).1⟩
  | attachTexture framebuffer point texture part =>
      obtain ⟨fb, t, hfb, -, rfl⟩ := of_lookups hs
      have hattach : s.Passes (Op.attachTexture framebuffer point texture part).Sends _
          (SessionM.attachTexture fb point t part s).2 :=
        passing_attachTexture (Op.allows rfl) (h.context_eq hfb) point t part
          (fun _ _ _ _ => ⟨fun _ => rfl, by simp, rfl⟩) s h
      exact hattach.mono fun r hr => ⟨framebuffer, rfl, hr ▸ (follow?_of_find? hfb).1⟩
  | enableAttribute vertexArray index enable =>
      simp only [Session.step] at hs
      exact passes_inContextOf hs h fun _ _ =>
        (VertexArray.routine_enableAttribute index enable).apart.mono (Op.allows rfl)
  | setPointer vertexArray buffer layout =>
      obtain ⟨v, b, hv, -, rfl⟩ := of_lookups hs
      exact passing_setPointer (Op.allows rfl) (h.context_eq hv) b layout s h
  | setIndexBuffer vertexArray buffer =>
      obtain ⟨v, b, hv, -, rfl⟩ := of_lookups hs
      exact passing_setIndexBuffer (Op.allows rfl) (h.context_eq hv) b s h
  | attachShader program shader =>
      obtain ⟨p, sh, hp, hsh, rfl⟩ := of_lookups hs
      exact passing_attachShader (Op.allows rfl) (h.context_eq hp) (h.context_eq hsh) s h
  | detachShader program shader =>
      obtain ⟨p, sh, hp, -, rfl⟩ := of_lookups hs
      exact passing_detachShader (Op.allows rfl) (h.context_eq hp) sh s h
  | drawArrays program vertexArray mode first count =>
      simp only [Session.step] at hs
      exact passes_draw (q := .drawArrays mode first count) hs h (Op.allows rfl)
        ⟨False.elim, by simp, rfl⟩
  | drawElements program vertexArray mode count type offset =>
      simp only [Session.step] at hs
      exact passes_draw (q := .drawElements mode count type offset) hs h (Op.allows rfl)
        ⟨False.elim, by simp, rfl⟩

/-- A poll asks for nothing but an error. -/
theorem AtHome.poll (h : s.AtHome) (hp : op.Polls) {answer : op.Answer}
    (hs : s.step op = some (answer, s')) :
    s.Passes (fun q _ => q = .getError) (fun _ => False) s' ∧
      s'.enter 0 = (ContextM.perform .getError (s.enter 0)).2 := by
  obtain ⟨c, rfl⟩ := hp.eq
  simp only [Session.step, h.single] at hs
  split at hs
  · rename_i hc
    obtain rfl := Nat.lt_one_iff.mp hc
    obtain rfl : _ = s' := congrArg Prod.snd (Option.some.inj hs)
    exact ⟨passing_inContext rfl (.bind (.perform rfl) fun _ => .pure _) s h,
      Session.enter_leave h.single _⟩
  · cases hs

end Session

end GraphicsObjects
