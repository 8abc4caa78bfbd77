import GraphicsObjects.Object.Framebuffer
import GraphicsObjects.Object.Texture
import GraphicsObjects.Proofs.Native.Uploads

/-!
# Transfers that are reported and transfers that are issued

A transfer of pixels is checked twice: by the operation before it binds anything, and by the driver
before the call, each with pixel store parameters that it asks for itself. If the library answers
alike both times, both come to the same verdict.
-/

namespace GraphicsObjects

/-- The transfers that a log reports as dropped. -/
def drops (trace : List Event) : List Event :=
  trace.filter fun
    | .droppedTransfer .. => true
    | _ => false

namespace Native

variable {γ α β σ : Type} [EntryPoints γ]

/-! ## Exchanges with the library -/

abbrev Exchange : Type := (c : EntryCall) × c.Answer

/-- A library whose calls are written down with their answers. -/
structure Transcript (γ : Type) where
  library : γ
  exchanges : List Exchange := []

instance : EntryPoints (Transcript γ) where
  call c t :=
    let (a, library) := EntryPoints.call c t.library
    (a, { library, exchanges := t.exchanges ++ [⟨c, a⟩] })

namespace EntryCall

/-- How many extents the image has that a call specifies, if it specifies one. -/
def imageDimensions? : EntryCall → Option Nat
  | texImage1D .. => some 1
  | texImage2D .. => some 2
  | texImage3D .. => some 3
  | _ => none

/-- The call passes client memory to the library for pixels. -/
def isTransfer : EntryCall → Bool
  | texImage1D .. | texImage2D .. | texImage3D .. | readPixels .. => true
  | _ => false

end EntryCall

def transfers (xs : List Exchange) : List EntryCall := (xs.map (·.1)).filter EntryCall.isTransfer

/-- No parameter is answered in two ways. -/
def Steady (xs : List Exchange) : Prop :=
  ∀ (p : Enumerant) (a a' : Option Int),
    (⟨.getInteger p, a⟩ : Exchange) ∈ xs → (⟨.getInteger p, a'⟩ : Exchange) ∈ xs → a = a'

theorem Steady.mono {xs ys : List Exchange} (h : Steady xs) (hs : ∀ x ∈ ys, x ∈ xs) : Steady ys :=
  fun p a a' ha ha' => h p a a' (hs _ ha) (hs _ ha')

theorem transfers_append (xs ys : List Exchange) :
    transfers (xs ++ ys) = transfers xs ++ transfers ys := by
  simp [transfers]

theorem imageDimensions?_texImageCall (target : ImageTarget) (i : ImageSpec) :
    (texImageCall target i).imageDimensions? = some target.dimensions := by
  unfold texImageCall
  rcases dimensions_cases target with h | h | h <;> simp [h, EntryCall.imageDimensions?]

theorem transfers_texImageCall (target : ImageTarget) (i : ImageSpec) :
    [texImageCall target i].filter EntryCall.isTransfer = [texImageCall target i] := by
  unfold texImageCall
  split <;> rfl

/-! ## Questions for parameters -/

/-- The parameter was asked for, and `v` is what became of the answer. -/
def Answered (xs : List Exchange) (p : Enumerant) (v : Int) : Prop :=
  ∃ a : Option Int, (⟨.getInteger p, a⟩ : Exchange) ∈ xs ∧ v = a.getD 0

theorem Answered.mono {xs ys : List Exchange} {p : Enumerant} {v : Int} (h : Answered xs p v)
    (hs : ∀ x ∈ xs, x ∈ ys) : Answered ys p v := by
  obtain ⟨a, ha, hv⟩ := h
  exact ⟨a, hs _ ha, hv⟩

theorem Steady.values_eq {xs : List Exchange} (h : Steady xs) {ps : List Enumerant}
    {vs ws : List Int} (hv : List.Forall₂ (Answered xs) ps vs)
    (hw : List.Forall₂ (Answered xs) ps ws) : vs = ws := by
  induction hv generalizing ws with
  | nil =>
      cases hw
      rfl
  | cons hv _ ih =>
      cases hw with
      | cons hw hws =>
          obtain ⟨a, ha, rfl⟩ := hv
          obtain ⟨a', ha', rfl⟩ := hw
          rw [h _ a a' ha ha', ih hws]

/-- An action that asks the library for one parameter after the other, and changes nothing else
that is looked at. -/
theorem answered_mapM {get : Enumerant → StateM σ Int} (log : σ → List Exchange) (rest : σ → β)
    (hget : ∀ p s, rest (get p s).2 = rest s ∧ ∃ a : Option Int,
      log (get p s).2 = log s ++ [⟨.getInteger p, a⟩] ∧ (get p s).1 = a.getD 0)
    (ps : List Enumerant) (s : σ) : rest (ps.mapM get s).2 = rest s ∧ ∃ xs,
      log (ps.mapM get s).2 = log s ++ xs ∧ transfers xs = [] ∧
        List.Forall₂ (Answered xs) ps (ps.mapM get s).1 := by
  induction ps generalizing s with
  | nil => exact ⟨rfl, [], (List.append_nil _).symm, rfl, .nil⟩
  | cons p ps ih =>
      obtain ⟨hrest, a, hlog, hv⟩ := hget p s
      obtain ⟨hrest', xs, hlog', htransfers, hvs⟩ := ih (get p s).2
      rw [List.mapM_cons]
      refine ⟨hrest'.trans hrest, ⟨.getInteger p, a⟩ :: xs, ?_, ?_, ?_⟩
      · refine hlog'.trans ?_
        rw [hlog, List.append_assoc]
        rfl
      · exact htransfers
      · refine .cons ⟨a, List.mem_cons_self, hv⟩ ?_
        exact hvs.imp fun _ _ h => h.mono fun _ hx => List.mem_cons_of_mem _ hx

theorem answered_query {get : Enumerant → StateM σ Int} (log : σ → List Exchange) (rest : σ → β)
    (hget : ∀ p s, rest (get p s).2 = rest s ∧ ∃ a : Option Int,
      log (get p s).2 = log s ++ [⟨.getInteger p, a⟩] ∧ (get p s).1 = a.getD 0)
    (direction : PixelDirection) (s : σ) : rest (PixelStore.query get direction s).2 = rest s ∧
      ∃ xs vs, log (PixelStore.query get direction s).2 = log s ++ xs ∧ transfers xs = [] ∧
        List.Forall₂ (Answered xs) (PixelStore.parameters direction) vs ∧
        (PixelStore.query get direction s).1 = .ofValues vs := by
  obtain ⟨hrest, xs, hlog, htransfers, hvs⟩ :=
    answered_mapM log rest hget (PixelStore.parameters direction) s
  exact ⟨hrest, xs, _, hlog, htransfers, hvs, rfl⟩

/-! ## The check of the driver -/

/-- A request serves for the transfers `ks`: if the library answers as it did in `before`, they are
issued, and nothing is logged. -/
def Serves (before : List Exchange) (ks : List EntryCall) (act : NativeM (Transcript γ) α) : Prop :=
  ∀ s, ∃ xs, (act s).2.1.exchanges = s.1.exchanges ++ xs ∧
    (Steady (before ++ xs) → transfers xs = ks ∧ (act s).2.2 = s.2)

theorem serves_call {k : EntryCall} {ks : List EntryCall}
    (hk : [k].filter EntryCall.isTransfer = ks) (before : List Exchange) :
    Serves before ks (call k : NativeM (Transcript γ) k.Answer) :=
  fun _ => ⟨_, rfl, fun _ => ⟨hk, rfl⟩⟩

theorem serves_issue {k : EntryCall} {ks : List EntryCall}
    (hk : [k].filter EntryCall.isTransfer = ks) (before : List Exchange) :
    Serves before ks (issue k : NativeM (Transcript γ) Unit) :=
  fun s => serves_call hk before s

/-- What was found to fit before is found to fit again. -/
theorem serves_guardTransfer {before : List Exchange} {ks : List EntryCall}
    {direction : PixelDirection} {format type : Enumerant} {size : Extents} {dimensions len : Nat}
    {dropped : α} {transfer : NativeM (Transcript γ) α} {vs : List Int}
    (ht : ∀ before, Serves before ks transfer)
    (hv : List.Forall₂ (Answered before) (PixelStore.parameters direction) vs)
    (hok : checkTransfer format type size dimensions (.ofValues vs) len = .ok ()) :
    Serves before ks
      (guardTransfer direction format type size dimensions len dropped transfer) := by
  intro s
  have hget : ∀ p (s : Transcript γ × List Event), (getInteger p s).2.2 = s.2 ∧ ∃ a : Option Int,
      (getInteger p s).2.1.exchanges = s.1.exchanges ++ [⟨.getInteger p, a⟩] ∧
        (getInteger p s).1 = a.getD 0 := fun p s => ⟨rfl, _, rfl, rfl⟩
  obtain ⟨hrest, xs, ws, hlog, htransfers, hw, hstore⟩ :=
    answered_query (·.1.exchanges) (·.2) hget direction s
  rw [guardTransfer_apply, hstore]
  generalize PixelStore.query getInteger direction s = asked at hrest hlog ⊢
  -- the same parameters were asked for before, in the same order
  have hagree : Steady (before ++ xs) → ws = vs := fun h => h.values_eq
    (hw.imp fun _ _ h => h.mono fun _ hx => List.mem_append_right _ hx)
    (hv.imp fun _ _ h => h.mono fun _ hx => List.mem_append_left _ hx)
  cases hcheck : checkTransfer format type size dimensions (.ofValues ws) len with
  | ok _ =>
      obtain ⟨ys, hlog', hserves⟩ := ht (before ++ xs) asked.2
      refine ⟨xs ++ ys, ?_, fun h => ?_⟩
      · refine hlog'.trans ?_
        rw [hlog, List.append_assoc]
      · rw [← List.append_assoc] at h
        obtain ⟨hissued, hrest'⟩ := hserves h
        refine ⟨?_, hrest'.trans hrest⟩
        rw [transfers_append, htransfers, hissued]
        rfl
  | error failure =>
      refine ⟨xs, hlog, fun h => ?_⟩
      rw [hagree h, hok] at hcheck
      cases hcheck

end Native

/-! ## Work in a context -/

namespace ContextM

open Native

abbrev LibraryM (γ : Type) := ContextM (NativeDriver (Transcript γ))

section

variable {γ α β : Type} {before xs : List Exchange} {k : EntryCall} {ks ls : List EntryCall}

/-- What was exchanged with the library while the action ran. -/
def added (act : LibraryM γ α) (c : Context (NativeDriver (Transcript γ))) : List Exchange :=
  (act c).2.driver.library.exchanges.drop c.driver.library.exchanges.length

theorem added_eq {act : LibraryM γ α} {c : Context (NativeDriver (Transcript γ))}
    (h : (act c).2.driver.library.exchanges = c.driver.library.exchanges ++ xs) :
    added act c = xs := by
  rw [added, h, List.drop_left]

/-- The action issues the transfers `ks` and logs none as dropped, if the library answers as it did
in `before`. -/
def Issues (before : List Exchange) (ks : List EntryCall) (act : LibraryM γ α) : Prop :=
  ∀ c, ∃ xs, (act c).2.driver.library.exchanges = c.driver.library.exchanges ++ xs ∧
    (Steady (before ++ xs) → transfers xs = ks ∧ drops (act c).2.trace = drops c.trace)

def Silent (act : LibraryM γ α) : Prop := ∀ before, Issues before [] act

theorem Issues.bind {x : LibraryM γ α} {f : α → LibraryM γ β} (hx : Issues before ks x)
    (hf : ∀ a, Issues before ls (f a)) : Issues before (ks ++ ls) (x >>= f) := by
  intro c
  obtain ⟨xs, hlog, hissues⟩ := hx c
  obtain ⟨ys, hlog', hissues'⟩ := hf (x c).1 (x c).2
  refine ⟨xs ++ ys, ?_, fun h => ?_⟩
  · refine hlog'.trans ?_
    rw [hlog, List.append_assoc]
  · obtain ⟨htransfers, hdrops⟩ := hissues (h.mono (by simp; tauto))
    obtain ⟨htransfers', hdrops'⟩ := hissues' (h.mono (by simp; tauto))
    refine ⟨?_, hdrops'.trans hdrops⟩
    rw [transfers_append, htransfers, htransfers']

theorem Issues.bind_silent {x : LibraryM γ α} {f : α → LibraryM γ β} (hx : Issues before ks x)
    (hf : ∀ a, Silent (f a)) : Issues before ks (x >>= f) :=
  List.append_nil ks ▸ hx.bind fun a => hf a before

theorem Silent.bind_issues {x : LibraryM γ α} {f : α → LibraryM γ β} (hx : Silent x)
    (hf : ∀ a, Issues before ks (f a)) : Issues before ks (x >>= f) :=
  (hx before).bind hf

theorem Silent.bind {x : LibraryM γ α} {f : α → LibraryM γ β} (hx : Silent x)
    (hf : ∀ a, Silent (f a)) : Silent (x >>= f) :=
  fun before => hx.bind_issues fun a => hf a before

/-- An action after which the library has received no call. -/
theorem silent_of_log {act : LibraryM γ α}
    (hlog : ∀ c, (act c).2.driver.library.exchanges = c.driver.library.exchanges)
    (hdrops : ∀ c, drops (act c).2.trace = drops c.trace) : Silent act :=
  fun _ c => ⟨[], (hlog c).trans (List.append_nil _).symm, fun _ => ⟨rfl, hdrops c⟩⟩

theorem Silent.pure (a : α) : Silent (Pure.pure a : LibraryM γ α) :=
  silent_of_log (fun _ => rfl) fun _ => rfl

theorem Silent.get : Silent (MonadState.get : LibraryM γ _) :=
  silent_of_log (fun _ => rfl) fun _ => rfl

/-- An operation whose check finds what the driver finds again: the transfer is issued just if the
check succeeds. -/
theorem transfers_of_checked {check : LibraryM γ (Except Failure Unit)} {act issue : LibraryM γ α}
    {refuse : Failure → α} {c : Context (NativeDriver (Transcript γ))}
    (hact : act c = (match (check c).1 with
      | .error e => pure (refuse e)
      | .ok () => issue) (check c).2)
    (hcheck : drops (check c).2.trace = drops c.trace ∧ ∃ xs,
      (check c).2.driver.library.exchanges = c.driver.library.exchanges ++ xs ∧
        transfers xs = [] ∧ ((check c).1 = .ok () → Issues xs [k] issue))
    (h : Steady (added act c)) : drops (act c).2.trace = drops c.trace ∧
      transfers (added act c) = match (check c).1 with
        | .ok () => [k]
        | .error _ => [] := by
  obtain ⟨hdrops, xs, hlog, htransfers, hissues⟩ := hcheck
  cases hc : (check c).1 with
  | error e =>
      rw [hc] at hact
      have hadded : added act c = xs := added_eq (by rw [hact]; exact hlog)
      rw [hadded, hact]
      exact ⟨hdrops, htransfers⟩
  | ok _ =>
      rw [hc] at hact
      obtain ⟨ys, hlog', hissued⟩ := hissues hc (check c).2
      have hadded : added act c = xs ++ ys := by
        refine added_eq ?_
        rw [hact]
        refine hlog'.trans ?_
        rw [hlog, List.append_assoc]
      rw [hadded] at h ⊢
      obtain ⟨htransfers', hdrops'⟩ := hissued h
      rw [hact, transfers_append, htransfers, htransfers']
      exact ⟨hdrops'.trans hdrops, rfl⟩

theorem silent_note {e : Event} (he : drops [e] = []) : Silent (note e : LibraryM γ Unit) := by
  refine silent_of_log (fun _ => rfl) fun c => ?_
  change drops (c.trace ++ [e]) = _
  rw [drops, List.filter_append]
  exact (congrArg _ he).trans (List.append_nil _)

theorem silent_updateCache (f : BindingCache → BindingCache) :
    Silent (updateCache f : LibraryM γ Unit) :=
  silent_of_log (fun _ => rfl) fun _ => rfl

theorem silent_reportError (error : DriverError) (site : Site) :
    Silent (reportError error site : LibraryM γ Unit) := by
  unfold reportError
  refine .bind .get fun c => .bind (silent_of_log (fun _ => rfl) fun _ => rfl) fun _ => ?_
  split
  · exact .pure _
  · exact silent_note rfl

end

variable {γ α : Type} [EntryPoints γ] {before : List Exchange} {ks : List EntryCall}

theorem issues_perform {q : Request}
    (hq : Serves before ks (serve q : NativeM (Transcript γ) q.Answer)) :
    Issues before ks (perform q : LibraryM γ q.Answer) := by
  intro c
  obtain ⟨xs, hlog, hserves⟩ := hq (c.driver.library, [])
  refine ⟨xs, hlog, fun h => ?_⟩
  obtain ⟨htransfers, hrest⟩ := hserves h
  refine ⟨htransfers, ?_⟩
  change drops (c.trace ++ (serve q (c.driver.library, [])).2.2) = _
  rw [hrest, List.append_nil]

theorem silent_checkError (site : Site) :
    Silent (checkError site : LibraryM γ Unit) := by
  unfold checkError
  refine .bind .get fun c => ?_
  split
  · have hpoll : Silent (pollError : LibraryM γ _) :=
      .bind (fun before => issues_perform (serves_call rfl before)) fun _ => .pure _
    refine .bind hpoll fun e => ?_
    cases e with
    | none => exact .pure _
    | some error => exact silent_reportError error site
  · exact .pure _

theorem transfers_bindCall (slot : Slot) (id : Id) :
    [bindCall slot id].filter EntryCall.isTransfer = [] := by
  cases slot <;> rfl

theorem silent_bindSlot (slot : Slot) (id : Id) :
    Silent (bindSlot slot id : LibraryM γ Unit) := by
  unfold bindSlot
  refine .bind .get fun c => ?_
  split
  · exact silent_note rfl
  · refine .bind (silent_note rfl) fun _ => .bind ?_ fun _ => silent_updateCache _
    exact fun before => issues_perform (serves_issue (transfers_bindCall slot id) before)

theorem silent_bind (slot : Slot) (id : Id) :
    Silent (ContextM.bind slot id : LibraryM γ Unit) := by
  cases slot with
  | texture unit target => exact .bind (silent_bindSlot _ _) fun _ => silent_bindSlot _ _
  | _ => exact silent_bindSlot _ id

theorem silent_acquire (slot : Slot) (id : Id) :
    Silent (acquire slot id : LibraryM γ Guard) :=
  .bind .get fun _ => .bind (silent_bind slot id) fun _ => .pure _

theorem silent_release (g : Guard) : Silent (release g : LibraryM γ Unit) := by
  unfold release
  split
  · split
    · exact silent_bind _ _
    · exact .pure _
  · exact .pure _

theorem issues_command {q : Request} {site : Site}
    (hq : Serves before ks (serve q : NativeM (Transcript γ) q.Answer)) :
    Issues before ks (command q site : LibraryM γ q.Answer) :=
  (issues_perform hq).bind_silent fun _ => .bind (silent_checkError site) fun _ => .pure _

theorem issues_holding {slot : Slot} {id : Id} {act : LibraryM γ α} (h : Issues before ks act) :
    Issues before ks (holding slot id act) :=
  (silent_acquire slot id).bind_issues fun _ =>
    h.bind_silent fun _ => .bind (silent_release _) fun _ => .pure _

theorem answered_pixelStore (direction : PixelDirection)
    (c : Context (NativeDriver (Transcript γ))) :
    drops (pixelStore direction c).2.trace = drops c.trace ∧ ∃ xs vs,
      (pixelStore direction c).2.driver.library.exchanges = c.driver.library.exchanges ++ xs ∧
      transfers xs = [] ∧ List.Forall₂ (Answered xs) (PixelStore.parameters direction) vs ∧
      (pixelStore direction c).1 = .ofValues vs := by
  have hget : ∀ p (c : Context (NativeDriver (Transcript γ))),
      drops (getInteger p c).2.trace = drops c.trace ∧ ∃ a : Option Int,
        (getInteger p c).2.driver.library.exchanges =
          c.driver.library.exchanges ++ [⟨.getInteger p, a⟩] ∧ (getInteger p c).1 = a.getD 0 :=
    fun p c => ⟨congrArg drops (List.append_nil c.trace), _, rfl, rfl⟩
  exact answered_query (·.driver.library.exchanges) (drops ·.trace) hget direction c

end ContextM

/-! ## Images -/

namespace Texture

open ContextM Native

variable {γ : Type} [EntryPoints γ] {c : Context (NativeDriver (Transcript γ))}

/-- What the check of an upload finds, the driver finds again. -/
theorem serves_checkImage (target : ImageTarget) (image : ImageSpec)
    (c : Context (NativeDriver (Transcript γ))) :
    drops (checkImage target image c).2.trace = drops c.trace ∧ ∃ xs,
      (checkImage target image c).2.driver.library.exchanges =
        c.driver.library.exchanges ++ xs ∧ transfers xs = [] ∧
      ((checkImage target image c).1 = .ok () →
        Serves xs [texImageCall target image]
          (texImage target image : NativeM (Transcript γ) Unit)) := by
  have hissue : ∀ before, Serves before [texImageCall target image]
      (issue (texImageCall target image) : NativeM (Transcript γ) Unit) :=
    serves_issue (transfers_texImageCall target image)
  unfold checkImage texImage
  cases image.data with
  | none => exact ⟨rfl, [], (List.append_nil _).symm, rfl, fun _ => hissue []⟩
  | some data =>
      obtain ⟨hdrops, xs, vs, hlog, htransfers, hvs, hstore⟩ := answered_pixelStore .unpack c
      refine ⟨hdrops, xs, hlog, htransfers, fun hok => ?_⟩
      change checkTransfer _ _ _ _ (pixelStore .unpack c).1 _ = _ at hok
      rw [hstore] at hok
      exact serves_guardTransfer hissue hvs hok

theorem upload_apply (t : Texture) (id : Id) (target : ImageTarget) (image : ImageSpec)
    (c : Context (NativeDriver (Transcript γ))) : t.upload id target image c =
      (match (checkImage target image c).1 with
        | .error e => pure (Except.error e)
        | .ok () => do
          holding (.buffer .pixelUnpack) 0 <| holding t.slot id <|
            command (.texImage target image) .settingTextureImage
          pure (Except.ok ())) (checkImage target image c).2 := rfl

theorem upload_transfers (t : Texture) (id : Id) (target : ImageTarget) (image : ImageSpec)
    (h : Steady (added (t.upload id target image) c)) :
    drops (t.upload id target image c).2.trace = drops c.trace ∧
      transfers (added (t.upload id target image) c) =
        match (t.upload id target image c).1 with
        | .ok () => [texImageCall target image]
        | .error _ => [] := by
  have hanswer : (t.upload id target image c).1 = (checkImage target image c).1 := by
    rw [upload_apply]
    cases (checkImage target image c).1 <;> rfl
  obtain ⟨hdrops, xs, hlog, htransfers, hserves⟩ := serves_checkImage target image c
  rw [hanswer]
  refine transfers_of_checked (upload_apply t id target image c)
    ⟨hdrops, xs, hlog, htransfers, fun hok => ?_⟩ h
  exact (issues_holding (issues_holding (issues_command (hserves hok)))).bind_silent fun _ =>
    .pure _

/-- An image that is reported as set is specified by one call, of the dimensions of its target, and
one that is refused by none. -/
theorem setImage_transfers (t : Texture) (id : Id) (form : ImageForm) (image : ImageSpec)
    (h : Steady (added (t.setImage id form image) c)) :
    drops (t.setImage id form image c).2.trace = drops c.trace ∧
      ((t.setImage id form image c).1 = .ok () → ∃ target call,
        form.target? t.target = some target ∧
        transfers (added (t.setImage id form image) c) = [call] ∧
        call = texImageCall target { image with size := image.size.restrict form.dimensions } ∧
        call.imageDimensions? = some target.dimensions) ∧
      ∀ e, (t.setImage id form image c).1 = .error e →
        transfers (added (t.setImage id form image) c) = [] := by
  unfold setImage at h ⊢
  cases ht : form.target? t.target with
  | none =>
      refine ⟨rfl, nofun, fun _ _ => ?_⟩
      exact congrArg transfers (List.drop_length (l := c.driver.library.exchanges))
  | some target =>
      rw [ht] at h
      simp only at h ⊢
      obtain ⟨hdrops, htransfers⟩ := t.upload_transfers id target _ h
      refine ⟨hdrops, fun hok => ?_, fun e herror => ?_⟩
      · rw [hok] at htransfers
        exact ⟨target, _, rfl, htransfers, rfl, imageDimensions?_texImageCall ..⟩
      · rw [herror] at htransfers
        exact htransfers

end Texture

/-! ## Blocks of pixels -/

/-- The call that reads a block of pixels. -/
def Native.readCall (block : PixelBlock) (out : Bytes) : EntryCall :=
  .readPixels block.x block.y (signed32 block.width) (signed32 block.height) block.format block.type
    out

namespace Framebuffer

open ContextM Native

variable {γ : Type} [EntryPoints γ] {c : Context (NativeDriver (Transcript γ))}

/-- What the check of a read finds, the driver finds again. -/
theorem serves_checkRead (f : Framebuffer) (block : PixelBlock) (out : Bytes)
    (c : Context (NativeDriver (Transcript γ))) :
    drops (f.checkRead block out.length c).2.trace = drops c.trace ∧ ∃ xs,
      (f.checkRead block out.length c).2.driver.library.exchanges =
        c.driver.library.exchanges ++ xs ∧ transfers xs = [] ∧
      ((f.checkRead block out.length c).1 = .ok () →
        Serves xs [readCall block out]
          (Native.readPixels block out : NativeM (Transcript γ) Bytes)) := by
  unfold checkRead
  cases f.require .draw .readPixels with
  | error e => exact ⟨rfl, [], (List.append_nil _).symm, rfl, nofun⟩
  | ok _ =>
      obtain ⟨hdrops, xs, vs, hlog, htransfers, hvs, hstore⟩ := answered_pixelStore .pack c
      refine ⟨hdrops, xs, hlog, htransfers, fun hok => ?_⟩
      change checkTransfer _ _ _ _ (pixelStore .pack c).1 _ = _ at hok
      rw [hstore] at hok
      exact serves_guardTransfer (serves_call rfl) hvs hok

theorem readPixels_apply (f : Framebuffer) (id : Id) (block : PixelBlock) (out : Bytes)
    (c : Context (NativeDriver (Transcript γ))) : f.readPixels id block out c =
      (match (f.checkRead block out.length c).1 with
        | .error e => pure (Except.error e, out)
        | .ok () => do
          let out : Bytes ← holding (.buffer .pixelPack) 0 <| f.bound id <|
            command (.readPixels block out) .readingPixels
          pure (Except.ok (), out)) (f.checkRead block out.length c).2 := rfl

/-- A block that is reported as read is read by one call, and one that is refused by none. -/
theorem readPixels_transfers (f : Framebuffer) (id : Id) (block : PixelBlock) (out : Bytes)
    (h : Steady (added (f.readPixels id block out) c)) :
    drops (f.readPixels id block out c).2.trace = drops c.trace ∧
      ((f.readPixels id block out c).1.1 = .ok () →
        transfers (added (f.readPixels id block out) c) = [readCall block out]) ∧
      ∀ e, (f.readPixels id block out c).1.1 = .error e →
        transfers (added (f.readPixels id block out) c) = [] := by
  have hanswer : (f.readPixels id block out c).1.1 = (f.checkRead block out.length c).1 := by
    rw [readPixels_apply]
    cases (f.checkRead block out.length c).1 <;> rfl
  obtain ⟨hdrops, xs, hlog, htransfers, hserves⟩ := f.serves_checkRead block out c
  obtain ⟨hdrops', htransfers'⟩ := transfers_of_checked (f.readPixels_apply id block out c)
    ⟨hdrops, xs, hlog, htransfers, fun hok =>
      (issues_holding (issues_holding (issues_command (hserves hok)))).bind_silent fun _ =>
        .pure _⟩ h
  rw [← hanswer] at htransfers'
  refine ⟨hdrops', fun hok => ?_, fun e herror => ?_⟩
  · rw [hok] at htransfers'
    exact htransfers'
  · rw [herror] at htransfers'
    exact htransfers'

end Framebuffer

namespace Native

open ContextM

variable {γ : Type} [EntryPoints γ]

/-- Whatever the library does, and whatever is bound and believed to be bound: if a parameter that
is asked for twice during an operation is answered alike, a transfer that is reported as done was
issued by one call, one that is refused was not, and the driver drops none. -/
theorem transfers_as_reported (c : Context (NativeDriver (Transcript γ))) :
    (∀ (t : Texture) (id : Id) (form : Texture.ImageForm) (image : ImageSpec),
      Steady (added (t.setImage id form image) c) →
        drops (t.setImage id form image c).2.trace = drops c.trace ∧
        ((t.setImage id form image c).1 = .ok () → ∃ target call,
          form.target? t.target = some target ∧
          transfers (added (t.setImage id form image) c) = [call] ∧
          call = texImageCall target
            { image with size := image.size.restrict form.dimensions } ∧
          call.imageDimensions? = some target.dimensions) ∧
        ∀ e, (t.setImage id form image c).1 = .error e →
          transfers (added (t.setImage id form image) c) = []) ∧
    (∀ (f : Framebuffer) (id : Id) (block : PixelBlock) (out : Bytes),
      Steady (added (f.readPixels id block out) c) →
        drops (f.readPixels id block out c).2.trace = drops c.trace ∧
        ((f.readPixels id block out c).1.1 = .ok () →
          transfers (added (f.readPixels id block out) c) = [readCall block out]) ∧
        ∀ e, (f.readPixels id block out c).1.1 = .error e →
          transfers (added (f.readPixels id block out) c) = []) :=
  ⟨fun t id form image h => t.setImage_transfers id form image h,
    fun f id block out h => f.readPixels_transfers id block out h⟩

def answeredBy (f : Enumerant → Option Int) (xs : List Exchange) : Bool :=
  xs.all fun
    | ⟨.getInteger p, a⟩ => a = f p
    | _ => true

theorem steady_of_answeredBy {f : Enumerant → Option Int} {xs : List Exchange}
    (h : answeredBy f xs = true) : Steady xs := by
  have hf : ∀ (p : Enumerant) (a : Option Int), (⟨.getInteger p, a⟩ : Exchange) ∈ xs → a = f p :=
    fun p a ha => of_decide_eq_true (List.all_eq_true.mp h _ ha)
  intro p a a' ha ha'
  rw [hf p a ha, hf p a' ha']

/-- A library whose rows of pixels start at multiples of eight bytes. -/
def wideRows : Script where
  integers := (Table.empty.insert Enumerant.unpackAlignment 8).insert Enumerant.packAlignment 8

def overWideRows : Context (NativeDriver (Transcript Script)) :=
  .new ⟨⟨wideRows, []⟩⟩ { strictUnbind := true }

/-- An image of one column and two rows, in so much client memory. -/
def column (len : Nat) : ImageSpec where
  level := 0
  internalFormat := Enumerant.rgba
  size := ⟨1, 2, 5⟩
  format := Enumerant.rgba
  type := Enumerant.unsignedByte
  data := some ⟨Array.replicate len 0⟩

/-- With rows of eight bytes the two rows of the column take twelve, and each check finds so. -/
theorem column_reported :
    (Texture.setImage ⟨.texture2D, 1⟩ 3 .image2D (column 12) overWideRows).1 = .ok () ∧
    (∃ call, call.imageDimensions? = some 2 ∧
      transfers (added (Texture.setImage ⟨.texture2D, 1⟩ 3 .image2D (column 12)) overWideRows) =
        [call]) ∧
    (Texture.setImage ⟨.texture2D, 1⟩ 3 .image2D (column 11) overWideRows).1 =
      .error (.bufferTooSmall 12 11) ∧
    transfers (added (Texture.setImage ⟨.texture2D, 1⟩ 3 .image2D (column 11)) overWideRows) =
      [] := by
  have hok : (Texture.setImage ⟨.texture2D, 1⟩ 3 .image2D (column 12) overWideRows).1 =
      .ok () := by
    rw [Texture.setImage]
    decide +kernel
  have herror : (Texture.setImage ⟨.texture2D, 1⟩ 3 .image2D (column 11) overWideRows).1 =
      .error (.bufferTooSmall 12 11) := by
    rw [Texture.setImage]
    decide +kernel
  have hsteady : answeredBy wideRows.integers.get?
      (added (Texture.setImage ⟨.texture2D, 1⟩ 3 .image2D (column 12)) overWideRows) = true := by
    rw [Texture.setImage]
    decide +kernel
  have hsteady' : answeredBy wideRows.integers.get?
      (added (Texture.setImage ⟨.texture2D, 1⟩ 3 .image2D (column 11)) overWideRows) = true := by
    rw [Texture.setImage]
    decide +kernel
  obtain ⟨himages, -⟩ := transfers_as_reported overWideRows
  obtain ⟨-, hdone, -⟩ := himages _ 3 .image2D _ (steady_of_answeredBy hsteady)
  obtain ⟨-, -, hrefused⟩ := himages _ 3 .image2D _ (steady_of_answeredBy hsteady')
  obtain ⟨target, call, htarget, hcalls, -, hdimensions⟩ := hdone hok
  cases htarget
  exact ⟨hok, ⟨call, hdimensions, hcalls⟩, herror, hrefused _ herror⟩

end Native

end GraphicsObjects
