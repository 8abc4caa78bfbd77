import GraphicsObjects.Proofs.Object.Buffers
import GraphicsObjects.Proofs.Session.MirrorLinks
import GraphicsObjects.Proofs.Session.Refusals
import GraphicsObjects.Proofs.Session.Requests

/-!
# Buffers are byte arrays

A buffer that was given a store has one of the size that is known of it from then on, whatever is
bound, uploaded, created or deleted meanwhile. So its operations are those of a byte array.
-/

namespace GraphicsObjects

open Ownership ContextM SessionM Simulation

/-- Where one store differs, what it holds does. -/
theorem Sim.contents?_of_buffers {d d' : Sim} {id i : Id} {store : DataStore}
    (h : d'.buffers.get? i = if i = id then some store else d.buffers.get? i) :
    d'.contents? i = if i = id then some store.bytes else d.contents? i := by
  rw [contents?, h]
  split <;> rfl

namespace Session

variable {s s' : Session Sim} {filled : List Ref} {outside : List Ref} {config : Config} {op : Op}
variable {name : String} {f : Found Buffer}

/-! ## Stores and their sizes -/

/-- The buffers in `filled` have stores of the sizes that are known of them. -/
structure Filled (filled : List Ref) (s : Session Sim) : Prop where
  sizes : ∀ r id o b, r ∈ filled → (r, id, o) ∈ s.store.faces → o.payload = .buffer b →
    s.driver.storeSize? id = some b.size
  fresh : ∀ r ∈ filled, r < s.store.next

/-- The buffers that have been given stores, after an operation. -/
def fill (s s' : Session Sim) (filled : List Ref) : Op → List Ref
  | .buffer name (.setData ..) | .buffer name (.allocate ..) =>
    ((s.find? Payload.buffer? name).map (·.ref)).toList ++ filled
  | .create _ _ (.bufferWithData ..) =>
    if s.store.next < s'.store.next then s.store.next :: filled else filled
  | _ => filled

theorem Sound.ref_lt (h : s.Sound outside) {r : Ref} {id : Id} {o : Object}
    (hm : (r, id, o) ∈ s.store.faces) : r < s.store.next := by
  obtain ⟨b, hb, -, -⟩ := Store.mem_faces_iff.mp hm
  by_contra hr
  rw [h.balanced.fresh r (Nat.le_of_not_lt hr)] at hb
  cases hb

theorem Advance.dead_of_deleted {may : Kind → Id → Prop} {gone gone' : List (Kind × Id)}
    (h : s.Advance may gone s') (hd : s'.driver.deleted = s.driver.deleted ++ gone') :
    ∀ n ∈ gone', n ∉ s'.driver.live := by
  rw [h.deleted] at hd
  rw [← List.append_cancel_left hd]
  exact h.dead

/-- Requests that replace no store keep the sizes of the stores of buffers that are left. -/
theorem Filled.moves (h : s.Filled filled) (hm : s.Moves False s') (hs' : s'.Sound outside)
    (hd : ∀ gone, s'.driver.deleted = s.driver.deleted ++ gone →
      ∀ n ∈ gone, n ∉ s'.driver.live) : s'.Filled filled where
  fresh r hr := Nat.lt_of_lt_of_le (h.fresh r hr) hm.next
  sizes r id o b hr hmem hp := by
    have hk : o.payload.kind = .buffer := congrArg Payload.kind hp
    -- a buffer that is in the store is live, so its name is not among those that are gone
    have hlive : (.buffer, id) ∈ s'.driver.live :=
      hk ▸ hs'.mem_live hmem (hs'.id_ne_zero hmem (by simp [hk]))
    obtain ⟨gone, hkeeps⟩ := hm.served.keepsSizes
    have hleft : (.buffer, id) ∉ gone := fun hg => hd gone hkeeps.deleted _ hg hlive
    obtain ⟨b', hb', rfl, rfl⟩ := Store.mem_faces_iff.mp hmem
    obtain ⟨b₀, hb₀, hsame⟩ := hm.buffers not_false r b' (h.fresh r hr) hb' hk
    have hface : (r, b'.id, b'.content) ∈ s.store.faces :=
      Store.mem_faces_iff.mpr ⟨b₀, hb₀, hsame.id.symm, hsame.content.symm⟩
    exact (hkeeps.sizes _ hleft).trans (h.sizes r _ _ b hr hface hp)

/-- A buffer that gets a new store has one, and no other buffer loses its own. -/
theorem Filled.setStore (h : s.Filled filled) (hs : s.Sound outside) (hf : s.Has .buffer f)
    (contents : StoreContents) (usage : BufferUsage) (site : Site) :
    (SessionM.setPayload f.ref
      (.buffer (inContext 0 (f.known.setStore f.id contents usage site) s).1)
      (inContext 0 (f.known.setStore f.id contents usage site) s).2).2.Filled
      (f.ref :: filled) where
  fresh r hr := by
    rcases List.mem_cons.mp hr with rfl | hr
    · exact hs.ref_lt hf
    · exact h.fresh r hr
  sizes r id o b hr hmem hp := by
    have hz : f.id ≠ 0 := hs.id_ne_zero hf nofun
    have hlands := f.known.lands_setStore hs.ready (hs.admits hf rfl) hz contents usage site
    obtain ⟨o₀, hm₀, rfl⟩ := mem_faces_setPayload.mp hmem
    change (r, id, o₀) ∈ s.store.faces at hm₀
    change Option.map _ ((f.known.setStore f.id contents usage site
      (s.enter 0)).2.driver.buffers.get? id) = _
    rw [hlands]
    by_cases hr' : r = f.ref
    · subst hr'
      obtain ⟨rfl, -⟩ := faces_unique hf hm₀
      rw [if_pos rfl] at hp ⊢
      cases hp
      exact congrArg some (DataStore.size_ofContents contents)
    · rw [if_neg hr'] at hp
      -- objects in the store have different names, so the new store is not that of another one
      have hne : id ≠ f.id := by
        rintro rfl
        have hn : nameOf? (f.ref, f.id, ⟨f.context, .buffer f.known⟩) = some (.buffer, f.id) :=
          if_neg hz
        have hn₀ : nameOf? (r, f.id, o₀) = some (.buffer, f.id) := by simp [nameOf?, hz, hp]; rfl
        exact hr' (congrArg Prod.fst (nameOf?_unique hs hm₀ hf hn₀ hn))
      rw [if_neg hne]
      exact h.sizes r id o₀ b (List.mem_of_ne_of_mem hr' hr) hm₀ hp

/-! ## Steps -/

theorem Filled.buffer (h : s.Filled filled) (hi : s.Inv) {op : BufferOp} {answer : op.Answer}
    (hs : s.onObject Payload.buffer? .buffer name op.run = some (answer, s')) (hf : op.Fills) :
    s'.Filled (s.fill s' filled (.buffer name op)) := by
  obtain ⟨f, hfound, -, rfl⟩ := onObject_eq hs
  obtain ⟨-, hhas⟩ := has_of_find? Payload.reads_buffer hfound
  rw [hi.sound.context_eq hhas]
  cases op with
  | setData data usage =>
      simp only [fill, hfound]
      exact h.setStore hi.sound hhas (.bytes data.bytes) usage .settingBufferData
  | allocate size usage =>
      simp only [fill, hfound]
      exact h.setStore hi.sound hhas (.unspecified size) usage .allocatingBuffer
  | setSubData | size | target => exact hf.elim

/-- A buffer is made: then it is the next one in the store, where nothing else has changed. -/
theorem Filled.newBuffer (h : s.Filled filled) (hs : s.Sound outside) (target : BufferTarget) :
    (SessionM.newBuffer 0 target s).2.Filled filled ∧
      ((∃ e, (SessionM.newBuffer 0 target s).1 = .error e ∧
          (SessionM.newBuffer 0 target s).2.store.next = s.store.next) ∨
        ∃ id, (SessionM.newBuffer 0 target s).1 = .ok (s.store.next, id) ∧
          (SessionM.newBuffer 0 target s).2.Sound (s.store.next :: outside) ∧
          (SessionM.newBuffer 0 target s).2.Has .buffer ⟨s.store.next, id, 0, { target }⟩) := by
  have hc : Created outside (fun _ => False) s (SessionM.newBuffer 0 target s).1
      (SessionM.newBuffer 0 target s).2 := hs.newObject _ rfl nofun
  have hmoves : s.Moves False (SessionM.newBuffer 0 target s).2 := moving_newObject 0 _ s
  have hnone (gone : List (Kind × Id))
      (hd : (SessionM.newBuffer 0 target s).2.driver.deleted = s.driver.deleted ++ gone) :
      ∀ n ∈ gone, n ∉ (SessionM.newBuffer 0 target s).2.driver.live := by
    rw [hc.quiet.deleted] at hd
    obtain rfl := List.self_eq_append_right.mp hd
    exact nofun
  cases hm : (SessionM.newBuffer 0 target s).1 with
  | error e =>
      refine ⟨h.moves hmoves (hc.failed e hm) hnone, .inl ⟨e, rfl, ?_⟩⟩
      cases hmade : (createObject .buffer (s.enter 0)).1 with
      | error e' => exact congrArg (·.2.store.next) (adopt_error hmade)
      | ok id => cases hm.symm.trans (congrArg Prod.fst (adopt_ok hmade))
  | ok x =>
      obtain ⟨r, id⟩ := x
      have hsound := hc.held r id hm
      obtain ⟨rfl, hface⟩ := of_adopt_ok hs hm
      exact ⟨h.moves hmoves hsound hnone, .inr ⟨id, rfl, hsound, hface⟩⟩

/-- What is made and filled at once has a store, and so it has in a variable. -/
theorem Filled.createWithData (h : s.Filled filled) (hi : s.Inv) {target : BufferTarget}
    {data : Elements} {usage : BufferUsage} {gone : List (Kind × Id)}
    {made : Except Failure Id} {may : Kind → Id → Prop}
    (hs : s.create name 0 (.bufferWithData target data usage) = some (made, s'))
    (ha : s.Advance may gone s') :
    s'.Filled (s.fill s' filled (.create name 0 (.bufferWithData target data usage))) := by
  simp only [Session.create, Session.make, Option.bind_eq_bind, Option.bind_some] at hs
  obtain ⟨hfilled, hnew⟩ := h.newBuffer hi.sound target
  rcases hnew with ⟨e, he, hnext⟩ | ⟨id, hok, hsound, hhas⟩
  · have hmade : SessionM.newBufferWithData 0 target data.bytes usage s =
        (.error e, (SessionM.newBuffer 0 target s).2) := by
      simp only [SessionM.newBufferWithData, SessionM.andThen, bind_apply, he]
      rfl
    rw [hmade] at hs
    cases hs
    simpa only [fill, hnext, lt_irrefl, if_false] using hfilled
  · set s₀ := (SessionM.newBuffer 0 target s).2
    set s₁ := (SessionM.newBufferWithData 0 target data.bytes usage s).2
    have hmade : SessionM.newBufferWithData 0 target data.bytes usage s =
        (.ok (s.store.next, id), s₁) := by
      simp only [s₁, SessionM.newBufferWithData, SessionM.andThen, bind_apply, hok]
      rfl
    have hs₁ : s₁ = (SessionM.setPayload s.store.next
        (.buffer (inContext 0 (Buffer.setData { target } id data.bytes usage) s₀).1)
        (inContext 0 (Buffer.setData { target } id data.bytes usage) s₀).2).2 := by
      simp only [s₁, SessionM.newBufferWithData, SessionM.andThen, bind_apply, hok]
      rfl
    have hfull : s₁.Filled (s.store.next :: filled) :=
      hs₁ ▸ hfilled.setStore hsound hhas (.bytes data.bytes) usage .settingBufferData
    have hkept : s₁.driver.deleted = s.driver.deleted :=
      (@Sound.newBufferWithData _ _ (fun _ => False) hi.sound target data.bytes usage).quiet.deleted
    rw [hmade] at hs
    cases hs
    have hlater := hfull.moves (moving_setVariable name (.object s.store.next) s₁) ha.inv.sound
      fun gone hd => ha.dead_of_deleted (hkept ▸ hd)
    rw [fill, if_pos (hlater.fresh _ List.mem_cons_self)]
    exact hlater

/-- Every admissible operation keeps the sizes, and adds the buffer that it fills. -/
theorem Filled.step (h : s.Filled filled) (hi : s.Inv) {answer : op.Answer}
    (hr : Careful s op s') (hs : s.step op = some (answer, s')) :
    s'.Filled (s.fill s' filled op) := by
  obtain ⟨gone, hadvance, -⟩ := hi.step hr.1 hr.2 hs
  have hsound := hadvance.inv.sound
  by_cases hf : op.Fills
  · cases op with
    | buffer name op => exact h.buffer hi hs hf
    | context c op =>
        cases op with
        | request q => exact hr.1.elim
        | _ => exact hf.elim
    | create name c what =>
        cases what with
        | bufferWithData target data usage =>
            simp only [Session.step, hi.sound.single] at hs
            split at hs
            · rename_i hc
              obtain rfl := Nat.lt_one_iff.mp hc
              exact h.createWithData hi hs hadvance
            · cases hs
        | _ => exact hf.elim
    | _ => exact hf.elim
  · have hsame : s.fill s' filled op = filled := by
      cases op with
      | buffer name op =>
          cases op with
          | setData | allocate => exact absurd trivial hf
          | _ => rfl
      | create name c what =>
          cases what with
          | bufferWithData => exact absurd trivial hf
          | _ => rfl
      | _ => rfl
    have hmoves : s.Moves False s' := by
      have hm := moves_step hs
      rwa [eq_false hf] at hm
    rw [hsame]
    exact h.moves hmoves hsound fun _ => hadvance.dead_of_deleted

/-! ## Runs -/

/-- The states of a careful client, with the buffers that have been given stores. -/
inductive Filling (config : Config) : List Ref → Session Sim → Prop where
  | start {orders : List (List Nat)} : Filling config [] (start .fresh config orders)
  | adjust {filled : List Ref} {s : Session Sim} (a : Adjustment) (h : Filling config filled s) :
    Filling config filled (s.adjust a)
  | step {filled : List Ref} {s s' : Session Sim} {op : Op} {answer : op.Answer}
    (h : Filling config filled s) (hs : s.step op = some (answer, s')) (hr : Careful s op s') :
    Filling config (s.fill s' filled op) s'

theorem Filling.reachable (h : Filling config filled s) : Reachable Careful config s := by
  induction h with
  | start => exact .start
  | adjust a _ ih => exact ih.adjust a
  | step _ hs hr ih => exact ih.step hs hr

theorem Filling.sized (h : Filling config filled s) : s.Filled filled := by
  induction h with
  | start => exact ⟨nofun, nofun⟩
  | adjust a _ ih => cases a <;> exact ⟨ih.sizes, ih.fresh⟩
  | step hrun hs hr ih => exact ih.step hrun.reachable.inv hr hs

/-- Performs operations in order, as long as the client is careful. -/
def performFilling (filled : List Ref) (s : Session Sim) : List Op → Option (List Ref × Session Sim)
  | [] => some (filled, s)
  | op :: ops => do
    let (_, s') ← s.step op
    if Careful s op s' then s'.performFilling (s.fill s' filled op) ops else none

theorem Filling.perform {filled' : List Ref} {ops : List Op} (h : Filling config filled s)
    (hp : s.performFilling filled ops = some (filled', s')) : Filling config filled' s' := by
  induction ops generalizing s filled with
  | nil =>
      cases hp
      exact h
  | cons op ops ih =>
      simp only [performFilling, Option.bind_eq_bind, Option.bind_eq_some_iff] at hp
      obtain ⟨⟨answer, s₁⟩, hs, hp⟩ := hp
      split at hp
      · rename_i hr
        exact ih (h.step hs hr) hp
      · cases hp

/-! ## Operations -/

/-- A buffer that has been given a store is found under its name in the driver. -/
theorem Filling.store (h : Filling config filled s)
    (hf : s.find? Payload.buffer? name = some f) (hr : f.ref ∈ filled) :
    f.context = 0 ∧ f.id ≠ 0 ∧ f.known.slot.Admits s.driver.live f.id ∧
      ∃ old, s.driver.buffers.get? f.id = some old ∧ f.known.size = old.size := by
  have hs := h.reachable.inv.sound
  obtain ⟨-, hhas⟩ := has_of_find? Payload.reads_buffer hf
  have hsize := h.sized.sizes _ _ _ f.known hr hhas rfl
  obtain ⟨old, hold, he⟩ := Option.map_eq_some_iff.mp hsize
  exact ⟨hs.context_eq hhas, hs.id_ne_zero hhas nofun, hs.admits hhas rfl, old, hold, he.symm⟩

theorem find?_of_ref (hf : s.find? Payload.buffer? name = some f) {clone : String}
    (hc : s.vars.get? clone = some (.object f.ref)) :
    s.find? Payload.buffer? clone = some f := by
  obtain ⟨hv, -⟩ := has_of_find? Payload.reads_buffer hf
  unfold find? at hf ⊢
  rw [hv] at hf
  rw [hc]
  exact hf

theorem step_buffer (hf : s.find? Payload.buffer? name = some f) (hc : f.context = 0)
    (op : BufferOp) : ∃ s', s.step (.buffer name op) =
        some ((op.run f.id f.known (s.enter 0)).1.1, s') ∧
      s'.driver = (op.run f.id f.known (s.enter 0)).2.driver := by
  rw [← hc]
  exact ⟨_, onObject_of_find? hf, rfl⟩

/-- A part that does not fit is refused, and nothing happens. -/
theorem step_setSubData_of_not_fits (hf : s.find? Payload.buffer? name = some f) {offset : Nat}
    {data : Elements} (h : ¬ offset + data.bytes.length ≤ f.known.size) :
    s.step (.buffer name (.setSubData offset data)) =
      some (.error (.outOfBounds offset data.bytes.length f.known.size), s) := by
  have hrun (c : Context Sim) : (BufferOp.setSubData offset data).run f.id f.known c =
      ((.error (.outOfBounds offset data.bytes.length f.known.size), f.known), c) := by
    simp only [BufferOp.run, bind_apply, Buffer.setSubData_of_not_fits f.known h]
    rfl
  have hstays := setPayload_leave Payload.reads_buffer hf (s.enter f.context)
  rw [leave_enter_self] at hstays
  refine (onObject_of_find? hf).trans ?_
  simp only [hrun, inContext, leave_enter_self, hstays]

/-- In every state that a careful client reaches, a buffer that has been given a store is a byte
array in the driver, of the size that each of its clones tells. It is replaced as a whole by the
bytes of the elements or by zeros; a part is replaced just if it fits, without an error, and
otherwise nothing happens at all. A store longer than the largest signed word, of 2^63 - 1 bytes,
cannot be allocated; the model leaves this limit out and allocates stores of any size. -/
theorem buffers_are_byte_arrays (h : Filling config filled s)
    (hf : s.find? Payload.buffer? name = some f) (hr : f.ref ∈ filled) :
    ∃ bytes, s.driver.contents? f.id = some bytes ∧
      (∀ clone, s.vars.get? clone = some (.object f.ref) →
        ∃ s', s.step (.buffer clone .size) = some (bytes.length, s')) ∧
      (∀ data usage, ∃ s', s.step (.buffer name (.setData data usage)) = some ((), s') ∧
        ∀ i, s'.driver.contents? i =
          if i = f.id then some data.bytes else s.driver.contents? i) ∧
      (∀ n usage, ∃ s', s.step (.buffer name (.allocate n usage)) = some ((), s') ∧
        ∀ i, s'.driver.contents? i =
          if i = f.id then some (List.replicate n 0) else s.driver.contents? i) ∧
      ∀ offset data,
        (offset + data.bytes.length ≤ bytes.length →
          ∃ s', s.step (.buffer name (.setSubData offset data)) = some (.ok (), s') ∧
            (∀ i, s'.driver.contents? i = if i = f.id then
              some (bytes.take offset ++ data.bytes ++ bytes.drop (offset + data.bytes.length))
              else s.driver.contents? i) ∧
            s'.driver.errors =
              if (s.enter 0).config.checkErrors then s.driver.errors.tail
              else s.driver.errors) ∧
        (¬ offset + data.bytes.length ≤ bytes.length →
          s.step (.buffer name (.setSubData offset data)) =
            some (.error (.outOfBounds offset data.bytes.length bytes.length), s)) := by
  obtain ⟨hc, hz, hid, old, hold, hsize⟩ := h.store hf hr
  have hready := h.reachable.inv.sound.ready
  have hlength : old.bytes.length = f.known.size := old.length_bytes.trans hsize.symm
  have hstored (data : StoreContents) (usage : BufferUsage) (site : Site) (i : Id) :=
    Sim.contents?_of_buffers (f.known.lands_setStore hready hid hz data usage site i)
  refine ⟨old.bytes, congrArg (Option.map _) hold, fun clone hclone => ?_, fun data usage => ?_,
    fun n usage => ?_, fun offset data => ⟨fun hfits => ?_, fun hfits => ?_⟩⟩
  · obtain ⟨s', hstep, -⟩ := step_buffer (find?_of_ref hf hclone) hc .size
    exact ⟨s', hlength ▸ hstep⟩
  · obtain ⟨s', hstep, hdriver⟩ := step_buffer hf hc (.setData data usage)
    refine ⟨s', hstep, fun i => ?_⟩
    rw [hdriver, ← DataStore.bytes_ofContents_bytes data.bytes]
    exact hstored (.bytes data.bytes) usage .settingBufferData i
  · obtain ⟨s', hstep, hdriver⟩ := step_buffer hf hc (.allocate n usage)
    refine ⟨s', hstep, fun i => ?_⟩
    rw [hdriver, ← DataStore.bytes_ofContents_unspecified n]
    exact hstored (.unspecified n) usage .allocatingBuffer i
  · obtain ⟨hok, hbuffers, herrors⟩ :=
      f.known.lands_setSubData hready hid hold hsize (hlength ▸ hfits)
    obtain ⟨s', hstep, hdriver⟩ := step_buffer hf hc (.setSubData offset data)
    refine ⟨s', hok ▸ hstep, fun i => ?_, hdriver ▸ herrors⟩
    rw [hdriver, ← DataStore.bytes_write]
    exact Sim.contents?_of_buffers (hbuffers i)
  · rw [hlength] at hfits ⊢
    exact step_setSubData_of_not_fits hf hfits

/-- An element buffer that is made with data and cloned, and an array buffer of the same size that
is bound after it. -/
def cloned : Option (List Ref × Session Sim) :=
  (start .fresh { strictUnbind := true }).performFilling []
    [.create "e" 0 (.bufferWithData .elementArray ⟨.u16, [1, 2]⟩ .staticDraw),
      .create "a" 0 (.buffer .array), .buffer "a" (.allocate 4 .dynamicDraw), .clone "e" "c",
      .bind "e", .bind "a", .context 0 .invalidateBindings]

/-- A byte that fits is written through the clone, and one at the end of the address space is
not. -/
theorem cloned_is_written : ∃ filled s s', cloned = some (filled, s) ∧
    s.step (.buffer "c" (.setSubData 3 ⟨.u8, [7]⟩)) = some (.ok (), s') ∧
    s'.driver.contents? 1 = some [1, 0, 2, 7] ∧ s'.driver.contents? 2 = some [0, 0, 0, 0] ∧
    s'.driver.errors = [] ∧
    s.step (.buffer "c" (.setSubData (2 ^ 64 - 1) ⟨.u8, [7]⟩)) =
      some (.error (.outOfBounds (2 ^ 64 - 1) 1 4), s) := by
  have hfound : cloned.map (fun x => ((x.2.find? Payload.buffer? "c").map fun f =>
      (f.id, x.1.contains f.ref), x.2.driver.contents? 1, x.2.driver.contents? 2,
      x.2.driver.errors)) =
      some (some (1, true), some [1, 0, 2, 0], some [0, 0, 0, 0], []) := by cbv
  obtain ⟨⟨filled, s⟩, hs, he⟩ := Option.map_eq_some_iff.mp hfound
  simp only [Prod.mk.injEq, Option.map_eq_some_iff, List.contains_iff_mem] at he
  obtain ⟨⟨f, hf, hid, hmem⟩, hfirst, hsecond, herrors⟩ := he
  obtain ⟨bytes, hbytes, -, -, -, hpart⟩ :=
    buffers_are_byte_arrays (Filling.start.perform hs) hf hmem
  rw [hid, hfirst, Option.some.injEq] at hbytes
  subst hbytes
  obtain ⟨s', hstep, hcontents, hraised⟩ := (hpart 3 ⟨.u8, [7]⟩).1 (by decide)
  rw [herrors, List.tail_nil, ite_self] at hraised
  have hrefused := (hpart (2 ^ 64 - 1) ⟨.u8, [7]⟩).2 (by decide)
  refine ⟨filled, s, s', hs, hstep, ?_, ?_, hraised, hrefused⟩
  · rw [hcontents 1, hid]
    rfl
  · rw [hcontents 2, hid]
    exact hsecond

end Session

end GraphicsObjects
