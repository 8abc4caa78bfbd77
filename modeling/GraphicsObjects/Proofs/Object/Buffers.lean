import GraphicsObjects.Proofs.Object.Draws
import GraphicsObjects.Proofs.Object.Refusals

/-!
# Commands on a buffer

An operation on a buffer sends one command while the buffer is bound, or does nothing. The command
is carried out in a context that differs in bindings only, and only bindings change afterwards: so
the command has its effect on the store of the buffer, and the errors that it raises are its own.
-/

namespace GraphicsObjects

open ContextM Sim Simulation

variable {α : Type} {live : List (Kind × Id)} {held : List (Slot × Id)} {slot : Slot} {id : Id}
variable {c c' c'' : Context Sim} {b : Buffer}

/-! ## Errors -/

theorem Sim.takeError_eq (s : Sim) : s.takeError.2 = { s with errors := s.errors.tail } := by
  unfold takeError
  obtain ⟨_, errors, _⟩ := s
  cases errors <;> rfl

/-- After a command a context that checks errors takes the oldest one. -/
theorem ContextM.driver_command (q : Request) (site : Site) (c : Context Sim) :
    (command q site c).2.driver = if c.config.checkErrors then
      { c.driver.serve q with errors := (c.driver.serve q).errors.tail } else c.driver.serve q := by
  rw [← takeError_eq]
  exact driver_checkError site (perform q c).2

/-! ## Contexts that differ in bindings -/

/-- Objects are bound; contents and errors are as before. -/
structure Context.Rebound (live : List (Kind × Id)) (c c' : Context Sim) : Prop where
  kept : c.Kept live nothing c'
  errors : c'.driver.errors = c.driver.errors

theorem Context.Rebound.trans (h : c.Rebound live c') (h' : c'.Rebound live c'') :
    c.Rebound live c'' :=
  ⟨h.kept.trans h'.kept, h'.errors.trans h.errors⟩

theorem Context.Rebound.buffer (h : c.Rebound live c') (i : Id) :
    c'.driver.buffers.get? i = c.driver.buffers.get? i :=
  ObjectState.buffer.inj (h.kept.others .buffer i not_false)

namespace ContextM

theorem rebound_acquire (h : c.Ready live held) (ha : slot.Admits live id) (hs : slot.Spares held)
    (hw : Within held nothing (.bind slot 0)) (ht : ∀ unit target, slot ≠ .texture unit target) :
    (acquire slot id c).2.Ready live (slot.holding id ++ held) ∧
      c.Rebound live (acquire slot id c).2 := by
  obtain ⟨hready, hkept⟩ := work_acquire ha hs (within_rebind hw) c h
  exact ⟨hready, hkept, congrArg Prod.snd (outcome_bind h ha ht)⟩

theorem rebound_release {g : Guard} (h : c.Ready live held) (hg : g.Restorable live)
    (hs : g.slot.Spares held) (hw : Within held nothing (.bind g.slot 0))
    (ht : ∀ unit target, g.slot ≠ .texture unit target) :
    (release g c).2.Ready live held ∧ c.Rebound live (release g c).2 := by
  obtain ⟨hready, hkept⟩ := work_release hg hs hw c h
  exact ⟨hready, hkept, congrArg Prod.snd (outcome_release h hg ht)⟩

/-- What is done while an object is bound has the effect that it has in some context that differs
in bindings only and has the object bound. -/
theorem rebound_holding (h : c.Ready live []) (ha : slot.Admits live id)
    (hw : Within [] nothing (.bind slot 0)) (ht : ∀ unit target, slot ≠ .texture unit target)
    {may : Kind → Id → Prop} {act : ContextM Sim α}
    (hact : Work live may (slot.holding id ++ []) (slot.holding id ++ []) act) :
    ∃ c₁ : Context Sim, c₁.Ready live (slot.holding id ++ []) ∧ c.Rebound live c₁ ∧
      (act c₁).2.Rebound live (holding slot id act c).2 := by
  obtain ⟨h₁, hr₁⟩ := rebound_acquire h ha (Slot.spares_nil _) hw ht
  obtain ⟨h₂, -⟩ := hact _ h₁
  obtain ⟨-, hr₂⟩ := rebound_release (h₂.weaken fun _ => List.mem_append_right _)
    (restorable_acquire h slot id) (Slot.spares_nil _) hw ht
  exact ⟨_, h₁, hr₁, hr₂⟩

end ContextM

/-! ## Stores -/

namespace Sim

variable {d : Sim} {target : BufferTarget}

theorem buffers_bufferData (hb : d.bound (.buffer target) = id) (hz : id ≠ 0)
    (contents : StoreContents) (i : Id) : (d.bufferData target contents).buffers.get? i =
      if i = id then some (.ofContents contents) else d.buffers.get? i := by
  simp only [bufferData, hb, if_neg hz]
  exact Table.get?_insert ..

theorem bufferSubData_eq (hb : d.bound (.buffer target) = id) {old : DataStore}
    (hold : d.buffers.get? id = some old) {offset : Nat} {data : Bytes}
    (hfits : offset + data.length ≤ old.size) :
    d.bufferSubData target offset data =
      { d with buffers := d.buffers.insert id (old.write offset data) } := by
  simp only [bufferSubData, hb, hold, if_pos hfits]

end Sim

namespace Buffer

/-! ## Commands -/

/-- The command that an operation sends, and where from. A part that does not fit is not sent. -/
def request? (b : Buffer) : BufferOp → Option (Request × Site)
  | .setData data usage => some (.bufferData b.target (.bytes data.bytes) usage, .settingBufferData)
  | .allocate size usage =>
    some (.bufferData b.target (.unspecified size) usage, .allocatingBuffer)
  | .setSubData offset data =>
    if offset + data.bytes.length ≤ b.size then
      some (.bufferSubData b.target offset data.bytes, .settingBufferSubData)
    else none
  | .size | .target => none

theorem of_request? {op : BufferOp} {q : Request} {site : Site}
    (h : b.request? op = some (q, site)) (id : Id) (c : Context Sim) :
    q.IsContent ∧ (∀ s : Sim, s.aim q = some (.buffer, s.bound b.slot)) ∧
      op.failure? (op.run id b c).1.1 = none ∧
      (op.run id b c).2 = (b.updating id (command q site) c).2 := by
  cases op with
  | setData | allocate =>
      cases h
      exact ⟨trivial, fun _ => rfl, rfl, rfl⟩
  | setSubData offset data =>
      simp only [request?] at h
      split at h
      · rename_i hfits
        cases h
        simp only [BufferOp.run, setSubData, if_pos hfits]
        exact ⟨trivial, fun _ => rfl, rfl, rfl⟩
      · cases h
  | size | target => cases h

/-- While an element buffer is updated no vertex array is bound. -/
theorem rebound_updating (h : c.Ready live []) (hid : b.slot.Admits live id)
    {may : Kind → Id → Prop} {act : ContextM Sim α}
    (hact : ∀ held, (b.slot, id) ∈ held → Work live may held held act) :
    ∃ c₁ : Context Sim, c₁.driver.bound b.slot = id ∧ c.Rebound live c₁ ∧
      (act c₁).2.Rebound live (b.updating id act c).2 := by
  have hslot : ∀ unit target, b.slot ≠ .texture unit target := by simp [Buffer.slot]
  have hmem : ∀ held, (b.slot, id) ∈ b.slot.holding id ++ held := fun _ => List.mem_cons_self
  unfold updating
  split
  · rename_i ht
    have hspares : b.slot.Spares (Slot.vertexArray.holding 0 ++ []) := by
      refine Slot.spares_cons (by decide) ?_ (Slot.spares_nil _)
      simp [Buffer.slot, Slot.touched, Slot.written, Slot.registers]
    have hwithin : Within (Slot.vertexArray.holding 0 ++ []) nothing (.bind b.slot 0) := by
      intro s hs k i haim
      have hv : s.bound .vertexArray = 0 := hs (.vertexArray, 0) List.mem_cons_self
      simp [Buffer.slot, ht, aim, hv] at haim
    have hvertexArray : Within [] nothing (.bind .vertexArray 0) := within_bind (by decide)
    have hnoTexture : ∀ unit target, Slot.vertexArray ≠ .texture unit target := by simp
    obtain ⟨h₁, hr₁⟩ := rebound_acquire h (Slot.vertexArray.admits_zero live) (Slot.spares_nil _)
      hvertexArray hnoTexture
    obtain ⟨h₂, hr₂⟩ := rebound_acquire h₁ hid hspares hwithin hslot
    obtain ⟨h₃, -⟩ := hact _ (hmem _) _ h₂
    obtain ⟨h₄, hr₄⟩ := rebound_release (h₃.weaken fun _ => List.mem_append_right _)
      (restorable_acquire h₁ b.slot id) hspares hwithin hslot
    obtain ⟨-, hr₅⟩ := rebound_release (h₄.weaken fun _ => List.mem_append_right _)
      (restorable_acquire h .vertexArray 0) (Slot.spares_nil _) hvertexArray hnoTexture
    exact ⟨_, h₂.held _ (hmem _), hr₁.trans hr₂, hr₄.trans hr₅⟩
  · rename_i ht
    have hwithin : Within [] nothing (.bind b.slot 0) :=
      within_bind fun e => ht (Slot.buffer.inj e)
    obtain ⟨c₁, h₁, hbefore, hafter⟩ := rebound_holding h hid hwithin hslot (hact _ (hmem _))
    exact ⟨c₁, h₁.held _ (hmem _), hbefore, hafter⟩

/-- What a command makes of the store of the buffer and of the errors that are pending: what its
request makes of them in a driver with the same stores and errors that has the buffer bound. -/
theorem lands_updating (h : c.Ready live []) (hid : b.slot.Admits live id) {q : Request}
    (hq : q.IsContent) (site : Site) : ∃ d : Sim, d.bound b.slot = id ∧
      (∀ i, d.buffers.get? i = c.driver.buffers.get? i) ∧ d.errors = c.driver.errors ∧
      (∀ i, (b.updating id (command q site) c).2.driver.buffers.get? i =
        (execute q d).2.buffers.get? i) ∧
      (b.updating id (command q site) c).2.driver.errors =
        if c.config.checkErrors then (execute q d).2.errors.tail else (execute q d).2.errors := by
  have hact : ∀ held, (b.slot, id) ∈ held →
      Work live (fun _ _ => True) held held (command q site) :=
    fun _ _ => work_command hq Sim.within_anything
  obtain ⟨c₁, hbound, hbefore, hafter⟩ := rebound_updating h hid hact
  refine ⟨c₁.driver.receive q, (bound_receive ..).trans hbound, fun i => ?_, ?_, fun i => ?_, ?_⟩
  · exact (ObjectState.buffer.inj (stateOf_receive c₁.driver q .buffer i)).trans (hbefore.buffer i)
  · exact (congrArg Prod.snd (outcome_receive c₁.driver q)).trans hbefore.errors
  · rw [hafter.buffer, driver_command]
    split <;> rfl
  · rw [hafter.errors, driver_command, hbefore.kept.config]
    split <;> rfl

/-- The buffer gets a new store, and no other one does. -/
theorem lands_setStore (b : Buffer) (h : c.Ready live []) (hid : b.slot.Admits live id)
    (hz : id ≠ 0) (contents : StoreContents) (usage : BufferUsage) (site : Site) (i : Id) :
    (b.setStore id contents usage site c).2.driver.buffers.get? i =
      if i = id then some (.ofContents contents) else c.driver.buffers.get? i := by
  have hq : (Request.bufferData b.target contents usage).IsContent := trivial
  obtain ⟨d, hbound, hbuffers, -, hafter, -⟩ := lands_updating h hid hq site
  rw [← hbuffers]
  exact (hafter i).trans (buffers_bufferData hbound hz contents i)

/-- A part that fits is replaced, and no error is raised. -/
theorem lands_setSubData (b : Buffer) (h : c.Ready live []) (hid : b.slot.Admits live id)
    {old : DataStore} (hold : c.driver.buffers.get? id = some old) {offset : Nat} {data : Bytes}
    (hsize : b.size = old.size) (hfits : offset + data.length ≤ b.size) :
    (b.setSubData id offset data c).1 = .ok () ∧
      (∀ i, (b.setSubData id offset data c).2.driver.buffers.get? i =
        if i = id then some (old.write offset data) else c.driver.buffers.get? i) ∧
      (b.setSubData id offset data c).2.driver.errors =
        if c.config.checkErrors then c.driver.errors.tail else c.driver.errors := by
  have hq : (Request.bufferSubData b.target offset data).IsContent := trivial
  obtain ⟨d, hbound, hbuffers, herrors, hafter, hraised⟩ :=
    lands_updating h hid hq .settingBufferSubData
  have hexecute := bufferSubData_eq hbound ((hbuffers id).trans hold) (hsize ▸ hfits)
  simp only [setSubData, if_pos hfits]
  refine ⟨rfl, fun i => (hafter i).trans ?_, hraised.trans ?_⟩
  · simp only [execute, hexecute, Table.get?_insert, hbuffers]
  · simp only [execute, hexecute, herrors]

theorem setSubData_of_not_fits (b : Buffer) {offset : Nat} {data : Bytes}
    (h : ¬ offset + data.length ≤ b.size) (id : Id) (c : Context Sim) :
    b.setSubData id offset data c = (.error (.outOfBounds offset data.length b.size), c) := by
  simp only [setSubData, if_neg h]
  rfl

end Buffer

end GraphicsObjects
