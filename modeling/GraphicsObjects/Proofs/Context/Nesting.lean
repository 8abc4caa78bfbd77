import GraphicsObjects.Proofs.Context.Holding

/-!
# Nested guards

Guards are acquired and released like brackets. Between an acquisition and its release other guards
come and go, on the same slot or on others: the unit of a texture stays active and the element array
binding goes with the vertex array, every other register that was known is put back.
-/

namespace GraphicsObjects

/-- The registers that nested guards put back whatever slots they are on. -/
def Slot.Lasting (r : Slot) : Prop := r.IsRegister ∧ r ≠ .activeTexture ∧ r ≠ .elementArray

namespace Context

/-- The register holds `id`, in the cache and in the driver. -/
def Holds (c : Context Sim) (r : Slot) (id : Id) : Prop :=
  c.cache.belief r = .bound id ∧ c.driver.bound r = id

/-- What is known of lasting registers is known of them later on. -/
def Retains (c c' : Context Sim) : Prop :=
  ∀ r id, r.Lasting → c.cache.belief r = .bound id → c'.cache.belief r = .bound id

end Context

/-! ## Steps -/

/-- One more guard is acquired, or the latest one is released. -/
inductive GuardStep where
  | acquire (slot : Slot) (id : Id)
  | release
  deriving DecidableEq

/-- Guards are on single registers, and bind what may be bound. -/
def GuardStep.Admissible (live : List (Kind × Id)) : GuardStep → Prop
  | acquire slot id => slot.IsRegister ∧ slot.Admits live id
  | release => True

/-- Every acquisition has its release, with a well-nested sequence in between. -/
inductive WellNested : List GuardStep → Prop
  | nil : WellNested []
  | scope (slot : Slot) (id : Id) {inner rest : List GuardStep} (hi : WellNested inner)
      (hr : WellNested rest) : WellNested (.acquire slot id :: (inner ++ .release :: rest))

/-- A context with the guards that are held, the latest first. -/
structure Nest where
  context : Context Sim
  guards : List Guard := []

namespace Nest

def step (n : Nest) : GuardStep → Nest
  | .acquire slot id =>
    let (g, c) := ContextM.acquire slot id n.context
    ⟨c, g :: n.guards⟩
  | .release =>
    match n.guards with
    | [] => n
    | g :: gs => ⟨(ContextM.release g n.context).2, gs⟩

def run (n : Nest) (steps : List GuardStep) : Nest := steps.foldl step n

theorem run_append (n : Nest) (xs ys : List GuardStep) : n.run (xs ++ ys) = (n.run xs).run ys :=
  List.foldl_append

end Nest

/-! ## One bind -/

namespace ContextM

variable {c : Context Sim} {slot r : Slot} {id : Id}

theorem isActive_bind (c : Context Sim) (slot : Slot) (id : Id) :
    (ContextM.bind slot id c).2.cache.isActive slot id = true := by
  cases slot with
  | texture unit target => exact isActive_bindSlot (bindSlot .activeTexture unit c).2 _ id
  | _ => exact isActive_bindSlot c _ id

/-- A bind is seen in the registers of its slot; elsewhere only the active unit and the element
array binding may change. -/
theorem belief_bind (c : Context Sim) (id : Id) (hr : r.Lasting) (hn : r ∉ slot.registers) :
    (ContextM.bind slot id c).2.cache.belief r = c.cache.belief r := by
  obtain ⟨-, hu, he⟩ := hr
  cases slot with
  | texture unit target =>
      have hunit : r ∉ Slot.activeTexture.registers := by simpa [Slot.registers] using hu
      exact (belief_bindSlot _ id hn he).trans (belief_bindSlot c unit hunit he)
  | _ => exact belief_bindSlot c id hn he

theorem belief_release {g : Guard} (c : Context Sim) (hr : r.Lasting) (hn : r ∉ g.slot.registers) :
    (release g c).2.cache.belief r = c.cache.belief r := by
  obtain ⟨slot, previous, restore⟩ := g
  cases previous with
  | none => rfl
  | some id =>
      cases restore with
      | false => rfl
      | true => exact belief_bind c id hr hn

/-- A guard records what its slot was known to hold. -/
theorem acquire_known {x : Id} (hs : slot.IsRegister) (hk : c.cache.belief slot = .bound x)
    (hstrict : c.config.strictUnbind = true) (id : Id) :
    (acquire slot id c).1 = { slot, previous := some x, restore := true } := by
  rw [← hstrict, ← (BindingCache.knownBinding_eq_some_iff hs).mpr hk]
  rfl

end ContextM

namespace Nest

variable {n n' : Nest} {live : List (Kind × Id)} {steps inner tail : List GuardStep}
variable {s : GuardStep} {slot : Slot} {id x : Id}

/-! ## Any sequence -/

/-- Guards restore, and what they restore may be bound. -/
structure Sound (live : List (Kind × Id)) (n : Nest) : Prop where
  ready : n.context.Ready live []
  strict : n.context.config.strictUnbind = true
  guards : ∀ g ∈ n.guards, g.Restorable live

theorem Sound.step (h : n.Sound live) (ha : s.Admissible live) : (n.step s).Sound live := by
  cases s with
  | acquire slot id =>
      have hwork : ContextM.Work live (fun _ _ => True) [] _ (ContextM.acquire slot id) :=
        ContextM.work_acquire ha.2 slot.spares_nil Sim.within_anything
      obtain ⟨hready, hkept⟩ := hwork n.context h.ready
      refine ⟨hready.weaken nofun, (congrArg _ hkept.config).trans h.strict, ?_⟩
      exact List.forall_mem_cons.mpr ⟨ContextM.restorable_acquire h.ready slot id, h.guards⟩
  | release =>
      obtain ⟨c, gs⟩ := n
      cases gs with
      | nil => exact h
      | cons g gs =>
          obtain ⟨hg, hgs⟩ := List.forall_mem_cons.mp h.guards
          have hwork : ContextM.Work live (fun _ _ => True) [] [] (ContextM.release g) :=
            ContextM.work_release hg g.slot.spares_nil Sim.within_anything
          obtain ⟨hready, hkept⟩ := hwork c h.ready
          exact ⟨hready, (congrArg _ hkept.config).trans h.strict, hgs⟩

theorem Sound.run (h : n.Sound live) (ha : ∀ s ∈ steps, s.Admissible live) :
    (n.run steps).Sound live := by
  induction steps generalizing n with
  | nil => exact h
  | cons s steps ih =>
      obtain ⟨hs, hsteps⟩ := List.forall_mem_cons.mp ha
      exact ih (h.step hs) hsteps

/-! ## Scopes -/

/-- What is released is the guard that was acquired, if no other is left in between. -/
theorem step_release (hg : n'.guards = (n.step (.acquire slot id)).guards) :
    n'.step .release =
      ⟨(ContextM.release (ContextM.acquire slot id n.context).1 n'.context).2, n.guards⟩ := by
  obtain ⟨c, gs⟩ := n'
  cases hg
  rfl

/-- A slot that was known when its guard was acquired holds the same after the release. -/
theorem Sound.holds_release (h : n.Sound live) (h' : n'.Sound live)
    (hg : n'.guards = (n.step (.acquire slot id)).guards) (hs : slot.IsRegister)
    (hk : n.context.cache.belief slot = .bound x) :
    n.context.Holds slot x ∧ (n'.step .release).context.Holds slot x := by
  have hready := (h'.step (s := .release) trivial).ready
  rw [step_release hg, ContextM.acquire_known hs hk h.strict] at hready ⊢
  have hactive := ContextM.isActive_bind n'.context slot x
  have hm : slot ∈ slot.registers := by simp [Slot.registers_of_isRegister hs]
  exact ⟨⟨hk, (h.ready.coherent.agrees slot x hs hk).1⟩,
    BindingCache.belief_of_isActive hactive hm, hready.coherent.bound_of_isActive hactive hm⟩

theorem Sound.retains_scope (h : n.Sound live) (h' : n'.Sound live)
    (hg : n'.guards = (n.step (.acquire slot id)).guards) (hs : slot.IsRegister)
    (hi : (n.step (.acquire slot id)).context.Retains n'.context) :
    n.context.Retains (n'.step .release).context := by
  intro r x hr hb
  by_cases hrs : r = slot
  · subst hrs
    exact (h.holds_release h' hg hs hb).2.1
  · have hm : r ∉ slot.registers := by simpa [Slot.registers_of_isRegister hs] using hrs
    have hbefore : (n.step (.acquire slot id)).context.cache.belief r = .bound x :=
      (ContextM.belief_bind n.context id hr hm).trans hb
    rw [step_release hg]
    exact (ContextM.belief_release n'.context hr hm).trans (hi r x hr hbefore)

/-! ## Well-nested sequences -/

/-- After a well-nested sequence the guards are those from before, and what was known of lasting
registers is known again. -/
theorem Sound.run_wellNested (h : n.Sound live) (hw : WellNested steps)
    (ha : ∀ s ∈ steps, s.Admissible live) :
    (n.run steps).guards = n.guards ∧ n.context.Retains (n.run steps).context := by
  induction hw generalizing n with
  | nil => exact ⟨rfl, fun _ _ _ hb => hb⟩
  | @scope slot id inner rest _ _ hinner hrest =>
      obtain ⟨hacquire, ha⟩ := List.forall_mem_cons.mp ha
      obtain ⟨hain, ha⟩ := List.forall_mem_append.mp ha
      obtain ⟨hrelease, harest⟩ := List.forall_mem_cons.mp ha
      have h₁ := h.step hacquire
      have h₂ := h₁.run hain
      obtain ⟨hguards, hretains⟩ := hinner h₁ hain
      obtain ⟨hguards', hretains'⟩ := hrest (h₂.step hrelease) harest
      have hscope := h.retains_scope h₂ hguards hacquire.1 hretains
      have hreleased := congrArg Nest.guards (step_release hguards)
      have hrun : n.run (.acquire slot id :: (inner ++ .release :: rest)) =
          (((n.step (.acquire slot id)).run inner).step .release).run rest :=
        (n.step (.acquire slot id)).run_append inner (.release :: rest)
      rw [hrun]
      exact ⟨hguards'.trans hreleased, fun r x hr hb => hretains' r x hr (hscope r x hr hb)⟩

end Nest

/-- Every guard that is acquired in a well-nested sequence is released in it. -/
theorem WellNested.release_of_acquire {before tail : List GuardStep} {slot : Slot} {id : Id}
    (h : WellNested (before ++ .acquire slot id :: tail)) :
    ∃ inner after, WellNested inner ∧ tail = inner ++ .release :: after := by
  generalize hs : before ++ .acquire slot id :: tail = steps at h
  induction h generalizing before tail with
  | nil => simp at hs
  | @scope slot' id' inner rest hi hr hinner hrest =>
      cases before with
      | nil =>
          cases hs
          exact ⟨inner, rest, hi, rfl⟩
      | cons s before =>
          rw [List.cons_append, List.cons.injEq] at hs
          -- the acquisition is inside the scope or after it
          rcases List.append_eq_append_iff.mp hs.2 with ⟨xs, rfl, he⟩ | ⟨xs, rfl, he⟩
          · cases xs with
            | nil => cases he
            | cons x xs =>
                cases he
                obtain ⟨inner', after, hw, rfl⟩ := hinner rfl
                exact ⟨inner', after ++ .release :: rest, hw, by simp⟩
          · cases xs with
            | nil => cases he
            | cons x xs =>
                cases he
                exact hrest rfl

namespace Nest

variable {c : Context Sim} {steps : List GuardStep}

/-- Nested guards compose: when all are released, lasting registers that were known hold what they
held, and each guard has left its slot, if that was known, as it found it. -/
theorem wellNested_restores (hw : WellNested steps)
    (ha : ∀ s ∈ steps, s.Admissible c.driver.live) (hs : c.config.strictUnbind = true)
    (hc : ∀ r id, r.IsRegister → c.cache.belief r = .bound id →
      c.driver.bound r = id ∧ r.Admits c.driver.live id) :
    (run ⟨c, []⟩ steps).guards = [] ∧
      (∀ r id, r.Lasting → c.cache.belief r = .bound id →
        (run ⟨c, []⟩ steps).context.Holds r id) ∧
      ∀ before slot id tail, steps = before ++ .acquire slot id :: tail →
        ∃ inner after, WellNested inner ∧ tail = inner ++ .release :: after ∧
          ∀ x, (run ⟨c, []⟩ before).context.cache.knownBinding slot = some x →
            (run ⟨c, []⟩ before).context.Holds slot x ∧
            (run ⟨c, []⟩ (before ++ .acquire slot id :: (inner ++ [.release]))).context.Holds
              slot x := by
  have h : Sound c.driver.live ⟨c, []⟩ := ⟨⟨rfl, .of_agrees hc, nofun⟩, hs, nofun⟩
  obtain ⟨hguards, hretains⟩ := h.run_wellNested hw ha
  refine ⟨hguards, fun r id hr hb => ?_, ?_⟩
  · have hbelief := hretains r id hr hb
    exact ⟨hbelief, ((h.run ha).ready.coherent.agrees r id hr.1 hbelief).1⟩
  · rintro before slot id tail rfl
    obtain ⟨inner, after, hi, rfl⟩ := hw.release_of_acquire
    obtain ⟨habefore, ha⟩ := List.forall_mem_append.mp ha
    obtain ⟨hacquire, ha⟩ := List.forall_mem_cons.mp ha
    obtain ⟨hain, -⟩ := List.forall_mem_append.mp ha
    refine ⟨inner, after, hi, rfl, fun x hx => ?_⟩
    have h₀ := h.run habefore
    have h₁ := h₀.step hacquire
    have hbelief := (BindingCache.knownBinding_eq_some_iff hacquire.1).mp hx
    have hrun : run ⟨c, []⟩ (before ++ .acquire slot id :: (inner ++ [.release])) =
        (((run ⟨c, []⟩ before).step (.acquire slot id)).run inner).step .release := by
      simp only [run, List.foldl_append, List.foldl_cons, List.foldl_nil]
    rw [hrun]
    exact h₀.holds_release (h₁.run hain) (h₁.run_wellNested hi hain).1 hacquire.1 hbelief

def stock : Sim := ((Sim.genMany .texture 2 .fresh).2.gen .vertexArray).2

/-- One texture is bound on unit 1, and a vertex array, whose element array binding is unknown. -/
def stockBinds : ContextM Sim Unit := do
  ContextM.bind (.texture 1 .texture2D) 1
  ContextM.bind .vertexArray 1

def stocked : Context Sim := (stockBinds (.new stock { strictUnbind := true })).2

/-- Guards on two units and a vertex array, one of them on a slot that is guarded already. -/
def crossedScopes : List GuardStep :=
  [.acquire (.texture 1 .texture2D) 2, .acquire .vertexArray 0, .acquire (.texture 0 .texture2D) 1,
    .release, .acquire (.texture 1 .texture2D) 0, .release, .release, .acquire .elementArray 0,
    .release, .release]

theorem stocked_survives_crossedScopes :
    (run ⟨stocked, []⟩ crossedScopes).guards = [] ∧
      (run ⟨stocked, []⟩ crossedScopes).context.Holds (.texture 1 .texture2D) 1 ∧
      (run ⟨stocked, []⟩ crossedScopes).context.Holds .vertexArray 1 := by
  have hwell : WellNested crossedScopes :=
    let units := WellNested.scope (.texture 0 .texture2D) 1 .nil
      (.scope (.texture 1 .texture2D) 0 .nil .nil)
    WellNested.scope (.texture 1 .texture2D) 2
      (.scope .vertexArray 0 units (.scope .elementArray 0 .nil .nil)) .nil
  have hlive : stocked.driver.live = [(.vertexArray, 1), (.texture, 2), (.texture, 1)] := by cbv
  have hadmissible : ∀ s ∈ crossedScopes, s.Admissible stocked.driver.live := by
    rw [hlive]
    simp [crossedScopes, GuardStep.Admissible, Slot.IsRegister, Slot.Admits, Slot.kind?]
  have hnew : (Context.new stock { strictUnbind := true }).Ready stock.live [] :=
    ⟨rfl, BindingCache.Coherent.fresh.congr rfl (List.forall_mem_nil _), List.forall_mem_nil _⟩
  have hbinds : ContextM.Work stock.live (fun _ _ => True) [] [] stockBinds :=
    .bind (ContextM.work_bind (by decide) (Slot.spares_nil _) Sim.within_anything).forget
      fun _ => (ContextM.work_bind (by decide) (Slot.spares_nil _) Sim.within_anything).forget
  have hcoherent : stocked.cache.Coherent stocked.driver := (hbinds _ hnew).1.coherent
  obtain ⟨hguards, hholds, -⟩ := wellNested_restores hwell hadmissible (by cbv) hcoherent.agrees
  exact ⟨hguards, hholds _ _ (by simp [Slot.Lasting, Slot.IsRegister]) (by cbv),
    hholds _ _ (by simp [Slot.Lasting, Slot.IsRegister]) (by cbv)⟩

end Nest

end GraphicsObjects
