import GraphicsObjects.Proofs.Simulation.Links

/-!
# Requests one after the other

Whatever is done in a context, its driver serves requests. What each of them keeps is kept by all of
them together; above all, a buffer that is not deleted has a store of the same size until a request
replaces its store.
-/

namespace GraphicsObjects

open Simulation

namespace Request

/-- The request replaces the store of a buffer. -/
def Fills : Request → Prop
  | bufferData .. => True
  | _ => False

/-- The request neither creates nor deletes objects, ties none together and replaces no store. It
may bind anything but an element buffer. -/
def Plain : Request → Prop
  | genObjects .. | createShader _ | createProgram => False
  | deleteObjects .. | deleteShader _ | deleteProgram _ => False
  | framebufferRenderbuffer .. | framebufferTexture .. => False
  | attachShader .. | detachShader .. | linkProgram _ => False
  | bufferData .. => False
  | bind slot _ => slot ≠ .elementArray
  | _ => True

/-- The objects that are to be deleted. -/
def deletes : Request → List (Kind × Id)
  | deleteObjects kind ids => ids.map (kind, ·)
  | deleteShader id => [(.shader, id)]
  | deleteProgram id => [(.program, id)]
  | _ => []

/-- Stores are replaced only if `fills` holds. -/
def Permitted (fills : Prop) (q : Request) : Prop := q.Fills → fills

variable {tied fills : Prop} {q : Request}

theorem Plain.keepsLinks (h : q.Plain) : q.KeepsLinks tied := by
  cases q with
  | bind slot id => exact fun _ => h
  | _ => first | exact trivial | exact h.elim

theorem Plain.permitted (h : q.Plain) : q.Permitted fills := by
  cases q with
  | bufferData => exact h.elim
  | _ => exact False.elim

end Request

namespace Sim

/-- The second driver has served requests after the first, all of them allowed. -/
def Served (allowed : Request → Prop) : Sim → Sim → Prop :=
  Relation.ReflTransGen fun s s' => ∃ q, allowed q ∧ s' = s.serve q

variable {s s' s'' : Sim} {allowed allowed' : Request → Prop} {k : Kind} {id : Id} {q : Request}
variable {gone gone' : List (Kind × Id)}

theorem Served.mono (h : s.Served allowed s') (ha : ∀ q, allowed q → allowed' q) :
    s.Served allowed' s' := by
  refine Relation.ReflTransGen.mono ?_ _ _ h
  rintro a b ⟨q, hq, rfl⟩
  exact ⟨q, ha q hq, rfl⟩

/-! ## The sizes of stores -/

/-- The size of the store of a buffer that has been given one. -/
def storeSize? (s : Sim) (buffer : Id) : Option Nat := (s.buffers.get? buffer).map DataStore.size

theorem storeSize?_congr (h : s'.stateOf .buffer id = s.stateOf .buffer id) :
    s'.storeSize? id = s.storeSize? id :=
  congrArg (Option.map DataStore.size) (ObjectState.buffer.inj h)

/-- The objects in `gone` were deleted, and all other buffers have stores of the size that they
had. -/
structure KeepsSizes (gone : List (Kind × Id)) (s s' : Sim) : Prop where
  deleted : s'.deleted = s.deleted ++ gone
  sizes : ∀ id, (.buffer, id) ∉ gone → s'.storeSize? id = s.storeSize? id

theorem KeepsSizes.refl (s : Sim) : s.KeepsSizes [] s :=
  ⟨(List.append_nil _).symm, fun _ _ => rfl⟩

theorem KeepsSizes.trans (h : s.KeepsSizes gone s') (h' : s'.KeepsSizes gone' s'') :
    s.KeepsSizes (gone ++ gone') s'' where
  deleted := by rw [h'.deleted, h.deleted, List.append_assoc]
  sizes id hid := by
    rw [List.mem_append, not_or] at hid
    exact (h'.sizes id hid.2).trans (h.sizes id hid.1)

theorem Edits.deleted {o : Option (Kind × Id)} (h : s.Edits o s') : s'.deleted = s.deleted := by
  have hreg := h.registry
  simp only [Sim.registry, Prod.mk.injEq] at hreg
  rw [Sim.deleted, hreg.2.2.2]
  rfl

theorem KeepsSizes.of_edits {o : Option (Kind × Id)} (h : s.Edits o s')
    (ho : ∀ id, o = some (.buffer, id) → s'.storeSize? id = s.storeSize? id) :
    s.KeepsSizes [] s' where
  deleted := h.deleted.trans (List.append_nil _).symm
  sizes id _ := by
    by_cases he : o = some (.buffer, id)
    · exact ho id he
    · exact storeSize?_congr (h.others _ _ he)

/-- Writing inside a store leaves it as large as it was. -/
theorem storeSize?_bufferSubData (s : Sim) (target : BufferTarget) (offset : Nat) (data : Bytes)
    (id : Id) : (s.bufferSubData target offset data).storeSize? id = s.storeSize? id := by
  unfold bufferSubData
  dsimp only
  split
  · rfl
  · rename_i old hold
    split
    · rename_i hfits
      simp only [storeSize?, Table.get?_insert]
      split
      · rename_i hid
        rw [hid, hold, Option.map_some, Option.map_some, DataStore.size_write hfits]
      · rfl
    · rfl

theorem storeSize?_readPixels (s : Sim) (block : PixelBlock) (out : Bytes) (id : Id) :
    (s.readPixels block out).2.storeSize? id = s.storeSize? id := by
  have hfill (n : Nat) (b : UInt8) : (DataStore.fill n b).size = n := by
    simp [← DataStore.length_bytes]
  unfold readPixels
  dsimp only
  split
  · rfl
  · split
    · rfl
    · simp only [storeSize?, Table.get?_modify]
      split
      · simp [Function.comp_def, hfill]
      · rfl

theorem keepsSizes_content (s : Sim) (hq : q.IsContent) (hf : ¬ q.Fills) :
    s.KeepsSizes [] (execute q s).2 := by
  refine .of_edits (edits_execute s hq) fun id haim => ?_
  cases q with
  | bufferData => exact absurd trivial hf
  | bufferSubData target offset data => exact storeSize?_bufferSubData ..
  | readPixels block out => exact storeSize?_readPixels ..
  | bind => exact hq.elim
  | _ => cases haim

theorem keepsSizes_gen (s : Sim) (k : Kind) : s.KeepsSizes [] (s.gen k).2 := by
  rw [gen_eq]
  split
  · exact .refl s
  · refine ⟨?_, fun _ _ => rfl⟩
    simp [deleted]

theorem keepsSizes_genMany (s : Sim) (k : Kind) (n : Nat) :
    s.KeepsSizes [] (genMany k n s).2 := by
  induction n generalizing s with
  | zero => exact .refl s
  | succ n ih => exact (keepsSizes_gen s k).trans (ih _)

theorem keepsSizes_createShader (s : Sim) (stage : ShaderStage) :
    s.KeepsSizes [] (s.createShader stage).2 := by
  have hgen := keepsSizes_gen s .shader
  refine @KeepsSizes.trans _ _ _ [] [] hgen ?_
  unfold createShader
  dsimp only
  split <;> exact ⟨(List.append_nil _).symm, fun _ _ => rfl⟩

theorem keepsSizes_createProgram (s : Sim) : s.KeepsSizes [] s.createProgram.2 := by
  have hgen := keepsSizes_gen s .program
  refine @KeepsSizes.trans _ _ _ [] [] hgen ?_
  unfold createProgram
  dsimp only
  split <;> exact ⟨(List.append_nil _).symm, fun _ _ => rfl⟩

/-- Of the objects named, those in `gone` are live. -/
structure Grants (s : Sim) (named gone : List (Kind × Id)) : Prop where
  sublist : gone.Sublist named
  live : ∀ n ∈ gone, n ∈ s.live

theorem Grants.none (s : Sim) (named : List (Kind × Id)) : s.Grants named [] :=
  ⟨List.nil_sublist _, List.forall_mem_nil _⟩

theorem keepsSizes_delete (s : Sim) (k : Kind) (id : Id) :
    ∃ gone, s.Grants [(k, id)] gone ∧ s.KeepsSizes gone (s.delete k id) := by
  rcases s.delete_cases k id with h | ⟨hz, hl⟩
  · rw [h]
    exact ⟨[], .none s _, .refl s⟩
  · refine ⟨[(k, id)], ⟨.refl _, List.forall_mem_singleton.mpr hl⟩, deleted_delete hz hl,
      fun i hi => storeSize?_congr ?_⟩
    exact stateOf_delete hz hl fun e => hi (by simp [e])

theorem mem_live_of_delete {n : Kind × Id} (h : n ∈ (s.delete k id).live) : n ∈ s.live := by
  rcases s.delete_cases k id with he | ⟨hz, hl⟩
  · exact he ▸ h
  · rw [live_delete hz hl] at h
    exact List.mem_of_mem_filter h

theorem keepsSizes_deleteMany (s : Sim) (k : Kind) (ids : List Id) :
    ∃ gone, s.Grants (ids.map (k, ·)) gone ∧ s.KeepsSizes gone (s.deleteMany k ids) := by
  induction ids generalizing s with
  | nil => exact ⟨[], .none s _, .refl s⟩
  | cons id ids ih =>
      obtain ⟨gone, hgone, hfirst⟩ := s.keepsSizes_delete k id
      obtain ⟨gone', hgone', hrest⟩ := ih (s.delete k id)
      refine ⟨gone ++ gone', ⟨hgone.sublist.append hgone'.sublist, fun n hn => ?_⟩,
        hfirst.trans hrest⟩
      rcases List.mem_append.mp hn with hn | hn
      · exact hgone.live n hn
      · exact mem_live_of_delete (hgone'.live n hn)

theorem keepsSizes_bind (s : Sim) (slot : Slot) (id : Id) : s.KeepsSizes [] (s.bind slot id) := by
  refine ⟨?_, fun i _ => storeSize?_congr ?_⟩
  · rw [List.append_nil, deleted, calls_bind]
    rfl
  · rcases s.bind_cases slot id with h | ⟨-, h⟩
    · rw [h]
      rfl
    · rw [h]
      refine stateOf_place _ _ _ fun haim => ?_
      simp only [aim] at haim
      split at haim <;> simp_all

theorem keepsSizes_receive (s : Sim) (q : Request) : s.KeepsSizes [] (s.receive q) := by
  refine ⟨?_, fun id _ => storeSize?_congr (stateOf_receive s q _ id)⟩
  rw [deleted_receive, List.append_nil]

theorem keepsSizes_serve (s : Sim) (hf : ¬ q.Fills) :
    ∃ gone, s.Grants q.deletes gone ∧ s.KeepsSizes gone (s.serve q) := by
  have hreceive := s.keepsSizes_receive q
  cases q with
  | genObjects kind slots =>
      have hmade : (s.receive (.genObjects kind slots)).KeepsSizes []
          (execute (.genObjects kind slots) (s.receive (.genObjects kind slots))).2 := by
        simp only [execute]
        split
        · exact .refl _
        · exact keepsSizes_genMany ..
      exact ⟨_, .none s _, hreceive.trans hmade⟩
  | createShader stage => exact ⟨_, .none s _, hreceive.trans (keepsSizes_createShader _ stage)⟩
  | createProgram => exact ⟨_, .none s _, hreceive.trans (keepsSizes_createProgram _)⟩
  | deleteObjects kind ids => exact keepsSizes_deleteMany s kind ids
  | deleteShader id => exact keepsSizes_delete s .shader id
  | deleteProgram id => exact keepsSizes_delete s .program id
  | bind slot id => exact ⟨_, .none s _, hreceive.trans (keepsSizes_bind _ slot id)⟩
  | _ => exact ⟨_, .none s _, hreceive.trans (keepsSizes_content _ trivial hf)⟩

/-- What is deleted on request was live, and the request names it. -/
theorem deleted_serve (s : Sim) (q : Request) :
    ∃ gone, s.Grants q.deletes gone ∧ (s.serve q).deleted = s.deleted ++ gone := by
  by_cases hf : q.Fills
  · cases q with
    | bufferData target contents usage =>
        have hq : (Request.bufferData target contents usage).IsContent := trivial
        refine ⟨[], .none s _, (edits_execute _ hq).deleted.trans ?_⟩
        rw [deleted_receive, List.append_nil]
    | _ => exact hf.elim
  · obtain ⟨gone, hgone, hserve⟩ := s.keepsSizes_serve hf
    exact ⟨gone, hgone, hserve.deleted⟩

/-- As long as no store is replaced, the buffers that are left have stores of the same sizes. -/
theorem Served.keepsSizes (h : s.Served (Request.Permitted False) s') :
    ∃ gone, s.KeepsSizes gone s' := by
  induction h with
  | refl => exact ⟨[], .refl s⟩
  | tail _ hs ih =>
      obtain ⟨gone, hbefore⟩ := ih
      obtain ⟨q, hq, rfl⟩ := hs
      obtain ⟨gone', -, hserve⟩ := keepsSizes_serve _ hq
      exact ⟨gone ++ gone', hbefore.trans hserve⟩

end Sim

end GraphicsObjects
