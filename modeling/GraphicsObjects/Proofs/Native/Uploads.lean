import GraphicsObjects.Native.Script
import GraphicsObjects.Proofs.Native.Layout

/-!
# Uploads of images

A call that specifies an image from client memory reads there what the extents in the call and the
pixel store say. The slice is checked against all three extents of the request, the call has as many
as its target.
-/

namespace GraphicsObjects

/-- The extents as the library sees them; it refuses negative ones. -/
def Extents.passed (size : Extents) : Extents where
  width := (signed32 size.width).toNat
  height := (signed32 size.height).toNat
  depth := (signed32 size.depth).toNat

namespace Native

/-! ## What was called -/

/-- A library whose calls are written down. -/
structure Recorder (γ : Type) where
  library : γ
  calls : List EntryCall := []

instance {γ : Type} [EntryPoints γ] : EntryPoints (Recorder γ) where
  call c r :=
    let (a, library) := EntryPoints.call c r.library
    (a, { library, calls := r.calls ++ [c] })

/-- An image that a call specifies from client memory. -/
structure Upload where
  dimensions : Nat
  size : Extents
  format : Enumerant
  type : Enumerant
  data : ByteArray

/-- The image that a call specifies, if it is one from client memory. -/
def EntryCall.upload? : EntryCall → Option Upload
  | .texImage1D _ _ _ width _ format type data => data.map fun data =>
    { dimensions := 1, size := ⟨width.toNat, 1, 1⟩, format, type, data }
  | .texImage2D _ _ _ width height _ format type data => data.map fun data =>
    { dimensions := 2, size := ⟨width.toNat, height.toNat, 1⟩, format, type, data }
  | .texImage3D _ _ _ width height depth _ format type data => data.map fun data =>
    { dimensions := 3, size := ⟨width.toNat, height.toNat, depth.toNat⟩, format, type, data }
  | _ => none

/-- Whatever the library reads for the image lies in the slice. -/
def Upload.Inside (u : Upload) (store : PixelStore) : Prop :=
  ∀ pixelSize, pixelSize? u.format u.type = some pixelSize →
    ∀ o, store.Touches pixelSize u.size u.dimensions o → o < u.data.size

variable {γ : Type} [EntryPoints γ]

/-- The layout that the library reports for uploads. -/
def unpackStore (s : γ × List Event) : PixelStore := (PixelStore.query getInteger .unpack s).1

def calls {α : Type} (act : NativeM (Recorder γ) α) (s : Recorder γ × List Event) :
    List EntryCall :=
  (act s).2.1.calls.drop s.1.calls.length

theorem calls_getIntegers (ps : List Enumerant) (s : Recorder γ × List Event) :
    (ps.mapM getInteger s).2.1.calls = s.1.calls ++ ps.map .getInteger := by
  induction ps generalizing s with
  | nil => exact (List.append_nil _).symm
  | cons p ps ih =>
      rw [List.mapM_cons]
      change (ps.mapM getInteger (getInteger p s).2).2.1.calls = _
      rw [ih]
      exact List.append_assoc ..

theorem guardTransfer_apply {α : Type} (direction : PixelDirection) (format type : Enumerant)
    (size : Extents) (dimensions len : Nat) (dropped : α) (transfer : NativeM γ α)
    (s : γ × List Event) :
    guardTransfer direction format type size dimensions len dropped transfer s =
      (match checkTransfer format type size dimensions
          (PixelStore.query getInteger direction s).1 len with
        | .ok () => transfer
        | .error failure => do
          note (.droppedTransfer direction size failure)
          pure dropped) (PixelStore.query getInteger direction s).2 := rfl

variable {target : ImageTarget} {i : ImageSpec} {data : ByteArray} {s : Recorder γ × List Event}

/-- The pixel store is asked for, and then the image specified if the slice holds it. -/
theorem calls_texImage (hd : i.data = some data) :
    calls (texImage target i) s = (PixelStore.parameters .unpack).map .getInteger ++
      match checkTransfer i.format i.type i.size target.dimensions (unpackStore s) data.size with
      | .ok () => [texImageCall target i]
      | .error _ => [] := by
  have hquery : (PixelStore.query getInteger .unpack s).2.1.calls =
      s.1.calls ++ (PixelStore.parameters .unpack).map .getInteger :=
    calls_getIntegers (PixelStore.parameters .unpack) s
  simp only [calls, texImage, hd, guardTransfer_apply, unpackStore]
  generalize PixelStore.query getInteger .unpack s = asked at hquery ⊢
  obtain ⟨store, recorder, log⟩ := asked
  cases checkTransfer i.format i.type i.size target.dimensions store data.size with
  | ok _ =>
      change List.drop _ (recorder.calls ++ [texImageCall target i]) = _
      rw [show recorder.calls = _ from hquery, List.append_assoc, List.drop_left]
  | error _ =>
      change List.drop _ recorder.calls = _
      rw [show recorder.calls = _ from hquery, List.drop_left, List.append_nil]

theorem dimensions_cases (target : ImageTarget) :
    target.dimensions = 1 ∨ target.dimensions = 2 ∨ target.dimensions = 3 := by
  cases target with
  | texture t => cases t <;> decide
  | face => exact .inr (.inl rfl)

theorem upload?_texImageCall (target : ImageTarget) (hd : i.data = some data) :
    (texImageCall target i).upload? = some
      { dimensions := target.dimensions, size := i.size.passed.restrict target.dimensions,
        format := i.format, type := i.type, data } := by
  unfold texImageCall
  rcases dimensions_cases target with h | h | h <;>
    simp [h, EntryCall.upload?, hd, Extents.passed, Extents.restrict]

theorem uploads_texImage (target : ImageTarget) (hd : i.data = some data) {u : Upload} :
    (∃ c ∈ calls (texImage target i) s, c.upload? = some u) ↔
      checkTransfer i.format i.type i.size target.dimensions (unpackStore s) data.size = .ok () ∧
        u = { dimensions := target.dimensions, size := i.size.passed.restrict target.dimensions,
              format := i.format, type := i.type, data } := by
  have hquery : ∀ c ∈ (PixelStore.parameters .unpack).map EntryCall.getInteger,
      c.upload? ≠ some u := by
    intro c hc
    obtain ⟨p, -, rfl⟩ := List.mem_map.mp hc
    nofun
  have hcall := upload?_texImageCall target hd
  rw [calls_texImage hd]
  cases checkTransfer i.format i.type i.size target.dimensions (unpackStore s) data.size with
  | error failure =>
      constructor
      · rintro ⟨c, hc, hu⟩
        rw [List.append_nil] at hc
        exact absurd hu (hquery c hc)
      · rintro ⟨h, -⟩
        cases h
  | ok _ =>
      constructor
      · rintro ⟨c, hc, hu⟩
        rcases List.mem_append.mp hc with hc | hc
        · exact absurd hu (hquery c hc)
        · cases List.mem_singleton.mp hc
          exact ⟨rfl, Option.some.inj (hu.symm.trans hcall)⟩
      · rintro ⟨-, rfl⟩
        exact ⟨_, List.mem_append_right _ List.mem_cons_self, hcall⟩

/-! ## What an upload reads -/

theorem bmod_le (n m : Nat) : Int.bmod n m ≤ n := by
  have hmod : (n : Int) % m ≤ n := Int.ofNat_le.mpr (Nat.mod_le n m)
  rw [Int.bmod_def]
  split <;> omega

theorem signed32_toNat_le (n : Nat) : (signed32 n).toNat ≤ n := Int.toNat_le.mpr (bmod_le n _)

/-- If no extent that the target does not have is 0, the image in the call is no larger than that of
the request. -/
theorem restrict_passed_le {size : Extents} {n : Nat} (hn : n = 1 ∨ n = 2 ∨ n = 3)
    (h : 0 ∉ size.unused n) : (size.passed.restrict n).width ≤ size.width ∧
      (size.passed.restrict n).height ≤ size.height ∧
      (size.passed.restrict n).depth ≤ size.depth := by
  have hw := signed32_toNat_le size.width
  have hh := signed32_toNat_le size.height
  have hd := signed32_toNat_le size.depth
  rcases hn with rfl | rfl | rfl <;>
    simp [Extents.unused, Extents.restrict, Extents.passed] at h ⊢ <;> omega

theorem isEmpty_of_unused {size : Extents} {n : Nat} (hn : n = 1 ∨ n = 2 ∨ n = 3)
    (h : 0 ∈ size.unused n) : size.IsEmpty := by
  rcases hn with rfl | rfl | rfl <;>
    simp [Extents.unused, Extents.IsEmpty] at h ⊢ <;> omega

theorem isEmpty_passed {size : Extents} {n : Nat} (hn : n = 1 ∨ n = 2 ∨ n = 3)
    (h : size.IsEmpty) (hz : 0 ∉ size.unused n) : (size.passed.restrict n).IsEmpty := by
  obtain ⟨hw, hh, hd⟩ := restrict_passed_le hn hz
  unfold Extents.IsEmpty at h ⊢
  omega

/-- For every slice that a machine can have, an upload stays inside the slice, unless a dimension
that the target does not have is given as 0 in the request. -/
theorem upload_inside_iff (target : ImageTarget) (i : ImageSpec) (s : Recorder γ × List Event)
    (ha : (unpackStore s).alignment < 2 ^ 31) :
    ((∀ data : ByteArray, data.size < 2 ^ 63 →
        ∀ c ∈ calls (texImage target { i with data := some data }) s, ∀ u, c.upload? = some u →
          u.Inside (unpackStore s)) ↔
      pixelSize? i.format i.type = none ∨ (i.size.passed.restrict target.dimensions).IsEmpty ∨
        0 ∉ i.size.unused target.dimensions) ∧
    ((∀ len, checkTransfer i.format i.type i.size target.dimensions (unpackStore s) len =
        checkTransfer i.format i.type (i.size.restrict target.dimensions) target.dimensions
          (unpackStore s) len) ↔
      pixelSize? i.format i.type = none ∨ (i.size.restrict target.dimensions).IsEmpty ∨
        (∀ e ∈ i.size.unused target.dimensions, e = 1) ∨
        0 ∉ i.size.unused target.dimensions ∧
          ∀ len < maxWord, checkTransfer i.format i.type (i.size.restrict target.dimensions)
            target.dimensions (unpackStore s) len ≠ .ok ()) := by
  have hn := dimensions_cases target
  have hword : maxWord = 2 ^ 64 - 1 := rfl
  refine ⟨⟨?_, ?_⟩, checkTransfer_restrict_iff (by omega) hn⟩
  · intro h
    cases hp : pixelSize? i.format i.type with
    | none => exact .inl rfl
    | some p =>
        by_cases hempty : (i.size.passed.restrict target.dimensions).IsEmpty
        · exact .inr (.inl hempty)
        · refine .inr (.inr fun hz => ?_)
          -- nothing is required of the slice, and the first pixel is read all the same
          have hok : checkTransfer i.format i.type i.size target.dimensions (unpackStore s)
              ByteArray.empty.size = .ok () := by
            simp [checkTransfer, hp, PixelStore.requiredLen_eq_zero (isEmpty_of_unused hn hz)]
          obtain ⟨c, hc, hu⟩ := (uploads_texImage target
            (i := { i with data := some ByteArray.empty }) rfl).mpr ⟨hok, rfl⟩
          have hinside := h ByteArray.empty (by decide) c hc _ hu p hp _
            (PixelStore.touches_first (pixelSize?_pos hp) hempty)
          exact absurd hinside (Nat.not_lt_zero _)
  · intro h data hdata c hc u hu p hp o ho
    obtain ⟨hok, rfl⟩ := (uploads_texImage target rfl).mp ⟨c, hc, hu⟩
    simp only at hp hok ho ⊢
    rcases h with h | h | h
    · cases h.symm.trans hp
    · exact absurd h (PixelStore.not_isEmpty_of_touches ho)
    · have hfull : ¬ i.size.IsEmpty := fun he =>
        PixelStore.not_isEmpty_of_touches ho (isEmpty_passed hn he h)
      have hlen : (unpackStore s).requiredLen p i.size target.dimensions ≤ data.size := by
        simp only [checkTransfer, hp] at hok
        split at hok
        · cases hok
        · omega
      obtain ⟨hw, hh, hd⟩ := restrict_passed_le hn h
      have hreach := (PixelStore.requiredLen_le_iff (by omega) hdata hfull).mp hlen
      exact Nat.lt_of_lt_of_le (ho.lt_reach hw hh hd) hreach

/-- Without a pixel store of its own a library reports one without padding. -/
def silent : Recorder Script × List Event := (⟨{}, []⟩, [])

/-- An image of four by four pixels that is given a depth. -/
def flatImage (depth : Nat) : ImageSpec where
  level := 0
  internalFormat := Enumerant.rgba
  size := ⟨4, 4, depth⟩
  format := Enumerant.rgba
  type := Enumerant.unsignedByte
  data := none

theorem unpackStore_silent : unpackStore silent = ⟨0, 0, 0, 0, 0, 0⟩ := by cbv

theorem flatImage_inside : (unpackStore silent).alignment < 2 ^ 31 ∧
    ∀ data : ByteArray, data.size < 2 ^ 63 →
      ∀ c ∈ calls (texImage (.texture .texture2D) { flatImage 1 with data := some data }) silent,
        ∀ u, c.upload? = some u → u.Inside (unpackStore silent) := by
  have halign : (unpackStore silent).alignment < 2 ^ 31 := by
    rw [unpackStore_silent]
    decide
  have hdepth : 0 ∉ (flatImage 1).size.unused (ImageTarget.texture .texture2D).dimensions := by
    decide
  refine ⟨halign, ?_⟩
  exact (upload_inside_iff (.texture .texture2D) (flatImage 1) silent halign).1.mpr
    (.inr (.inr hdepth))

/-- With a depth of 0, an image of 64 bytes is read from a slice of none. -/
theorem flatImage_outside : ∃ c u,
    c ∈ calls (texImage (.texture .texture2D)
      { flatImage 0 with data := some ByteArray.empty }) silent ∧
    c.upload? = some u ∧ u.data.size = 0 ∧
    (unpackStore silent).Touches 4 u.size u.dimensions 63 ∧ ¬ u.Inside (unpackStore silent) := by
  have hsize : (flatImage 0).size.passed.restrict 2 = ⟨4, 4, 1⟩ := by decide +kernel
  have htouches : (unpackStore silent).Touches 4 ⟨4, 4, 1⟩ 2 63 := by
    rw [unpackStore_silent]
    exact ⟨3, 3, 0, 3, by decide, by decide, by decide, by decide, by decide⟩
  have hok : checkTransfer Enumerant.rgba Enumerant.unsignedByte ⟨4, 4, 0⟩ 2
      (unpackStore silent) 0 = .ok () := by
    rw [unpackStore_silent]
    cbv
  obtain ⟨c, hc, hu⟩ := (uploads_texImage (.texture .texture2D)
    (i := { flatImage 0 with data := some ByteArray.empty }) rfl).mpr ⟨hok, rfl⟩
  refine ⟨c, _, hc, hu, rfl, hsize ▸ htouches, fun h => ?_⟩
  exact Nat.not_lt_zero _ (h 4 (by decide) 63 (hsize ▸ htouches))

end Native

end GraphicsObjects
