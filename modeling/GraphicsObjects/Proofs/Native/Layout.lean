import Mathlib
import GraphicsObjects.Pixel

/-!
# Pixels in client memory

Where a transfer touches client memory, pixel by pixel, and that `requiredLen` is how far it
reaches: no more, and for memory that a machine can have, no less.
-/

namespace GraphicsObjects

namespace Extents

def IsEmpty (size : Extents) : Prop := size.width = 0 ∨ size.height = 0 ∨ size.depth = 0

instance (size : Extents) : Decidable size.IsEmpty := inferInstanceAs (Decidable (_ ∨ _ ∨ _))

/-- The extents that an image of `dimensions` dimensions does not have. -/
def unused (size : Extents) (dimensions : Nat) : List Nat :=
  [size.width, size.height, size.depth].drop dimensions

end Extents

namespace PixelStore

variable {store : PixelStore} {size size' : Extents} {pixelSize n len : Nat}

/-! ## The layout -/

/-- From the start of one row to the start of the next. -/
def rowStride (store : PixelStore) (pixelSize width : Nat) : Nat :=
  let alignment := max store.alignment 1
  let rowPixels := if 0 < store.rowLength then store.rowLength else width
  (rowPixels * pixelSize + (alignment - 1)) / alignment * alignment

/-- The rows from the start of one image to the start of the next. -/
def imageRows (store : PixelStore) (height : Nat) : Nat :=
  if 0 < store.imageHeight then store.imageHeight else height

def skippedRows (store : PixelStore) (dimensions : Nat) : Nat :=
  if 2 ≤ dimensions then store.skipRows else 0

def skippedImages (store : PixelStore) (dimensions : Nat) : Nat :=
  if 3 ≤ dimensions then store.skipImages else 0

/-- Where the pixel in column `x` and row `y` of image `z` starts. -/
def offset (store : PixelStore) (pixelSize : Nat) (size : Extents) (dimensions x y z : Nat) : Nat :=
  (store.skippedImages dimensions + z) *
      (store.rowStride pixelSize size.width * store.imageRows size.height) +
    (store.skippedRows dimensions + y) * store.rowStride pixelSize size.width +
    (store.skipPixels + x) * pixelSize

/-- A transfer of `size` pixels touches the byte at `o`. -/
def Touches (store : PixelStore) (pixelSize : Nat) (size : Extents) (dimensions o : Nat) : Prop :=
  ∃ x y z b, x < size.width ∧ y < size.height ∧ z < size.depth ∧ b < pixelSize ∧
    o = store.offset pixelSize size dimensions x y z + b

/-- The end of the last pixel. -/
def reach (store : PixelStore) (pixelSize : Nat) (size : Extents) (dimensions : Nat) : Nat :=
  store.offset pixelSize size dimensions (size.width - 1) (size.height - 1) (size.depth - 1) +
    pixelSize

theorem rowStride_mono (store : PixelStore) (pixelSize : Nat) {width width' : Nat}
    (h : width ≤ width') : store.rowStride pixelSize width ≤ store.rowStride pixelSize width' := by
  unfold rowStride
  refine Nat.mul_le_mul_right _ (Nat.div_le_div_right (Nat.add_le_add_right ?_ _))
  refine Nat.mul_le_mul_right _ ?_
  split
  · exact Nat.le_refl _
  · exact h

theorem imageRows_mono (store : PixelStore) {height height' : Nat} (h : height ≤ height') :
    store.imageRows height ≤ store.imageRows height' := by
  unfold imageRows
  split
  · exact Nat.le_refl _
  · exact h

theorem offset_mono {x y z x' y' z' : Nat} (hw : size.width ≤ size'.width)
    (hh : size.height ≤ size'.height) (hx : x ≤ x') (hy : y ≤ y') (hz : z ≤ z') :
    store.offset pixelSize size n x y z ≤ store.offset pixelSize size' n x' y' z' := by
  have hstride := store.rowStride_mono pixelSize hw
  have hrows := store.imageRows_mono hh
  unfold offset
  refine Nat.add_le_add (Nat.add_le_add ?_ ?_) ?_
  · exact Nat.mul_le_mul (Nat.add_le_add_left hz _) (Nat.mul_le_mul hstride hrows)
  · exact Nat.mul_le_mul (Nat.add_le_add_left hy _) hstride
  · exact Nat.mul_le_mul_right _ (Nat.add_le_add_left hx _)

/-- No byte beyond the end of the last pixel is touched, also in a transfer of fewer pixels. -/
theorem Touches.lt_reach {o : Nat} (h : store.Touches pixelSize size n o)
    (hw : size.width ≤ size'.width) (hh : size.height ≤ size'.height)
    (hd : size.depth ≤ size'.depth) : o < store.reach pixelSize size' n := by
  obtain ⟨x, y, z, b, hx, hy, hz, hb, rfl⟩ := h
  refine Nat.add_lt_add_of_le_of_lt (offset_mono hw hh ?_ ?_ ?_) hb <;> omega

theorem not_isEmpty_of_touches {o : Nat} (h : store.Touches pixelSize size n o) :
    ¬ size.IsEmpty := by
  obtain ⟨x, y, z, b, hx, hy, hz, -, -⟩ := h
  unfold Extents.IsEmpty
  omega

theorem touches_first (hp : 0 < pixelSize) (h : ¬ size.IsEmpty) :
    store.Touches pixelSize size n (store.offset pixelSize size n 0 0 0) := by
  simp only [Extents.IsEmpty, not_or] at h
  exact ⟨0, 0, 0, 0, by omega, by omega, by omega, hp, rfl⟩

/-! ## The required length -/

def storedStride (store : PixelStore) (pixelSize width : Nat) : Nat :=
  let alignment := max store.alignment 1
  let rowPixels := if 0 < store.rowLength then store.rowLength else width
  saturate (saturate (rowPixels * pixelSize) + (alignment - 1)) / alignment * alignment

theorem requiredLen_eq_zero (h : size.IsEmpty) : store.requiredLen pixelSize size n = 0 := if_pos h

/-- The bytes before the last row, in words. -/
def leading (store : PixelStore) (pixelSize : Nat) (size : Extents) (dimensions : Nat) : Nat :=
  saturate ((store.skippedImages dimensions + size.depth - 1) *
      saturate (store.storedStride pixelSize size.width * store.imageRows size.height)) +
    saturate ((store.skippedRows dimensions + size.height - 1) *
      store.storedStride pixelSize size.width)

theorem requiredLen_eq (h : ¬ size.IsEmpty) : store.requiredLen pixelSize size n =
    saturate (saturate (store.leading pixelSize size n) +
      saturate ((store.skipPixels + size.width) * pixelSize)) := if_neg h

theorem saturate_le_self (n : Nat) : saturate n ≤ n := Nat.min_le_left ..

theorem saturate_eq_of_lt {n : Nat} (h : saturate n < maxWord) : saturate n = n := by
  unfold saturate at *
  omega

/-- The stride in words is the true one if there is room for it in memory. -/
theorem storedStride_eq (pixelSize width : Nat) (ha : store.alignment < 2 ^ 63)
    (h : store.storedStride pixelSize width < 2 ^ 63) :
    store.storedStride pixelSize width = store.rowStride pixelSize width := by
  simp only [storedStride, rowStride] at h ⊢
  generalize (if 0 < store.rowLength then store.rowLength else width) * pixelSize = row at h ⊢
  obtain ⟨a, hmax⟩ : ∃ a, a = max store.alignment 1 := ⟨_, rfl⟩
  rw [← hmax] at h ⊢
  have hword : maxWord = 2 ^ 64 - 1 := rfl
  have hsum : saturate (saturate row + (a - 1)) < maxWord := by
    have hlow := Nat.lt_div_mul_add (a := saturate (saturate row + (a - 1))) (b := a) (by omega)
    omega
  have hsum' := saturate_eq_of_lt hsum
  have hrow : saturate row < maxWord := by omega
  rw [hsum', saturate_eq_of_lt hrow]

theorem storedStride_le (store : PixelStore) (pixelSize width : Nat) :
    store.storedStride pixelSize width ≤ store.rowStride pixelSize width := by
  simp only [storedStride, rowStride]
  refine Nat.mul_le_mul_right _ (Nat.div_le_div_right (Nat.le_trans (saturate_le_self _) ?_))
  exact Nat.add_le_add_right (saturate_le_self _) _

theorem reach_eq (h : ¬ size.IsEmpty) : store.reach pixelSize size n =
    (store.skippedImages n + size.depth - 1) *
        (store.rowStride pixelSize size.width * store.imageRows size.height) +
      (store.skippedRows n + size.height - 1) * store.rowStride pixelSize size.width +
      (store.skipPixels + size.width) * pixelSize := by
  simp only [Extents.IsEmpty, not_or] at h
  obtain ⟨hw, hh, hd⟩ := h
  have hpixel : (store.skipPixels + (size.width - 1)) * pixelSize + pixelSize =
      (store.skipPixels + size.width) * pixelSize := by
    rw [← Nat.succ_mul]
    congr 1
    omega
  unfold reach offset
  rw [Nat.add_assoc, hpixel, Nat.add_sub_assoc (by omega), Nat.add_sub_assoc (by omega)]

theorem imageRows_pos (store : PixelStore) (h : ¬ size.IsEmpty) :
    0 < store.imageRows size.height := by
  simp only [Extents.IsEmpty, not_or] at h
  unfold imageRows
  split <;> omega

/-- For memory that a machine can have, the required length is what the transfer reaches. -/
theorem requiredLen_le_iff (ha : store.alignment < 2 ^ 63) (hlen : len < 2 ^ 63)
    (h : ¬ size.IsEmpty) :
    store.requiredLen pixelSize size n ≤ len ↔ store.reach pixelSize size n ≤ len := by
  have hrows := store.imageRows_pos h
  have hle := store.storedStride_le pixelSize size.width
  have heq := storedStride_eq pixelSize size.width ha
  rw [requiredLen_eq h, leading, reach_eq h]
  generalize store.skippedImages n + size.depth - 1 = images
  generalize store.skippedRows n + size.height - 1 = rows
  generalize (store.skipPixels + size.width) * pixelSize = pixels
  generalize store.imageRows size.height = r at hrows ⊢
  generalize store.storedStride pixelSize size.width = s at hle heq ⊢
  generalize store.rowStride pixelSize size.width = t at hle heq ⊢
  have hword : maxWord = 2 ^ 64 - 1 := rfl
  constructor
  · intro hreq
    have hsum : images * saturate (s * r) + rows * s + pixels ≤ len := by
      unfold saturate at hreq ⊢
      omega
    have hrowsum : rows * t = rows * s := by
      rcases Nat.eq_zero_or_pos rows with rfl | hpos
      · rw [Nat.zero_mul, Nat.zero_mul]
      · have := Nat.le_mul_of_pos_left s hpos
        rw [heq (by omega)]
    have himages : images * (t * r) = images * saturate (s * r) := by
      rcases Nat.eq_zero_or_pos images with rfl | hpos
      · rw [Nat.zero_mul, Nat.zero_mul]
      · have hstride := Nat.le_mul_of_pos_left (saturate (s * r)) hpos
        have hwhole := saturate_eq_of_lt (n := s * r) (by omega)
        have hone := Nat.le_mul_of_pos_right s hrows
        rw [hwhole, heq (by omega)]
    rw [hrowsum, himages]
    exact hsum
  · intro hreach
    have hrowsum := Nat.mul_le_mul_left rows hle
    have hstride := Nat.le_trans (saturate_le_self (s * r)) (Nat.mul_le_mul_right r hle)
    generalize saturate (s * r) = u at hstride ⊢
    have himages := Nat.mul_le_mul_left images hstride
    unfold saturate
    omega

/-! ## Extents that the image does not have -/

theorem storedStride_pos {width : Nat} (ha : store.alignment ≤ maxWord) (hp : 0 < pixelSize)
    (hw : 0 < width) : 0 < store.storedStride pixelSize width := by
  simp only [storedStride]
  have hrow : 0 < (if 0 < store.rowLength then store.rowLength else width) * pixelSize := by
    refine Nat.mul_pos ?_ hp
    split <;> omega
  generalize (if 0 < store.rowLength then store.rowLength else width) * pixelSize = row at hrow ⊢
  obtain ⟨a, hmax⟩ : ∃ a, a = max store.alignment 1 := ⟨_, rfl⟩
  rw [← hmax]
  have hword : maxWord = 2 ^ 64 - 1 := rfl
  refine Nat.mul_pos (Nat.div_pos ?_ (by omega)) (by omega)
  unfold saturate
  omega

theorem saturate_pos {n : Nat} (h : 0 < n) : 0 < saturate n := by
  unfold saturate maxWord
  omega

theorem saturate_eq_zero_iff {n : Nat} : saturate n = 0 ↔ n = 0 := by
  unfold saturate maxWord
  omega

/-- Extents that the image does not have count as further rows and images. -/
theorem leading_restrict (ha : store.alignment ≤ maxWord) (hp : 0 < pixelSize)
    (hn : n = 1 ∨ n = 2 ∨ n = 3) (h : ¬ size.IsEmpty) :
    store.leading pixelSize (size.restrict n) n ≤ store.leading pixelSize size n ∧
      (store.leading pixelSize size n = store.leading pixelSize (size.restrict n) n ↔
        ∀ e ∈ size.unused n, e = 1) := by
  obtain ⟨width, height, depth⟩ := size
  have hrows := store.imageRows_pos h
  simp only [Extents.IsEmpty, not_or] at h hrows
  obtain ⟨hw, hh, hd⟩ := h
  have hstride : 0 < store.storedStride pixelSize width := storedStride_pos ha hp (by omega)
  have hwhole : 0 < saturate (store.storedStride pixelSize width * store.imageRows height) :=
    saturate_pos (Nat.mul_pos hstride hrows)
  have himages : (depth - 1) *
      saturate (store.storedStride pixelSize width * store.imageRows height) = 0 ↔ depth = 1 := by
    rw [Nat.mul_eq_zero]
    omega
  have hfurther : (height - 1) * store.storedStride pixelSize width = 0 ↔ height = 1 := by
    rw [Nat.mul_eq_zero]
    omega
  rcases hn with rfl | rfl | rfl
  · have hzero : store.leading pixelSize (Extents.restrict ⟨width, height, depth⟩ 1) 1 = 0 := by
      simp [leading, Extents.restrict, skippedImages, skippedRows, saturate]
    rw [hzero]
    refine ⟨Nat.zero_le _, ?_⟩
    simp [leading, skippedImages, skippedRows, saturate_eq_zero_iff, himages, hfurther,
      Extents.unused, and_comm]
  · have hsame : store.leading pixelSize (Extents.restrict ⟨width, height, depth⟩ 2) 2 =
        saturate ((store.skippedRows 2 + height - 1) * store.storedStride pixelSize width) := by
      simp [leading, Extents.restrict, skippedImages, saturate]
    rw [hsame]
    refine ⟨Nat.le_add_left _ _, ?_⟩
    simp [leading, skippedImages, saturate_eq_zero_iff, himages, Extents.unused]
  · exact ⟨Nat.le_refl _, ⟨fun _ => List.forall_mem_nil _, fun _ => rfl⟩⟩

theorem requiredLen_le (store : PixelStore) (pixelSize : Nat) (size : Extents) (n : Nat) :
    store.requiredLen pixelSize size n ≤ maxWord := by
  unfold requiredLen
  split
  · exact Nat.zero_le _
  · exact saturate_le _

theorem requiredLen_pos (store : PixelStore) (n : Nat) (hp : 0 < pixelSize) (h : ¬ size.IsEmpty) :
    0 < store.requiredLen pixelSize size n := by
  have hw : size.width ≠ 0 := fun e => h (.inl e)
  have hpixels : 0 < (store.skipPixels + size.width) * pixelSize := Nat.mul_pos (by omega) hp
  rw [requiredLen_eq h]
  exact saturate_pos (Nat.add_pos_right _ (saturate_pos hpixels))

/-- The required length of an image depends on an extent that it does not have, unless that is 1,
the image is empty, or no memory could hold it anyway. -/
theorem requiredLen_restrict_iff (size : Extents) (ha : store.alignment ≤ maxWord)
    (hp : 0 < pixelSize) (hn : n = 1 ∨ n = 2 ∨ n = 3) :
    store.requiredLen pixelSize size n = store.requiredLen pixelSize (size.restrict n) n ↔
      (size.restrict n).IsEmpty ∨ (∀ e ∈ size.unused n, e = 1) ∨
        0 ∉ size.unused n ∧ store.requiredLen pixelSize (size.restrict n) n = maxWord := by
  have hsize : size.IsEmpty ↔ (size.restrict n).IsEmpty ∨ 0 ∈ size.unused n := by
    rcases hn with rfl | rfl | rfl <;>
      simp [Extents.IsEmpty, Extents.restrict, Extents.unused, or_assoc, @eq_comm _ 0]
  by_cases hempty : (size.restrict n).IsEmpty
  · have hzero : store.requiredLen pixelSize size n = 0 :=
      requiredLen_eq_zero (hsize.mpr (.inl hempty))
    exact ⟨fun _ => .inl hempty, fun _ => hzero.trans (requiredLen_eq_zero hempty).symm⟩
  · have hpos := store.requiredLen_pos n hp hempty
    by_cases hz : 0 ∈ size.unused n
    · rw [requiredLen_eq_zero (hsize.mpr (.inr hz))]
      constructor
      · intro h
        omega
      · rintro (h | h | h)
        · exact absurd h hempty
        · cases h 0 hz
        · exact absurd hz h.1
    · have hfull : ¬ size.IsEmpty := fun h => (hsize.mp h).elim hempty hz
      obtain ⟨hle, hiff⟩ := leading_restrict ha hp hn hfull
      have hwidth : (size.restrict n).width = size.width := by
        rcases hn with rfl | rfl | rfl <;> rfl
      rw [← hiff, requiredLen_eq hfull, requiredLen_eq hempty, hwidth]
      simp only [hempty, hz, false_or, not_false_eq_true, true_and]
      generalize saturate ((store.skipPixels + size.width) * pixelSize) = pixels
      unfold saturate
      omega

end PixelStore

/-! ## The check -/

theorem pixelSize?_pos {format type : Enumerant} {n : Nat} (h : pixelSize? format type = some n) :
    0 < n := by
  unfold pixelSize? at h
  split at h
  · rename_i hpacked
    cases h
    unfold packedPixelSize? at hpacked
    repeat' split at hpacked
    all_goals cases hpacked
    all_goals decide
  · simp only [Option.bind_eq_bind, Option.bind_eq_some_iff, Option.pure_def,
      Option.some.injEq] at h
    obtain ⟨count, hcount, size, hsize, rfl⟩ := h
    refine Nat.mul_pos ?_ ?_
    · unfold componentCount? at hcount
      repeat' split at hcount
      all_goals cases hcount
      all_goals decide
    · unfold componentSize? at hsize
      repeat' split at hsize
      all_goals cases hsize
      all_goals decide

/-- The outcome for an image depends on an extent that it does not have, unless that is 1, the image
is empty, or no memory could hold it anyway. -/
theorem checkTransfer_restrict_iff {format type : Enumerant} {size : Extents} {n : Nat}
    {store : PixelStore} (ha : store.alignment ≤ maxWord) (hn : n = 1 ∨ n = 2 ∨ n = 3) :
    (∀ len, checkTransfer format type size n store len =
        checkTransfer format type (size.restrict n) n store len) ↔
      pixelSize? format type = none ∨ (size.restrict n).IsEmpty ∨ (∀ e ∈ size.unused n, e = 1) ∨
        0 ∉ size.unused n ∧
          ∀ len < maxWord, checkTransfer format type (size.restrict n) n store len ≠ .ok () := by
  cases hp : pixelSize? format type with
  | none => simp [checkTransfer, hp]
  | some p =>
      simp only [checkTransfer, hp]
      have hiff := PixelStore.requiredLen_restrict_iff size ha (pixelSize?_pos hp) hn
      have hle := store.requiredLen_le p (size.restrict n) n
      generalize store.requiredLen p size n = asked at hiff ⊢
      generalize store.requiredLen p (size.restrict n) n = needed at hiff hle ⊢
      have hsame : (∀ len, (if len < asked then .error (.bufferTooSmall asked len) else .ok ()) =
          (if len < needed then .error (.bufferTooSmall needed len) else
            .ok () : Except Failure Unit)) ↔ asked = needed := by
        constructor
        · intro h
          have hzero := h 0
          split at hzero <;> split at hzero
          · injection hzero with hzero
            injection hzero
          · cases hzero
          · cases hzero
          · omega
        · rintro rfl len
          rfl
      have hnone : (∀ len < maxWord, (if len < needed then .error (.bufferTooSmall needed len) else
          .ok () : Except Failure Unit) ≠ .ok ()) ↔ needed = maxWord := by
        constructor
        · intro h
          rcases Nat.lt_or_ge needed maxWord with hlt | hge
          · exact absurd (if_neg (Nat.lt_irrefl _)) (h needed hlt)
          · omega
        · rintro rfl len hlen
          rw [if_pos hlen]
          nofun
      rw [hsame, hnone, hiff]
      simp

end GraphicsObjects
