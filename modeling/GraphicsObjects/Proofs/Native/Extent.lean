import GraphicsObjects.Proofs.Native.Layout

/-!
# The extent of a transfer

With the parameters that a driver reports and an image whose extents are words of 32 bits, no stride
outgrows a word. So the required length is the end of the last pixel, or the largest word where that
end lies beyond it, and a slice is accepted just if it holds every byte that the transfer touches.
-/

namespace GraphicsObjects

/-! ## Arithmetic that stops at the largest word -/

theorem saturate_mul_saturate (m n : Nat) : saturate (m * saturate n) = saturate (m * n) := by
  rcases Nat.eq_zero_or_pos m with rfl | hm
  · rw [Nat.zero_mul, Nat.zero_mul]
  · rcases Nat.le_total n maxWord with h | h
    · rw [saturate_of_le h]
    · -- both products are the largest word
      have hword := Nat.le_mul_of_pos_left maxWord hm
      have hn := Nat.le_trans h (Nat.le_mul_of_pos_left n hm)
      rw [saturate, saturate, saturate, Nat.min_eq_right h, Nat.min_eq_right hword,
        Nat.min_eq_right hn]

namespace PixelStore

variable {store : PixelStore} {size : Extents} {pixelSize n len : Nat}

/-! ## Parameters -/

/-- A driver reports signed words of 32 bits, and negative ones count as 0. -/
structure Reported (store : PixelStore) : Prop where
  alignment : store.alignment < 2 ^ 31
  rowLength : store.rowLength < 2 ^ 31
  imageHeight : store.imageHeight < 2 ^ 31
  skipPixels : store.skipPixels < 2 ^ 31
  skipRows : store.skipRows < 2 ^ 31
  skipImages : store.skipImages < 2 ^ 31

theorem reported_ofValues {vs : List Int} (h : ∀ v ∈ vs, v < 2 ^ 31) : (ofValues vs).Reported := by
  unfold ofValues
  split
  · simp only [List.mem_cons, List.not_mem_nil, or_false, forall_eq_or_imp, forall_eq] at h
    obtain ⟨ha, hl, hh, hp, hr, hi⟩ := h
    constructor <;> dsimp only <;> omega
  · exact ⟨by decide, by decide, by decide, by decide, by decide, by decide⟩

/-- The pixels from the start of one row to the start of the next, but for the padding. -/
def rowPixels (store : PixelStore) (width : Nat) : Nat :=
  if 0 < store.rowLength then store.rowLength else width

/-- Rows are padded to the alignment, and no further. -/
theorem isLeast_rowStride (store : PixelStore) (pixelSize width : Nat) :
    IsLeast {m | max store.alignment 1 ∣ m ∧ store.rowPixels width * pixelSize ≤ m}
      (store.rowStride pixelSize width) := by
  simp only [rowStride, rowPixels]
  generalize (if 0 < store.rowLength then store.rowLength else width) * pixelSize = row
  obtain ⟨a, ha⟩ : ∃ a, max store.alignment 1 = a + 1 := ⟨max store.alignment 1 - 1, by omega⟩
  rw [ha, Nat.add_sub_cancel]
  refine ⟨⟨Nat.dvd_mul_left .., ?_⟩, ?_⟩
  · have hlt := Nat.lt_div_mul_add (a := row + a) (b := a + 1) (by omega)
    omega
  · rintro _ ⟨⟨q, rfl⟩, hq⟩
    rw [Nat.mul_comm (a + 1)] at hq ⊢
    refine Nat.mul_le_mul_right _ (Nat.lt_succ_iff.mp ((Nat.div_lt_iff_lt_mul (by omega)).mpr ?_))
    rw [Nat.succ_mul]
    omega

/-- No stride of such parameters outgrows a word. -/
theorem Reported.storedStride_eq (h : store.Reported) (hp : pixelSize ≤ 16) {width : Nat}
    (hw : width < 2 ^ 32) :
    store.storedStride pixelSize width = store.rowStride pixelSize width := by
  have hword : maxWord = 2 ^ 64 - 1 := rfl
  have halign := h.alignment
  have hlength := h.rowLength
  have hrow : (if 0 < store.rowLength then store.rowLength else width) * pixelSize ≤
      2 ^ 32 * 16 := by
    refine Nat.mul_le_mul ?_ hp
    split <;> omega
  simp only [storedStride, rowStride]
  generalize (if 0 < store.rowLength then store.rowLength else width) * pixelSize = row at hrow ⊢
  rw [saturate_of_le (n := row) (by omega), saturate_of_le (n := row + _) (by omega)]

/-! ## The last pixel -/

/-- Where the pixels of a transfer end. -/
def ends (store : PixelStore) (pixelSize : Nat) (size : Extents) (dimensions : Nat) : Set Nat :=
  {e | ∃ x y z, x < size.width ∧ y < size.height ∧ z < size.depth ∧
    e = (store.skippedImages dimensions + z) *
        (store.rowStride pixelSize size.width * store.imageRows size.height) +
      (store.skippedRows dimensions + y) * store.rowStride pixelSize size.width +
      (store.skipPixels + x + 1) * pixelSize}

theorem mem_ends_iff {e : Nat} : e ∈ store.ends pixelSize size n ↔
    ∃ x y z, x < size.width ∧ y < size.height ∧ z < size.depth ∧
      e = store.offset pixelSize size n x y z + pixelSize := by
  have hend (x : Nat) : (store.skipPixels + x + 1) * pixelSize =
      (store.skipPixels + x) * pixelSize + pixelSize := Nat.succ_mul ..
  simp only [ends, offset, Set.mem_ofPred_eq, hend]
  simp only [Nat.add_assoc]

/-- No pixel ends behind the last one of the last row of the last image. -/
theorem isGreatest_reach (h : ¬ size.IsEmpty) :
    IsGreatest (store.ends pixelSize size n) (store.reach pixelSize size n) := by
  simp only [Extents.IsEmpty, not_or] at h
  obtain ⟨hw, hh, hd⟩ := h
  constructor
  · exact mem_ends_iff.mpr ⟨_, _, _, by omega, by omega, by omega, rfl⟩
  · intro e he
    obtain ⟨x, y, z, hx, hy, hz, rfl⟩ := mem_ends_iff.mp he
    refine Nat.add_le_add_right (offset_mono (Nat.le_refl _) (Nat.le_refl _) ?_ ?_ ?_) _ <;> omega

/-- What a transfer touches ends where its last pixel does. -/
theorem reach_le_iff (hp : 0 < pixelSize) (h : ¬ size.IsEmpty) :
    store.reach pixelSize size n ≤ len ↔ ∀ o, store.Touches pixelSize size n o → o < len := by
  constructor
  · intro hreach o ho
    exact Nat.lt_of_lt_of_le (ho.lt_reach (Nat.le_refl _) (Nat.le_refl _) (Nat.le_refl _)) hreach
  · intro hall
    simp only [Extents.IsEmpty, not_or] at h
    obtain ⟨hw, hh, hd⟩ := h
    have hlast : store.Touches pixelSize size n (store.reach pixelSize size n - 1) :=
      ⟨size.width - 1, size.height - 1, size.depth - 1, pixelSize - 1, by omega, by omega, by omega,
        by omega, Nat.add_sub_assoc hp _⟩
    have hlt := hall _ hlast
    omega

/-! ## The required length -/

theorem Reported.requiredLen_eq_saturate (hs : store.Reported) (hp : pixelSize ≤ 16)
    (hw : size.width < 2 ^ 32) (h : ¬ size.IsEmpty) :
    store.requiredLen pixelSize size n = saturate (store.reach pixelSize size n) := by
  have hstride := hs.storedStride_eq hp hw
  rw [requiredLen_eq h, leading, reach_eq h, hstride, saturate_mul_saturate]
  unfold saturate
  omega

end PixelStore

theorem checkTransfer_eq_ok_iff {format type : Enumerant} {pixelSize : Nat} {size : Extents}
    {n len : Nat} {store : PixelStore} (h : pixelSize? format type = some pixelSize) :
    checkTransfer format type size n store len = .ok () ↔
      store.requiredLen pixelSize size n ≤ len := by
  simp only [checkTransfer, h]
  split
  · rename_i hlt
    simpa using hlt
  · rename_i hle
    simpa using hle

namespace PixelStore

variable {store : PixelStore} {size : Extents} {pixelSize : Nat}

/-- The required length is 0 for an image without pixels, and else where the last pixel ends, or the
largest word if that is less. So any slice but one of the largest size is accepted just if it holds
all that the transfer touches. -/
theorem requiredLen_exact (hs : store.Reported) (hp : 1 ≤ pixelSize ∧ pixelSize ≤ 16)
    (hsize : size.width < 2 ^ 32 ∧ size.height < 2 ^ 32 ∧ size.depth < 2 ^ 32) (n : Nat) :
    IsLeast {m | max store.alignment 1 ∣ m ∧ store.rowPixels size.width * pixelSize ≤ m}
        (store.rowStride pixelSize size.width) ∧
      (size.IsEmpty → store.requiredLen pixelSize size n = 0) ∧
      (¬ size.IsEmpty → ∃ m, IsGreatest (store.ends pixelSize size n) m ∧
        store.requiredLen pixelSize size n = min (2 ^ 64 - 1) m) ∧
      ∀ format type len, pixelSize? format type = some pixelSize → len < 2 ^ 64 - 1 →
        (checkTransfer format type size n store len = .ok () ↔
          ∀ o, store.Touches pixelSize size n o → o < len) := by
  have heq (h : ¬ size.IsEmpty) : store.requiredLen pixelSize size n =
      min (2 ^ 64 - 1) (store.reach pixelSize size n) :=
    (hs.requiredLen_eq_saturate hp.2 hsize.1 h).trans (Nat.min_comm ..)
  refine ⟨store.isLeast_rowStride pixelSize size.width, requiredLen_eq_zero,
    fun h => ⟨_, isGreatest_reach h, heq h⟩, fun format type len hformat hlen => ?_⟩
  rw [checkTransfer_eq_ok_iff hformat]
  by_cases h : size.IsEmpty
  · rw [requiredLen_eq_zero h]
    exact iff_of_true (Nat.zero_le _) fun o ho => absurd h (not_isEmpty_of_touches ho)
  · rw [heq h, ← reach_le_iff (by omega) h]
    omega

/-- Images that overlap: each is stored with two rows, whatever its height. -/
def overlapping : PixelStore := ofValues [8, 0, 2, 1, 2, 1]

/-- Of images that overlap the last one counts, and one of 2^96 pixels needs the largest word. -/
theorem overlapping_exact : overlapping.Reported ∧
    overlapping.requiredLen 4 ⟨3, 5, 3⟩ 3 = 208 ∧
    (checkTransfer Enumerant.rgba Enumerant.unsignedByte ⟨3, 5, 3⟩ 3 overlapping 207 = .ok () ↔
      ∀ o, overlapping.Touches 4 ⟨3, 5, 3⟩ 3 o → o < 207) ∧
    overlapping.requiredLen 16 ⟨2 ^ 32 - 1, 2 ^ 32 - 1, 2 ^ 32 - 1⟩ 3 = 2 ^ 64 - 1 := by
  have hs : overlapping.Reported := reported_ofValues (by decide)
  obtain ⟨-, -, hsmall, hcheck⟩ :=
    @requiredLen_exact overlapping ⟨3, 5, 3⟩ 4 hs (by decide) (by decide) 3
  obtain ⟨-, -, hlarge, -⟩ :=
    @requiredLen_exact overlapping ⟨2 ^ 32 - 1, 2 ^ 32 - 1, 2 ^ 32 - 1⟩ 16 hs (by decide)
      (by decide) 3
  obtain ⟨m, hm, hsmall⟩ := hsmall (by decide)
  obtain ⟨m', hm', hlarge⟩ := hlarge (by decide)
  have hend := hm.unique (isGreatest_reach (by decide))
  have hend' := hm'.unique (isGreatest_reach (by decide))
  refine ⟨hs, ?_, hcheck _ _ 207 (by decide) (by decide), ?_⟩
  · rw [hsmall, hend]
    decide
  · rw [hlarge, hend']
    decide

end PixelStore

end GraphicsObjects
