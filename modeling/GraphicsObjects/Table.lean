/-!
Finite maps with decidable keys. A table is a list of pairs that names no key twice; `get?` is its
view, and every operation below says what it does to the view.
-/

namespace GraphicsObjects

/-- A finite map from `κ` to `α`. -/
structure Table (κ α : Type) where
  entries : List (κ × α)
  nodup : (entries.map Prod.fst).Nodup
  deriving DecidableEq

namespace Table

variable {κ α β : Type}

/-- The map without entries. -/
def empty : Table κ α := ⟨[], List.nodup_nil⟩

instance : Inhabited (Table κ α) := ⟨empty⟩

/-- The keys that have an entry. -/
def keys (t : Table κ α) : List κ := t.entries.map Prod.fst

/-- The values of the entries, in the order of `keys`. -/
def values (t : Table κ α) : List α := t.entries.map Prod.snd

def size (t : Table κ α) : Nat := t.entries.length

def isEmpty (t : Table κ α) : Bool := t.entries.isEmpty

/-- Applies `f` to every value. -/
def mapValues (f : κ → α → β) (t : Table κ α) : Table κ β where
  entries := t.entries.map fun e => (e.1, f e.1 e.2)
  nodup := by
    have : (t.entries.map fun e => (e.1, f e.1 e.2)).map Prod.fst = t.entries.map Prod.fst := by
      simp [Function.comp_def]
    rw [this]
    exact t.nodup

/-- Keeps the entries that satisfy `p`. -/
def filter (p : κ → α → Bool) (t : Table κ α) : Table κ α where
  entries := t.entries.filter fun e => p e.1 e.2
  nodup := t.nodup.sublist (List.filter_sublist.map _)

variable [DecidableEq κ]

/-- The value at `k`, if there is one. -/
def get? (t : Table κ α) (k : κ) : Option α :=
  (t.entries.find? fun e => e.1 = k).map Prod.snd

/-- The value at `k`, or `d` without an entry. -/
def getD (t : Table κ α) (k : κ) (d : α) : α := (t.get? k).getD d

def contains (t : Table κ α) (k : κ) : Bool := (t.get? k).isSome

/-- The table without an entry at `k`. -/
def erase (t : Table κ α) (k : κ) : Table κ α := t.filter fun k' _ => k' ≠ k

/-- The table with `v` at `k`. -/
def insert (t : Table κ α) (k : κ) (v : α) : Table κ α where
  entries := (k, v) :: (t.erase k).entries
  nodup := by
    refine List.nodup_cons.2 ⟨?_, (t.erase k).nodup⟩
    simp [erase, filter]

/-- Replaces the value at `k`, taken as `d` if there is none, by its image under `f`. -/
def alter (t : Table κ α) (k : κ) (d : α) (f : α → α) : Table κ α := t.insert k (f (t.getD k d))

/-- Replaces the value at `k` by its image under `f`; nothing happens without an entry. -/
def modify (t : Table κ α) (k : κ) (f : α → α) : Table κ α :=
  t.mapValues fun k' v => if k' = k then f v else v

/-! ## What the operations do to the view -/

@[simp] theorem get?_empty (k : κ) : (empty : Table κ α).get? k = none := rfl

theorem get?_eq_none_iff {t : Table κ α} {k : κ} : t.get? k = none ↔ k ∉ t.keys := by
  rw [get?, Option.map_eq_none_iff, List.find?_eq_none, keys, List.mem_map]
  constructor
  · rintro h ⟨e, he, rfl⟩
    exact h e he (decide_eq_true rfl)
  · intro h e he hk
    exact h ⟨e, he, of_decide_eq_true hk⟩

theorem get?_filter_key (t : Table κ α) (p : κ → Bool) (k : κ) :
    (t.filter fun k' _ => p k').get? k = if p k then t.get? k else none := by
  obtain ⟨es, h⟩ := t
  simp only [get?, filter]
  clear h
  induction es with
  | nil => simp
  | cons e es ih =>
    by_cases hp : p e.1 <;> by_cases hk : e.1 = k <;> simp_all [List.find?]

theorem get?_erase (t : Table κ α) (k k' : κ) :
    (t.erase k).get? k' = if k' = k then none else t.get? k' := by
  rw [erase, get?_filter_key]
  by_cases h : k' = k <;> simp [h]

@[simp] theorem get?_erase_self (t : Table κ α) (k : κ) : (t.erase k).get? k = none := by
  simp [get?_erase]

theorem get?_insert (t : Table κ α) (k k' : κ) (v : α) :
    (t.insert k v).get? k' = if k' = k then some v else t.get? k' := by
  have h := t.get?_erase k k'
  by_cases hk : k = k'
  · simp [insert, get?, hk]
  · have hk' : ¬ k' = k := fun e => hk e.symm
    simp only [get?, hk', if_false] at h
    simp [insert, get?, hk, hk', h]

@[simp] theorem get?_insert_self (t : Table κ α) (k : κ) (v : α) :
    (t.insert k v).get? k = some v := by
  simp [get?_insert]

theorem getD_insert (t : Table κ α) (k k' : κ) (v d : α) :
    (t.insert k v).getD k' d = if k' = k then v else t.getD k' d := by
  by_cases h : k' = k <;> simp [getD, get?_insert, h]

theorem get?_mapValues (t : Table κ α) (f : κ → α → β) (k : κ) :
    (t.mapValues f).get? k = (t.get? k).map (f k) := by
  obtain ⟨es, h⟩ := t
  simp only [get?, mapValues]
  clear h
  induction es with
  | nil => simp
  | cons e es ih =>
    by_cases hk : e.1 = k
    · simp [hk]
    · simpa [hk] using ih

theorem get?_modify (t : Table κ α) (k k' : κ) (f : α → α) :
    (t.modify k f).get? k' = if k' = k then (t.get? k').map f else t.get? k' := by
  rw [modify, get?_mapValues]
  by_cases h : k' = k <;> simp [h]

/-- Removing an entry that is there makes the table smaller. -/
theorem size_erase_lt {t : Table κ α} {k : κ} {v : α} (h : t.get? k = some v) :
    (t.erase k).size < t.size := by
  obtain ⟨es, hn⟩ := t
  simp only [get?, Option.map_eq_some_iff] at h
  obtain ⟨e, he, -⟩ := h
  have hm := List.mem_of_find?_eq_some he
  have hk := List.find?_some he
  simp only [size, erase, filter]
  exact List.length_filter_lt_length_iff_exists.2 ⟨e, hm, by simpa using hk⟩

/-! ## Entries -/

theorem mem_entries_iff {t : Table κ α} {k : κ} {v : α} :
    (k, v) ∈ t.entries ↔ t.get? k = some v := by
  obtain ⟨es, h⟩ := t
  simp only [get?]
  induction es with
  | nil => simp
  | cons e es ih =>
    obtain ⟨hne, hn⟩ := List.nodup_cons.1 h
    by_cases he : e.1 = k
    · subst he
      have hm : (e.1, v) ∉ es := fun hm => hne (List.mem_map.2 ⟨_, hm, rfl⟩)
      simp [hm, Prod.ext_iff, eq_comm]
    · have hk : (k, v) ≠ e := fun hc => he (hc ▸ rfl)
      simpa [he, hk] using ih hn

/-- An entry and the others. -/
theorem entries_perm {t : Table κ α} {k : κ} {v : α} (h : t.get? k = some v) :
    t.entries.Perm ((k, v) :: (t.erase k).entries) := by
  obtain ⟨es, hn⟩ := t
  simp only [get?] at h
  simp only [erase, filter]
  induction es with
  | nil => simp at h
  | cons e es ih =>
    obtain ⟨hne, hn'⟩ := List.nodup_cons.1 hn
    by_cases he : e.1 = k
    · have hv : e.2 = v := by simpa [he] using h
      have hrest : es.filter (fun e => decide (e.1 ≠ k)) = es := by
        refine List.filter_eq_self.2 fun x hx => ?_
        exact decide_eq_true fun hxk => hne (he ▸ hxk ▸ List.mem_map_of_mem hx)
      rw [List.filter_cons_of_neg (by simpa using he), hrest, ← he, ← hv]
    · rw [List.filter_cons_of_pos (by simpa using he)]
      exact ((ih hn' (by simpa [he] using h)).cons e).trans (.swap ..)

theorem entries_erase {t : Table κ α} {k : κ} (h : t.get? k = none) :
    (t.erase k).entries = t.entries := by
  refine List.filter_eq_self.2 fun e he => ?_
  refine decide_eq_true fun hk => ?_
  have hs := mem_entries_iff.1 he
  rw [hk, h] at hs
  cases hs

/-- The value at a key, if there is one, and the others. -/
theorem values_perm (t : Table κ α) (k : κ) :
    t.values.Perm ((t.get? k).toList ++ (t.erase k).values) := by
  cases h : t.get? k with
  | none => exact .of_eq (congrArg (List.map Prod.snd) (entries_erase h).symm)
  | some v => exact (entries_perm h).map Prod.snd

theorem mem_values_of_get? {t : Table κ α} {k : κ} {v : α} (h : t.get? k = some v) :
    v ∈ t.values :=
  (t.values_perm k).mem_iff.mpr (by simp [h])

theorem values_insert (t : Table κ α) (k : κ) (v : α) :
    (t.insert k v).values = v :: (t.erase k).values := rfl

/-- Storing a value sets free the one that was there. -/
theorem values_insert_perm (t : Table κ α) (k : κ) (v : α) :
    (v :: t.values).Perm ((t.get? k).toList ++ (t.insert k v).values) :=
  ((t.values_perm k).cons v).trans List.perm_middle.symm

/-- Replacing a value replaces its entry. -/
theorem entries_modify {t : Table κ α} {k : κ} {v : α} (f : α → α) (h : t.get? k = some v) :
    (t.modify k f).entries.Perm ((k, f v) :: (t.erase k).entries) := by
  have hp := (entries_perm h).map fun e => (e.1, if e.1 = k then f e.2 else e.2)
  refine hp.trans ?_
  rw [List.map_cons, if_pos rfl]
  refine .cons _ (.of_eq ?_)
  refine (List.map_congr_left fun e he => ?_).trans (List.map_id' _)
  have hk : e.1 ≠ k := by simpa using (List.mem_filter.1 he).2
  rw [if_neg hk]

@[simp] theorem size_modify (t : Table κ α) (k : κ) (f : α → α) : (t.modify k f).size = t.size := by
  simp [modify, mapValues, size]

end Table

end GraphicsObjects
