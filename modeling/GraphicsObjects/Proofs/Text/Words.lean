import Mathlib.Data.List.DropRight
import GraphicsObjects.Text.Blank

/-!
# Words and lines

What trimming leaves, and the words and lines of a text, are described by how the text is put
together. The words of a text are the only ones that it is made of.
-/

namespace GraphicsObjects.Text

/-! ## Ends -/

section Ends

variable {p : Char → Bool} {s t r : List Char}

theorem dropEndWhile_append_of_forall (hr : ∀ c ∈ r, p c) (s : List Char) :
    dropEndWhile p (s ++ r) = dropEndWhile p s := by
  have hreverse : ∀ c ∈ r.reverse, p c := fun c hc => hr c (List.mem_reverse.mp hc)
  rw [dropEndWhile, List.reverse_append, List.dropWhile_append_of_pos hreverse, dropEndWhile]

theorem dropEndWhile_eq_self (hs : ∀ c ∈ s.getLast?, ¬ p c) : dropEndWhile p s = s :=
  List.rdropWhile_eq_self_iff.mpr fun h => hs _ (List.getLast?_eq_some_getLast h)

/-- What is left is the part before a run at the end, if it does not itself end in one. -/
theorem dropEndWhile_eq_iff :
    dropEndWhile p s = t ↔ ∃ r, s = t ++ r ∧ (∀ c ∈ r, p c) ∧ ∀ c ∈ t.getLast?, ¬ p c := by
  constructor
  · rintro rfl
    refine ⟨s.rtakeWhile p, (List.rdropWhile_append_rtakeWhile ..).symm,
      fun c => List.mem_rtakeWhile_imp, fun c hc => ?_⟩
    obtain ⟨h, rfl⟩ := List.mem_getLast?_eq_getLast hc
    exact List.rdropWhile_last_not p s h
  · rintro ⟨r, rfl, hr, ht⟩
    rw [dropEndWhile_append_of_forall hr, dropEndWhile_eq_self ht]

end Ends

/-! ## Blanks -/

/-- A text of blanks only. -/
def Blank (s : List Char) : Prop := ∀ c ∈ s, isBlank c

instance : DecidablePred Blank := List.decidableBAll (isBlank ·)

section Blanks

variable {b t : List Char}

theorem blank_takeWhile (s : List Char) : Blank (s.takeWhile isBlank) :=
  fun _ => List.mem_takeWhile_imp

theorem trimStart_append_of_blank (hb : Blank b) (s : List Char) :
    trimStart (b ++ s) = trimStart s := List.dropWhile_append_of_pos hb

theorem trimStart_append (ht : ∀ c ∈ t.head?, ¬ isBlank c) (s : List Char) :
    trimStart (s ++ t) = trimStart s ++ t := by
  have hself : t.dropWhile isBlank = t := by
    cases t with
    | nil => rfl
    | cons c t => exact List.dropWhile_cons_of_neg (ht c rfl)
  rw [trimStart, List.dropWhile_append, hself]
  split_ifs with h
  · rw [trimStart, List.isEmpty_iff.mp h, List.nil_append]
  · rfl

theorem trim_append_of_blank (hb : Blank b) (s : List Char) : trim (s ++ b) = trim s := by
  rw [trim, trim, trimStart, List.dropWhile_append]
  split_ifs with h
  · rw [trimStart, List.isEmpty_iff.mp h, List.dropWhile_eq_nil_iff.mpr hb]
  · exact dropEndWhile_append_of_forall hb _

/-- `t` is what is left of `s` without the blanks at both ends. -/
structure Trimmed (s t : List Char) : Prop where
  parts : ∃ b e, Blank b ∧ Blank e ∧ s = b ++ t ++ e
  head : ∀ c ∈ t.head?, ¬ isBlank c
  last : ∀ c ∈ t.getLast?, ¬ isBlank c

theorem trim_eq_iff {s : List Char} : trim s = t ↔ Trimmed s t := by
  constructor
  · intro h
    obtain ⟨e, hparts, he, hlast⟩ := dropEndWhile_eq_iff.mp h
    refine ⟨⟨s.takeWhile isBlank, e, blank_takeWhile s, he, ?_⟩, fun c hc => ?_, hlast⟩
    · rw [List.append_assoc, ← hparts, trimStart, List.takeWhile_append_dropWhile]
    · have hhead := List.head?_dropWhile_not isBlank s
      rw [← trimStart, hparts, List.head?_append, Option.mem_def.mp hc] at hhead
      exact Bool.eq_false_iff.mp hhead
  · rintro ⟨⟨b, e, hb, he, rfl⟩, hhead, hlast⟩
    have hself : trimStart t = t := trimStart_append hhead []
    rw [trim_append_of_blank he, trim, trimStart_append_of_blank hb, hself,
      dropEndWhile_eq_self hlast]

instance {s : List Char} : Decidable (Trimmed s t) := decidable_of_iff _ trim_eq_iff

end Blanks

/-! ## Pieces -/

section Pieces

variable {p : Char → Bool} {s : List Char}

theorem pieces_of_forall (hs : ∀ c ∈ s, ¬ p c) : pieces p s = [s] := by
  induction s with
  | nil => rfl
  | cons c s ih =>
    obtain ⟨hc, hs⟩ := List.forall_mem_cons.mp hs
    rw [pieces, if_neg hc, ih hs]

theorem pieces_append_cons {c : Char} (hc : p c) (s t : List Char) :
    pieces p (s ++ c :: t) = pieces p s ++ pieces p t := by
  induction s with
  | nil => simp only [List.nil_append, pieces, if_pos hc, List.singleton_append]
  | cons d s ih =>
    obtain ⟨w, ws, hs⟩ := List.exists_cons_of_ne_nil (pieces_ne_nil p s)
    simp only [List.cons_append, pieces, ih, hs]
    split_ifs <;> rfl

end Pieces

/-! ## Words -/

/-- A run of characters with no blank among them. -/
def IsWord (w : List Char) : Prop := w ≠ [] ∧ ∀ c ∈ w, ¬ isBlank c

instance : DecidablePred IsWord := fun w =>
  haveI := List.decidableBAll (¬ isBlank ·) w
  instDecidableAnd

/-- `Spaced ws s`: the text `s` is the words `ws`, with blanks between them and perhaps around
them. -/
inductive Spaced : List (List Char) → List Char → Prop
  | nil : Spaced [] []
  | blank {c : Char} {ws : List (List Char)} {s : List Char} :
      isBlank c → Spaced ws s → Spaced ws (c :: s)
  | word {w : List Char} {ws : List (List Char)} {s : List Char} :
      IsWord w → (∀ c ∈ s.head?, isBlank c) → Spaced ws s → Spaced (w :: ws) (w ++ s)

section Words

variable {b w s : List Char} {ws : List (List Char)} {c : Char}

/-- No word goes across a blank. -/
theorem words_append_cons (hc : isBlank c) (s t : List Char) :
    words (s ++ c :: t) = words s ++ words t := by
  rw [words, pieces_append_cons hc, List.filter_append, words, words]

theorem words_cons_of_isBlank (hc : isBlank c) (s : List Char) : words (c :: s) = words s :=
  words_append_cons hc [] s

theorem words_of_isWord (hw : IsWord w) : words w = [w] := by
  rw [words, pieces_of_forall hw.2]
  exact List.filter_cons_of_pos (decide_eq_true hw.1)

theorem trim_append_of_isWord (hw : IsWord w) (s : List Char) :
    trim (s ++ w) = trimStart s ++ w := by
  have hhead : ∀ c ∈ w.head?, ¬ isBlank c := fun c hc => hw.2 c (List.mem_of_head? hc)
  rw [trim, trimStart_append hhead, dropEndWhile_eq_self]
  intro c hc
  rw [List.getLast?_append_of_ne_nil _ hw.1] at hc
  exact hw.2 c (List.mem_of_getLast? hc)

theorem words_blank_append (hb : Blank b) (s : List Char) : words (b ++ s) = words s := by
  induction b with
  | nil => rfl
  | cons c b ih =>
    obtain ⟨hc, hb⟩ := List.forall_mem_cons.mp hb
    rw [List.cons_append, words_cons_of_isBlank hc, ih hb]

theorem words_append_blank (hb : Blank b) (s : List Char) : words (s ++ b) = words s := by
  cases b with
  | nil => rw [List.append_nil]
  | cons c b =>
    obtain ⟨hc, hb⟩ := List.forall_mem_cons.mp hb
    have hnone : words b = [] := List.append_nil b ▸ words_blank_append hb []
    rw [words_append_cons hc, hnone, List.append_nil]

theorem words_trimStart (s : List Char) : words (trimStart s) = words s := by
  rw [← words_blank_append (blank_takeWhile s), trimStart, List.takeWhile_append_dropWhile]

theorem words_trim (s : List Char) : words (trim s) = words s := by
  obtain ⟨b, e, hb, he, hparts⟩ := (trim_eq_iff.mp (Eq.refl (trim s))).parts
  conv_rhs => rw [hparts, words_append_blank he, words_blank_append hb]

theorem Spaced.words_eq (h : Spaced ws s) : words s = ws := by
  induction h with
  | nil => rfl
  | blank hc _ ih => rw [words_cons_of_isBlank hc, ih]
  | @word w ws s hw hs _ ih =>
    cases s with
    | nil => rw [List.append_nil, words_of_isWord hw, ← ih]; rfl
    | cons c s =>
      have hc : isBlank c := hs c rfl
      rw [words_append_cons hc, words_of_isWord hw, ← ih, words_cons_of_isBlank hc]
      rfl

/-- A character that is no blank is a word of its own or the start of the next one. -/
theorem Spaced.exists_cons (hc : ¬ isBlank c) (h : Spaced ws s) : ∃ ws, Spaced ws (c :: s) := by
  have hword : IsWord [c] := ⟨List.cons_ne_nil c [], List.forall_mem_singleton.mpr hc⟩
  cases h with
  | nil => exact ⟨_, .word hword nofun .nil⟩
  | blank hd h =>
    exact ⟨_, .word hword (fun _ he => Option.some.inj he ▸ hd) (.blank hd h)⟩
  | word hw hs h =>
    exact ⟨_, .word ⟨List.cons_ne_nil _ _, List.forall_mem_cons.mpr ⟨hc, hw.2⟩⟩ hs h⟩

theorem exists_spaced (s : List Char) : ∃ ws, Spaced ws s := by
  induction s with
  | nil => exact ⟨[], .nil⟩
  | cons c s ih =>
    obtain ⟨ws, h⟩ := ih
    by_cases hc : isBlank c
    · exact ⟨ws, .blank hc h⟩
    · exact h.exists_cons hc

theorem words_eq_iff : words s = ws ↔ Spaced ws s := by
  refine ⟨fun h => ?_, Spaced.words_eq⟩
  obtain ⟨ws', h'⟩ := exists_spaced s
  rwa [← h, h'.words_eq]

instance : Decidable (Spaced ws s) := decidable_of_iff _ words_eq_iff

/-- A text ends in a blank or as its last word does. -/
theorem Spaced.getLast?_ne (h : Spaced ws s) (hc : ¬ isBlank c)
    (hlast : ∀ w ∈ ws.getLast?, w.getLast? ≠ some c) : s.getLast? ≠ some c := by
  induction h with
  | nil => nofun
  | @blank d ws s hd _ ih =>
    rw [List.getLast?_cons]
    cases hs : s.getLast? with
    | none => exact fun h => hc (Option.some.inj h ▸ hd)
    | some e => exact hs ▸ ih hlast
  | @word w ws s _ _ h ih =>
    rw [List.getLast?_append]
    cases hs : s.getLast? with
    | none =>
      -- Nothing follows, so this word is the last.
      rw [List.getLast?_eq_none_iff.mp hs] at h
      have hws : ws = [] := h.words_eq.symm
      exact hlast w (hws ▸ rfl)
    | some e =>
      have hrest : ∀ v ∈ ws.getLast?, v.getLast? ≠ some c := fun v hv =>
        hlast v (by rw [List.getLast?_cons, Option.mem_def.mp hv]; rfl)
      rw [Option.some_or, ← hs]
      exact ih hrest

end Words

/-! ## Lines -/

/-- The text with these lines. -/
def joinLines (ls : List (List Char)) : List Char := ['\n'].intercalate ls

theorem trim_dropReturn (l : List Char) : trim (dropReturn l) = trim l := by
  rw [dropReturn]
  split_ifs with h
  · have hblank : Blank ['\r'] := by decide
    conv_rhs => rw [← List.dropLast_append_getLast? '\r' h]
    exact (trim_append_of_blank hblank _).symm
  · rfl

/-- Lines are as good as pieces where a carriage return at the end makes no difference and an empty
piece counts for nothing. -/
theorem filterMap_lines {α : Type} {f : List Char → Option α}
    (hreturn : ∀ l, f (dropReturn l) = f l) (hempty : f [] = none) (s : List Char) :
    (lines s).filterMap f = (pieces (· = '\n') s).filterMap f := by
  obtain ⟨ls, l, hpieces⟩ : ∃ ls l, pieces (· = '\n') s = ls ++ [l] :=
    ⟨_, _, (List.dropLast_append_getLast (pieces_ne_nil _ s)).symm⟩
  have hends : (ls.map dropReturn).filterMap f = ls.filterMap f := by
    rw [List.filterMap_map, show f ∘ dropReturn = f from funext hreturn]
  have hlast : ([l].filter (· ≠ [])).filterMap f = [l].filterMap f := by
    cases l with
    | nil => exact (List.filterMap_cons_none hempty).symm
    | cons c l => rfl
  rw [lines, hpieces, List.dropLast_concat, List.getLast?_concat, Option.toList_some,
    List.filterMap_append, hends, hlast, List.filterMap_append]

theorem pieces_joinLines {l : List Char} {ls : List (List Char)} (hl : '\n' ∉ l)
    (hls : ∀ l ∈ ls, '\n' ∉ l) : pieces (· = '\n') (joinLines (l :: ls)) = l :: ls := by
  have hfree {l : List Char} (hl : '\n' ∉ l) : ∀ c ∈ l, ¬ decide (c = '\n') = true :=
    fun c hc h => hl (of_decide_eq_true h ▸ hc)
  induction ls generalizing l with
  | nil =>
    rw [joinLines, List.intercalate_singleton]
    exact pieces_of_forall (hfree hl)
  | cons m ls ih =>
    obtain ⟨hm, hls⟩ := List.forall_mem_cons.mp hls
    rw [joinLines, List.intercalate_cons_cons, List.append_assoc, List.singleton_append,
      pieces_append_cons (decide_eq_true rfl), pieces_of_forall (hfree hl)]
    exact congrArg (l :: ·) (ih hm hls)

theorem filterMap_lines_joinLines {α : Type} {f : List Char → Option α}
    (hreturn : ∀ l, f (dropReturn l) = f l) (hempty : f [] = none) {ls : List (List Char)}
    (hls : ∀ l ∈ ls, '\n' ∉ l) : (lines (joinLines ls)).filterMap f = ls.filterMap f := by
  rw [filterMap_lines hreturn hempty]
  cases ls with
  | nil => exact List.filterMap_cons_none hempty
  | cons l ls =>
    obtain ⟨hl, hls⟩ := List.forall_mem_cons.mp hls
    rw [pieces_joinLines hl hls]

end GraphicsObjects.Text
