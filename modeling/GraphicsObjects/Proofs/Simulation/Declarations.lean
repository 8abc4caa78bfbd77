import GraphicsObjects.Proofs.Text.Numerals
import GraphicsObjects.Proofs.Text.Words
import GraphicsObjects.Simulation.Declarations

/-!
# Reading declarations

A source is described line by line, by what each line declares and how that may be spelt. The
variables that are read from it are those that its lines declare, in order.
-/

namespace GraphicsObjects.Simulation

open Text

/-! ## Types -/

/-- The types of variables by their names. -/
def typeEnumerants : List (String × Enumerant) :=
  [("float", Enumerant.float), ("vec2", Enumerant.floatVec2), ("vec3", Enumerant.floatVec3),
    ("vec4", Enumerant.floatVec4), ("int", Enumerant.int), ("ivec2", Enumerant.intVec2),
    ("ivec3", Enumerant.intVec3), ("ivec4", Enumerant.intVec4), ("mat3", Enumerant.floatMat3),
    ("mat4", Enumerant.floatMat4), ("sampler2D", Enumerant.sampler2D),
    ("samplerCube", Enumerant.samplerCube)]

/-- The enumerant of the type that a text names, or 0 if it names none. -/
inductive HasEnumerant (type : List Char) : Enumerant → Prop
  | known {name : String} {e : Enumerant} :
      (name, e) ∈ typeEnumerants → name.toList = type → HasEnumerant type e
  | unknown : (∀ r ∈ typeEnumerants, r.1.toList ≠ type) → HasEnumerant type 0

theorem variableType_eq_iff {type : List Char} {e : Enumerant} :
    variableType type = e ↔ HasEnumerant type e := by
  have hlookup : variableType type =
      (typeEnumerants.find? fun r => r.1.toList = type).elim 0 Prod.snd := rfl
  have hdistinct : ∀ r ∈ typeEnumerants, ∀ r' ∈ typeEnumerants,
      r.1.toList = r'.1.toList → r = r' := by decide
  rw [hlookup]
  cases hfind : typeEnumerants.find? fun r => r.1.toList = type with
  | none =>
    have hnone : ∀ r ∈ typeEnumerants, r.1.toList ≠ type := by simpa using hfind
    constructor
    · rintro rfl
      exact .unknown hnone
    · rintro (⟨hmem, hname⟩ | -)
      · exact absurd hname (hnone _ hmem)
      · rfl
  | some r =>
    have hmem : r ∈ typeEnumerants := List.mem_of_find?_eq_some hfind
    have hname : r.1.toList = type := by simpa using List.find?_some hfind
    constructor
    · rintro rfl
      exact .known hmem hname
    · rintro (⟨hmem', hname'⟩ | hnone)
      · rw [hdistinct r hmem _ hmem' (hname.trans hname'.symm)]
        rfl
      · exact absurd hname (hnone r hmem)

instance {type : List Char} {e : Enumerant} : Decidable (HasEnumerant type e) :=
  decidable_of_iff _ variableType_eq_iff

/-! ## Declarators -/

theorem declarator_of_not_mem {s : List Char} (hs : '[' ∉ s) : declarator s = (s, 1) := by
  have hnone : s.dropWhile (· ≠ '[') = [] :=
    List.dropWhile_eq_nil_iff.mpr fun c hc => decide_eq_true fun h => hs (h ▸ hc)
  simp only [declarator, hnone]

theorem declarator_append {s : List Char} (hs : '[' ∉ s) (r : List Char) :
    declarator (s ++ '[' :: r) = (s, (integer32? (dropEndWhile (· = ']') r)).getD 1) := by
  have hname : ∀ c ∈ s, decide (c ≠ '[') = true := fun c hc => decide_eq_true fun h => hs (h ▸ hc)
  have hdrop : (s ++ '[' :: r).dropWhile (· ≠ '[') = '[' :: r := by
    rw [List.dropWhile_append_of_pos hname]
    rfl
  have htake : (s ++ '[' :: r).takeWhile (· ≠ '[') = s := by
    rw [List.takeWhile_append_of_pos hname]
    exact List.append_nil s
  simp only [declarator, hdrop, htake]

theorem dropEndWhile_bracket (n : Numeral) : dropEndWhile (· = ']') (n.text ++ [']']) = n.text := by
  rw [dropEndWhile_append_of_forall (by simp)]
  refine dropEndWhile_eq_self fun c hc hbracket => ?_
  have hdigit : c.isDigit := Numeral.isDigit_of_mem_text (List.mem_of_getLast? hc)
  rw [of_decide_eq_true hbracket] at hdigit
  exact absurd hdigit (by decide)

/-! ## Declarations -/

/-- What may stand as a type or a name: a word without semicolons and brackets. -/
def IsPlain (w : List Char) : Prop := IsWord w ∧ ∀ c ∈ w, c ≠ ';' ∧ c ≠ '[' ∧ c ≠ ']'

instance : DecidablePred IsPlain := fun w =>
  haveI := List.decidableBAll (fun c => c ≠ ';' ∧ c ≠ '[' ∧ c ≠ ']') w
  instDecidableAnd

/-- What stands in a declaration after the qualifier: a type, a name, and for an array its size. -/
structure Declaration where
  type : List Char
  name : List Char
  size : Option Numeral

namespace Declaration

/-- The name, with the size in brackets. -/
def nameText (d : Declaration) : List Char :=
  d.name ++ d.size.elim [] fun n => '[' :: (n.text ++ [']'])

structure WellFormed (d : Declaration) : Prop where
  type : IsPlain d.type
  name : IsPlain d.name
  size : ∀ n ∈ d.size, n.value < 2 ^ 31

/-- `v` is the variable that is declared. One that is no array has size 1. -/
structure Declares (d : Declaration) (v : ActiveVariable) : Prop where
  name : v.name.toList = d.name
  type : HasEnumerant d.type v.type
  size : v.size = d.size.elim 1 fun n => (n.value : Int)

variable {d : Declaration} {v : ActiveVariable}

theorem declarator_nameText (h : d.WellFormed) :
    declarator d.nameText = (d.name, d.size.elim 1 fun n => (n.value : Int)) := by
  have hname : '[' ∉ d.name := fun hc => (h.name.2 _ hc).2.1 rfl
  rw [nameText]
  cases hsize : d.size with
  | none =>
    rw [Option.elim_none, Option.elim_none, List.append_nil, declarator_of_not_mem hname]
  | some n =>
    rw [Option.elim_some, Option.elim_some, declarator_append hname, dropEndWhile_bracket,
      integer32?_text, if_pos (h.size n hsize), Option.getD_some]

theorem getLast?_nameText_ne (h : d.WellFormed) : d.nameText.getLast? ≠ some ';' := by
  rw [nameText]
  cases d.size with
  | none =>
    rw [Option.elim_none, List.append_nil]
    exact fun hlast => (h.name.2 _ (List.mem_of_getLast? hlast)).1 rfl
  | some n =>
    rw [Option.elim_some, ← List.cons_append, ← List.append_assoc, List.getLast?_concat]
    decide

end Declaration

/-! ## Lines -/

/-- What a line declares under a qualifier. Its statement is what stands before the semicolons at
its end. The qualifier with a type and a name declares a variable; a statement that is shorter, or
starts with another word, declares nothing. -/
inductive LineDeclares (qualifier line : List Char) : Option ActiveVariable → Prop
  | declaration {v : ActiveVariable} (d : Declaration) (statement : List Char) (semicolons : Nat)
      (blanks : List Char) :
      line = statement ++ List.replicate semicolons ';' ++ blanks →
      Spaced [qualifier, d.type, d.nameText] statement → Blank blanks → d.WellFormed →
      d.Declares v → LineDeclares qualifier line (some v)
  | nothing (statement : List Char) (semicolons : Nat) (ws : List (List Char)) :
      Trimmed line (statement ++ List.replicate semicolons ';') → statement.getLast? ≠ some ';' →
      Spaced ws statement → ws.head? ≠ some qualifier ∨ ws.length < 3 →
      LineDeclares qualifier line none

theorem isWord_replicate (k : Nat) : IsWord (List.replicate (k + 1) ';') :=
  ⟨List.cons_ne_nil _ _, fun c hc => by rw [List.eq_of_mem_replicate hc]; decide⟩

theorem dropEndWhile_semicolons {s : List Char} (hs : s.getLast? ≠ some ';') (k : Nat) :
    dropEndWhile (· = ';') (s ++ List.replicate k ';') = s :=
  dropEndWhile_eq_iff.mpr ⟨_, rfl, fun _ hc => decide_eq_true (List.eq_of_mem_replicate hc),
    fun _ hc h => hs (of_decide_eq_true h ▸ hc)⟩

/-- A line has the words of its statement, of which the last keeps its end. -/
theorem words_line {ws : List (List Char)} {s b : List Char} (h : Spaced ws s)
    (hlast : ∀ w ∈ ws.getLast?, w.getLast? ≠ some ';') (hb : Blank b) (k : Nat) :
    words (dropEndWhile (· = ';') (trim (s ++ List.replicate k ';' ++ b))) = ws := by
  have htrim : ∃ t, trim (s ++ List.replicate k ';') = t ++ List.replicate k ';' ∧
      words t = ws := by
    -- Semicolons hold the blanks before them back, which makes no difference to the words.
    cases k with
    | zero => exact ⟨trim s, by simp, (words_trim s).trans h.words_eq⟩
    | succ k =>
      exact ⟨trimStart s, trim_append_of_isWord (isWord_replicate k) s,
        (words_trimStart s).trans h.words_eq⟩
  obtain ⟨t, htrim, ht⟩ := htrim
  have hend : t.getLast? ≠ some ';' := (words_eq_iff.mp ht).getLast?_ne (by decide) hlast
  rw [trim_append_of_blank hb, htrim, dropEndWhile_semicolons hend, ht]

theorem declaration?_eq_some {q type name : List Char} {ws : List (List Char)} {line : List Char}
    (h : words (dropEndWhile (· = ';') (trim line)) = q :: type :: name :: ws) :
    declaration? q line = some
      { name := String.ofList (declarator name).1, type := variableType type,
        size := (declarator name).2 } := by
  simp only [declaration?, h, if_true]

theorem declaration?_eq_none {q line : List Char} {ws : List (List Char)}
    (h : words (dropEndWhile (· = ';') (trim line)) = ws)
    (hws : ws.head? ≠ some q ∨ ws.length < 3) : declaration? q line = none := by
  rw [declaration?, h]
  match ws, hws with
  | [], _ | [_], _ | [_, _], _ => rfl
  | w :: _ :: _ :: _, .inl hne => exact if_neg fun h => hne (congrArg some h)

theorem LineDeclares.declaration?_eq {q line : List Char} {v? : Option ActiveVariable}
    (h : LineDeclares q line v?) : declaration? q line = v? := by
  cases h with
  | @declaration v d s k b hline hs hb hd hv =>
    have hlast : ∀ w ∈ [q, d.type, d.nameText].getLast?, w.getLast? ≠ some ';' := by
      intro w hw
      rw [← Option.some.inj hw]
      exact d.getLast?_nameText_ne hd
    rw [hline, declaration?_eq_some (words_line hs hlast hb k), d.declarator_nameText hd,
      variableType_eq_iff.mpr hv.type, ← hv.name, ← hv.size, String.ofList_toList]
  | nothing s k ws hline hend hs hws =>
    refine declaration?_eq_none ?_ hws
    rw [trim_eq_iff.mpr hline, dropEndWhile_semicolons hend, hs.words_eq]

/-! ## Sources -/

/-- The variables declared under a qualifier are read from a source line by line. A carriage return
before the end of a line is one of its blanks. -/
theorem declarations_read_back {qualifier source : String}
    {ls : List (List Char × Option ActiveVariable)}
    (hsource : source.toList = joinLines (ls.map Prod.fst))
    (hls : ∀ l ∈ ls, '\n' ∉ l.1 ∧ LineDeclares qualifier.toList l.1 l.2) :
    declarations qualifier source = ls.filterMap Prod.snd := by
  have hreturn (l : List Char) :
      declaration? qualifier.toList (dropReturn l) = declaration? qualifier.toList l := by
    rw [declaration?, declaration?, trim_dropReturn]
  have hlines : ∀ l ∈ ls.map Prod.fst, '\n' ∉ l :=
    List.forall_mem_map.mpr fun l hl => (hls l hl).1
  rw [declarations, hsource, filterMap_lines_joinLines hreturn rfl hlines, List.filterMap_map]
  exact List.filterMap_congr fun l hl => (hls l hl).2.declaration?_eq

/-- Two declarations among lines that are none. -/
def mixedLines : List (List Char × Option ActiveVariable) :=
  [("\tuniform  vec3 color ;;\r".toList, some ⟨"color", Enumerant.floatVec3, 1⟩),
    ([], none), (" uniform ;float ;".toList, none),
    ("uniform mine shade[007]".toList, some ⟨"shade", 0, 7⟩), ("in vec2 uv;".toList, none)]

theorem mixedLines_read_back :
    (∀ l ∈ mixedLines, '\n' ∉ l.1 ∧ LineDeclares "uniform".toList l.1 l.2) ∧
      declarations "uniform" (String.ofList (joinLines (mixedLines.map Prod.fst))) =
        [⟨"color", Enumerant.floatVec3, 1⟩, ⟨"shade", 0, 7⟩] := by
  have hcolor : LineDeclares "uniform".toList "\tuniform  vec3 color ;;\r".toList
      (some ⟨"color", Enumerant.floatVec3, 1⟩) :=
    .declaration ⟨"vec3".toList, "color".toList, none⟩ "\tuniform  vec3 color ".toList 2 ['\r']
      (by decide) (by decide) (by decide) ⟨by decide, by decide, by decide⟩
      ⟨by decide, by decide, by decide⟩
  have hempty : LineDeclares "uniform".toList [] none :=
    .nothing [] 0 [] (by decide) (by decide) (by decide) (.inl (by decide))
  have hnameless : LineDeclares "uniform".toList " uniform ;float ;".toList none :=
    .nothing "uniform ;float ".toList 1 (["uniform", ";float"].map String.toList)
      (by decide) (by decide) (by decide) (.inr (by decide))
  have hshade : LineDeclares "uniform".toList "uniform mine shade[007]".toList
      (some ⟨"shade", 0, 7⟩) :=
    .declaration ⟨"mine".toList, "shade".toList, some ⟨2, 7⟩⟩ "uniform mine shade[007]".toList 0 []
      (by decide) (by decide) (by decide) ⟨by decide, by decide, by decide⟩
      ⟨by decide, by decide, by decide⟩
  have hattribute : LineDeclares "uniform".toList "in vec2 uv;".toList none :=
    .nothing "in vec2 uv".toList 1 (["in", "vec2", "uv"].map String.toList)
      (by decide) (by decide) (by decide) (.inl (by decide))
  have hls : ∀ l ∈ mixedLines, '\n' ∉ l.1 ∧ LineDeclares "uniform".toList l.1 l.2 := by
    simp only [mixedLines, List.forall_mem_cons]
    exact ⟨⟨by decide, hcolor⟩, ⟨by decide, hempty⟩, ⟨by decide, hnameless⟩,
      ⟨by decide, hshade⟩, ⟨by decide, hattribute⟩, nofun⟩
  exact ⟨hls, declarations_read_back String.toList_ofList hls⟩

end GraphicsObjects.Simulation
