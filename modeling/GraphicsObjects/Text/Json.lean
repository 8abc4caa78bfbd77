/-!
Reading JSON strictly. The characters are cut into tokens, and a machine with the open brackets on a
stack puts the tokens together, so that nesting of any depth is read. Numbers are checked but not
kept. A string whose escapes name half of a surrogate pair is well formed but denotes no text.
-/

namespace GraphicsObjects

/-- A JSON value. A string and a key are the text they denote, if any. -/
inductive Json where
  | null
  | bool (b : Bool)
  | number
  | string (s : Option (List Char))
  | array (elements : List Json)
  | object (members : List (Option (List Char) × Json))

namespace Json

/-! ## Strings -/

/-- A part of a string: a character that stands for itself, or the 16-bit unit of an escape. -/
inductive Part where
  | char (c : Char)
  | unit (n : Nat)

/-- The text that parts denote. Two surrogates that stand together are one character. -/
def denoted? : List Part → Option (List Char)
  | [] => some []
  | .char c :: r => (denoted? r).map (c :: ·)
  | .unit n :: r =>
    if n < 0xD800 ∨ 0xE000 ≤ n then (denoted? r).map (Char.ofNat n :: ·)
    else match r with
      | .unit l :: r =>
        if n < 0xDC00 ∧ 0xDC00 ≤ l ∧ l < 0xE000 then
          (denoted? r).map (Char.ofNat (0x10000 + (n - 0xD800) * 0x400 + (l - 0xDC00)) :: ·)
        else none
      | _ => none

def hexDigit? (c : Char) : Option Nat :=
  if '0' ≤ c ∧ c ≤ '9' then some (c.toNat - '0'.toNat)
  else if 'a' ≤ c ∧ c ≤ 'f' then some (c.toNat - 'a'.toNat + 10)
  else if 'A' ≤ c ∧ c ≤ 'F' then some (c.toNat - 'A'.toNat + 10)
  else none

/-- The character that a letter after a backslash stands for. -/
def escape? (c : Char) : Option Char :=
  [('"', '"'), ('\\', '\\'), ('/', '/'), ('b', '\x08'), ('f', '\x0c'), ('n', '\n'), ('r', '\r'),
    ('t', '\t')].lookup c

/-- The parts of a string after its opening quote, and what follows its closing quote. -/
def stringParts? : List Char → Option (List Part × List Char)
  | [] => none
  | '"' :: r => some ([], r)
  | '\\' :: 'u' :: a :: b :: c :: d :: r => do
    let n := (← hexDigit? a) * 4096 + (← hexDigit? b) * 256 + (← hexDigit? c) * 16 + (← hexDigit? d)
    let (ps, rest) ← stringParts? r
    pure (.unit n :: ps, rest)
  | '\\' :: e :: r => do
    let c ← escape? e
    let (ps, rest) ← stringParts? r
    pure (.char c :: ps, rest)
  | c :: r =>
    if c.toNat < 0x20 ∨ c = '\\' then none
    else do
      let (ps, rest) ← stringParts? r
      pure (.char c :: ps, rest)

theorem length_stringParts {s rest : List Char} {ps : List Part}
    (h : stringParts? s = some (ps, rest)) : rest.length < s.length := by
  fun_induction stringParts? s generalizing ps rest with
  | case1 => simp at h
  | case2 r => simp_all
  | case3 a b c d r ih =>
    simp only [Option.pure_def, Option.bind_eq_bind, Option.bind_eq_some_iff, Option.some.injEq,
      Prod.mk.injEq] at h
    obtain ⟨_, _, _, _, _, _, _, _, ⟨_, _⟩, he, _, rfl⟩ := h
    have := ih he
    simp only [List.length_cons]
    omega
  | case4 e r _ ih =>
    simp only [Option.pure_def, Option.bind_eq_bind, Option.bind_eq_some_iff, Option.some.injEq,
      Prod.mk.injEq] at h
    obtain ⟨_, _, ⟨_, _⟩, he, _, rfl⟩ := h
    have := ih he
    simp only [List.length_cons]
    omega
  | case5 => simp at h
  | case6 c r _ _ _ _ ih =>
    simp only [Option.pure_def, Option.bind_eq_bind, Option.bind_eq_some_iff, Option.some.injEq,
      Prod.mk.injEq] at h
    obtain ⟨⟨_, _⟩, he, _, rfl⟩ := h
    have := ih he
    simp only [List.length_cons]
    omega

/-! ## Numbers -/

/-- What follows a non-empty run of digits. -/
def afterDigits? : List Char → Option (List Char)
  | c :: r => if c.isDigit then some (r.dropWhile Char.isDigit) else none
  | [] => none

/-- What follows an optional exponent. -/
def afterExponent? : List Char → Option (List Char)
  | 'e' :: r | 'E' :: r => match r with
    | '+' :: r | '-' :: r => afterDigits? r
    | r => afterDigits? r
  | r => some r

/-- What follows an optional fraction and exponent. -/
def afterFraction? : List Char → Option (List Char)
  | '.' :: r => (afterDigits? r).bind afterExponent?
  | r => afterExponent? r

/-- What follows a number without sign. A leading zero stands alone. -/
def afterMagnitude? : List Char → Option (List Char)
  | '0' :: r => afterFraction? r
  | r => (afterDigits? r).bind afterFraction?

theorem length_afterDigits {s r : List Char} (h : afterDigits? s = some r) :
    r.length < s.length := by
  unfold afterDigits? at h
  split at h
  · split at h
    · simp only [Option.some.injEq] at h
      subst h
      simp only [List.length_cons]
      exact Nat.lt_succ_of_le (List.dropWhile_suffix _).length_le
    · simp at h
  · simp at h

theorem length_afterExponent {s r : List Char} (h : afterExponent? s = some r) :
    r.length ≤ s.length := by
  unfold afterExponent? at h
  split at h
  · split at h <;>
    · have := length_afterDigits h
      simp_all only [List.length_cons]
      omega
  · split at h <;>
    · have := length_afterDigits h
      simp_all only [List.length_cons]
      omega
  · simp_all

theorem length_afterFraction {s r : List Char} (h : afterFraction? s = some r) :
    r.length ≤ s.length := by
  unfold afterFraction? at h
  split at h
  · obtain ⟨t, ht, he⟩ := Option.bind_eq_some_iff.1 h
    have := length_afterDigits ht
    have := length_afterExponent he
    simp only [List.length_cons]
    omega
  · exact length_afterExponent h

theorem length_afterMagnitude {s r : List Char} (h : afterMagnitude? s = some r) :
    r.length < s.length := by
  unfold afterMagnitude? at h
  split at h
  · have := length_afterFraction h
    simp only [List.length_cons]
    omega
  · obtain ⟨t, ht, he⟩ := Option.bind_eq_some_iff.1 h
    have := length_afterDigits ht
    have := length_afterFraction he
    omega

/-! ## Tokens -/

inductive Token where
  | openObject | closeObject | openArray | closeArray | comma | colon
  | value (v : Json)
  | text (s : Option (List Char))

def isSpace (c : Char) : Bool := c = ' ' || c = '\t' || c = '\n' || c = '\r'

/-- The token at the start of a text that starts with no space, and what follows it. -/
def token? : List Char → Option (Token × List Char)
  | [] => none
  | '\x7b' :: r => some (.openObject, r)
  | '\x7d' :: r => some (.closeObject, r)
  | '[' :: r => some (.openArray, r)
  | ']' :: r => some (.closeArray, r)
  | ',' :: r => some (.comma, r)
  | ':' :: r => some (.colon, r)
  | 't' :: 'r' :: 'u' :: 'e' :: r => some (.value (.bool true), r)
  | 'f' :: 'a' :: 'l' :: 's' :: 'e' :: r => some (.value (.bool false), r)
  | 'n' :: 'u' :: 'l' :: 'l' :: r => some (.value .null, r)
  | '"' :: r => (stringParts? r).map fun p => (.text (denoted? p.1), p.2)
  | '-' :: r => (afterMagnitude? r).map fun r => (.value .number, r)
  | s => (afterMagnitude? s).map fun r => (.value .number, r)

theorem length_token {s r : List Char} {t : Token} (h : token? s = some (t, r)) :
    r.length < s.length := by
  unfold token? at h
  split at h
  case h_11 =>
    obtain ⟨⟨_, _⟩, he, heq⟩ := Option.map_eq_some_iff.1 h
    have := length_stringParts he
    simp_all only [List.length_cons, Prod.mk.injEq]
    omega
  case h_12 =>
    obtain ⟨_, he, heq⟩ := Option.map_eq_some_iff.1 h
    have := length_afterMagnitude he
    simp_all only [List.length_cons, Prod.mk.injEq]
    omega
  case h_13 =>
    obtain ⟨_, he, heq⟩ := Option.map_eq_some_iff.1 h
    have := length_afterMagnitude he
    simp_all only [Prod.mk.injEq]
  all_goals simp_all only [Option.some.injEq, Prod.mk.injEq, List.length_cons, reduceCtorEq]
  all_goals omega

/-- The tokens of a text. -/
def tokens? (s : List Char) : Option (List Token) :=
  match s with
  | [] => some []
  | c :: r =>
    if isSpace c then tokens? r
    else match _h : token? (c :: r) with
      | none => none
      | some (t, rest) => (tokens? rest).map (t :: ·)
termination_by s.length
decreasing_by
  · simp
  · exact length_token _h

/-! ## Values -/

/-- A bracket that is open, with what it already holds, newest first. -/
inductive Frame where
  | array (done : List Json)
  | object (done : List (Option (List Char) × Json)) (key : Option (List Char))

/-- What the machine looks for. -/
inductive Expect where
  /-- A value. -/
  | value
  /-- A value, or the end of an array without elements. -/
  | element
  /-- A key, or the end of an object without members. -/
  | member
  /-- A key. -/
  | key (done : List (Option (List Char) × Json))
  /-- The colon after a key. -/
  | colon
  /-- What follows the value that has been read. -/
  | after (v : Json)

/-- Reads tokens; `stack` holds the open brackets, the innermost first. -/
def assemble : List Token → Expect → List Frame → Option Json
  | [], .after v, [] => some v
  | .value v :: r, .value, st => assemble r (.after v) st
  | .value v :: r, .element, st => assemble r (.after v) st
  | .text s :: r, .value, st => assemble r (.after (.string s)) st
  | .text s :: r, .element, st => assemble r (.after (.string s)) st
  | .openArray :: r, .value, st => assemble r .element (.array [] :: st)
  | .openArray :: r, .element, st => assemble r .element (.array [] :: st)
  | .openObject :: r, .value, st => assemble r .member st
  | .openObject :: r, .element, st => assemble r .member st
  | .closeArray :: r, .element, .array [] :: st => assemble r (.after (.array [])) st
  | .closeObject :: r, .member, st => assemble r (.after (.object [])) st
  | .text k :: r, .member, st => assemble r .colon (.object [] k :: st)
  | .text k :: r, .key done, st => assemble r .colon (.object done k :: st)
  | .colon :: r, .colon, st => assemble r .value st
  | .comma :: r, .after v, .array done :: st => assemble r .value (.array (v :: done) :: st)
  | .comma :: r, .after v, .object done k :: st => assemble r (.key ((k, v) :: done)) st
  | .closeArray :: r, .after v, .array done :: st =>
    assemble r (.after (.array (v :: done).reverse)) st
  | .closeObject :: r, .after v, .object done k :: st =>
    assemble r (.after (.object ((k, v) :: done).reverse)) st
  | _, _, _ => none

/-- The value that a text denotes, if it is JSON. -/
def parse? (s : List Char) : Option Json :=
  (tokens? s).bind fun ts => assemble ts .value []

end Json

end GraphicsObjects
