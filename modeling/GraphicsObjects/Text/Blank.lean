/-!
Blank characters and the cuts that use them: trimming, words and lines of a text given as a list of
characters.
-/

namespace GraphicsObjects.Text

/-- The characters with the Unicode property `White_Space`. -/
def blankRanges : List (Nat × Nat) :=
  [(0x09, 0x0D), (0x20, 0x20), (0x85, 0x85), (0xA0, 0xA0), (0x1680, 0x1680), (0x2000, 0x200A),
    (0x2028, 0x2029), (0x202F, 0x202F), (0x205F, 0x205F), (0x3000, 0x3000)]

def isBlank (c : Char) : Bool := blankRanges.any fun r => r.1 ≤ c.toNat && c.toNat ≤ r.2

def trimStart (s : List Char) : List Char := s.dropWhile isBlank

/-- Removes the characters at the end that satisfy `p`. -/
def dropEndWhile (p : Char → Bool) (s : List Char) : List Char := (s.reverse.dropWhile p).reverse

def trim (s : List Char) : List Char := dropEndWhile isBlank (trimStart s)

/-- The pieces between the characters that satisfy `p`; a text without one is its own only piece. -/
def pieces (p : Char → Bool) : List Char → List (List Char)
  | [] => [[]]
  | c :: s =>
    if p c then [] :: pieces p s
    else match pieces p s with
      | [] => [[c]]
      | w :: ws => (c :: w) :: ws

/-- The maximal runs without a blank. -/
def words (s : List Char) : List (List Char) := (pieces isBlank s).filter (· ≠ [])

/-- A line without the carriage return that belongs to its end. -/
def dropReturn (l : List Char) : List Char :=
  if l.getLast? = some '\r' then l.dropLast else l

/-- The lines of a text. A line ends at a line feed, with or without a carriage return before it,
and what follows the last line feed is a line unless it is empty. -/
def lines (s : List Char) : List (List Char) :=
  let ps := pieces (· = '\n') s
  ps.dropLast.map dropReturn ++ (ps.getLast?.toList.filter (· ≠ []))

theorem pieces_ne_nil (p : Char → Bool) (s : List Char) : pieces p s ≠ [] := by
  cases s with
  | nil => simp [pieces]
  | cons c s =>
    simp only [pieces]
    split
    · simp
    · split <;> simp

end GraphicsObjects.Text
