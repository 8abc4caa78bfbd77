import GraphicsObjects.Word

/-! Decimal numbers as they stand in a text. -/

namespace GraphicsObjects.Text

/-- The number that a non-empty run of decimal digits denotes. -/
def natural? (s : List Char) : Option Nat :=
  if s ≠ [] ∧ s.all Char.isDigit then
    some (s.foldl (fun n c => 10 * n + (c.toNat - '0'.toNat)) 0)
  else none

/-- A decimal number with an optional sign, refused where it does not fit 32 bits. -/
def integer32? (s : List Char) : Option Int :=
  let value : Option Int := match s with
    | '-' :: r => (natural? r).map fun n => -(n : Int)
    | '+' :: r => (natural? r).map fun n => (n : Int)
    | r => (natural? r).map fun n => (n : Int)
  value.filter fun i => -0x80000000 ≤ i && i < 0x80000000

/-- Upper-case hexadecimal digits of `n`. -/
def hexadecimal (n : Nat) : String := (String.ofList (Nat.toDigits 16 n)).toUpper

end GraphicsObjects.Text
