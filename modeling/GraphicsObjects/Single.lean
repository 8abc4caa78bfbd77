/-!
Single-precision numbers, kept as their bit patterns, and the shortest decimal text of one.

A finite number is `m * 2 ^ q`. Its text has the fewest digits among the decimals that round to it,
and of those the digits nearest to it; a tie goes up. `shortest` looks for them on the decimal grids
`10 ^ j`, coarsest first, in exact arithmetic.
-/

namespace GraphicsObjects

/-- A single-precision number, by its bit pattern. -/
structure Single where
  bits : UInt32
  deriving DecidableEq

namespace Single

instance : Inhabited Single := ⟨⟨0⟩⟩

def isNegative (x : Single) : Bool := 0x80000000 ≤ x.bits.toNat

/-- The exponent field. -/
def exponentField (x : Single) : Nat := x.bits.toNat / 0x800000 % 256

/-- The fraction field. -/
def fraction (x : Single) : Nat := x.bits.toNat % 0x800000

/-- `m` in the magnitude `m * 2 ^ (exponent - 149)`. -/
def significand (x : Single) : Nat :=
  if x.exponentField = 0 then x.fraction else 0x800000 + x.fraction

/-- The exponent of the magnitude above that of the smallest one. -/
def exponent (x : Single) : Nat := x.exponentField - 1

/-- A decimal `digits * 10 ^ scale`. -/
structure Decimal where
  digits : Nat
  scale : Int
  deriving DecidableEq, Inhabited

/-- A positive number `value / denominator` with the bounds of the numbers that round to it, over
the same denominator; the bounds themselves belong to it if `closed`. -/
structure Rounding where
  low : Nat
  value : Nat
  high : Nat
  denominator : Nat
  closed : Bool

/-- What rounds to the magnitude of `x`. Below a power of two the neighbour is half as far. -/
def rounding (x : Single) : Rounding :=
  let m := x.significand
  let below := if x.fraction = 0 && 1 < x.exponentField then 1 else 2
  let unit := 1 <<< x.exponent
  { low := (4 * m - below) * unit, value := 4 * m * unit, high := (4 * m + 2) * unit
    denominator := 1 <<< 151, closed := m % 2 = 0 }

/-- Whether `n / d` rounds to the number of `r`. -/
def Rounding.admits (r : Rounding) (n d : Nat) : Bool :=
  if r.closed then r.low * d ≤ n * r.denominator && n * r.denominator ≤ r.high * d
  else r.low * d < n * r.denominator && n * r.denominator < r.high * d

/-- The point of the grid `10 ^ j` that is nearest to the number of `r` among its two neighbours
there that round to it. -/
def Rounding.onGrid (r : Rounding) (j : Int) : Option Decimal :=
  let num := Nat.pow 10 j.toNat
  let den := Nat.pow 10 (-j).toNat
  let below := r.value * den / (r.denominator * num)
  let above := below + 1
  let admits (c : Nat) : Bool := r.admits (c * num) den
  if admits below && admits above then
    if r.value * den - below * num * r.denominator < above * num * r.denominator - r.value * den
    then some ⟨below, j⟩ else some ⟨above, j⟩
  else if admits above then some ⟨above, j⟩
  else if admits below then some ⟨below, j⟩
  else none

/-- The first hit on the grids `10 ^ j`, `10 ^ (j - 1)`, … -/
def Rounding.search (r : Rounding) : Nat → Int → Decimal
  | 0, _ => default
  | n + 1, j => match r.onGrid j with
    | some d => d
    | none => r.search n (j - 1)

/-- The shortest decimal that rounds to the magnitude of `x`. Magnitudes are below `10 ^ 39`, and
`10 ^ (-46)` is finer than the distance of any two of them. -/
def shortest (x : Single) : Decimal := x.rounding.search 86 39

/-- `digits` without trailing zeros, the scale raised accordingly. -/
def Decimal.strip : Nat → Decimal → Decimal
  | 0, d => d
  | n + 1, d =>
    if d.digits ≠ 0 ∧ d.digits % 10 = 0 then Decimal.strip n ⟨d.digits / 10, d.scale + 1⟩ else d

/-- The decimals from this power of ten on, and those below the other one, are written with an
exponent. -/
def exponentFrom : Int := 16

def exponentBelow : Int := -4

/-- `d` in positional notation or with an exponent; a positional text always has a fraction. -/
def Decimal.text (d : Decimal) : String :=
  let d := d.strip 40
  let ds := Nat.toDigits 10 d.digits
  let point : Int := ds.length + d.scale
  if d.digits ≠ 0 ∧ (point - 1 < exponentBelow ∨ exponentFrom ≤ point - 1) then
    let mantissa := match ds with
      | [] => ""
      | [c] => String.singleton c
      | c :: r => String.singleton c ++ "." ++ String.ofList r
    mantissa ++ "e" ++ toString (point - 1)
  else if point ≤ 0 then
    "0." ++ String.ofList (List.replicate (-point).toNat '0' ++ ds)
  else
    let whole := ds.take point.toNat
    let whole := whole ++ List.replicate (point.toNat - whole.length) '0'
    let rest := ds.drop point.toNat
    String.ofList whole ++ "." ++ String.ofList (if rest = [] then ['0'] else rest)

/-- The text of a number. -/
def text (x : Single) : String :=
  if x.exponentField = 255 then
    if x.fraction ≠ 0 then "NaN" else if x.isNegative then "-inf" else "inf"
  else
    let sign := if x.isNegative then "-" else ""
    sign ++ (if x.significand = 0 then "0.0" else x.shortest.text)

end Single

end GraphicsObjects
