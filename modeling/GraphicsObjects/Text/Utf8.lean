/-!
UTF-8 read from bytes that need not be well formed. `scalars` cuts the bytes into encoded characters
and ill-formed parts, an ill-formed part being the longest start of an encoding that the next byte
does not continue, or one byte that starts none. Reading strictly refuses such a part, reading
leniently puts U+FFFD in its place.
-/

namespace GraphicsObjects.Text

/-- What a first byte announces: its share of the scalar value, how many bytes follow, and the range
of the next one. -/
structure Lead where
  value : Nat
  count : Nat
  low : Nat := 0x80
  high : Nat := 0xBF

/-- The announcement of a first byte. The narrowed ranges exclude encodings that are too long,
surrogates and values above U+10FFFF. -/
def lead? (b : UInt8) : Option Lead :=
  let n := b.toNat
  if n < 0x80 then some { value := n, count := 0 }
  else if n < 0xC2 then none
  else if n < 0xE0 then some { value := n - 0xC0, count := 1 }
  else if n = 0xE0 then some { value := 0, count := 2, low := 0xA0 }
  else if n = 0xED then some { value := n - 0xE0, count := 2, high := 0x9F }
  else if n < 0xF0 then some { value := n - 0xE0, count := 2 }
  else if n = 0xF0 then some { value := 0, count := 3, low := 0x90 }
  else if n < 0xF4 then some { value := n - 0xF0, count := 3 }
  else if n = 0xF4 then some { value := 4, count := 3, high := 0x8F }
  else none

/-- Reads the `count` bytes that follow, the first of them in a range of its own. -/
def continuation : (count value low high : Nat) → List UInt8 → Option Nat × List UInt8
  | 0, value, _, _, bs => (some value, bs)
  | _ + 1, _, _, _, [] => (none, [])
  | n + 1, value, low, high, b :: bs =>
    if low ≤ b.toNat ∧ b.toNat ≤ high then
      continuation n (value * 64 + b.toNat % 64) 0x80 0xBF bs
    else (none, b :: bs)

theorem continuation_length_le (n value low high : Nat) (bs : List UInt8) :
    (continuation n value low high bs).2.length ≤ bs.length := by
  fun_induction continuation n value low high bs with
  | case3 n value low high b bs h ih => simp only [List.length_cons]; omega
  | _ => simp

/-- One character, or `none` for an ill-formed part, and the bytes after it. -/
def nextScalar (b : UInt8) (bs : List UInt8) : Option Char × List UInt8 :=
  match lead? b with
  | none => (none, bs)
  | some l =>
    let r := continuation l.count l.value l.low l.high bs
    (r.1.map Char.ofNat, r.2)

theorem nextScalar_length_le (b : UInt8) (bs : List UInt8) :
    (nextScalar b bs).2.length ≤ bs.length := by
  unfold nextScalar
  split
  · simp
  · exact continuation_length_le ..

/-- The characters and ill-formed parts of `bs` in order. -/
def scalars : List UInt8 → List (Option Char)
  | [] => []
  | b :: bs => (nextScalar b bs).1 :: scalars (nextScalar b bs).2
termination_by bs => bs.length
decreasing_by
  have := nextScalar_length_le b bs
  simp only [List.length_cons]
  omega

/-- The text that `bs` encodes, if they encode one. -/
def decodeUtf8? (bs : List UInt8) : Option String :=
  ((scalars bs).mapM id).map String.ofList

/-- The text of `bs` with U+FFFD for each ill-formed part. -/
def decodeUtf8Lossy (bs : List UInt8) : String :=
  String.ofList ((scalars bs).map fun c => c.getD '\uFFFD')

end GraphicsObjects.Text
