/-!
Machine words as numbers. Sizes, names and enumerants are natural numbers; where a 32-bit or 64-bit
word is read as a signed one, or a sum stops at the largest word, the functions below say how.
-/

namespace GraphicsObjects

/-- The 32-bit word `n` read as a two's complement number. -/
def signed32 (n : Nat) : Int := Int.bmod n 0x100000000

/-- The 64-bit word `n` read as a two's complement number. -/
def signed64 (n : Nat) : Int := Int.bmod n 0x10000000000000000

/-- The 32-bit word that represents `i`. -/
def unsigned32 (i : Int) : Nat := (i % 0x100000000).toNat

/-- The largest 64-bit word. -/
def maxWord : Nat := 0xFFFFFFFFFFFFFFFF

/-- `n`, or the largest word where `n` does not fit one. -/
def saturate (n : Nat) : Nat := min n maxWord

theorem saturate_of_le {n : Nat} (h : n ≤ maxWord) : saturate n = n := Nat.min_eq_left h

theorem saturate_le (n : Nat) : saturate n ≤ maxWord := Nat.min_le_right _ _

end GraphicsObjects
