import Mathlib.Algebra.Group.Nat.Defs
import Mathlib.Data.List.Induction
import GraphicsObjects.Text.Integer

/-!
# Numerals

The texts that are read as natural numbers are their numerals: the decimal digits of a number, after
any zeros.
-/

namespace GraphicsObjects.Text

/-- A natural number as it is written: its decimal digits, after so many zeros. -/
structure Numeral where
  zeros : Nat
  value : Nat

namespace Numeral

def text (n : Numeral) : List Char := List.replicate n.zeros '0' ++ Nat.toDigits 10 n.value

theorem text_ne_nil (n : Numeral) : n.text ≠ [] :=
  List.append_ne_nil_of_right_ne_nil _ Nat.toDigits_ne_nil

theorem isDigit_of_mem_text {n : Numeral} {c : Char} (h : c ∈ n.text) : c.isDigit := by
  rcases List.mem_append.mp h with h | h
  · rw [List.eq_of_mem_replicate h]
    rfl
  · exact Nat.isDigit_of_mem_toDigits (by decide) (by decide) h

theorem ofDigitChars_text (n : Numeral) : Nat.ofDigitChars 10 n.text 0 = n.value := by
  rw [text, Nat.ofDigitChars_append, Nat.ofDigitChars_replicate_zero, Nat.mul_zero,
    Nat.ofDigitChars_ten_toDigits]

end Numeral

theorem exists_digitChar {c : Char} (h : c.isDigit) : ∃ d < 10, Nat.digitChar d = c := by
  have hrange : 48 ≤ c.toNat ∧ c.toNat ≤ 57 := by
    simpa [Char.isDigit, UInt32.le_iff_toNat_le] using h
  refine ⟨c.toNat - 48, by omega, Char.toNat_inj.mp ?_⟩
  rw [Nat.toNat_digitChar_of_lt_ten (by omega)]
  omega

/-- A digit after a numeral makes it one zero or one digit longer. -/
theorem Numeral.exists_concat (n : Numeral) {d : Nat} (hd : d < 10) :
    ∃ m : Numeral, m.text = n.text ++ [Nat.digitChar d] := by
  rw [← Nat.toDigits_of_lt_base hd, text, List.append_assoc]
  rcases Nat.eq_zero_or_pos n.value with h | h
  · refine ⟨⟨n.zeros + 1, d⟩, ?_⟩
    rw [text, h, Nat.toDigits_zero, List.replicate_succ', List.append_assoc]
  · refine ⟨⟨n.zeros, 10 * n.value + d⟩, ?_⟩
    rw [text, Nat.toDigits_append_toDigits (by decide) h hd]

theorem exists_numeral {s : List Char} (hne : s ≠ []) (hs : ∀ c ∈ s, c.isDigit) :
    ∃ n : Numeral, n.text = s := by
  induction s using List.reverseRecOn with
  | nil => contradiction
  | append_singleton s c ih =>
    obtain ⟨hinit, hc⟩ := List.forall_mem_append.mp hs
    obtain ⟨d, hd, rfl⟩ := exists_digitChar (hc c List.mem_cons_self)
    rcases eq_or_ne s [] with rfl | hne
    · exact ⟨⟨0, d⟩, Nat.toDigits_of_lt_base hd⟩
    · obtain ⟨n, rfl⟩ := ih hne hinit
      exact n.exists_concat hd

theorem natural?_eq_some_iff {s : List Char} {k : Nat} :
    natural? s = some k ↔ ∃ n : Numeral, n.text = s ∧ n.value = k := by
  have hvalue : s.foldl (fun n c => 10 * n + (c.toNat - '0'.toNat)) 0 = Nat.ofDigitChars 10 s 0 :=
    rfl
  rw [natural?, hvalue, Option.ite_none_right_eq_some, List.all_eq_true]
  constructor
  · rintro ⟨⟨hne, hs⟩, h⟩
    obtain ⟨n, rfl⟩ := exists_numeral hne hs
    exact ⟨n, rfl, n.ofDigitChars_text.symm.trans (Option.some.inj h)⟩
  · rintro ⟨n, rfl, rfl⟩
    exact ⟨⟨n.text_ne_nil, fun _ => Numeral.isDigit_of_mem_text⟩, congrArg some n.ofDigitChars_text⟩

/-- A numeral has no sign, so all that can go wrong with it is its size. -/
theorem integer32?_text (n : Numeral) :
    integer32? n.text = if n.value < 2 ^ 31 then some (n.value : Int) else none := by
  have hread : natural? n.text = some n.value := natural?_eq_some_iff.mpr ⟨n, rfl, rfl⟩
  have hdigit {c : Char} {r : List Char} (h : n.text = c :: r) : c.isDigit :=
    Numeral.isDigit_of_mem_text (h ▸ List.mem_cons_self)
  have hvalue : integer32? n.text =
      (some (n.value : Int)).filter fun i => -0x80000000 ≤ i && i < 0x80000000 := by
    unfold integer32?
    split
    · exact absurd (hdigit ‹_›) (by decide)
    · exact absurd (hdigit ‹_›) (by decide)
    · rw [hread]
      rfl
  rw [hvalue, Option.filter_some]
  congr 1
  simp only [Bool.and_eq_true, decide_eq_true_eq, eq_iff_iff]
  omega

end GraphicsObjects.Text
