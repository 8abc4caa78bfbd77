import Mathlib.Data.List.Basic
import GraphicsObjects.Text.Utf8

/-!
# Reading well-formed UTF-8

The encoding of a character is cut off the bytes as that character, whatever follows it. Both ways
of reading therefore give back a text from its encoding.
-/

namespace GraphicsObjects.Text

/-! ## First bytes -/

theorem lead?_ofNat {n : Nat} (h : n < 256) : lead? (UInt8.ofNat n) =
    if n < 0x80 then some { value := n, count := 0 }
    else if n < 0xC2 then none
    else if n < 0xE0 then some { value := n - 0xC0, count := 1 }
    else if n = 0xE0 then some { value := 0, count := 2, low := 0xA0 }
    else if n = 0xED then some { value := n - 0xE0, count := 2, high := 0x9F }
    else if n < 0xF0 then some { value := n - 0xE0, count := 2 }
    else if n = 0xF0 then some { value := 0, count := 3, low := 0x90 }
    else if n < 0xF4 then some { value := n - 0xF0, count := 3 }
    else if n = 0xF4 then some { value := 4, count := 3, high := 0x8F }
    else none := by
  rw [lead?, UInt8.toNat_ofNat_of_lt' h]

theorem lead?_one {x : Nat} (h : x < 128) :
    lead? (UInt8.ofNat x) = some { value := x, count := 0 } := by
  rw [lead?_ofNat (by omega), if_pos h]

theorem lead?_two {x : Nat} (hlow : 2 ≤ x) (hx : x < 32) :
    lead? (UInt8.ofNat (x + 192)) = some { value := x, count := 1 } := by
  rw [lead?_ofNat (by omega), if_neg (by omega), if_neg (by omega), if_pos (by omega),
    Nat.add_sub_cancel]

/-- The first of three bytes admits the six bits `y` after its own unless the encoding is too long
or a surrogate. -/
theorem lead?_three {x y : Nat} (hx : x < 16) (hy : y < 64) (hlong : x = 0 → 32 ≤ y)
    (hsurrogate : x = 13 → y < 32) :
    ∃ low high, lead? (UInt8.ofNat (x + 224)) = some { value := x, count := 2, low, high } ∧
      low ≤ y + 128 ∧ y + 128 ≤ high := by
  rw [lead?_ofNat (by omega), if_neg (by omega), if_neg (by omega), if_neg (by omega)]
  rcases eq_or_ne x 0 with rfl | h0
  · exact ⟨_, _, rfl, by have := hlong rfl; omega, by omega⟩
  rw [if_neg (by omega)]
  rcases eq_or_ne x 13 with rfl | h13
  · exact ⟨_, _, rfl, by omega, by have := hsurrogate rfl; omega⟩
  rw [if_neg (by omega), if_pos (by omega), Nat.add_sub_cancel]
  exact ⟨_, _, rfl, by omega, by omega⟩

/-- The first of four bytes admits the six bits `y` after its own unless the encoding is too long
or the value too large. -/
theorem lead?_four {x y : Nat} (hx : x < 5) (hy : y < 64) (hlong : x = 0 → 16 ≤ y)
    (hlarge : x = 4 → y < 16) :
    ∃ low high, lead? (UInt8.ofNat (x + 240)) = some { value := x, count := 3, low, high } ∧
      low ≤ y + 128 ∧ y + 128 ≤ high := by
  rw [lead?_ofNat (by omega), if_neg (by omega), if_neg (by omega), if_neg (by omega),
    if_neg (by omega), if_neg (by omega), if_neg (by omega)]
  rcases eq_or_ne x 0 with rfl | h0
  · exact ⟨_, _, rfl, by have := hlong rfl; omega, by omega⟩
  rw [if_neg (by omega)]
  rcases eq_or_ne x 4 with rfl | h4
  · exact ⟨_, _, rfl, by omega, by have := hlarge rfl; omega⟩
  rw [if_pos (by omega), Nat.add_sub_cancel]
  exact ⟨_, _, rfl, by omega, by omega⟩

/-! ## Characters -/

/-- A byte that may follow adds six bits. -/
theorem continuation_cons {n value low high x : Nat} {bs : List UInt8} (hx : x < 64)
    (hlow : low ≤ x + 128) (hhigh : x + 128 ≤ high) :
    continuation (n + 1) value low high (UInt8.ofNat (x + 128) :: bs) =
      continuation n (value * 64 + x) 0x80 0xBF bs := by
  have hb : (UInt8.ofNat (x + 128)).toNat = x + 128 :=
    UInt8.toNat_ofNat_of_lt' (show x + 128 < 256 by omega)
  rw [continuation, hb, if_pos ⟨hlow, hhigh⟩]
  congr 2
  omega

theorem nextScalar_of_lead {value count low high : Nat} {b : UInt8} {c : Char}
    {bs rest : List UInt8} (hlead : lead? b = some { value, count, low, high })
    (hrest : continuation count value low high bs = (some c.val.toNat, rest)) :
    nextScalar b bs = (some c, rest) := by
  simp only [nextScalar, hlead, hrest, Option.map_some]
  exact congrArg (fun c => (some c, rest)) (Char.ofNat_toNat c)

/-- The encoding of a character starts with a byte from which the character is read, and with it
the rest of the encoding. -/
theorem nextScalar_utf8EncodeChar (c : Char) (rest : List UInt8) :
    ∃ b bs, String.utf8EncodeChar c = b :: bs ∧ nextScalar b (bs ++ rest) = (some c, rest) := by
  have hvalid : c.val.toNat < 0xD800 ∨ 0xDFFF < c.val.toNat ∧ c.val.toNat < 0x110000 := c.valid
  rw [String.utf8EncodeChar]
  split_ifs with h1 h2 h3
  · refine ⟨_, _, rfl, nextScalar_of_lead (lead?_one (by omega)) rfl⟩
  · refine ⟨_, _, rfl, nextScalar_of_lead (lead?_two (by omega) (by omega)) ?_⟩
    rw [List.cons_append, continuation_cons (by omega) (by omega) (by omega), continuation]
    congr 2
    omega
  · obtain ⟨low, high, hlead, hlow, hhigh⟩ :=
      lead?_three (x := c.val.toNat / 4096 % 16) (y := c.val.toNat / 64 % 64)
        (by omega) (by omega) (by omega) (by omega)
    refine ⟨_, _, rfl, nextScalar_of_lead hlead ?_⟩
    rw [List.cons_append, continuation_cons (by omega) hlow hhigh, List.cons_append,
      continuation_cons (by omega) (by omega) (by omega), continuation]
    congr 2
    omega
  · obtain ⟨low, high, hlead, hlow, hhigh⟩ :=
      lead?_four (x := c.val.toNat / 262144 % 8) (y := c.val.toNat / 4096 % 64)
        (by omega) (by omega) (by omega) (by omega)
    refine ⟨_, _, rfl, nextScalar_of_lead hlead ?_⟩
    rw [List.cons_append, continuation_cons (by omega) hlow hhigh, List.cons_append,
      continuation_cons (by omega) (by omega) (by omega), List.cons_append,
      continuation_cons (by omega) (by omega) (by omega), continuation]
    congr 2
    omega

/-! ## Texts -/

theorem scalars_utf8EncodeChar (c : Char) (rest : List UInt8) :
    scalars (String.utf8EncodeChar c ++ rest) = some c :: scalars rest := by
  obtain ⟨b, bs, hc, hnext⟩ := nextScalar_utf8EncodeChar c rest
  rw [hc, List.cons_append, scalars, hnext]

theorem scalars_flatMap (cs : List Char) :
    scalars (cs.flatMap String.utf8EncodeChar) = cs.map some := by
  induction cs with
  | nil => rw [List.flatMap_nil, scalars, List.map_nil]
  | cons c cs ih => rw [List.flatMap_cons, scalars_utf8EncodeChar, ih, List.map_cons]

/-- The bytes that encode a text. -/
def encodeUtf8 (t : String) : List UInt8 := t.toUTF8.data.toList

theorem length_encodeUtf8 (t : String) : (encodeUtf8 t).length = t.utf8ByteSize := rfl

theorem encodeUtf8_eq (t : String) : encodeUtf8 t = t.toList.flatMap String.utf8EncodeChar := by
  conv_lhs => rw [← String.ofList_toList (s := t)]
  exact List.toList_data_toByteArray

theorem scalars_encodeUtf8 (t : String) : scalars (encodeUtf8 t) = t.toList.map some := by
  rw [encodeUtf8_eq, scalars_flatMap]

theorem decodeUtf8Lossy_encodeUtf8 (t : String) : decodeUtf8Lossy (encodeUtf8 t) = t := by
  rw [decodeUtf8Lossy, scalars_encodeUtf8, List.map_map]
  exact (congrArg String.ofList (List.map_id _)).trans String.ofList_toList

theorem decodeUtf8?_encodeUtf8 (t : String) : decodeUtf8? (encodeUtf8 t) = some t := by
  have hchars : (t.toList.map some).mapM id = some t.toList := by
    rw [List.mapM_map]
    exact (List.mapM_pure ..).trans (congrArg some (List.map_id _))
  rw [decodeUtf8?, scalars_encodeUtf8, hchars, Option.map_some, String.ofList_toList]

end GraphicsObjects.Text
