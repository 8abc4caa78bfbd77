import GraphicsObjects.Driver.Request

/-!
The data stores of buffers in a driver that lives in memory. A store is kept in pieces, so that a
large one takes little room as long as little of it has been written. Its view is `bytes`: two
stores that hold the same bytes may be cut differently.
-/

namespace GraphicsObjects.Simulation

/-- A stretch of a store: one byte over and over, or bytes that were written. -/
inductive Piece where
  | filled (count : Nat) (byte : UInt8)
  | written (bs : Bytes)
  deriving DecidableEq

namespace Piece

def bytes : Piece → Bytes
  | filled n b => List.replicate n b
  | written bs => bs

def size : Piece → Nat
  | filled n _ => n
  | written bs => bs.length

/-- The first `n` bytes. -/
def take (n : Nat) : Piece → Piece
  | filled m b => filled (min n m) b
  | written bs => written (bs.take n)

/-- What follows the first `n` bytes. -/
def drop (n : Nat) : Piece → Piece
  | filled m b => filled (m - n) b
  | written bs => written (bs.drop n)

@[simp] theorem length_bytes (p : Piece) : p.bytes.length = p.size := by
  cases p <;> simp [bytes, size]

@[simp] theorem bytes_take (n : Nat) (p : Piece) : (p.take n).bytes = p.bytes.take n := by
  cases p <;> simp [bytes, take]

@[simp] theorem bytes_drop (n : Nat) (p : Piece) : (p.drop n).bytes = p.bytes.drop n := by
  cases p <;> simp [bytes, drop]

end Piece

/-- The data store of a buffer. -/
structure DataStore where
  pieces : List Piece
  deriving DecidableEq

namespace DataStore

/-- What the store holds. -/
def bytes (s : DataStore) : Bytes := s.pieces.flatMap Piece.bytes

/-- How many bytes the store holds. -/
def size (s : DataStore) : Nat := s.pieces.foldr (fun p n => p.size + n) 0

theorem length_bytes (s : DataStore) : s.bytes.length = s.size := by
  obtain ⟨pieces⟩ := s
  induction pieces with
  | nil => rfl
  | cons p ps ih => simpa [bytes, size] using ih

/-! ## New stores -/

/-- A store of one byte over and over. -/
def fill (n : Nat) (b : UInt8) : DataStore := ⟨[.filled n b]⟩

/-- The store with the given contents. What is left unspecified reads as zeros. -/
def ofContents : StoreContents → DataStore
  | .bytes bs => ⟨[.written bs]⟩
  | .unspecified n => fill n 0

@[simp] theorem bytes_fill (n : Nat) (b : UInt8) : (fill n b).bytes = List.replicate n b := by
  simp [bytes, fill, Piece.bytes]

@[simp] theorem bytes_ofContents_bytes (bs : Bytes) : (ofContents (.bytes bs)).bytes = bs := by
  simp [bytes, ofContents, Piece.bytes]

@[simp] theorem bytes_ofContents_unspecified (n : Nat) :
    (ofContents (.unspecified n)).bytes = List.replicate n 0 := by
  simp [ofContents]

theorem size_ofContents (c : StoreContents) : (ofContents c).size = c.size := by
  cases c <;> simp [← length_bytes, StoreContents.size]

/-! ## Writing -/

/-- The first `n` bytes. -/
def takeBytes (n : Nat) : List Piece → List Piece
  | [] => []
  | p :: ps => if p.size ≤ n then p :: takeBytes (n - p.size) ps else [p.take n]

/-- What follows the first `n` bytes. -/
def dropBytes (n : Nat) : List Piece → List Piece
  | [] => []
  | p :: ps => if p.size ≤ n then dropBytes (n - p.size) ps else p.drop n :: ps

/-- The store with the bytes from `offset` on replaced by `data`. -/
def write (s : DataStore) (offset : Nat) (data : Bytes) : DataStore :=
  ⟨takeBytes offset s.pieces ++ .written data :: dropBytes (offset + data.length) s.pieces⟩

theorem flatMap_takeBytes (n : Nat) (ps : List Piece) :
    (takeBytes n ps).flatMap Piece.bytes = (ps.flatMap Piece.bytes).take n := by
  induction ps generalizing n with
  | nil => simp [takeBytes]
  | cons p ps ih =>
    by_cases h : p.size ≤ n
    · simp [takeBytes, h, ih, List.take_append, List.take_of_length_le]
    · simp [takeBytes, h, List.take_append, Nat.sub_eq_zero_of_le (Nat.le_of_not_le h)]

theorem flatMap_dropBytes (n : Nat) (ps : List Piece) :
    (dropBytes n ps).flatMap Piece.bytes = (ps.flatMap Piece.bytes).drop n := by
  induction ps generalizing n with
  | nil => simp [dropBytes]
  | cons p ps ih =>
    by_cases h : p.size ≤ n
    · simp [dropBytes, h, ih, List.drop_append, List.drop_of_length_le]
    · simp [dropBytes, h, List.drop_append, Nat.sub_eq_zero_of_le (Nat.le_of_not_le h)]

theorem bytes_write (s : DataStore) (offset : Nat) (data : Bytes) :
    (s.write offset data).bytes =
      s.bytes.take offset ++ data ++ s.bytes.drop (offset + data.length) := by
  simp [bytes, write, flatMap_takeBytes, flatMap_dropBytes, Piece.bytes]

/-- Writing inside a store does not change its size. -/
theorem size_write {s : DataStore} {offset : Nat} {data : Bytes}
    (h : offset + data.length ≤ s.size) : (s.write offset data).size = s.size := by
  simp only [← length_bytes] at h ⊢
  simp only [bytes_write, List.length_append, List.length_take, List.length_drop]
  omega

end DataStore

end GraphicsObjects.Simulation
