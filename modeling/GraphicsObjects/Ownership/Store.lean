import GraphicsObjects.Table
import GraphicsObjects.Vocabulary.Target

/-!
Shared ownership of driver names. A box holds a name with a count of the references to it and what
belongs to it, which may hold references to other boxes. `Store.release` gives references back: a
box without references is destroyed, and then what it held is given back in turn, so that an owner
goes before what it owned.
-/

namespace GraphicsObjects.Ownership

/-- A reference to a box. -/
abbrev Ref := Nat

/-- A name with its references and what belongs to it. The name is 0 until it is assigned. -/
structure Box (α : Type) where
  id : Id
  assigned : Bool
  refs : Nat
  content : α
  deriving DecidableEq

/-- What belongs to a box may hold references. -/
class Owner (α : Type) where
  owned : α → List Ref

/-- The boxes that have references. -/
structure Store (α : Type) where
  next : Ref
  boxes : Table Ref (Box α)
  deriving DecidableEq

namespace Store

variable {α : Type}

def empty : Store α := ⟨0, .empty⟩

instance : Inhabited (Store α) := ⟨empty⟩

def get? (s : Store α) (r : Ref) : Option (Box α) := s.boxes.get? r

/-- Adds a box with one reference. -/
def add (s : Store α) (id : Id) (assigned : Bool) (content : α) : Ref × Store α :=
  (s.next, { next := s.next + 1, boxes := s.boxes.insert s.next ⟨id, assigned, 1, content⟩ })

def modify (s : Store α) (r : Ref) (f : Box α → Box α) : Store α :=
  { s with boxes := s.boxes.modify r f }

/-- Takes one more reference to a box. -/
def retain (s : Store α) (r : Ref) : Store α := s.modify r fun b => { b with refs := b.refs + 1 }

/-- Replaces what belongs to a box. -/
def setContent (s : Store α) (r : Ref) (content : α) : Store α :=
  s.modify r fun b => { b with content }

variable [Owner α]

/-- Gives references back, in order; the boxes that are destroyed, in order, and the rest. -/
def release (s : Store α) : List Ref → List (Box α) × Store α
  | [] => ([], s)
  | r :: rs =>
    match _h : s.boxes.get? r with
    | none => s.release rs
    | some b =>
      if 1 < b.refs then (s.modify r fun b => { b with refs := b.refs - 1 }).release rs
      else
        let (destroyed, s) :=
          ({ s with boxes := s.boxes.erase r } : Store α).release (Owner.owned b.content ++ rs)
        (b :: destroyed, s)
termination_by rs => (s.boxes.size, rs.length)
decreasing_by
  · exact Prod.Lex.right _ (Nat.lt_succ_self _)
  · simp only [modify, Table.size_modify]
    exact Prod.Lex.right _ (Nat.lt_succ_self _)
  · exact Prod.Lex.left _ _ (Table.size_erase_lt _h)

end Store

end GraphicsObjects.Ownership
