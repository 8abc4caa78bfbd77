/-! Finite vocabularies whose members have names that programs print and read. -/

namespace GraphicsObjects

/-- A finite type with a name for each member. -/
class Named (α : Type) where
  all : List α
  name : α → String

export Named (name)

/-- The member with a given name. -/
def ofName? {α : Type} [Named α] (s : String) : Option α := Named.all.find? fun a => name a = s

theorem name_of_ofName? {α : Type} [Named α] {s : String} {a : α} (h : ofName? s = some a) :
    name a = s := by
  simpa using List.find?_some h

end GraphicsObjects
