import GraphicsObjects.Vocabulary.Target

/-! The names that a driver gives to new objects. A name that became free is the first to be given
out again, as drivers do. -/

namespace GraphicsObjects.Simulation

/-- Names up to `last` have been given out; those in `free` were given back, newest first. -/
structure NamePool where
  last : Id := 0
  free : List Id := []
  deriving DecidableEq, Inhabited

namespace NamePool

/-- A name and the pool without it. -/
def take (p : NamePool) : Id × NamePool :=
  match p.free with
  | id :: free => (id, { p with free })
  | [] => (p.last + 1, { p with last := p.last + 1 })

def giveBack (p : NamePool) (id : Id) : NamePool := { p with free := id :: p.free }

end NamePool

/-- The kind whose pool names objects of a kind: shaders and programs share one. -/
def namingKind : Kind → Kind
  | .shader => .program
  | k => k

end GraphicsObjects.Simulation
