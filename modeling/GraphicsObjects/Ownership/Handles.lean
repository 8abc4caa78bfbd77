import GraphicsObjects.Ownership.Store

/-!
Handles: boxes whose name is destroyed by a deleter of their own. A deleter runs when the last
reference to its box is given back, unless the name is 0. It may own other boxes, which it gives
back after it has run, or when it is discarded without running.
-/

namespace GraphicsObjects.Ownership

/-- How the driver takes a name that is to be deleted: alone, or in an array. -/
inductive DeletionShape where
  | one
  | array
  deriving DecidableEq

instance : Named DeletionShape where
  all := [.one, .array]
  name
    | .one => "one"
    | .array => "array"

/-- What destroys a name, with the boxes it owns. -/
structure Deleter where
  tag : String
  shape : DeletionShape
  owned : List Ref
  deriving DecidableEq

def Deleter.text : String := "Deleter"

/-- A handle has no deleter before it is assigned. -/
instance : Owner (Option Deleter) where
  owned d := d.elim [] (·.owned)

/-- A deletion that took place. -/
structure Deletion where
  tag : String
  shape : DeletionShape
  id : Id
  deriving DecidableEq

/-- The deletion that the end of a box brings about. -/
def Box.deletion? (b : Box (Option Deleter)) : Option Deletion :=
  b.content.bind fun d => if b.id = 0 then none else some ⟨d.tag, d.shape, b.id⟩

/-- Handles held in variables. -/
structure Handles where
  store : Store (Option Deleter) := .empty
  vars : Table String Ref := .empty
  deriving DecidableEq

/-- A deleter as a step describes it: it takes over the handles in variables, and gives them
back in that order. -/
structure DeleterSpec where
  tag : String
  shape : DeletionShape
  owns : Option String
  /-- What it takes over besides. -/
  others : List String := []
  deriving DecidableEq

/-- The variables that a deleter takes over. -/
def DeleterSpec.taken (d : DeleterSpec) : List String := d.owns.toList ++ d.others

inductive HandleOp where
  | create (name : String) (id : Id) (deleter : DeleterSpec)
  /-- A handle whose name is not known yet. -/
  | pending (name : String)
  | assign (target : String) (id : Id) (deleter : DeleterSpec)
  | clone (source name : String)
  | drop (target : String)
  | info (target : String)
  | sameBox (one other : String)
  /-- Makes a deleter, looks at it, and discards it. -/
  | inspect (deleter : DeleterSpec)
  deriving DecidableEq

/-- A second assignment of a handle, refused. -/
structure DoubleAssignment where
  current : Id
  new : Id
  deriving DecidableEq

def DoubleAssignment.message (d : DoubleAssignment) : String :=
  "native handle assigned twice (current id " ++ toString d.current ++ ", new id " ++
    toString d.new ++ ")"

/-- What can be seen of a box. -/
structure BoxInfo where
  id : Id
  refs : Nat
  assigned : Bool
  deriving DecidableEq

def Box.info {α : Type} (b : Box α) : BoxInfo := ⟨b.id, b.refs, b.assigned⟩

/-- The name and the count, under the name of a type. -/
def BoxInfo.text (i : BoxInfo) (type : String) : String :=
  type ++ " \x7b id: " ++ toString i.id ++ ", ref_count: " ++ toString i.refs ++ " \x7d"

/-- The type of the answer to a step. -/
abbrev HandleOp.Answer : HandleOp → Type
  | assign .. => Except DoubleAssignment Unit
  | info .. => BoxInfo
  | sameBox .. => Bool
  | inspect .. => String
  | _ => Unit

namespace Handles

/-- Gives references back. -/
def release (h : Handles) (rs : List Ref) : List Deletion × Handles :=
  let (destroyed, store) := h.store.release rs
  (destroyed.filterMap Box.deletion?, { h with store })

/-- Stores a reference in a variable and gives back the one it held. -/
def setVariable (h : Handles) (name : String) (r : Ref) : List Deletion × Handles :=
  let old := (h.vars.get? name).toList
  { h with vars := h.vars.insert name r }.release old

/-- Takes the handles out of variables, all of which must exist. -/
def take (h : Handles) : List String → Option (List Ref × Handles)
  | [] => some ([], h)
  | name :: names => do
    let r ← h.vars.get? name
    let (rs, h) ← take { h with vars := h.vars.erase name } names
    pure (r :: rs, h)

/-- Makes the deleter that a step describes; the variables that it takes over must exist. -/
def makeDeleter (h : Handles) (d : DeleterSpec) : Option (Deleter × Handles) := do
  let (owned, h) ← h.take d.taken
  pure (⟨d.tag, d.shape, owned⟩, h)

def lookup (h : Handles) (name : String) : Option (Ref × Box (Option Deleter)) :=
  (h.vars.get? name).bind fun r => (h.store.get? r).map fun b => (r, b)

/-- Performs a step: the answer, the deletions that took place, and the handles afterwards. A step
that names a variable that does not exist is no step. -/
def step (h : Handles) : (op : HandleOp) → Option (op.Answer × List Deletion × Handles)
  | .create name id deleter => do
    let (d, h) ← h.makeDeleter deleter
    let (r, store) := h.store.add id true (some d)
    pure ((), { h with store }.setVariable name r)
  | .pending name =>
    let (r, store) := h.store.add 0 false none
    some ((), { h with store }.setVariable name r)
  | .assign target id deleter => do
    let (d, h) ← h.makeDeleter deleter
    let (r, b) ← h.lookup target
    if b.assigned then
      pure (.error ⟨b.id, id⟩, h.release d.owned)
    else
      let store := h.store.modify r fun b => { b with id, assigned := true, content := some d }
      pure (.ok (), [], { h with store })
  | .clone source name => do
    let (r, _) ← h.lookup source
    pure ((), { h with store := h.store.retain r }.setVariable name r)
  | .drop target => do
    let (r, _) ← h.lookup target
    pure ((), { h with vars := h.vars.erase target }.release [r])
  | .info target => do
    let (_, b) ← h.lookup target
    pure (b.info, [], h)
  | .sameBox one other => do
    let (r, _) ← h.lookup one
    let (q, _) ← h.lookup other
    pure (decide (r = q), [], h)
  | .inspect deleter => do
    let (d, h) ← h.makeDeleter deleter
    pure (Deleter.text, h.release d.owned)

end Handles

end GraphicsObjects.Ownership
