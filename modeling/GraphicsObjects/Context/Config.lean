import GraphicsObjects.Failure
import GraphicsObjects.Text.Json

/-! The switches of a context and their JSON form. -/

namespace GraphicsObjects

/-- The switches of a context. -/
structure Config where
  /-- Leave out binds of what is believed to be bound already. -/
  cacheBindings : Bool := true
  /-- Restore the previous binding at the end of every operation that had to bind something. -/
  strictUnbind : Bool := false
  /-- Poll the error register after each command and log what comes out. -/
  checkErrors : Bool := true
  deriving DecidableEq, Inhabited

namespace Config

/-! ## Writing -/

def boolText (b : Bool) : String := if b then "true" else "false"

/-- The names of the switches with their values, in order. -/
def fields (c : Config) : List (String × Bool) :=
  [("cache_bindings", c.cacheBindings), ("strict_unbind", c.strictUnbind),
    ("check_errors", c.checkErrors)]

/-- The JSON object with all switches. -/
def toJson (c : Config) : String :=
  "\x7b" ++ ",".intercalate (c.fields.map fun f => "\"" ++ f.1 ++ "\":" ++ boolText f.2) ++ "\x7d"

/-- The form in which logs show the switches. -/
def text (c : Config) : String :=
  "ContextConfig \x7b " ++ ", ".intercalate (c.fields.map fun f => f.1 ++ ": " ++ boolText f.2) ++
    " \x7d"

/-! ## Reading -/

/-- The switches that have been named. -/
structure Switches where
  cacheBindings : Option Bool := none
  strictUnbind : Option Bool := none
  checkErrors : Option Bool := none

/-- Switches that are not named keep their defaults. -/
def Switches.complete (n : Switches) : Config :=
  let d : Config := {}
  { cacheBindings := n.cacheBindings.getD d.cacheBindings
    strictUnbind := n.strictUnbind.getD d.strictUnbind
    checkErrors := n.checkErrors.getD d.checkErrors }

/-- A switch that is named for the first time, with a truth value. -/
def once (old : Option Bool) (v : Json) : Option (Option Bool) :=
  match old, v with
  | none, .bool b => some (some b)
  | _, _ => none

/-- Takes up one member of an object. Unknown keys are ignored, but a key must be a text. -/
def Switches.add (n : Switches) (key : Option (List Char)) (v : Json) : Option Switches := do
  let key := String.ofList (← key)
  if key = "cache_bindings" then
    let b ← once n.cacheBindings v
    pure { n with cacheBindings := b }
  else if key = "strict_unbind" then
    let b ← once n.strictUnbind v
    pure { n with strictUnbind := b }
  else if key = "check_errors" then
    let b ← once n.checkErrors v
    pure { n with checkErrors := b }
  else pure n

def asBool? : Json → Option Bool
  | .bool b => some b
  | _ => none

/-- The configuration that a JSON value stands for: an object of switches, or an array of at most
three truth values in the order of the switches. -/
def ofValue? : Json → Option Config
  | .object ms => (ms.foldlM (fun (n : Switches) m => n.add m.1 m.2) {}).map Switches.complete
  | .array vs => do
    let bs ← vs.mapM asBool?
    if bs.length ≤ 3 then pure (Switches.complete ⟨bs[0]?, bs[1]?, bs[2]?⟩) else none
  | _ => none

/-- Reads a configuration from JSON text. -/
def ofJson (s : String) : Except Failure Config :=
  match (Json.parse? s.toList).bind ofValue? with
  | some c => .ok c
  | none => .error .malformedConfig

end Config

end GraphicsObjects
