import GraphicsObjects.Single
import GraphicsObjects.Vocabulary.Enumerant
import GraphicsObjects.Vocabulary.Named

/-! Shader stages, status flags of programs, and the variables that programs take. -/

namespace GraphicsObjects

inductive ShaderStage where
  | vertex | fragment | geometry | tessControl | tessEvaluation | compute
  deriving DecidableEq

namespace ShaderStage

instance : Named ShaderStage where
  all := [.vertex, .fragment, .geometry, .tessControl, .tessEvaluation, .compute]
  name
    | vertex => "Vertex"
    | fragment => "Fragment"
    | geometry => "Geometry"
    | tessControl => "TessControl"
    | tessEvaluation => "TessEvaluation"
    | compute => "Compute"

def enumerant : ShaderStage → Enumerant
  | vertex => 0x8B31
  | fragment => 0x8B30
  | geometry => 0x8DD9
  | tessControl => 0x8E88
  | tessEvaluation => 0x8E87
  | compute => 0x91B9

end ShaderStage

inductive ProgramStatus where
  | link | validate
  deriving DecidableEq

namespace ProgramStatus

instance : Named ProgramStatus where
  all := [.link, .validate]
  name
    | link => "Link"
    | validate => "Validate"

def enumerant : ProgramStatus → Enumerant
  | link => Enumerant.linkStatus
  | validate => Enumerant.validateStatus

end ProgramStatus

/-- An active uniform or vertex attribute of a linked program. A variable that is no array has
size 1. -/
structure ActiveVariable where
  name : String
  type : Enumerant
  size : Int
  deriving DecidableEq, Inhabited

/-- The value of a uniform. Matrices are given by columns. -/
inductive UniformValue where
  | int (x : Int)
  | ivec2 (v : Vector Int 2)
  | ivec3 (v : Vector Int 3)
  | ivec4 (v : Vector Int 4)
  | intArray (xs : List Int)
  | float (x : Single)
  | vec2 (v : Vector Single 2)
  | vec3 (v : Vector Single 3)
  | vec4 (v : Vector Single 4)
  | floatArray (xs : List Single)
  | vec2Array (vs : List (Vector Single 2))
  | vec3Array (vs : List (Vector Single 3))
  | vec4Array (vs : List (Vector Single 4))
  | mat3 (m : Vector (Vector Single 3) 3)
  | mat4 (m : Vector (Vector Single 4) 4)
  deriving DecidableEq

namespace UniformValue

/-- How many locations the value fills: the elements of an array, otherwise one. -/
def count : UniformValue → Nat
  | intArray xs => xs.length
  | floatArray xs => xs.length
  | vec2Array vs => vs.length
  | vec3Array vs => vs.length
  | vec4Array vs => vs.length
  | _ => 1

/-- `[a, b, c]` from the texts of the elements. -/
def listText (texts : List String) : String := "[" ++ ", ".intercalate texts ++ "]"

def row {n : Nat} (v : Vector Single n) : String := listText (v.toList.map Single.text)

def intsText (xs : List Int) : String := listText (xs.map toString)

/-- The value with the name of its type. -/
def text : UniformValue → String
  | int x => "Int(" ++ toString x ++ ")"
  | ivec2 v => "IVec2(" ++ intsText v.toList ++ ")"
  | ivec3 v => "IVec3(" ++ intsText v.toList ++ ")"
  | ivec4 v => "IVec4(" ++ intsText v.toList ++ ")"
  | intArray xs => "IntArray(" ++ intsText xs ++ ")"
  | float x => "Float(" ++ x.text ++ ")"
  | vec2 v => "Vec2(" ++ row v ++ ")"
  | vec3 v => "Vec3(" ++ row v ++ ")"
  | vec4 v => "Vec4(" ++ row v ++ ")"
  | floatArray xs => "FloatArray(" ++ listText (xs.map Single.text) ++ ")"
  | vec2Array vs => "Vec2Array(" ++ listText (vs.map row) ++ ")"
  | vec3Array vs => "Vec3Array(" ++ listText (vs.map row) ++ ")"
  | vec4Array vs => "Vec4Array(" ++ listText (vs.map row) ++ ")"
  | mat3 m => "Mat3(" ++ listText (m.toList.map row) ++ ")"
  | mat4 m => "Mat4(" ++ listText (m.toList.map row) ++ ")"

end UniformValue

end GraphicsObjects
