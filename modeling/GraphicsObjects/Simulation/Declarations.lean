import GraphicsObjects.Text.Blank
import GraphicsObjects.Text.Integer
import GraphicsObjects.Vocabulary.Shading

/-! Variables that a shader source declares, one a line: `qualifier type name[size];`. -/

namespace GraphicsObjects.Simulation

open Text

/-- The enumerant of a variable type, 0 if the name is not known. -/
def variableType (s : List Char) : Enumerant :=
  (([("float", Enumerant.float), ("vec2", Enumerant.floatVec2), ("vec3", Enumerant.floatVec3),
    ("vec4", Enumerant.floatVec4), ("int", Enumerant.int), ("ivec2", Enumerant.intVec2),
    ("ivec3", Enumerant.intVec3), ("ivec4", Enumerant.intVec4), ("mat3", Enumerant.floatMat3),
    ("mat4", Enumerant.floatMat4), ("sampler2D", Enumerant.sampler2D),
    ("samplerCube", Enumerant.samplerCube)] : List (String × Enumerant)).find?
      fun e => e.1.toList = s).elim 0 Prod.snd

/-- The name and the array size in `name[size]`. The size is 1 without brackets, and also where no
number stands in them. -/
def declarator (s : List Char) : List Char × Int :=
  match s.dropWhile (· ≠ '[') with
  | [] => (s, 1)
  | _ :: r => (s.takeWhile (· ≠ '['), (integer32? (dropEndWhile (· = ']') r)).getD 1)

/-- The variable that a line declares under a qualifier. -/
def declaration? (qualifier : List Char) (line : List Char) : Option ActiveVariable :=
  match words (dropEndWhile (· = ';') (trim line)) with
  | q :: type :: decl :: _ =>
    if q = qualifier then
      let d := declarator decl
      some { name := String.ofList d.1, type := variableType type, size := d.2 }
    else none
  | _ => none

/-- The variables that a source declares under a qualifier, in order. -/
def declarations (qualifier source : String) : List ActiveVariable :=
  (lines source.toList).filterMap (declaration? qualifier.toList)

end GraphicsObjects.Simulation
