import GraphicsObjects.Context.Basic
import GraphicsObjects.Text.Blank
import GraphicsObjects.Text.Utf8

/-! Shader objects. -/

namespace GraphicsObjects

/-- What is known of a shader: its stage, and whether its present source has been compiled. -/
structure Shader where
  stage : ShaderStage
  compiled : Bool := false
  deriving DecidableEq

variable {δ : Type} [Driver δ]

namespace Shader

open ContextM

/-- Replaces the source, which has to be compiled again. -/
def setSource (sh : Shader) (id : Id) (source : String) : ContextM δ Shader := do
  if Text.trim source.toList = [] then note (.emptyShaderSource sh.stage id)
  command (.shaderSource id source) .settingShaderSource
  pure { sh with compiled := false }

/-- Compiles the source; whether that succeeded is told by `compiled`. -/
def compile (sh : Shader) (id : Id) : ContextM δ Shader := do
  command (.compileShader id) .compilingShader
  let status : Bool ← perform (.shaderStatus id)
  if ! status then note (.shaderCompilationFailed sh.stage id)
  pure { sh with compiled := status }

/-- The text of a source file: `none` is a file that does not exist. -/
def readSource : Option Bytes → Except Failure String
  | none => .error (.unreadable .notFound)
  | some bs => match Text.decodeUtf8? bs with
    | some s => .ok s
    | none => .error (.unreadable .invalidData)

end Shader

/-- The operations on a shader. -/
inductive ShaderOp where
  | stage
  | setSource (source : String)
  | compile
  | isCompiled
  | infoLog
  deriving DecidableEq

namespace ShaderOp

abbrev Answer : ShaderOp → Type
  | stage => ShaderStage
  | setSource .. => Unit
  | compile | isCompiled => Bool
  | infoLog => String

/-- Performs an operation on the shader named `id`. -/
def run : (op : ShaderOp) → Id → Shader → ContextM δ (op.Answer × Shader)
  | stage, _, sh => pure (sh.stage, sh)
  | setSource source, id, sh => do pure ((), ← sh.setSource id source)
  | compile, id, sh => do
    let sh ← sh.compile id
    pure (sh.compiled, sh)
  | isCompiled, _, sh => pure (sh.compiled, sh)
  | infoLog, id, sh => do
    let log : String ← ContextM.perform (.shaderInfoLog id)
    pure (log, sh)

end ShaderOp

end GraphicsObjects
