import GraphicsObjects.Context.Basic
import GraphicsObjects.Ownership.Store

/-! Program objects, and drawing with them. The attached shaders are kept alive by the program. -/

namespace GraphicsObjects

open Ownership

/-- What is known of a program: whether the last link succeeded, and the attached shaders. -/
structure Program where
  linked : Bool := false
  shaders : List Ref := []
  deriving DecidableEq

variable {δ : Type} [Driver δ]

namespace Program

open ContextM

/-- Links the program; whether that succeeded is told by `linked`. -/
def link (p : Program) (id : Id) : ContextM δ Program := do
  command (.linkProgram id) .linkingProgram
  let status : Bool ← perform (.programStatus id .link)
  if ! status then note (.programLinkFailed id)
  pure { p with linked := status }

/-- Whether the program can run in the current state. -/
def validate (id : Id) : ContextM δ Bool := do
  command (.validateProgram id) .validatingProgram
  perform (.programStatus id .validate)

def dispatch (id : Id) (x y z : Nat) : ContextM δ Unit :=
  holding .program id (command (.dispatchCompute x y z) .dispatchingCompute)

/-! ## Introspection -/

/-- Gives an attribute a location from the next link on. -/
def bindAttributeLocation (id : Id) (index : Nat) (name : String) : ContextM δ Unit :=
  command (.bindAttributeLocation id index name) .bindingAttributeLocation

/-- The location of an active attribute. -/
def attributeLocation (id : Id) (name : String) : ContextM δ (Option Nat) := do
  let location : Int ← perform (.attributeLocation id name)
  pure (if location < 0 then none else some location.toNat)

/-- The location of an active uniform. -/
def uniformLocation (id : Id) (name : String) : ContextM δ (Option Int) := do
  let location : Int ← perform (.uniformLocation id name)
  pure (if location < 0 then none else some location)

def parameter (id : Id) (parameter : Enumerant) : ContextM δ Int :=
  command (.programParameter id parameter) .gettingProgramParameter

def uniformCount (id : Id) : ContextM δ Nat := do
  pure (← parameter id Enumerant.activeUniforms).toNat

def attributeCount (id : Id) : ContextM δ Nat := do
  pure (← parameter id Enumerant.activeAttributes).toNat

/-- The active uniform with an index below their number. -/
def uniformInfo (id : Id) (index : Nat) : ContextM δ (Option ActiveVariable) := do
  let count ← uniformCount id
  if count ≤ index then pure none
  else
    let v : ActiveVariable ← perform (.activeUniform id index)
    pure (some v)

/-- The active attribute with an index below their number. -/
def attributeInfo (id : Id) (index : Nat) : ContextM δ (Option ActiveVariable) := do
  let count ← attributeCount id
  if count ≤ index then pure none
  else
    let v : ActiveVariable ← perform (.activeAttribute id index)
    pure (some v)

/-! ## Uniforms -/

def setUniformAt (id : Id) (location : Int) (value : UniformValue) : ContextM δ Unit :=
  holding .program id (command (.uniform location value) .settingUniform)

/-- Sets a uniform by name, if the program has an active one of the name. -/
def setUniform (id : Id) (name : String) (value : UniformValue) : ContextM δ Bool := do
  match ← uniformLocation id name with
  | some location =>
    setUniformAt id location value
    pure true
  | none =>
    note (.uniformNotActive id name)
    pure false

/-- Points a sampler at a texture unit. -/
def setTextureUnit (id : Id) (name : String) (unit : Nat) : ContextM δ Bool :=
  setUniform id name (.int (signed32 unit))

/-! ## Drawing -/

/-- Runs a draw request with the program and a vertex array bound. -/
def draw (id vertexArray : Id) (r : Request) (site : Site) : ContextM δ Unit :=
  holding .program id <| holding .vertexArray vertexArray do
    let _ ← command r site

def drawArrays (id vertexArray : Id) (mode : DrawMode) (first count : Int) : ContextM δ Unit :=
  draw id vertexArray (.drawArrays mode first count) .drawingArrays

def drawElements (id vertexArray : Id) (mode : DrawMode) (count : Int) (type : IndexType)
    (offset : Nat) : ContextM δ Unit :=
  draw id vertexArray (.drawElements mode count type offset) .drawingElements

end Program

/-- The operations on a program that concern no other object. -/
inductive ProgramOp where
  | link
  | validate
  | isLinked
  | infoLog
  | dispatch (x y z : Nat)
  | bindAttributeLocation (index : Nat) (name : String)
  | attributeLocation (name : String)
  | uniformLocation (name : String)
  | parameter (parameter : Enumerant)
  | uniformCount
  | attributeCount
  | uniformInfo (index : Nat)
  | attributeInfo (index : Nat)
  | setUniform (name : String) (value : UniformValue)
  | setUniformAt (location : Int) (value : UniformValue)
  | setTextureUnit (name : String) (unit : Nat)
  deriving DecidableEq

namespace ProgramOp

abbrev Answer : ProgramOp → Type
  | link | validate | isLinked | setUniform .. | setTextureUnit .. => Bool
  | infoLog => String
  | dispatch .. | bindAttributeLocation .. | setUniformAt .. => Unit
  | attributeLocation .. => Option Nat
  | uniformLocation .. => Option Int
  | parameter .. => Int
  | uniformCount | attributeCount => Nat
  | uniformInfo .. | attributeInfo .. => Option ActiveVariable

/-- Performs an operation on the program named `id`. -/
def run : (op : ProgramOp) → Id → Program → ContextM δ (op.Answer × Program)
  | link, id, p => do
    let p ← p.link id
    pure (p.linked, p)
  | validate, id, p => do pure (← Program.validate id, p)
  | isLinked, _, p => pure (p.linked, p)
  | infoLog, id, p => do
    let log : String ← ContextM.perform (.programInfoLog id)
    pure (log, p)
  | dispatch x y z, id, p => do pure (← Program.dispatch id x y z, p)
  | bindAttributeLocation index name, id, p => do
    pure (← Program.bindAttributeLocation id index name, p)
  | attributeLocation name, id, p => do pure (← Program.attributeLocation id name, p)
  | uniformLocation name, id, p => do pure (← Program.uniformLocation id name, p)
  | parameter n, id, p => do pure (← Program.parameter id n, p)
  | uniformCount, id, p => do pure (← Program.uniformCount id, p)
  | attributeCount, id, p => do pure (← Program.attributeCount id, p)
  | uniformInfo index, id, p => do pure (← Program.uniformInfo id index, p)
  | attributeInfo index, id, p => do pure (← Program.attributeInfo id index, p)
  | setUniform name value, id, p => do pure (← Program.setUniform id name value, p)
  | setUniformAt location value, id, p => do pure (← Program.setUniformAt id location value, p)
  | setTextureUnit name unit, id, p => do pure (← Program.setTextureUnit id name unit, p)

end ProgramOp

end GraphicsObjects
