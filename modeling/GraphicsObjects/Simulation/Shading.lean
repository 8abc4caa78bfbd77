import GraphicsObjects.Simulation.Declarations
import GraphicsObjects.Simulation.State

/-! Shaders and programs of the simulated driver. -/

namespace GraphicsObjects

namespace Simulation

open Text

/-! ## Compiling -/

/-- The line, counted from 1, of the first `#error` directive. -/
def errorDirective? (source : List Char) : Option Nat :=
  ((lines source).findIdx? fun l => "#error".toList.isPrefixOf (trimStart l)).map (· + 1)

/-- What is wrong with a source: it is blank, or it has an `#error` directive. -/
def sourceError? (source : String) : Option String :=
  if trim source.toList = [] then some "error: empty source"
  else (errorDirective? source.toList).map fun line =>
    "0:" ++ toString line ++ ": error: #error directive"

/-- The shader after its source was compiled. -/
def ShaderState.compile (sh : ShaderState) : ShaderState :=
  match sourceError? sh.source with
  | some log => { sh with compiled := false, log }
  | none => { sh with compiled := true, log := "" }

/-! ## Linking -/

/-- The variables without those whose name came before. -/
def distinctByName (vs : List ActiveVariable) : List ActiveVariable :=
  vs.foldl (fun kept v => if kept.any (·.name = v.name) then kept else kept ++ [v]) []

/-- The uniforms that shaders declare; a name declared again is the same uniform. -/
def declaredUniforms (shaders : List ShaderState) : List ActiveVariable :=
  distinctByName (shaders.flatMap fun sh => declarations "uniform" sh.source)

/-- The attributes that vertex shaders declare. -/
def declaredAttributes (shaders : List ShaderState) : List ActiveVariable :=
  (shaders.filter (·.stage = .vertex)).flatMap fun sh => declarations "in" sh.source

/-- The least number from `n` on that is not taken; among `taken.length + 1` numbers there is one. -/
def firstFree (taken : List Nat) (n : Nat) : Nat :=
  ((List.range' n (taken.length + 1)).find? (· ∉ taken)).getD n

/-- Gives each attribute its bound location, or the next number that is no bound location. -/
def assignLocations (boundLocations : Table String Nat) :
    List ActiveVariable → (next : Nat) → Table String Nat → Table String Nat
  | [], _, assigned => assigned
  | v :: vs, next, assigned =>
    match boundLocations.get? v.name with
    | some l => assignLocations boundLocations vs next (assigned.insert v.name l)
    | none =>
      let l := firstFree boundLocations.values next
      assignLocations boundLocations vs (l + 1) (assigned.insert v.name l)

/-- The complaints of a link: every attached shader must be compiled, and there must be one. -/
def linkLog (isCompiled : Id → Bool) (attached : List Id) : String :=
  if attached = [] then "error: no shaders attached\n"
  else String.join ((attached.filter (! isCompiled ·)).map fun id =>
    "error: shader " ++ toString id ++ " is not compiled\n")

/-- The program after a link with `shaders`, the compiled ones among those attached. -/
def ProgramState.link (p : ProgramState) (log : String) (shaders : List ShaderState) :
    ProgramState :=
  if log = "" then
    { p with
      linked := true, log
      uniforms := declaredUniforms shaders
      attributes := declaredAttributes shaders
      locations := assignLocations p.boundLocations (declaredAttributes shaders) 0 .empty }
  else { p with linked := false, log, uniforms := [], attributes := [], locations := .empty }

end Simulation

namespace Sim

open Simulation

/-! ## Commands -/

def alterShader (s : Sim) (shader : Id) (f : ShaderState → ShaderState) : Sim :=
  match s.shaders.get? shader with
  | some sh => { s with shaders := s.shaders.insert shader (f sh) }
  | none => s.raise Enumerant.invalidValue

def shaderSource (s : Sim) (shader : Id) (source : String) : Sim :=
  s.alterShader shader fun sh => { sh with source }

def compileShader (s : Sim) (shader : Id) : Sim := s.alterShader shader ShaderState.compile

def shaderLog (s : Sim) (shader : Id) : String := (s.shaders.get? shader).elim "" (·.log)

def setProgram (s : Sim) (program : Id) (p : ProgramState) : Sim :=
  { s with programs := s.programs.insert program p }

/-- Attaches a shader that is not attached yet. -/
def attachShader (s : Sim) (program shader : Id) : Sim :=
  if ¬ s.shaders.contains shader then s.raise Enumerant.invalidValue
  else match s.programs.get? program with
    | none => s.raise Enumerant.invalidValue
    | some p =>
      if shader ∈ p.attached then s.raise Enumerant.invalidOperation
      else s.setProgram program { p with attached := p.attached ++ [shader] }

def detachShader (s : Sim) (program shader : Id) : Sim :=
  match s.programs.get? program with
  | none => s.raise Enumerant.invalidOperation
  | some p =>
    if shader ∈ p.attached then
      s.setProgram program { p with attached := p.attached.filter (· ≠ shader) }
    else s.raise Enumerant.invalidOperation

def link (s : Sim) (program : Id) : Sim :=
  match s.programs.get? program with
  | none => s.raise Enumerant.invalidValue
  | some p =>
    s.setProgram program
      (p.link (linkLog s.isCompiled p.attached)
        ((p.attached.filterMap s.shaders.get?).filter (·.compiled)))

def bindAttributeLocation (s : Sim) (program : Id) (index : Nat) (name : String) : Sim :=
  match s.programs.get? program with
  | none => s.raise Enumerant.invalidValue
  | some p => s.setProgram program { p with boundLocations := p.boundLocations.insert name index }

/-- Sets a uniform of the current program. A negative location is ignored. -/
def setUniform (s : Sim) (location : Int) (value : UniformValue) : Sim :=
  let program := s.bound .program
  if program = 0 then s.raise Enumerant.invalidOperation
  else if location < 0 then s
  else s.setProgram program
    { s.programState program with values := (s.programState program).values.insert location value }

/-! ## Queries -/

/-- A linked program is always valid. -/
def programStatus (s : Sim) (program : Id) : Bool := (s.programState program).linked

open Enumerant in
def programParameter? (s : Sim) (program : Id) (parameter : Enumerant) : Option Int :=
  (s.programs.get? program).bind fun p =>
    if parameter = linkStatus then some (if p.linked then 1 else 0)
    else if parameter = attachedShaders then some p.attached.length
    else if parameter = activeUniforms then some p.uniforms.length
    else if parameter = activeAttributes then some p.attributes.length
    else none

/-- The value, or the error that a query without one raises and `d` in its place. -/
def answerOr {α : Type} (s : Sim) (value? : Option α) (code : Enumerant) (d : α) : α × Sim :=
  match value? with
  | some a => (a, s)
  | none => (d, s.raise code)

def programParameter (s : Sim) (program : Id) (parameter : Enumerant) : Int × Sim :=
  s.answerOr (s.programParameter? program parameter) Enumerant.invalidEnum 0

def attributeLocation (s : Sim) (program : Id) (name : String) : Int :=
  ((s.programState program).locations.get? name).elim (-1) fun l => signed32 l

def uniformLocation (s : Sim) (program : Id) (name : String) : Int :=
  ((s.programState program).uniforms.findIdx? (·.name = name)).elim (-1) fun l => (l : Int)

def activeUniform (s : Sim) (program : Id) (index : Nat) : ActiveVariable × Sim :=
  s.answerOr (s.programState program).uniforms[index]? Enumerant.invalidValue ⟨"", 0, 0⟩

def activeAttribute (s : Sim) (program : Id) (index : Nat) : ActiveVariable × Sim :=
  s.answerOr (s.programState program).attributes[index]? Enumerant.invalidValue ⟨"", 0, 0⟩

end Sim

end GraphicsObjects
