import GraphicsObjects.Native.Driver
import GraphicsObjects.Table

/-! A graphics library that answers from a script and keeps the calls it received. -/

namespace GraphicsObjects.Native

/-- An active variable of the script. `written` takes the place of the length reported. -/
structure ScriptedVariable where
  name : Bytes
  type : Enumerant
  size : Int
  written : Option Int := none

structure Script where
  /-- The next name, for objects of every kind. -/
  nextId : Id := 1
  /-- Whether creation fails. -/
  fail : Bool := false
  errors : List Enumerant := []
  status : Enumerant := Enumerant.framebufferComplete
  integers : Table Enumerant Int := .empty
  texParameters : Table Enumerant Int := .empty
  shaderParameters : Table Enumerant Int := .empty
  programParameters : Table Enumerant Int := .empty
  shaderLog : Bytes := []
  programLog : Bytes := []
  /-- Takes the place of the lengths reported for logs. -/
  logWritten : Option Int := none
  locations : Table String Int := .empty
  «variables» : List ScriptedVariable := []
  calls : List EntryCall := []

namespace Script

/-- Puts a text with its closing zero into a buffer of `size` bytes. -/
def store (size : Int) (text : Bytes) (written : Option Int) : StoredText :=
  let kept := text.take (size - 1).toNat
  { stored := kept ++ [0], length := some (written.getD kept.length) }

def storeVariable (s : Script) (index : Nat) (size : Int) : StoredVariable :=
  match s.«variables»[index]? with
  | none => {}
  | some v => { name := store size v.name v.written, size := some v.size, type := some v.type }

/-- Gives a name to each slot. -/
def nameAll (s : Script) (slots : List Id) : List Id × Script :=
  if s.fail then (slots, s)
  else (List.range' s.nextId slots.length, { s with nextId := s.nextId + slots.length })

def create (s : Script) : Id × Script :=
  if s.fail then (0, s) else (s.nextId, { s with nextId := s.nextId + 1 })

def location (s : Script) (name : String) : Int := s.locations.getD name (-1)

/-- What the script answers to a call. Everything else has no effect. -/
def answer : (c : EntryCall) → Script → c.Answer × Script
  | .gen _ slots, s => s.nameAll slots
  | .createShader _, s => s.create
  | .createProgram, s => s.create
  | .getError, s => match s.errors with
    | [] => (Enumerant.noError, s)
    | e :: es => (e, { s with errors := es })
  | .checkFramebufferStatus _, s => (s.status, s)
  | .getInteger p, s => (s.integers.get? p, s)
  | .getTexParameter _ p, s => (s.texParameters.get? p, s)
  | .getShader _ p, s => (s.shaderParameters.get? p, s)
  | .getProgram _ p, s => (s.programParameters.get? p, s)
  | .getAttribLocation _ name, s => (s.location name, s)
  | .getUniformLocation _ name, s => (s.location name, s)
  | .readPixels _ _ _ _ _ _ out, s => ((List.range out.length).map UInt8.ofNat, s)
  | .getShaderInfoLog _ size, s => (store size s.shaderLog s.logWritten, s)
  | .getProgramInfoLog _ size, s => (store size s.programLog s.logWritten, s)
  | .getActiveUniform _ index size, s => (s.storeVariable index size, s)
  | .getActiveAttrib _ index size, s => (s.storeVariable index size, s)
  | .delete .., s | .deleteShader .., s | .deleteProgram .., s | .bindBuffer .., s
  | .activeTexture .., s | .bindTexture .., s | .bindFramebuffer .., s | .bindRenderbuffer .., s
  | .bindVertexArray .., s | .useProgram .., s | .viewport .., s | .clearColor .., s
  | .clear .., s | .bufferData .., s | .bufferSubData .., s | .texImage1D .., s
  | .texImage2D .., s | .texImage3D .., s | .texParameter .., s | .generateMipmap .., s
  | .renderbufferStorage .., s | .renderbufferStorageMultisample .., s
  | .framebufferRenderbuffer .., s | .framebufferTexture1D .., s | .framebufferTexture2D .., s
  | .framebufferTexture .., s | .framebufferTextureLayer .., s | .drawBuffers .., s
  | .enableVertexAttribArray .., s | .disableVertexAttribArray .., s | .vertexAttribPointer .., s
  | .shaderSource .., s | .compileShader .., s | .attachShader .., s | .detachShader .., s
  | .linkProgram .., s | .validateProgram .., s | .bindAttribLocation .., s | .uniformInt .., s
  | .uniformFloat .., s | .uniformInts .., s | .uniformFloats .., s | .uniformMatrix .., s
  | .dispatchCompute .., s | .drawArrays .., s | .drawElements .., s => ((), s)

instance : EntryPoints Script where
  call c s := answer c { s with calls := s.calls ++ [c] }

end Script

end GraphicsObjects.Native
