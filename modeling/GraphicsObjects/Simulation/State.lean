import GraphicsObjects.Simulation.DataStore
import GraphicsObjects.Simulation.Names
import GraphicsObjects.Table

/-!
The state of a driver that lives in memory: object names, binding registers with the active texture
unit and the element buffer of each vertex array, contents of objects, shaders and programs, and a
record of what it was asked.
-/

namespace GraphicsObjects.Simulation

/-- A call that was received. -/
inductive Call where
  | gen (kind : Kind) (id : Id)
  | delete (kind : Kind) (id : Id)
  | bind (slot : Slot) (id : Id)
  /-- Any other command, by name. -/
  | command (name : String)
  deriving DecidableEq

/-- An image of a texture. If a pixel unpack buffer was bound, the data was an offset into it. -/
structure Image where
  internalFormat : Enumerant
  size : Extents
  initialized : Bool
  unpackBuffer : Id
  deriving DecidableEq

structure TextureState where
  images : Table (ImageTarget × Int) Image := .empty
  parameters : Table Enumerant Int := .empty
  deriving DecidableEq, Inhabited

structure RenderbufferStorage where
  internalFormat : Enumerant
  width : Nat
  height : Nat
  samples : Nat
  deriving DecidableEq

structure FramebufferState where
  attachments : Table Attachment (Kind × Id) := .empty
  drawBuffers : List Attachment := []
  deriving DecidableEq, Inhabited

structure VertexArrayState where
  elementBuffer : Id := 0
  attributes : Table Nat VertexAttribute := .empty
  enabled : List Nat := []
  deriving DecidableEq, Inhabited

structure ShaderState where
  stage : ShaderStage
  source : String := ""
  compiled : Bool := false
  log : String := ""
  deriving DecidableEq

structure ProgramState where
  attached : List Id := []
  linked : Bool := false
  log : String := ""
  uniforms : List ActiveVariable := []
  attributes : List ActiveVariable := []
  /-- The locations that attributes are to get at the next link. -/
  boundLocations : Table String Nat := .empty
  /-- The locations that attributes got at the last link. -/
  locations : Table String Nat := .empty
  values : Table Int UniformValue := .empty
  deriving DecidableEq, Inhabited

/-- A draw call, with the state in which it was issued. -/
structure Draw where
  mode : DrawMode
  program : Id
  vertexArray : Id
  framebuffer : Id
  /-- The first vertex, or the byte offset of the first index. -/
  first : Nat
  count : Int
  /-- The type of the indices and the element buffer that holds them. -/
  indices : Option (IndexType × Id)
  deriving DecidableEq

end Simulation

open Simulation in
/-- A driver in memory. -/
structure Sim where
  calls : List Call := []
  errors : List Enumerant := []
  failCreation : Bool := false
  integers : Table Enumerant Int := .empty
  pools : Table Kind NamePool := .empty
  live : List (Kind × Id) := []
  registers : Table Slot Id := .empty
  buffers : Table Id DataStore := .empty
  textures : Table Id TextureState := .empty
  renderbuffers : Table Id RenderbufferStorage := .empty
  framebuffers : Table Id FramebufferState := .empty
  vertexArrays : Table Id VertexArrayState := .empty
  shaders : Table Id ShaderState := .empty
  programs : Table Id ProgramState := .empty
  draws : List Draw := []
  dispatches : List (Nat × Nat × Nat) := []
  viewport : Vector Int 4 := #v[0, 0, 0, 0]
  clearColor : Vector Single 4 := #v[default, default, default, default]
  clears : List (Id × ClearMask) := []
  deriving DecidableEq

namespace Sim

open Simulation

/-- The driver before it received anything: it has 16 texture units, and rows of client memory start
at multiples of four bytes. -/
def fresh : Sim where
  integers := ((Table.empty.insert Enumerant.maxCombinedTextureImageUnits 16).insert
    Enumerant.packAlignment 4).insert Enumerant.unpackAlignment 4

instance : Inhabited Sim := ⟨fresh⟩

/-- Records a call. -/
def record (s : Sim) (c : Call) : Sim := { s with calls := s.calls ++ [c] }

/-- Queues an error code. -/
def raise (s : Sim) (code : Enumerant) : Sim := { s with errors := s.errors ++ [code] }

def isLive (s : Sim) (kind : Kind) (id : Id) : Bool := (kind, id) ∈ s.live

/-- What is bound to a slot. The draw framebuffer answers for the combined target. -/
def bound (s : Sim) (slot : Slot) : Id := s.registers.getD slot.primary 0

/-- Writes `id` to registers. -/
def write (s : Sim) (registers : List Slot) (id : Id) : Sim :=
  { s with registers := registers.foldl (fun t r => t.insert r id) s.registers }

def activeUnit (s : Sim) : Nat := s.bound .activeTexture

/-- The texture bound to a target on the active unit. -/
def boundTexture (s : Sim) (target : TextureTarget) : Id := s.bound (.texture s.activeUnit target)

def textureState (s : Sim) (id : Id) : TextureState := s.textures.getD id default

def framebufferState (s : Sim) (id : Id) : FramebufferState := s.framebuffers.getD id default

def vertexArrayState (s : Sim) (id : Id) : VertexArrayState := s.vertexArrays.getD id default

/-- The program's state, without anything if there is no such program. -/
def programState (s : Sim) (id : Id) : ProgramState := s.programs.getD id default

def isCompiled (s : Sim) (shader : Id) : Bool := (s.shaders.get? shader).any (·.compiled)

end Sim

end GraphicsObjects
