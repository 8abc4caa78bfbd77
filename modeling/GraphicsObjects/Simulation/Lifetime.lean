import GraphicsObjects.Simulation.State

/-! Creation, deletion and binding of objects in the simulated driver. -/

namespace GraphicsObjects.Sim

open Simulation

/-! ## Creation and deletion -/

/-- Creates an object; 0 while creation fails. -/
def gen (s : Sim) (kind : Kind) : Id × Sim :=
  if s.failCreation then (0, s)
  else
    let (id, pool) := (s.pools.getD (namingKind kind) {}).take
    (id, { s with
      pools := s.pools.insert (namingKind kind) pool
      live := (kind, id) :: s.live
      calls := s.calls ++ [.gen kind id] })

/-- Creates as many objects as asked for. -/
def genMany (kind : Kind) : Nat → Sim → List Id × Sim
  | 0, s => ([], s)
  | n + 1, s =>
    let (id, s) := s.gen kind
    let (ids, s) := genMany kind n s
    (id :: ids, s)

/-- Drops everything that is stored under a name. -/
def forget (s : Sim) (kind : Kind) (id : Id) : Sim :=
  match kind with
  | .buffer => { s with buffers := s.buffers.erase id }
  | .texture => { s with textures := s.textures.erase id }
  | .framebuffer => { s with framebuffers := s.framebuffers.erase id }
  | .renderbuffer => { s with renderbuffers := s.renderbuffers.erase id }
  | .vertexArray => { s with vertexArrays := s.vertexArrays.erase id }
  | .shader => { s with shaders := s.shaders.erase id }
  | .program => { s with programs := s.programs.erase id }

/-- Deletes an object if it is live. Registers that held it fall back to 0. -/
def delete (s : Sim) (kind : Kind) (id : Id) : Sim :=
  if id = 0 ∨ ¬ s.isLive kind id then s
  else
    let pool := s.pools.getD (namingKind kind) {}
    { s.forget kind id with
      calls := s.calls ++ [.delete kind id]
      live := s.live.filter (· ≠ (kind, id))
      pools := s.pools.insert (namingKind kind) (pool.giveBack id)
      registers := s.registers.mapValues fun slot bound =>
        if slot.kind? = some kind ∧ bound = id then 0 else bound }

def deleteMany (s : Sim) (kind : Kind) (ids : List Id) : Sim := ids.foldl (·.delete kind ·) s

def createShader (s : Sim) (stage : ShaderStage) : Id × Sim :=
  let (id, s) := s.gen .shader
  (id, if id = 0 then s else { s with shaders := s.shaders.insert id { stage } })

def createProgram (s : Sim) : Id × Sim :=
  let (id, s) := s.gen .program
  (id, if id = 0 then s else { s with programs := s.programs.insert id {} })

/-! ## Binding -/

/-- The slot that a bind really writes: whatever unit a texture slot names, the driver binds on the
active one. -/
def located (s : Sim) : Slot → Slot
  | .texture _ target => .texture s.activeUnit target
  | slot => slot

/-- Whether the driver accepts `id` for `slot`: objects must be live. -/
def accepts (s : Sim) (slot : Slot) (id : Id) : Bool :=
  id = 0 || slot.kind?.all fun kind => s.isLive kind id

def setElementBuffer (s : Sim) (vertexArray buffer : Id) : Sim :=
  { s with vertexArrays :=
      s.vertexArrays.alter vertexArray {} fun v => { v with elementBuffer := buffer } }

/-- Makes `id` current in `slot`. A vertex array brings its element buffer along, and binding an
element buffer records it in the bound vertex array. -/
def bind (s : Sim) (slot : Slot) (id : Id) : Sim :=
  let slot := s.located slot
  if s.accepts slot id then
    let s := s.write slot.registers id
    match slot with
    | .vertexArray => s.write [.elementArray] (s.vertexArrayState id).elementBuffer
    | .buffer .elementArray => s.setElementBuffer (s.bound .vertexArray) id
    | _ => s
  else s.raise Enumerant.invalidOperation

end GraphicsObjects.Sim
