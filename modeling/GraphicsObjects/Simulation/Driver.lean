import GraphicsObjects.Simulation.Commands
import GraphicsObjects.Simulation.Lifetime
import GraphicsObjects.Simulation.Shading

/-! The simulated driver as a driver, and what can be asked about it from outside. -/

namespace GraphicsObjects

/-- The name under which a request is recorded as a command. Queries are not recorded, and creation,
deletion and binding have records of their own. -/
def Request.command? : Request → Option String
  | viewport .. => some "viewport"
  | clearColor .. => some "clear_color"
  | clear .. => some "clear"
  | bufferData .. => some "buffer_data"
  | bufferSubData .. => some "buffer_sub_data"
  | texImage .. => some "tex_image"
  | texParameter .. => some "tex_parameter"
  | generateMipmap .. => some "generate_mipmap"
  | renderbufferStorage .. => some "renderbuffer_storage"
  | framebufferRenderbuffer .. => some "framebuffer_renderbuffer"
  | framebufferTexture .. => some "framebuffer_texture"
  | checkFramebufferStatus .. => some "check_framebuffer_status"
  | drawBuffers .. => some "draw_buffers"
  | readPixels .. => some "read_pixels"
  | enableVertexAttribute .. => some "enable_vertex_attrib_array"
  | vertexAttributePointer .. => some "vertex_attrib_pointer"
  | shaderSource .. => some "shader_source"
  | compileShader .. => some "compile_shader"
  | attachShader .. => some "attach_shader"
  | detachShader .. => some "detach_shader"
  | linkProgram .. => some "link_program"
  | validateProgram .. => some "validate_program"
  | bindAttributeLocation .. => some "bind_attrib_location"
  | uniform .. => some "uniform"
  | dispatchCompute .. => some "dispatch_compute"
  | drawArrays .. => some "draw_arrays"
  | drawElements .. => some "draw_elements"
  | _ => none

namespace Sim

open Simulation

/-- Records the request if it is a command or a bind. -/
def receive (s : Sim) (r : Request) : Sim :=
  match r with
  | .bind slot id => s.record (.bind slot id)
  | r => match r.command? with
    | some name => s.record (.command name)
    | none => s

/-- The effect of a request that has been recorded, and the answer to it. -/
def execute : (r : Request) → Sim → r.Answer × Sim
  | .genObjects kind slots, s =>
    if kind = .shader ∨ kind = .program then (slots.map fun _ => 0, s)
    else genMany kind slots.length s
  | .deleteObjects kind ids, s => ((), s.deleteMany kind ids)
  | .createShader stage, s => s.createShader stage
  | .deleteShader id, s => ((), s.delete .shader id)
  | .createProgram, s => s.createProgram
  | .deleteProgram id, s => ((), s.delete .program id)
  | .bind slot id, s => ((), s.bind slot id)
  | .getError, s => s.takeError
  | .getInteger parameter, s => (s.integer parameter, s)
  | .viewport x y width height, s => ((), { s with viewport := #v[x, y, width, height] })
  | .clearColor color, s => ((), { s with clearColor := color })
  | .clear mask, s => ((), s.clear mask)
  | .bufferData target contents _, s => ((), s.bufferData target contents)
  | .bufferSubData target offset data, s => ((), s.bufferSubData target offset data)
  | .texImage target image, s => ((), s.texImage target image)
  | .texParameter target parameter value, s => ((), s.texParameter target parameter value)
  | .getTexParameter target parameter, s => (s.getTexParameter target parameter, s)
  | .generateMipmap target, s => ((), s.generateMipmap target)
  | .renderbufferStorage internalFormat width height samples, s =>
    ((), s.renderbufferStorage { internalFormat, width, height, samples })
  | .framebufferRenderbuffer target point id, s => ((), s.attach target point (.renderbuffer, id))
  | .framebufferTexture target point _ id _ _, s => ((), s.attach target point (.texture, id))
  | .checkFramebufferStatus target, s => (s.framebufferStatus target, s)
  | .drawBuffers points, s => ((), s.drawBuffers points)
  | .readPixels block out, s => s.readPixels block out
  | .enableVertexAttribute index enable, s => ((), s.enableVertexAttribute index enable)
  | .vertexAttributePointer layout, s => ((), s.vertexAttributePointer layout)
  | .shaderSource id source, s => ((), s.shaderSource id source)
  | .compileShader id, s => ((), s.compileShader id)
  | .shaderStatus id, s => (s.isCompiled id, s)
  | .shaderInfoLog id, s => (s.shaderLog id, s)
  | .attachShader program shader, s => ((), s.attachShader program shader)
  | .detachShader program shader, s => ((), s.detachShader program shader)
  | .linkProgram program, s => ((), s.link program)
  | .validateProgram _, s => ((), s)
  | .programStatus program _, s => (s.programStatus program, s)
  | .programParameter program parameter, s => s.programParameter program parameter
  | .programInfoLog program, s => ((s.programState program).log, s)
  | .bindAttributeLocation program index name, s => ((), s.bindAttributeLocation program index name)
  | .attributeLocation program name, s => (s.attributeLocation program name, s)
  | .uniformLocation program name, s => (s.uniformLocation program name, s)
  | .activeUniform program index, s => s.activeUniform program index
  | .activeAttribute program index, s => s.activeAttribute program index
  | .uniform location value, s => ((), s.setUniform location value)
  | .dispatchCompute x y z, s => ((), s.dispatch x y z)
  | .drawArrays mode first count, s => ((), s.draw mode first.toNat count none)
  | .drawElements mode count type offset, s => ((), s.draw mode offset count (some type))

instance : Driver Sim where
  perform r s :=
    let (answer, driver) := execute r (s.receive r)
    { answer, driver }

/-! ## Queries from outside -/

def bindCalls (s : Sim) : List (Slot × Id) :=
  s.calls.filterMap fun
    | .bind slot id => some (slot, id)
    | _ => none

def commandCount (s : Sim) (name : String) : Nat := s.calls.count (.command name)

/-- The objects that were deleted, in order. -/
def deleted (s : Sim) : List (Kind × Id) :=
  s.calls.filterMap fun
    | .delete kind id => some (kind, id)
    | _ => none

/-- The objects that were created, in order. -/
def created (s : Sim) : List (Kind × Id) :=
  s.calls.filterMap fun
    | .gen kind id => some (kind, id)
    | _ => none

def liveCount (s : Sim) (kind : Kind) : Nat := s.live.countP (·.1 = kind)

/-- The bytes in the store of a buffer that has been given one. -/
def contents? (s : Sim) (buffer : Id) : Option Bytes := (s.buffers.get? buffer).map (·.bytes)

def image? (s : Sim) (texture : Id) (target : ImageTarget) (level : Int) : Option Image :=
  (s.textureState texture).images.get? (target, level)

def textureParameter? (s : Sim) (texture : Id) (parameter : Enumerant) : Option Int :=
  (s.textureState texture).parameters.get? parameter

def attachment? (s : Sim) (framebuffer : Id) (point : Attachment) : Option (Kind × Id) :=
  (s.framebufferState framebuffer).attachments.get? point

def attribute? (s : Sim) (vertexArray : Id) (index : Nat) : Option VertexAttribute :=
  (s.vertexArrayState vertexArray).attributes.get? index

def isEnabled (s : Sim) (vertexArray : Id) (index : Nat) : Bool :=
  index ∈ (s.vertexArrayState vertexArray).enabled

/-- The element buffer recorded in a vertex array. -/
def elementBuffer (s : Sim) (vertexArray : Id) : Id := (s.vertexArrayState vertexArray).elementBuffer

def uniformValue? (s : Sim) (program : Id) (location : Int) : Option UniformValue :=
  (s.programState program).values.get? location

end Sim

end GraphicsObjects
