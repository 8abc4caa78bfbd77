import GraphicsObjects.Driver.Request

/-!
Calls to the raw entry points of a graphics library, with their arguments as the library sees them:
enumerants for all vocabularies, and signed 32-bit numbers where the library takes them.
-/

namespace GraphicsObjects.Native

/-- A text that the library put into a buffer: the bytes it stored, and the length it reported if it
did. -/
structure StoredText where
  stored : Bytes := []
  length : Option Int := none
  deriving DecidableEq, Inhabited

/-- What the library stored about an active variable. -/
structure StoredVariable where
  name : StoredText := {}
  size : Option Int := none
  type : Option Enumerant := none
  deriving DecidableEq, Inhabited

/-- The calls. -/
inductive EntryCall where
  | gen (kind : Kind) (slots : List Id)
  | delete (kind : Kind) (ids : List Id)
  | createShader (type : Enumerant)
  | deleteShader (shader : Id)
  | createProgram
  | deleteProgram (program : Id)
  | bindBuffer (target : Enumerant) (buffer : Id)
  | activeTexture (unit : Enumerant)
  | bindTexture (target : Enumerant) (texture : Id)
  | bindFramebuffer (target : Enumerant) (framebuffer : Id)
  | bindRenderbuffer (target : Enumerant) (renderbuffer : Id)
  | bindVertexArray (vertexArray : Id)
  | useProgram (program : Id)
  | getError
  | getInteger (parameter : Enumerant)
  | viewport (x y width height : Int)
  | clearColor (color : Vector Single 4)
  | clear (mask : Nat)
  | bufferData (target : Enumerant) (size : Int) (data : Option Bytes) (usage : Enumerant)
  | bufferSubData (target : Enumerant) (offset size : Int) (data : Bytes)
  | texImage1D (target : Enumerant) (level internalFormat width border : Int)
      (format type : Enumerant) (data : Option ByteArray)
  | texImage2D (target : Enumerant) (level internalFormat width height border : Int)
      (format type : Enumerant) (data : Option ByteArray)
  | texImage3D (target : Enumerant) (level internalFormat width height depth border : Int)
      (format type : Enumerant) (data : Option ByteArray)
  | texParameter (target parameter : Enumerant) (value : Int)
  | getTexParameter (target parameter : Enumerant)
  | generateMipmap (target : Enumerant)
  | renderbufferStorage (target internalFormat : Enumerant) (width height : Int)
  | renderbufferStorageMultisample (target : Enumerant) (samples : Int)
      (internalFormat : Enumerant) (width height : Int)
  | framebufferRenderbuffer (target point renderbufferTarget : Enumerant) (renderbuffer : Id)
  | framebufferTexture1D (target point image : Enumerant) (texture : Id) (level : Int)
  | framebufferTexture2D (target point image : Enumerant) (texture : Id) (level : Int)
  | framebufferTexture (target point : Enumerant) (texture : Id) (level : Int)
  | framebufferTextureLayer (target point : Enumerant) (texture : Id) (level layer : Int)
  | checkFramebufferStatus (target : Enumerant)
  | drawBuffers (points : List Enumerant)
  | readPixels (x y width height : Int) (format type : Enumerant) (out : Bytes)
  | enableVertexAttribArray (index : Nat)
  | disableVertexAttribArray (index : Nat)
  | vertexAttribPointer (layout : VertexAttribute)
  | shaderSource (shader : Id) (sources : List String)
  | compileShader (shader : Id)
  | getShader (shader : Id) (parameter : Enumerant)
  | getShaderInfoLog (shader : Id) (bufferSize : Int)
  | attachShader (program shader : Id)
  | detachShader (program shader : Id)
  | linkProgram (program : Id)
  | validateProgram (program : Id)
  | getProgram (program : Id) (parameter : Enumerant)
  | getProgramInfoLog (program : Id) (bufferSize : Int)
  | bindAttribLocation (program : Id) (index : Nat) (name : String)
  | getAttribLocation (program : Id) (name : String)
  | getUniformLocation (program : Id) (name : String)
  | getActiveUniform (program : Id) (index : Nat) (bufferSize : Int)
  | getActiveAttrib (program : Id) (index : Nat) (bufferSize : Int)
  | uniformInt (location value : Int)
  | uniformFloat (location : Int) (value : Single)
  | uniformInts (width : Nat) (location count : Int) (values : List Int)
  | uniformFloats (width : Nat) (location count : Int) (values : List Single)
  | uniformMatrix (width : Nat) (location count : Int) (transposed : Bool) (values : List Single)
  | dispatchCompute (x y z : Nat)
  | drawArrays (mode : Enumerant) (first count : Int)
  | drawElements (mode : Enumerant) (count : Int) (type : Enumerant) (offset : Nat)
  deriving DecidableEq

/-- The type of what a call gives back. A value that the library may leave unwritten is optional;
names and pixels are given back as they stand after the call. -/
abbrev EntryCall.Answer : EntryCall → Type
  | gen .. => List Id
  | createShader .. | createProgram => Id
  | getError | checkFramebufferStatus .. => Enumerant
  | getInteger .. | getTexParameter .. | getShader .. | getProgram .. => Option Int
  | getAttribLocation .. | getUniformLocation .. => Int
  | readPixels .. => Bytes
  | getShaderInfoLog .. | getProgramInfoLog .. => StoredText
  | getActiveUniform .. | getActiveAttrib .. => StoredVariable
  | _ => Unit

/-- A graphics library serves every call in every state. -/
class EntryPoints (γ : Type) where
  call : (c : EntryCall) → γ → c.Answer × γ

/-! ## The written form of a call -/

/-- An argument in the written form of a call. -/
inductive Argument where
  | number (n : Int)
  | numbers (ns : List Int)
  | bytes (bs : Bytes)
  | null
  | text (s : String)
  | texts (ss : List String)

namespace EntryCall

/-- The name of the objects of a kind in the names of entry points. -/
def plural : Kind → String
  | .vertexArray => "VertexArrays"
  | k => name k ++ "s"

/-- The name of the entry point. -/
def name : EntryCall → String
  | gen kind _ => "glGen" ++ plural kind
  | delete kind _ => "glDelete" ++ plural kind
  | createShader .. => "glCreateShader"
  | deleteShader .. => "glDeleteShader"
  | createProgram => "glCreateProgram"
  | deleteProgram .. => "glDeleteProgram"
  | bindBuffer .. => "glBindBuffer"
  | activeTexture .. => "glActiveTexture"
  | bindTexture .. => "glBindTexture"
  | bindFramebuffer .. => "glBindFramebuffer"
  | bindRenderbuffer .. => "glBindRenderbuffer"
  | bindVertexArray .. => "glBindVertexArray"
  | useProgram .. => "glUseProgram"
  | getError => "glGetError"
  | getInteger .. => "glGetIntegerv"
  | viewport .. => "glViewport"
  | clearColor .. => "glClearColor"
  | clear .. => "glClear"
  | bufferData .. => "glBufferData"
  | bufferSubData .. => "glBufferSubData"
  | texImage1D .. => "glTexImage1D"
  | texImage2D .. => "glTexImage2D"
  | texImage3D .. => "glTexImage3D"
  | texParameter .. => "glTexParameteri"
  | getTexParameter .. => "glGetTexParameteriv"
  | generateMipmap .. => "glGenerateMipmap"
  | renderbufferStorage .. => "glRenderbufferStorage"
  | renderbufferStorageMultisample .. => "glRenderbufferStorageMultisample"
  | framebufferRenderbuffer .. => "glFramebufferRenderbuffer"
  | framebufferTexture1D .. => "glFramebufferTexture1D"
  | framebufferTexture2D .. => "glFramebufferTexture2D"
  | framebufferTexture .. => "glFramebufferTexture"
  | framebufferTextureLayer .. => "glFramebufferTextureLayer"
  | checkFramebufferStatus .. => "glCheckFramebufferStatus"
  | drawBuffers .. => "glDrawBuffers"
  | readPixels .. => "glReadPixels"
  | enableVertexAttribArray .. => "glEnableVertexAttribArray"
  | disableVertexAttribArray .. => "glDisableVertexAttribArray"
  | vertexAttribPointer .. => "glVertexAttribPointer"
  | shaderSource .. => "glShaderSource"
  | compileShader .. => "glCompileShader"
  | getShader .. => "glGetShaderiv"
  | getShaderInfoLog .. => "glGetShaderInfoLog"
  | attachShader .. => "glAttachShader"
  | detachShader .. => "glDetachShader"
  | linkProgram .. => "glLinkProgram"
  | validateProgram .. => "glValidateProgram"
  | getProgram .. => "glGetProgramiv"
  | getProgramInfoLog .. => "glGetProgramInfoLog"
  | bindAttribLocation .. => "glBindAttribLocation"
  | getAttribLocation .. => "glGetAttribLocation"
  | getUniformLocation .. => "glGetUniformLocation"
  | getActiveUniform .. => "glGetActiveUniform"
  | getActiveAttrib .. => "glGetActiveAttrib"
  | uniformInt .. => "glUniform1i"
  | uniformFloat .. => "glUniform1f"
  | uniformInts width .. => "glUniform" ++ toString width ++ "iv"
  | uniformFloats width .. => "glUniform" ++ toString width ++ "fv"
  | uniformMatrix width .. => "glUniformMatrix" ++ toString width ++ "fv"
  | dispatchCompute .. => "glDispatchCompute"
  | drawArrays .. => "glDrawArrays"
  | drawElements .. => "glDrawElements"

def numbered (ns : List Int) : List Argument := ns.map .number

def flag (b : Bool) : Int := if b then 1 else 0

/-- Client memory, or the null pointer. -/
def memory : Option Bytes → Argument
  | some bs => .bytes bs
  | none => .null

/-- The client memory of an image. -/
def pixels (data : Option ByteArray) : Argument := memory (data.map (·.data.toList))

def words (xs : List Single) : List Int := xs.map fun x => (x.bits.toNat : Int)

/-- The arguments of the call. Arrays stand after their length; what the library only writes to is
left out. -/
def arguments : EntryCall → List Argument
  | gen _ slots => [.number slots.length]
  | delete _ ids => [.number ids.length, .numbers (ids.map Int.ofNat)]
  | createShader type => numbered [type]
  | deleteShader id | deleteProgram id | bindVertexArray id | useProgram id | compileShader id
  | linkProgram id | validateProgram id => numbered [id]
  | createProgram | getError => []
  | bindBuffer target id | bindTexture target id | bindFramebuffer target id
  | bindRenderbuffer target id => numbered [target, id]
  | activeTexture n | getInteger n | generateMipmap n | checkFramebufferStatus n | clear n
  | enableVertexAttribArray n | disableVertexAttribArray n => numbered [n]
  | viewport x y width height => numbered [x, y, width, height]
  | clearColor color => numbered (words color.toList)
  | bufferData target size data usage =>
    [.number target, .number size, memory data, .number usage]
  | bufferSubData target offset size data =>
    [.number target, .number offset, .number size, .bytes data]
  | texImage1D target level internal width border format type data =>
    numbered [target, level, internal, width, border, format, type] ++ [pixels data]
  | texImage2D target level internal width height border format type data =>
    numbered [target, level, internal, width, height, border, format, type] ++ [pixels data]
  | texImage3D target level internal width height depth border format type data =>
    numbered [target, level, internal, width, height, depth, border, format, type] ++ [pixels data]
  | texParameter target parameter value => numbered [target, parameter, value]
  | getTexParameter target parameter => numbered [target, parameter]
  | renderbufferStorage target internal width height => numbered [target, internal, width, height]
  | renderbufferStorageMultisample target samples internal width height =>
    numbered [target, samples, internal, width, height]
  | framebufferRenderbuffer target point renderbufferTarget id =>
    numbered [target, point, renderbufferTarget, id]
  | framebufferTexture1D target point image id level
  | framebufferTexture2D target point image id level => numbered [target, point, image, id, level]
  | framebufferTexture target point id level => numbered [target, point, id, level]
  | framebufferTextureLayer target point id level layer =>
    numbered [target, point, id, level, layer]
  | drawBuffers points => [.number points.length, .numbers (points.map Int.ofNat)]
  | readPixels x y width height format type _ => numbered [x, y, width, height, format, type]
  | vertexAttribPointer a =>
    numbered [a.index, a.size, a.type, flag a.normalized, a.stride, a.offset]
  | shaderSource id sources =>
    [.number id, .number sources.length, .texts sources,
      .numbers (sources.map fun s => (s.utf8ByteSize : Int))]
  | attachShader program shader | detachShader program shader => numbered [program, shader]
  | getShader id parameter | getProgram id parameter => numbered [id, parameter]
  | getShaderInfoLog id size | getProgramInfoLog id size => numbered [id, size]
  | bindAttribLocation id index name => [.number id, .number index, .text name]
  | getAttribLocation id name | getUniformLocation id name => [.number id, .text name]
  | getActiveUniform id index size | getActiveAttrib id index size => numbered [id, index, size]
  | uniformInt location value => numbered [location, value]
  | uniformFloat location value => numbered (location :: words [value])
  | uniformInts _ location count values =>
    [.number location, .number count, .numbers (values.map fun v => (unsigned32 v : Int))]
  | uniformFloats _ location count values =>
    [.number location, .number count, .numbers (words values)]
  | uniformMatrix _ location count transposed values =>
    [.number location, .number count, .number (flag transposed), .numbers (words values)]
  | dispatchCompute x y z => numbered [x, y, z]
  | drawArrays mode first count => numbered [mode, first, count]
  | drawElements mode count type offset => numbered [mode, count, type, offset]

end EntryCall

end GraphicsObjects.Native
