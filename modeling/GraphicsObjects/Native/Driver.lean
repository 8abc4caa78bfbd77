import GraphicsObjects.Native.EntryCall
import GraphicsObjects.Text.Utf8

/-!
A driver over the entry points of a graphics library. The library reads and writes as much client
memory as its parameters say, whatever the length of the slice, so a pixel transfer that the slice
cannot hold is not passed on.
-/

namespace GraphicsObjects

open Native

/-- A driver over a library in state `library`. -/
structure NativeDriver (γ : Type) where
  library : γ
  deriving Inhabited

namespace Native

/-- A piece of work with a library: calls in order, and what is logged meanwhile. -/
abbrev NativeM (γ : Type) := StateM (γ × List Event)

variable {γ : Type} [EntryPoints γ]

def call (c : EntryCall) : NativeM γ c.Answer := fun s =>
  let (a, library) := EntryPoints.call c s.1
  (a, library, s.2)

def note (e : Event) : NativeM γ Unit := modify fun s => (s.1, s.2 ++ [e])

/-! ## Queries -/

/-- A parameter of the context. The variable of the caller keeps its 0 where nothing is stored. -/
def getInteger (parameter : Enumerant) : NativeM γ Int := do
  let v : Option Int ← call (.getInteger parameter)
  pure (v.getD 0)

def shaderParameter (shader : Id) (parameter : Enumerant) : NativeM γ Int := do
  let v : Option Int ← call (.getShader shader parameter)
  pure (v.getD 0)

def programParameter (program : Id) (parameter : Enumerant) : NativeM γ Int := do
  let v : Option Int ← call (.getProgram program parameter)
  pure (v.getD 0)

/-- The size of a buffer for a text whose length was announced as `announced`. -/
def bufferSize (announced : Int) : Nat := (max announced 1).toNat

/-- The text in a zeroed buffer of `size` bytes into which `stored` was put: as many of its bytes as
`length` says. -/
def bufferText (size : Nat) (stored : Bytes) (length : Int) : String :=
  let used := min length.toNat size
  Text.decodeUtf8Lossy (stored.take used ++ List.replicate (used - stored.length) 0)

/-- A log whose length was announced; where the library reports none, the announced one counts. -/
def readLog (announced : Int) (query : Int → NativeM γ StoredText) : NativeM γ String := do
  let size := bufferSize announced
  let text ← query size
  pure (bufferText size text.stored (text.length.getD announced))

def shaderLog (shader : Id) : NativeM γ String := do
  let announced ← shaderParameter shader Enumerant.infoLogLength
  readLog announced fun size => call (.getShaderInfoLog shader size)

def programLog (program : Id) : NativeM γ String := do
  let announced ← programParameter program Enumerant.infoLogLength
  readLog announced fun size => call (.getProgramInfoLog program size)

/-- An active variable, given the longest length of such a name. -/
def readVariable (longest : Int) (query : Int → NativeM γ StoredVariable) :
    NativeM γ ActiveVariable := do
  let size := bufferSize longest
  let v ← query size
  pure { name := bufferText size v.name.stored (v.name.length.getD 0)
         type := v.type.getD 0
         size := v.size.getD 0 }

/-- Names with a zero character cannot exist in a program, and no library can be asked for one. -/
def isName (name : String) : Bool := ! name.toList.contains '\x00'

/-! ## Pixel transfers -/

/-- Runs `transfer` if `len` bytes hold it under the current parameters; otherwise logs that it is
dropped, and gives `dropped`. -/
def guardTransfer {α : Type} (direction : PixelDirection) (format type : Enumerant)
    (size : Extents) (dimensions len : Nat) (dropped : α) (transfer : NativeM γ α) :
    NativeM γ α := do
  let store ← PixelStore.query getInteger direction
  match checkTransfer format type size dimensions store len with
  | .ok () => transfer
  | .error failure =>
    note (.droppedTransfer direction size failure)
    pure dropped

/-- The call that specifies an image, by the dimensions of its target. -/
def texImageCall (target : ImageTarget) (i : ImageSpec) : EntryCall :=
  let t := target.enumerant
  let internal := signed32 i.internalFormat
  let width := signed32 i.size.width
  let height := signed32 i.size.height
  let depth := signed32 i.size.depth
  match target.dimensions with
  | 1 => .texImage1D t i.level internal width 0 i.format i.type i.data
  | 2 => .texImage2D t i.level internal width height 0 i.format i.type i.data
  | _ => .texImage3D t i.level internal width height depth 0 i.format i.type i.data

/-- Makes a call and drops what it gives back. -/
def issue (c : EntryCall) : NativeM γ Unit := do
  let _ ← call c

def texImage (target : ImageTarget) (i : ImageSpec) : NativeM γ Unit :=
  let specify := issue (texImageCall target i)
  match i.data with
  | none => specify
  | some data =>
    guardTransfer .unpack i.format i.type i.size target.dimensions data.size () specify

def readPixels (b : PixelBlock) (out : Bytes) : NativeM γ Bytes :=
  guardTransfer .pack b.format b.type b.size 2 out.length out <|
    call (.readPixels b.x b.y (signed32 b.width) (signed32 b.height) b.format b.type out)

/-! ## Other requests -/

def genObjects (kind : Kind) (slots : List Id) : NativeM γ (List Id) :=
  if kind = .shader ∨ kind = .program then pure (slots.map fun _ => 0) else call (.gen kind slots)

def deleteObjects (kind : Kind) (ids : List Id) : NativeM γ Unit :=
  match kind with
  | .shader => ids.forM fun id => issue (.deleteShader id)
  | .program => ids.forM fun id => issue (.deleteProgram id)
  | _ => issue (.delete kind ids)

/-- The call that binds `id` to a slot. The unit of a texture slot was made active before. -/
def bindCall : Slot → Id → EntryCall
  | .buffer target, id => .bindBuffer target.enumerant id
  | .activeTexture, unit => .activeTexture (Enumerant.texture0 + unit)
  | .texture _ target, id => .bindTexture target.enumerant id
  | .framebuffer target, id => .bindFramebuffer target.enumerant id
  | .renderbuffer, id => .bindRenderbuffer Enumerant.renderbuffer id
  | .vertexArray, id => .bindVertexArray id
  | .program, id => .useProgram id

def bufferDataCall (target : BufferTarget) (contents : StoreContents) (usage : BufferUsage) :
    EntryCall :=
  let data := match contents with
    | .bytes bs => some bs
    | .unspecified _ => none
  .bufferData target.enumerant (signed64 contents.size) data usage.enumerant

def renderbufferStorageCall (internalFormat : Enumerant) (width height samples : Nat) : EntryCall :=
  if samples ≤ 1 then
    .renderbufferStorage Enumerant.renderbuffer internalFormat (signed32 width) (signed32 height)
  else
    .renderbufferStorageMultisample Enumerant.renderbuffer (signed32 samples) internalFormat
      (signed32 width) (signed32 height)

/-- The call that attaches an image: a layer if one is given, a plain image of one or two
dimensions, or a layered image as a whole. -/
def framebufferTextureCall (target : FramebufferTarget) (point : Attachment) (image : ImageTarget)
    (texture : Id) (level : Int) (layer : Option Int) : EntryCall :=
  let t := target.enumerant
  let p := point.enumerant
  match layer, image with
  | some layer, _ => .framebufferTextureLayer t p texture level layer
  | none, .texture .texture1D => .framebufferTexture1D t p image.enumerant texture level
  | none, .texture .texture2D | none, .texture .rectangle | none, .face _ =>
    .framebufferTexture2D t p image.enumerant texture level
  | none, .texture _ => .framebufferTexture t p texture level

/-- The call that sets a uniform, by the type of the value. -/
def uniformCall (location : Int) : UniformValue → EntryCall
  | .int x => .uniformInt location x
  | .ivec2 v => .uniformInts 2 location 1 v.toList
  | .ivec3 v => .uniformInts 3 location 1 v.toList
  | .ivec4 v => .uniformInts 4 location 1 v.toList
  | .intArray xs => .uniformInts 1 location (signed32 xs.length) xs
  | .float x => .uniformFloat location x
  | .vec2 v => .uniformFloats 2 location 1 v.toList
  | .vec3 v => .uniformFloats 3 location 1 v.toList
  | .vec4 v => .uniformFloats 4 location 1 v.toList
  | .floatArray xs => .uniformFloats 1 location (signed32 xs.length) xs
  | .vec2Array vs => .uniformFloats 2 location (signed32 vs.length) (vs.flatMap Vector.toList)
  | .vec3Array vs => .uniformFloats 3 location (signed32 vs.length) (vs.flatMap Vector.toList)
  | .vec4Array vs => .uniformFloats 4 location (signed32 vs.length) (vs.flatMap Vector.toList)
  | .mat3 m => .uniformMatrix 3 location 1 false (m.toList.flatMap Vector.toList)
  | .mat4 m => .uniformMatrix 4 location 1 false (m.toList.flatMap Vector.toList)

/-- Serves a request with calls to the library. -/
def serve : (r : Request) → NativeM γ r.Answer
  | .genObjects kind slots => genObjects kind slots
  | .deleteObjects kind ids => deleteObjects kind ids
  | .createShader stage => call (.createShader stage.enumerant)
  | .deleteShader shader => issue (.deleteShader shader)
  | .createProgram => call .createProgram
  | .deleteProgram program => issue (.deleteProgram program)
  | .bind slot id => issue (bindCall slot id)
  | .getError => call .getError
  | .getInteger parameter => getInteger parameter
  | .viewport x y width height => issue (.viewport x y width height)
  | .clearColor color => issue (.clearColor color)
  | .clear mask => issue (.clear mask.bits)
  | .bufferData target contents usage => issue (bufferDataCall target contents usage)
  | .bufferSubData target offset data =>
    issue (.bufferSubData target.enumerant (signed64 offset) (signed64 data.length) data)
  | .texImage target image => texImage target image
  | .texParameter target parameter value => issue (.texParameter target.enumerant parameter value)
  | .getTexParameter target parameter => do
    let v : Option Int ← call (.getTexParameter target.enumerant parameter)
    pure (v.getD 0)
  | .generateMipmap target => issue (.generateMipmap target.enumerant)
  | .renderbufferStorage internalFormat width height samples =>
    issue (renderbufferStorageCall internalFormat width height samples)
  | .framebufferRenderbuffer target point renderbuffer =>
    issue (.framebufferRenderbuffer target.enumerant point.enumerant Enumerant.renderbuffer
      renderbuffer)
  | .framebufferTexture target point image texture level layer =>
    issue (framebufferTextureCall target point image texture level layer)
  | .checkFramebufferStatus target => call (.checkFramebufferStatus target.enumerant)
  | .drawBuffers points => issue (.drawBuffers (points.map Attachment.enumerant))
  | .readPixels block out => readPixels block out
  | .enableVertexAttribute index enable =>
    issue (if enable then .enableVertexAttribArray index else .disableVertexAttribArray index)
  | .vertexAttributePointer layout => issue (.vertexAttribPointer layout)
  | .shaderSource shader source => issue (.shaderSource shader [source])
  | .compileShader shader => issue (.compileShader shader)
  | .shaderStatus shader => do
    let v ← shaderParameter shader Enumerant.compileStatus
    pure (v = 1)
  | .shaderInfoLog shader => shaderLog shader
  | .attachShader program shader => issue (.attachShader program shader)
  | .detachShader program shader => issue (.detachShader program shader)
  | .linkProgram program => issue (.linkProgram program)
  | .validateProgram program => issue (.validateProgram program)
  | .programStatus program status => do
    let v ← programParameter program status.enumerant
    pure (v = 1)
  | .programParameter program parameter => programParameter program parameter
  | .programInfoLog program => programLog program
  | .bindAttributeLocation program index name =>
    if isName name then issue (.bindAttribLocation program index name) else pure ()
  | .attributeLocation program name =>
    if isName name then call (.getAttribLocation program name) else pure (-1 : Int)
  | .uniformLocation program name =>
    if isName name then call (.getUniformLocation program name) else pure (-1 : Int)
  | .activeUniform program index => do
    let longest ← programParameter program Enumerant.activeUniformMaxLength
    readVariable longest fun size => call (.getActiveUniform program index size)
  | .activeAttribute program index => do
    let longest ← programParameter program Enumerant.activeAttributeMaxLength
    readVariable longest fun size => call (.getActiveAttrib program index size)
  | .uniform location value => issue (uniformCall location value)
  | .dispatchCompute x y z => issue (.dispatchCompute x y z)
  | .drawArrays mode first count => issue (.drawArrays mode.enumerant first count)
  | .drawElements mode count type offset =>
    issue (.drawElements mode.enumerant count type.enumerant offset)

end Native

instance {γ : Type} [EntryPoints γ] : Driver (NativeDriver γ) where
  perform r d :=
    let (answer, library, events) := serve r (d.library, [])
    { answer, driver := ⟨library⟩, events }

end GraphicsObjects
