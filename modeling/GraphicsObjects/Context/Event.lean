import GraphicsObjects.Binding.Slot
import GraphicsObjects.Context.Config
import GraphicsObjects.Pixel
import GraphicsObjects.Text.Quoted
import GraphicsObjects.Vocabulary.Shading

/-! What contexts and drivers log. -/

namespace GraphicsObjects

/-- The activities after which the error register is polled. -/
inductive Site where
  | creatingObject | creatingShader | creatingProgram | deletingObject
  | settingBufferData | allocatingBuffer | settingBufferSubData
  | settingTextureImage | generatingMipmaps | settingTextureParameter | gettingTextureParameter
  | settingRenderbufferStorage
  | checkingFramebufferStatus | attachingRenderbuffer | attachingTexture | settingDrawBuffers
  | readingPixels | clearingFramebuffer
  | enablingVertexAttribute | settingVertexAttributePointer
  | settingShaderSource | compilingShader
  | attachingShader | detachingShader | linkingProgram | validatingProgram | dispatchingCompute
  | bindingAttributeLocation | gettingProgramParameter | settingUniform
  | drawingArrays | drawingElements | clearing | settingClearColor | settingViewport
  deriving DecidableEq

def Site.text : Site → String
  | creatingObject => "creating object"
  | creatingShader => "creating shader"
  | creatingProgram => "creating program"
  | deletingObject => "deleting object"
  | settingBufferData => "setting buffer data"
  | allocatingBuffer => "allocating buffer"
  | settingBufferSubData => "setting buffer sub data"
  | settingTextureImage => "setting texture image"
  | generatingMipmaps => "generating mipmaps"
  | settingTextureParameter => "setting texture parameter"
  | gettingTextureParameter => "getting texture parameter"
  | settingRenderbufferStorage => "setting renderbuffer storage"
  | checkingFramebufferStatus => "checking framebuffer status"
  | attachingRenderbuffer => "attaching renderbuffer"
  | attachingTexture => "attaching texture"
  | settingDrawBuffers => "setting draw buffers"
  | readingPixels => "reading pixels"
  | clearingFramebuffer => "clearing framebuffer"
  | enablingVertexAttribute => "enabling vertex attribute"
  | settingVertexAttributePointer => "setting vertex attribute pointer"
  | settingShaderSource => "setting shader source"
  | compilingShader => "compiling shader"
  | attachingShader => "attaching shader"
  | detachingShader => "detaching shader"
  | linkingProgram => "linking program"
  | validatingProgram => "validating program"
  | dispatchingCompute => "dispatching compute"
  | bindingAttributeLocation => "binding attribute location"
  | gettingProgramParameter => "getting program parameter"
  | settingUniform => "setting uniform"
  | drawingArrays => "drawing arrays"
  | drawingElements => "drawing elements"
  | clearing => "clearing"
  | settingClearColor => "setting clear color"
  | settingViewport => "setting viewport"

/-- How severe an event is. -/
inductive Level where
  | error | warn | info | debug | trace
  deriving DecidableEq

namespace Level

instance : Named Level where
  all := [.error, .warn, .info, .debug, .trace]
  name
    | error => "ERROR"
    | warn => "WARN"
    | info => "INFO"
    | debug => "DEBUG"
    | trace => "TRACE"

/-- Levels from the most severe on. -/
def rank : Level → Nat
  | error => 0
  | warn => 1
  | info => 2
  | debug => 3
  | trace => 4

end Level

/-- What is logged. -/
inductive Event where
  | creatingContext (config : Config)
  | invalidatingBindings
  | bind (slot : Slot) (id : Id)
  | bindElided (slot : Slot) (id : Id)
  | driverError (error : DriverError) (site : Site)
  | createdObject (kind : Kind) (id : Id)
  | createdShader (stage : ShaderStage) (id : Id)
  | createdProgram (id : Id)
  | deletedObject (kind : Kind) (id : Id)
  | emptyShaderSource (stage : ShaderStage) (id : Id)
  | shaderCompilationFailed (stage : ShaderStage) (id : Id)
  | programLinkFailed (id : Id)
  | uniformNotActive (program : Id) (name : String)
  | droppedTransfer (direction : PixelDirection) (size : Extents) (failure : Failure)
  deriving DecidableEq

namespace Event

def level : Event → Level
  | droppedTransfer .. => .error
  | driverError .. | emptyShaderSource .. => .warn
  | bind .. | bindElided .. => .trace
  | _ => .debug

def message : Event → String
  | creatingContext config => "creating context config=" ++ config.text
  | invalidatingBindings => "invalidating all bindings"
  | bind slot id => "bind slot=" ++ slot.text ++ " id=" ++ toString id
  | bindElided slot id => "bind elided slot=" ++ slot.text ++ " id=" ++ toString id
  | driverError error site => "GL error during " ++ site.text ++ ": " ++ error.message
  | createdObject kind id => "created object kind=" ++ name kind ++ " id=" ++ toString id
  | createdShader stage id => "created shader stage=" ++ name stage ++ " id=" ++ toString id
  | createdProgram id => "created program id=" ++ toString id
  | deletedObject kind id => "deleted object kind=" ++ name kind ++ " id=" ++ toString id
  | emptyShaderSource stage id =>
    "empty shader source stage=" ++ name stage ++ " id=" ++ toString id
  | shaderCompilationFailed stage id =>
    "shader compilation failed stage=" ++ name stage ++ " id=" ++ toString id
  | programLinkFailed id => "program link failed id=" ++ toString id
  | uniformNotActive program name =>
    "uniform not active program=" ++ toString program ++ " name=" ++ Text.quote name
  | droppedTransfer direction size failure =>
    "dropping pixel transfer: " ++ failure.message ++ " direction=" ++ name direction ++
      " size=" ++ size.text

/-- The level and the message. -/
def text (e : Event) : String := name e.level ++ " " ++ e.message

end Event

end GraphicsObjects
