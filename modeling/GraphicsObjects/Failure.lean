import GraphicsObjects.Text.Integer
import GraphicsObjects.Vocabulary.Framebuffer
import GraphicsObjects.Vocabulary.Target

/-! What goes wrong: the errors that the driver reports, and the failures of operations on objects. -/

namespace GraphicsObjects

/-- The errors of the driver's error register. -/
inductive DriverError where
  | invalidEnum
  | invalidValue
  | invalidOperation
  | invalidFramebufferOperation
  | outOfMemory
  | stackUnderflow
  | stackOverflow
  | unknown (code : Enumerant)
  deriving DecidableEq

namespace DriverError

/-- The error with a given code; the code 0 is none. -/
def ofCode? (code : Enumerant) : Option DriverError :=
  if code = Enumerant.noError then none
  else if code = Enumerant.invalidEnum then some invalidEnum
  else if code = Enumerant.invalidValue then some invalidValue
  else if code = Enumerant.invalidOperation then some invalidOperation
  else if code = Enumerant.invalidFramebufferOperation then some invalidFramebufferOperation
  else if code = Enumerant.outOfMemory then some outOfMemory
  else if code = Enumerant.stackUnderflow then some stackUnderflow
  else if code = Enumerant.stackOverflow then some stackOverflow
  else some (unknown code)

def code : DriverError → Enumerant
  | invalidEnum => Enumerant.invalidEnum
  | invalidValue => Enumerant.invalidValue
  | invalidOperation => Enumerant.invalidOperation
  | invalidFramebufferOperation => Enumerant.invalidFramebufferOperation
  | outOfMemory => Enumerant.outOfMemory
  | stackUnderflow => Enumerant.stackUnderflow
  | stackOverflow => Enumerant.stackOverflow
  | unknown code => code

theorem ofCode?_eq_none_iff {c : Enumerant} : ofCode? c = none ↔ c = Enumerant.noError := by
  unfold ofCode?
  split
  · simp_all
  · repeat' split
    all_goals simp_all

theorem code_of_ofCode? {c : Enumerant} {e : DriverError} (h : ofCode? c = some e) :
    e.code = c := by
  unfold ofCode? at h
  repeat' split at h
  all_goals simp only [Option.some.injEq, reduceCtorEq] at h
  all_goals subst h; simp_all [code]

def label : DriverError → String
  | invalidEnum => "InvalidEnum"
  | invalidValue => "InvalidValue"
  | invalidOperation => "InvalidOperation"
  | invalidFramebufferOperation => "InvalidFramebufferOperation"
  | outOfMemory => "OutOfMemory"
  | stackUnderflow => "StackUnderflow"
  | stackOverflow => "StackOverflow"
  | unknown code => "Unknown(" ++ toString code ++ ")"

def message : DriverError → String
  | invalidEnum =>
    "GL_INVALID_ENUM: an unacceptable value is specified for an enumerated argument"
  | invalidValue => "GL_INVALID_VALUE: a numeric argument is out of range"
  | invalidOperation =>
    "GL_INVALID_OPERATION: the specified operation is not allowed in the current state"
  | invalidFramebufferOperation =>
    "GL_INVALID_FRAMEBUFFER_OPERATION: the framebuffer object is not complete"
  | outOfMemory => "GL_OUT_OF_MEMORY: there is not enough memory left to execute the command"
  | stackUnderflow => "GL_STACK_UNDERFLOW"
  | stackOverflow => "GL_STACK_OVERFLOW"
  | unknown code => "unknown GL error 0x" ++ Text.hexadecimal code

end DriverError

/-- The operations that not every target supports. -/
inductive Restricted where
  | setImage1D | setImage2D | setImage3D | setCubeFaceImage | attachTextureLayer | attachCubeFace
  | setDrawBuffers | readPixels | clear
  deriving DecidableEq

def Restricted.label : Restricted → String
  | setImage1D => "set_image_1d"
  | setImage2D => "set_image_2d"
  | setImage3D => "set_image_3d"
  | setCubeFaceImage => "set_cube_face_image"
  | attachTextureLayer => "attach_texture_layer"
  | attachCubeFace => "attach_cube_face"
  | setDrawBuffers => "set_draw_buffers"
  | readPixels => "read_pixels"
  | clear => "clear"

/-- Why a source file gave no text. -/
inductive ReadFault where
  | notFound
  | invalidData
  deriving DecidableEq

/-- Why an operation was refused. -/
inductive Failure where
  | creationFailed (kind : Kind)
  | framebufferIncomplete (status : FramebufferStatus)
  | invalidTarget (target : TextureTarget ⊕ FramebufferTarget) (operation : Restricted)
  | invalidTextureUnit (unit max : Nat)
  | outOfBounds (offset len size : Nat)
  | bufferTooSmall (required actual : Nat)
  | unsupportedPixelFormat (format type : Enumerant)
  | unreadable (fault : ReadFault)
  | malformedConfig
  deriving DecidableEq

namespace Failure

/-- What is wrong, in words. Of what could not be read or parsed no more is said. -/
def message : Failure → String
  | creationFailed kind => "failed to create " ++ name kind ++ " object"
  | framebufferIncomplete status => "framebuffer incomplete: " ++ status.text
  | invalidTarget target operation =>
    operation.label ++ " is not supported on target " ++ target.elim name name
  | invalidTextureUnit unit max =>
    "texture unit " ++ toString unit ++ " out of range (max " ++ toString max ++ ")"
  | outOfBounds offset len size =>
    "range " ++ toString offset ++ ".." ++ toString offset ++ "+" ++ toString len ++
      " out of bounds of buffer of size " ++ toString size
  | bufferTooSmall required actual =>
    "client memory too small: " ++ toString required ++ " bytes required, got " ++ toString actual
  | unsupportedPixelFormat format type =>
    "unsupported pixel transfer format 0x" ++ Text.hexadecimal format ++ " with type 0x" ++
      Text.hexadecimal type
  | unreadable _ => "I/O error"
  | malformedConfig => "invalid configuration"

end Failure

end GraphicsObjects
