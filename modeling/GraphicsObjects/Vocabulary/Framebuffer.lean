import GraphicsObjects.Vocabulary.Enumerant
import GraphicsObjects.Vocabulary.Named

/-! Attachment points of framebuffers and the answers to a completeness check. -/

namespace GraphicsObjects

/-- The points of a framebuffer to which images are attached. -/
inductive Attachment where
  | color (index : Nat)
  | depth
  | stencil
  | depthStencil
  deriving DecidableEq

def Attachment.enumerant : Attachment → Enumerant
  | color i => Enumerant.colorAttachment0 + i
  | depth => 0x8D00
  | stencil => 0x8D20
  | depthStencil => 0x821A

/-- The answer to a completeness check. `undefined` is said of a default framebuffer that does not
exist. -/
inductive FramebufferStatus where
  | complete
  | undefined
  | incompleteAttachment
  | missingAttachment
  | incompleteDrawBuffer
  | incompleteReadBuffer
  | unsupported
  | incompleteMultisample
  | incompleteLayerTargets
  | unknown (code : Enumerant)
  deriving DecidableEq

namespace FramebufferStatus

open Enumerant in
def ofEnumerant (code : Enumerant) : FramebufferStatus :=
  if code = framebufferComplete then complete
  else if code = framebufferUndefined then undefined
  else if code = framebufferIncompleteAttachment then incompleteAttachment
  else if code = framebufferMissingAttachment then missingAttachment
  else if code = framebufferIncompleteDrawBuffer then incompleteDrawBuffer
  else if code = framebufferIncompleteReadBuffer then incompleteReadBuffer
  else if code = framebufferUnsupported then unsupported
  else if code = framebufferIncompleteMultisample then incompleteMultisample
  else if code = framebufferIncompleteLayerTargets then incompleteLayerTargets
  else unknown code

def isComplete (s : FramebufferStatus) : Bool := s = complete

def text : FramebufferStatus → String
  | complete => "Complete"
  | undefined => "Undefined"
  | incompleteAttachment => "IncompleteAttachment"
  | missingAttachment => "MissingAttachment"
  | incompleteDrawBuffer => "IncompleteDrawBuffer"
  | incompleteReadBuffer => "IncompleteReadBuffer"
  | unsupported => "Unsupported"
  | incompleteMultisample => "IncompleteMultisample"
  | incompleteLayerTargets => "IncompleteLayerTargets"
  | unknown code => "Unknown(" ++ toString code ++ ")"

end FramebufferStatus

end GraphicsObjects
