/-! The numeric values by which the graphics driver knows its parameters, formats and states. -/

namespace GraphicsObjects

/-- A value of the driver's enumeration. -/
abbrev Enumerant := Nat

namespace Enumerant

/-! ## Errors -/

def noError : Enumerant := 0
def invalidEnum : Enumerant := 0x0500
def invalidValue : Enumerant := 0x0501
def invalidOperation : Enumerant := 0x0502
def stackOverflow : Enumerant := 0x0503
def stackUnderflow : Enumerant := 0x0504
def outOfMemory : Enumerant := 0x0505
def invalidFramebufferOperation : Enumerant := 0x0506

/-! ## Parameters of the context -/

def maxCombinedTextureImageUnits : Enumerant := 0x8B4D
def packRowLength : Enumerant := 0x0D02
def packSkipRows : Enumerant := 0x0D03
def packSkipPixels : Enumerant := 0x0D04
def packAlignment : Enumerant := 0x0D05
def packSkipImages : Enumerant := 0x806B
def packImageHeight : Enumerant := 0x806C
def unpackRowLength : Enumerant := 0x0CF2
def unpackSkipRows : Enumerant := 0x0CF3
def unpackSkipPixels : Enumerant := 0x0CF4
def unpackAlignment : Enumerant := 0x0CF5
def unpackSkipImages : Enumerant := 0x806D
def unpackImageHeight : Enumerant := 0x806E

/-! ## Bases of numbered ranges and fixed targets -/

def texture0 : Enumerant := 0x84C0
def colorAttachment0 : Enumerant := 0x8CE0
def renderbuffer : Enumerant := 0x8D41

/-! ## Completeness of framebuffers -/

def framebufferUndefined : Enumerant := 0x8219
def framebufferComplete : Enumerant := 0x8CD5
def framebufferIncompleteAttachment : Enumerant := 0x8CD6
def framebufferMissingAttachment : Enumerant := 0x8CD7
def framebufferIncompleteDrawBuffer : Enumerant := 0x8CDB
def framebufferIncompleteReadBuffer : Enumerant := 0x8CDC
def framebufferUnsupported : Enumerant := 0x8CDD
def framebufferIncompleteMultisample : Enumerant := 0x8D56
def framebufferIncompleteLayerTargets : Enumerant := 0x8DA8

/-! ## Parameters of textures -/

def textureMagFilter : Enumerant := 0x2800
def textureMinFilter : Enumerant := 0x2801
def textureWrapS : Enumerant := 0x2802
def textureWrapT : Enumerant := 0x2803
def textureWrapR : Enumerant := 0x8072

/-! ## Parameters of shaders and programs -/

def compileStatus : Enumerant := 0x8B81
def linkStatus : Enumerant := 0x8B82
def validateStatus : Enumerant := 0x8B83
def infoLogLength : Enumerant := 0x8B84
def attachedShaders : Enumerant := 0x8B85
def activeUniforms : Enumerant := 0x8B86
def activeUniformMaxLength : Enumerant := 0x8B87
def activeAttributes : Enumerant := 0x8B89
def activeAttributeMaxLength : Enumerant := 0x8B8A

/-! ## Component types -/

def byte : Enumerant := 0x1400
def unsignedByte : Enumerant := 0x1401
def short : Enumerant := 0x1402
def unsignedShort : Enumerant := 0x1403
def int : Enumerant := 0x1404
def unsignedInt : Enumerant := 0x1405
def float : Enumerant := 0x1406
def halfFloat : Enumerant := 0x140B

/-! ## Types of shader variables -/

def floatVec2 : Enumerant := 0x8B50
def floatVec3 : Enumerant := 0x8B51
def floatVec4 : Enumerant := 0x8B52
def intVec2 : Enumerant := 0x8B53
def intVec3 : Enumerant := 0x8B54
def intVec4 : Enumerant := 0x8B55
def floatMat3 : Enumerant := 0x8B5B
def floatMat4 : Enumerant := 0x8B5C
def sampler2D : Enumerant := 0x8B5E
def samplerCube : Enumerant := 0x8B60

/-! ## Pixel types that hold a whole pixel -/

def unsignedByte332 : Enumerant := 0x8032
def unsignedByte233Rev : Enumerant := 0x8362
def unsignedShort565 : Enumerant := 0x8363
def unsignedShort565Rev : Enumerant := 0x8364
def unsignedShort4444 : Enumerant := 0x8033
def unsignedShort4444Rev : Enumerant := 0x8365
def unsignedShort5551 : Enumerant := 0x8034
def unsignedShort1555Rev : Enumerant := 0x8366
def unsignedInt8888 : Enumerant := 0x8035
def unsignedInt8888Rev : Enumerant := 0x8367
def unsignedInt1010102 : Enumerant := 0x8036
def unsignedInt2101010Rev : Enumerant := 0x8368
def unsignedInt248 : Enumerant := 0x84FA
def unsignedInt10f11f11fRev : Enumerant := 0x8C3B
def unsignedInt5999Rev : Enumerant := 0x8C3E
def float32UnsignedInt248Rev : Enumerant := 0x8DAD

/-! ## Pixel formats -/

def stencilIndex : Enumerant := 0x1901
def depthComponent : Enumerant := 0x1902
def red : Enumerant := 0x1903
def green : Enumerant := 0x1904
def blue : Enumerant := 0x1905
def rgb : Enumerant := 0x1907
def rgba : Enumerant := 0x1908
def bgr : Enumerant := 0x80E0
def bgra : Enumerant := 0x80E1
def rg : Enumerant := 0x8227
def rgInteger : Enumerant := 0x8228
def depthStencil : Enumerant := 0x84F9
def redInteger : Enumerant := 0x8D94
def greenInteger : Enumerant := 0x8D95
def blueInteger : Enumerant := 0x8D96
def rgbInteger : Enumerant := 0x8D98
def rgbaInteger : Enumerant := 0x8D99
def bgrInteger : Enumerant := 0x8D9A
def bgraInteger : Enumerant := 0x8D9B

end Enumerant

end GraphicsObjects
