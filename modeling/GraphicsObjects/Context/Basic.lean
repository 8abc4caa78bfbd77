import GraphicsObjects.Binding.Cache
import GraphicsObjects.Driver.Request

/-!
A context over a driver: it issues binds that are needed, polls errors, and creates and destroys
objects. Work in a context is a state transformer; guards keep an object bound while an operation
runs and restore what was bound before.
-/

namespace GraphicsObjects

/-- What a context keeps for itself. -/
structure Bookkeeping where
  config : Config
  cache : BindingCache := .fresh
  /-- The error that was logged last, and where. -/
  lastError : Option (DriverError × Site) := none
  /-- The number of texture units, once it has been asked for. -/
  textureUnits : Option Nat := none
  deriving DecidableEq, Inhabited

/-- A context with its driver and the log so far. -/
structure Context (δ : Type) extends Bookkeeping where
  driver : δ
  trace : List Event := []
  deriving DecidableEq

/-- Work in a context. -/
abbrev ContextM (δ : Type) := StateM (Context δ)

variable {δ : Type} {α : Type} [Driver δ]

/-- A context over a driver, with nothing bound yet. -/
def Context.new (driver : δ) (config : Config) : Context δ :=
  { config, driver, trace := [.creatingContext config] }

namespace ContextM

/-- Hands a request to the driver. -/
def perform (r : Request) : ContextM δ r.Answer := fun s =>
  let reply := Driver.perform r s.driver
  (reply.answer, { s with driver := reply.driver, trace := s.trace ++ reply.events })

omit [Driver δ] in
/-- Logs an event. -/
def note (e : Event) : ContextM δ Unit := modify fun s => { s with trace := s.trace ++ [e] }

omit [Driver δ] in
/-- Changes what the context believes to be bound. -/
def updateCache (f : BindingCache → BindingCache) : ContextM δ Unit :=
  modify fun s => { s with cache := f s.cache }

/-! ## Errors -/

/-- Takes the oldest pending error of the driver. -/
def pollError : ContextM δ (Option DriverError) := do
  let code : Enumerant ← perform .getError
  pure (DriverError.ofCode? code)

omit [Driver δ] in
/-- Logs an error, unless it is the one logged last and at the same site. -/
def reportError (error : DriverError) (site : Site) : ContextM δ Unit := do
  let last := (← get).lastError
  modify fun s => { s with lastError := some (error, site) }
  if last = some (error, site) then pure () else note (.driverError error site)

/-- Polls and logs a pending error, if the context checks errors. -/
def checkError (site : Site) : ContextM δ Unit := do
  if (← get).config.checkErrors then
    match ← pollError with
    | some error => reportError error site
    | none => pure ()

/-- A request with a check for errors after it. -/
def command (r : Request) (site : Site) : ContextM δ r.Answer := do
  let a ← perform r
  checkError site
  pure a

/-! ## Binding -/

/-- Binds `id` to a slot, unless the cache may be trusted and knows that it is bound. -/
def bindSlot (slot : Slot) (id : Id) : ContextM δ Unit := do
  let s ← get
  if s.config.cacheBindings && s.cache.isActive slot id then note (.bindElided slot id)
  else
    note (.bind slot id)
    perform (.bind slot id)
    updateCache (·.setActive slot id)

/-- Binds `id` to a slot. For a texture slot its unit is made active first, even if the texture is
bound already: commands work on the active unit. -/
def bind (slot : Slot) (id : Id) : ContextM δ Unit := do
  if let .texture unit _ := slot then bindSlot .activeTexture unit
  bindSlot slot id

/-- Restores the default object of a slot. -/
def unbind (slot : Slot) : ContextM δ Unit := bind slot 0

omit [Driver δ] in
def activeBinding (slot : Slot) : ContextM δ Id := do pure ((← get).cache.getActive slot)

omit [Driver δ] in
def isBound (slot : Slot) (id : Id) : ContextM δ Bool := do pure ((← get).cache.isActive slot id)

omit [Driver δ] in
/-- Marks the binding of a slot as unknown, as after a foreign bind. -/
def invalidateBinding (slot : Slot) : ContextM δ Unit := updateCache (·.invalidate slot)

omit [Driver δ] in
/-- Marks all bindings as unknown. -/
def invalidateBindings : ContextM δ Unit := do
  note .invalidatingBindings
  updateCache (·.invalidateAll)

end ContextM

/-! ## Guards -/

/-- A binding that is held. `previous` is what was bound before, if that was known. -/
structure Guard where
  slot : Slot
  previous : Option Id
  restore : Bool
  deriving DecidableEq

namespace ContextM

/-- Binds `id` to a slot until the guard is released. -/
def acquire (slot : Slot) (id : Id) : ContextM δ Guard := do
  let s ← get
  bind slot id
  pure { slot, previous := s.cache.knownBinding slot, restore := s.config.strictUnbind }

/-- Restores the previous binding, if guards restore and it was known. -/
def release (g : Guard) : ContextM δ Unit :=
  match g.previous with
  | some id => if g.restore then bind g.slot id else pure ()
  | none => pure ()

/-- Runs `act` with `id` bound to a slot. -/
def holding (slot : Slot) (id : Id) (act : ContextM δ α) : ContextM δ α := do
  let g ← acquire slot id
  let a ← act
  release g
  pure a

/-- What remains of an operation that fails while it holds a binding: the binding is released. -/
def interrupted (slot : Slot) (id : Id) : ContextM δ Unit := holding slot id (pure ())

/-! ## Queries -/

def getInteger (parameter : Enumerant) : ContextM δ Int := perform (.getInteger parameter)

/-- The number of texture units, which is asked for once. -/
def maxTextureUnits : ContextM δ Nat := do
  match (← get).textureUnits with
  | some n => pure n
  | none =>
    let n := (← getInteger Enumerant.maxCombinedTextureImageUnits).toNat
    modify fun s => { s with textureUnits := some n }
    pure n

def pixelStore (direction : PixelDirection) : ContextM δ PixelStore :=
  PixelStore.query getInteger direction

/-! ## Lifetime of objects -/

/-- What creation gives: a name, or a failure where the driver gave none. -/
def created (kind : Kind) (id : Id) (event : Event) : ContextM δ (Except Failure Id) := do
  if id = 0 then pure (.error (.creationFailed kind))
  else
    note event
    pure (.ok id)

/-- Creates an object of a kind whose names come in batches. -/
def createObject (kind : Kind) : ContextM δ (Except Failure Id) := do
  let ids : List Id ← command (.genObjects kind [0]) .creatingObject
  let id := ids.headD 0
  created kind id (.createdObject kind id)

def createShader (stage : ShaderStage) : ContextM δ (Except Failure Id) := do
  let id : Id ← command (.createShader stage) .creatingShader
  created .shader id (.createdShader stage id)

def createProgram : ContextM δ (Except Failure Id) := do
  let id : Id ← command .createProgram .creatingProgram
  created .program id (.createdProgram id)

/-- The request that deletes one object. -/
def deleteRequest (kind : Kind) (id : Id) : Request :=
  match kind with
  | .shader => .deleteShader id
  | .program => .deleteProgram id
  | _ => .deleteObjects kind [id]

/-- Deletes an object and forgets where it was bound. -/
def destroy (kind : Kind) (id : Id) : ContextM δ Unit := do
  let _ ← perform (deleteRequest kind id)
  note (.deletedObject kind id)
  updateCache (·.forgetObject kind id)
  checkError .deletingObject

/-! ## State of the context -/

/-- Clears buffers of the current draw framebuffer. -/
def clear (mask : ClearMask) : ContextM δ Unit := command (.clear mask) .clearing

def clearColor (color : Vector Single 4) : ContextM δ Unit :=
  command (.clearColor color) .settingClearColor

def viewport (x y width height : Int) : ContextM δ Unit :=
  command (.viewport x y width height) .settingViewport

end ContextM

end GraphicsObjects
