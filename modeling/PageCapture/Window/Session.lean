import PageCapture.Host.Basic

/-!
# Resize sessions

A resize is silent: the window does not report whether it took the size. So the size is read back,
and `resize` tells whether it is the one asked for. `restoreWindow` puts a window back into the
state that a capture found it in.

For the time of one attempt a capture holds the geometry of a window in a session. The session
begins with the size of the frame and the maximized state as they are; nothing has been changed
then. When it is closed the window is put back, unless it was never changed.

`ResizeSession.during` runs a computation while a session is held and closes the session whichever
way the computation ends, a fault included. So that a fault cannot lose what the session knows, a
computation that holds a session runs over states that contain it (`Held`).
-/

set_option autoImplicit false
set_option relaxedAutoImplicit false

namespace PageCapture

/-! ### Resizing windows -/

variable {σ : Type}

/-- Gives a frame a size, and tells whether the window reports that very size afterwards. -/
def resize (windows : WindowSystem σ) (handle : WindowHandle) (size : Size) : Action σ Bool := do
  match ← windows.setWindowSize handle size with
  | .error _ => return false
  | .ok _ =>
    match ← windows.windowSize handle with
    | .error _ => return false
    | .ok observed => return observed = size

/-- Maximizes a window that was maximized; gives any other its size back. -/
def restoreWindow (windows : WindowSystem σ) (handle : WindowHandle) (initial : Size)
    (wasMaximized : Bool) : Action σ Unit := do
  if wasMaximized then windows.maximize handle
  else
    let _ ← resize windows handle initial

/-! ### Sessions -/

/-- The hold on a window's geometry. -/
structure ResizeSession where
  handle : WindowHandle
  /-- The size of the frame when the session began. -/
  initial : Size
  /-- Whether the window was maximized when the session began. -/
  wasMaximized : Bool
  /-- Whether the window has been taken out of the maximized state. -/
  demaximized : Bool := false
  /-- Whether the window has been resized. -/
  resized : Bool := false
  deriving DecidableEq, Repr

/-- The state of a host while a session is held. -/
structure Held (σ : Type) where
  session : ResizeSession
  host : σ

namespace Held

variable {α : Type}

/-- Asks something of the host. -/
def asking (action : Action σ α) : Action (Held σ) α :=
  Action.zoom Held.host (fun host state ↦ { state with host }) action

/-- The session as it is now. -/
def current : Action (Held σ) ResizeSession := Action.inspect Held.session

/-- Changes what the session knows. -/
def note (change : ResizeSession → ResizeSession) : Action (Held σ) Unit :=
  Action.change fun state ↦ { state with session := change state.session }

/-- Takes a maximized window out of that state, unless that has been done already. -/
def leaveMaximized (windows : WindowSystem σ) : Action (Held σ) Unit := do
  let session ← current
  if session.wasMaximized && !session.demaximized then
    asking (windows.showRestored session.handle)
    note fun session ↦ { session with demaximized := true }

/-- Resizes the frame. A maximized window ignores sizes, so it is taken out of that state before
its first resize. -/
def resizeTo (windows : WindowSystem σ) (size : Size) : Action (Held σ) Bool := do
  leaveMaximized windows
  note fun session ↦ { session with resized := true }
  let session ← current
  asking (resize windows session.handle size)

end Held

namespace ResizeSession

variable {α : Type}

/-- Begins a session on a window, unless its size cannot be had. -/
def begin (windows : WindowSystem σ) (handle : WindowHandle) :
    Action σ (Except HostError ResizeSession) := do
  match ← windows.windowSize handle with
  | .error error => return .error error
  | .ok initial => return .ok { handle, initial, wasMaximized := ← windows.isMaximized handle }

/-- Whether there is anything to put back. -/
def isMutated (session : ResizeSession) : Bool := session.demaximized || session.resized

/-- Ends a session: a window that was changed is put back. -/
def close (windows : WindowSystem σ) (session : ResizeSession) : Action σ Unit := do
  if session.isMutated then
    restoreWindow windows session.handle session.initial session.wasMaximized

/-- Runs a computation while a session is held and closes the session whichever way it ends. A
fault of the computation stays the outcome, also where closing ends with a fault of its own. -/
def during (windows : WindowSystem σ) (session : ResizeSession) (body : Action (Held σ) α) :
    Action σ α :=
  Action.ofResults fun state ↦
    let ends := body.results ⟨session, state⟩
    let closed := (ends.2.session.close windows).results ends.2.host
    match ends.1, closed.1 with
    | .error fault, _ => (.error fault, closed.2)
    | .ok _, .error fault => (.error fault, closed.2)
    | .ok value, .ok _ => (.ok value, closed.2)

end ResizeSession

end PageCapture
