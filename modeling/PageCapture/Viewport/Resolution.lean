import PageCapture.Screenshot.Response
import PageCapture.Window.Session

/-!
# Resolving the viewport

The frame is grown until the document's canvas fits into the viewport: first its width, then, on
the layout which that produced, its height. A layout may follow a resize with delay, so after
growing the client area is read until every grown side has a new length, a recalculation being
forced after each read that shows an old one. There are at most two such reads, and the last one
counts whatever it shows.
-/

set_option autoImplicit false
set_option relaxedAutoImplicit false

namespace PageCapture

variable {σ : Type}

/-- The sizes that a resolution arrives at. -/
structure TargetDimensions where
  window : Size
  view : Size
  client : Size
  deriving DecidableEq, Repr

/-- What a resolution finds out. -/
structure ResolvedViewport where
  dimensions : TargetDimensions
  /-- The client area before anything was resized, its height as the new width left it. -/
  initialClient : Size
  /-- Whether the frame was resized. -/
  resized : Bool
  deriving DecidableEq, Repr

/-- The greatest number of reads of the client area after growing. -/
def settleAttempts : Nat := 2

/-- The part of an attempt that holds a session: it may fail with an error of the capture. -/
abbrev Attempt (σ α : Type) : Type := ExceptT CaptureError (Action (Held σ)) α

namespace Attempt

variable {α : Type}

/-- What the host replies; an error of the host is one of the attempt. -/
def ask (action : Action σ (Except HostError α)) : Attempt σ α := do
  match ← ExceptT.lift (Held.asking action) with
  | .ok reply => return reply
  | .error error => throw (.ofHostError error)

/-- The value of a checked computation. -/
def check (computed : Except Fault α) : Attempt σ α :=
  ExceptT.lift (Action.check computed)

/-- An action under the session, whatever it replies. -/
def act (action : Action (Held σ) α) : Attempt σ α := ExceptT.lift action

end Attempt

/-- Gives the frame a size where an axis needs it. -/
def growTo (windows : WindowSystem σ) (needed : Bool) (size : Size) : Attempt σ Unit := do
  if needed then
    let _ ← Attempt.act (Held.resizeTo windows size)

/-- Reads the client area until every side that was resized differs from what it was. `attempts`
is the number of reads left, and `force` whether the next recalculation is a forced one. -/
def settleFrom (document : DisplayedDocument σ) (canvas : Canvas) (initial : Size)
    (resizedWidth resizedHeight : Bool) :
    (attempts : Nat) → (force : Bool) → (client : Size) → Attempt σ Size
  | 0, _, client => return client
  | attempts + 1, force, _ => do
    let client := (← Attempt.ask (document.metrics canvas)).client
    let widthSettled := !resizedWidth || client.width != initial.width
    let heightSettled := !resizedHeight || client.height != initial.height
    if widthSettled && heightSettled then return client
    let _ ← Attempt.act (Held.asking (document.forceRecalculate force))
    settleFrom document canvas initial resizedWidth resizedHeight attempts true client

/-- The client area once the layout has followed the resizes. -/
def settleClientSize (document : DisplayedDocument σ) (canvas : Canvas) (initial : Size)
    (resizedWidth resizedHeight : Bool) : Attempt σ Size :=
  if !resizedWidth && !resizedHeight then return initial
  else settleFrom document canvas initial resizedWidth resizedHeight settleAttempts false initial

/-- Grows the frame held by the session until the canvas fits into a viewport that is `view` in
size now. -/
def resolveViewport (windows : WindowSystem σ) (document : DisplayedDocument σ)
    (options : CaptureOptions) (canvas : Canvas) (view : Size) : Attempt σ ResolvedViewport := do
  let frame := (← Attempt.act Held.current).initial
  let initial ← Attempt.ask (document.metrics canvas)
  let width ← Attempt.check (planAxis
    ⟨frame.width, view.width, initial.client.width, initial.scroll.width⟩
    options.maxDimension 0)
  let widened : Size := { frame with width := width.targetWindow }
  growTo windows width.needsResize widened
  let afterWidth ← Attempt.ask (document.metrics canvas)
  let retention := if 0 < width.scrollbar then options.scrollbarRetention else 0
  let height ← Attempt.check (planAxis
    ⟨frame.height, view.height, afterWidth.client.height, afterWidth.scroll.height⟩
    options.maxDimension retention)
  let window : Size := { widened with height := height.targetWindow }
  growTo windows height.needsResize window
  let initialClient : Size := ⟨initial.client.width, afterWidth.client.height⟩
  let settled ← settleClientSize document canvas initialClient width.needsResize height.needsResize
  let targetView : Size := ⟨width.targetView, height.targetView⟩
  let client := if settled.width < 1 ∨ settled.height < 1 then targetView else settled
  return {
    dimensions := { window, view := targetView, client }
    initialClient
    resized := width.needsResize || height.needsResize }

end PageCapture
