import PageCapture.Bitmap.Encoding
import PageCapture.Viewport.Resolution

/-!
# Taking a screenshot

A window is drawn into a new bitmap. Where the host refuses, or what it drew is uniform in the
sample that is checked, the window is asked to paint itself anew and is drawn again, three times at
the most. A uniform picture is still better than none: when the attempts are used up the bitmap
counts if it was drawn at all.

The whole of a request is to find the windows and the canvas, grow the frame, draw the view, put the
frame back and encode the picture. Only a missing window or document makes the request fail. An
attempt that ends in any other error is made a second time, and when that one fails too the answer
is a success without a picture.
-/

set_option autoImplicit false
set_option relaxedAutoImplicit false

namespace PageCapture

/-! ### Drawing a view -/

variable {σ : Type}

/-- The greatest number of times that a window is drawn. -/
def drawAttempts : Nat := 3

/-- Draws a window into a bitmap until the sample is not uniform. `attempts` is the number of
drawings left, and `drawn` whether any has succeeded. -/
def drawFrom (windows : WindowSystem σ) (handle : WindowHandle) (sample : Size) :
    (attempts : Nat) → (drawn : Bool) → (bitmap : Bitmap) → Action σ (Option Bitmap)
  | 0, drawn, bitmap => return if drawn then some bitmap else none
  | attempts + 1, drawn, bitmap => do
    match ← windows.print handle bitmap with
    | (.error _, printed) =>
      windows.redraw handle
      drawFrom windows handle sample attempts drawn printed
    | (.ok _, printed) =>
      if ← Action.check (printed.isUniform sample) then
        windows.redraw handle
        drawFrom windows handle sample attempts true printed
      else return some printed

/-- Draws a window into a new bitmap of a size; the sample of a size is checked. -/
def drawView (windows : WindowSystem σ) (handle : WindowHandle) (size sample : Size) :
    Action σ (Option Bitmap) := do
  match Bitmap.blank? size.width size.height (← windows.pixelFormat) with
  | none => return none
  | some bitmap => drawFrom windows handle sample drawAttempts false bitmap

/-! ### The request -/

/-- What is captured: the frame to resize, the window to draw and the canvas to fit. -/
structure CaptureTarget where
  topLevel : WindowHandle
  content : WindowHandle
  canvas : Canvas
  deriving DecidableEq, Repr

/-- The greatest number of attempts. -/
def captureAttempts : Nat := 2

/-- Whether a handle is given and names a window. -/
def usable (handle? : Option WindowHandle) : Option WindowHandle :=
  handle?.filter fun handle ↦ !handle.isNull

/-- Finds the windows and the canvas. -/
def findTarget (host : Host σ) : Action σ (Except CaptureError CaptureTarget) := do
  let topLevel? := usable (← host.topLevelWindow)
  let content? := usable (← host.contentWindow)
  match topLevel?, content? with
  | some topLevel, some content =>
    if ← host.hasDocument then
      let canvas := Canvas.forMode (← host.isStandardsMode)
      if ← host.hasElement canvas then return .ok { topLevel, content, canvas }
      else
        return .error (.documentUnavailable
          ("Unable to get " ++ canvas.title ++ " canvas from document"))
    else return .error (.documentUnavailable "Unable to get document from browser")
  | _, _ => return .error (.windowUnavailable "No browser window is displaying content")

/-- What an attempt does while it holds its session: resolve the viewport and draw it. -/
def captureHeld (host : Host σ) (options : CaptureOptions) (target : CaptureTarget) :
    Attempt σ Bitmap := do
  let view ← Attempt.ask (host.windowSize target.content)
  let resolved ← resolveViewport host.toWindowSystem host.toDisplayedDocument options
    target.canvas view
  let sampleWidth ← Attempt.check
    (Checked.subtract resolved.initialClient.width options.sampleInset)
  let sampleHeight ← Attempt.check
    (Checked.subtract resolved.initialClient.height options.sampleInset)
  let image? ← Attempt.act (Held.asking (drawView host.toWindowSystem target.content
    resolved.dimensions.client ⟨sampleWidth, sampleHeight⟩))
  match image? with
  | some image => return image
  | none => throw (.degraded "no image could be captured")

/-- One attempt. Whichever way it ends, the frame is put back. -/
def captureOnce (host : Host σ) (options : CaptureOptions) (target : CaptureTarget) :
    Action σ (Except CaptureError Bitmap) := do
  match ← ResizeSession.begin host.toWindowSystem target.topLevel with
  | .error error => return .error (.ofHostError error)
  | .ok session =>
    session.during host.toWindowSystem (captureHeld host options target).run

/-- Makes attempts until one gives a picture; `attempts` is the number of attempts left. A fatal
error is the answer at once, and without a picture the answer is an empty success. -/
def captureFrom (host : Host σ) (options : CaptureOptions) (target : CaptureTarget) :
    (attempts : Nat) → Action σ (Except Response Bitmap)
  | 0 => return .error (.success "")
  | attempts + 1 => do
    match ← captureOnce host options target with
    | .ok image => return .ok image
    | .error error =>
      if error.isFatal then return .error (.error error.status error.message)
      else captureFrom host options target attempts

/-- The answer for a picture: its transport text, or none where it cannot be encoded. -/
def respond (image : Bitmap) : Except Fault Response :=
  match (encode (some image)).run with
  | .error fault => .error fault
  | .ok (.ok encoded) => .ok (.success encoded.text)
  | .ok (.error _) => .ok (.success "")

/-- Captures the whole document that a host displays. -/
def takeScreenshot (host : Host σ) (options : CaptureOptions) : Action σ Response := do
  match ← findTarget host with
  | .error error => return .error error.status error.message
  | .ok target =>
    match ← captureFrom host options target captureAttempts with
    | .error response => return response
    | .ok image => Action.check (respond image)

end PageCapture
