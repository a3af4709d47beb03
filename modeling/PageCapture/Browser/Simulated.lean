import PageCapture.Screenshot.Capture

/-!
# A simulated browser

A host that lives in memory and plays every role at once: it owns a frame, a window for the content
and a document, and keeps their sizes together as a layout engine would. A `Scenario` says where it
starts, the sizes of its frame, its viewport and its document, and how it misbehaves: the layout may
lag behind resizes, drawings may fail or stay blank, and the frame may refuse to grow.

`SimulatedBrowser.start` begins a scenario and `SimulatedBrowser.host` is the host. Beside its
state the browser keeps a log of the calls that changed or drew something. `simulateScreenshot` is a
screenshot of a browser that has just been started.
-/

set_option autoImplicit false
set_option relaxedAutoImplicit false

namespace PageCapture

/-! ### Scenarios -/

/-- What comes of drawing the content window once. -/
inductive PaintOutcome where
  /-- The drawing is refused. -/
  | fail
  /-- Every pixel is blank. -/
  | blank
  /-- The document is drawn. -/
  | painted
  deriving DecidableEq, Repr

/-- The start of a simulated browser. -/
structure Scenario where
  /-- The size of the frame. -/
  window : Size := ⟨1024, 768⟩
  /-- What the frame has more than the viewport. -/
  chrome : Size := ⟨24, 68⟩
  /-- What the viewport has more than the client area. -/
  clientInsets : Size := ⟨17, 17⟩
  /-- The extent of the document. -/
  content : Size := ⟨600, 400⟩
  standardsMode : Bool := true
  maximized : Bool := false
  /-- The size of the frame once it has left the maximized state. -/
  restoredWindow : Option Size := none
  /-- The greatest frame; a greater one that is asked for is cut to it. -/
  maxWindow : Option Size := none
  /-- The number of recalculations until the layout follows a resize. -/
  layoutLag : UInt32 := 0
  /-- What comes of the first drawings; after them every drawing succeeds. -/
  paint : List PaintOutcome := []
  hasWindow : Bool := true
  hasDocument : Bool := true
  hasCanvas : Bool := true
  /-- Whether every question for the size of a window is refused. -/
  windowSizeFails : Bool := false
  deriving DecidableEq, Repr

/-- A document taller than its viewport. -/
def Scenario.tallDocument : Scenario where
  window := ⟨1024, 768⟩
  chrome := ⟨24, 68⟩
  clientInsets := ⟨200, 100⟩
  content := ⟨800, 1200⟩

/-! ### The browser -/

/-- The calls that a simulated browser has seen. No reply depends on them, and so the counts alone
are not checked: one that passes the greatest number of 32 bits starts again at zero. -/
structure CallLog where
  /-- The sizes asked for, in order. -/
  resizes : List Size := []
  demaximizeCalls : UInt32 := 0
  maximizeCalls : UInt32 := 0
  prints : UInt32 := 0
  redraws : UInt32 := 0
  /-- Whether each recalculation was a forced one, in order. -/
  recalculations : List Bool := []
  deriving DecidableEq, Repr

/-- The state of a simulated browser. -/
structure SimulatedBrowser where
  scenario : Scenario
  frame : Size
  maximized : Bool
  /-- The frame that the window takes when it is maximized. -/
  maximizedFrame : Size
  /-- The frame that the window takes when it leaves the maximized state. -/
  restoredFrame : Size
  /-- The viewport that the document was last laid out for. -/
  laidOutViewport : Size
  /-- The number of recalculations until the layout follows the frame. -/
  pendingRecalculations : Nat := 0
  /-- What comes of the next drawings. -/
  paint : List PaintOutcome
  log : CallLog := {}
  deriving DecidableEq, Repr

namespace SimulatedBrowser

/-- The handle of the frame. -/
def frameWindow : WindowHandle := ⟨16⟩

/-- The handle of the window for the content. -/
def contentWindow : WindowHandle := ⟨32⟩

/-- The value of a pixel that nothing was drawn into. -/
def blankPixel : UInt32 := 0xFFFFFFFF

/-- The value of a pixel of the drawn document: red shows the column, green the row and blue the
two mixed, all modulo 256. -/
def paintedPixel (x y : Nat) : UInt32 :=
  UInt32.ofNat (0xFF000000 + x % 256 * 65536 + y % 256 * 256 + (x ^^^ y) % 256)

/-- The viewport of a frame: what the chrome leaves, and never less than nothing. -/
def viewportOf (frame chrome : Size) : Except Fault Size := do
  let width := max (← Checked.subtract frame.width chrome.width) 0
  let height := max (← Checked.subtract frame.height chrome.height) 0
  return ⟨width, height⟩

/-- The browser at the start of a scenario. -/
def start (scenario : Scenario) : Except Fault SimulatedBrowser := do
  let laidOutViewport ← viewportOf scenario.window scenario.chrome
  return {
    scenario
    frame := scenario.window
    maximized := scenario.maximized
    maximizedFrame := scenario.window
    restoredFrame := scenario.restoredWindow.getD scenario.window
    laidOutViewport
    paint := scenario.paint }

/-- The viewport of the frame as it is. -/
def viewport : Action SimulatedBrowser Size :=
  Action.ofResults fun browser ↦ (viewportOf browser.frame browser.scenario.chrome, browser)

/-- Changes the log. -/
def note (change : CallLog → CallLog) : Action SimulatedBrowser Unit :=
  Action.change fun browser ↦ { browser with log := change browser.log }

/-- What the layout knows once the frame has a new viewport: without lag it follows at once,
otherwise only after as many recalculations as the lag says. -/
def layOut (viewport : Size) (browser : SimulatedBrowser) : SimulatedBrowser :=
  if browser.scenario.layoutLag = 0 then { browser with laidOutViewport := viewport }
  else { browser with pendingRecalculations := browser.scenario.layoutLag.toNat }

/-- Gives the frame a size. The size is taken before the viewport is computed. -/
def applyFrame (frame : Size) : Action SimulatedBrowser Unit := do
  let browser ← Action.inspect id
  if browser.frame ≠ frame then
    Action.change fun browser ↦ { browser with frame }
    let viewport ← viewport
    Action.change (layOut viewport)

/-- Does something to a window, if the handle is one of the browser's. -/
def onWindow {α : Type} (handle : WindowHandle)
    (action : Action SimulatedBrowser (Except HostError α)) :
    Action SimulatedBrowser (Except HostError α) :=
  if handle = frameWindow ∨ handle = contentWindow then action
  else return .error (.noSuchWindow handle)

/-- The size of the frame or of the viewport. -/
def windowSize (handle : WindowHandle) : Action SimulatedBrowser (Except HostError Size) :=
  onWindow handle do
    let browser ← Action.inspect id
    if browser.scenario.windowSizeFails then
      return .error (.call "GetWindowRect" "simulated failure")
    else if handle = contentWindow then return .ok (← viewport)
    else return .ok browser.frame

/-- The part of a size that a greatest size allows. -/
def cut (limit? : Option Size) (size : Size) : Size :=
  match limit? with
  | none => size
  | some limit => ⟨min size.width limit.width, min size.height limit.height⟩

/-- Resizes the frame, whichever window is named. A maximized window ignores it. -/
def setWindowSize (handle : WindowHandle) (size : Size) :
    Action SimulatedBrowser (Except HostError Unit) :=
  onWindow handle do
    note fun log ↦ { log with resizes := log.resizes ++ [size] }
    let browser ← Action.inspect id
    if !browser.maximized then applyFrame (cut browser.scenario.maxWindow size)
    return .ok ()

/-- Leaves the maximized state; the frame takes its restored size even where it was not
maximized. -/
def showRestored : Action SimulatedBrowser Unit := do
  note fun log ↦ { log with demaximizeCalls := log.demaximizeCalls + 1 }
  Action.change fun browser ↦ { browser with maximized := false }
  applyFrame (← Action.inspect restoredFrame)

/-- Enters the maximized state; a frame that was not maximized becomes the restored size. -/
def maximize : Action SimulatedBrowser Unit := do
  note fun log ↦ { log with maximizeCalls := log.maximizeCalls + 1 }
  Action.change fun browser ↦
    { browser with
      restoredFrame := if browser.maximized then browser.restoredFrame else browser.frame
      maximized := true }
  applyFrame (← Action.inspect maximizedFrame)

/-- Takes the next outcome of a drawing from the script. -/
def nextPaint : Action SimulatedBrowser PaintOutcome :=
  Action.ofResults fun browser ↦
    match browser.paint with
    | [] => (.ok .painted, browser)
    | outcome :: rest => (.ok outcome, { browser with paint := rest })

/-- Draws the content window. -/
def print (handle : WindowHandle) (bitmap : Bitmap) :
    Action SimulatedBrowser (Except HostError Unit × Bitmap) := do
  if handle ≠ contentWindow then return (.error (.noSuchWindow handle), bitmap)
  else
    note fun log ↦ { log with prints := log.prints + 1 }
    match ← nextPaint with
    | .fail => return (.error (.call "PrintWindow" "simulated failure"), bitmap)
    | .blank => finish ((Bitmap.fill blankPixel).results bitmap)
    | .painted => finish ((Bitmap.paint paintedPixel).results bitmap)
where
  /-- A fault of painting is one of the drawing. -/
  finish (painted : Except Fault Unit × Bitmap) :
      Action SimulatedBrowser (Except HostError Unit × Bitmap) :=
    match painted with
    | (.ok _, bitmap) => return (.ok (), bitmap)
    | (.error fault, _) => Action.check (.error fault)

/-- What the layout says: the client area is what the insets leave of the viewport that was laid
out, and the content is never smaller than it. -/
def metrics : Action SimulatedBrowser (Except HostError LayoutMetrics) := do
  let browser ← Action.inspect id
  let scenario := browser.scenario
  if !scenario.hasCanvas then return .error (.call "clientWidth" "canvas element is gone")
  else
    let laidOut := browser.laidOutViewport
    let client ← Action.check (viewportOf laidOut scenario.clientInsets)
    return .ok {
      client
      scroll :=
        ⟨max scenario.content.width client.width, max scenario.content.height client.height⟩ }

/-- Does one recalculation; the last one that was pending brings the layout up to the frame. -/
def forceRecalculate (force : Bool) : Action SimulatedBrowser (Except HostError Unit) := do
  let viewport ← viewport
  note fun log ↦ { log with recalculations := log.recalculations ++ [force] }
  Action.change fun browser ↦
    match browser.pendingRecalculations with
    | 0 => browser
    | 1 => { browser with pendingRecalculations := 0, laidOutViewport := viewport }
    | pending + 2 => { browser with pendingRecalculations := pending + 1 }
  return .ok ()

/-- Adds outcomes of drawings behind those that are still to come. -/
def scriptPaint (outcomes : List PaintOutcome) : Action SimulatedBrowser Unit :=
  Action.change fun browser ↦ { browser with paint := browser.paint ++ outcomes }

/-- The simulated browser as a host. -/
def host : Host SimulatedBrowser where
  windowSize := windowSize
  setWindowSize := setWindowSize
  isMaximized _ := Action.inspect maximized
  showRestored _ := showRestored
  maximize _ := maximize
  pixelFormat := return .bgra
  print := print
  redraw _ := note fun log ↦ { log with redraws := log.redraws + 1 }
  isStandardsMode := Action.inspect fun browser ↦ browser.scenario.standardsMode
  hasElement _ := Action.inspect fun browser ↦ browser.scenario.hasCanvas
  metrics _ := metrics
  forceRecalculate := forceRecalculate
  topLevelWindow := Action.inspect fun browser ↦
    if browser.scenario.hasWindow then some frameWindow else none
  contentWindow := Action.inspect fun browser ↦
    if browser.scenario.hasWindow then some contentWindow else none
  hasDocument := Action.inspect fun browser ↦ browser.scenario.hasDocument

end SimulatedBrowser

/-! ### Simulated screenshots -/

/-- The answer to a request for a screenshot of a scenario. -/
def simulateScreenshot (options : CaptureOptions) (scenario : Scenario) : Except Fault Response :=
  match SimulatedBrowser.start scenario with
  | .error fault => .error fault
  | .ok browser => ((takeScreenshot SimulatedBrowser.host options).results browser).1

end PageCapture
