import PageCapture.Bitmap.Basic

/-!
# Hosts

A host is what shows the document: it has windows that can be measured, resized and drawn, a
document on display, and a layout that reports on it. The three roles are `WindowSystem`,
`DisplayedDocument` and `Surface`; `Host` plays all of them over one world with states `σ`. It knows
its windows by number, of which zero names none, and it may refuse what it is asked: a call fails, a
window is not there, or the host cannot do such a thing at all (`HostError`).

Nothing is assumed of the replies. Asked twice, a host may answer differently, it may refuse, and a
call may end with a fault.

`Host.recorded` is a host that keeps a list of the calls made to its windows and its layout, beside
the state of the host that answers them. A call is listed when it is made, so that one which ends
with a fault is listed too. Questions that change nothing and depend on nothing, such as which
windows there are, are not listed.
-/

set_option autoImplicit false
set_option relaxedAutoImplicit false

namespace PageCapture

/-! ### Window handles -/

/-- The number of a window. -/
structure WindowHandle where
  number : Int64
  deriving DecidableEq, Repr, Inhabited

namespace WindowHandle

/-- Whether the handle is the one that names no window. -/
def isNull (handle : WindowHandle) : Bool := handle.number = 0

/-- The numeral of a handle. -/
def numeral (handle : WindowHandle) : String := Decimal.numeral handle.number.toInt

/-- A handle as it stands in a message. -/
def text (handle : WindowHandle) : String := "WindowHandle(" ++ handle.numeral ++ ")"

end WindowHandle

/-! ### Errors of a host -/

/-- Why a host did not do what it was asked. -/
inductive HostError where
  /-- A call of the host failed, with a message of its own. -/
  | call (name : String) (message : String)
  /-- There is no window with this handle. -/
  | noSuchWindow (handle : WindowHandle)
  /-- The host has no means for this. -/
  | unsupported (what : String)
  deriving DecidableEq, Repr

/-- The wording of an error. -/
def HostError.message : HostError → String
  | .call name message => name ++ " failed: " ++ message
  | .noSuchWindow handle => "window " ++ handle.text ++ " does not exist"
  | .unsupported what => what ++ " is not supported on this platform"

/-- The answer where native windows cannot be captured. -/
def nativeCaptureUnsupported : HostError := .unsupported "native window capture"

/-! ### The roles of a host -/

/-- Windows that can be measured, resized and drawn. -/
structure WindowSystem (σ : Type) where
  /-- The size of a window's frame. -/
  windowSize : WindowHandle → Action σ (Except HostError Size)
  /-- Gives a frame a size without moving, raising or activating the window. -/
  setWindowSize : WindowHandle → Size → Action σ (Except HostError Unit)
  isMaximized : WindowHandle → Action σ Bool
  /-- Takes a window out of the maximized state without activating it. -/
  showRestored : WindowHandle → Action σ Unit
  maximize : WindowHandle → Action σ Unit
  /-- The format of the bitmaps that windows are drawn into. -/
  pixelFormat : Action σ PixelFormat
  /-- Draws what a window shows into a bitmap; a refusal may leave the bitmap changed too. -/
  print : WindowHandle → Bitmap → Action σ (Except HostError Unit × Bitmap)
  /-- Has a window painted anew before it is drawn again. -/
  redraw : WindowHandle → Action σ Unit

/-- The layout of the document on display. -/
structure DisplayedDocument (σ : Type) where
  isStandardsMode : Action σ Bool
  /-- Whether the document has a canvas at all. -/
  hasElement : Canvas → Action σ Bool
  /-- What the layout says about a canvas. -/
  metrics : Canvas → Action σ (Except HostError LayoutMetrics)
  /-- Has pending layout work done. -/
  forceRecalculate : Bool → Action σ (Except HostError Unit)

/-- The windows of the document on display. -/
structure Surface (σ : Type) where
  /-- The window whose frame is resized. -/
  topLevelWindow : Action σ (Option WindowHandle)
  /-- The window that shows the document. -/
  contentWindow : Action σ (Option WindowHandle)
  /-- Whether a document is loaded. -/
  hasDocument : Action σ Bool

/-- A window system, a document and the windows that show it, over one world. -/
structure Host (σ : Type) extends WindowSystem σ, DisplayedDocument σ, Surface σ

/-! ### Recorded hosts -/

/-- A call to the windows or the layout of a host. -/
inductive Call where
  | windowSize (handle : WindowHandle)
  | setWindowSize (handle : WindowHandle) (size : Size)
  | isMaximized (handle : WindowHandle)
  | showRestored (handle : WindowHandle)
  | maximize (handle : WindowHandle)
  /-- Drawing into a bitmap of a size. -/
  | print (handle : WindowHandle) (width height : UInt32)
  | redraw (handle : WindowHandle)
  | metrics (canvas : Canvas)
  | forceRecalculate (force : Bool)
  deriving DecidableEq, Repr

/-- Whether a call changes the geometry of a window. -/
def Call.changesGeometry : Call → Bool
  | setWindowSize .. | showRestored _ | maximize _ => true
  | _ => false

/-- The state of a host and the calls made to it, the last one first. -/
structure Recording (σ : Type) where
  host : σ
  calls : List Call := []

namespace Recording

variable {σ α : Type}

/-- Lists a call, then makes it. -/
def making (call : Call) (action : Action σ α) : Action (Recording σ) α :=
  Action.ofResults fun state ↦
    let ends := action.results state.host
    (ends.1, { host := ends.2, calls := call :: state.calls })

/-- Asks what is not listed. -/
def asking (action : Action σ α) : Action (Recording σ) α :=
  Action.zoom Recording.host (fun host state ↦ { state with host }) action

end Recording

/-- The host that keeps a list of the calls made to another. -/
def Host.recorded {σ : Type} (host : Host σ) : Host (Recording σ) where
  windowSize handle := Recording.making (.windowSize handle) (host.windowSize handle)
  setWindowSize handle size :=
    Recording.making (.setWindowSize handle size) (host.setWindowSize handle size)
  isMaximized handle := Recording.making (.isMaximized handle) (host.isMaximized handle)
  showRestored handle := Recording.making (.showRestored handle) (host.showRestored handle)
  maximize handle := Recording.making (.maximize handle) (host.maximize handle)
  pixelFormat := Recording.asking host.pixelFormat
  print handle bitmap :=
    Recording.making (.print handle bitmap.width bitmap.height) (host.print handle bitmap)
  redraw handle := Recording.making (.redraw handle) (host.redraw handle)
  isStandardsMode := Recording.asking host.isStandardsMode
  hasElement canvas := Recording.asking (host.hasElement canvas)
  metrics canvas := Recording.making (.metrics canvas) (host.metrics canvas)
  forceRecalculate force :=
    Recording.making (.forceRecalculate force) (host.forceRecalculate force)
  topLevelWindow := Recording.asking host.topLevelWindow
  contentWindow := Recording.asking host.contentWindow
  hasDocument := Recording.asking host.hasDocument

end PageCapture
