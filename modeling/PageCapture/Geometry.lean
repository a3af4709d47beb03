import PageCapture.Action
import PageCapture.Text

/-!
# Sizes, limits and plans

A size is a width and a height in pixels, of a window's frame, of a viewport or of a document. Sizes
a host reports may be negative. The canvas of a document is the element that defines the extent of
its content; what the host's layout says about it is the size of the part that is in view, and the
size it would take to show all of it without scrolling. `CaptureOptions` are the limits that a
capture keeps to.

`planAxis` says how long one side of the viewport has to be for the content to fit along it. The
thickness of the scroll bar is what the viewport has more than its client area. The side grows to
the length of the content and the scroll bar, but not past the limit, and less the retention; it
never shrinks. The window grows by as much as the viewport.
-/

set_option autoImplicit false
set_option relaxedAutoImplicit false

namespace PageCapture

/-! ### Sizes -/

/-- A width and a height in pixels. -/
structure Size where
  width : Int32
  height : Int32
  deriving DecidableEq, Repr, Inhabited

namespace Size

/-- The text of a size: width, `x`, height. -/
def text (size : Size) : String :=
  Decimal.numeral size.width.toInt ++ "x" ++ Decimal.numeral size.height.toInt

end Size

/-! ### Documents -/

/-- The element that defines the extent of a document's content. -/
inductive Canvas where
  /-- The root element. -/
  | documentElement
  /-- The body element. -/
  | body
  deriving DecidableEq, Repr, Inhabited

/-- The canvas of a document: the root element in standards mode, otherwise the body. -/
def Canvas.forMode (standards : Bool) : Canvas := if standards then .documentElement else .body

/-- The name of a canvas in a message. -/
def Canvas.title : Canvas → String
  | .documentElement => "DocumentElement"
  | .body => "Body"

/-- What the layout says about a canvas; it holds for the layout that it was read from. -/
structure LayoutMetrics where
  /-- The size of the part in view, scroll bars and borders excluded. -/
  client : Size
  /-- The size that shows all of the content. -/
  scroll : Size
  deriving DecidableEq, Repr, Inhabited

/-! ### Options of a capture -/

/-- The limits of a capture, in pixels. -/
structure CaptureOptions where
  /-- The greatest width or height of a picture. -/
  maxDimension : Int32 := 65534
  /-- The band along the right and bottom edges that the check for an undrawn picture leaves out. -/
  sampleInset : Int32 := 17
  /-- What a grown height is short of, so that the vertical scroll bar stays. -/
  scrollbarRetention : Int32 := 2
  deriving DecidableEq, Repr

/-! ### Planning one axis -/

/-- The lengths of one axis before it is planned. -/
structure AxisInput where
  window : Int32
  view : Int32
  client : Int32
  scroll : Int32
  deriving DecidableEq, Repr

/-- The plan for one axis. -/
structure AxisPlan where
  /-- The thickness of the scroll bar. -/
  scrollbar : Int32
  targetView : Int32
  targetWindow : Int32
  /-- Whether the window has to grow. -/
  needsResize : Bool
  /-- Whether the content is longer than the limit. -/
  truncated : Bool
  deriving DecidableEq, Repr

/-- The length of a view that is wanted longer: not past the limit, less the retention, and never
shorter than it is. -/
def targetViewFor (view wanted limit retention : Int32) : Except Fault Int32 :=
  if view < wanted then do
    let allowed := if limit < wanted then limit else wanted
    return max (← Checked.subtract allowed retention) view
  else return wanted

/-- The length of a window whose view gets a new length. -/
def targetWindowFor (window view targetView : Int32) : Except Fault Int32 :=
  if view < targetView then do Checked.add window (← Checked.subtract targetView view)
  else return window

/-- Plans one axis under a limit on the view. The retention is taken off a view that grows, which
keeps a scroll bar in place that would otherwise go and let the content flow anew. -/
def planAxis (input : AxisInput) (limit retention : Int32) : Except Fault AxisPlan := do
  let scrollbar := max (← Checked.subtract input.view input.client) 0
  let wanted := max input.view (saturatingAdd input.scroll scrollbar)
  let targetView ← targetViewFor input.view wanted limit retention
  let targetWindow ← targetWindowFor input.window input.view targetView
  return {
    scrollbar
    targetView
    targetWindow
    needsResize := decide (input.view < targetView)
    truncated := decide (input.view < wanted ∧ limit < wanted) }

end PageCapture
