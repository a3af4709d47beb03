import PageCapture.Host.Basic

/-!
# Scripted hosts

A host that answers from scripts: each kind of call has a list of replies, one of which is used up
by each call, and the last of which is given again and again. It is the means to put a capture in
front of any sequence of replies.
-/

set_option autoImplicit false
set_option relaxedAutoImplicit false

namespace PageCapture

/-- Replies in the order in which they are given; the last one repeats. -/
abbrev Script (α : Type) : Type := List α

namespace Script

variable {α : Type}

/-- The next reply, if there is any, and the script that is left. -/
def next : Script α → Option α × Script α
  | [] => (none, [])
  | [last] => (some last, [last])
  | reply :: following :: rest => (some reply, following :: rest)

end Script

/-- What a drawing does to the bitmap, in the order of the fields. -/
structure Strokes where
  /-- Gives every pixel a value. -/
  fill? : Option UInt32 := none
  /-- Gives pixels their values; those outside the bitmap are left out. -/
  set : List (Nat × Nat × UInt32) := []
  /-- Cuts the data to a length. -/
  truncate? : Option Nat := none
  /-- Replaces the stride. -/
  stride? : Option UInt64 := none
  deriving DecidableEq, Repr

namespace Strokes

/-- Gives a pixel its value if it is inside the bitmap. -/
def dot (point : Nat × Nat × UInt32) : Action Bitmap Unit := do
  let bitmap ← Action.inspect fun bitmap ↦ (bitmap.width.toNat, bitmap.height.toNat)
  if point.1 < bitmap.1 ∧ point.2.1 < bitmap.2 then
    Bitmap.setPixel point.1 point.2.1 point.2.2

/-- What the strokes do to a bitmap. -/
def apply (strokes : Strokes) : Action Bitmap Unit := do
  if let some value := strokes.fill? then Bitmap.fill value
  strokes.set.forM dot
  if let some length := strokes.truncate? then
    Action.change fun bitmap ↦ { bitmap with data := bitmap.data.take length }
  if let some stride := strokes.stride? then
    Action.change fun bitmap ↦ { bitmap with stride }

end Strokes

/-- A host that answers from scripts. -/
structure ScriptedHost where
  topLevel? : Option WindowHandle := some ⟨16⟩
  content? : Option WindowHandle := some ⟨32⟩
  hasDocument : Bool := true
  standards : Bool := true
  elements : List Canvas := [.documentElement, .body]
  pixelFormat : PixelFormat := .bgrx
  /-- The sizes of each window; there is no other window. -/
  sizes : List (WindowHandle × Script (Except HostError Size)) := []
  /-- Replies to resizes, which change no size; without any they are granted. -/
  resizes : Script (Except HostError Unit) := []
  /-- Whether a window is maximized; without replies none is. -/
  maximized : Script Bool := []
  /-- What the layout says; without replies all lengths are zero. -/
  metrics : Script (Except HostError LayoutMetrics) := []
  /-- Replies to recalculations; without any they are granted. -/
  recalculations : Script (Except HostError Unit) := []
  /-- Replies to drawings; without any they succeed and leave the bitmap as it is. -/
  prints : Script (Except HostError Strokes) := []

namespace ScriptedHost

/-- The next reply of a script of the host, or the one that stands for an empty script. -/
def reply {α : Type} (script : ScriptedHost → Script α)
    (put : Script α → ScriptedHost → ScriptedHost) (otherwise : α) : Action ScriptedHost α :=
  Action.ofResults fun state ↦
    let (reply?, rest) := (script state).next
    (.ok (reply?.getD otherwise), put rest state)

/-- The scripts of sizes with that of one window replaced. -/
def putSizes (handle : WindowHandle) (script : Script (Except HostError Size)) :
    List (WindowHandle × Script (Except HostError Size)) →
      List (WindowHandle × Script (Except HostError Size))
  | [] => []
  | (window, replies) :: rest =>
    if window = handle then (window, script) :: rest
    else (window, replies) :: putSizes handle script rest

/-- The next size of a window. -/
def windowSize (handle : WindowHandle) : Action ScriptedHost (Except HostError Size) :=
  reply (fun state ↦ ((state.sizes.find? fun entry ↦ entry.1 = handle).map Prod.snd).getD [])
    (fun rest state ↦ { state with sizes := putSizes handle rest state.sizes })
    (.error (.noSuchWindow handle))

/-- Draws as the script says. -/
def print (bitmap : Bitmap) : Action ScriptedHost (Except HostError Unit × Bitmap) := do
  match ← reply prints (fun rest state ↦ { state with prints := rest }) (.ok {}) with
  | .error error => return (.error error, bitmap)
  | .ok strokes =>
    match strokes.apply.results bitmap with
    | (.ok _, painted) => return (.ok (), painted)
    | (.error fault, _) => Action.check (.error fault)

/-- The scripts as a host. -/
def host : Host ScriptedHost where
  windowSize := windowSize
  setWindowSize _ _ := reply resizes (fun rest state ↦ { state with resizes := rest }) (.ok ())
  isMaximized _ := reply maximized (fun rest state ↦ { state with maximized := rest }) false
  showRestored _ := return
  maximize _ := return
  pixelFormat := Action.inspect pixelFormat
  print _ := print
  redraw _ := return
  isStandardsMode := Action.inspect standards
  hasElement canvas := Action.inspect fun state ↦ decide (canvas ∈ state.elements)
  metrics _ := reply metrics (fun rest state ↦ { state with metrics := rest }) (.ok default)
  forceRecalculate _ :=
    reply recalculations (fun rest state ↦ { state with recalculations := rest }) (.ok ())
  topLevelWindow := Action.inspect topLevel?
  contentWindow := Action.inspect content?
  hasDocument := Action.inspect ScriptedHost.hasDocument

end ScriptedHost

end PageCapture
