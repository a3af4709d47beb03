import PageCapture.Browser.Simulated
import PageCapture.Environment
import PageCapture.Toml.Document

/-!
# Forms of captures and scenarios

Sizes and metrics are records of their lengths, a handle is its number, and the alternatives go by
lower-case names; only the status of a request keeps the names of the wire protocol. Every field of
a scenario has the default that `Scenario` gives it. Scenarios are given in TOML files, which
`Scenario.load` reads.
-/

set_option autoImplicit false
set_option relaxedAutoImplicit false

namespace PageCapture

/-! ### Values of a capture -/

instance : Form WindowHandle where
  write handle := .integer handle.number.toInt
  read? _ datum := datum.int64?.map WindowHandle.mk

instance : Form Size where
  write size := .record [("width", Form.write size.width), ("height", Form.write size.height)]
  read? dialect datum := do
    match ← datum.fields? dialect ["width", "height"] with
    | [width, height] => return ⟨← Form.required? dialect width, ← Form.required? dialect height⟩
    | _ => none

instance : Form LayoutMetrics where
  write metrics := .record [
    ("client_width", Form.write metrics.client.width),
    ("client_height", Form.write metrics.client.height),
    ("scroll_width", Form.write metrics.scroll.width),
    ("scroll_height", Form.write metrics.scroll.height)]
  read? dialect datum := do
    match ← datum.fields? dialect
        ["client_width", "client_height", "scroll_width", "scroll_height"] with
    | [clientWidth, clientHeight, scrollWidth, scrollHeight] =>
      return {
        client := ⟨← Form.required? dialect clientWidth, ← Form.required? dialect clientHeight⟩
        scroll := ⟨← Form.required? dialect scrollWidth, ← Form.required? dialect scrollHeight⟩ }
    | _ => none

instance : Form TargetDimensions where
  write dimensions := .record [
    ("target_window_width", Form.write dimensions.window.width),
    ("target_window_height", Form.write dimensions.window.height),
    ("target_view_width", Form.write dimensions.view.width),
    ("target_view_height", Form.write dimensions.view.height),
    ("target_client_width", Form.write dimensions.client.width),
    ("target_client_height", Form.write dimensions.client.height)]
  read? dialect datum := do
    match ← datum.fields? dialect
        ["target_window_width", "target_window_height", "target_view_width",
          "target_view_height", "target_client_width", "target_client_height"] with
    | [windowWidth, windowHeight, viewWidth, viewHeight, clientWidth, clientHeight] =>
      return {
        window := ⟨← Form.required? dialect windowWidth, ← Form.required? dialect windowHeight⟩
        view := ⟨← Form.required? dialect viewWidth, ← Form.required? dialect viewHeight⟩
        client := ⟨← Form.required? dialect clientWidth, ← Form.required? dialect clientHeight⟩ }
    | _ => none

/-- The name of a canvas. -/
def Canvas.name : Canvas → String
  | .documentElement => "document_element"
  | .body => "body"

instance : Form Canvas where
  write canvas := .text canvas.name
  read? dialect := Form.alternative? dialect
    [("document_element", .documentElement), ("body", .body)]

/-- The name of a pixel format. -/
def PixelFormat.name : PixelFormat → String
  | .bgra => "bgra"
  | .bgrx => "bgrx"

instance : Form PixelFormat where
  write format := .text format.name
  read? dialect := Form.alternative? dialect [("bgra", .bgra), ("bgrx", .bgrx)]

/-- The name of a status in the wire protocol. -/
def Status.name : Status → String
  | .success => "Success"
  | .noSuchWindow => "NoSuchWindow"
  | .unknownError => "UnknownError"

instance : Form Status where
  write status := .text status.name
  read? dialect := Form.alternative? dialect
    [("Success", .success), ("NoSuchWindow", .noSuchWindow), ("UnknownError", .unknownError)]

/-! ### Scenarios -/

/-- The name of an outcome. -/
def PaintOutcome.name : PaintOutcome → String
  | .fail => "fail"
  | .blank => "blank"
  | .painted => "painted"

instance : Form PaintOutcome where
  write outcome := .text outcome.name
  read? dialect := Form.alternative? dialect
    [("fail", .fail), ("blank", .blank), ("painted", .painted)]

/-- The names of a scenario's fields. -/
def Scenario.fieldNames : List String :=
  ["window", "chrome", "client_insets", "content", "standards_mode", "maximized",
    "restored_window", "max_window", "layout_lag", "paint", "has_window", "has_document",
    "has_canvas", "window_size_fails"]

instance : Form Scenario where
  write scenario := .record [
    ("window", Form.write scenario.window),
    ("chrome", Form.write scenario.chrome),
    ("client_insets", Form.write scenario.clientInsets),
    ("content", Form.write scenario.content),
    ("standards_mode", Form.write scenario.standardsMode),
    ("maximized", Form.write scenario.maximized),
    ("restored_window", Form.write scenario.restoredWindow),
    ("max_window", Form.write scenario.maxWindow),
    ("layout_lag", Form.write scenario.layoutLag),
    ("paint", Form.write scenario.paint),
    ("has_window", Form.write scenario.hasWindow),
    ("has_document", Form.write scenario.hasDocument),
    ("has_canvas", Form.write scenario.hasCanvas),
    ("window_size_fails", Form.write scenario.windowSizeFails)]
  read? dialect datum := do
    let otherwise : Scenario := {}
    match ← datum.fields? dialect Scenario.fieldNames with
    | [window, chrome, clientInsets, content, standardsMode, maximized, restoredWindow, maxWindow,
        layoutLag, paint, hasWindow, hasDocument, hasCanvas, windowSizeFails] =>
      return {
        window := ← Form.default? dialect otherwise.window window
        chrome := ← Form.default? dialect otherwise.chrome chrome
        clientInsets := ← Form.default? dialect otherwise.clientInsets clientInsets
        content := ← Form.default? dialect otherwise.content content
        standardsMode := ← Form.default? dialect otherwise.standardsMode standardsMode
        maximized := ← Form.default? dialect otherwise.maximized maximized
        restoredWindow := ← Form.default? dialect otherwise.restoredWindow restoredWindow
        maxWindow := ← Form.default? dialect otherwise.maxWindow maxWindow
        layoutLag := ← Form.default? dialect otherwise.layoutLag layoutLag
        paint := ← Form.default? dialect otherwise.paint paint
        hasWindow := ← Form.default? dialect otherwise.hasWindow hasWindow
        hasDocument := ← Form.default? dialect otherwise.hasDocument hasDocument
        hasCanvas := ← Form.default? dialect otherwise.hasCanvas hasCanvas
        windowSizeFails := ← Form.default? dialect otherwise.windowSizeFails windowSizeFails }
    | _ => none

/-! ### Scenario files -/

/-- Why no scenario was loaded. -/
inductive ScenarioError where
  | unreadable (path : Path)
  | notScenario (path : Path)
  deriving DecidableEq, Repr

/-- The wording of an error. -/
def ScenarioError.message : ScenarioError → String
  | .unreadable path => "Failed to read scenario '" ++ path.display ++ "'"
  | .notScenario path => "Failed to parse scenario '" ++ path.display ++ "'"

namespace Scenario

/-- The scenario in the text of a file. -/
def ofText? (text : String) : Option Scenario := (Toml.read? text).bind (Form.read? Dialect.toml)

variable {m : Type → Type} [Monad m]

/-- Loads the scenario in a file. -/
def load (env : Environment m) (path : Path) : ExceptT ScenarioError m Scenario := do
  match ← env.readText? path with
  | none => throw (.unreadable path)
  | some text =>
    match ofText? text with
    | none => throw (.notScenario path)
    | some scenario => return scenario

end Scenario

end PageCapture
