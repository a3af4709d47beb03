import PageCapture.Proofs.Host.Invariant
import PageCapture.Proofs.Window.Restoration

/-!
# What is left of a window

`Host.HasWindow` is a host with a window that behaves as windows do: it has a frame and may be
maximized, it reports both as they are, and every resize is either done as asked or refused with
nothing changed. Leaving and entering the maximized state give it frames of its own. Everything else
that the host replies is open.

In front of such a host a transcript tells the geometry of the window: `Traced` follows it through
the exchanges, which a capture keeps up whichever way it ends (`Host.HasWindow.captureOnce_traced`).
With the law of an attempt this settles what the attempt leaves. `PutsBack.geometry` says that the
window is as it was unless the resize that was to put it back has been refused.

`takeScreenshot_geometry` is what a request leaves whose last change took effect: the window is as
its first attempt left it. A second attempt takes what it finds for the original, so a refused
resize at the end of the first is made good by nobody (`takeScreenshot_geometry_stubborn`).
-/

set_option autoImplicit false
set_option relaxedAutoImplicit false

namespace PageCapture

variable {σ α : Type}

/-! ### The geometry in a transcript -/

/-- The geometry of a window. -/
structure Geometry where
  frame : Size
  maximized : Bool
  deriving DecidableEq, Repr

/-- The geometry that an exchange with the window makes of another. `restoredFrame` is the frame
that it takes out of the maximized state, and `maximizedFrame` the one that it takes in it. -/
def Exchange.applied (restoredFrame maximizedFrame : Size) (geometry : Geometry) :
    Exchange → Geometry
  | .setWindowSize _ size (.ok _) => { geometry with frame := size }
  | .showRestored _ => ⟨restoredFrame, false⟩
  | .maximize _ => ⟨maximizedFrame, true⟩
  | _ => geometry

/-- An exchange that reports of the window reports what is the case. -/
def Exchange.Truthful (handle : WindowHandle) (geometry : Geometry) : Exchange → Prop
  | .windowSize asked reply => asked = handle → reply = .ok geometry.frame
  | .isMaximized asked reply => asked = handle → reply = geometry.maximized
  | _ => True

/-- Truthful exchanges lead from one geometry to another. -/
inductive Traced (handle : WindowHandle) (restoredFrame maximizedFrame : Size) :
    Geometry → List Exchange → Geometry → Prop
  | nil (geometry : Geometry) : Traced handle restoredFrame maximizedFrame geometry [] geometry
  | cons {first last : Geometry} {exchange : Exchange} {rest : List Exchange}
      (htruthful : exchange.Truthful handle first)
      (hrest : Traced handle restoredFrame maximizedFrame
        (exchange.applied restoredFrame maximizedFrame first) rest last) :
    Traced handle restoredFrame maximizedFrame first (exchange :: rest) last

namespace Traced

variable {handle : WindowHandle} {restoredFrame maximizedFrame : Size} {first last : Geometry}
  {exchanges : List Exchange}

/-- A trace can be parted anywhere. -/
theorem append_iff {front back : List Exchange} :
    Traced handle restoredFrame maximizedFrame first (front ++ back) last ↔
      ∃ middle, Traced handle restoredFrame maximizedFrame first front middle ∧
        Traced handle restoredFrame maximizedFrame middle back last := by
  induction front generalizing first with
  | nil =>
    constructor
    · exact fun htraced ↦ ⟨first, .nil first, htraced⟩
    · rintro ⟨middle, hnil, htraced⟩
      cases hnil
      exact htraced
  | cons exchange front ih =>
    constructor
    · intro htraced
      cases htraced with
      | cons htruthful hrest =>
        obtain ⟨middle, hfront, hback⟩ := ih.mp hrest
        exact ⟨middle, .cons htruthful hfront, hback⟩
    · rintro ⟨middle, hfront, hback⟩
      cases hfront with
      | cons htruthful hrest => exact .cons htruthful (ih.mpr ⟨middle, hrest, hback⟩)

/-- Exchanges that change no geometry leave it. -/
theorem eq_of_quiet (htraced : Traced handle restoredFrame maximizedFrame first exchanges last)
    (hquiet : geometryCalls exchanges = []) : last = first := by
  induction htraced with
  | nil geometry => rfl
  | @cons geometry last exchange rest htruthful hrest ih =>
    rw [← List.singleton_append, geometryCalls_append, List.append_eq_nil_iff] at hquiet
    rw [ih hquiet.2]
    cases exchange <;> first | rfl | cases hquiet.1

/-- Only leaving and entering the maximized state change it. -/
theorem maximized_of_resizes
    (htraced : Traced handle restoredFrame maximizedFrame first exchanges last)
    (hresizes : ∀ call ∈ geometryCalls exchanges, ∃ resized size,
      call = .setWindowSize resized size) : last.maximized = first.maximized := by
  induction htraced with
  | nil geometry => rfl
  | @cons geometry last exchange rest htruthful hrest ih =>
    rw [← List.singleton_append, geometryCalls_append, List.forall_mem_append] at hresizes
    rw [ih hresizes.2]
    cases exchange with
    | setWindowSize resized size reply => cases reply <;> rfl
    | showRestored left =>
      obtain ⟨resized, size, hcall⟩ := hresizes.1 (.showRestored left) (by simp [geometryCalls,
        Exchange.call?, Call.changesGeometry])
      cases hcall
    | maximize entered =>
      obtain ⟨resized, size, hcall⟩ := hresizes.1 (.maximize entered) (by simp [geometryCalls,
        Exchange.call?, Call.changesGeometry])
      cases hcall
    | _ => rfl

end Traced

/-! ### The last change -/

/-- The last exchange that was to change the geometry of a window. -/
def lastChange? (exchanges : List Exchange) : Option Exchange :=
  (exchanges.filter fun exchange ↦ exchange.call?.any Call.changesGeometry).getLast?

/-- Whether an exchange is a resize that was refused. -/
def Exchange.isRefused : Exchange → Bool
  | .setWindowSize _ _ (.error _) => true
  | _ => false

/-- Whether there is a change of the geometry and the last one took effect. -/
def lastChangeStands (exchanges : List Exchange) : Bool :=
  (lastChange? exchanges).any fun exchange ↦ !exchange.isRefused

theorem lastChange?_append (front back : List Exchange) :
    lastChange? (front ++ back) = (lastChange? back).or (lastChange? front) := by
  rw [lastChange?, List.filter_append, List.getLast?_append]
  rfl

theorem lastChange?_eq_none_iff {exchanges : List Exchange} :
    lastChange? exchanges = none ↔ geometryCalls exchanges = [] := by
  rw [lastChange?, List.getLast?_eq_none_iff, geometryCalls, List.filter_eq_nil_iff,
    List.filter_eq_nil_iff]
  simp only [List.mem_filterMap, Option.any_eq_true_iff_get]
  constructor
  · rintro hnone call ⟨exchange, hexchange, hcall⟩ hchanges
    exact hnone exchange hexchange ⟨by simp [hcall], by simpa [hcall] using hchanges⟩
  · rintro hnone exchange hexchange ⟨hsome, hchanges⟩
    exact hnone _ ⟨exchange, hexchange, (Option.some_get hsome).symm⟩ hchanges

/-- A refused resize does not stand, whatever was before it. -/
theorem lastChangeStands_append_of_refused (front : List Exchange) {back : List Exchange}
    {handle : WindowHandle} {size : Size} {error : HostError}
    (hrefused : lastChange? back = some (.setWindowSize handle size (.error error))) :
    lastChangeStands (front ++ back) = false := by
  rw [lastChangeStands, lastChange?_append, hrefused]
  rfl

/-- Exchanges that change nothing leave the last change the last one. -/
theorem lastChangeStands_append_of_quiet (front : List Exchange) {back : List Exchange}
    (hquiet : geometryCalls back = []) :
    lastChangeStands (front ++ back) = lastChangeStands front := by
  rw [lastChangeStands, lastChange?_append, lastChange?_eq_none_iff.mpr hquiet]
  rfl

/-! ### What an attempt leaves -/

section Attempt

variable {handle : WindowHandle} {restoredFrame maximizedFrame : Size} {before after : Geometry}
  {since : List Exchange}

/-- An attempt on a window leaves its geometry as it was, unless the resize that was to put it back
was refused. Assumes: a window that is maximized has the frame that it takes then. -/
theorem PutsBack.geometry (hputs : PutsBack handle since)
    (htraced : Traced handle restoredFrame maximizedFrame before since after)
    (hmaximized : before.maximized = true → before.frame = maximizedFrame) :
    after = before ∨ after.maximized = false ∧
      ∃ error, lastChange? since = some (.setWindowSize handle before.frame (.error error)) := by
  cases hputs with
  | untouched hnone => exact .inl (htraced.eq_of_quiet hnone)
  | @restored initial wasMaximized held sizes restoring reading hsizes hheld hrestoring hreading =>
    cases htraced with
    | cons hinitial htraced =>
    cases htraced with
    | cons hwas htraced =>
    obtain rfl : initial = before.frame := Except.ok.inj (hinitial rfl)
    obtain rfl : wasMaximized = before.maximized := hwas rfl
    obtain ⟨middle, hmiddle, hlast⟩ := Traced.append_iff.mp htraced
    cases hlast with
    | cons _ hlast =>
    have hquiet : geometryCalls reading = [] := geometryCalls_eq_nil fun exchange hexchange ↦ by
      obtain ⟨reply, rfl⟩ := hreading exchange hexchange
      rfl
    obtain rfl := hlast.eq_of_quiet hquiet
    cases hstate : before.maximized with
    | true =>
      rw [hstate] at hrestoring
      obtain rfl : restoring = .maximize handle := by
        cases restoring <;> cases hrestoring
        rfl
      left
      rw [Exchange.applied, ← hmaximized hstate, ← hstate]
    | false =>
      rw [hstate] at hrestoring hheld
      obtain ⟨reply, rfl⟩ : ∃ reply, restoring = .setWindowSize handle before.frame reply := by
        cases restoring <;> cases hrestoring
        exact ⟨_, rfl⟩
      have hflag : middle.maximized = false := by
        rw [hmiddle.maximized_of_resizes fun call hcall ↦ ?_]
        · exact hstate
        · rw [hheld, growingCalls, Bool.false_and] at hcall
          obtain ⟨size, -, rfl⟩ := List.mem_map.mp hcall
          exact ⟨_, _, rfl⟩
      cases reply with
      | ok _ =>
        left
        rw [Exchange.applied, hflag, ← hstate]
      | error error =>
        right
        refine ⟨hflag, error, ?_⟩
        rw [← List.cons_append, ← List.cons_append, lastChange?_append, ← List.singleton_append,
          lastChange?_append, lastChange?_eq_none_iff.mpr hquiet]
        rfl

end Attempt

/-! ### Hosts with a window -/

/-- What a call reports of the window is the case, and the geometry of the window becomes what the
exchange makes of it. -/
def Action.Moves (handle : WindowHandle) (restoredFrame maximizedFrame : Size)
    (geometry : σ → Geometry) (exchange : α → Exchange) (action : Action σ α) : Prop :=
  ∀ state reply last, action.results state = (.ok reply, last) →
    (exchange reply).Truthful handle (geometry state) ∧
      geometry last = (exchange reply).applied restoredFrame maximizedFrame (geometry state)

/-- A host that answers every call and has a window that behaves as windows do. `geometry` is the
geometry of the window in a state of the host. -/
structure Host.HasWindow (host : Host σ) (handle : WindowHandle)
    (restoredFrame maximizedFrame : Size) (geometry : σ → Geometry) :
    Prop extends host.Responsive where
  windowSize_moves : ∀ asked, (host.windowSize asked).Moves handle restoredFrame maximizedFrame
    geometry (.windowSize asked)
  setWindowSize_moves : ∀ size, (host.setWindowSize handle size).Moves handle restoredFrame
    maximizedFrame geometry (.setWindowSize handle size)
  isMaximized_moves : (host.isMaximized handle).Moves handle restoredFrame maximizedFrame geometry
    (.isMaximized handle)
  showRestored_moves : (host.showRestored handle).Moves handle restoredFrame maximizedFrame geometry
    fun _ ↦ .showRestored handle
  maximize_moves : (host.maximize handle).Moves handle restoredFrame maximizedFrame geometry
    fun _ ↦ .maximize handle
  pixelFormat_moves : host.pixelFormat.Moves handle restoredFrame maximizedFrame geometry
    .pixelFormat
  print_moves : ∀ drawn bitmap, (host.print drawn bitmap).Moves handle restoredFrame maximizedFrame
    geometry (.print drawn bitmap)
  redraw_moves : ∀ drawn, (host.redraw drawn).Moves handle restoredFrame maximizedFrame geometry
    fun _ ↦ .redraw drawn
  isStandardsMode_moves : host.isStandardsMode.Moves handle restoredFrame maximizedFrame geometry
    .isStandardsMode
  hasElement_moves : ∀ canvas, (host.hasElement canvas).Moves handle restoredFrame maximizedFrame
    geometry (.hasElement canvas)
  metrics_moves : ∀ canvas, (host.metrics canvas).Moves handle restoredFrame maximizedFrame geometry
    (.metrics canvas)
  forceRecalculate_moves : ∀ force, (host.forceRecalculate force).Moves handle restoredFrame
    maximizedFrame geometry (.forceRecalculate force)
  topLevelWindow_moves : host.topLevelWindow.Moves handle restoredFrame maximizedFrame geometry
    .topLevelWindow
  contentWindow_moves : host.contentWindow.Moves handle restoredFrame maximizedFrame geometry
    .contentWindow
  hasDocument_moves : host.hasDocument.Moves handle restoredFrame maximizedFrame geometry
    .hasDocument

/-- Since `earlier` the exchanges of a transcript lead from `first` to the geometry that the window
has now. -/
def Transcript.TracedSince (handle : WindowHandle) (restoredFrame maximizedFrame : Size)
    (geometry : σ → Geometry) (earlier : List Exchange) (first : Geometry)
    (transcript : Transcript σ) : Prop :=
  ∃ since, transcript.exchanges = earlier ++ since ∧
    Traced handle restoredFrame maximizedFrame first since (geometry transcript.host)

section HasWindow

variable {handle : WindowHandle} {restoredFrame maximizedFrame : Size} {geometry : σ → Geometry}
  {earlier : List Exchange} {first : Geometry}

/-- A call that is answered continues the trace. -/
theorem Action.Moves.gives {exchange : α → Exchange} {action : Action σ α}
    (hmoves : action.Moves handle restoredFrame maximizedFrame geometry exchange)
    (hanswers : action.Answers) :
    Action.Gives
      (Transcript.TracedSince handle restoredFrame maximizedFrame geometry earlier first)
      (Transcript.noting exchange action) fun _ last ↦
        last.TracedSince handle restoredFrame maximizedFrame geometry earlier first := by
  rintro ⟨state, exchanges⟩ ⟨since, rfl, htraced⟩
  obtain ⟨reply, last, hends⟩ := hanswers state
  obtain ⟨htruthful, hgeometry⟩ := hmoves state reply last hends
  refine ⟨reply, ⟨last, (earlier ++ since) ++ [exchange reply]⟩, ?_, since ++ [exchange reply],
    List.append_assoc _ _ _, Traced.append_iff.mpr ⟨_, htraced, .cons htruthful ?_⟩⟩
  · simp only [Transcript.noting, Action.results_ofResults, hends]
  · rw [← hgeometry]
    exact .nil _

variable {host : Host σ}
  (hwindow : host.HasWindow handle restoredFrame maximizedFrame geometry)

include hwindow

/-- Attempts on the window continue the trace, whichever way they end. -/
theorem Host.HasWindow.keeps {target : CaptureTarget} (htarget : target.topLevel = handle) :
    host.transcribed.Keeps
      (Transcript.TracedSince handle restoredFrame maximizedFrame geometry earlier first) True
      target := by
  subst htarget
  have hhost := hwindow.toResponsive
  exact {
    windowSize := fun asked ↦ ((hwindow.windowSize_moves asked).gives (hhost.windowSize asked)).mono
      fun _ _ hlast ↦ ⟨hlast, fun _ _ ↦ .inl trivial⟩
    setWindowSize := fun size ↦
      (hwindow.setWindowSize_moves size).gives (hhost.setWindowSize _ size)
    isMaximized := hwindow.isMaximized_moves.gives (hhost.isMaximized _)
    showRestored := hwindow.showRestored_moves.gives (hhost.showRestored _)
    maximize := hwindow.maximize_moves.gives (hhost.maximize _)
    pixelFormat := hwindow.pixelFormat_moves.gives hhost.pixelFormat
    print := fun bitmap _ ↦ ((hwindow.print_moves _ bitmap).gives (hhost.print _ bitmap)).mono
      fun _ _ hlast ↦ ⟨hlast, .inl trivial⟩
    redraw := (hwindow.redraw_moves _).gives (hhost.redraw _)
    metrics := ((hwindow.metrics_moves _).gives (hhost.metrics _)).mono
      fun _ _ hlast ↦ ⟨hlast, fun _ _ ↦ .inl trivial⟩
    forceRecalculate := fun force ↦
      (hwindow.forceRecalculate_moves force).gives (hhost.forceRecalculate force) }

theorem Host.HasWindow.surveys :
    (Alignment.keeping
      (Transcript.TracedSince handle restoredFrame maximizedFrame geometry earlier first)
      True).Surveys host.transcribed host.transcribed := by
  have hquestion : ∀ {α : Type} {action : Action (Transcript σ) α},
      Action.Gives
        (Transcript.TracedSince handle restoredFrame maximizedFrame geometry earlier first) action
        (fun _ last ↦ last.TracedSince handle restoredFrame maximizedFrame geometry earlier first) →
      (Alignment.keeping
        (Transcript.TracedSince handle restoredFrame maximizedFrame geometry earlier first)
        True).Agree (fun _ ↦ True) action action :=
    fun hgives ↦ Alignment.agree_alone_of_gives (hgives.mono fun _ _ hlast ↦ ⟨hlast, trivial⟩)
  have hhost := hwindow.toResponsive
  exact {
    topLevelWindow := hquestion (hwindow.topLevelWindow_moves.gives hhost.topLevelWindow)
    contentWindow := hquestion (hwindow.contentWindow_moves.gives hhost.contentWindow)
    hasDocument := hquestion (hwindow.hasDocument_moves.gives hhost.hasDocument)
    isStandardsMode := hquestion (hwindow.isStandardsMode_moves.gives hhost.isStandardsMode)
    hasElement := fun canvas ↦
      hquestion ((hwindow.hasElement_moves canvas).gives (hhost.hasElement canvas)) }

/-- An attempt continues the trace, whichever way it ends. -/
theorem Host.HasWindow.captureOnce_traced {target : CaptureTarget}
    (htarget : target.topLevel = handle) (options : CaptureOptions) (begun : Transcript σ)
    {since : List Exchange}
    (hsince : ((captureOnce host.transcribed options target).results begun).2.exchanges =
      begun.exchanges ++ since) :
    Traced handle restoredFrame maximizedFrame (geometry begun.host) since
      (geometry ((captureOnce host.transcribed options target).results begun).2.host) := by
  have hbegun : begun.TracedSince handle restoredFrame maximizedFrame geometry begun.exchanges
      (geometry begun.host) := ⟨[], (List.append_nil _).symm, .nil _⟩
  have hagree : (Alignment.keeping (Transcript.TracedSince handle restoredFrame maximizedFrame
      geometry begun.exchanges (geometry begun.host)) True).Agree _
      (captureOnce host.transcribed options target) (captureOnce host.transcribed options target) :=
    Alignment.agree_captureOnce (.inl trivial) (hwindow.keeps htarget).attempts
  obtain ⟨more, hmore, htraced⟩ := hagree.kept hbegun
  rw [hsince, List.append_cancel_left_eq] at hmore
  rwa [hmore]

/-- The search for the target leaves the geometry. -/
theorem Host.HasWindow.findTarget_geometry (start : σ) :
    geometry ((findTarget host.transcribed).results ⟨start, []⟩).2.host = geometry start := by
  have hagree : (Alignment.keeping (Transcript.TracedSince handle restoredFrame maximizedFrame
      geometry [] (geometry start)) True).Agree _ (findTarget host.transcribed)
      (findTarget host.transcribed) :=
    Alignment.agree_findTarget hwindow.surveys
  have hstart : Transcript.TracedSince handle restoredFrame maximizedFrame geometry []
      (geometry start) ⟨start, []⟩ := ⟨[], rfl, .nil _⟩
  obtain ⟨since, hsince, htraced⟩ := hagree.kept hstart
  obtain ⟨since', hsince', hsurvey⟩ := findTarget_only hwindow.toResponsive ⟨start, []⟩
  obtain rfl : since = since' := hsince.symm.trans hsince'
  refine htraced.eq_of_quiet (geometryCalls_eq_nil fun exchange hexchange ↦ ?_)
  have hasked := hsurvey exchange hexchange
  cases exchange <;> first | rfl | cases hasked

end HasWindow

/-! ### What a request leaves -/

/-- Questions about the surface are no changes. -/
theorem lastChange?_of_survey {exchanges : List Exchange}
    (hsurvey : ∀ exchange ∈ exchanges, exchange.isSurvey = true) :
    lastChange? exchanges = none := by
  refine lastChange?_eq_none_iff.mpr (geometryCalls_eq_nil fun exchange hexchange ↦ ?_)
  have hasked := hsurvey exchange hexchange
  cases exchange <;> first | rfl | cases hasked

/-- What a request leaves of a window. Assumes: a host with a window that behaves as windows do; the
target is found; a window that is maximized has the frame that it takes then; and the last change of
the geometry took effect. The window is left as the first attempt left it. That is how it was before
the request, unless the resize that was to put it back was refused at the end of the first attempt
and there was a second one that changed the geometry again. -/
theorem takeScreenshot_geometry {host : Host σ} {target : CaptureTarget}
    {restoredFrame maximizedFrame : Size} {geometry : σ → Geometry}
    (hwindow : host.HasWindow target.topLevel restoredFrame maximizedFrame geometry)
    (options : CaptureOptions) {start : σ} {asked : Transcript σ}
    (hfound : (findTarget host.transcribed).results ⟨start, []⟩ = (.ok (.ok target), asked))
    (hmaximized : (geometry start).maximized = true → (geometry start).frame = maximizedFrame)
    (hstands : lastChangeStands
      ((takeScreenshot host.transcribed options).results ⟨start, []⟩).2.exchanges = true) :
    geometry ((takeScreenshot host.transcribed options).results ⟨start, []⟩).2.host =
        geometry ((captureOnce host.transcribed options target).results asked).2.host ∧
      (geometry ((takeScreenshot host.transcribed options).results ⟨start, []⟩).2.host =
          geometry start ∨
        ∃ first second error,
          ((captureOnce host.transcribed options target).results asked).2.exchanges =
            asked.exchanges ++ first ∧
          ((takeScreenshot host.transcribed options).results ⟨start, []⟩).2.exchanges =
            asked.exchanges ++ first ++ second ∧
          lastChange? first =
            some (.setWindowSize target.topLevel (geometry start).frame (.error error)) ∧
          geometryCalls second ≠ []) := by
  have hhost := hwindow.toResponsive
  obtain ⟨made, hlength, hmade, hattempts⟩ :=
    captureFrom_attempts hhost options target captureAttempts asked
  have hsurvey : geometry asked.host = geometry start := by
    have hgeometry := hwindow.findTarget_geometry start
    rwa [hfound] at hgeometry
  obtain ⟨surveyed, hsurveyed, hquestions⟩ := findTarget_only hhost ⟨start, []⟩
  rw [hfound, List.nil_append] at hsurveyed
  have hasked : lastChange? asked.exchanges = none :=
    lastChange?_of_survey (hsurveyed ▸ hquestions)
  rw [results_takeScreenshot_of_target hfound, results_answerFrom_snd] at hstands ⊢
  generalize ((captureFrom host.transcribed options target captureAttempts).results asked).2 = last
    at hstands hattempts ⊢
  cases hattempts with
  | none =>
    rw [lastChangeStands, hasked] at hstands
    cases hstands
  | @more _ _ first rest hfirst hrest =>
    have htraced := hwindow.captureOnce_traced rfl options asked hfirst
    rw [hsurvey] at htraced
    have hlaw := (hmade first List.mem_cons_self).geometry htraced hmaximized
    cases hrest with
    | none =>
      refine ⟨rfl, .inl (hlaw.resolve_right ?_)⟩
      rintro ⟨-, error, hrefused⟩
      rw [hfirst, lastChangeStands_append_of_refused _ hrefused] at hstands
      cases hstands
    | @more _ _ second rest hsecond hrest =>
      obtain rfl : rest = [] := by
        rw [List.length_cons, List.length_cons] at hlength
        exact List.eq_nil_of_length_eq_zero (by rw [captureAttempts] at hlength; omega)
      cases hrest
      have hagain := hwindow.captureOnce_traced rfl options _ hsecond
      -- Where the first attempt has not put the window back it has left it out of that state.
      have hstate := (hmade second (by simp)).geometry hagain fun hmaximizedAgain ↦ by
        rcases hlaw with hback | ⟨hleft, -⟩
        · rw [hback] at hmaximizedAgain ⊢
          exact hmaximized hmaximizedAgain
        · rw [hleft] at hmaximizedAgain
          cases hmaximizedAgain
      have hsame := hstate.resolve_right fun ⟨_, error, hrefused⟩ ↦ by
        rw [hsecond, lastChangeStands_append_of_refused _ hrefused] at hstands
        cases hstands
      refine ⟨hsame, ?_⟩
      rcases hlaw with hback | ⟨-, error, hrefused⟩
      · exact .inl (hsame.trans hback)
      · refine .inr ⟨first, second, error, hfirst, by rw [hsecond, hfirst], hrefused,
          fun hquiet ↦ ?_⟩
        rw [hsecond, lastChangeStands_append_of_quiet _ hquiet, hfirst,
          lastChangeStands_append_of_refused _ hrefused] at hstands
        cases hstands

/-! ### A restoring resize that is refused -/

/-- The states of a host with a window: its geometry, and how often it has been resized and
drawn. -/
structure StubbornWindow where
  geometry : Geometry
  resizes : Nat := 0
  prints : Nat := 0

/-- The window at the beginning. -/
def StubbornWindow.fresh : StubbornWindow where
  geometry := ⟨⟨2, 2⟩, false⟩

/-- A host with a window that takes every size but the second one that it is given. The page is
always a row longer than the client area, and the first three drawings fail. -/
def Host.stubborn : Host StubbornWindow where
  windowSize handle := Action.inspect fun window ↦
    .ok (if handle = ⟨1⟩ then window.geometry.frame else ⟨2, 2⟩)
  setWindowSize _ size := Action.ofResults fun window ↦
    if window.resizes = 1 then
      (.ok (.error (.call "SetWindowPos" "refused")), { window with resizes := 2 })
    else
      (.ok (.ok ()),
        { window with
          geometry := { window.geometry with frame := size }
          resizes := window.resizes + 1 })
  isMaximized _ := Action.inspect fun window ↦ window.geometry.maximized
  showRestored _ := Action.change fun window ↦ { window with geometry := ⟨⟨1, 1⟩, false⟩ }
  maximize _ := Action.change fun window ↦ { window with geometry := ⟨⟨9, 9⟩, true⟩ }
  pixelFormat := return .bgra
  print _ bitmap := Action.ofResults fun window ↦
    (.ok (if window.prints < 3 then .error (.call "PrintWindow" "refused") else .ok (), bitmap),
      { window with prints := window.prints + 1 })
  redraw _ := return
  isStandardsMode := return true
  hasElement _ := return true
  metrics _ := return .ok ⟨⟨2, 2⟩, ⟨2, 3⟩⟩
  forceRecalculate _ := return .ok ()
  topLevelWindow := return some ⟨1⟩
  contentWindow := return some ⟨2⟩
  hasDocument := return true

theorem Host.stubborn_hasWindow :
    Host.stubborn.HasWindow ⟨1⟩ ⟨1, 1⟩ ⟨9, 9⟩ StubbornWindow.geometry := by
  constructor
  case toResponsive =>
    constructor <;> intros
    case setWindowSize =>
      intro window
      simp only [Host.stubborn, Action.results_ofResults]
      split <;> exact ⟨_, _, rfl⟩
    all_goals exact fun window ↦ ⟨_, _, rfl⟩
  case windowSize_moves =>
    intro asked window reply last hends
    cases hends
    exact ⟨fun hasked ↦ congrArg Except.ok (if_pos hasked), rfl⟩
  case setWindowSize_moves =>
    intro size window reply last hends
    simp only [Host.stubborn, Action.results_ofResults] at hends
    split at hends <;> cases hends <;> exact ⟨trivial, rfl⟩
  case isMaximized_moves =>
    intro window reply last hends
    cases hends
    exact ⟨fun _ ↦ rfl, rfl⟩
  all_goals
    intros
    intro window reply last hends
    cases hends
    exact ⟨trivial, rfl⟩

/-- The law for the stubborn window: the second attempt leaves it as the first did. -/
theorem takeScreenshot_geometry_refused :
    ((takeScreenshot Host.stubborn.transcribed {}).results ⟨.fresh, []⟩).2.host.geometry =
        ((captureOnce Host.stubborn.transcribed {} ⟨⟨1⟩, ⟨2⟩, .documentElement⟩).results
          ((findTarget Host.stubborn.transcribed).results ⟨.fresh, []⟩).2).2.host.geometry ∧
      (((takeScreenshot Host.stubborn.transcribed {}).results ⟨.fresh, []⟩).2.host.geometry =
          ⟨⟨2, 2⟩, false⟩ ∨
        ∃ first second error,
          ((captureOnce Host.stubborn.transcribed {} ⟨⟨1⟩, ⟨2⟩, .documentElement⟩).results
            ((findTarget Host.stubborn.transcribed).results ⟨.fresh, []⟩).2).2.exchanges =
              ((findTarget Host.stubborn.transcribed).results ⟨.fresh, []⟩).2.exchanges ++ first ∧
          ((takeScreenshot Host.stubborn.transcribed {}).results ⟨.fresh, []⟩).2.exchanges =
            ((findTarget Host.stubborn.transcribed).results ⟨.fresh, []⟩).2.exchanges ++ first ++
              second ∧
          lastChange? first = some (.setWindowSize ⟨1⟩ ⟨2, 2⟩ (.error error)) ∧
          geometryCalls second ≠ []) :=
  takeScreenshot_geometry Host.stubborn_hasWindow {} rfl nofun (by decide +kernel)

/-- A window that takes every size but the one that is to put it back is left with another frame
than it had, although the last change of the request took effect: the second attempt restores what
it found at its beginning. -/
theorem takeScreenshot_geometry_stubborn :
    Host.stubborn.HasWindow ⟨1⟩ ⟨1, 1⟩ ⟨9, 9⟩ StubbornWindow.geometry ∧
      geometryCalls ((takeScreenshot Host.stubborn.transcribed {}).results
          ⟨.fresh, []⟩).2.exchanges =
        [.setWindowSize ⟨1⟩ ⟨2, 3⟩, .setWindowSize ⟨1⟩ ⟨2, 2⟩, .setWindowSize ⟨1⟩ ⟨2, 4⟩,
          .setWindowSize ⟨1⟩ ⟨2, 3⟩] ∧
      lastChangeStands ((takeScreenshot Host.stubborn.transcribed {}).results
        ⟨.fresh, []⟩).2.exchanges = true ∧
      ((takeScreenshot Host.stubborn.transcribed {}).results ⟨.fresh, []⟩).1.toOption.isSome ∧
      StubbornWindow.fresh.geometry = ⟨⟨2, 2⟩, false⟩ ∧
      ((takeScreenshot Host.stubborn.transcribed {}).results ⟨.fresh, []⟩).2.host.geometry =
        ⟨⟨2, 3⟩, false⟩ :=
  ⟨Host.stubborn_hasWindow, by decide +kernel, by decide +kernel, by decide +kernel, rfl,
    by decide +kernel⟩

end PageCapture
