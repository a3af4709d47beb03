import PageCapture.Proofs.Bitmap.Refusal
import PageCapture.Screenshot.Capture

/-!
# Answers and their pictures

The answer that is made from a bitmap is a success (`Drawable.respond_eq`), and the picture read
from its transport text is the drawing of what the bitmap holds (`picture?_answer`). So answers made
from bitmaps are the same exactly when the pictures are (`answer_injective`), and none has an empty
text.

The lemmas on requests say how the ends of the attempts lead to the answer: a picture becomes an
answer (`results_answerFrom_of_image`), and an error that is not fatal leaves the request to the
attempts that are left (`results_captureFrom_of_error`). Whatever the host does, a request that has
an answer is refused, or its answer is empty or carries a well-formed picture
(`takeScreenshot_answers`).
-/

set_option autoImplicit false
set_option relaxedAutoImplicit false

namespace PageCapture

/-- The picture of a response, read from its transport text. -/
def Response.picture? (response : Response) : Option Png.Image :=
  match response.value?.map Base64.decode with
  | some (.ok file) => Png.read? file
  | _ => none

/-- The answer that carries a picture. -/
def answer (image : Png.Image) : Response := .success (Base64.encode (Png.write image))

/-- The answer for a drawable bitmap with some values carries the drawing of these values. -/
theorem Bitmap.Drawable.respond_eq {b : Bitmap} (hb : b.Drawable) {value : Nat → Nat → UInt32}
    (hholds : b.Holds value) :
    respond b = .ok (answer (drawing b.width b.height b.format value)) := by
  rw [respond, hb.readable.encode_eq hholds]
  rfl

/-- The picture of an answer is the one that it carries. -/
theorem picture?_answer {image : Png.Image} (himage : image.WellFormed) :
    (answer image).picture? = some image := by
  simp only [Response.picture?, answer, Response.value?, Option.map_some, Base64.decode_encode]
  exact Png.read?_write himage

/-- Different pictures have different answers. -/
theorem answer_injective {first second : Png.Image} (hfirst : first.WellFormed)
    (hsecond : second.WellFormed) (hsame : answer first = answer second) : first = second := by
  have hpicture := picture?_answer hfirst
  rw [hsame, picture?_answer hsecond] at hpicture
  exact (Option.some.inj hpicture).symm

/-- An answer that carries a picture has a text. -/
theorem value?_answer_ne (image : Png.Image) : (answer image).value? ≠ some "" := by
  intro hempty
  exact Png.write_ne_nil image (Base64.encode_eq_empty_iff.mp (Option.some.inj hempty))

/-- A drawable bitmap has an answer with a text. -/
theorem Bitmap.Drawable.exists_respond {image : Bitmap} (himage : image.Drawable) :
    ∃ text, respond image = .ok (.success text) ∧ text ≠ "" := by
  obtain ⟨value, hholds⟩ := himage.readable.exists_holds
  refine ⟨_, himage.respond_eq hholds, fun hempty ↦ ?_⟩
  exact value?_answer_ne (drawing image.width image.height image.format value)
    (congrArg some hempty)

/-! ### A request step by step -/

variable {σ : Type}

/-- The attempts of a request and its answer. -/
def answerFrom (host : Host σ) (options : CaptureOptions) (target : CaptureTarget) :
    Action σ Response := do
  match ← captureFrom host options target captureAttempts with
  | .error response => return response
  | .ok image => Action.check (respond image)

/-- A request whose survey fails is answered with the error. -/
theorem results_takeScreenshot_of_error {host : Host σ} {options : CaptureOptions}
    {start middle : σ} {error : CaptureError}
    (hfound : (findTarget host).results start = (.ok (.error error), middle)) :
    (takeScreenshot host options).results start =
      (.ok (.error error.status error.message), middle) := by
  rw [takeScreenshot, Action.bind_results, hfound]
  rfl

theorem results_takeScreenshot_of_target {host : Host σ} {options : CaptureOptions}
    {start middle : σ} {target : CaptureTarget}
    (hfound : (findTarget host).results start = (.ok (.ok target), middle)) :
    (takeScreenshot host options).results start =
      (answerFrom host options target).results middle := by
  rw [takeScreenshot, Action.bind_results, hfound]
  rfl

section Attempts

variable {host : Host σ} {options : CaptureOptions} {target : CaptureTarget} {attempts : Nat}
  {first last : σ}

theorem results_captureFrom_of_fault {fault : Fault}
    (hends : (captureOnce host options target).results first = (.error fault, last)) :
    (captureFrom host options target (attempts + 1)).results first = (.error fault, last) := by
  rw [captureFrom, Action.bind_results, hends]

theorem results_captureFrom_of_image {image : Bitmap}
    (hends : (captureOnce host options target).results first = (.ok (.ok image), last)) :
    (captureFrom host options target (attempts + 1)).results first = (.ok (.ok image), last) := by
  rw [captureFrom, Action.bind_results, hends]
  rfl

/-- An error that is not fatal leaves the request to the attempts that are left. -/
theorem results_captureFrom_of_error {error : CaptureError} (hfatal : error.isFatal = false)
    (hends : (captureOnce host options target).results first = (.ok (.error error), last)) :
    (captureFrom host options target (attempts + 1)).results first =
      (captureFrom host options target attempts).results last := by
  rw [captureFrom, Action.bind_results, hends]
  simp [hfatal]

theorem results_answerFrom_of_fault {fault : Fault}
    (hends : (captureFrom host options target captureAttempts).results first =
      (.error fault, last)) :
    (answerFrom host options target).results first = (.error fault, last) := by
  rw [answerFrom, Action.bind_results, hends]

theorem results_answerFrom_of_image {image : Bitmap}
    (hends : (captureFrom host options target captureAttempts).results first =
      (.ok (.ok image), last)) :
    (answerFrom host options target).results first = (respond image, last) := by
  rw [answerFrom, Action.bind_results, hends]
  rfl

theorem results_answerFrom_of_response {response : Response}
    (hends : (captureFrom host options target captureAttempts).results first =
      (.ok (.error response), last)) :
    (answerFrom host options target).results first = (.ok response, last) := by
  rw [answerFrom, Action.bind_results, hends]
  rfl

/-- The answer is made from the picture alone: it leaves the state as it is. -/
theorem results_answerFrom_snd (first : σ) :
    ((answerFrom host options target).results first).2 =
      ((captureFrom host options target captureAttempts).results first).2 := by
  rw [answerFrom, Action.bind_results]
  rcases (captureFrom host options target captureAttempts).results first with ⟨_ | _ | _, _⟩ <;> rfl

end Attempts

end PageCapture
