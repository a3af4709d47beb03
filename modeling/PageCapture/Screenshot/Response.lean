import PageCapture.Host.Basic
import PageCapture.Json

/-!
# Responses

How a request ends. Without a window or a document it fails; anything else that keeps an attempt
from giving a picture only costs the attempt, and every error of the host counts as such, whatever
it says (`CaptureError.ofHostError`). `Status` has the number and the words for each way to end.

The answer to a request is the transport text of a picture, which is empty when there is none, or an
error. It is sent as one line of JSON: the number of the status beside the text, or beside the words
and the message of the error. `Response.line` is that line.
-/

set_option autoImplicit false
set_option relaxedAutoImplicit false

namespace PageCapture

/-! ### Status of a request -/

/-- How a request ended. -/
inductive Status where
  | success
  | noSuchWindow
  | unknownError
  deriving DecidableEq, Repr

namespace Status

/-- The number of a status. -/
def code : Status → Nat
  | success => 0
  | unknownError => 13
  | noSuchWindow => 23

/-- The words of a status. -/
def words : Status → String
  | success => "success"
  | noSuchWindow => "no such window"
  | unknownError => "unknown error"

end Status

/-! ### Errors of a capture -/

/-- Why an attempt gave no picture. -/
inductive CaptureError where
  /-- There is no frame or no content window. -/
  | windowUnavailable (message : String)
  /-- There is no document or no canvas. -/
  | documentUnavailable (message : String)
  /-- Sizes or pixels could not be had. -/
  | degraded (message : String)
  deriving DecidableEq, Repr

namespace CaptureError

/-- The wording of an error. -/
def message : CaptureError → String
  | windowUnavailable message => "window unavailable: " ++ message
  | documentUnavailable message => "document unavailable: " ++ message
  | degraded message => "capture degraded: " ++ message

/-- Whether the request fails, instead of going on without a picture. -/
def isFatal : CaptureError → Bool
  | windowUnavailable _ | documentUnavailable _ => true
  | degraded _ => false

/-- The status of a request that fails with the error. -/
def status : CaptureError → Status
  | windowUnavailable _ => .noSuchWindow
  | documentUnavailable _ | degraded _ => .unknownError

/-- What an error of the host is to an attempt. -/
def ofHostError (error : HostError) : CaptureError := degraded error.message

end CaptureError

/-! ### Answers -/

/-- The answer to a request. -/
inductive Response where
  | success (value : String)
  | error (status : Status) (message : String)
  deriving DecidableEq, Repr

namespace Response

def isSuccess : Response → Bool
  | success _ => true
  | error .. => false

/-- The transport text of a success. -/
def value? : Response → Option String
  | success value => some value
  | error .. => none

/-- The status of an answer. -/
def status : Response → Status
  | success _ => .success
  | error status _ => status

/-- An answer as it is sent. -/
def datum : Response → Datum
  | success value =>
    .record [("status", .integer Status.success.code), ("value", .text value)]
  | error status message =>
    .record [("status", .integer status.code),
      ("value", .record [("error", .text status.words), ("message", .text message)])]

/-- The line that an answer is sent as. -/
def line (response : Response) : String := Json.write response.datum

end Response

end PageCapture
