import SpotSettlement.Execution.Report

namespace SpotSettlement

/-! # Events of a stream

An exchange pushes what happens to our orders over a stream.  A frame that cannot be read is
skipped, every other error ends the session.
-/

/-- What a frame of a stream says. -/
inductive StreamEvent where
  /-- A fill. -/
  | execution (report : ExecutionReport)
  /-- A change of status without a fill. -/
  | status (report : StatusReport)
  /-- Nothing that concerns us. -/
  | ignored
  deriving DecidableEq, Inhabited

inductive StreamError where
  /-- No session could be opened. -/
  | connect (details : String)
  /-- The session broke. -/
  | transport (details : String)
  /-- A frame could not be read. -/
  | decode (details : String)
  /-- The session could not be closed in order. -/
  | close (details : String)
  deriving DecidableEq, Repr, Inhabited

namespace StreamError

def message : StreamError → String
  | .connect details => "Stream connect failed: " ++ details
  | .transport details => "Stream transport error: " ++ details
  | .decode details => "Stream frame decode error: " ++ details
  | .close details => "Stream close error: " ++ details

/-- The stable code of the kind of error. -/
def code : StreamError → String
  | .connect _ => "STREAM_CONNECT"
  | .transport _ => "STREAM_TRANSPORT"
  | .decode _ => "STREAM_DECODE"
  | .close _ => "STREAM_CLOSE"

/-- Whether the session can go on after the error. -/
def isRecoverable : StreamError → Bool
  | .decode _ => true
  | _ => false

end StreamError

end SpotSettlement
