import SpotSettlement.Time.Instant

namespace SpotSettlement

/-! # Exchange errors

Why a call to an exchange fails, with a code for each cause.  Only a caller that is told to slow
down may try again.
-/

inductive ExchangeError where
  /-- Too many requests; the exchange may say how long to wait. -/
  | rateLimited (retryAfter : Option Duration) (details : String)
  /-- The exchange refuses the request. -/
  | rejected (code : Option Int) (details : String)
  /-- The exchange does not know the order. -/
  | notFound (details : String)
  /-- Credentials or signature are refused. -/
  | authentication (details : String)
  /-- The network fails. -/
  | transport (details : String)
  /-- The answer cannot be read. -/
  | decode (details : String)
  /-- Any other answer that is no success. -/
  | api (status : Nat) (code : Option Int) (details : String)
  deriving DecidableEq, Repr

namespace ExchangeError

/-- An exchange's own error code inside a message. -/
def codeText : Option Int → String
  | some code => "Some(" ++ toString code ++ ")"
  | none => "None"

def message : ExchangeError → String
  | .rateLimited _ details => "Rate limited by exchange: " ++ details
  | .rejected code details => "Rejected by exchange (" ++ codeText code ++ "): " ++ details
  | .notFound details => "Order not found on exchange: " ++ details
  | .authentication details => "Exchange authentication failed: " ++ details
  | .transport details => "Exchange transport error: " ++ details
  | .decode details => "Exchange response decode error: " ++ details
  | .api status code details =>
    "Exchange API error (HTTP " ++ toString status ++ ", code " ++ codeText code ++ "): " ++
      details

/-- Whether the call may be tried again after a while. -/
def isRateLimited : ExchangeError → Bool
  | .rateLimited .. => true
  | _ => false

/-- How long the exchange asks to wait. -/
def retryAfter : ExchangeError → Option Duration
  | .rateLimited hint _ => hint
  | _ => none

/-- The stable code of the kind of error. -/
def code : ExchangeError → String
  | .rateLimited .. => "RATE_LIMITED"
  | .rejected .. => "REJECTED"
  | .notFound .. => "NOT_FOUND"
  | .authentication .. => "AUTHENTICATION"
  | .transport .. => "TRANSPORT"
  | .decode .. => "DECODE"
  | .api .. => "API"

end ExchangeError

end SpotSettlement
