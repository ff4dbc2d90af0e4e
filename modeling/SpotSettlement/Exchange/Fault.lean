import SpotSettlement.Exchange.Error

namespace SpotSettlement

/-! # What goes wrong with a request

The client of an exchange knows its faults in more detail than those who call the exchange: it sees
the status and the code of an answer, and classifies them.
-/

inductive ExchangeFault where
  | missingCredentials
  /-- The request could not be signed. -/
  | signature (details : String)
  /-- The address makes no sense. -/
  | address (details : String)
  /-- The network fails. -/
  | network (details : String)
  /-- The answer cannot be read. -/
  | unreadable (details : String)
  /-- Too many requests. -/
  | rateLimited (status : Nat) (retryAfter : Option Duration) (details : String)
  /-- Any other answer that is no success. -/
  | refused (status : Nat) (code : Option Int) (details : String)
  deriving DecidableEq, Repr

namespace ExchangeFault

def message : ExchangeFault → String
  | .missingCredentials => "Binance credentials missing"
  | .signature details => "Signing failed: " ++ details
  | .address details => "Invalid URL: " ++ details
  | .network details => "HTTP error: " ++ details
  | .unreadable details => "JSON parsing error: " ++ details
  | .rateLimited status _ details =>
    "Rate limited (HTTP " ++ toString status ++ "): " ++ details
  | .refused status code details =>
    "API error (HTTP " ++ toString status ++ ", code " ++ ExchangeError.codeText code ++ "): " ++
      details

def occursIn (sought : List Char) : List Char → Bool
  | [] => sought.isEmpty
  | c :: rest => sought.isPrefixOf (c :: rest) || occursIn sought rest

/-- The codes that complain about too many requests or orders. -/
def busyCodes : List Int := [-1003, -1015]

/-- The codes that complain about the signature or the key. -/
def credentialCodes : List Int := [-1022, -2014, -2015]

/-- Whether a code says that there is no such order.  A refused cancellation says so in words. -/
def saysNoOrder (code : Int) (details : String) : Bool :=
  code == -2013 || (code == -2011 && occursIn "Unknown order".toList details.toList)

/-- What an answer that is no success means: its code counts first, then its status. -/
def classify (status : Nat) (code : Option Int) (details : String) : ExchangeError :=
  let known := code.getD 0
  if busyCodes.contains known then .rateLimited none details
  else if credentialCodes.contains known then .authentication details
  else if saysNoOrder known details then .notFound details
  else if status = 401 then .authentication details
  else if status = 400 then .rejected code details
  else .api status code details

/-- The fault as those see it who call the exchange. -/
def toError : ExchangeFault → ExchangeError
  | .missingCredentials => .authentication missingCredentials.message
  | .signature details | .address details | .network details => .transport details
  | .unreadable details => .decode details
  | .rateLimited _ retryAfter details => .rateLimited retryAfter details
  | .refused status code details => classify status code details

end ExchangeFault

end SpotSettlement
