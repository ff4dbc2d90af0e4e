namespace SpotSettlement

/-! # Broker errors

Why the message broker fails, and how that is worded.
-/

inductive BrokerError where
  /-- The broker cannot be reached. -/
  | connection (details : String)
  /-- The broker refuses the command. -/
  | command (details : String)
  /-- A message has no readable body. -/
  | malformed (details : String)
  deriving DecidableEq, Repr

def BrokerError.message : BrokerError → String
  | .connection details => "Broker connection error: " ++ details
  | .command details => "Broker command failed: " ++ details
  | .malformed details => "Broker message malformed: " ++ details

end SpotSettlement
