import SpotSettlement.Text.Uppercase

namespace SpotSettlement

/-! # Deployments

An exchange runs twice: once with simulated funds and once with real ones.
-/

/-- Which of its two markets an exchange is reached on. -/
inductive Deployment where
  /-- Simulated funds. -/
  | testnet
  /-- Real funds. -/
  | production
  deriving DecidableEq, Repr, Inhabited

namespace Deployment

def text : Deployment → String
  | .testnet => "TESTNET"
  | .production => "PRODUCTION"

def restUrl : Deployment → String
  | .testnet => "https://testnet.binance.vision"
  | .production => "https://api.binance.com"

def streamUrl : Deployment → String
  | .testnet => "wss://stream.testnet.binance.vision/ws"
  | .production => "wss://stream.binance.com:9443/ws"

/-- Whether orders move real funds. -/
def isProduction : Deployment → Bool
  | .testnet => false
  | .production => true

/-- Reads the name of a deployment in any case.  Other names are reported in lower case. -/
def parse (name : String) : Except String Deployment :=
  let name := Text.asciiLower name
  if name = "testnet" then .ok .testnet
  else if name = "production" ∨ name = "live" then .ok .production
  else .error ("unknown binance environment: " ++ name)

end Deployment

end SpotSettlement
