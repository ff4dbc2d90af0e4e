import SpotSettlement.Exchange.Client
import SpotSettlement.Exchange.Response
import SpotSettlement.Stream.Event

namespace SpotSettlement

/-! # Calls over the network

A call sends a request and reads what comes back.  The stream of an account is opened with a key
that is asked for first, kept alive while the session lasts, and given back in the end.
-/

/-- The network between us and the exchange: whether it lets anything through, what will come back,
and what has arrived there. -/
structure Network where
  isOpen : Bool
  replies : List Reply := []
  arrived : List ExchangeRequest := []
  deriving Inhabited

namespace Network

def unreachable : Network := { isOpen := false }

/-- Sends a request.  A request that no reply is prepared for is answered with an empty object. -/
def send (network : Network) (request : ExchangeRequest) : Reply × Network :=
  if network.isOpen then
    (network.replies.head?.getD (.answered 200 none "\x7b\x7d"),
      { network with
        replies := network.replies.drop 1
        arrived := network.arrived ++ [request] })
  else (.lost "network is unreachable", network)

end Network

namespace ExchangeClient

/-- Reads a reply as the answer to a question. -/
def read (call : ExchangeCall) (reply : Reply) (now : Instant) :
    Except ExchangeFault ExchangeAnswer := do
  match call with
  | .placeOrder _ | .cancelOrder _ | .queryOrder _ => return .order (← reply.order now)
  | .openOrders => return .orders (← reply.orders now)
  | .recentTrades .. => return .trades (← reply.trades)

def ask (client : ExchangeClient) (call : ExchangeCall) (now : Instant) (network : Network) :
    Except ExchangeError ExchangeAnswer × Network :=
  match client.request call now with
  | .error error => (.error error, network)
  | .ok request =>
    let (reply, network) := network.send request
    ((read call reply now).mapError ExchangeFault.toError, network)

/-- The path under which the key of the stream is handled. -/
def streamPath : String := "/api/v3/userDataStream"

/-- Asks for the key of a new session. -/
def openStream (client : ExchangeClient) (network : Network) :
    Except StreamError String × Network :=
  let (reply, network) := network.send (client.keyed .post streamPath [])
  (reply.listenKey.mapError fun fault =>
    .connect ("listen key request failed: " ++ fault.message), network)

/-- Keeps the key of a session alive. -/
def keepStream (client : ExchangeClient) (key : String) (network : Network) :
    Except StreamError Unit × Network :=
  let (reply, network) := network.send (client.keyed .put streamPath [("listenKey", key)])
  (reply.accept.mapError fun fault =>
    .transport ("listen key keepalive failed: " ++ fault.message), network)

/-- Gives the key of a session back. -/
def closeStream (client : ExchangeClient) (key : String) (network : Network) :
    Except StreamError Unit × Network :=
  let (reply, network) := network.send (client.keyed .delete streamPath [("listenKey", key)])
  (reply.accept.mapError fun fault =>
    .close ("listen key release failed: " ++ fault.message), network)

end ExchangeClient

end SpotSettlement
