import SpotSettlement.Digest.Sha256
import SpotSettlement.Exchange.Fault
import SpotSettlement.Exchange.Order
import SpotSettlement.Text.PercentEncoding

namespace SpotSettlement

/-! # Requests to an exchange

A request is a method, an address and a query.  Requests about the account are signed: the query
ends with the time and with the digest, under the secret of the account, of all that stands before
it.
-/

inductive RequestMethod where
  | get
  | post
  | put
  | delete
  deriving DecidableEq, Repr, Inhabited

structure ExchangeRequest where
  method : RequestMethod
  address : String
  query : Option String
  apiKey : String
  deriving DecidableEq, Repr, Inhabited

/-- What requests are made with: the credentials, the address of the exchange, and how long a signed
request stays valid.  The address is a URL of a scheme, a host and perhaps a port or a path, with no
query of its own: then an address with a path after it is a URL as well, and no request is refused
for it (`ExchangeFault.address`). -/
structure ExchangeClient where
  apiKey : String
  secret : String
  address : String
  validity : Duration
  deriving DecidableEq, Repr, Inhabited

/-- The lower-case hexadecimal signature of a payload under a secret. -/
def signature (secret : String) (payload : List Char) : String :=
  Text.hexText (Hmac.sha256 (Text.utf8 secret.toList) (Text.utf8 payload))

/-- Signs a payload; there must be a secret. -/
def sign (secret payload : String) : Except ExchangeFault String :=
  if secret.isEmpty then .error .missingCredentials
  else .ok (signature secret payload.toList)

/-- A text without the slashes at its end. -/
def withoutSlashes (address : String) : String :=
  String.ofList (address.toList.reverse.dropWhile (· == '/')).reverse

namespace ExchangeClient

/-- A client for an address; both credentials must be there. -/
def create (apiKey secret address : String) (validity : Duration) :
    Except ExchangeFault ExchangeClient :=
  if apiKey.isEmpty ∨ secret.isEmpty then .error .missingCredentials
  else .ok { apiKey, secret, address := withoutSlashes address, validity }

/-- The parameters that end every signed request, before the signature. -/
def closing (client : ExchangeClient) (now : Instant) : List (String × String) :=
  [("recvWindow", toString client.validity.toMillis), ("timestamp", toString now.toMillis)]

def payload (client : ExchangeClient) (parameters : List (String × String)) (now : Instant) :
    List Char :=
  Text.Form.query (parameters ++ client.closing now)

def signedQuery (client : ExchangeClient) (parameters : List (String × String)) (now : Instant) :
    String :=
  let payload := client.payload parameters now
  String.ofList (payload ++ '&' :: Text.Form.pair "signature" (signature client.secret payload))

def signed (client : ExchangeClient) (method : RequestMethod) (path : String)
    (parameters : List (String × String)) (now : Instant) : ExchangeRequest where
  method := method
  address := client.address ++ path
  query := some (client.signedQuery parameters now)
  apiKey := client.apiKey

/-- A request that is authenticated by the key alone. -/
def keyed (client : ExchangeClient) (method : RequestMethod) (path : String)
    (parameters : List (String × String)) : ExchangeRequest where
  method := method
  address := client.address ++ path
  query := if parameters.isEmpty then none else some (String.ofList (Text.Form.query parameters))
  apiKey := client.apiKey

end ExchangeClient

def PlaceOrderRequest.parameters (request : PlaceOrderRequest) : List (String × String) :=
  [("symbol", request.instrument), ("side", Coded.code request.side),
    ("type", Coded.code request.orderType), ("quantity", request.quantity.normalize.text),
    ("newClientOrderId", request.clientOrderId), ("newOrderRespType", "RESULT")] ++
  match request.orderType with
  | .limit =>
    ("timeInForce", "GTC") ::
      match request.limitPrice with
      | some price => [("price", price.normalize.text)]
      | none => []
  | .market => []

/-- The parameters that name an order: by the exchange's id, else by the client id. -/
def OrderLookup.parameters (lookup : OrderLookup) :
    Except ExchangeError (List (String × String)) :=
  match lookup.exchangeOrderId, lookup.clientOrderId with
  | some id, _ => .ok [("symbol", lookup.instrument), ("orderId", id)]
  | none, some id => .ok [("symbol", lookup.instrument), ("origClientOrderId", id)]
  | none, none =>
    .error (.rejected none "order lookup needs an exchange or client order id")

def tradesPerRequest : Nat := 1000

/-- The signed request that puts a question to the exchange. -/
def ExchangeClient.request (client : ExchangeClient) (call : ExchangeCall) (now : Instant) :
    Except ExchangeError ExchangeRequest :=
  let order := "/api/v3/order"
  match call with
  | .placeOrder request => .ok (client.signed .post order request.parameters now)
  | .cancelOrder lookup => do return client.signed .delete order (← lookup.parameters) now
  | .queryOrder lookup => do return client.signed .get order (← lookup.parameters) now
  | .openOrders => .ok (client.signed .get "/api/v3/openOrders" [] now)
  | .recentTrades instrument since =>
    .ok (client.signed .get "/api/v3/myTrades" [("symbol", instrument),
      ("startTime", toString since.toMillis), ("limit", toString tradesPerRequest)] now)

end SpotSettlement
