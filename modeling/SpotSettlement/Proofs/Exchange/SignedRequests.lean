import SpotSettlement.Exchange.Client
import SpotSettlement.Proofs.Decimal.Text
import SpotSettlement.Proofs.Settlement.Identities
import SpotSettlement.Proofs.Text.FormFields

namespace SpotSettlement

/-! # What the exchange is sent

The query of a signed request is read back as the parameters, the closing ones and the signature, in
this order, whatever characters they hold.  There is one place in it where a signature begins, and
what is signed is all that stands before it.  An order is placed with what it asks for: its names as
they are, and its amounts by value.
-/

open Text

/-- The text writes an amount of the same value. -/
def Decimal.WrittenAs (amount : Decimal) (text : String) : Prop :=
  ∃ read, Decimal.ofText? text = some read ∧ read.value = amount.value

theorem Decimal.value_readBack (d : Decimal) : d.readBack.value = d.value := by
  by_cases zero : d.mantissa = 0
  · have readZero : d.readBack.mantissa = 0 := zero
    rw [value_eq_zero_iff.mpr zero, value_eq_zero_iff.mpr readZero]
  · have sign : (d.negative && d.mantissa != 0) = d.negative := by simp [zero]
    rw [readBack, sign]

theorem Decimal.writtenAs_text (d : Decimal) : d.WrittenAs d.normalize.text :=
  ⟨_, Decimal.ofText?_text _, by rw [value_readBack, value_normalize]⟩

theorem signature_plain (secret : String) (payload : List Char) :
    ∀ c ∈ (signature secret payload).toList, Form.isPlain c = true := by
  intro c member
  rw [signature, hexText, String.toList_ofList] at member
  obtain ⟨byte, -, digit⟩ := List.mem_flatMap.mp member
  have small : byte.toNat < 256 := byte.toNat_lt
  simp only [List.mem_cons, List.not_mem_nil, or_false] at digit
  obtain rfl | rfl := digit
  · exact Form.isPlain_of_lowerHexDigit _ (by omega)
  · exact Form.isPlain_of_lowerHexDigit _ (by omega)

namespace ExchangeClient

variable {client : ExchangeClient} {parameters : List (String × String)} {now : Instant}

theorem closed_ne_nil (client : ExchangeClient) (parameters : List (String × String))
    (now : Instant) : parameters ++ client.closing now ≠ [] :=
  List.append_ne_nil_of_right_ne_nil _ (List.cons_ne_nil _ _)

theorem signedQuery_toList (client : ExchangeClient) (parameters : List (String × String))
    (now : Instant) : (client.signedQuery parameters now).toList =
      Form.query (parameters ++ client.closing now ++
        [("signature", signature client.secret (client.payload parameters now))]) := by
  rw [signedQuery, String.toList_ofList, Form.query_concat (client.closed_ne_nil parameters now)]
  rfl

/-- The signature is written as it is, behind all that is signed. -/
theorem signedQuery_split (client : ExchangeClient) (parameters : List (String × String))
    (now : Instant) : (client.signedQuery parameters now).toList =
      client.payload parameters now ++ "&signature=".toList ++
        (signature client.secret (client.payload parameters now)).toList := by
  have name : "&signature=".toList = '&' :: Form.encode "signature" ++ ['='] := by decide
  rw [signedQuery, String.toList_ofList, Form.pair, Form.encode_of_plain (signature_plain _ _),
    name]
  simp

theorem pairs?_signedQuery (client : ExchangeClient) (parameters : List (String × String))
    (now : Instant) : Form.pairs? (client.signedQuery parameters now).toList =
      some (parameters ++ client.closing now ++
        [("signature", signature client.secret (client.payload parameters now))]) := by
  rw [signedQuery_toList]
  exact Form.pairs?_query (List.append_ne_nil_of_right_ne_nil _ (List.cons_ne_nil _ _))

/-- If no parameter is named so, there is one place where the signature begins. -/
theorem signedQuery_cut {before after : List Char}
    (unsigned : ∀ parameter ∈ parameters, parameter.1 ≠ "signature")
    (cuts : (client.signedQuery parameters now).toList =
      before ++ "&signature=".toList ++ after) :
    before = client.payload parameters now ∧
      after = (signature client.secret (client.payload parameters now)).toList := by
  have mark : "&signature=".toList = '&' :: (Form.encode "signature" ++ ['=']) := by decide
  have places : Form.query (parameters ++ client.closing now ++
      [("signature", signature client.secret (client.payload parameters now))]) =
        before ++ '&' :: (Form.encode "signature" ++ '=' :: after) := by
    rw [← signedQuery_toList, cuts, mark]
    simp
  have apart : ∀ pair ∈ parameters ++ client.closing now, pair.1 ≠ "signature" := by
    refine List.forall_mem_append.mpr ⟨unsigned, ?_⟩
    simp [closing]
  obtain ⟨rfl, rfl⟩ := Form.query_cut_last apart places
  exact ⟨rfl, Form.encode_of_plain (signature_plain _ _)⟩

end ExchangeClient

theorem PlaceOrderRequest.parameters_unsigned (request : PlaceOrderRequest) :
    ∀ parameter ∈ request.parameters, parameter.1 ≠ "signature" := by
  unfold parameters
  cases request.orderType <;> cases request.limitPrice <;> simp

theorem Store.reached_priced (run : List Request) : ∀ order ∈ (reached run).orders,
    (order.limitPrice = none ↔ order.orderType = .market) := by
  refine reached_forall_orders (fun created => (Order.create_ok created).2.2.2.2.2) ?_ run
  intro order moved becomes priced
  rw [becomes.advances.kept]
  exact priced

/-- An order tells its time limit and its price exactly if it has a limit. -/
theorem PlaceOrderRequest.parameters_ofOrder {order : Order}
    (priced : order.limitPrice = none ↔ order.orderType = .market) :
    ∃ limit, (ofOrder order).parameters =
      [("symbol", order.instrument), ("side", Coded.code order.side),
        ("type", Coded.code order.orderType), ("quantity", order.quantity.normalize.text),
        ("newClientOrderId", order.outboundClientOrderId), ("newOrderRespType", "RESULT")] ++
      limit ∧
      (order.orderType = .market ∧ limit = [] ∨
        order.orderType = .limit ∧ ∃ amount price, order.limitPrice = some amount ∧
          amount.WrittenAs price ∧ limit = [("timeInForce", "GTC"), ("price", price)]) := by
  refine ⟨_, rfl, ?_⟩
  cases type : order.orderType with
  | market => exact .inl ⟨rfl, by simp [ofOrder, type]⟩
  | limit =>
      cases price : order.limitPrice with
      | none => cases type.symm.trans (priced.mp price)
      | some amount =>
          exact .inr ⟨rfl, amount, _, rfl, amount.writtenAs_text, by simp [ofOrder, type, price]⟩

/-- The request that places a stored order has a query that is read back as what the order asks for,
the time limit and price of an order with a limit, the closing parameters and the signature, and
nothing else.  The signature is the digest, under the secret of the account, of everything before
the one place where it begins. -/
theorem order_is_placed_as_it_stands {run : List Request} {order : Order}
    (member : order ∈ (Store.reached run).orders) (client : ExchangeClient) (now : Instant) :
    ∃ request query quantity limit digest,
      client.request (.placeOrder (.ofOrder order)) now = .ok request ∧
      request.query = some query ∧
      Form.pairs? query.toList = some (
        [("symbol", order.instrument), ("side", Coded.code order.side),
          ("type", Coded.code order.orderType), ("quantity", quantity),
          ("newClientOrderId", order.outboundClientOrderId), ("newOrderRespType", "RESULT")] ++
        limit ++
        [("recvWindow", toString client.validity.toMillis), ("timestamp", toString now.toMillis),
          ("signature", digest)]) ∧
      order.quantity.WrittenAs quantity ∧
      (order.orderType = .market ∧ limit = [] ∨
        order.orderType = .limit ∧ ∃ amount price, order.limitPrice = some amount ∧
          amount.WrittenAs price ∧ limit = [("timeInForce", "GTC"), ("price", price)]) ∧
      ∃ unsigned, query.toList = unsigned ++ "&signature=".toList ++ digest.toList ∧
        digest = hexText (Hmac.sha256 (utf8 client.secret.toList) (utf8 unsigned)) ∧
        ∀ before after, query.toList = before ++ "&signature=".toList ++ after →
          before = unsigned ∧ after = digest.toList := by
  obtain ⟨limit, parameters, told⟩ :=
    PlaceOrderRequest.parameters_ofOrder (Store.reached_priced run order member)
  have unsigned := (PlaceOrderRequest.ofOrder order).parameters_unsigned
  refine ⟨_, _, _, limit, _, rfl, rfl, ?_, order.quantity.writtenAs_text, told, _, ?_, rfl,
    fun before after cuts => ExchangeClient.signedQuery_cut unsigned cuts⟩
  · rw [ExchangeClient.pairs?_signedQuery, parameters]
    simp only [List.append_assoc]
    rfl
  · exact client.signedQuery_split _ now

namespace Sample

/-- A client order id that looks like a parameter of its own. -/
def disguised : List Request :=
  [.seed "a-1" "USDT" (units 1000) start,
    .settle (.create { purchase with clientOrderId := some "c-1&price=1 %" }) terms start]

def client : ExchangeClient := ⟨"key", "secret", "https://api.binance.com", default⟩

end Sample

theorem sample_disguised_order_is_placed :
    ∃ order ∈ (Store.reached Sample.disguised).orders,
      order.outboundClientOrderId = "c-1&price=1 %" ∧
      ∃ request query pairs,
        Sample.client.request (.placeOrder (.ofOrder order)) Sample.start = .ok request ∧
        request.query = some query ∧ Form.pairs? query.toList = some pairs ∧
        pairs.map (·.1) = ["symbol", "side", "type", "quantity", "newClientOrderId",
          "newOrderRespType", "timeInForce", "price", "recvWindow", "timestamp", "signature"] ∧
        ("newClientOrderId", "c-1&price=1 %") ∈ pairs := by
  have placed : ∃ order ∈ (Store.reached Sample.disguised).orders,
      order.orderType = .limit ∧ order.outboundClientOrderId = "c-1&price=1 %" := by
    decide +kernel
  obtain ⟨order, member, type, told⟩ := placed
  obtain ⟨request, query, quantity, limit, digest, asked, sent, read, -, parts, -⟩ :=
    order_is_placed_as_it_stands member Sample.client Sample.start
  refine ⟨order, member, told, request, query, _, asked, sent, read, ?_, ?_⟩
  · obtain ⟨market, -⟩ | ⟨-, amount, price, -, -, rfl⟩ := parts
    · cases type.symm.trans market
    · rfl
  · simp [told]

end SpotSettlement
