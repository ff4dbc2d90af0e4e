import SpotSettlement.Proofs.Engine.Cancelling
import SpotSettlement.Proofs.Engine.Placements
import SpotSettlement.Proofs.Settlement.Awaiting
import SpotSettlement.Proofs.Settlement.Closing

namespace SpotSettlement

/-! # What the exchange decides about new orders

A new order is rejected only if the exchange refuses it and then does not know it by the client id
that it was sent with, so an order that the exchange holds is never given up here.  If the exchange
shows the order, it is acknowledged with the names that are shown.  Otherwise it stays new, and when
it is submitted again the same is sent.
-/

open Activity

/-- The exchange refuses an order that is placed. -/
def Refuses (placed : Except ExchangeError ExchangeOrder) : Prop :=
  ∃ code details, placed = .error (.rejected code details)

/-- The exchange does not know an order that it is asked for. -/
def Misses (found : Except ExchangeError ExchangeOrder) : Prop :=
  ∃ details, found = .error (.notFound details)

/-- The exchange shows an order that it holds: when the order is placed, or, if it refuses that,
when it is asked for the order. -/
def Shows (placed found : Except ExchangeError ExchangeOrder) (remote : ExchangeOrder) : Prop :=
  placed = .ok remote ∨ Refuses placed ∧ found = .ok remote

section Answers

variable {placed found : Except ExchangeError ExchangeOrder} {remote other : ExchangeOrder}

theorem Shows.unique (shows : Shows placed found remote) (again : Shows placed found other) :
    other = remote := by
  obtain rfl | ⟨⟨code, details, rfl⟩, rfl⟩ := shows
  · obtain same | ⟨⟨_, _, refused⟩, -⟩ := again
    · exact (Except.ok.inj same).symm
    · contradiction
  · obtain shown | ⟨-, same⟩ := again
    · contradiction
    · exact (Except.ok.inj same).symm

theorem Shows.not_missed (shows : Shows placed found remote) :
    ¬(Refuses placed ∧ Misses found) := by
  rintro ⟨⟨code, details, rfl⟩, ⟨other, rfl⟩⟩
  obtain shown | ⟨-, shown⟩ := shows <;> contradiction

end Answers

/-- What has become of a new order, and of its submission, is what the exchange answered. -/
structure Order.Decided (order : Order) (now : Instant)
    (placed found : Except ExchangeError ExchangeOrder) (store after : Store)
    (answer : Except SettlementError Setup.SubmissionOutcome) (row : Order) : Prop where
  stored : after.order? order.id = some row
  rejected : row.status = .rejected ↔ Refuses placed ∧ Misses found
  closed : row.status = .rejected → row = { order with status := .rejected, updatedAt := now }
  acknowledged : row.status = .acknowledged ↔
    ∃ remote, Shows placed found remote ∧ Text.isBlank remote.exchangeOrderId = false
  named : ∀ remote, Shows placed found remote → Text.isBlank remote.exchangeOrderId = false →
    row = order.acknowledgedWith order.exchange remote.exchangeOrderId remote.clientOrderId now
  failed : row.status ≠ .rejected → row.status ≠ .acknowledged →
    order.status = .new ∧ after = store ∧ row = order ∧ ∃ cause, answer = .error cause
  succeeded : row.status = .rejected ∨ row.status = .acknowledged →
    ∃ outcome, answer = .ok outcome

namespace Order.Decided

variable {order : Order} {now : Instant} {placed found : Except ExchangeError ExchangeOrder}
  {store after : Store} {outcome : Setup.SubmissionOutcome} {remote : ExchangeOrder}

theorem of_shown (shows : Shows placed found remote)
    (numbered : Text.isBlank remote.exchangeOrderId = false)
    (stored : after.order? order.id = some (order.acknowledgedWith order.exchange
      remote.exchangeOrderId remote.clientOrderId now)) :
    order.Decided now placed found store after (.ok outcome) (order.acknowledgedWith order.exchange
      remote.exchangeOrderId remote.clientOrderId now) where
  stored := stored
  rejected := iff_of_false nofun shows.not_missed
  closed := nofun
  acknowledged := iff_of_true rfl ⟨remote, shows, numbered⟩
  named other again _ := by rw [shows.unique again]
  failed _ other := absurd rfl other
  succeeded _ := ⟨outcome, rfl⟩

theorem of_missed (refuses : Refuses placed) (misses : Misses found)
    (stored : after.order? order.id =
      some { order with status := .rejected, updatedAt := now }) :
    order.Decided now placed found store after (.ok outcome)
      { order with status := .rejected, updatedAt := now } where
  stored := stored
  rejected := iff_of_true rfl ⟨refuses, misses⟩
  closed _ := rfl
  acknowledged := iff_of_false nofun fun ⟨_, shows, _⟩ => shows.not_missed ⟨refuses, misses⟩
  named _ shows _ := absurd ⟨refuses, misses⟩ shows.not_missed
  failed other _ := absurd rfl other
  succeeded _ := ⟨outcome, rfl⟩

theorem of_unclear {cause : SettlementError} (new : order.status = .new)
    (stored : store.order? order.id = some order) (known : ¬(Refuses placed ∧ Misses found))
    (unnumbered : ∀ remote, Shows placed found remote →
      Text.isBlank remote.exchangeOrderId = true) :
    order.Decided now placed found store store (.error cause) order where
  stored := stored
  rejected := iff_of_false (by rw [new]; nofun) known
  closed := by rw [new]; nofun
  acknowledged := by
    refine iff_of_false (by rw [new]; nofun) ?_
    rintro ⟨remote, shows, numbered⟩
    rw [unnumbered remote shows] at numbered
    contradiction
  named remote shows numbered := by
    rw [unnumbered remote shows] at numbered
    contradiction
  failed _ _ := ⟨new, rfl, rfl, cause, rfl⟩
  succeeded := by rw [new]; nofun

end Order.Decided

theorem Terms.findOrder_run {store : Store} {order : Order}
    (available : store.unitOutage = none) (stored : store.order? order.id = some order) :
    (Terms.findOrder order.id).run store = .ok (order, store) := by
  simp only [Terms.findOrder, Work.bind_ok, Work.start_ok, Store.existingOrder_ok]
  exact ⟨(), store, ⟨available, rfl⟩, stored, rfl⟩

namespace Setup

/-- What the exchange answers in the end when an order is placed. -/
def placing (setup : Setup) (talk : ExchangeTalk) : Except ExchangeError ExchangeOrder :=
  setup.finalReply talk ExchangeAnswer.order?

def talkAfterPlacing (setup : Setup) (order : Order) (talk : ExchangeTalk) : ExchangeTalk :=
  talk.asked (setup.timesAsked talk ExchangeAnswer.order?) (.placeOrder (.ofOrder order))

/-- What the exchange answers in the end when it is then asked for the order. -/
def finding (setup : Setup) (order : Order) (talk : ExchangeTalk) :
    Except ExchangeError ExchangeOrder :=
  setup.finalReply (setup.talkAfterPlacing order talk) ExchangeAnswer.order?

/-- The talk once the order has been submitted: it is asked for, by the same client id, only if the
exchange refuses it. -/
def talkAfterSubmission (setup : Setup) (order : Order) (talk : ExchangeTalk) : ExchangeTalk :=
  let placed := setup.talkAfterPlacing order talk
  match setup.placing talk with
  | .error (.rejected ..) => placed.asked (setup.timesAsked placed ExchangeAnswer.order?)
      (.queryOrder (PlaceOrderRequest.ofOrder order).lookup)
  | _ => placed

/-- The order is new, and settlement can move it either way. -/
structure Ready (setup : Setup) (now : Instant) (store : Store) (order : Order) : Prop where
  orderly : store.Orderly
  available : store.unitOutage = none
  member : order ∈ store.orders
  new : order.status = .new
  rejectable : ∀ reason, ∃ after, (setup.terms.rejectOrder order.id reason now).run store =
    .ok ({ order with status := .rejected, updatedAt := now }, after)

/-- The submission of an order ends as the exchange answered, or it is told to stop before it knows
the answers. -/
structure FollowsExchange (setup : Setup) (order : Order) (now : Instant) (engine : Engine)
    (result : Except Interruption (Except SettlementError SubmissionOutcome)) (after : Engine) :
    Prop where
  decided : ∀ answer, result = .ok answer →
    after.talk = setup.talkAfterSubmission order engine.talk ∧
      ∃ row, order.Decided now (setup.placing engine.talk) (setup.finding order engine.talk)
        engine.store after.store answer row
  stopped : ∀ stop, result = .error stop → engine.stopAt ≠ none ∧ after.store = engine.store

variable {setup : Setup} {engine : Engine} {order : Order} {now : Instant}

theorem Ready.stored (ready : setup.Ready now engine.store order) :
    engine.store.order? order.id = some order :=
  Store.order?_of_mem ready.orderly.unique ready.member

theorem Ready.replaced (ready : setup.Ready now engine.store order) {after : Store} {moved : Order}
    (same : moved.id = order.id)
    (orders : after.orders = Store.replaceOrder moved engine.store.orders) :
    after.order? order.id = some moved := by
  rw [← same]
  apply Store.order?_of_mem
  · rw [orders, Store.map_id_replaceOrder]
    exact ready.orderly.unique
  · rw [orders]
    exact Store.mem_replaceOrder_self ready.member same.symm

theorem FollowsExchange.of_decided {answer : Except SettlementError SubmissionOutcome} {row : Order}
    {after : Engine} (talk : after.talk = setup.talkAfterSubmission order engine.talk)
    (decided : order.Decided now (setup.placing engine.talk) (setup.finding order engine.talk)
      engine.store after.store answer row) :
    setup.FollowsExchange order now engine (.ok answer) after :=
  ⟨fun _ same => by cases same; exact ⟨talk, row, decided⟩, nofun⟩

/-- The engine once the exchange has answered in the end. -/
def answered (setup : Setup) (order : Order) (engine : Engine) (waited : Duration) : Engine :=
  { engine with talk := setup.talkAfterSubmission order engine.talk, waited }

theorem acknowledgeRemote_follows (ready : setup.Ready now engine.store order)
    {remote : ExchangeOrder}
    (shows : Shows (setup.placing engine.talk) (setup.finding order engine.talk) remote)
    (waited : Duration) :
    (setup.acknowledgeRemote order remote now).Ensures (setup.answered order engine waited)
      (setup.FollowsExchange order now engine) := by
  -- An acknowledgement without a number is refused, so then the order stays new.
  cases numbered : Text.isBlank remote.exchangeOrderId with
  | true =>
      obtain ⟨cause, refused⟩ := setup.terms.acknowledgeOrder_refuses ready.orderly
        ready.available ready.member numbered order.exchange remote.clientOrderId now
      refine ensures_bind (Engine.perform_ensures_refused refused ?_)
      exact .of_decided rfl (.of_unclear ready.new ready.stored shows.not_missed fun _ again =>
        shows.unique again ▸ numbered)
  | false =>
      obtain ⟨after, done, orders⟩ := setup.terms.acknowledgeOrder_accepts ready.orderly
        ready.available ready.member ready.new numbered order.exchange remote.clientOrderId now
      refine ensures_bind (Engine.perform_ensures_done (Store.perform_ok_iff.mpr done) ?_)
      exact .of_decided rfl (.of_shown shows numbered (ready.replaced rfl orders))

theorem rejectOrder_follows (ready : setup.Ready now engine.store order) (reason : String)
    (refuses : Refuses (setup.placing engine.talk))
    (misses : Misses (setup.finding order engine.talk)) (waited : Duration) :
    (do
      let rejected ← Engine.perform (setup.terms.rejectOrder order.id reason now)
      return rejected.map fun _ => .rejected reason :
        Activity (Except SettlementError SubmissionOutcome)).Ensures
      (setup.answered order engine waited) (setup.FollowsExchange order now engine) := by
  obtain ⟨after, done⟩ := ready.rejectable reason
  refine ensures_bind (Engine.perform_ensures_done (Store.perform_ok_iff.mpr done) ?_)
  obtain ⟨_, _, -, -, moves⟩ := Terms.rejectOrder_cases done
  exact .of_decided rfl (.of_missed refuses misses (ready.replaced rfl moves.orders))

/-- Where nothing is decided the submission fails, and the order stays as it is. -/
theorem failure_follows (ready : setup.Ready now engine.store order)
    (known : ¬(Refuses (setup.placing engine.talk) ∧ Misses (setup.finding order engine.talk)))
    (unshown : ∀ remote,
      ¬Shows (setup.placing engine.talk) (setup.finding order engine.talk) remote)
    (cause : SettlementError) (waited : Duration) :
    setup.FollowsExchange order now engine (.ok (.error cause))
      (setup.answered order engine waited) :=
  .of_decided rfl (.of_unclear ready.new ready.stored known fun remote shows =>
    absurd shows (unshown remote))

/-- An order that the exchange refuses is looked for before anything is decided. -/
theorem settleRefusal_follows (ready : setup.Ready now engine.store order) {code : Option Int}
    {details : String} (refused : setup.placing engine.talk = .error (.rejected code details))
    (waited : Duration) :
    (setup.settleRefusal order code details now).Ensures
      { engine with talk := setup.talkAfterPlacing order engine.talk, waited }
      (setup.FollowsExchange order now engine) := by
  have refuses : Refuses (setup.placing engine.talk) := ⟨code, details, refused⟩
  have ending : ∀ later, setup.answered order engine later = { engine with
      talk := (setup.talkAfterPlacing order engine.talk).asked
        (setup.timesAsked (setup.talkAfterPlacing order engine.talk) ExchangeAnswer.order?)
        (.queryOrder (PlaceOrderRequest.ofOrder order).lookup)
      waited := later } := by
    intro later
    rw [answered, talkAfterSubmission, refused]
  unfold settleRefusal findRemote
  refine ensures_bind (ensures_bind (ask_ensures ?_ ?_))
  · intro later
    dsimp only
    generalize came : setup.finalReply (setup.talkAfterPlacing order engine.talk)
      ExchangeAnswer.order? = answer
    have found : setup.finding order engine.talk = answer := came
    cases answer with
    | ok remote =>
        have follows := acknowledgeRemote_follows ready (.inr ⟨refuses, found⟩) later
        rw [ending] at follows
        exact follows
    | error error =>
        by_cases misses : Misses (setup.finding order engine.talk)
        · have follows := rejectOrder_follows ready (refusalText code details) refuses misses later
          obtain ⟨other, missed⟩ := misses
          obtain rfl := Except.error.inj (found.symm.trans missed)
          rw [ending] at follows
          exact follows
        · have unshown : ∀ remote,
              ¬Shows (setup.placing engine.talk) (setup.finding order engine.talk) remote := by
            rintro remote (shown | ⟨-, shown⟩)
            · exact absurd (refused.symm.trans shown) nofun
            · exact absurd (found.symm.trans shown) nofun
          have follows := failure_follows ready (fun missed => misses missed.2) unshown
            (.exchange error) later
          rw [ending] at follows
          cases error with
          | notFound details => exact absurd ⟨details, found⟩ misses
          | _ => exact follows
  · intro stop count later running
    exact ⟨nofun, fun _ _ => ⟨running, rfl⟩⟩

theorem submitOrder_skips (available : engine.store.unitOutage = none)
    (stored : engine.store.order? order.id = some order) (known : order.status ≠ .new) :
    (setup.submitOrder order.id now).Ensures engine fun result after =>
      result = .ok (.ok (.skipped order.status)) ∧ after = engine := by
  unfold submitOrder
  refine ensures_bind (Engine.perform_ensures_done
    (Store.perform_ok_iff.mpr (Terms.findOrder_run available stored)) ?_)
  simp only [known, ne_eq, not_false_eq_true, if_true]
  exact ⟨rfl, rfl⟩

theorem submitOrder_follows (ready : setup.Ready now engine.store order) :
    (setup.submitOrder order.id now).Ensures engine (setup.FollowsExchange order now engine) := by
  unfold submitOrder
  refine ensures_bind (Engine.perform_ensures_done
    (Store.perform_ok_iff.mpr (Terms.findOrder_run ready.available ready.stored)) ?_)
  simp only [ready.new, ne_eq, not_true, if_false]
  refine ensures_bind (ask_ensures ?_ ?_)
  · intro waited
    dsimp only
    generalize came : setup.finalReply engine.talk ExchangeAnswer.order? = answer
    have placed : setup.placing engine.talk = answer := came
    -- Only a refusal leads to a second question.
    by_cases refuses : Refuses (setup.placing engine.talk)
    · obtain ⟨code, details, refused⟩ := refuses
      obtain rfl := placed.symm.trans refused
      exact settleRefusal_follows ready refused waited
    · have ending : setup.answered order engine waited =
          { engine with talk := setup.talkAfterPlacing order engine.talk, waited } := by
        rw [answered, talkAfterSubmission]
        split
        · next code details refused => exact absurd ⟨code, details, refused⟩ refuses
        · rfl
      cases answer with
      | ok remote =>
          have follows := acknowledgeRemote_follows ready (.inl placed) waited
          rw [ending] at follows
          exact follows
      | error error =>
          have unshown : ∀ remote,
              ¬Shows (setup.placing engine.talk) (setup.finding order engine.talk) remote := by
            rintro remote (shown | ⟨refused, -⟩)
            · exact absurd (placed.symm.trans shown) nofun
            · exact refuses refused
          have follows := failure_follows ready (fun refused => refuses refused.1) unshown
            (.exchange error) waited
          rw [ending] at follows
          cases error with
          | rejected code details => exact absurd ⟨code, details, placed⟩ refuses
          | _ => exact follows
  · intro stop count waited running
    exact ⟨nofun, fun _ _ => ⟨running, rfl⟩⟩

theorem reached_ready {run : List Request} (nonneg : ∀ request ∈ run, request.Nonnegative)
    (exact : Decimal.Exact (({} : Store).arithmetic run))
    (member : order ∈ (Store.reached run).orders) (new : order.status = .new)
    (rejectExact : ∀ reason, Decimal.Exact ((Call.reject order.id reason).arithmetic setup.terms now
      (Store.reached run))) : setup.Ready now (Store.reached run) order := by
  have orderly := (Store.reached_reachable run).orderly
  obtain ⟨unfilled, positive⟩ := orderly.fresh order member new
  have announceExact := Order.announceArithmetic_unfilled unfilled positive
  exact ⟨orderly, Store.reached_available run, member, new, fun reason =>
    Store.reached_rejectOrder nonneg exact member new announceExact (rejectExact reason)⟩

/-- An order that is no longer new is not submitted again.  A new one is rejected if and only if the
exchange refuses it and then does not know it, and is acknowledged if and only if the exchange shows
it with a number; otherwise its submission fails and leaves it new.  However often one order is sent
to the exchange, it is sent by the same request. -/
theorem submission_follows_exchange (run : List Request)
    (nonneg : ∀ request ∈ run, request.Nonnegative)
    (exact : Decimal.Exact (({} : Store).arithmetic run))
    (member : order ∈ (Store.reached run).orders) (setup : Setup) (now : Instant) (engine : Engine)
    (stored : engine.store = Store.reached run)
    (rejectExact : ∀ reason, Decimal.Exact ((Call.reject order.id reason).arithmetic setup.terms now
      (Store.reached run))) :
    (order.status ≠ .new → (setup.submitOrder order.id now).Ensures engine fun result after =>
      result = .ok (.ok (.skipped order.status)) ∧ after = engine) ∧
    (order.status = .new →
      (setup.submitOrder order.id now).Ensures engine (setup.FollowsExchange order now engine)) ∧
    ∀ events, ∀ first ∈ engine.placements events, ∀ second ∈ engine.placements events,
      first.1 = second.1 → first.2 = second.2 := by
  have identified : engine.store.Identified :=
    stored ▸ Store.afterAll_identified Store.empty_identified run
  refine ⟨fun known => ?_, fun new => ?_, fun events first sent second again same => ?_⟩
  · refine submitOrder_skips ?_ ?_ known
    · rw [stored]
      exact Store.reached_available run
    · exact Store.order?_of_mem identified.orders (stored ▸ member)
  · refine submitOrder_follows ?_
    rw [stored]
    exact reached_ready nonneg exact member new rejectExact
  · exact engine.placements_unique identified events sent again same

end Setup

namespace Sample

/-- The sample order is placed here, and the exchange puts it off before it refuses it and does not
know it. -/
def refusing : Engine := { engine with
  store := Store.reached placed
  talk := { answers := [.failure (.rateLimited (some ⟨1⟩) "slow down"),
    .failure (.rejected (some (-2010)) "insufficient balance"), .failure (.notFound "unknown")] } }

/-- The order is submitted while the network fails, and then to the exchange that refuses it. -/
def resubmitted : List SubmissionEvent :=
  [.submit setup "o-1" start {} none, .submit setup "o-1" start refusing.talk none]

end Sample

namespace Setup

/-- The exchange refuses the sample order and does not know it, so the order is rejected.  It is
sent three times, by one request. -/
theorem sample_refused_order_is_rejected :
    ∃ order ∈ (Store.reached Sample.placed).orders, order.status = .new ∧
      Refuses (Sample.setup.placing Sample.refusing.talk) ∧
      Misses (Sample.setup.finding order Sample.refusing.talk) ∧
      (Sample.setup.submitOrder order.id Sample.start).Ensures Sample.refusing
        (Sample.setup.FollowsExchange order Sample.start Sample.refusing) ∧
      ∃ request, Sample.refusing.placements Sample.resubmitted =
        [("o-1", request), ("o-1", request), ("o-1", request)] := by
  have ready : ∃ order ∈ (Store.reached Sample.placed).orders, order.status = .new ∧
      Sample.setup.finding order Sample.refusing.talk = .error (.notFound "unknown") ∧
      Decimal.Exact ((Call.reject order.id "refused").arithmetic Sample.terms Sample.start
        (Store.reached Sample.placed)) := by decide +kernel
  have refused : Sample.setup.placing Sample.refusing.talk =
      .error (.rejected (some (-2010)) "insufficient balance") := by decide +kernel
  have nonneg : ∀ request ∈ Sample.placed, request.Nonnegative := by decide +kernel
  have exact : Decimal.Exact (({} : Store).arithmetic Sample.placed) := by decide +kernel
  have stored : Sample.refusing.store = Store.reached Sample.placed := by
    unfold Sample.refusing
    with_reducible rfl
  have named : (Sample.refusing.placements Sample.resubmitted).map (·.1) =
      ["o-1", "o-1", "o-1"] := by decide +kernel
  obtain ⟨order, member, new, missed, rejectExact⟩ := ready
  obtain ⟨-, follows, alike⟩ := submission_follows_exchange Sample.placed nonneg exact member
    Sample.setup Sample.start Sample.refusing stored fun _ => rejectExact
  refine ⟨order, member, new, ⟨_, _, refused⟩, ⟨_, missed⟩, follows new, ?_⟩
  have same := alike Sample.resubmitted
  generalize Sample.refusing.placements Sample.resubmitted = sent at named same
  obtain ⟨⟨_, first⟩, ⟨_, second⟩, ⟨_, third⟩, rfl⟩ :=
    List.length_eq_three.mp ((List.length_map _).symm.trans (congrArg List.length named))
  simp only [List.map_cons, List.map_nil, List.cons.injEq, and_true] at named
  obtain ⟨rfl, rfl, rfl⟩ := named
  obtain rfl : first = second := same ("o-1", first) (by simp) ("o-1", second) (by simp) rfl
  obtain rfl : first = third := same ("o-1", first) (by simp) ("o-1", third) (by simp) rfl
  exact ⟨first, rfl⟩

end Setup

end SpotSettlement
