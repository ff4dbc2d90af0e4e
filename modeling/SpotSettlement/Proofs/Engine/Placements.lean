import SpotSettlement.Proofs.Engine.Submission

namespace SpotSettlement

/-! # The requests that place an order

An order may be submitted again and again, and much may be done to it in between.  Whenever it is
sent to the exchange it is sent by the same request, and so under the same client id.
-/

open Activity

/-- The lookup of an order by the client id of the request that placed it. -/
def PlaceOrderRequest.lookup (request : PlaceOrderRequest) : OrderLookup :=
  ⟨request.instrument, none, some request.clientOrderId⟩

namespace Setup

variable {setup : Setup} {engine : Engine} {order : Order} {now : Instant}

theorem perform_keepsTalk {α : Type} (work : Work α) :
    (Engine.perform work).Ensures engine fun _ after => after.talk = engine.talk :=
  Engine.perform_ensures (fun _ _ _ => rfl) (fun _ _ => rfl) fun _ _ => rfl

theorem acknowledgeRemote_keepsTalk (order : Order) (remote : ExchangeOrder) :
    (setup.acknowledgeRemote order remote now).Ensures engine
      fun _ after => after.talk = engine.talk :=
  ensures_bind ((perform_keepsTalk _).mono fun result _ same => by cases result <;> exact same)

theorem findRemote_asks (order : Order) :
    (setup.findRemote order).Ensures engine fun _ after => ∃ count, after.talk =
      engine.talk.asked count (.queryOrder (PlaceOrderRequest.ofOrder order).lookup) := by
  unfold findRemote
  refine ensures_bind ((setup.ask_asks _ _).mono ?_)
  intro result middle asked
  cases result with
  | error stop => exact asked
  | ok answer =>
      dsimp only
      split <;> exact asked

theorem settleRefusal_asks (order : Order) (code : Option Int) (details : String) :
    (setup.settleRefusal order code details now).Ensures engine fun _ after => ∃ count, after.talk =
      engine.talk.asked count (.queryOrder (PlaceOrderRequest.ofOrder order).lookup) := by
  unfold settleRefusal
  refine ensures_bind ((setup.findRemote_asks order).mono ?_)
  rintro result middle ⟨count, asked⟩
  have kept : ∀ after : Engine, after.talk = middle.talk → ∃ count, after.talk =
      engine.talk.asked count (.queryOrder (PlaceOrderRequest.ofOrder order).lookup) :=
    fun _ same => ⟨count, same.trans asked⟩
  match result with
  | .error stop => exact kept middle rfl
  | .ok (.error error) => exact kept middle rfl
  | .ok (.ok (some remote)) =>
      exact (setup.acknowledgeRemote_keepsTalk order remote).mono fun _ after => kept after
  | .ok (.ok none) =>
      refine ensures_bind ((perform_keepsTalk _).mono fun result after same => ?_)
      cases result <;> exact kept after same

/-- The exchange is asked nothing but to place the order, and then for the order by the same client
id, each however often. -/
def AsksFor (orderId : String) (store : Store) (talk after : ExchangeTalk) : Prop :=
  after = talk ∨ ∃ order ∈ store.orders, order.id = orderId ∧ ∃ count more,
    after = (talk.asked count (.placeOrder (.ofOrder order))).asked more
      (.queryOrder (PlaceOrderRequest.ofOrder order).lookup)

theorem submitOrder_asks (orderId : String) :
    (setup.submitOrder orderId now).Ensures engine fun _ after =>
      AsksFor orderId engine.store engine.talk after.talk := by
  unfold submitOrder
  refine ensures_bind (Engine.perform_ensures ?_ ?_ ?_)
  · intro order after done
    have looked := Store.perform_ok_iff.mp done
    simp only [Terms.findOrder, Work.bind_ok, Work.start_ok, Store.existingOrder_ok] at looked
    obtain ⟨_, _, ⟨-, rfl⟩, found, rfl⟩ := looked
    obtain ⟨member, named⟩ := Store.order?_some found
    by_cases new : order.status = .new
    · simp only [new, ne_eq, not_true, if_false]
      refine ensures_bind ((setup.ask_asks _ _).mono ?_)
      rintro result middle ⟨count, asked⟩
      have looks : ∀ {after : Engine} more, after.talk = middle.talk.asked more
          (.queryOrder (PlaceOrderRequest.ofOrder order).lookup) →
          AsksFor orderId engine.store engine.talk after.talk :=
        fun more again => .inr ⟨order, member, named, count, more, by rw [again, asked]⟩
      have kept : ∀ {after : Engine}, after.talk = middle.talk →
          AsksFor orderId engine.store engine.talk after.talk :=
        fun same => looks 0 (by rw [ExchangeTalk.asked_zero, same])
      cases result with
      | error stop => exact kept rfl
      | ok answer =>
          -- Whatever was answered, only a refusal is followed by another question.
          dsimp only
          split
          · exact (setup.acknowledgeRemote_keepsTalk order _).mono fun _ _ => kept
          · refine (setup.settleRefusal_asks order _ _).mono ?_
            rintro _ _ ⟨more, again⟩
            exact looks more again
          · exact kept rfl
    · simp only [ne_eq, new, not_false_eq_true, if_true]
      exact .inl rfl
  · exact fun _ _ => .inl rfl
  · exact fun _ _ => .inl rfl

end Setup

/-- The request to place an order that a question makes. -/
def ExchangeCall.placement? : ExchangeCall → Option PlaceOrderRequest
  | .placeOrder request => some request
  | _ => none

/-- The request is what places the order of this identifier. -/
def Store.Places (store : Store) (placement : String × PlaceOrderRequest) : Prop :=
  ∃ order ∈ store.orders, order.id = placement.1 ∧ .ofOrder order = placement.2

theorem Order.LeadsTo.placement {order later : Order} (leads : order.LeadsTo later) :
    PlaceOrderRequest.ofOrder later = .ofOrder order := by
  rw [leads.kept]
  rfl

namespace Store.Places

variable {store : Store} {placement other : String × PlaceOrderRequest}

theorem afterAll (places : store.Places placement) (identified : store.Identified)
    (run : List Request) : (store.afterAll run).Places placement := by
  obtain ⟨order, member, named, same⟩ := places
  obtain ⟨later, present, leads⟩ := afterAll_leadsTo run identified member
  exact ⟨later, present, leads.id.trans named, leads.placement.trans same⟩

theorem unique (places : store.Places placement) (again : store.Places other)
    (identified : store.Identified) (same : placement.1 = other.1) : placement.2 = other.2 := by
  obtain ⟨order, member, named, request⟩ := places
  obtain ⟨second, present, renamed, rerequest⟩ := again
  have one : order = second := List.inj_on_of_nodup_map identified.orders member present
    (named.trans (same.trans renamed.symm))
  rw [← request, ← rerequest, one]

end Store.Places

/-- What happens to orders one after the other: a request to settlement, or a submission, with the
talk that is to come of it and the time at which it is told to stop. -/
inductive SubmissionEvent where
  | between (request : Request)
  | submit (setup : Setup) (orderId : String) (now : Instant) (talk : ExchangeTalk)
    (stopAt : Option Duration)

namespace SubmissionEvent

variable {engine : Engine}

/-- The engine with another talk, in which nothing has been asked yet. -/
def hearing (engine : Engine) (talk : ExchangeTalk) (stopAt : Option Duration) : Engine :=
  { engine with talk := { talk with calls := [] }, stopAt }

def apply : SubmissionEvent → Engine → Engine
  | .between request, engine => { engine with store := request.apply engine.store }
  | .submit setup orderId now talk stopAt, engine =>
    ((setup.submitOrder orderId now).run.run (hearing engine talk stopAt)).2

/-- The requests that the exchange hears, with the identifiers of the orders that are submitted. -/
def placements : SubmissionEvent → Engine → List (String × PlaceOrderRequest)
  | .between _, _ => []
  | .submit setup orderId now talk stopAt, engine =>
    ((SubmissionEvent.submit setup orderId now talk stopAt).apply engine).talk.calls.filterMap
      fun call => call.placement?.map (orderId, ·)

theorem apply_store (event : SubmissionEvent) (engine : Engine) :
    ∃ run, (event.apply engine).store = engine.store.afterAll run := by
  cases event with
  | between request => exact ⟨[request], rfl⟩
  | submit setup orderId now talk stopAt =>
      have submits : (setup.submitOrder orderId now).Ensures (hearing engine talk stopAt) _ :=
        setup.submitOrder_submits orderId
      obtain ⟨⟨-, calls, settled⟩, -⟩ := submits
      exact ⟨_, settled⟩

theorem placements_places (event : SubmissionEvent) {placement : String × PlaceOrderRequest}
    (sent : placement ∈ event.placements engine) : engine.store.Places placement := by
  cases event with
  | between request => contradiction
  | submit setup orderId now talk stopAt =>
      obtain ⟨call, heard, made⟩ := List.mem_filterMap.mp sent
      obtain ⟨request, placed, rfl⟩ := Option.map_eq_some_iff.mp made
      have asks : (setup.submitOrder orderId now).Ensures (hearing engine talk stopAt) _ :=
        setup.submitOrder_asks orderId
      obtain silent | ⟨order, member, named, count, more, asked⟩ := asks
      · rw [apply, silent] at heard
        contradiction
      · rw [apply, asked] at heard
        change call ∈ [] ++ List.replicate count _ ++ List.replicate more _ at heard
        rw [List.nil_append, List.mem_append, List.mem_replicate, List.mem_replicate] at heard
        obtain ⟨-, rfl⟩ | ⟨-, rfl⟩ := heard
        · exact ⟨order, member, named, Option.some.inj placed⟩
        · contradiction

end SubmissionEvent

namespace Engine

variable {engine : Engine}

def placements (engine : Engine) : List SubmissionEvent → List (String × PlaceOrderRequest)
  | [] => []
  | event :: rest => event.placements engine ++ (event.apply engine).placements rest

theorem placements_places (identified : engine.store.Identified)
    (events : List SubmissionEvent) : ∃ run, ∀ placement ∈ engine.placements events,
      (engine.store.afterAll run).Places placement := by
  induction events generalizing engine with
  | nil => exact ⟨[], List.forall_mem_nil _⟩
  | cons event rest ih =>
      obtain ⟨first, applied⟩ := event.apply_store engine
      have later : (event.apply engine).store.Identified :=
        applied ▸ Store.afterAll_identified identified first
      obtain ⟨run, places⟩ := ih later
      -- What was sent first still belongs to its order when the rest has happened.
      refine ⟨first ++ run, ?_⟩
      rw [Store.afterAll_append, ← applied]
      intro placement sent
      obtain sent | later := List.mem_append.mp sent
      · rw [applied, ← Store.afterAll_append]
        exact (event.placements_places sent).afterAll identified _
      · exact places placement later

theorem placements_unique (identified : engine.store.Identified)
    (events : List SubmissionEvent) {first second : String × PlaceOrderRequest}
    (sent : first ∈ engine.placements events) (again : second ∈ engine.placements events)
    (same : first.1 = second.1) : first.2 = second.2 := by
  obtain ⟨run, places⟩ := placements_places identified events
  exact (places first sent).unique (places second again)
    (Store.afterAll_identified identified run) same

end Engine

end SpotSettlement
